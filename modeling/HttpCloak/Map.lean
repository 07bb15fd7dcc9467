import Mathlib.Data.List.Basic

/-!
# Go maps

A Go `map[K]V` as the list of its entries. Assignment replaces the entry of its key and
`delete` removes it, so a map built by these operations holds each key once; a map's
iteration order is any order of its entries, so a statement over every list covers every
order Go may choose.

`lookup_set` and `lookup_delete` say what a lookup sees after each operation.
-/

namespace HttpCloak

/-- A Go map: its entries. -/
abbrev GoMap (κ ν : Type) := List (κ × ν)

namespace GoMap

variable {κ ν : Type} [DecidableEq κ]

/-- `v, ok := m[k]`. -/
def lookup (m : GoMap κ ν) (k : κ) : Option ν := (m.find? (·.1 = k)).map (·.2)

/-- `m[k] = v`. -/
def set (m : GoMap κ ν) (k : κ) (v : ν) : GoMap κ ν := (k, v) :: m.filter (·.1 ≠ k)

/-- `delete(m, k)`. -/
def delete (m : GoMap κ ν) (k : κ) : GoMap κ ν := m.filter (·.1 ≠ k)

@[simp] theorem lookup_nil (k : κ) : lookup ([] : GoMap κ ν) k = none := rfl

theorem lookup_cons (k k' : κ) (v : ν) (m : GoMap κ ν) :
    lookup ((k, v) :: m) k' = if k = k' then some v else lookup m k' := by
  by_cases h : k = k' <;> simp [lookup, List.find?, h]

@[simp] theorem lookup_delete (m : GoMap κ ν) (k k' : κ) :
    lookup (delete m k) k' = if k = k' then none else lookup m k' := by
  simp only [lookup, delete, List.find?_filter]
  split
  · rename_i h
    subst h
    rw [List.find?_eq_none.2 fun x _ => by by_cases hx : x.1 = k <;> simp [hx]]
    rfl
  · rename_i h
    congr 2
    funext a
    by_cases ha : a.1 = k' <;> simp [ha, Ne.symm h]

@[simp] theorem lookup_set (m : GoMap κ ν) (k k' : κ) (v : ν) :
    lookup (set m k v) k' = if k = k' then some v else lookup m k' := by
  rw [set, lookup_cons, ← delete, lookup_delete]
  split <;> rfl

theorem mem_keys_iff (m : GoMap κ ν) (k : κ) : k ∈ m.map Prod.fst ↔ (lookup m k).isSome := by
  simp [lookup]

/-- `for k, v := range l { m[k] = v }` over a map `l`: each of its names gets its value, and
the others keep theirs. -/
theorem lookup_foldl_set (k : κ) : ∀ (l acc : GoMap κ ν), (l.map Prod.fst).Nodup →
    lookup (l.foldl (fun m e => set m e.1 e.2) acc) k = (lookup l k).or (lookup acc k)
  | [], _, _ => rfl
  | e :: l, acc, hnd => by
    rw [List.map_cons, List.nodup_cons] at hnd
    rw [List.foldl_cons, lookup_foldl_set k l _ hnd.2, lookup_set, lookup_cons]
    by_cases hk : e.1 = k
    · have hnone : lookup l k = none := by
        rw [lookup, Option.map_eq_none', List.find?_eq_none]
        exact fun x hx hxk => hnd.1 (hk ▸ List.mem_map.2 ⟨x, hx, of_decide_eq_true hxk⟩)
      simp [hk, hnone]
    · simp [hk]

end GoMap

end HttpCloak
