import Mathlib.Data.List.Infix

/-!
# Byte strings and `bytes.Index`

Go's `[]byte` values are lists of `UInt8`. The one search the transport code performs on
them is `bytes.Index(data, []byte("\r\n\r\n"))`, which locates the end of an HTTP/1.x
message head; `bytesIndex` is that search, with `none` for Go's `-1`.

The facts proved here are the ones a reader of a growing buffer needs:

* `bytesIndex_spec`: the separator starts at the returned index, so it ends inside the data;
* `bytesIndex_append_of_eq_some`: bytes appended behind the first occurrence do not move it;
* `bytesIndex_eq_none_of_short`: a prefix that ends before the first occurrence has none.

The responses the proxy writes are formatted strings; `bytesOf_append` and `bytesOf_toString`
say what their bytes are: the pieces' bytes in order, and for `%d` decimal digits.
-/

namespace HttpCloak

/-- A byte of a Go `[]byte`. -/
abbrev Byte := UInt8

/-- Bytes compare as their values. -/
theorem byte_eq_iff {c d : Byte} : c = d ↔ c.toNat = d.toNat := ⟨congrArg _, UInt8.toNat.inj⟩

theorem byte_le_iff {c d : Byte} : c ≤ d ↔ c.toNat ≤ d.toNat := Iff.rfl

theorem byte_lt_iff {c d : Byte} : c < d ↔ c.toNat < d.toNat := Iff.rfl

/-- `[]byte(s)`: the UTF-8 bytes of a string. -/
def bytesOf (s : String) : List Byte := s.toUTF8.data.toList

/-- `"\r\n\r\n"`, the end of an HTTP/1.x message head. -/
def crlfcrlf : List Byte := [13, 10, 13, 10]

/-- `bytes.Index(data, sep)`: the position of the first occurrence of `sep`, `none` for `-1`. -/
def bytesIndex (sep : List Byte) : List Byte → Option Nat
  | [] => if sep.isPrefixOf [] then some 0 else none
  | b :: rest => if sep.isPrefixOf (b :: rest) then some 0 else (bytesIndex sep rest).map (· + 1)

/-- The separator occurs at the index `bytesIndex` returns. -/
theorem bytesIndex_spec {sep : List Byte} :
    ∀ {data : List Byte} {i : Nat}, bytesIndex sep data = some i → sep <+: data.drop i
  | [], i, h => by
    simp only [bytesIndex] at h
    split at h
    · rename_i hp; cases h; simpa using List.isPrefixOf_iff_prefix.mp hp
    · cases h
  | b :: rest, i, h => by
    simp only [bytesIndex] at h
    split at h
    · rename_i hp; cases h; simpa using List.isPrefixOf_iff_prefix.mp hp
    · obtain ⟨j, hj, rfl⟩ := Option.map_eq_some'.mp h
      simpa using bytesIndex_spec hj

/-- The separator found by `bytesIndex` ends inside the data. -/
theorem bytesIndex_add_length_le {sep data : List Byte} {i : Nat}
    (h : bytesIndex sep data = some i) : i + sep.length ≤ data.length := by
  have := (bytesIndex_spec h).length_le
  simp only [List.length_drop] at this
  have : i ≤ data.length := by
    by_contra hi
    have hsep : sep = [] := by
      simpa [List.drop_eq_nil_of_le (show data.length ≤ i by omega)] using bytesIndex_spec h
    subst hsep
    cases data <;> simp [bytesIndex] at h <;> omega
  omega

/-- Bytes appended behind the first occurrence of the separator do not move it. -/
theorem bytesIndex_append_of_eq_some {sep : List Byte} :
    ∀ {a : List Byte} {i : Nat}, bytesIndex sep a = some i →
      ∀ b : List Byte, bytesIndex sep (a ++ b) = some i
  | [], i, h, b => by
    simp only [bytesIndex] at h
    split at h
    · cases h
      rename_i hp
      have : sep = [] := by simpa using hp
      subst this
      cases b <;> simp [bytesIndex]
    · cases h
  | x :: a, i, h, b => by
    have hlen := bytesIndex_add_length_le h
    simp only [bytesIndex] at h
    split at h
    · cases h
      rename_i hp
      have hp' : sep <+: x :: (a ++ b) := (List.isPrefixOf_iff_prefix.mp hp).trans (by simp)
      simp [bytesIndex, List.isPrefixOf_iff_prefix.mpr hp']
    · rename_i hp
      obtain ⟨j, hj, rfl⟩ := Option.map_eq_some'.mp h
      have hnot : ¬ sep <+: x :: (a ++ b) := fun hq =>
        hp (List.isPrefixOf_iff_prefix.mpr
          (List.prefix_of_prefix_length_le hq (by simp) (by simp at hlen ⊢; omega)))
      simp [bytesIndex, hnot, bytesIndex_append_of_eq_some hj b]

/-- A prefix that stops before the end of the first occurrence contains no occurrence. -/
theorem bytesIndex_eq_none_of_short {sep data p : List Byte} {i : Nat}
    (h : bytesIndex sep data = some i) (hp : p <+: data) (hlen : p.length < i + sep.length) :
    bytesIndex sep p = none := by
  obtain ⟨rest, rfl⟩ := hp
  cases hq : bytesIndex sep p with
  | none => rfl
  | some j =>
    have hji : j = i := by
      simpa [bytesIndex_append_of_eq_some hq rest] using h
    have := bytesIndex_add_length_le hq
    omega

/-- Where a prefix of a stream `H ++ T` stands, when the first occurrence of the separator
is the end of `H`: before it, with no occurrence yet, or past it, with `H` complete. -/
theorem bytesIndex_of_prefix_append {sep H T p : List Byte}
    (hH : bytesIndex sep H = some (H.length - sep.length)) (hp : p <+: H ++ T) :
    (bytesIndex sep p = none ∧ p.length < H.length) ∨
      (bytesIndex sep p = some (H.length - sep.length) ∧ H <+: p) := by
  have hsep := bytesIndex_add_length_le hH
  by_cases hlt : p.length < H.length
  · refine .inl ⟨bytesIndex_eq_none_of_short hH ?_ (by omega), hlt⟩
    exact List.prefix_of_prefix_length_le hp (List.prefix_append H T) (by omega)
  · have hHp : H <+: p := List.prefix_of_prefix_length_le (List.prefix_append H T) hp (by omega)
    obtain ⟨rest, rfl⟩ := hHp
    exact .inr ⟨bytesIndex_append_of_eq_some hH rest, List.prefix_append H rest⟩

/-! ## The bytes of formatted strings -/

theorem bytesOf_eq (s : String) : bytesOf s = s.data.flatMap String.utf8EncodeChar := rfl

theorem bytesOf_append (s t : String) : bytesOf (s ++ t) = bytesOf s ++ bytesOf t := by
  simp [bytesOf_eq, List.flatMap_append]

/-- The decimal digits. -/
def digitChars : List Char := "0123456789".data

/-- One step of `Nat.toDigitsCore 10`: the last digit goes in front. -/
theorem toDigitsCore_succ (fuel n : Nat) (ds : List Char) :
    Nat.toDigitsCore 10 (fuel + 1) n ds =
      if n / 10 = 0 then Nat.digitChar (n % 10) :: ds
      else Nat.toDigitsCore 10 fuel (n / 10) (Nat.digitChar (n % 10) :: ds) := rfl

/-- `Nat.toDigitsCore 10` puts at least one digit in front of what it is given. -/
theorem toDigitsCore_digits : ∀ (fuel n : Nat) (ds : List Char), ∃ pre,
    Nat.toDigitsCore 10 (fuel + 1) n ds = pre ++ ds ∧ pre ≠ [] ∧ ∀ c ∈ pre, c ∈ digitChars := by
  have hd : ∀ m, Nat.digitChar (m % 10) ∈ digitChars := fun m => by
    have : ∀ k < 10, Nat.digitChar k ∈ digitChars := by decide
    exact this _ (Nat.mod_lt _ (by decide))
  intro fuel
  induction fuel with
  | zero =>
    intro n ds
    refine ⟨[Nat.digitChar (n % 10)], ?_, by simp, by simpa using hd n⟩
    rw [toDigitsCore_succ]; split <;> rfl
  | succ fuel ih =>
    intro n ds
    rw [toDigitsCore_succ]
    split
    · exact ⟨[_], rfl, by simp, by simpa using hd n⟩
    · obtain ⟨pre, h, -, hpre⟩ := ih (n / 10) (Nat.digitChar (n % 10) :: ds)
      refine ⟨pre ++ [Nat.digitChar (n % 10)], by simpa using h, by simp, ?_⟩
      simpa [or_imp, forall_and] using ⟨hpre, hd n⟩

/-- `%d` of a natural number: a non-empty string of decimal digits. -/
theorem bytesOf_toString (n : Nat) :
    bytesOf (toString n) ≠ [] ∧ ∀ c ∈ bytesOf (toString n), c ∈ bytesOf "0123456789" := by
  obtain ⟨pre, h, hne, hpre⟩ := toDigitsCore_digits n n []
  have hs : (toString n).data = pre := by simpa using h
  have henc : ∀ c ∈ digitChars, ∃ b ∈ bytesOf "0123456789", String.utf8EncodeChar c = [b] := by
    decide
  rw [bytesOf_eq, hs]
  constructor
  · obtain ⟨c, pre, rfl⟩ := List.exists_cons_of_ne_nil hne
    obtain ⟨b, -, hb⟩ := henc c (hpre c (List.mem_cons_self _ _))
    simp [hb]
  · intro b hb
    obtain ⟨c, hc, hbc⟩ := List.mem_flatMap.1 hb
    obtain ⟨b', hb', he⟩ := henc c (hpre c hc)
    rw [he, List.mem_singleton] at hbc
    exact hbc ▸ hb'

end HttpCloak
