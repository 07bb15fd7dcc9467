import HttpCloak.Bytes
import HttpCloak.Map

/-!
# Header names and header maps of `net/http`

The parts of Go's standard library the proxy's header handling runs on, over byte strings:

* `strings.EqualFold` of ASCII strings: equal up to the case of letters (`equalFold`);
* `http.CanonicalHeaderKey`, which is `textproto.CanonicalMIMEHeaderKey`: a name made of token
  bytes gets upper case at its start and after each `-` and lower case elsewhere; a name with
  any other byte, a space included, is returned unchanged (`canonicalMIMEHeaderKey`);
* `http.Header`, a map from names to value lists, with `h[key]`, `h[key] = v` and `h.Add`,
  which canonicalizes the key and appends.

Canonicalizing keeps a name's letters up to case (`lower_canonicalMIMEHeaderKey`), and two
names equal up to case have one canonical form when one of them is a token
(`canonicalMIMEHeaderKey_eq_of_equalFold`).
-/

namespace HttpCloak

/-! ## ASCII bytes -/

/-- `'A' <= c && c <= 'Z'`. -/
def isUpperByte (c : Byte) : Bool := 65 ≤ c && c ≤ 90

/-- `'a' <= c && c <= 'z'`. -/
def isLowerByte (c : Byte) : Bool := 97 ≤ c && c ≤ 122

/-- The lower-case form of an ASCII letter; any other byte is itself. -/
def lowerByte (c : Byte) : Byte := if isUpperByte c then c + 32 else c

/-- `validHeaderFieldByte`: a byte of an RFC 7230 token (`isTokenTable`): a letter, a digit,
or one of the 15 marks below. -/
def validHeaderFieldByte (c : Byte) : Bool :=
  isUpperByte c || isLowerByte c || (48 ≤ c && c ≤ 57) ||
    [33, 35, 36, 37, 38, 39, 42, 43, 45, 46, 94, 95, 96, 124, 126].contains c

theorem isUpperByte_iff (c : Byte) : isUpperByte c ↔ 65 ≤ c.toNat ∧ c.toNat ≤ 90 := by
  simp [isUpperByte, UInt8.le_def, BitVec.le_def]; rfl

theorem isLowerByte_iff (c : Byte) : isLowerByte c ↔ 97 ≤ c.toNat ∧ c.toNat ≤ 122 := by
  simp [isLowerByte, UInt8.le_def, BitVec.le_def]; rfl

theorem toNat_add_32 {c : Byte} (h : c.toNat < 224) : (c + 32).toNat = c.toNat + 32 := by
  show (c.toBitVec + 32#8).toNat = _
  rw [BitVec.toNat_add]; show (c.toNat + 32) % 256 = _; omega

theorem toNat_lowerByte (c : Byte) :
    (lowerByte c).toNat = if 65 ≤ c.toNat ∧ c.toNat ≤ 90 then c.toNat + 32 else c.toNat := by
  unfold lowerByte
  by_cases h : 65 ≤ c.toNat ∧ c.toNat ≤ 90
  · rw [if_pos ((isUpperByte_iff c).2 h), if_pos h, toNat_add_32 (by omega)]
  · rw [if_neg (mt (isUpperByte_iff c).1 h), if_neg h]

/-! ## `CanonicalMIMEHeaderKey` -/

/-- One byte of `canonicalMIMEHeaderKey`'s loop: `upper` at the start of the name and after a
`-`. -/
def canonByte (upper : Bool) (c : Byte) : Byte :=
  if upper && isLowerByte c then c - 32 else if !upper && isUpperByte c then c + 32 else c

/-- The canonicalizing loop, `upper = c == '-'` after each byte. -/
def canonicalize : Bool → List Byte → List Byte
  | _, [] => []
  | upper, c :: cs => canonByte upper c :: canonicalize (canonByte upper c == 45) cs

/-- `textproto.CanonicalMIMEHeaderKey(s)`, which `http.CanonicalHeaderKey` calls. Its quick
check only returns early a name the loop would not change. -/
def canonicalMIMEHeaderKey (s : List Byte) : List Byte :=
  if s.all validHeaderFieldByte then canonicalize true s else s

/-- `strings.EqualFold(s, t)` of two ASCII strings. -/
def equalFold (s t : List Byte) : Bool := decide (s.map lowerByte = t.map lowerByte)

theorem toNat_canonByte (u : Bool) (c : Byte) : (canonByte u c).toNat =
    if u ∧ 97 ≤ c.toNat ∧ c.toNat ≤ 122 then c.toNat - 32
    else if ¬u ∧ 65 ≤ c.toNat ∧ c.toNat ≤ 90 then c.toNat + 32 else c.toNat := by
  unfold canonByte
  cases u <;> simp only [Bool.true_and, Bool.false_and, Bool.not_true, Bool.not_false,
    Bool.false_eq_true, true_and, false_and, not_true, not_false_eq_true, if_false,
    isLowerByte_iff, isUpperByte_iff]
  · split_ifs <;> [rw [toNat_add_32 (by omega)]; rfl]
  · split_ifs with h <;> [exact UInt8.toNat_sub_of_le _ _
      (by rw [UInt8.le_def, BitVec.le_def]; show 32 ≤ c.toNat; omega); rfl]

theorem lowerByte_canonByte (u : Bool) (c : Byte) : lowerByte (canonByte u c) = lowerByte c := by
  apply UInt8.toNat.inj
  rw [toNat_lowerByte, toNat_lowerByte, toNat_canonByte]
  cases u <;> simp only [true_and, false_and, Bool.false_eq_true, not_true_eq_false,
    not_false_eq_true, if_false] <;> split_ifs <;> omega

theorem canonByte_lowerByte (u : Bool) (c : Byte) : canonByte u (lowerByte c) = canonByte u c := by
  apply UInt8.toNat.inj
  rw [toNat_canonByte, toNat_canonByte, toNat_lowerByte]
  cases u <;> simp only [true_and, false_and, Bool.false_eq_true, not_true_eq_false,
    not_false_eq_true, if_false] <;> split_ifs <;> omega

theorem validHeaderFieldByte_lowerByte (c : Byte) :
    validHeaderFieldByte (lowerByte c) = validHeaderFieldByte c := by
  unfold lowerByte
  split
  · rename_i h
    have hl : isLowerByte (c + 32) := by
      rw [isUpperByte_iff] at h
      rw [isLowerByte_iff, toNat_add_32 (by omega)]; omega
    simp [validHeaderFieldByte, h, hl]
  · rfl

theorem lower_canonicalize : ∀ (u : Bool) (s : List Byte),
    (canonicalize u s).map lowerByte = s.map lowerByte
  | _, [] => rfl
  | u, c :: cs => by
    simp only [canonicalize, List.map_cons, lowerByte_canonByte, lower_canonicalize _ cs]

theorem canonicalize_lower : ∀ (u : Bool) (s : List Byte),
    canonicalize u (s.map lowerByte) = canonicalize u s
  | _, [] => rfl
  | u, c :: cs => by
    simp only [List.map_cons, canonicalize, canonByte_lowerByte, canonicalize_lower _ cs]

theorem lower_canonicalMIMEHeaderKey (s : List Byte) :
    (canonicalMIMEHeaderKey s).map lowerByte = s.map lowerByte := by
  unfold canonicalMIMEHeaderKey; split
  · exact lower_canonicalize true s
  · rfl

/-- Canonicalizing a name does not change which names it equals up to case. -/
theorem equalFold_canonicalMIMEHeaderKey (s t : List Byte) :
    equalFold (canonicalMIMEHeaderKey s) t = equalFold s t := by
  simp only [equalFold, lower_canonicalMIMEHeaderKey]

theorem equalFold_self_canonicalMIMEHeaderKey (s : List Byte) :
    equalFold s (canonicalMIMEHeaderKey s) = true := by
  simp only [equalFold, lower_canonicalMIMEHeaderKey, decide_True]

/-- A name equal up to case to a token has the token's canonical form. -/
theorem canonicalMIMEHeaderKey_eq_of_equalFold {s t : List Byte} (h : equalFold s t)
    (ht : t.all validHeaderFieldByte) : canonicalMIMEHeaderKey s = canonicalMIMEHeaderKey t := by
  have hl : s.map lowerByte = t.map lowerByte := of_decide_eq_true h
  have hvalid : ∀ u : List Byte, (u.map lowerByte).all validHeaderFieldByte = u.all validHeaderFieldByte :=
    fun u => by simp only [List.all_map, Function.comp_def, validHeaderFieldByte_lowerByte]
  have hs : s.all validHeaderFieldByte := by rw [← hvalid, hl, hvalid]; exact ht
  unfold canonicalMIMEHeaderKey
  rw [if_pos hs, if_pos ht, ← canonicalize_lower, hl, canonicalize_lower]

example : canonicalMIMEHeaderKey (bytesOf "x-upstream-PROXY") = bytesOf "X-Upstream-Proxy" := by
  decide

/-! ## `http.Header` -/

/-- An `http.Header`: a map from names to value lists. -/
abbrev Header := GoMap (List Byte) (List (List Byte))

/-- `h[key]`, `nil` when absent. -/
def Header.get (h : Header) (key : List Byte) : List (List Byte) := (GoMap.lookup h key).getD []

/-- `h.Add(key, value)`. -/
def Header.add (h : Header) (key value : List Byte) : Header :=
  let key := canonicalMIMEHeaderKey key
  GoMap.set h key (Header.get h key ++ [value])

theorem Header.get_add (h : Header) (key value k : List Byte) :
    Header.get (Header.add h key value) k =
      if canonicalMIMEHeaderKey key = k then Header.get h k ++ [value] else Header.get h k := by
  unfold Header.add Header.get
  rw [GoMap.lookup_set]
  split
  · rename_i hk; subst hk; rfl
  · rfl

theorem Header.mem_keys_set {h : Header} {key k : List Byte} {values : List (List Byte)}
    (hk : k ∈ (GoMap.set h key values).map Prod.fst) : k = key ∨ k ∈ h.map Prod.fst := by
  rw [GoMap.mem_keys_iff, GoMap.lookup_set] at hk
  split at hk
  · rename_i heq; exact Or.inl heq.symm
  · exact Or.inr ((GoMap.mem_keys_iff h k).2 hk)

end HttpCloak
