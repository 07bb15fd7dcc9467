import HttpCloak.Http.Header

/-!
# `url.Parse`

Go's `url.Parse(rawURL)` and the helpers it calls (`getScheme`, `parseAuthority`, `parseHost`,
`unescape`), as far as they decide whether a URL is accepted and what its `Scheme` and `Host`
are: the fragment is cut off at the first `#`, a control byte refuses the URL, the scheme is
read and lowercased, the query is cut off at the first `?`, and an authority after `//` is
split at its last `@` into user information and a host, each checked. Go's error values are
`none` here.

`urlParse_raw` runs it on `scheme://host[:port]` for any scheme, any host made of labels of
letters, digits and `-`, and any port of digits (a `HostURL`): the scheme comes back
lowercased and the host as written, port included.
-/

namespace HttpCloak

/-- The fields of a parsed `url.URL` that the fingerprint code reads. -/
structure URL where
  scheme : List Byte
  host : List Byte
  deriving DecidableEq, Repr

/-- `'0' <= c && c <= '9'`. -/
def isDigitByte (c : Byte) : Bool := 48 ≤ c && c ≤ 57

/-- A letter or a digit. -/
def isAlnumByte (c : Byte) : Bool := isUpperByte c || isLowerByte c || isDigitByte c

/-- `ishex`. -/
def isHexByte (c : Byte) : Bool := isDigitByte c || (97 ≤ c && c ≤ 102) || (65 ≤ c && c ≤ 70)

/-- `unhex`. -/
def unhex (c : Byte) : Nat :=
  if isDigitByte c then c.toNat - 48 else if 97 ≤ c then c.toNat - 87 else c.toNat - 55

/-- `stringContainsCTLByte`. -/
def containsCTLByte (s : List Byte) : Bool := s.any fun c => c < 32 || c = 127

/-- `strings.Cut(s, sep)` for a one-byte separator: before, after, found. -/
def cut (s : List Byte) (sep : Byte) : List Byte × List Byte × Bool :=
  match s.span (· ≠ sep) with
  | (before, []) => (before, [], false)
  | (before, _ :: after) => (before, after, true)

/-- The loop of `getScheme` over the bytes after `pre`. -/
def getSchemeGo (rawURL : List Byte) : List Byte → List Byte → Option (List Byte × List Byte)
  | _, [] => some ([], rawURL)
  | pre, c :: cs =>
    if isUpperByte c || isLowerByte c then getSchemeGo rawURL (pre ++ [c]) cs
    else if isDigitByte c || c = 43 || c = 45 || c = 46 then
      if pre = [] then some ([], rawURL) else getSchemeGo rawURL (pre ++ [c]) cs
    else if c = 58 then
      if pre = [] then none else some (pre, cs)
    else some ([], rawURL)

/-- `getScheme(rawURL)`: the scheme before the first `:`, and the rest; no scheme when a byte
that cannot be in one comes first; `missing protocol scheme` for a leading `:`. -/
def getScheme (rawURL : List Byte) : Option (List Byte × List Byte) := getSchemeGo rawURL [] rawURL

/-- `shouldEscape(c, encodeHost)` for an ASCII byte: false for the bytes a host may hold. -/
def shouldEscapeHost (c : Byte) : Bool :=
  !(isAlnumByte c ||
    [33, 36, 38, 39, 40, 41, 42, 43, 44, 59, 61, 58, 91, 93, 60, 62, 34, 45, 95, 46, 126].contains c)

/-- The modes of `unescape` this file needs. -/
inductive Encoding where
  | host
  | zone
  | other
  deriving DecidableEq, Repr

/-- `unescape(s, mode)`: the decoded bytes, or `none` for a malformed `%` escape, for a host
`%` escape of an ASCII byte other than `%25`, for a zone escape of a byte a host cannot
hold, and for a host byte that must be escaped. -/
def unescape (mode : Encoding) : List Byte → Option (List Byte)
  | [] => some []
  | c :: rest =>
    if c = 37 then
      match rest with
      | h :: l :: rest =>
        if !(isHexByte h && isHexByte l) then none
        else if mode = .host && unhex h < 8 && [h, l] ≠ [50, 53] then none
        else if mode = .zone && [h, l] ≠ [50, 53] && (unhex h * 16 + unhex l) ≠ 32 &&
            shouldEscapeHost (UInt8.ofNat (unhex h * 16 + unhex l)) then none
        else (unescape mode rest).map (UInt8.ofNat (unhex h * 16 + unhex l) :: ·)
      | _ => none
    else if (mode = .host || mode = .zone) && c < 128 && shouldEscapeHost c then none
    else (unescape mode rest).map (c :: ·)

/-- `validOptionalPort(port)`. -/
def validOptionalPort : List Byte → Bool
  | [] => true
  | c :: digits => c = 58 && digits.all isDigitByte

/-- The position of the last `c`. -/
def lastIndex (s : List Byte) (c : Byte) : Option Nat :=
  (s.reverse.findIdx? (· = c)).map (s.length - 1 - ·)

/-- The position of the first occurrence of `sub`. -/
def indexOf (s sub : List Byte) : Option Nat :=
  (List.range (s.length + 1)).find? fun i => sub.isPrefixOf (s.drop i)

/-- `parseHost(host)`. -/
def parseHost (host : List Byte) : Option (List Byte) :=
  if host.head? = some 91 then
    match lastIndex host 93 with
    | none => none
    | some i =>
      if !validOptionalPort (host.drop (i + 1)) then none
      else
        match indexOf (host.take i) [37, 50, 53] with
        | some zone =>
          match unescape .host (host.take zone), unescape .zone ((host.take i).drop zone),
            unescape .host (host.drop i) with
          | some h1, some h2, some h3 => some (h1 ++ h2 ++ h3)
          | _, _, _ => none
        | none => unescape .host host
  else
    match lastIndex host 58 with
    | some i => if !validOptionalPort (host.drop i) then none else unescape .host host
    | none => unescape .host host

/-- `validUserinfo(s)`. -/
def validUserinfo (s : List Byte) : Bool :=
  s.all fun c => isAlnumByte c ||
    [45, 46, 95, 58, 126, 33, 36, 38, 39, 40, 41, 42, 43, 44, 59, 61, 37, 64].contains c

/-- `parseAuthority(authority)`: the host, after the user information is checked. -/
def parseAuthority (authority : List Byte) : Option (List Byte) :=
  match lastIndex authority 64 with
  | none => parseHost authority
  | some i =>
    match parseHost (authority.drop (i + 1)) with
    | none => none
    | some host =>
      let userinfo := authority.take i
      if !validUserinfo userinfo then none
      else (unescape .other userinfo).map fun _ => host

/-- `url.Parse(rawURL)`: the fragment is cut off and checked, then `parse`. -/
def urlParse (rawURL : List Byte) : Option URL :=
  let (u, frag, _) := cut rawURL 35
  if containsCTLByte u then none
  else
    match getScheme u with
    | none => none
    | some (scheme, rest) =>
      let scheme := scheme.map lowerByte
      let rest := (cut rest 63).1
      if rest.head? ≠ some 47 && scheme ≠ [] then
        (unescape .other frag).map fun _ => ⟨scheme, []⟩
      else if rest.head? ≠ some 47 && 58 ∈ (cut rest 47).1 then none
      else
        let authorityRest : Option (List Byte × List Byte) :=
          if (scheme ≠ [] || !([47, 47, 47].isPrefixOf rest)) && [47, 47].isPrefixOf rest then
            let (authority, path) := (rest.drop 2).span (· ≠ 47)
            (parseAuthority authority).map fun host => (host, path)
          else some ([], rest)
        match authorityRest with
        | none => none
        | some (host, path) =>
          match unescape .other path, unescape .other frag with
          | some _, some _ => some ⟨scheme, host⟩
          | _, _ => none

example : urlParse (bytesOf "https://user@Example.com:8443/a?b#c") =
    some ⟨bytesOf "https", bytesOf "Example.com:8443"⟩ := by decide

example : urlParse (bytesOf "http://a b.com/") = none := by decide

/-- `u.Hostname()` and `u.Port()`: a trailing `:port` of digits is the port, and brackets
around the rest are dropped. -/
def hostnamePort (host : List Byte) : List Byte × List Byte :=
  let (name, port) := match lastIndex host 58 with
    | some i =>
      if validOptionalPort (host.drop i) then (host.take i, host.drop (i + 1)) else (host, [])
    | none => (host, [])
  if name.head? = some 91 && name.getLast? = some 93 then ((name.drop 1).dropLast, port)
  else (name, port)

/-! ## URLs of a dotted host -/

/-- A byte `getScheme` takes after the first: a letter, a digit, `+`, `-` or `.`. -/
def isSchemeByte (c : Byte) : Bool := isAlnumByte c || c = 43 || c = 45 || c = 46

/-- A byte of a host label: a letter, a digit or `-`. -/
def isLabelByte (c : Byte) : Bool := isAlnumByte c || c = 45

/-- A scheme that `getScheme` reads whole: a letter, then scheme bytes. -/
def validScheme : List Byte → Bool
  | c :: cs => (isUpperByte c || isLowerByte c) && cs.all isSchemeByte
  | [] => false

/-- A written port: `:` and its digits, or nothing. -/
def writtenPort : Option (List Byte) → List Byte
  | some p => 58 :: p
  | none => []

/-- A URL `scheme://host[:port]` whose host is a dotted name. -/
structure HostURL where
  scheme : List Byte
  labels : List (List Byte)
  port : Option (List Byte)
  scheme_valid : validScheme scheme
  labels_ne : labels ≠ []
  labels_valid : ∀ l ∈ labels, l.all isLabelByte
  port_valid : ∀ p ∈ port, p.all isDigitByte

namespace HostURL

/-- The host as written: the labels joined by dots, then the port. -/
def host (u : HostURL) : List Byte := [46].intercalate u.labels ++ writtenPort u.port

/-- The URL's bytes. -/
def raw (u : HostURL) : List Byte := u.scheme ++ [58, 47, 47] ++ u.host

end HostURL

/-- A byte of a written host: a scheme byte or `:`. -/
def isHostByte (c : Byte) : Bool := isSchemeByte c || c = 58

/-- Scheme bytes by their values. -/
theorem isSchemeByte_iff (c : Byte) : isSchemeByte c ↔ (65 ≤ c.toNat ∧ c.toNat ≤ 90) ∨
    (97 ≤ c.toNat ∧ c.toNat ≤ 122) ∨ (48 ≤ c.toNat ∧ c.toNat ≤ 57) ∨ c.toNat = 43 ∨
    c.toNat = 45 ∨ c.toNat = 46 := by
  simp [isSchemeByte, isAlnumByte, isDigitByte, isUpperByte_iff, isLowerByte_iff, byte_eq_iff,
    byte_le_iff, or_assoc, UInt8.size]

/-- No byte of a written host, and no `/`, is a control byte. -/
theorem ctl_eq_false {c : Byte} (h : isHostByte c || c = 47) : (c < 32 || c = 127) = false := by
  simp [isHostByte, isSchemeByte_iff, byte_eq_iff, UInt8.size] at h
  simp [byte_eq_iff, byte_lt_iff, UInt8.size]
  omega

/-- A byte that fails a test every byte of a list passes is not in it. -/
theorem not_mem_of_all {p : Byte → Bool} {l : List Byte} (hl : l.all p) {c : Byte}
    (hc : p c = false) : c ∉ l :=
  fun hm => by simp [List.all_eq_true.1 hl c hm] at hc

/-- A host may hold every host byte unescaped. -/
theorem shouldEscapeHost_eq_false {c : Byte} (h : isHostByte c) : shouldEscapeHost c = false := by
  simp only [isHostByte, isSchemeByte, Bool.or_eq_true, decide_eq_true_eq] at h
  rcases h with (((h | rfl) | rfl) | rfl) | rfl
  · simp [shouldEscapeHost, h]
  all_goals rfl

/-- `unescape` gives back a list of host bytes as it is. -/
theorem unescape_of_all (mode : Encoding) :
    ∀ {l : List Byte}, l.all isHostByte → unescape mode l = some l
  | [], _ => rfl
  | c :: l, h => by
    simp only [List.all_cons, Bool.and_eq_true] at h
    have hc : c ≠ 37 := fun e => absurd (e ▸ h.1) (by decide)
    rw [unescape.eq_def]
    dsimp only
    rw [if_neg hc, if_neg (by simp [shouldEscapeHost_eq_false h.1]), unescape_of_all mode h.2]
    rfl

/-- Joining lists whose bytes pass a test, with a separator that does, gives such a list. -/
theorem all_intercalate {p : Byte → Bool} {sep : List Byte} (hsep : sep.all p) :
    ∀ {L : List (List Byte)}, (∀ l ∈ L, l.all p) → (sep.intercalate L).all p
  | [], _ => rfl
  | [l], h => by simpa [List.intercalate] using h
  | l :: l' :: L, h => by
    have ih := all_intercalate hsep (L := l' :: L) fun x hx => h x (List.mem_cons_of_mem _ hx)
    simp only [List.intercalate, List.intersperse_cons₂, List.flatten_cons, List.all_append,
      Bool.and_eq_true] at ih ⊢
    exact ⟨h l (List.mem_cons_self _ _), hsep, ih⟩

/-- Without the separator, the whole list comes before it. -/
theorem span_of_not_mem {s : List Byte} {sep : Byte} (h : sep ∉ s) :
    s.span (· ≠ sep) = (s, []) := by
  have hs : ∀ x ∈ s, decide (x ≠ sep) = true :=
    fun x hx => decide_eq_true (ne_of_mem_of_not_mem hx h)
  simp only [List.span_eq_take_drop, List.takeWhile_eq_self_iff.2 hs,
    List.dropWhile_eq_nil_iff.2 hs]

/-- `strings.Cut` of a string without the separator: all of it, not found. -/
theorem cut_of_not_mem {s : List Byte} {sep : Byte} (h : sep ∉ s) : cut s sep = (s, [], false) := by
  simp only [cut, span_of_not_mem h]

theorem findIdx?_reverse_eq_none {s : List Byte} {c : Byte} (h : c ∉ s) :
    s.reverse.findIdx? (· = c) = none := by
  simp only [List.findIdx?_eq_none_iff, List.mem_reverse, decide_eq_false_iff_not]
  exact fun x hx => ne_of_mem_of_not_mem hx h

/-- `strings.LastIndex` of an absent byte is `-1`. -/
theorem lastIndex_eq_none {s : List Byte} {c : Byte} (h : c ∉ s) : lastIndex s c = none := by
  simp [lastIndex, findIdx?_reverse_eq_none h]

/-- The last occurrence of a byte is the one no other follows. -/
theorem lastIndex_append_cons (s : List Byte) {rest : List Byte} {c : Byte} (h : c ∉ rest) :
    lastIndex (s ++ c :: rest) c = some s.length := by
  simp [lastIndex, findIdx?_reverse_eq_none h]

/-- The loop of `getScheme` reads scheme bytes up to the first `:`. -/
theorem getSchemeGo_append (raw rest : List Byte) :
    ∀ (s pre : List Byte), pre ≠ [] → s.all isSchemeByte →
      getSchemeGo raw pre (s ++ 58 :: rest) = some (pre ++ s, rest)
  | [], pre, hpre, _ => by
    have : isUpperByte 58 = false ∧ isLowerByte 58 = false ∧ isDigitByte 58 = false := by decide
    simp [getSchemeGo, hpre, this]
  | c :: s, pre, hpre, hs => by
    simp only [List.all_cons, Bool.and_eq_true] at hs
    have ih := getSchemeGo_append raw rest s (pre ++ [c]) (by simp) hs.2
    have hc := hs.1
    simp only [isSchemeByte, isAlnumByte, Bool.or_eq_true] at hc
    simp only [List.cons_append, getSchemeGo, ih, hpre, List.append_assoc, List.singleton_append]
    split_ifs <;> simp_all

/-- `getScheme` splits a valid scheme from the rest at its `:`. -/
theorem getScheme_append {s : List Byte} (hs : validScheme s) (rest : List Byte) :
    getScheme (s ++ 58 :: rest) = some (s, rest) := by
  match s, hs with
  | c :: s, hs =>
    simp only [validScheme, Bool.and_eq_true] at hs
    simp [getScheme, getSchemeGo, hs.1, getSchemeGo_append _ rest s [c] (by simp) hs.2]

theorem isHostByte_of_isSchemeByte {c : Byte} (h : isSchemeByte c) : isHostByte c := by
  simp [isHostByte, h]

theorem all_of_all {p q : Byte → Bool} (hpq : ∀ c, p c → q c) {l : List Byte} (h : l.all p) :
    l.all q :=
  List.all_eq_true.2 fun c hc => hpq c (List.all_eq_true.1 h c hc)

namespace HostURL

variable (u : HostURL)

/-- A valid scheme is not empty. -/
theorem scheme_ne_nil : u.scheme ≠ [] := by
  intro h
  simpa [h, validScheme] using u.scheme_valid

/-- Every byte of a valid scheme is a scheme byte. -/
theorem all_scheme : u.scheme.all isSchemeByte := by
  have hs := u.scheme_valid
  cases h : u.scheme with
  | nil => simp [h, validScheme] at hs
  | cons c cs =>
    simp only [h, validScheme, Bool.and_eq_true, Bool.or_eq_true] at hs
    rcases hs with ⟨hc | hc, hcs⟩ <;> simp [isSchemeByte, isAlnumByte, hc, hcs]

/-- The dotted name holds only scheme bytes. -/
theorem all_name : ([46].intercalate u.labels).all isSchemeByte :=
  all_intercalate (by decide) fun l hl =>
    all_of_all (fun c hc => by
      simp only [isLabelByte, Bool.or_eq_true] at hc
      rcases hc with h | h <;> simp [isSchemeByte, h]) (u.labels_valid l hl)

/-- The written host holds only host bytes. -/
theorem all_host : u.host.all isHostByte := by
  simp only [host, List.all_append, Bool.and_eq_true]
  refine ⟨all_of_all (fun _ => isHostByte_of_isSchemeByte) u.all_name, ?_⟩
  cases hp : u.port with
  | none => rfl
  | some p =>
    have hd := u.port_valid p (by simp [hp])
    simp only [writtenPort, List.all_cons, Bool.and_eq_true]
    exact ⟨by decide, all_of_all (fun c hc => by simp [isHostByte, isSchemeByte, isAlnumByte, hc]) hd⟩

/-- The last `:` of the host is the one before the port, if a port is written. -/
theorem lastIndex_host_colon :
    lastIndex u.host 58 = u.port.map fun _ => ([46].intercalate u.labels).length := by
  have hname : (58 : Byte) ∉ [46].intercalate u.labels := not_mem_of_all u.all_name (by decide)
  cases hp : u.port with
  | none => simp [host, hp, writtenPort, lastIndex_eq_none hname]
  | some p =>
    have : (58 : Byte) ∉ p := not_mem_of_all (u.port_valid p (by simp [hp])) (by decide)
    simp [host, hp, writtenPort, lastIndex_append_cons _ this]

/-- `parseHost` accepts the host and keeps it as written. -/
theorem parseHost_host : parseHost u.host = some u.host := by
  have hall := u.all_host
  have h91 : u.host.head? ≠ some 91 := fun h =>
    not_mem_of_all hall (by decide) (List.mem_of_mem_head? h)
  rw [parseHost, if_neg h91, u.lastIndex_host_colon]
  cases hp : u.port with
  | none => exact unescape_of_all _ hall
  | some p =>
    have hport : validOptionalPort (u.host.drop ([46].intercalate u.labels).length) := by
      simp [host, hp, writtenPort, validOptionalPort, u.port_valid p (by simp [hp])]
    simp [hport, unescape_of_all _ hall]

/-- Without user information, `parseAuthority` is `parseHost`. -/
theorem parseAuthority_host : parseAuthority u.host = some u.host := by
  rw [parseAuthority, lastIndex_eq_none (not_mem_of_all u.all_host (by decide)), u.parseHost_host]

/-- Every byte of the URL is a host byte or `/`. -/
theorem all_raw : ∀ c ∈ u.raw, isHostByte c || c = 47 := by
  intro c hc
  simp only [raw, List.mem_append] at hc
  rcases hc with (hc | hc) | hc
  · simp [isHostByte_of_isSchemeByte (List.all_eq_true.1 u.all_scheme c hc)]
  · simp at hc; rcases hc with rfl | rfl | rfl <;> decide
  · simp [List.all_eq_true.1 u.all_host c hc]

/-- **`url.Parse` on `scheme://host[:port]`.** It accepts the URL, lowercases the scheme and
keeps the host as written, port included. -/
theorem urlParse_raw : urlParse u.raw = some ⟨u.scheme.map lowerByte, u.host⟩ := by
  have hraw := u.all_raw
  have hctl : containsCTLByte u.raw = false :=
    List.any_eq_false.2 fun c hc => by simp [ctl_eq_false (hraw c hc)]
  have hhost := u.all_host
  have hrest : (63 : Byte) ∉ [47, 47] ++ u.host := by
    simp [not_mem_of_all hhost (by decide : isHostByte 63 = false)]
  rw [urlParse, cut_of_not_mem fun h => absurd (hraw 35 h) (by decide)]
  dsimp only
  rw [hctl, raw, List.append_assoc, List.cons_append, getScheme_append u.scheme_valid]
  dsimp only
  rw [cut_of_not_mem hrest]
  simp only [List.cons_append, List.nil_append, List.drop_succ_cons, List.drop_zero,
    span_of_not_mem (not_mem_of_all hhost (by decide : isHostByte 47 = false))]
  simp [u.parseAuthority_host, u.scheme_ne_nil]
  rfl

/-- No label holds a dot. -/
theorem dot_not_mem : ∀ l ∈ u.labels, (46 : Byte) ∉ l :=
  fun l hl => not_mem_of_all (u.labels_valid l hl) (by decide)

/-- The host up to its first `:` is the dotted name. -/
theorem takeWhile_host : u.host.takeWhile (· ≠ 58) = [46].intercalate u.labels := by
  have hname : ∀ c ∈ [46].intercalate u.labels, decide (c ≠ 58) = true := fun c hc =>
    decide_eq_true (ne_of_mem_of_not_mem hc (not_mem_of_all u.all_name (by decide)))
  rw [host, List.takeWhile_append_of_pos hname]
  cases u.port <;> simp [writtenPort]

end HostURL

/-- Dotted names are equal exactly when their labels are. -/
theorem intercalate_dot_inj {L L' : List (List Byte)} (hL : L ≠ []) (hL' : L' ≠ [])
    (h : ∀ l ∈ L, (46 : Byte) ∉ l) (h' : ∀ l ∈ L', (46 : Byte) ∉ l) :
    [46].intercalate L = [46].intercalate L' ↔ L = L' :=
  ⟨fun he => by rw [← List.splitOn_intercalate _ 46 h hL, he, List.splitOn_intercalate _ 46 h' hL'],
    fun he => he ▸ rfl⟩

/-- Two written hosts are equal exactly when their labels and their ports are. -/
theorem host_eq_host_iff {u v : HostURL} : u.host = v.host ↔ u.labels = v.labels ∧ u.port = v.port := by
  constructor
  · intro h
    have hname : [46].intercalate u.labels = [46].intercalate v.labels := by
      rw [← u.takeWhile_host, h, v.takeWhile_host]
    have hport : writtenPort u.port = writtenPort v.port := by
      rw [HostURL.host, HostURL.host, hname] at h
      exact List.append_cancel_left h
    refine ⟨(intercalate_dot_inj u.labels_ne v.labels_ne u.dot_not_mem v.dot_not_mem).1 hname, ?_⟩
    cases hu : u.port <;> cases hv : v.port <;> simp_all [writtenPort]
  · rintro ⟨h1, h2⟩
    simp [HostURL.host, h1, h2]

end HttpCloak
