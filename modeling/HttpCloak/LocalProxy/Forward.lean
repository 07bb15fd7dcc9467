import Mathlib.Data.List.Nodup
import HttpCloak.Http.Header

/-!
# The request headers `LocalProxy` forwards

`local_proxy.go`. `handleHTTPWithSession` builds the `headers` map it hands to
`Session.DoStream`, and `handleHTTPDirect` adds headers to `outReq.Header`. Both loop over
`req.Header` and make the same three checks before they copy an entry: a hop-by-hop name
(`isHopByHopHeader`, which canonicalizes), one of the proxy's own control headers
(`strings.EqualFold`), and a `Proxy-Authorization` of the `HTTPCloak` scheme. The first loop
copies the entry as it is; the second calls `outReq.Header.Add` for each value, which
canonicalizes the name and appends.

`forwardHeaders` is that loop, with the copy as a parameter. `skipsHeader_iff` says the
three checks together skip exactly the names equal up to case to one of `excludedNames`;
`forwarded_headers` gives, for every request header, what each of the two maps holds.
-/

namespace HttpCloak.Forward

/-- `HeaderUpstreamProxy`. -/
def headerUpstreamProxy : List Byte := bytesOf "X-Upstream-Proxy"

/-- `HeaderTLSOnly`. -/
def headerTLSOnly : List Byte := bytesOf "X-HTTPCloak-TlsOnly"

/-- `HeaderSession`. -/
def headerSession : List Byte := bytesOf "X-HTTPCloak-Session"

/-- `HeaderScheme`. -/
def headerScheme : List Byte := bytesOf "X-HTTPCloak-Scheme"

/-- `ProxyAuthScheme`. -/
def proxyAuthScheme : List Byte := bytesOf "HTTPCloak"

/-- The keys of the `hopByHop` map in `isHopByHopHeader`. -/
def hopByHop : List (List Byte) :=
  [bytesOf "Connection", bytesOf "Keep-Alive", bytesOf "Proxy-Authenticate",
    bytesOf "Proxy-Authorization", bytesOf "Proxy-Connection", bytesOf "Te", bytesOf "Trailer",
    bytesOf "Transfer-Encoding", bytesOf "Upgrade"]

/-- `isHopByHopHeader(header)`. -/
def isHopByHopHeader (header : List Byte) : Bool :=
  hopByHop.contains (canonicalMIMEHeaderKey header)

/-- The checks both loops make before they copy `key`: true when the loop continues. -/
def skipsHeader (key : List Byte) (values : List (List Byte)) : Bool :=
  isHopByHopHeader key ||
    (equalFold key headerUpstreamProxy || equalFold key headerTLSOnly ||
      equalFold key headerSession || equalFold key headerScheme) ||
    (equalFold key (bytesOf "Proxy-Authorization") &&
      match values with
      | v :: _ => (proxyAuthScheme ++ bytesOf " ").isPrefixOf v
      | [] => false)

/-- The names no forwarded header may have, up to case. -/
def excludedNames : List (List Byte) :=
  [headerUpstreamProxy, headerTLSOnly, headerSession, headerScheme] ++ hopByHop

/-- The header of a request the proxy received, `req.Header`: a map, so its names are
distinct, and its names are ASCII, since Go's request parser refuses a header line whose name
has a byte outside the token characters other than a space. -/
structure RequestHeader where
  entries : Header
  names_nodup : (entries.map Prod.fst).Nodup
  names_ascii : ∀ e ∈ entries, ∀ b ∈ e.1, b < 128

/-- `for key, values := range req.Header`, continuing past the skipped names and copying the
others with `copy`. -/
def forwardHeaders {α : Type} (copy : α → List Byte → List (List Byte) → α) (init : α)
    (reqHeader : RequestHeader) : α :=
  reqHeader.entries.foldl (fun acc e => if skipsHeader e.1 e.2 then acc else copy acc e.1 e.2) init

/-- `headers` in `handleHTTPWithSession`: `headers[key] = values`. -/
def sessionHeaders (reqHeader : RequestHeader) : Header :=
  forwardHeaders (fun headers key values => GoMap.set headers key values) [] reqHeader

/-- `outReq.Header` in `handleHTTPDirect`: `outReq.Header.Add(key, value)` for each value. -/
def outReqHeader (reqHeader : RequestHeader) : Header :=
  forwardHeaders (fun header key values => values.foldl (fun h v => Header.add h key v) header)
    [] reqHeader

/-! ## Which names are skipped -/

theorem hopByHop_canonical :
    ∀ n ∈ hopByHop, n.all validHeaderFieldByte ∧ canonicalMIMEHeaderKey n = n := by
  decide

/-- `isHopByHopHeader` is true exactly for the names equal up to case to one of the list. -/
theorem isHopByHopHeader_iff (key : List Byte) :
    isHopByHopHeader key ↔ ∃ n ∈ hopByHop, equalFold key n := by
  unfold isHopByHopHeader List.contains
  rw [List.elem_iff]
  constructor
  · intro h
    exact ⟨_, h, equalFold_self_canonicalMIMEHeaderKey key⟩
  · rintro ⟨n, hn, hk⟩
    obtain ⟨hv, hc⟩ := hopByHop_canonical n hn
    rwa [canonicalMIMEHeaderKey_eq_of_equalFold hk hv, hc]

/-- The three checks skip exactly the names equal up to case to an excluded one: the
`Proxy-Authorization` check never decides, since that name is hop-by-hop. -/
theorem skipsHeader_iff (key : List Byte) (values : List (List Byte)) :
    skipsHeader key values ↔ ∃ n ∈ excludedNames, equalFold key n := by
  have hpa : bytesOf "Proxy-Authorization" ∈ hopByHop := by decide
  simp only [skipsHeader, excludedNames, List.mem_append, Bool.or_eq_true, Bool.and_eq_true,
    isHopByHopHeader_iff]
  constructor
  · rintro ((h | ((((h | h) | h) | h))) | ⟨h, -⟩)
    · obtain ⟨n, hn, hk⟩ := h; exact ⟨n, Or.inr hn, hk⟩
    all_goals first | exact ⟨_, Or.inr hpa, h⟩ | exact ⟨_, by simp, h⟩
  · rintro ⟨n, hn | hn, hk⟩
    · simp only [List.mem_cons, List.mem_singleton, List.not_mem_nil, or_false] at hn
      rcases hn with rfl | rfl | rfl | rfl <;> simp [hk]
    · exact Or.inl (Or.inl ⟨n, hn, hk⟩)

/-! ## The loop -/

/-- The loop copies the entries that pass the checks, in iteration order. -/
theorem forwardHeaders_eq {α : Type} (copy : α → List Byte → List (List Byte) → α) (init : α)
    (reqHeader : RequestHeader) :
    forwardHeaders copy init reqHeader =
      (reqHeader.entries.filter (fun e => !skipsHeader e.1 e.2)).foldl
        (fun acc e => copy acc e.1 e.2) init := by
  unfold forwardHeaders
  generalize reqHeader.entries = es
  induction es generalizing init with
  | nil => rfl
  | cons e es ih => by_cases h : skipsHeader e.1 e.2 <;> simp [List.filter, h, ih]

/-- Assigning distinct names one after another: each keeps the last value it was given. -/
theorem lookup_foldl_set (k : List Byte) :
    ∀ (l : Header) (acc : Header), (l.map Prod.fst).Nodup →
      GoMap.lookup (l.foldl (fun h e => GoMap.set h e.1 e.2) acc) k =
        ((l.find? (·.1 = k)).map (·.2)).or (GoMap.lookup acc k)
  | [], _, _ => rfl
  | e :: l, acc, hnd => by
    rw [List.map_cons, List.nodup_cons] at hnd
    rw [List.foldl_cons, lookup_foldl_set k l _ hnd.2, GoMap.lookup_set, List.find?_cons]
    by_cases hk : e.1 = k
    · have hnone : l.find? (·.1 = k) = none :=
        List.find?_eq_none.2 fun x hx hxk =>
          hnd.1 (hk ▸ List.mem_map.2 ⟨x, hx, of_decide_eq_true hxk⟩)
      simp [hk, hnone]
    · simp [hk]

/-- Adding values one after another: the values of each canonical name, in order. -/
theorem get_foldl_add (key k : List Byte) :
    ∀ (values : List (List Byte)) (acc : Header),
      Header.get (values.foldl (fun h v => Header.add h key v) acc) k =
        Header.get acc k ++ if canonicalMIMEHeaderKey key = k then values else []
  | [], _ => by simp
  | v :: vs, acc => by
    rw [List.foldl_cons, get_foldl_add key k vs, Header.get_add]
    split <;> simp

theorem get_foldl_foldl_add (k : List Byte) :
    ∀ (l : Header) (acc : Header),
      Header.get (l.foldl (fun h e => e.2.foldl (fun h v => Header.add h e.1 v) h) acc) k =
        Header.get acc k ++ (l.filter (canonicalMIMEHeaderKey ·.1 = k)).flatMap (·.2)
  | [], _ => by simp
  | e :: l, acc => by
    rw [List.foldl_cons, get_foldl_foldl_add k l, get_foldl_add, List.filter_cons]
    split <;> simp_all

theorem mem_keys_foldl_add {key k : List Byte} :
    ∀ {values : List (List Byte)} {acc : Header},
      k ∈ (values.foldl (fun h v => Header.add h key v) acc).map Prod.fst →
        k = canonicalMIMEHeaderKey key ∨ k ∈ acc.map Prod.fst
  | [], _, h => Or.inr h
  | v :: vs, acc, h => by
    rcases @mem_keys_foldl_add key k vs (Header.add acc key v) h with h | h
    · exact Or.inl h
    · exact Header.mem_keys_set h

theorem mem_keys_foldl_foldl_add {k : List Byte} :
    ∀ {l : Header} {acc : Header},
      k ∈ (l.foldl (fun h e => e.2.foldl (fun h v => Header.add h e.1 v) h) acc).map Prod.fst →
        (∃ e ∈ l, canonicalMIMEHeaderKey e.1 = k) ∨ k ∈ acc.map Prod.fst
  | [], _, h => Or.inr h
  | e :: l, acc, h => by
    rcases @mem_keys_foldl_foldl_add k l (e.2.foldl (fun h v => Header.add h e.1 v) acc) h
      with ⟨e', he', hk⟩ | h
    · exact Or.inl ⟨e', List.mem_cons_of_mem _ he', hk⟩
    · rcases mem_keys_foldl_add h with h | h
      · exact Or.inl ⟨e, List.mem_cons_self _ _, h.symm⟩
      · exact Or.inr h

/-! ## What is forwarded -/

section Forwarded
variable (reqHeader : RequestHeader)

/-- The entries the checks let through. -/
abbrev kept : Header := reqHeader.entries.filter (fun e => !skipsHeader e.1 e.2)

theorem kept_nodup : ((kept reqHeader).map Prod.fst).Nodup :=
  reqHeader.names_nodup.sublist ((List.filter_sublist _).map _)

theorem lookup_sessionHeaders (k : List Byte) :
    GoMap.lookup (sessionHeaders reqHeader) k = ((kept reqHeader).find? (·.1 = k)).map (·.2) := by
  unfold sessionHeaders
  rw [forwardHeaders_eq, lookup_foldl_set k _ _ (kept_nodup reqHeader)]
  cases (kept reqHeader).find? (·.1 = k) <;> rfl

theorem get_outReqHeader (k : List Byte) :
    Header.get (outReqHeader reqHeader) k =
      ((kept reqHeader).filter (canonicalMIMEHeaderKey ·.1 = k)).flatMap (·.2) := by
  unfold outReqHeader
  rw [forwardHeaders_eq, get_foldl_foldl_add]
  rfl

theorem not_skipsHeader_of_mem_kept {e : List Byte × List (List Byte)} (he : e ∈ kept reqHeader) :
    ∀ n ∈ excludedNames, equalFold e.1 n = false := by
  have := (List.mem_filter.1 he).2
  intro n hn
  by_contra hk
  simp only [Bool.not_eq_false] at hk
  simp [(skipsHeader_iff e.1 e.2).2 ⟨n, hn, hk⟩] at this

/-- No name of `headers` equals an excluded one up to case. -/
theorem sessionHeaders_not_excluded {k : List Byte}
    (hk : k ∈ (sessionHeaders reqHeader).map Prod.fst) :
    ∀ n ∈ excludedNames, equalFold k n = false := by
  rw [GoMap.mem_keys_iff, lookup_sessionHeaders] at hk
  cases hf : (kept reqHeader).find? (·.1 = k) with
  | none => simp [hf] at hk
  | some e =>
    have hek : e.1 = k := by simpa using List.find?_some hf
    rw [← hek]
    exact not_skipsHeader_of_mem_kept reqHeader (List.mem_of_find?_eq_some hf)

/-- No name of `outReq.Header` equals an excluded one up to case. -/
theorem outReqHeader_not_excluded {k : List Byte}
    (hk : k ∈ (outReqHeader reqHeader).map Prod.fst) :
    ∀ n ∈ excludedNames, equalFold k n = false := by
  rw [outReqHeader, forwardHeaders_eq] at hk
  rcases mem_keys_foldl_foldl_add hk with ⟨e, he, rfl⟩ | h
  · intro n hn
    rw [equalFold_canonicalMIMEHeaderKey]
    exact not_skipsHeader_of_mem_kept reqHeader he n hn
  · cases h

/-- An entry whose name is not excluded passes the checks. -/
theorem mem_kept {k : List Byte} {vs : List (List Byte)} (hmem : (k, vs) ∈ reqHeader.entries)
    (hk : ∀ n ∈ excludedNames, equalFold k n = false) : (k, vs) ∈ kept reqHeader := by
  refine List.mem_filter.2 ⟨hmem, ?_⟩
  show (!skipsHeader k vs) = true
  rw [Bool.not_eq_true', Bool.eq_false_iff]
  intro hs
  obtain ⟨n, hn, hkn⟩ := (skipsHeader_iff k vs).1 hs
  simp [hk n hn] at hkn

/-- Names are distinct, so the lookup of a kept entry's name finds that entry. -/
theorem find?_kept {k : List Byte} {vs : List (List Byte)} (hkept : (k, vs) ∈ kept reqHeader) :
    (kept reqHeader).find? (·.1 = k) = some (k, vs) := by
  cases hf : (kept reqHeader).find? (·.1 = k) with
  | none => exact absurd (List.find?_eq_none.1 hf _ hkept) (by simp)
  | some e =>
    have hek : e.1 = k := by simpa using List.find?_some hf
    rw [List.inj_on_of_nodup_map (kept_nodup reqHeader) (List.mem_of_find?_eq_some hf) hkept hek]

/-- A kept entry's values lie, in order, within those of its canonical name. -/
theorem infix_get_outReqHeader {k : List Byte} {vs : List (List Byte)}
    (hkept : (k, vs) ∈ kept reqHeader) :
    vs <:+: Header.get (outReqHeader reqHeader) (canonicalMIMEHeaderKey k) := by
  rw [get_outReqHeader]
  obtain ⟨l₁, l₂, hsplit⟩ := List.append_of_mem
    (List.mem_filter.2 ⟨hkept, by simp⟩ :
      (k, vs) ∈ (kept reqHeader).filter (canonicalMIMEHeaderKey ·.1 = canonicalMIMEHeaderKey k))
  rw [hsplit, List.flatMap_append, List.flatMap_cons]
  exact List.infix_append _ _ _ |>.trans (by rw [List.append_assoc])

/-- A kept entry whose canonical name no other name shares has all the values of that name. -/
theorem get_outReqHeader_of_unique {k : List Byte} {vs : List (List Byte)}
    (hkept : (k, vs) ∈ kept reqHeader)
    (huniq : ∀ e ∈ reqHeader.entries, canonicalMIMEHeaderKey e.1 = canonicalMIMEHeaderKey k →
      e.1 = k) :
    Header.get (outReqHeader reqHeader) (canonicalMIMEHeaderKey k) = vs := by
  rw [get_outReqHeader]
  generalize hL : (kept reqHeader).filter
    (canonicalMIMEHeaderKey ·.1 = canonicalMIMEHeaderKey k) = L
  have hmemL : (k, vs) ∈ L := hL ▸ List.mem_filter.2 ⟨hkept, by simp⟩
  have hall : ∀ e ∈ L, e = (k, vs) := fun e he => by
    rw [← hL] at he
    obtain ⟨hek, hc⟩ := List.mem_filter.1 he
    exact List.inj_on_of_nodup_map (kept_nodup reqHeader) hek hkept
      (huniq e (List.mem_filter.1 hek).1 (of_decide_eq_true hc))
  have hnd : L.Nodup := hL ▸
    ((kept_nodup reqHeader).sublist ((List.filter_sublist _).map _)).of_map _
  have hsingle : L = [(k, vs)] := by
    by_contra hne
    rcases (hnd.ne_singleton_iff _).1 hne with rfl | ⟨e, he, hek⟩
    · exact List.not_mem_nil _ hmemL
    · exact hek (hall e he)
  simp [hsingle]

/-- **The headers the proxy forwards.** For every request header: no name of `headers`
(`handleHTTPWithSession`) or of `outReq.Header` (`handleHTTPDirect`) equals, up to case, a
control header of the proxy or a hop-by-hop name; and every entry with any other name is in
`headers` unchanged, while its values lie, in order, within the values `outReq.Header` holds
for its canonical name, and are all of them when no other name has that canonical form. -/
theorem forwarded_headers :
    (∀ k ∈ (sessionHeaders reqHeader).map Prod.fst, ∀ n ∈ excludedNames, equalFold k n = false) ∧
    (∀ k ∈ (outReqHeader reqHeader).map Prod.fst, ∀ n ∈ excludedNames, equalFold k n = false) ∧
    ∀ k vs, (k, vs) ∈ reqHeader.entries → (∀ n ∈ excludedNames, equalFold k n = false) →
      GoMap.lookup (sessionHeaders reqHeader) k = some vs ∧
      vs <:+: Header.get (outReqHeader reqHeader) (canonicalMIMEHeaderKey k) ∧
      ((∀ e ∈ reqHeader.entries, canonicalMIMEHeaderKey e.1 = canonicalMIMEHeaderKey k → e.1 = k) →
        Header.get (outReqHeader reqHeader) (canonicalMIMEHeaderKey k) = vs) := by
  refine ⟨fun k => sessionHeaders_not_excluded reqHeader, fun k => outReqHeader_not_excluded reqHeader,
    fun k vs hmem hk => ?_⟩
  have hkept := mem_kept reqHeader hmem hk
  refine ⟨?_, infix_get_outReqHeader reqHeader hkept, get_outReqHeader_of_unique reqHeader hkept⟩
  rw [lookup_sessionHeaders, find?_kept reqHeader hkept]
  rfl

end Forwarded

end HttpCloak.Forward
