import HttpCloak.LocalProxy.Forward
import HttpCloak.LocalProxy.Tunnel

/-!
# Where `handleHTTP` sends a plain proxy request

`local_proxy.go`. A request that is not a `CONNECT` goes to `handleHTTP`. Its target URL is
`req.URL.String()` when that starts with `http://` or `https://`; otherwise `handleHTTP`
builds `http://` + host + `req.URL.RequestURI()` from `req.URL.Host` or, failing that,
`req.Host`, and answers `400 Missing host` when both are empty. An `X-HTTPCloak-Scheme` header
that `strings.EqualFold` matches with `https` turns an `http://` target into `https://`. An
`https://` target goes to `handleHTTPWithSession` and a fingerprinting session, any other to
`handleHTTPDirect` and Go's own `http.Client`.

`strings.EqualFold` follows Unicode's simple case folding, under which `s` has a third
spelling, the long s `ſ`. `equalFoldWord` is the comparison with a word of lower-case ASCII
letters, and `equalFoldWord_ascii` shows that on ASCII input it is the ASCII comparison
`equalFold`.

`handleHTTP_route` says where every request goes: it is refused when its URL has no scheme
and no host is named; otherwise its target is a scheme and a rest, and it goes to
the session path with `https://` and the rest when the target is `https://` or the header
asks for it, and to the direct path with `http://` and the rest when not. So an `https://`
target never takes the direct path, and the part behind the scheme is passed on unchanged.
-/

namespace HttpCloak.Route

open Tunnel Forward

/-- The fields of the request `handleHTTP` reads. `String()` and `RequestURI()` are methods of
`net/url`'s `URL`, so the model takes their results. -/
structure HTTPRequest where
  /-- `req.URL.String()`. -/
  url : List Byte
  /-- `req.URL.Host`. -/
  urlHost : List Byte
  /-- `req.URL.RequestURI()`. -/
  requestURI : List Byte
  /-- `req.Host`. -/
  host : List Byte
  /-- `req.Header`. -/
  header : Header
  deriving DecidableEq, Repr

/-- `req.Header.Get(key)`: the first value under the canonical form of `key`, empty when there
is none. -/
def headerGet (h : Header) (key : List Byte) : List Byte :=
  (Header.get h (canonicalMIMEHeaderKey key)).headD []

/-- The UTF-8 spellings of a lower-case ASCII letter under Unicode's simple case folding,
whose orbits `strings.EqualFold` walks with `unicode.SimpleFold`: the letter and its upper
case, and for `k` also the Kelvin sign U+212A, for `s` the long s U+017F. -/
def foldSpellings (c : Byte) : List (List Byte) :=
  [[c], [c - 32]] ++ (if c = 107 then [[226, 132, 170]] else if c = 115 then [[197, 191]] else [])

/-- `strings.EqualFold(s, t)` for a word `t` of lower-case ASCII letters: `s` spells the
letters of `t` one after another. -/
def equalFoldWord : List Byte → List Byte → Bool
  | s, [] => s.isEmpty
  | s, c :: t => (foldSpellings c).any fun sp => sp.isPrefixOf s && equalFoldWord (s.drop sp.length) t

/-- The target URL `handleHTTP` builds; `none` where it answers `Missing host`. -/
def buildTargetURL (req : HTTPRequest) : Option (List Byte) :=
  if !(bytesOf "http://").isPrefixOf req.url && !(bytesOf "https://").isPrefixOf req.url then
    if req.urlHost ≠ [] then some (bytesOf "http://" ++ req.urlHost ++ req.requestURI)
    else if req.host ≠ [] then some (bytesOf "http://" ++ req.host ++ req.requestURI)
    else none
  else some req.url

/-- `if strings.EqualFold(schemeOverride, "https") && strings.HasPrefix(targetURL, "http://")`,
the target becomes `"https://" + strings.TrimPrefix(targetURL, "http://")`. -/
def upgradeScheme (schemeOverride targetURL : List Byte) : List Byte :=
  if equalFoldWord schemeOverride (bytesOf "https") && (bytesOf "http://").isPrefixOf targetURL then
    bytesOf "https://" ++ targetURL.drop (bytesOf "http://").length
  else targetURL

/-- How `handleHTTP` ends: refused with an error response, or handed with its target URL to
`handleHTTPWithSession` or to `handleHTTPDirect`. -/
inductive Dispatch where
  | refused (client : Conn)
  | withSession (targetURL : List Byte)
  | direct (targetURL : List Byte)
  deriving DecidableEq, Repr

/-- `p.handleHTTP(clientConn, req, reader)`. -/
def handleHTTP (clientConn : Conn) (req : HTTPRequest) : Dispatch :=
  match buildTargetURL req with
  | none => .refused (sendError clientConn 400 "Missing host")
  | some targetURL =>
    let targetURL := upgradeScheme (headerGet req.header headerScheme) targetURL
    if (bytesOf "https://").isPrefixOf targetURL then .withSession targetURL
    else .direct targetURL

/-! ## Case folding -/

/-- The two bytes whose lower case is a lower-case letter: the letter and its upper case. -/
theorem lowerByte_eq_iff {b c : Byte} (hc : isLowerByte c) :
    lowerByte b = lowerByte c ↔ b = c ∨ b = c - 32 := by
  rw [isLowerByte_iff] at hc
  have h32 : (c - 32).toNat = c.toNat - 32 :=
    UInt8.toNat_sub_of_le _ _ (by rw [UInt8.le_def, BitVec.le_def]; show 32 ≤ c.toNat; omega)
  simp only [byte_eq_iff, toNat_lowerByte, h32]
  split_ifs <;> omega

/-- On ASCII input, comparing with a lower-case ASCII word up to Unicode folding is comparing
up to ASCII case: the spellings outside ASCII never match. -/
theorem equalFoldWord_ascii : ∀ (s t : List Byte), (∀ b ∈ s, b < 128) →
    (∀ c ∈ t, isLowerByte c) → equalFoldWord s t = equalFold s t
  | s, [], _, _ => by cases s <;> simp [equalFoldWord, equalFold]
  | [], c :: t, _, _ => by
    simp only [equalFoldWord, foldSpellings, equalFold]
    split_ifs <;> simp
  | b :: s, c :: t, hs, ht => by
    have ih := equalFoldWord_ascii s t (fun x hx => hs x (.tail _ hx)) (fun x hx => ht x (.tail _ hx))
    have hb : b.toNat < 128 := hs b (.head _)
    have h226 : (226 : Byte) ≠ b := fun h => by subst h; exact absurd hb (by decide)
    have h197 : (197 : Byte) ≠ b := fun h => by subst h; exact absurd hb (by decide)
    have hlow := lowerByte_eq_iff (b := b) (ht c (.head _))
    simp only [equalFoldWord, foldSpellings, equalFold, List.map_cons, List.cons.injEq] at ih ⊢
    rw [Bool.eq_iff_iff]
    split_ifs <;> simp [List.isPrefixOf, h226, h197, hlow, ih, eq_comm (a := b), or_and_right]

/-- Upper case and the long s pass; the long s is not an ASCII spelling. -/
example : equalFoldWord (bytesOf "HTTPS") (bytesOf "https") = true ∧
    equalFoldWord (bytesOf "httpſ") (bytesOf "https") = true ∧
    equalFold (bytesOf "httpſ") (bytesOf "https") = false := by
  decide

/-! ## The target URL -/

/-- `"http://"` for `false` and `"https://"` for `true`. -/
def scheme (secure : Bool) : List Byte := bytesOf (if secure then "https://" else "http://")

theorem scheme_true : scheme true = bytesOf "https://" := rfl

theorem scheme_false : scheme false = bytesOf "http://" := rfl

/-- A target starts with one scheme only: `http://` is no prefix of `https://`, nor the other
way round. -/
theorem isPrefixOf_scheme (secure secure' : Bool) (rest : List Byte) :
    (scheme secure).isPrefixOf (scheme secure' ++ rest) = (secure == secure') := by
  cases secure <;> cases secure' <;>
    first | rfl | exact List.isPrefixOf_iff_prefix.mpr (List.prefix_append _ _)

/-- Every target `buildTargetURL` builds is a scheme and a rest. -/
theorem buildTargetURL_scheme {req : HTTPRequest} {url : List Byte}
    (h : buildTargetURL req = some url) : ∃ secure rest, url = scheme secure ++ rest := by
  unfold buildTargetURL at h
  split_ifs at h with h1 <;> cases h
  -- the two targets built from a host
  iterate 2 exact ⟨false, _, List.append_assoc _ _ _⟩
  -- `req.URL.String()`, which has one of the two schemes
  have : (scheme false).isPrefixOf req.url ∨ (scheme true).isPrefixOf req.url := by
    simpa only [Bool.and_eq_true, Bool.not_eq_true', not_and_or, Bool.not_eq_false] using h1
  obtain ⟨secure, hs⟩ : ∃ secure, (scheme secure).isPrefixOf req.url := this.elim (⟨_, ·⟩) (⟨_, ·⟩)
  obtain ⟨rest, hr⟩ := List.isPrefixOf_iff_prefix.mp hs
  exact ⟨secure, rest, hr.symm⟩

/-- `Missing host`: the URL has no scheme, and neither the URL nor the request names a host. -/
theorem buildTargetURL_eq_none_iff (req : HTTPRequest) :
    buildTargetURL req = none ↔
      (bytesOf "http://").isPrefixOf req.url = false ∧
        (bytesOf "https://").isPrefixOf req.url = false ∧ req.urlHost = [] ∧ req.host = [] := by
  unfold buildTargetURL
  split_ifs <;> simp_all

/-- The upgrade turns the scheme `http://` into `https://` when the header matches, and
changes nothing else. -/
theorem upgradeScheme_scheme (v : List Byte) (secure : Bool) (rest : List Byte) :
    upgradeScheme v (scheme secure ++ rest) =
      scheme (secure || equalFoldWord v (bytesOf "https")) ++ rest := by
  unfold upgradeScheme
  rw [← scheme_false, ← scheme_true, isPrefixOf_scheme]
  cases secure <;> cases equalFoldWord v (bytesOf "https") <;> simp [List.drop_left]

/-- **Where a plain proxy request goes.** For every client connection and every request:
either the URL has no scheme and neither it nor the request names a host, and the client
receives `400 Missing host`; or the target is a scheme and a rest, and the request goes with
the same rest to the fingerprinting session path as `https://` when its target is `https://`
or its `X-HTTPCloak-Scheme` header matches `https` up to case folding, and to the direct path
as `http://` otherwise. -/
theorem handleHTTP_route (clientConn : Conn) (req : HTTPRequest) :
    (((bytesOf "http://").isPrefixOf req.url = false ∧
        (bytesOf "https://").isPrefixOf req.url = false ∧ req.urlHost = [] ∧ req.host = []) ∧
        handleHTTP clientConn req = .refused (sendError clientConn 400 "Missing host")) ∨
      ∃ secure rest, buildTargetURL req = some (scheme secure ++ rest) ∧
        handleHTTP clientConn req =
          if secure || equalFoldWord (headerGet req.header headerScheme) (bytesOf "https") then
            .withSession (scheme true ++ rest)
          else .direct (scheme false ++ rest) := by
  unfold handleHTTP
  cases h : buildTargetURL req with
  | none => exact .inl ⟨(buildTargetURL_eq_none_iff req).mp h, rfl⟩
  | some url =>
    obtain ⟨secure, rest, rfl⟩ := buildTargetURL_scheme h
    refine .inr ⟨secure, rest, rfl, ?_⟩
    simp only [upgradeScheme_scheme, ← scheme_true, isPrefixOf_scheme]
    cases secure || equalFoldWord (headerGet req.header headerScheme) (bytesOf "https") <;> rfl

/-- An origin-form request to a host, upgraded by a header that spells `https` with a long s. -/
example : handleHTTP ⟨[], []⟩ ⟨bytesOf "/index.html", [], bytesOf "/index.html",
    bytesOf "example.com", [(bytesOf "X-Httpcloak-Scheme", [bytesOf "httpſ"])]⟩ =
      .withSession (bytesOf "https://example.com/index.html") := by
  decide

end HttpCloak.Route
