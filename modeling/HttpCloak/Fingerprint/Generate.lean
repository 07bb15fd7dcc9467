import HttpCloak.Fingerprint.FetchSite

/-!
# `GenerateNavigationHeaders` and `GenerateXHRHeaders`

`session/state.go`, package `fingerprint`. `GenerateNavigationHeaders` copies the preset's
headers into a fresh map and applies the navigation context; `GenerateXHRHeaders` starts from
`User-Agent`, `Accept`, `Accept-Encoding`, `Accept-Language` and those of the three
low-entropy client hints the preset has, and applies the context of an XHR from `referrer` to
`targetURL`.

`generateNavigationHeaders_lookup` and `generateXHRHeaders_lookup` give the whole result, name
by name, for every preset and every pair of URLs.
-/

namespace HttpCloak.Fingerprint

/-- `FetchDestDocument`. -/
def fetchDestDocument : String := "document"

/-- `NavigationContext()`. -/
def navigationContext : RequestContext :=
  ⟨fetchModeNavigate, fetchDestDocument, fetchSiteNone, true, "", ""⟩

/-- The fields of `*Preset` the two generators read. `Headers` is a Go map, so its names are
distinct. -/
structure Preset where
  userAgent : String
  headers : GoMap String String
  names_nodup : (headers.map Prod.fst).Nodup

/-- `h.GenerateNavigationHeaders()`. -/
def generateNavigationHeaders (preset : Preset) : GoMap String String :=
  let headers := preset.headers.foldl (fun headers e => GoMap.set headers e.1 e.2) []
  applyToHeaders headers navigationContext

/-- `if v, ok := h.preset.Headers[name]; ok { headers[name] = v }`, the copy of one client
hint. -/
def copyHint (preset : Preset) (headers : GoMap String String) (name : String) :
    GoMap String String :=
  match GoMap.lookup preset.headers name with
  | some v => GoMap.set headers name v
  | none => headers

/-- The map `GenerateXHRHeaders` starts from: the basic headers, then the client hints the
preset has. -/
def xhrBaseHeaders (preset : Preset) : GoMap String String :=
  let headers := GoMap.set [] "User-Agent" preset.userAgent
  let headers := GoMap.set headers "Accept" "*/*"
  let headers := GoMap.set headers "Accept-Encoding" "gzip, deflate, br, zstd"
  let headers := GoMap.set headers "Accept-Language" "en-US,en;q=0.9"
  let headers := copyHint preset headers "sec-ch-ua"
  let headers := copyHint preset headers "sec-ch-ua-mobile"
  copyHint preset headers "sec-ch-ua-platform"

/-- `h.GenerateXHRHeaders(referrer, targetURL)`: the base map, then the XHR context. -/
def generateXHRHeaders (preset : Preset) (referrer targetURL : String) : GoMap String String :=
  applyToHeaders (xhrBaseHeaders preset) (xhrContext referrer targetURL)

/-- The low-entropy client hints an XHR copies from the preset. -/
def xhrHints : List String := ["sec-ch-ua", "sec-ch-ua-mobile", "sec-ch-ua-platform"]

/-- The header a navigation carries under `k`: the navigation's own values over the preset's
headers. -/
def navigationHeader (preset : Preset) (k : String) : Option String :=
  if k = "Sec-Fetch-Site" then some fetchSiteNone
  else if k = "Sec-Fetch-Mode" then some fetchModeNavigate
  else if k = "Sec-Fetch-Dest" then some fetchDestDocument
  else if k = "Sec-Fetch-User" then some "?1"
  else if k = "Upgrade-Insecure-Requests" then some "1"
  else if k = "Accept" then some navigateAccept
  else GoMap.lookup preset.headers k

/-- The header an XHR from `referrer` to `targetURL` carries under `k`. -/
def xhrHeader (preset : Preset) (referrer targetURL : String) (k : String) : Option String :=
  if k = "Sec-Fetch-Site" then some (calculateFetchSite (bytesOf referrer) (bytesOf targetURL))
  else if k = "Sec-Fetch-Mode" then some fetchModeCORS
  else if k = "Sec-Fetch-Dest" then some fetchDestXHR
  else if k = "Referer" then if referrer = "" then none else some referrer
  else if k = "User-Agent" then some preset.userAgent
  else if k = "Accept" then some "*/*"
  else if k = "Accept-Encoding" then some "gzip, deflate, br, zstd"
  else if k = "Accept-Language" then some "en-US,en;q=0.9"
  else if k ∈ xhrHints then GoMap.lookup preset.headers k
  else none

theorem lookup_copyHint (preset : Preset) (headers : GoMap String String) (name k : String) :
    GoMap.lookup (copyHint preset headers name) k =
      if name = k then (GoMap.lookup preset.headers k).or (GoMap.lookup headers k)
      else GoMap.lookup headers k := by
  unfold copyHint
  split <;> rename_i h <;> by_cases hk : name = k <;> simp [hk] at h ⊢ <;> simp [h]

/-- What the base map holds: the four basic headers, and the client hints the preset has. -/
theorem lookup_xhrBaseHeaders (preset : Preset) (k : String) :
    GoMap.lookup (xhrBaseHeaders preset) k =
      if k = "User-Agent" then some preset.userAgent
      else if k = "Accept" then some "*/*"
      else if k = "Accept-Encoding" then some "gzip, deflate, br, zstd"
      else if k = "Accept-Language" then some "en-US,en;q=0.9"
      else if k ∈ xhrHints then GoMap.lookup preset.headers k
      else none := by
  simp only [xhrBaseHeaders, lookup_copyHint, GoMap.lookup_set, GoMap.lookup_nil, xhrHints,
    List.mem_cons, List.mem_singleton, List.not_mem_nil, or_false]
  by_cases h1 : k = "User-Agent"; · subst h1; rfl
  by_cases h2 : k = "Accept"; · subst h2; rfl
  by_cases h3 : k = "Accept-Encoding"; · subst h3; rfl
  by_cases h4 : k = "Accept-Language"; · subst h4; rfl
  by_cases h5 : k = "sec-ch-ua"; · subst h5; simp
  by_cases h6 : k = "sec-ch-ua-mobile"; · subst h6; simp
  by_cases h7 : k = "sec-ch-ua-platform"; · subst h7; simp
  simp [h1, h2, h3, h4, h5, h6, h7, eq_comm (b := k)]

/-- `ApplyToHeaders` under a context that does not navigate and has no referrer leaves
`Referer` and `Cache-Control` as a `cors` request has them: `Referer` as the map had it, and
no `Cache-Control`. -/
theorem lookup_applyToHeaders_cors (headers : GoMap String String) (ctx : RequestContext)
    (hmode : ctx.mode = fetchModeCORS) :
    GoMap.lookup (applyToHeaders headers ctx) "Cache-Control" = none ∧
      GoMap.lookup (applyToHeaders headers ctx) "Referer" =
        if ctx.referrer = "" then GoMap.lookup headers "Referer" else some ctx.referrer := by
  refine ⟨?_, ?_⟩
  · rw [lookup_applyToHeaders_of_ne _ _ (by decide)]
    simp [applyModeHeaders, hmode, fetchModeCORS, fetchModeNavigate]
  · unfold applyToHeaders
    by_cases hr : ctx.referrer = ""
    · rw [if_neg (by simpa using hr), if_pos hr, lookup_applyModeHeaders_other _ _ (by decide),
        lookup_applySecFetch]
      simp
    · rw [if_pos hr, if_neg hr]; simp

/-- **The headers of a navigation.** For every preset: `Sec-Fetch-Site: none`,
`Sec-Fetch-Mode: navigate`, `Sec-Fetch-Dest: document`, `Sec-Fetch-User: ?1`,
`Upgrade-Insecure-Requests: 1` and the document `Accept`, and under every other name, in
whatever case it is written, the preset's header, `Referer` and `Cache-Control` included. -/
theorem generateNavigationHeaders_lookup (preset : Preset) (k : String) :
    GoMap.lookup (generateNavigationHeaders preset) k = navigationHeader preset k := by
  have hcopy : ∀ k, GoMap.lookup (preset.headers.foldl (fun headers e => GoMap.set headers e.1 e.2)
      []) k = GoMap.lookup preset.headers k := fun k => by
    rw [GoMap.lookup_foldl_set k _ _ preset.names_nodup, GoMap.lookup_nil, Option.or_none]
  obtain ⟨hsite, hmode, hdest, huser, haccept, hother⟩ :=
    applyToHeaders_lookup (preset.headers.foldl (fun headers e => GoMap.set headers e.1 e.2) [])
      navigationContext
  obtain ⟨hacc, huir⟩ := haccept (by decide)
  unfold generateNavigationHeaders navigationHeader
  by_cases h1 : k = "Sec-Fetch-Site"; · subst h1; simpa [navigationContext] using hsite
  by_cases h2 : k = "Sec-Fetch-Mode"; · subst h2; simpa [navigationContext] using hmode
  by_cases h3 : k = "Sec-Fetch-Dest"; · subst h3; simpa [navigationContext] using hdest
  by_cases h4 : k = "Sec-Fetch-User"; · subst h4; simpa [navigationContext] using huser
  by_cases h5 : k = "Upgrade-Insecure-Requests"; · subst h5; simpa [navigationContext] using huir
  by_cases h6 : k = "Accept"; · subst h6; simpa [navigationContext, modeAccept] using hacc
  simp only [h1, h2, h3, h4, h5, h6, if_false]
  by_cases h7 : k = "Cache-Control"
  · subst h7
    rw [lookup_applyToHeaders_of_ne _ _ (by decide), ← hcopy]
    simp [applyModeHeaders, applySecFetch, navigationContext, generateSecFetchHeaders]
  by_cases h8 : k = "Referer"
  · subst h8
    rw [applyToHeaders, if_neg (by simp [navigationContext]),
      lookup_applyModeHeaders_other _ _ (by decide), lookup_applySecFetch, ← hcopy]
    simp
  rw [hother k (by simp [coherenceNames, h1, h2, h3, h4, h5, h6, h7, h8]), hcopy]

/-- **The headers of an XHR.** For every preset, referrer and target: `Sec-Fetch-Site` as
`calculateFetchSite` classifies the two URLs, `Sec-Fetch-Mode: cors`, `Sec-Fetch-Dest: empty`,
`Referer` exactly for a non-empty referrer, the preset's `User-Agent`, `Accept: */*`, the fixed
`Accept-Encoding` and `Accept-Language`, the preset's three low-entropy client hints where it
has them, and nothing else: no `Sec-Fetch-User`, no `Upgrade-Insecure-Requests`, no
`Cache-Control`. -/
theorem generateXHRHeaders_lookup (preset : Preset) (referrer targetURL k : String) :
    GoMap.lookup (generateXHRHeaders preset referrer targetURL) k =
      xhrHeader preset referrer targetURL k := by
  obtain ⟨hsite, hmode, hdest, huser, haccept, hother⟩ :=
    applyToHeaders_lookup (xhrBaseHeaders preset) (xhrContext referrer targetURL)
  obtain ⟨hacc, huir⟩ := haccept rfl
  obtain ⟨hcc, href⟩ := lookup_applyToHeaders_cors (xhrBaseHeaders preset)
    (xhrContext referrer targetURL) rfl
  unfold generateXHRHeaders xhrHeader
  by_cases h1 : k = "Sec-Fetch-Site"; · subst h1; exact hsite
  by_cases h2 : k = "Sec-Fetch-Mode"; · subst h2; exact hmode
  by_cases h3 : k = "Sec-Fetch-Dest"; · subst h3; exact hdest
  simp only [h1, h2, h3, if_false]
  by_cases h4 : k = "Referer"
  · subst h4
    rw [href, lookup_xhrBaseHeaders]
    rfl
  by_cases h5 : k = "Sec-Fetch-User"; · subst h5; exact huser
  by_cases h6 : k = "Upgrade-Insecure-Requests"; · subst h6; exact huir
  by_cases h7 : k = "Accept"; · subst h7; exact hacc
  by_cases h8 : k = "Cache-Control"; · subst h8; exact hcc
  rw [hother k (by simp [coherenceNames, h1, h2, h3, h4, h5, h6, h7, h8]), lookup_xhrBaseHeaders]
  simp [h4, h7]

end HttpCloak.Fingerprint
