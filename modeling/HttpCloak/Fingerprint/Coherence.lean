import HttpCloak.Map

/-!
# `HeaderCoherence.ApplyToHeaders`

`session/state.go`, package `fingerprint`. `ApplyToHeaders` writes the `Sec-Fetch-*` headers
that `GenerateSecFetchHeaders` derives from a request context into a `map[string]string`,
then the headers of the context's fetch mode: for `navigate`, `Upgrade-Insecure-Requests` and
the document `Accept`; for `cors` and `same-origin`, `Accept: */*` without
`Upgrade-Insecure-Requests` and `Cache-Control`; for `no-cors`, the `Accept` of the
destination, likewise. Map keys are compared exactly, and a mode the `switch` does not list
(`websocket`, or any other string) writes neither.

`applyToHeaders_lookup` says what the result holds under each of the names it writes, for
every map and every context; `applyToHeaders_depends_on_map` gives two maps and a context
for which those names do not depend on the context alone.
-/

namespace HttpCloak.Fingerprint

/-- `FetchModeNavigate`. -/
def fetchModeNavigate : String := "navigate"
/-- `FetchModeCORS`. -/
def fetchModeCORS : String := "cors"
/-- `FetchModeNoCORS`. -/
def fetchModeNoCORS : String := "no-cors"
/-- `FetchModeSameOrigin`. -/
def fetchModeSameOrigin : String := "same-origin"
/-- `FetchModeWebSocket`. -/
def fetchModeWebSocket : String := "websocket"

/-- `FetchDestImage`. -/
def fetchDestImage : String := "image"
/-- `FetchDestScript`. -/
def fetchDestScript : String := "script"
/-- `FetchDestStyle`. -/
def fetchDestStyle : String := "style"

/-- `RequestContext`; `FetchMode`, `FetchDest` and `FetchSite` are string types. -/
structure RequestContext where
  mode : String
  dest : String
  site : String
  isUserTriggered : Bool
  referrer : String
  targetURL : String
  deriving DecidableEq, Repr

/-- `SecFetchHeaders`. -/
structure SecFetchHeaders where
  site : String
  mode : String
  dest : String
  user : String
  deriving DecidableEq, Repr

/-- `GenerateSecFetchHeaders(ctx)`. -/
def generateSecFetchHeaders (ctx : RequestContext) : SecFetchHeaders :=
  ⟨ctx.site, ctx.mode, ctx.dest,
    if ctx.isUserTriggered && ctx.mode = fetchModeNavigate then "?1" else ""⟩

/-- The document `Accept` of a navigation. -/
def navigateAccept : String :=
  "text/html,application/xhtml+xml,application/xml;q=0.9,image/avif,image/webp,image/apng,*/*;q=0.8,application/signed-exchange;v=b3;q=0.7"

/-- The `Accept` of a `no-cors` request, by destination. -/
def noCORSAccept (dest : String) : String :=
  if dest = fetchDestImage then "image/avif,image/webp,image/apng,image/svg+xml,image/*,*/*;q=0.8"
  else if dest = fetchDestStyle then "text/css,*/*;q=0.1"
  else if dest = fetchDestScript then "*/*"
  else "*/*"

/-- The `switch ctx.Mode` of `ApplyToHeaders`. -/
def applyModeHeaders (headers : GoMap String String) (ctx : RequestContext) : GoMap String String :=
  if ctx.mode = fetchModeNavigate then
    GoMap.set (GoMap.set headers "Upgrade-Insecure-Requests" "1") "Accept" navigateAccept
  else if ctx.mode = fetchModeCORS || ctx.mode = fetchModeSameOrigin then
    GoMap.delete (GoMap.delete (GoMap.set headers "Accept" "*/*") "Upgrade-Insecure-Requests")
      "Cache-Control"
  else if ctx.mode = fetchModeNoCORS then
    GoMap.delete (GoMap.delete (GoMap.set headers "Accept" (noCORSAccept ctx.dest))
      "Upgrade-Insecure-Requests") "Cache-Control"
  else headers

/-- The `Sec-Fetch-*` part of `ApplyToHeaders`. -/
def applySecFetch (headers : GoMap String String) (ctx : RequestContext) : GoMap String String :=
  let secFetch := generateSecFetchHeaders ctx
  let headers := GoMap.set headers "Sec-Fetch-Site" secFetch.site
  let headers := GoMap.set headers "Sec-Fetch-Mode" secFetch.mode
  let headers := GoMap.set headers "Sec-Fetch-Dest" secFetch.dest
  if secFetch.user ≠ "" then GoMap.set headers "Sec-Fetch-User" secFetch.user
  else GoMap.delete headers "Sec-Fetch-User"

/-- `h.ApplyToHeaders(headers, ctx)`: the map afterwards. -/
def applyToHeaders (headers : GoMap String String) (ctx : RequestContext) : GoMap String String :=
  let headers := applyModeHeaders (applySecFetch headers ctx) ctx
  if ctx.referrer ≠ "" then GoMap.set headers "Referer" ctx.referrer else headers

/-- The modes the `switch` lists. -/
def listedMode (mode : String) : Bool :=
  mode = fetchModeNavigate || mode = fetchModeCORS || mode = fetchModeSameOrigin ||
    mode = fetchModeNoCORS

/-- The `Accept` a listed mode writes. -/
def modeAccept (ctx : RequestContext) : String :=
  if ctx.mode = fetchModeNavigate then navigateAccept
  else if ctx.mode = fetchModeNoCORS then noCORSAccept ctx.dest
  else "*/*"

/-- The names `ApplyToHeaders` writes or deletes. -/
def coherenceNames : List String :=
  ["Sec-Fetch-Site", "Sec-Fetch-Mode", "Sec-Fetch-Dest", "Sec-Fetch-User",
    "Upgrade-Insecure-Requests", "Accept", "Cache-Control", "Referer"]

/-- `Sec-Fetch-User` as `GenerateSecFetchHeaders` sets it: only for a user-triggered
navigation. -/
def secFetchUser (ctx : RequestContext) : Option String :=
  if ctx.isUserTriggered && ctx.mode = fetchModeNavigate then some "?1" else none

theorem lookup_applySecFetch (headers : GoMap String String) (ctx : RequestContext) (k : String) :
    GoMap.lookup (applySecFetch headers ctx) k =
      if "Sec-Fetch-User" = k then secFetchUser ctx
      else if "Sec-Fetch-Dest" = k then some ctx.dest
      else if "Sec-Fetch-Mode" = k then some ctx.mode
      else if "Sec-Fetch-Site" = k then some ctx.site
      else GoMap.lookup headers k := by
  unfold applySecFetch generateSecFetchHeaders secFetchUser
  cases ctx.isUserTriggered && ctx.mode = fetchModeNavigate <;> simp

theorem lookup_applyModeHeaders_other (headers : GoMap String String) (ctx : RequestContext)
    {k : String} (hk : k ∉ ["Upgrade-Insecure-Requests", "Accept", "Cache-Control"]) :
    GoMap.lookup (applyModeHeaders headers ctx) k = GoMap.lookup headers k := by
  simp only [List.mem_cons, List.mem_singleton, List.not_mem_nil, or_false, not_or] at hk
  obtain ⟨h1, h2, h3⟩ := hk
  unfold applyModeHeaders
  split_ifs <;> simp [Ne.symm h1, Ne.symm h2, Ne.symm h3]

theorem lookup_applyToHeaders_of_ne (headers : GoMap String String) (ctx : RequestContext)
    {k : String} (hk : k ≠ "Referer") :
    GoMap.lookup (applyToHeaders headers ctx) k =
      GoMap.lookup (applyModeHeaders (applySecFetch headers ctx) ctx) k := by
  unfold applyToHeaders
  split_ifs <;> simp [Ne.symm hk]

/-- **What `ApplyToHeaders` writes.** For every map and context: the three `Sec-Fetch-*`
headers of the context; `Sec-Fetch-User` exactly for a user-triggered navigation; for a
listed mode, its `Accept`, and `Upgrade-Insecure-Requests` exactly for `navigate`; and every
other name as the map had it. -/
theorem applyToHeaders_lookup (headers : GoMap String String) (ctx : RequestContext) :
    GoMap.lookup (applyToHeaders headers ctx) "Sec-Fetch-Site" = some ctx.site ∧
    GoMap.lookup (applyToHeaders headers ctx) "Sec-Fetch-Mode" = some ctx.mode ∧
    GoMap.lookup (applyToHeaders headers ctx) "Sec-Fetch-Dest" = some ctx.dest ∧
    GoMap.lookup (applyToHeaders headers ctx) "Sec-Fetch-User" =
      (if ctx.isUserTriggered && ctx.mode = fetchModeNavigate then some "?1" else none) ∧
    (listedMode ctx.mode →
      GoMap.lookup (applyToHeaders headers ctx) "Accept" = some (modeAccept ctx) ∧
      GoMap.lookup (applyToHeaders headers ctx) "Upgrade-Insecure-Requests" =
        if ctx.mode = fetchModeNavigate then some "1" else none) ∧
    ∀ k ∉ coherenceNames,
      GoMap.lookup (applyToHeaders headers ctx) k = GoMap.lookup headers k := by
  have hsec : ∀ k ∉ ["Upgrade-Insecure-Requests", "Accept", "Cache-Control"], k ≠ "Referer" →
      GoMap.lookup (applyToHeaders headers ctx) k = GoMap.lookup (applySecFetch headers ctx) k :=
    fun k h1 h2 => by rw [lookup_applyToHeaders_of_ne _ _ h2, lookup_applyModeHeaders_other _ _ h1]
  have hmode : listedMode ctx.mode → ctx.mode = fetchModeNavigate ∨ ctx.mode = fetchModeCORS ∨
      ctx.mode = fetchModeSameOrigin ∨ ctx.mode = fetchModeNoCORS := by
    simp only [listedMode, Bool.or_eq_true, decide_eq_true_eq]; tauto
  refine ⟨?_, ?_, ?_, ?_, fun hl => ?_, fun k hk => ?_⟩
  · rw [hsec _ (by decide) (by decide), lookup_applySecFetch]; simp
  · rw [hsec _ (by decide) (by decide), lookup_applySecFetch]; simp
  · rw [hsec _ (by decide) (by decide), lookup_applySecFetch]; simp
  · rw [hsec _ (by decide) (by decide), lookup_applySecFetch]; simp [secFetchUser]
  · rw [lookup_applyToHeaders_of_ne _ _ (by decide), lookup_applyToHeaders_of_ne _ _ (by decide)]
    rcases hmode hl with h | h | h | h <;>
      simp [applyModeHeaders, modeAccept, h, fetchModeNavigate, fetchModeCORS, fetchModeSameOrigin,
        fetchModeNoCORS]
  · simp only [coherenceNames, List.mem_cons, List.mem_singleton, List.not_mem_nil, or_false,
      not_or] at hk
    obtain ⟨h1, h2, h3, h4, h5, h6, h7, h8⟩ := hk
    rw [hsec k (by simp [h5, h6, h7]) h8, lookup_applySecFetch]
    simp [Ne.symm h1, Ne.symm h2, Ne.symm h3, Ne.symm h4]

/-- **The context headers depend on the map.** Under `websocket`, a mode the `switch` does not
list, `Accept` and `Upgrade-Insecure-Requests` are whatever the map held. Under `cors`, the
map's `sec-fetch-site` stays beside the `Sec-Fetch-Site` written, and its
`upgrade-insecure-requests` is not deleted. -/
theorem applyToHeaders_depends_on_map :
    GoMap.lookup (applyToHeaders [] ⟨"websocket", "empty", "same-origin", false, "", ""⟩)
        "Accept" = none ∧
      GoMap.lookup (applyToHeaders [("Accept", "text/html"), ("Upgrade-Insecure-Requests", "1")]
        ⟨"websocket", "empty", "same-origin", false, "", ""⟩) "Accept" = some "text/html" ∧
      GoMap.lookup (applyToHeaders [("Accept", "text/html"), ("Upgrade-Insecure-Requests", "1")]
        ⟨"websocket", "empty", "same-origin", false, "", ""⟩) "Upgrade-Insecure-Requests" = some "1" ∧
      GoMap.lookup (applyToHeaders [("sec-fetch-site", "none"), ("upgrade-insecure-requests", "1")]
        ⟨"cors", "empty", "same-origin", false, "", ""⟩) "sec-fetch-site" = some "none" ∧
      GoMap.lookup (applyToHeaders [("sec-fetch-site", "none"), ("upgrade-insecure-requests", "1")]
        ⟨"cors", "empty", "same-origin", false, "", ""⟩) "Sec-Fetch-Site" = some "same-origin" ∧
      GoMap.lookup (applyToHeaders [("sec-fetch-site", "none"), ("upgrade-insecure-requests", "1")]
        ⟨"cors", "empty", "same-origin", false, "", ""⟩) "upgrade-insecure-requests" = some "1" := by
  decide

end HttpCloak.Fingerprint
