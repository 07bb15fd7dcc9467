import HttpCloak.Net.URL
import HttpCloak.Fingerprint.Coherence

/-!
# `calculateFetchSite`

`session/state.go`, package `fingerprint`. `calculateFetchSite(referrer, targetURL)` parses
both URLs with `url.Parse` and compares the `Scheme` and `Host` fields: equal schemes and
equal hosts are `same-origin`; equal schemes and equal `getRegistrableDomain` of the hosts
are `same-site`; a failed parse or anything else is `cross-site`. `Host` is the URL's
authority without its user information, with the port as written; `getRegistrableDomain`
cuts the host at its last `:` ("Remove port if present") and keeps its last two
dot-separated labels.

On URLs `scheme://host[:port]` of dotted hosts (`HostURL`), `calculateFetchSite_raw` says what
that comes to: the labels and the written ports decide `same-origin`, and the last two labels
`same-site`. A browser's `Sec-Fetch-Site` (`claimedFetchSite`) compares origins and sites
instead, and `calculateFetchSite_ne_claimedFetchSite` gives four pairs of URLs on which the
two differ: a written default port, two IPv4 addresses that share their last two octets, a
host in capitals, and two IPv6 literals without a port, where the last `:` lies inside the
address and both hosts are cut to `[:`.
-/
namespace HttpCloak.Fingerprint

/-- `FetchSiteNone`. -/
def fetchSiteNone : String := "none"
/-- `FetchSiteSameOrigin`. -/
def fetchSiteSameOrigin : String := "same-origin"
/-- `FetchSiteSameSite`. -/
def fetchSiteSameSite : String := "same-site"
/-- `FetchSiteCrossSite`. -/
def fetchSiteCrossSite : String := "cross-site"

/-- `getRegistrableDomain(host)`: the host cut at its last `:`, then its last two
dot-separated labels joined by a dot. -/
def getRegistrableDomain (host : List Byte) : List Byte :=
  let host := match lastIndex host 58 with
    | some idx => host.take idx
    | none => host
  let parts := host.splitOn 46
  if 2 ≤ parts.length then [46].intercalate (parts.drop (parts.length - 2)) else host

/-- `calculateFetchSite(referrer, targetURL)`. -/
def calculateFetchSite (referrer targetURL : List Byte) : String :=
  if referrer = [] then fetchSiteNone
  else
    match urlParse referrer, urlParse targetURL with
    | some refURL, some targURL =>
      if refURL.scheme = targURL.scheme && refURL.host = targURL.host then fetchSiteSameOrigin
      else if getRegistrableDomain refURL.host = getRegistrableDomain targURL.host &&
          refURL.scheme = targURL.scheme then fetchSiteSameSite
      else fetchSiteCrossSite
    | _, _ => fetchSiteCrossSite

/-- `FetchDestXHR`. -/
def fetchDestXHR : String := "empty"

/-- The context of a subresource load: `XHRContext`, `ImageContext`, `ScriptContext` and
`StyleContext` differ only in the mode and the destination. -/
def resourceContext (mode dest referrer targetURL : String) : RequestContext :=
  ⟨mode, dest, calculateFetchSite (bytesOf referrer) (bytesOf targetURL), false, referrer,
    targetURL⟩

/-- `XHRContext(referrer, targetURL)`. -/
def xhrContext (referrer targetURL : String) : RequestContext :=
  resourceContext fetchModeCORS fetchDestXHR referrer targetURL

/-- `ImageContext(referrer, targetURL)`. -/
def imageContext (referrer targetURL : String) : RequestContext :=
  resourceContext fetchModeNoCORS fetchDestImage referrer targetURL

/-- `ScriptContext(referrer, targetURL)`. -/
def scriptContext (referrer targetURL : String) : RequestContext :=
  resourceContext fetchModeNoCORS fetchDestScript referrer targetURL

/-- `StyleContext(referrer, targetURL)`. -/
def styleContext (referrer targetURL : String) : RequestContext :=
  resourceContext fetchModeNoCORS fetchDestStyle referrer targetURL

/-! ## URLs of a dotted host -/

/-- The registrable domain of a written host is its last two labels: the port is cut off
first. -/
theorem getRegistrableDomain_host (u : HostURL) :
    getRegistrableDomain u.host = [46].intercalate (u.labels.drop (u.labels.length - 2)) := by
  have hname : (match lastIndex u.host 58 with
      | some idx => u.host.take idx
      | none => u.host) = [46].intercalate u.labels := by
    rw [u.lastIndex_host_colon]
    cases hp : u.port <;> simp [HostURL.host, hp, writtenPort]
  rw [getRegistrableDomain, hname, List.splitOn_intercalate _ 46 u.dot_not_mem u.labels_ne]
  split_ifs with h
  · rfl
  · rw [Nat.sub_eq_zero_of_le (by omega), List.drop_zero]

/-- Dropping all but the last two labels of a name leaves at least one. -/
theorem drop_length_sub_ne_nil {L : List (List Byte)} (h : L ≠ []) :
    L.drop (L.length - 2) ≠ [] := by
  have := List.length_pos.2 h
  simp only [ne_eq, List.drop_eq_nil_iff]
  omega

/-- Registrable domains of written hosts are equal exactly when their last two labels are. -/
theorem getRegistrableDomain_eq_iff {u v : HostURL} :
    getRegistrableDomain u.host = getRegistrableDomain v.host ↔
      u.labels.drop (u.labels.length - 2) = v.labels.drop (v.labels.length - 2) := by
  rw [getRegistrableDomain_host u, getRegistrableDomain_host v]
  exact intercalate_dot_inj (drop_length_sub_ne_nil u.labels_ne)
    (drop_length_sub_ne_nil v.labels_ne) (fun l hl => u.dot_not_mem l (List.mem_of_mem_drop hl))
    (fun l hl => v.dot_not_mem l (List.mem_of_mem_drop hl))

/-- `calculateFetchSite` on two URLs of dotted hosts: the schemes ignoring case, then the labels
and written ports, then the last two labels. -/
theorem calculateFetchSite_raw (u v : HostURL) :
    calculateFetchSite u.raw v.raw =
      if u.scheme.map lowerByte = v.scheme.map lowerByte then
        if u.labels = v.labels ∧ u.port = v.port then fetchSiteSameOrigin
        else if u.labels.drop (u.labels.length - 2) = v.labels.drop (v.labels.length - 2) then
          fetchSiteSameSite
        else fetchSiteCrossSite
      else fetchSiteCrossSite := by
  have hne : u.raw ≠ [] := by simp [HostURL.raw]
  rw [calculateFetchSite, if_neg hne, u.urlParse_raw, v.urlParse_raw]
  by_cases hs : u.scheme.map lowerByte = v.scheme.map lowerByte
  · simp [hs, host_eq_host_iff, getRegistrableDomain_eq_iff]
  · simp [hs]

/-! ## The classification the claim describes

A browser's `Sec-Fetch-Site`, in the claim's words: same origin is the same scheme, host
(ignoring ASCII case) and port, an omitted port standing for the scheme's default; same site
is the same scheme and site key, the site key being the whole address for an IP literal and
the last two labels of a domain name. -/

/-- The port of a scheme's origin when none is written. -/
def defaultPort (scheme : List Byte) : List Byte :=
  if scheme = bytesOf "http" ∨ scheme = bytesOf "ws" then bytesOf "80"
  else if scheme = bytesOf "https" ∨ scheme = bytesOf "wss" then bytesOf "443"
  else []

/-- Four dot-separated decimal numbers of at most three digits, each at most 255. -/
def isIPv4Literal (name : List Byte) : Bool :=
  let parts := name.splitOn 46
  parts.length = 4 && parts.all fun p =>
    p ≠ [] && p.length ≤ 3 && p.all isDigitByte && p.foldl (fun n c => 10 * n + unhex c) 0 ≤ 255

/-- The site key of a host: the whole address for an IP literal, else the last two labels
of the lowercased name. -/
def siteKey (host : List Byte) : List Byte :=
  let name := (hostnamePort host).1
  if host.head? = some 91 || isIPv4Literal name then name
  else
    let labels := (name.map lowerByte).splitOn 46
    [46].intercalate (labels.drop (labels.length - 2))

/-- The port of a URL's origin. -/
def originPort (u : URL) : List Byte :=
  let port := (hostnamePort u.host).2
  if port = [] then defaultPort u.scheme else port

/-- `Sec-Fetch-Site` of a request from `ref` to `targ` as the claim describes it. -/
def claimedFetchSite (ref targ : URL) : String :=
  if ref.scheme = targ.scheme ∧
      (hostnamePort ref.host).1.map lowerByte = (hostnamePort targ.host).1.map lowerByte ∧
      originPort ref = originPort targ then fetchSiteSameOrigin
  else if ref.scheme = targ.scheme ∧ siteKey ref.host = siteKey targ.host then fetchSiteSameSite
  else fetchSiteCrossSite

/-- Four pairs of URLs that `url.Parse` accepts, on which `calculateFetchSite` and the
claimed classification differ: a written default port, two IPv4 addresses that share their
last two octets, a host written in capitals, and two IPv6 literals without a port, whose
registrable domains are both `[:`. -/
theorem calculateFetchSite_ne_claimedFetchSite :
    urlParse (bytesOf "https://a.com") = some ⟨bytesOf "https", bytesOf "a.com"⟩ ∧
    urlParse (bytesOf "https://a.com:443") = some ⟨bytesOf "https", bytesOf "a.com:443"⟩ ∧
    calculateFetchSite (bytesOf "https://a.com") (bytesOf "https://a.com:443") =
      fetchSiteSameSite ∧
    claimedFetchSite ⟨bytesOf "https", bytesOf "a.com"⟩ ⟨bytesOf "https", bytesOf "a.com:443"⟩ =
      fetchSiteSameOrigin ∧
    urlParse (bytesOf "http://1.2.3.4") = some ⟨bytesOf "http", bytesOf "1.2.3.4"⟩ ∧
    urlParse (bytesOf "http://9.9.3.4") = some ⟨bytesOf "http", bytesOf "9.9.3.4"⟩ ∧
    calculateFetchSite (bytesOf "http://1.2.3.4") (bytesOf "http://9.9.3.4") = fetchSiteSameSite ∧
    claimedFetchSite ⟨bytesOf "http", bytesOf "1.2.3.4"⟩ ⟨bytesOf "http", bytesOf "9.9.3.4"⟩ =
      fetchSiteCrossSite ∧
    urlParse (bytesOf "https://A.COM") = some ⟨bytesOf "https", bytesOf "A.COM"⟩ ∧
    calculateFetchSite (bytesOf "https://A.COM") (bytesOf "https://a.com") = fetchSiteCrossSite ∧
    claimedFetchSite ⟨bytesOf "https", bytesOf "A.COM"⟩ ⟨bytesOf "https", bytesOf "a.com"⟩ =
      fetchSiteSameOrigin ∧
    urlParse (bytesOf "http://[::1]/") = some ⟨bytesOf "http", bytesOf "[::1]"⟩ ∧
    urlParse (bytesOf "http://[::2]/") = some ⟨bytesOf "http", bytesOf "[::2]"⟩ ∧
    getRegistrableDomain (bytesOf "[::1]") = bytesOf "[:" ∧
    getRegistrableDomain (bytesOf "[::2]") = bytesOf "[:" ∧
    calculateFetchSite (bytesOf "http://[::1]/") (bytesOf "http://[::2]/") = fetchSiteSameSite ∧
    claimedFetchSite ⟨bytesOf "http", bytesOf "[::1]"⟩ ⟨bytesOf "http", bytesOf "[::2]"⟩ =
      fetchSiteCrossSite := by
  decide

end HttpCloak.Fingerprint
