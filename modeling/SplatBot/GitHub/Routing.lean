import Mathlib.Data.Finmap

/-!
# Requests and their routing: `newAppsRoundTripper` and `canonicalizedPath`

`RoundTrip` (`pkg/github/roundtripper.go`) chooses a request's credential by its canonical
path: the URL's path without the base path of its host (`canonicalizedPath`).  A path that
starts with `/app` or matches `installationPath` gets the app's JWT; every other request an
installation token.  `newAppsRoundTripper` builds the table of base paths from the
`v3BaseURLs` it is given, one `hostPrefixMapping[url.Host] = url.Path` per base URL.

Each host keeps the path of the last base URL on it, and a request under that path is
routed by what follows it (`newAppsRoundTripper_canonicalizedPath`).

The header names are constants of `ghcache` and the organization is what
`extractOrgFromContext` reads; neither is under `src/`, so `Header` has one field per header
the round tripper sets, and `Request.org` is the organization as read.  `url.Parse` is a
parameter.  `installationPath` is the regular expression `^/repos/[^/]+/[^/]+/installation$`,
read as a test on the path cut at each `/`.
-/

namespace SplatBot

/-! ## Requests and routing -/

/-- `url.URL`: the host and the path, which the round tripper reads. -/
structure URL where
  Host : String
  Path : String
  deriving DecidableEq

/-- The headers the round tripper sets, `none` while unset: `Authorization`,
`ghcache.TokenExpiryAtHeader` (the `time.Time` it formats, in nanoseconds) and
`ghcache.TokenBudgetIdentifierHeader`. -/
structure Header where
  Authorization : Option String := none
  TokenExpiryAt : Option Int := none
  TokenBudgetIdentifier : Option String := none
  deriving DecidableEq

/-- `*http.Request`: its URL, the organization `extractOrgFromContext` reads from its
context (`""` for none), and its headers. -/
structure Request where
  URL : URL
  org : String
  Header : Header := {}
  deriving DecidableEq

namespace Request

/-- `r.Header.Set("Authorization", "Bearer "+token)`, and the expiry header at `expiresAt`. -/
def authorize (r : Request) (token : String) (expiresAt : Int) : Request :=
  { r with Header := { r.Header with Authorization := some ("Bearer " ++ token),
                                     TokenExpiryAt := some expiresAt } }

/-- `r.Header.Set(ghcache.TokenBudgetIdentifierHeader, identifier)`. -/
def budget (r : Request) (identifier : String) : Request :=
  { r with Header := { r.Header with TokenBudgetIdentifier := some identifier } }

variable (r : Request) (token identifier : String) (expiresAt : Int)

@[simp] theorem authorize_URL : (r.authorize token expiresAt).URL = r.URL := rfl
@[simp] theorem authorize_org : (r.authorize token expiresAt).org = r.org := rfl
@[simp] theorem authorize_Authorization :
    (r.authorize token expiresAt).Header.Authorization = some ("Bearer " ++ token) := rfl
@[simp] theorem authorize_TokenExpiryAt :
    (r.authorize token expiresAt).Header.TokenExpiryAt = some expiresAt := rfl
@[simp] theorem budget_URL : (r.budget identifier).URL = r.URL := rfl
@[simp] theorem budget_org : (r.budget identifier).org = r.org := rfl
@[simp] theorem budget_Authorization :
    (r.budget identifier).Header.Authorization = r.Header.Authorization := rfl
@[simp] theorem budget_TokenExpiryAt :
    (r.budget identifier).Header.TokenExpiryAt = r.Header.TokenExpiryAt := rfl
@[simp] theorem budget_TokenBudgetIdentifier :
    (r.budget identifier).Header.TokenBudgetIdentifier = some identifier := rfl

end Request

/-- `strings.HasPrefix(s, prefix)`. -/
def HasPrefix (s pre : String) : Bool := pre.toList.isPrefixOf s.toList

/-- `strings.TrimPrefix(s, prefix)`: `s` without a leading `prefix`. -/
def TrimPrefix (s pre : String) : String :=
  if HasPrefix s pre then ⟨s.toList.drop pre.length⟩ else s

/-- `installationPath.MatchString(path)`, `installationPath` being
`^/repos/[^/]+/[^/]+/installation$`: cut at each `/`, the path is an empty segment, `repos`,
two non-empty segments and `installation`. -/
def installationPath.MatchString (path : String) : Bool :=
  match path.toList.splitOn '/' with
  | [[], r, owner, repo, i] =>
    r == "repos".toList && !owner.isEmpty && !repo.isEmpty && i == "installation".toList
  | _ => false

/-- The fields of `appsRoundTripper` that calls only read: the app's ID, and the base path
of each GitHub host. -/
structure AppsRoundTripper where
  appID : String
  hostPrefixMapping : Finmap fun _ : String => String

/-- The loop of `newAppsRoundTripper`: `hostPrefixMapping[url.Host] = url.Path` for each base
URL in turn, `Parse` being `url.Parse`; the first that does not parse is the error. -/
def hostPrefixes (Parse : String → Except String URL) (m : Finmap fun _ : String => String) :
    List String → Except String (Finmap fun _ : String => String)
  | [] => .ok m
  | baseURL :: v3BaseURLs =>
    match Parse baseURL with
    | .error err => .error ("failed to parse github-endpoint " ++ baseURL ++ " as URL: " ++ err)
    | .ok url => hostPrefixes Parse (m.insert url.Host url.Path) v3BaseURLs

/-- `newAppsRoundTripper(appID, ..., v3BaseURLs)`: the fixed fields; the others start as the
empty slug and the nil maps (`AppsState`'s defaults). -/
def newAppsRoundTripper (appID : String) (Parse : String → Except String URL)
    (v3BaseURLs : List String) : Except String AppsRoundTripper :=
  (hostPrefixes Parse ∅ v3BaseURLs).map fun m => { appID := appID, hostPrefixMapping := m }

namespace AppsRoundTripper

variable (arr : AppsRoundTripper)

/-- `canonicalizedPath(url)`: the path without the base path of its host (`""` for a host
without one). -/
def canonicalizedPath (url : URL) : String :=
  TrimPrefix url.Path ((arr.hostPrefixMapping.lookup url.Host).getD "")

/-- The test of `RoundTrip`: a JWT for `/app` endpoints and for a repository's installation. -/
def usesAppAuth (url : URL) : Bool :=
  HasPrefix (arr.canonicalizedPath url) "/app" ||
    installationPath.MatchString (arr.canonicalizedPath url)

end AppsRoundTripper

/-! ## Base paths -/

/-- The base path that the base URLs `v3BaseURLs` give `host`: the path of the last of them
on that host that parses. -/
def lastBasePath (Parse : String → Except String URL) (host : String) :
    List String → Option String
  | [] => none
  | baseURL :: v3BaseURLs =>
    (lastBasePath Parse host v3BaseURLs).or
      (match Parse baseURL with
       | .ok url => if url.Host = host then some url.Path else none
       | .error _ => none)

theorem TrimPrefix_append (pre rest : String) : TrimPrefix (pre ++ rest) pre = rest := by
  have h : HasPrefix (pre ++ rest) pre = true := by simp [HasPrefix, String.toList]
  rw [TrimPrefix, if_pos h]
  exact congrArg String.mk (List.drop_left pre.data rest.data)

/-- The loop of `newAppsRoundTripper` leaves each host at the path of the last base URL on
it, and otherwise where the map had it. -/
theorem hostPrefixes_lookup (Parse : String → Except String URL) (host : String) :
    ∀ (v3BaseURLs : List String) (m m' : Finmap fun _ : String => String),
      hostPrefixes Parse m v3BaseURLs = .ok m' →
        m'.lookup host = (lastBasePath Parse host v3BaseURLs).or (m.lookup host)
  | [], m, m', h => by cases h; rfl
  | baseURL :: v3BaseURLs, m, m', h => by
    unfold hostPrefixes at h
    cases hp : Parse baseURL with
    | error err => simp [hp] at h
    | ok url =>
      rw [hp] at h
      rw [hostPrefixes_lookup Parse host v3BaseURLs _ m' h, lastBasePath, hp, Option.or_assoc]
      by_cases hh : url.Host = host
      · subst hh
        simp
      · simp [hh, Finmap.lookup_insert_of_ne _ (Ne.symm hh)]

/-- **Each host is routed by the last base URL on it.**  In a round tripper that
`newAppsRoundTripper` builds, a host's base path is the path of the last of the base URLs on
that host, an earlier one on the same host being dropped, and none for a host that no base
URL names.  A request to that host whose path is the base path followed by `rest` is
canonicalized to `rest`, so `rest` alone decides between a JWT and an installation token. -/
theorem newAppsRoundTripper_canonicalizedPath (appID : String)
    (Parse : String → Except String URL) (v3BaseURLs : List String) (arr : AppsRoundTripper)
    (h : newAppsRoundTripper appID Parse v3BaseURLs = .ok arr) (host rest : String) :
    arr.hostPrefixMapping.lookup host = lastBasePath Parse host v3BaseURLs ∧
      arr.canonicalizedPath ⟨host, (lastBasePath Parse host v3BaseURLs).getD "" ++ rest⟩ =
        rest := by
  unfold newAppsRoundTripper at h
  cases hm : hostPrefixes Parse ∅ v3BaseURLs with
  | error err => simp [hm, Except.map] at h
  | ok m =>
    simp only [hm, Except.map, Except.ok.injEq] at h
    subst h
    have hl : m.lookup host = lastBasePath Parse host v3BaseURLs := by
      simpa using hostPrefixes_lookup Parse host v3BaseURLs ∅ m hm
    exact ⟨hl, by simp [AppsRoundTripper.canonicalizedPath, hl, TrimPrefix_append]⟩

/-- `url.Parse` on two base URLs of one GitHub Enterprise host. -/
def gheParse (baseURL : String) : Except String URL :=
  if baseURL = "https://ghe.example.com/api/v3" then .ok ⟨"ghe.example.com", "/api/v3"⟩
  else if baseURL = "https://ghe.example.com/v3" then .ok ⟨"ghe.example.com", "/v3"⟩
  else .error "invalid URL"

/-- Two base URLs on the same host. -/
def gheBaseURLs : List String := ["https://ghe.example.com/api/v3", "https://ghe.example.com/v3"]

/-- The round tripper `newAppsRoundTripper` builds from `gheBaseURLs`. -/
def gheRoundTripper : AppsRoundTripper where
  appID := "1"
  hostPrefixMapping :=
    ((∅ : Finmap fun _ : String => String).insert "ghe.example.com" "/api/v3").insert
      "ghe.example.com" "/v3"

example : lastBasePath gheParse "ghe.example.com" gheBaseURLs = some "/v3" := by decide

/-- `newAppsRoundTripper_canonicalizedPath` applies to `/app` on the host of `gheBaseURLs`. -/
theorem newAppsRoundTripper_canonicalizedPath_ghe :
    newAppsRoundTripper "1" gheParse gheBaseURLs = .ok gheRoundTripper ∧
      gheRoundTripper.hostPrefixMapping.lookup "ghe.example.com" =
        lastBasePath gheParse "ghe.example.com" gheBaseURLs ∧
      gheRoundTripper.canonicalizedPath ⟨"ghe.example.com",
          (lastBasePath gheParse "ghe.example.com" gheBaseURLs).getD "" ++ "/app"⟩ = "/app" :=
  have h : newAppsRoundTripper "1" gheParse gheBaseURLs = .ok gheRoundTripper := rfl
  ⟨h, newAppsRoundTripper_canonicalizedPath "1" gheParse gheBaseURLs gheRoundTripper h _ _⟩

end SplatBot
