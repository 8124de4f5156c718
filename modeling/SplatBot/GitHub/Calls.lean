import SplatBot.GitHub.RoundTripper
import SplatBot.GitHub.Routing

/-!
# The calls of `appsRoundTripper.RoundTrip`, section by section

`RoundTrip` authorizes a request with the app's JWT (`addAppAuth`) or with a token of the
installation of the request's organization (`addAppInstallationAuth`, through
`installationIDFor` and `getTokenForInstallation`), and sets the token-budget header to the
app's slug (`getSlug`, kept under a mutex), to the app ID on `/app`, or to `slug - org`
with an installation token.

Calls run concurrently.  Each section that touches shared state is one atomic step: the
read- and write-locked sections of `installationIDFor` and `getTokenForInstallation`, and
`getSlug`'s locked section; the rest of a call reads only the round tripper's fixed fields
and writes only its own request.  `Trip` is where a call is between those sections and
`AppsState.step` what one of them does.  Beside the round tripper's fields the state logs
every answer GitHub gave (the listings, the tokens and the app's slug) and every JWT signed.
A run is any sequence of new calls and sections of calls in flight (`AuthWorld.step`).

The JWT's signature and the RFC 3339 text of an expiry are library computations: a call
carries what `SignedString` returned, and the expiry header keeps the `time.Time`.
-/

namespace SplatBot

/-- `time.Second`, in nanoseconds. -/
def second : Int := 1000000000

/-- `jwt.StandardClaims`: the claims `addAppAuth` sets, times in seconds. -/
structure StandardClaims where
  IssuedAt : Int
  ExpiresAt : Int
  Issuer : String
  deriving DecidableEq

/-- Where one `RoundTrip` call is, between the sections that touch shared state: before
`installationIDFor`'s read-locked section or waiting for its write lock; before
`getTokenForInstallation`'s read-locked section or waiting for its write lock, knowing the
installation; before `getSlug`'s, its request authorized so far, with the organization of
an installation token; forwarded upstream; or failed with `appsAuthError`. -/
inductive Trip
  | idReading (r : Request)
  | idLocking (r : Request)
  | tokenReading (r : Request) (installation : Int)
  | tokenLocking (r : Request) (installation : Int)
  | slugging (r : Request) (org : Option String)
  | forwarded (r : Request)
  | failed (err : String)
  deriving DecidableEq

namespace AppsRoundTripper

variable (arr : AppsRoundTripper)

/-- The claims `addAppAuth` signs at the clock `now` (nanoseconds): issued now, expiring nine
minutes later, issued by the app. -/
def jwtClaims (now : Int) : StandardClaims :=
  { IssuedAt := now / second, ExpiresAt := (now + 9 * minute) / second, Issuer := arr.appID }

/-- The error of `addAppInstallationAuth` for a request without an organization, `stack`
being `debug.Stack()`. -/
def emptyOrg (stack : String) : String :=
  "BUG apps auth requested but empty org, please report this to the test-infra repo. Stack: " ++
    stack

/-- `RoundTrip(r)` at the clock `now` up to its first section that touches shared state:
`addAppAuth` up to `getSlug`, `signed` being what `SignedString` returns on `jwtClaims now`,
or the organization check of `addAppInstallationAuth`. -/
def start (r : Request) (now : Int) (signed : Except String String) (stack : String) : Trip :=
  if arr.usesAppAuth r.URL then
    match signed with
    | .error err => .failed ("failed to generate jwt: " ++ err)
    | .ok token =>
      if arr.canonicalizedPath r.URL = "/app" then
        .forwarded ((r.authorize token (now + 9 * minute)).budget arr.appID)
      else .slugging (r.authorize token (now + 9 * minute)) none
  else if r.org = "" then .failed (emptyOrg stack)
  else .idReading r

end AppsRoundTripper

/-- `installationTokenFor` after `installationIDFor` replied. -/
def afterInstallationID (r : Request) : Except String Int → Trip
  | .error err => .failed ("failed to get installation id for org " ++ r.org ++ ": " ++ err)
  | .ok installation => .tokenReading r installation

/-- `addAppInstallationAuth` after `getTokenForInstallation` replied: the headers are set. -/
def afterToken (r : Request) : Except String (String × Int) → Trip
  | .error err => .failed ("failed to get an installation token for org " ++ r.org ++ ": " ++ err)
  | .ok (token, expiresAt) => .slugging (r.authorize token expiresAt) (some r.org)

/-- `getSlug()`'s locked section, `app` being the `Slug` of what `GetApp()` would answer:
the kept slug if it is not empty, otherwise GitHub's, which is kept. -/
def getSlug (appSlug : String) (app : Except String String) : String × Except String String :=
  if appSlug ≠ "" then (appSlug, .ok appSlug)
  else
    match app with
    | .error err => (appSlug, .error err)
    | .ok slug => (slug, .ok slug)

/-- `addAppAuth` or `addAppInstallationAuth` after `getSlug` replied: the budget header is
the slug, with the organization of an installation token. -/
def afterSlug (r : Request) (org : Option String) : Except String String → Trip
  | .error err => .failed err
  | .ok slug => .forwarded (r.budget (match org with
    | some org => slug ++ " - " ++ org
    | none => slug))

/-! ## Runs -/

/-- The sections of a call that touch shared state: the read- and write-locked sections of
`installationIDFor` (given `ListAppInstallations()`) and of `getTokenForInstallation` (given
the clock and `getAppInstallationToken`), and `getSlug`'s (given `GetApp()`). -/
inductive Section
  | idRead
  | idWrite (listing : Except String (List AppInstallation))
  | tokenRead (now : Int)
  | tokenWrite (now : Int) (answer : Except String AppInstallationToken)
  | slug (app : Except String String)

/-- The fields of `appsRoundTripper` that calls write, each behind its lock, and the log of
GitHub's answers (listings, tokens and the app's slug) and of the JWTs signed. -/
structure AppsState where
  appSlug : String := ""
  installations : GoMap String AppInstallation := none
  tokens : GoMap Int AppInstallationToken := none
  listings : List (String × Except String (List AppInstallation)) := []
  issued : List (Int × Except String AppInstallationToken) := []
  apps : List (Except String String) := []
  signed : List (StandardClaims × Except String String) := []

/-- A new call of `RoundTrip(r)`: where it is after its first part, with the JWT it signed
logged. -/
def AppsRoundTripper.call (arr : AppsRoundTripper) (s : AppsState) (r : Request) (now : Int)
    (signed : Except String String) (stack : String) : AppsState × Trip :=
  ({ s with signed := if arr.usesAppAuth r.URL then s.signed ++ [(arr.jwtClaims now, signed)]
                      else s.signed },
    arr.start r now signed stack)

section Call

variable (arr : AppsRoundTripper) (s : AppsState) (r : Request) (now : Int)
  (signed : Except String String) (stack : String)

@[simp] theorem AppsRoundTripper.call_installations :
    (arr.call s r now signed stack).1.installations = s.installations := rfl
@[simp] theorem AppsRoundTripper.call_tokens :
    (arr.call s r now signed stack).1.tokens = s.tokens := rfl
@[simp] theorem AppsRoundTripper.call_appSlug :
    (arr.call s r now signed stack).1.appSlug = s.appSlug := rfl
@[simp] theorem AppsRoundTripper.call_snd :
    (arr.call s r now signed stack).2 = arr.start r now signed stack := rfl

end Call

/-- One section of a call at `trip`: the state it leaves and where the call is next; `none`
when the call is not at that section. -/
def AppsState.step (s : AppsState) : Section → Trip → Option (AppsState × Trip)
  | .idRead, .idReading r =>
    some (s, match installationCache.lookup r.org () s.installations with
      | some installation => .tokenReading r installation
      | none => .idLocking r)
  | .idWrite listing, .idLocking r =>
    match installationCache.lookup r.org () s.installations with
    | some installation => some (s, .tokenReading r installation)
    | none =>
      some ({ s with installations := (installationCache.update r.org listing s.installations).1,
                     listings := s.listings ++ [(r.org, listing)] },
        afterInstallationID r (installationCache.update r.org listing s.installations).2)
  | .tokenRead now, .tokenReading r installation =>
    some (s, match tokenCache.lookup installation now s.tokens with
      | some token => afterToken r (.ok token)
      | none => .tokenLocking r installation)
  | .tokenWrite now answer, .tokenLocking r installation =>
    match tokenCache.lookup installation now s.tokens with
    | some token => some (s, afterToken r (.ok token))
    | none =>
      some ({ s with tokens := (tokenCache.update installation answer s.tokens).1,
                     issued := s.issued ++ [(installation, answer)] },
        afterToken r (tokenCache.update installation answer s.tokens).2)
  | .slug app, .slugging r org =>
    some ({ s with appSlug := (getSlug s.appSlug app).1,
                   apps := if s.appSlug = "" then s.apps ++ [app] else s.apps },
      afterSlug r org (getSlug s.appSlug app).2)
  | _, _ => none

/-- The round tripper's state and every call made so far. -/
structure AuthWorld where
  state : AppsState := {}
  trips : List Trip := []

/-- A new call of `RoundTrip`, or one section of call `trip`. -/
inductive AuthEvent
  | roundTrip (r : Request) (now : Int) (signed : Except String String) (stack : String)
  | run (trip : Nat) (sec : Section)

/-- One step of a run; `none` when the call is not at that section. -/
def AuthWorld.step (arr : AppsRoundTripper) (w : AuthWorld) : AuthEvent → Option AuthWorld
  | .roundTrip r now signed stack =>
    some { state := (arr.call w.state r now signed stack).1,
           trips := w.trips ++ [(arr.call w.state r now signed stack).2] }
  | .run t sec =>
    match w.trips[t]? with
    | some trip =>
      (w.state.step sec trip).map fun next => { state := next.1, trips := w.trips.set t next.2 }
    | none => none

/-- The worlds that runs of the round tripper `arr` reach from its new state, whatever the
calls, their interleaving, the clock and GitHub's answers. -/
inductive AuthWorld.Reachable (arr : AppsRoundTripper) : AuthWorld → Prop
  | init : Reachable arr {}
  | step {w w' : AuthWorld} {e : AuthEvent} : Reachable arr w → w.step arr e = some w' →
      Reachable arr w'

/-- The world after the events `es` one after another from `w`; `none` when one of them
cannot run. -/
def AuthWorld.steps (arr : AppsRoundTripper) : AuthWorld → List AuthEvent → Option AuthWorld
  | w, [] => some w
  | w, e :: es => (w.step arr e).bind fun w' => AuthWorld.steps arr w' es

theorem AuthWorld.Reachable.steps {arr : AppsRoundTripper} :
    ∀ {w w' : AuthWorld} {es : List AuthEvent}, AuthWorld.Reachable arr w →
      AuthWorld.steps arr w es = some w' → AuthWorld.Reachable arr w'
  | _, _, [], hw, h => by cases h; exact hw
  | w, _, e :: es, hw, h => by
    obtain ⟨w₁, h₁, h⟩ := Option.bind_eq_some.1 h
    exact AuthWorld.Reachable.steps (.step hw h₁) h

theorem AuthWorld.steps_append (arr : AppsRoundTripper) :
    ∀ (w : AuthWorld) (es₁ es₂ : List AuthEvent),
      AuthWorld.steps arr w (es₁ ++ es₂) =
        (AuthWorld.steps arr w es₁).bind fun w' => AuthWorld.steps arr w' es₂
  | _, [], _ => rfl
  | w, e :: es₁, es₂ => by
    simp only [List.cons_append, AuthWorld.steps]
    cases w.step arr e with
    | none => rfl
    | some w₁ => exact AuthWorld.steps_append arr w₁ es₁ es₂

end SplatBot
