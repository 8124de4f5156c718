import SplatBot.GitHub.Calls

/-!
# One call run alone: the sequential `RoundTrip`

`AppsRoundTripper.RoundTrip` is `RoundTrip` as the Go code reads with no other call between
its sections: `addAppAuth`, or `addAppInstallationAuth` through `installationTokenFor`, then
`getSlug`.  A call of the concurrent model whose sections run back to back computes it,
from any world and with any other calls in flight, and leaves those calls as they were
(`AuthWorld.RoundTrip_alone`).  `AuthWorld.Alone` names what a stretch of one call's
sections does, so that each locked section is one lemma and the call is their chain.
-/

namespace SplatBot

/-! ## One call alone -/

/-- What one call reads from outside: the clock when it starts, what `SignedString` and
`debug.Stack()` return, what `ListAppInstallations()` answers, the clock at each token
check, what `getAppInstallationToken` answers, and what `GetApp()` answers. -/
structure CallAnswers where
  now : Int
  signed : Except String String
  stack : String
  listing : Except String (List AppInstallation)
  now₁ : Int
  now₂ : Int
  answer : Except String AppInstallationToken
  app : Except String String

/-- A returned call: the request forwarded upstream, or the `appsAuthError`. -/
def Trip.ofResult : Except String Request → Trip
  | .ok r => .forwarded r
  | .error err => .failed err

/-- `RoundTrip(r)` with no other call between its sections, reading `a`: the
installations, the tokens and the slug after it, and the request it forwards or its error. -/
def AppsRoundTripper.RoundTrip (arr : AppsRoundTripper) (a : CallAnswers) (r : Request)
    (installations : GoMap String AppInstallation) (tokens : GoMap Int AppInstallationToken)
    (appSlug : String) :
    (GoMap String AppInstallation × GoMap Int AppInstallationToken × String) ×
      Except String Request :=
  if arr.usesAppAuth r.URL then
    match a.signed with
    | .error err => ((installations, tokens, appSlug), .error ("failed to generate jwt: " ++ err))
    | .ok token =>
      if arr.canonicalizedPath r.URL = "/app" then
        ((installations, tokens, appSlug),
          .ok ((r.authorize token (a.now + 9 * minute)).budget arr.appID))
      else
        ((installations, tokens, (getSlug appSlug a.app).1),
          (getSlug appSlug a.app).2.map fun slug => (r.authorize token (a.now + 9 * minute)).budget slug)
  else if r.org = "" then ((installations, tokens, appSlug), .error (AppsRoundTripper.emptyOrg a.stack))
  else
    match installationTokenFor r.org a.listing a.now₁ a.now₂ a.answer installations tokens with
    | ((installations, tokens), .error err) => ((installations, tokens, appSlug), .error err)
    | ((installations, tokens), .ok (token, expiresAt)) =>
      ((installations, tokens, (getSlug appSlug a.app).1),
        (getSlug appSlug a.app).2.map fun slug =>
          (r.authorize token expiresAt).budget (slug ++ " - " ++ r.org))

/-- The installations, the tokens and the slug of a world: what a call leaves to the next. -/
def AuthWorld.caches (w : AuthWorld) :
    GoMap String AppInstallation × GoMap Int AppInstallationToken × String :=
  (w.state.installations, w.state.tokens, w.state.appSlug)

/-- From `w`, sections of the call at `t` alone, run back to back, leave that call at `trip`,
the caches at `caches`, and every other call as it was. -/
def AuthWorld.Alone (arr : AppsRoundTripper) (w : AuthWorld) (t : Nat) (trip : Trip)
    (caches : GoMap String AppInstallation × GoMap Int AppInstallationToken × String) : Prop :=
  ∃ es w', (∀ e ∈ es, ∃ sec, e = AuthEvent.run t sec) ∧ AuthWorld.steps arr w es = some w' ∧
    w'.trips = w.trips.set t trip ∧ w'.caches = caches

section Alone

variable {arr : AppsRoundTripper} {w : AuthWorld} {t : Nat} {r : Request}

/-- No section at all: the call stays where it is. -/
theorem AuthWorld.Alone.refl {trip : Trip} (ht : w.trips[t]? = some trip) :
    w.Alone arr t trip w.caches := by
  obtain ⟨_, rfl⟩ := List.getElem?_eq_some_iff.1 ht
  refine ⟨[], w, by simp, rfl, List.ext_getElem (by simp) fun i _ _ => ?_, rfl⟩
  by_cases hi : t = i <;> simp [List.getElem_set, hi]

/-- Section `sec` of the call at `t`, waiting at `trip₀`, then more of its sections. -/
theorem AuthWorld.Alone.run (sec : Section) (trip₀ : Trip) {next : AppsState × Trip}
    {trip : Trip} {caches : GoMap String AppInstallation × GoMap Int AppInstallationToken × String}
    (ht : w.trips[t]? = some trip₀) (h : w.state.step sec trip₀ = some next)
    (h₁ : AuthWorld.Alone arr { state := next.1, trips := w.trips.set t next.2 } t trip caches) :
    w.Alone arr t trip caches := by
  obtain ⟨es, w', hes, hs, htr, hc⟩ := h₁
  exact ⟨.run t sec :: es, w', List.forall_mem_cons.2 ⟨⟨sec, rfl⟩, hes⟩,
    by simp [AuthWorld.steps, AuthWorld.step, ht, h, hs], by simp [htr], hc⟩

/-- Sections of the call alone, then, from wherever they leave it, more of them. -/
theorem AuthWorld.Alone.trans {trip₁ trip : Trip}
    {caches₁ caches : GoMap String AppInstallation × GoMap Int AppInstallationToken × String}
    (h₁ : w.Alone arr t trip₁ caches₁)
    (h₂ : ∀ w₁ : AuthWorld, w₁.trips = w.trips.set t trip₁ → w₁.caches = caches₁ →
      w₁.Alone arr t trip caches) :
    w.Alone arr t trip caches := by
  obtain ⟨es₁, w₁, hes₁, hs₁, htr₁, hc₁⟩ := h₁
  obtain ⟨es₂, w₂, hes₂, hs₂, htr₂, hc₂⟩ := h₂ w₁ htr₁ hc₁
  exact ⟨es₁ ++ es₂, w₂, fun e he => (List.mem_append.1 he).elim (hes₁ e) (hes₂ e),
    by rw [AuthWorld.steps_append, hs₁]; exact hs₂, by rw [htr₂, htr₁, List.set_set], hc₂⟩

/-- `afterSlug` is the forwarded request, or the error, of `getSlug`'s reply. -/
theorem afterSlug_eq (org : Option String) (reply : Except String String) :
    afterSlug r org reply = Trip.ofResult (reply.map fun slug => r.budget (match org with
      | some org => slug ++ " - " ++ org
      | none => slug)) := by
  cases reply <;> cases org <;> rfl

/-- `installationIDFor`'s sections of the call at `t`, run back to back, leave the call as
`afterInstallationID` puts it after `installationIDFor`, and the installations cache as
`installationIDFor` leaves it. -/
theorem idSections_alone (ht : w.trips[t]? = some (.idReading r))
    (listing : Except String (List AppInstallation)) :
    w.Alone arr t (afterInstallationID r (installationIDFor r.org listing w.state.installations).2)
      ((installationIDFor r.org listing w.state.installations).1, w.state.tokens,
        w.state.appSlug) := by
  have hlt : t < w.trips.length := (List.getElem?_eq_some_iff.1 ht).1
  refine AuthWorld.Alone.run .idRead _ ht rfl ?_
  cases hl : installationCache.lookup r.org () w.state.installations with
  | some id =>
    simp only [installationIDFor, Cache.run, hl, afterInstallationID]
    exact AuthWorld.Alone.refl (by simp [hlt])
  | none =>
    refine AuthWorld.Alone.run (.idWrite listing) (.idLocking r) (by simp [hlt])
      (by simp only [AppsState.step, hl]; rfl) ?_
    simp only [installationIDFor, Cache.run, hl]
    exact AuthWorld.Alone.refl (by simp [hlt])

/-- `getTokenForInstallation`'s sections of the call at `t`, run back to back, leave the call
as `afterToken` puts it after `getTokenForInstallation`, and the token cache as
`getTokenForInstallation` leaves it. -/
theorem tokenSections_alone {installation : Int}
    (ht : w.trips[t]? = some (.tokenReading r installation)) (now₁ now₂ : Int)
    (answer : Except String AppInstallationToken) :
    w.Alone arr t
      (afterToken r (getTokenForInstallation installation now₁ now₂ answer w.state.tokens).2)
      (w.state.installations,
        (getTokenForInstallation installation now₁ now₂ answer w.state.tokens).1,
        w.state.appSlug) := by
  have hlt : t < w.trips.length := (List.getElem?_eq_some_iff.1 ht).1
  refine AuthWorld.Alone.run (.tokenRead now₁) _ ht rfl ?_
  cases hl₁ : tokenCache.lookup installation now₁ w.state.tokens with
  | some token =>
    simp only [getTokenForInstallation, Cache.run, hl₁]
    exact AuthWorld.Alone.refl (by simp [hlt])
  | none =>
    cases hl₂ : tokenCache.lookup installation now₂ w.state.tokens <;>
      refine AuthWorld.Alone.run (.tokenWrite now₂ answer) (.tokenLocking r installation)
        (by simp [hlt]) (by simp only [AppsState.step, hl₂]; rfl) ?_ <;>
      simp only [getTokenForInstallation, Cache.run, hl₁, hl₂] <;>
      exact AuthWorld.Alone.refl (by simp [hlt])

/-- `getSlug`'s section of the call at `t` leaves the call as `afterSlug` puts it after
`getSlug`, and the slug as `getSlug` leaves it. -/
theorem slugSection_alone {org : Option String} (ht : w.trips[t]? = some (.slugging r org))
    (app : Except String String) :
    w.Alone arr t (afterSlug r org (getSlug w.state.appSlug app).2)
      (w.state.installations, w.state.tokens, (getSlug w.state.appSlug app).1) := by
  have hlt : t < w.trips.length := (List.getElem?_eq_some_iff.1 ht).1
  exact AuthWorld.Alone.run (.slug app) _ ht rfl (AuthWorld.Alone.refl (by simp [hlt]))

/-- **The installation sections of a call run back to back compute `installationTokenFor`.**
From a call waiting for `installationIDFor`'s read lock, its sections, run with no other
section between them, leave it failed with `installationTokenFor`'s error or, with the
token it returns, where `afterToken` puts it, and leave both caches as
`installationTokenFor` does. -/
theorem installationTokenFor_alone (ht : w.trips[t]? = some (.idReading r))
    (listing : Except String (List AppInstallation)) (now₁ now₂ : Int)
    (answer : Except String AppInstallationToken)
    {installations : GoMap String AppInstallation} {tokens : GoMap Int AppInstallationToken}
    {result : Except String (String × Int)}
    (hitf : installationTokenFor r.org listing now₁ now₂ answer w.state.installations
      w.state.tokens = ((installations, tokens), result)) :
    w.Alone arr t
      (match result with
       | .error err => .failed err
       | .ok token => afterToken r (.ok token))
      (installations, tokens, w.state.appSlug) := by
  have hlt : t < w.trips.length := (List.getElem?_eq_some_iff.1 ht).1
  refine (idSections_alone ht listing).trans fun w₁ htr₁ hc₁ => ?_
  simp only [AuthWorld.caches, Prod.mk.injEq] at hc₁
  obtain ⟨hi, htk, hs⟩ := hc₁
  rcases hidf : installationIDFor r.org listing w.state.installations with
    ⟨installations₁, err | id⟩ <;>
    simp only [installationTokenFor, hidf, afterInstallationID] at hitf htr₁ hi
  · -- no installation ID: the call fails here
    simp only [Prod.mk.injEq] at hitf
    obtain ⟨⟨rfl, rfl⟩, rfl⟩ := hitf
    simp only [← hi, ← htk, ← hs]
    exact AuthWorld.Alone.refl (by simp [htr₁, hlt])
  · -- an installation ID: then its token
    have h₂ := @tokenSections_alone arr w₁ t r id (by simp [htr₁, hlt]) now₁ now₂ answer
    rw [hi, htk, hs] at h₂
    rcases htf : getTokenForInstallation id now₁ now₂ answer w.state.tokens with
      ⟨tokens₂, err | token⟩ <;>
      simp only [htf, Prod.mk.injEq] at hitf h₂ <;>
      obtain ⟨⟨rfl, rfl⟩, rfl⟩ := hitf <;>
      simpa [afterToken] using h₂

end Alone

/-- **A call run alone computes `RoundTrip`.**  From any world, a new call of `RoundTrip(r)`
whose sections run back to back, with no section of another call between them, ends
forwarded with the request `RoundTrip` forwards, or failed with its error, and leaves the
installations, the tokens and the slug as `RoundTrip` leaves them; every other call is as it
was. -/
theorem AuthWorld.RoundTrip_alone (arr : AppsRoundTripper) (w : AuthWorld) (a : CallAnswers)
    (r : Request) :
    ∃ es w', (∀ e ∈ es, ∃ sec, e = AuthEvent.run w.trips.length sec) ∧
      AuthWorld.steps arr w (.roundTrip r a.now a.signed a.stack :: es) = some w' ∧
      w'.trips = w.trips ++
        [Trip.ofResult (arr.RoundTrip a r w.state.installations w.state.tokens w.state.appSlug).2] ∧
      (w'.state.installations, w'.state.tokens, w'.state.appSlug) =
        (arr.RoundTrip a r w.state.installations w.state.tokens w.state.appSlug).1 := by
  let w₀ : AuthWorld := { state := (arr.call w.state r a.now a.signed a.stack).1,
                          trips := w.trips ++ [arr.start r a.now a.signed a.stack] }
  -- after the call's first step, its sections alone finish `RoundTrip`
  suffices h : w₀.Alone arr w.trips.length
      (Trip.ofResult (arr.RoundTrip a r w.state.installations w.state.tokens w.state.appSlug).2)
      (arr.RoundTrip a r w.state.installations w.state.tokens w.state.appSlug).1 by
    obtain ⟨es, w', hes, hs, htr, hc⟩ := h
    exact ⟨es, w', hes, hs, by simpa [w₀] using htr, hc⟩
  have ht₀ : w₀.trips[w.trips.length]? = some (arr.start r a.now a.signed a.stack) := by
    simp [w₀]
  obtain ⟨now, signed, stack, listing, now₁, now₂, answer, app⟩ := a
  unfold AppsRoundTripper.RoundTrip
  cases hu : arr.usesAppAuth r.URL with
  | true =>
    cases signed with
    | error err => simpa [AppsRoundTripper.start, hu, Trip.ofResult] using AuthWorld.Alone.refl ht₀
    | ok token =>
      by_cases hp : arr.canonicalizedPath r.URL = "/app"
      · simpa [AppsRoundTripper.start, hu, hp, Trip.ofResult] using AuthWorld.Alone.refl ht₀
      · have ht : w₀.trips[w.trips.length]? =
            some (.slugging (r.authorize token (now + 9 * minute)) none) := by
          simp [w₀, AppsRoundTripper.start, hu, hp]
        simpa [afterSlug_eq, hp] using slugSection_alone ht app
  | false =>
    by_cases ho : r.org = ""
    · simpa [AppsRoundTripper.start, hu, ho, Trip.ofResult] using AuthWorld.Alone.refl ht₀
    · have ht : w₀.trips[w.trips.length]? = some (.idReading r) := by
        simp [w₀, AppsRoundTripper.start, hu, ho]
      rcases hitf : installationTokenFor r.org listing now₁ now₂ answer
          w.state.installations w.state.tokens with
        ⟨⟨installations, tokens⟩, err | ⟨token, expiresAt⟩⟩
      · simpa [ho, hitf, Trip.ofResult] using
          installationTokenFor_alone ht listing now₁ now₂ answer hitf
      · -- then `getSlug`, with the caches the installation sections leave
        refine (installationTokenFor_alone ht listing now₁ now₂ answer hitf).trans
          fun w₁ htr₁ hc₁ => ?_
        simp only [AuthWorld.caches, Prod.mk.injEq] at hc₁
        obtain ⟨hi, htk, hs⟩ := hc₁
        have ht₁ : w₁.trips[w.trips.length]? =
            some (.slugging (r.authorize token expiresAt) (some r.org)) := by
          simp [htr₁, w₀, afterToken]
        simpa [ho, hitf, hi, htk, hs, afterSlug_eq] using slugSection_alone ht₁ app

end SplatBot
