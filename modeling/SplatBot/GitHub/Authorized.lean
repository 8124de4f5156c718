import SplatBot.GitHub.Calls

/-!
# What a forwarded request carries, over every run

Over every run of the round tripper, whatever the interleaving of its calls, the clock and
GitHub's answers:
* every forwarded request routed to app authentication carries a JWT signed for the app,
  with the expiry nine minutes after its clock, and every other forwarded request a token
  GitHub issued for an installation GitHub listed in the request's own organization, never
  another organization's (`AuthWorld.forwarded_authorized`);
* GitHub is asked for the app's slug only until it answers a non-empty one, which the round
  tripper then keeps (`AuthWorld.slugMemo`).

Both follow from one invariant: the state's caches hold only what GitHub answered, and each
call in flight has got what `TripOK` says of its place (`AuthWorld.Inv`).  Each section
keeps it (`AppsState.step_inv`), and so does every run (`AuthWorld.Reachable.inv`).
-/

namespace SplatBot

/-! ## What a forwarded request carries -/

/-- GitHub listed, in a successful listing, an installation in `org` with ID `installation`. -/
def Listed (listings : List (String × Except String (List AppInstallation))) (org : String)
    (installation : Int) : Prop :=
  ∃ q listing, (q, .ok listing) ∈ listings ∧
    ∃ i ∈ listing, i.login = org ∧ i.ID = installation

/-- The request carries a token GitHub issued for an installation it listed in the request's
organization, and that token's expiry. -/
def InstallationAuthorized (s : AppsState) (r : Request) : Prop :=
  ∃ installation token, Listed s.listings r.org installation ∧
    (installation, .ok token) ∈ s.issued ∧
    r.Header.Authorization = some ("Bearer " ++ token.token) ∧
    r.Header.TokenExpiryAt = some token.expiresAt

/-- The request carries a JWT the round tripper signed for the app at a clock `now`, and the
expiry nine minutes after `now`. -/
def AppAuthorized (arr : AppsRoundTripper) (s : AppsState) (r : Request) : Prop :=
  ∃ now jwt, (arr.jwtClaims now, .ok jwt) ∈ s.signed ∧
    r.Header.Authorization = some ("Bearer " ++ jwt) ∧
    r.Header.TokenExpiryAt = some (now + 9 * minute)

/-- How a forwarded request is authorized: a request routed to app authentication carries
the app's JWT, and as budget identifier the app ID on `/app` and otherwise a slug GitHub
answered; any other request has an organization and carries a token of that organization's
installation, and as budget identifier a slug GitHub answered and the organization. -/
def Authorized (arr : AppsRoundTripper) (s : AppsState) (r : Request) : Prop :=
  arr.usesAppAuth r.URL = true ∧ AppAuthorized arr s r ∧
      (arr.canonicalizedPath r.URL = "/app" ∧ r.Header.TokenBudgetIdentifier = some arr.appID ∨
        arr.canonicalizedPath r.URL ≠ "/app" ∧
          ∃ slug, Except.ok slug ∈ s.apps ∧ r.Header.TokenBudgetIdentifier = some slug) ∨
    arr.usesAppAuth r.URL = false ∧ r.org ≠ "" ∧ InstallationAuthorized s r ∧
      ∃ slug, Except.ok slug ∈ s.apps ∧
        r.Header.TokenBudgetIdentifier = some (slug ++ " - " ++ r.org)

/-- What each call has got so far. -/
def TripOK (arr : AppsRoundTripper) (s : AppsState) : Trip → Prop
  | .idReading r | .idLocking r => arr.usesAppAuth r.URL = false ∧ r.org ≠ ""
  | .tokenReading r installation | .tokenLocking r installation =>
    arr.usesAppAuth r.URL = false ∧ r.org ≠ "" ∧ Listed s.listings r.org installation
  | .slugging r none =>
    arr.usesAppAuth r.URL = true ∧ arr.canonicalizedPath r.URL ≠ "/app" ∧ AppAuthorized arr s r
  | .slugging r (some org) =>
    arr.usesAppAuth r.URL = false ∧ org = r.org ∧ r.org ≠ "" ∧ InstallationAuthorized s r
  | .forwarded r => Authorized arr s r
  | .failed _ => True

/-- The slug is asked from GitHub until it answers a non-empty one, which is then kept: the
kept slug is empty and GitHub answered only empty slugs, or GitHub's last answer is the kept
slug and every answer before it was empty or an error. -/
def SlugMemo (s : AppsState) : Prop :=
  s.appSlug = "" ∧ (∀ slug, Except.ok slug ∈ s.apps → slug = "") ∨
    s.appSlug ≠ "" ∧ ∃ before, s.apps = before ++ [.ok s.appSlug] ∧
      ∀ slug, Except.ok slug ∈ before → slug = ""

/-- The state's caches hold only what GitHub answered, and its slug is kept as `SlugMemo`
says. -/
structure AppsState.Inv (s : AppsState) : Prop where
  installations : ∀ org i, s.installations.lookup org = some i → Listed s.listings org i.ID
  tokens : ∀ installation token, s.tokens.lookup installation = some token →
    (installation, .ok token) ∈ s.issued
  slug : SlugMemo s

/-- The logs of `s'` extend those of `s`. -/
structure AppsState.Grows (s s' : AppsState) : Prop where
  listings : s.listings ⊆ s'.listings
  issued : s.issued ⊆ s'.issued
  apps : s.apps ⊆ s'.apps
  signed : s.signed ⊆ s'.signed

theorem AppsState.Grows.refl (s : AppsState) : s.Grows s := ⟨fun _ h => h, fun _ h => h,
  fun _ h => h, fun _ h => h⟩

section Monotone

variable {arr : AppsRoundTripper} {s s' : AppsState} (hg : s.Grows s')
include hg

theorem Listed.mono {org : String} {installation : Int} (h : Listed s.listings org installation) :
    Listed s'.listings org installation :=
  let ⟨q, listing, hl, hi⟩ := h
  ⟨q, listing, hg.listings hl, hi⟩

theorem InstallationAuthorized.mono {r : Request} (h : InstallationAuthorized s r) :
    InstallationAuthorized s' r :=
  let ⟨installation, token, hl, hi, ha⟩ := h
  ⟨installation, token, hl.mono hg, hg.issued hi, ha⟩

theorem AppAuthorized.mono {r : Request} (h : AppAuthorized arr s r) : AppAuthorized arr s' r :=
  let ⟨now, jwt, hs, ha⟩ := h
  ⟨now, jwt, hg.signed hs, ha⟩

theorem Authorized.mono {r : Request} (h : Authorized arr s r) : Authorized arr s' r := by
  rcases h with ⟨hu, ha, hb | ⟨hp, slug, hs, hb⟩⟩ | ⟨hu, ho, hi, slug, hs, hb⟩
  · exact .inl ⟨hu, ha.mono hg, .inl hb⟩
  · exact .inl ⟨hu, ha.mono hg, .inr ⟨hp, slug, hg.apps hs, hb⟩⟩
  · exact .inr ⟨hu, ho, hi.mono hg, slug, hg.apps hs, hb⟩

theorem TripOK.mono {trip : Trip} (h : TripOK arr s trip) : TripOK arr s' trip := by
  match trip, h with
  | .idReading _, h | .idLocking _, h | .failed _, h => exact h
  | .tokenReading _ _, ⟨hu, ho, hl⟩ | .tokenLocking _ _, ⟨hu, ho, hl⟩ => exact ⟨hu, ho, hl.mono hg⟩
  | .slugging _ none, ⟨hu, hp, ha⟩ => exact ⟨hu, hp, ha.mono hg⟩
  | .slugging _ (some _), ⟨hu, hr, ho, hi⟩ => exact ⟨hu, hr, ho, hi.mono hg⟩
  | .forwarded _, h => exact Authorized.mono hg h

end Monotone

/-! ## One section -/

/-- An installation's ID comes from the listing's map only for an installation of the
listing in that organization. -/
theorem installationsMap_lookup_eq_some {org : String} {listing : List AppInstallation}
    {i : AppInstallation} (h : (installationsMap listing).lookup org = some i) :
    i ∈ listing ∧ i.login = org := by
  suffices ∀ (l : List AppInstallation) (m : Finmap fun _ : String => AppInstallation),
      (l.foldl (fun m installation => m.insert installation.login installation) m).lookup org =
        some i → m.lookup org = some i ∨ i ∈ l ∧ i.login = org by
    simpa using this listing ∅ h
  intro l
  induction l with
  | nil => exact fun _ h => .inl h
  | cons j l ih =>
    intro m h
    rcases ih _ h with h | ⟨hi, hl⟩
    · by_cases hj : j.login = org
      · subst hj
        rw [Finmap.lookup_insert, Option.some.injEq] at h
        exact .inr ⟨h ▸ List.mem_cons_self _ _, h ▸ rfl⟩
      · rw [Finmap.lookup_insert_of_ne _ (Ne.symm hj)] at h
        exact .inl h
    · exact .inr ⟨List.mem_cons_of_mem _ hi, hl⟩

/-- The reply of `getSlug`'s section is the kept slug if it is not empty, and otherwise
GitHub's answer. -/
theorem getSlug_reply {appSlug slug : String} {app : Except String String}
    (h : (getSlug appSlug app).2 = .ok slug) :
    appSlug ≠ "" ∧ slug = appSlug ∨ appSlug = "" ∧ app = .ok slug := by
  unfold getSlug at h
  split_ifs at h with hs
  · exact .inl ⟨hs, (Except.ok.inj h).symm⟩
  · cases app with
    | error err => cases h
    | ok s => exact .inr ⟨not_not.1 hs, congrArg _ (Except.ok.inj h)⟩

section Steps

variable {arr : AppsRoundTripper} {s s' : AppsState} {trip trip' : Trip}

/-- A call that finds its installation's ID in the cache knows an installation GitHub
listed in its organization. -/
theorem idFound (hs : s.Inv) {r : Request} {installation : Int}
    (h : installationCache.lookup r.org () s.installations = some installation) :
    Listed s.listings r.org installation := by
  obtain ⟨i, hi, rfl⟩ := Option.map_eq_some'.1 h
  exact hs.installations _ _ hi

/-- A call that got its token is where `afterToken` puts it, authorized with a token GitHub
issued for an installation it listed in the call's organization. -/
theorem tripOK_afterToken {r : Request} {installation : Int} {token : AppInstallationToken}
    (hu : arr.usesAppAuth r.URL = false) (ho : r.org ≠ "")
    (hl : Listed s.listings r.org installation) (hi : (installation, .ok token) ∈ s.issued) :
    TripOK arr s (afterToken r (.ok (token.token, token.expiresAt))) :=
  ⟨hu, rfl, ho, installation, token, hl, hi, rfl, rfl⟩

/-- The read-locked token section keeps the invariant. -/
theorem tokenFound (hs : s.Inv) {r : Request} {installation now : Int} {token : String × Int}
    (h : tokenCache.lookup installation now s.tokens = some token)
    (hu : arr.usesAppAuth r.URL = false) (ho : r.org ≠ "")
    (hl : Listed s.listings r.org installation) : TripOK arr s (afterToken r (.ok token)) := by
  obtain ⟨t, ht, -, rfl⟩ := tokenCache_lookup_eq_some.1 h
  exact tripOK_afterToken hu ho hl (hs.tokens _ _ ht)

/-- The write-locked installation section keeps the invariant after the second miss, and a
call that gets an ID knows an installation GitHub listed in its organization. -/
theorem idWrite_inv (hs : s.Inv) {r : Request} (listing : Except String (List AppInstallation))
    (hmiss : installationCache.lookup r.org () s.installations = none)
    (hu : arr.usesAppAuth r.URL = false) (ho : r.org ≠ "") :
    let s' : AppsState :=
      { s with installations := (installationCache.update r.org listing s.installations).1,
               listings := s.listings ++ [(r.org, listing)] }
    s'.Inv ∧ s.Grows s' ∧
      TripOK arr s' (afterInstallationID r (installationCache.update r.org listing s.installations).2) := by
  intro s'
  have hg : s.Grows s' :=
    ⟨List.subset_append_left _ _, fun _ h => h, fun _ h => h, fun _ h => h⟩
  have hlisted : ∀ org i listing', listing = .ok listing' →
      (installationsMap listing').lookup org = some i → Listed s'.listings org i.ID :=
    fun org i listing' hl h => ⟨r.org, listing', by simp [s', hl],
      i, (installationsMap_lookup_eq_some h).1, (installationsMap_lookup_eq_some h).2, rfl⟩
  cases listing with
  | error err =>
    exact ⟨⟨fun org i h => (hs.installations org i h).mono hg, hs.tokens, hs.slug⟩, hg, trivial⟩
  | ok listing' =>
    refine ⟨⟨fun org i h => ?_, hs.tokens, hs.slug⟩, hg, ?_⟩
    · rw [show s'.installations = _ from installationCache_update_ok_cache r.org listing' _] at h
      exact hlisted org i listing' rfl h
    · rw [installationCache_update_ok_reply r.org listing' _ hmiss]
      split
      · trivial
      · exact ⟨hu, ho, hlisted _ _ listing' rfl ‹_›⟩

/-- The write-locked token section keeps the invariant after the second miss, and a call
that gets a token is authorized with a token GitHub issued for its installation. -/
theorem tokenWrite_inv (hs : s.Inv) {r : Request} {installation : Int}
    (answer : Except String AppInstallationToken) (hu : arr.usesAppAuth r.URL = false)
    (ho : r.org ≠ "") (hl : Listed s.listings r.org installation) :
    let s' : AppsState :=
      { s with tokens := (tokenCache.update installation answer s.tokens).1,
               issued := s.issued ++ [(installation, answer)] }
    s'.Inv ∧ s.Grows s' ∧
      TripOK arr s' (afterToken r (tokenCache.update installation answer s.tokens).2) := by
  intro s'
  have hg : s.Grows s' :=
    ⟨fun _ h => h, List.subset_append_left _ _, fun _ h => h, fun _ h => h⟩
  cases answer with
  | error err =>
    exact ⟨⟨hs.installations, fun i t h => hg.issued (hs.tokens i t h), hs.slug⟩, hg, trivial⟩
  | ok token =>
    refine ⟨⟨hs.installations, fun i t h => ?_, hs.slug⟩, hg,
      tripOK_afterToken hu ho (hl.mono hg) (by simp [s'])⟩
    rw [show s'.tokens = _ from rfl, tokenCache_update_ok_lookup] at h
    split_ifs at h with hi
    · cases h
      simp [s', hi]
    · exact hg.issued (hs.tokens i t h)

/-- `getSlug`'s section keeps `SlugMemo`, and the slug it replies is one GitHub answered. -/
theorem getSlug_slugMemo (hm : SlugMemo s) (app : Except String String) :
    let s' : AppsState :=
      { s with appSlug := (getSlug s.appSlug app).1,
               apps := if s.appSlug = "" then s.apps ++ [app] else s.apps }
    SlugMemo s' ∧ ∀ slug, (getSlug s.appSlug app).2 = .ok slug → Except.ok slug ∈ s'.apps := by
  intro s'
  by_cases he : s.appSlug = ""
  · -- nothing kept yet: GitHub's answer is logged, and kept if it is a non-empty slug
    have hm := (hm.resolve_right fun h => h.1 he).2
    cases app with
    | error err => simpa [s', SlugMemo, getSlug, he] using hm
    | ok slug =>
      by_cases hsl : slug = "" <;>
        simpa [s', SlugMemo, getSlug, he, hsl, or_imp, forall_and] using hm
  · -- a slug is kept: it is the reply, and nothing changes
    have hm := hm.resolve_left fun h => he h.1
    obtain ⟨before, hb, -⟩ := hm.2
    simpa [s', SlugMemo, getSlug, he, hb] using hm

/-- `getSlug`'s section keeps the invariant, and a call that gets the slug is forwarded
authorized. -/
theorem slug_inv (hs : s.Inv) {r : Request} {org : Option String}
    (ht : TripOK arr s (.slugging r org)) (app : Except String String) :
    let s' : AppsState :=
      { s with appSlug := (getSlug s.appSlug app).1,
               apps := if s.appSlug = "" then s.apps ++ [app] else s.apps }
    s'.Inv ∧ s.Grows s' ∧ TripOK arr s' (afterSlug r org (getSlug s.appSlug app).2) := by
  intro s'
  have hg : s.Grows s' := ⟨fun _ h => h, fun _ h => h,
    fun _ h => by dsimp only [s']; split_ifs <;> simp [h], fun _ h => h⟩
  obtain ⟨hm, hreply⟩ := getSlug_slugMemo hs.slug app
  refine ⟨⟨fun org i h => (hs.installations org i h).mono hg,
    fun i t h => hg.issued (hs.tokens i t h), hm⟩, hg, ?_⟩
  cases hr : (getSlug s.appSlug app).2 with
  | error err => trivial
  | ok slug =>
    cases org with
    | none =>
      obtain ⟨hu, hp, ha⟩ := ht
      exact .inl ⟨by simpa using hu, by simpa [AppAuthorized] using ha.mono hg,
        .inr ⟨by simpa using hp, slug, hreply slug hr, rfl⟩⟩
    | some o =>
      obtain ⟨hu, rfl, ho, hi⟩ := ht
      exact .inr ⟨by simpa using hu, ho, by simpa [InstallationAuthorized] using hi.mono hg,
        slug, hreply slug hr, rfl⟩

/-- **What a section does.**  From a state with the invariant, a section of a call that has
got what `TripOK` says keeps the invariant, only extends the logs, and leaves the call with
what `TripOK` says of its next place. -/
theorem AppsState.step_inv {sec : Section} (h : s.step sec trip = some (s', trip'))
    (hs : s.Inv) (ht : TripOK arr s trip) :
    s'.Inv ∧ s.Grows s' ∧ TripOK arr s' trip' := by
  unfold AppsState.step at h
  split at h
  · cases h
    refine ⟨hs, .refl _, ?_⟩
    split
    · exact ⟨ht.1, ht.2, idFound hs ‹_›⟩
    · exact ht
  · split at h <;> cases h
    · exact ⟨hs, .refl _, ht.1, ht.2, idFound hs ‹_›⟩
    · exact idWrite_inv hs _ ‹_› ht.1 ht.2
  · cases h
    refine ⟨hs, .refl _, ?_⟩
    split
    · exact tokenFound hs ‹_› ht.1 ht.2.1 ht.2.2
    · exact ht
  · split at h <;> cases h
    · exact ⟨hs, .refl _, tokenFound hs ‹_› ht.1 ht.2.1 ht.2.2⟩
    · exact tokenWrite_inv hs _ ht.1 ht.2.1 ht.2.2
  · cases h
    exact slug_inv hs ht _
  · cases h

/-- A new call keeps the invariant, and is where `start` puts it with what `TripOK` says. -/
theorem call_inv (hs : s.Inv) (r : Request) (now : Int) (signed : Except String String)
    (stack : String) :
    (arr.call s r now signed stack).1.Inv ∧ s.Grows (arr.call s r now signed stack).1 ∧
      TripOK arr (arr.call s r now signed stack).1 (arr.call s r now signed stack).2 := by
  simp only [AppsRoundTripper.call, AppsRoundTripper.start]
  cases hu : arr.usesAppAuth r.URL with
  | false =>
    simp only [Bool.false_eq_true, if_false]
    refine ⟨hs, .refl s, ?_⟩
    split_ifs with ho
    · trivial
    · exact ⟨hu, ho⟩
  | true =>
    simp only [if_true]
    have hg : s.Grows { s with signed := s.signed ++ [(arr.jwtClaims now, signed)] } :=
      ⟨fun _ h => h, fun _ h => h, fun _ h => h, List.subset_append_left _ _⟩
    refine ⟨⟨hs.installations, hs.tokens, hs.slug⟩, hg, ?_⟩
    cases signed with
    | error err => trivial
    | ok token =>
      have ha : AppAuthorized arr { s with signed := s.signed ++ [(arr.jwtClaims now, .ok token)] }
          (r.authorize token (now + 9 * minute)) := ⟨now, token, by simp, rfl, rfl⟩
      split_ifs with hp
      · exact .inl ⟨by simpa using hu, by simpa [AppAuthorized] using ha, .inl ⟨by simpa using hp, rfl⟩⟩
      · exact ⟨by simpa using hu, by simpa using hp, ha⟩

end Steps

/-! ## Every run -/

/-- The invariant of a world: its state's, and `TripOK` of every call. -/
def AuthWorld.Inv (arr : AppsRoundTripper) (w : AuthWorld) : Prop :=
  w.state.Inv ∧ ∀ trip ∈ w.trips, TripOK arr w.state trip

/-- Every step keeps the invariant. -/
theorem AuthWorld.step_inv {arr : AppsRoundTripper} {w w' : AuthWorld} {e : AuthEvent}
    (h : w.step arr e = some w') (hw : w.Inv arr) : w'.Inv arr := by
  cases e with
  | roundTrip r now signed stack =>
    cases h
    obtain ⟨hs, hg, ht⟩ := @call_inv arr _ hw.1 r now signed stack
    refine ⟨hs, fun trip htrip => ?_⟩
    rcases List.mem_append.1 htrip with htrip | htrip
    · exact (hw.2 trip htrip).mono hg
    · rwa [List.mem_singleton.1 htrip]
  | run t sec =>
    simp only [AuthWorld.step] at h
    split at h
    · obtain ⟨next, hstep, rfl⟩ := Option.map_eq_some'.1 h
      obtain ⟨hs, hg, ht⟩ :=
        AppsState.step_inv hstep hw.1 (hw.2 _ (List.getElem?_mem ‹_›))
      refine ⟨hs, fun trip htrip => ?_⟩
      rcases List.mem_or_eq_of_mem_set htrip with htrip | rfl
      · exact (hw.2 trip htrip).mono hg
      · exact ht
    · cases h

/-- Every world of a run has the invariant. -/
theorem AuthWorld.Reachable.inv {arr : AppsRoundTripper} {w : AuthWorld}
    (hw : AuthWorld.Reachable arr w) : w.Inv arr := by
  induction hw with
  | init =>
    exact ⟨⟨fun _ _ h => (by cases h), fun _ _ h => (by cases h), .inl ⟨rfl, fun _ h => (by cases h)⟩⟩,
      fun _ h => (by cases h)⟩
  | step _ hs ih => exact AuthWorld.step_inv hs ih

/-- **No request is forwarded with another organization's token.**  In every world of every
run, whatever the interleaving of calls, the clock and GitHub's answers, a forwarded request
routed to app authentication carries a JWT the round tripper signed for the app, with the
expiry nine minutes after the clock it signed at, and as budget identifier the app ID on
`/app` and otherwise a slug GitHub answered; every other forwarded request has an
organization, carries a token GitHub issued for an installation GitHub listed in that
organization, with the token's expiry, and as budget identifier a slug GitHub answered and
the organization. -/
theorem AuthWorld.forwarded_authorized (arr : AppsRoundTripper) (w : AuthWorld)
    (hw : AuthWorld.Reachable arr w) (r : Request) (hr : Trip.forwarded r ∈ w.trips) :
    Authorized arr w.state r :=
  hw.inv.2 _ hr

/-- The round tripper of an app `1` on `github.com`, whose paths have no base path. -/
def exampleRoundTripper : AppsRoundTripper := { appID := "1", hostPrefixMapping := ∅ }

/-- A request for the pull requests of `openshift/installer`, in the organization
`openshift`. -/
def pullsRequest : Request :=
  { URL := { Host := "api.github.com", Path := "/repos/openshift/installer/pulls" },
    org := "openshift" }

/-- One call for `pullsRequest` whose sections run back to back: it lists the
installations, gets a token for `openshift`'s, and asks for the slug. -/
def pullsRun : List AuthEvent :=
  [.roundTrip pullsRequest 0 (.error "unused") "", .run 0 .idRead,
   .run 0 (.idWrite (.ok [openshiftInstallation])), .run 0 (.tokenRead 0),
   .run 0 (.tokenWrite 0 (.ok ⟨"t", 2 * minute⟩)), .run 0 (.slug (.ok "splat-bot"))]

/-- The world after `pullsRun`. -/
def pullsWorld : AuthWorld := (AuthWorld.steps exampleRoundTripper {} pullsRun).getD {}

/-- `pullsRequest` as `pullsRun` forwards it. -/
def pullsForwarded : Request :=
  (pullsRequest.authorize "t" (2 * minute)).budget "splat-bot - openshift"

/-- `AuthWorld.forwarded_authorized` applies to the request `pullsRun` forwards. -/
theorem forwarded_authorized_pulls :
    AuthWorld.Reachable exampleRoundTripper pullsWorld ∧
      Trip.forwarded pullsForwarded ∈ pullsWorld.trips ∧
      Authorized exampleRoundTripper pullsWorld.state pullsForwarded :=
  have hrun : AuthWorld.steps exampleRoundTripper {} pullsRun = some pullsWorld := rfl
  have hw : AuthWorld.Reachable exampleRoundTripper pullsWorld := .steps .init hrun
  have hr : Trip.forwarded pullsForwarded ∈ pullsWorld.trips := List.mem_singleton.2 rfl
  ⟨hw, hr, AuthWorld.forwarded_authorized exampleRoundTripper pullsWorld hw pullsForwarded hr⟩

/-- **The slug is asked until GitHub answers one.**  In every world of every run, GitHub has
answered only empty slugs and none is kept, or its last answer is the kept slug, not empty,
and every answer before it was empty or an error: once GitHub answers a non-empty slug, the
round tripper keeps it and never asks again. -/
theorem AuthWorld.slugMemo (arr : AppsRoundTripper) (w : AuthWorld)
    (hw : AuthWorld.Reachable arr w) : SlugMemo w.state :=
  hw.inv.1.slug

/-- `AuthWorld.slugMemo` applies to the world after `pullsRun`. -/
theorem slugMemo_pulls :
    AuthWorld.Reachable exampleRoundTripper pullsWorld ∧ SlugMemo pullsWorld.state :=
  have hrun : AuthWorld.steps exampleRoundTripper {} pullsRun = some pullsWorld := rfl
  have hw : AuthWorld.Reachable exampleRoundTripper pullsWorld := .steps .init hrun
  ⟨hw, AuthWorld.slugMemo exampleRoundTripper pullsWorld hw⟩

end SplatBot
