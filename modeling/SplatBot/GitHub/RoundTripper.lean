import SplatBot.GitHub.DoubleChecked

/-!
# The caches of the GitHub App round tripper

`installationIDFor` and `getTokenForInstallation` (`pkg/github/roundtripper.go`) are the
two double-checked caches of `DoubleChecked`.  `installationCache` looks an organization
up in `installations`; after the second miss it lists the app's installations, builds the
`Account.Login` map of the listing, and keeps it unless `reflect.DeepEqual` finds it equal
to the cache, replying "not installed" in that case without looking.  `tokenCache` serves a
token while `ExpiresAt - time.Minute` is after the clock, and otherwise stores the token
GitHub issues.  Both caches start as the nil maps the constructor leaves.

Over every run, whatever the interleaving of calls, the clock and GitHub's answers:

* the installations cache is the nil map until a listing succeeds, and from then on the map
  of the most recent successful listing; a failed listing leaves it as it was; a call
  replies an ID only as the cache maps the organization at that moment, and "not
  installed" only when the most recent listing has no installation for the organization,
  so the `DeepEqual` shortcut agrees with the lookup (`installationCache_laws`);
* the token cache holds only tokens GitHub issued for their installation; every token
  replied was issued for its installation, in that call or earlier and then checked
  unexpired at the clock of the section that served it; an entry changes only to a token
  just issued for it; a failed fetch leaves the cache as it was (`tokenCache_laws`).
-/

namespace SplatBot

/-! ## Installations -/

/-- `github.AppInstallation`: the fields the round tripper reads, `ID` and
`Account.Login`, and `RepositorySelection` for the rest of the record, which only
`reflect.DeepEqual` compares. -/
structure AppInstallation where
  ID : Int
  login : String
  repositorySelection : String
  deriving DecidableEq

/-- `installationsMap[installation.Account.Login] = installation` for each installation of
the listing, in order, into a fresh map. -/
def installationsMap (installations : List AppInstallation) : GoMap String AppInstallation :=
  some (installations.foldl (fun m installation => m.insert installation.login installation) ∅)

/-- The error of an organization the app is not installed in. -/
def notInstalled (org : String) : String :=
  "the github app is not installed in organization " ++ org

/-- The installations cache of `installationIDFor`: the lookup `arr.installations[org]`, and
the write-locked section after the second miss, given `ListAppInstallations()`. -/
def installationCache :
    Cache (GoMap String AppInstallation) String Unit (Except String (List AppInstallation))
      Int where
  lookup org _ installations := (installations.lookup org).map (·.ID)
  update org listing installations :=
    match listing with
    | .error err => (installations, .error ("failed to list app installations: " ++ err))
    | .ok listing =>
      if installations = installationsMap listing then (installations, .error (notInstalled org))
      else
        match (installationsMap listing).lookup org with
        | none => (installationsMap listing, .error (notInstalled org))
        | some id => (installationsMap listing, .ok id.ID)

/-- `installationIDFor(org)` with no other call interleaving, `listing` being what
`ListAppInstallations()` would answer. -/
def installationIDFor (org : String) (listing : Except String (List AppInstallation))
    (installations : GoMap String AppInstallation) :
    GoMap String AppInstallation × Except String Int :=
  installationCache.run org () () listing installations

theorem lookup_foldl_insert_eq_none (org : String) :
    ∀ (installations : List AppInstallation) (m : Finmap fun _ : String => AppInstallation),
      (installations.foldl (fun m installation => m.insert installation.login installation)
          m).lookup org = none ↔
        m.lookup org = none ∧ ∀ installation ∈ installations, installation.login ≠ org
  | [], _ => by simp
  | installation :: installations, m => by
    rw [List.foldl_cons, lookup_foldl_insert_eq_none org installations, List.forall_mem_cons]
    by_cases h : installation.login = org
    · simp [h]
    · simp [Finmap.lookup_insert_of_ne _ (Ne.symm h), h]

/-- The map of a listing has no entry for `org` exactly when no installation of the listing
is in `org`. -/
theorem installationsMap_lookup_eq_none (org : String) (installations : List AppInstallation) :
    (installationsMap installations).lookup org = none ↔
      ∀ installation ∈ installations, installation.login ≠ org := by
  simp [installationsMap, lookup_foldl_insert_eq_none]

/-- After a successful listing the cache is the listing's map, whether `DeepEqual` found it
equal or it was assigned. -/
theorem installationCache_update_ok_cache (org : String) (listing : List AppInstallation)
    (installations : GoMap String AppInstallation) :
    (installationCache.update org (.ok listing) installations).1 = installationsMap listing := by
  simp only [installationCache]
  split_ifs with h
  · exact h
  · split <;> rfl

/-- **The `DeepEqual` shortcut agrees with the lookup.**  After a miss, the reply to a
successful listing is the plain lookup of `org` in the listing's map. -/
theorem installationCache_update_ok_reply (org : String) (listing : List AppInstallation)
    (installations : GoMap String AppInstallation)
    (hmiss : installationCache.lookup org () installations = none) :
    (installationCache.update org (.ok listing) installations).2 =
      match (installationsMap listing).lookup org with
      | none => .error (notInstalled org)
      | some id => .ok id.ID := by
  simp only [installationCache, Option.map_eq_none'] at hmiss ⊢
  split_ifs with h
  · rw [← h, hmiss]
  · split <;> rfl

/-- A failed listing's error never reads as "not installed": the texts differ in their
first letter. -/
theorem listing_error_ne_notInstalled (err org : String) :
    "failed to list app installations: " ++ err ≠ notInstalled org := by
  intro h
  have := congrArg (fun s : String => s.data.head?) h
  simp [notInstalled] at this

/-- The most recent successful listing in GitHub's answers. -/
def lastListing (fetched : List (String × Except String (List AppInstallation))) :
    Option (List AppInstallation) :=
  fetched.foldl (fun last fetch => match fetch.2 with
    | .ok listing => some listing
    | .error _ => last) none

@[simp] theorem lastListing_append_ok
    (fetched : List (String × Except String (List AppInstallation))) (org : String)
    (listing : List AppInstallation) :
    lastListing (fetched ++ [(org, .ok listing)]) = some listing := by
  simp [lastListing]

@[simp] theorem lastListing_append_error
    (fetched : List (String × Except String (List AppInstallation))) (org err : String) :
    lastListing (fetched ++ [(org, .error err)]) = lastListing fetched := by
  simp [lastListing]

/-- What the installations cache guarantees in a world of a run: the cache is the nil map
or the map of the most recent successful listing, and every section that runs next keeps
the cache on a failed listing, replies an ID as the cache then maps `org`, and replies "not
installed" only when the most recent listing has no installation in `org`. -/
structure InstallationLaws
    (w : World (GoMap String AppInstallation) String (Except String (List AppInstallation))) :
    Prop where
  cache_eq : w.cache = match lastListing w.fetched with
    | none => none
    | some listing => installationsMap listing
  failed_unchanged : ∀ e w' out org err, installationCache.step w e = some (w', out) →
    w'.fetched = w.fetched ++ [(org, .error err)] → w'.cache = w.cache
  ok_cached : ∀ e w' org id, installationCache.step w e = some (w', some (org, .ok id)) →
    ∃ installation, w'.cache.lookup org = some installation ∧ installation.ID = id
  notInstalled_unlisted : ∀ e w' org,
    installationCache.step w e = some (w', some (org, .error (notInstalled org))) →
      ∃ listing, lastListing w'.fetched = some listing ∧
        ∀ installation ∈ listing, installation.login ≠ org

section InstallationSteps

variable {w w' : World (GoMap String AppInstallation) String (Except String (List AppInstallation))}
  {e : Event String Unit (Except String (List AppInstallation))}

/-- On every run the cache is the nil map until a listing succeeds, and then the map of the
most recent successful listing. -/
theorem installationCache_cache_eq (hw : installationCache.Reachable none w) :
    w.cache = match lastListing w.fetched with
      | none => none
      | some listing => installationsMap listing :=
  Cache.Reachable.invariant installationCache
    (fun cache fetched => cache = match lastListing fetched with
      | none => none
      | some listing => installationsMap listing) rfl
    (fun cache _ org _ answer ih _ => by
      cases answer with
      | error err => simpa using ih
      | ok listing => simpa using installationCache_update_ok_cache org listing cache) hw

/-- A failed listing leaves the cache as it was. -/
theorem installationCache_step_failed {out : Option (String × Except String Int)} {org err : String}
    (hs : installationCache.step w e = some (w', out))
    (hf : w'.fetched = w.fetched ++ [(org, .error err)]) : w'.cache = w.cache :=
  (Cache.step_fetched hs hf).elim fun _ h => h.2

/-- An ID is replied as the cache maps the organization right after the reply. -/
theorem installationCache_step_ok {org : String} {id : Int}
    (hs : installationCache.step w e = some (w', some (org, .ok id))) :
    ∃ installation, w'.cache.lookup org = some installation ∧ installation.ID = id := by
  rcases Cache.step_reply hs with ⟨_, a, hl, -, hw', -, hr⟩ | ⟨_, answer, hl, hw', -, hr⟩
  · obtain ⟨installation, h, rfl⟩ := Option.map_eq_some'.1 hl
    cases hr
    exact ⟨installation, hw' ▸ h, rfl⟩
  · cases answer with
    | error err => cases hr
    | ok listing =>
      rw [installationCache_update_ok_reply org listing _ hl] at hr
      rw [hw', installationCache_update_ok_cache]
      split at hr
      · cases hr
      · cases hr
        exact ⟨_, ‹_›, rfl⟩

/-- "Not installed" is replied only after a listing with no installation in the
organization. -/
theorem installationCache_step_notInstalled {org : String}
    (hs : installationCache.step w e = some (w', some (org, .error (notInstalled org)))) :
    ∃ listing, lastListing w'.fetched = some listing ∧
      ∀ installation ∈ listing, installation.login ≠ org := by
  rcases Cache.step_reply hs with ⟨_, _, -, -, -, -, hr⟩ | ⟨_, answer, hl, -, hf, hr⟩
  · cases hr
  · cases answer with
    | error err => cases listing_error_ne_notInstalled err org (Except.error.inj hr).symm
    | ok listing =>
      rw [installationCache_update_ok_reply org listing _ hl] at hr
      refine ⟨listing, by rw [hf, lastListing_append_ok], ?_⟩
      split at hr
      · exact (installationsMap_lookup_eq_none org listing).1 ‹_›
      · cases hr

end InstallationSteps

/-- **The installations cache over every run.** -/
theorem installationCache_laws
    (w : World (GoMap String AppInstallation) String (Except String (List AppInstallation)))
    (hw : installationCache.Reachable none w) : InstallationLaws w :=
  ⟨installationCache_cache_eq hw, fun _ _ _ _ _ => installationCache_step_failed,
    fun _ _ _ _ => installationCache_step_ok, fun _ _ _ => installationCache_step_notInstalled⟩

/-- One installation, in the organization `openshift`. -/
def openshiftInstallation : AppInstallation :=
  { ID := 7, login := "openshift", repositorySelection := "all" }

/-- A call for `openshift` that missed twice, listed the installations and returned. -/
def listedWorld :
    World (GoMap String AppInstallation) String (Except String (List AppInstallation)) :=
  { cache := installationsMap [openshiftInstallation]
    calls := [.returned "openshift"]
    fetched := [("openshift", .ok [openshiftInstallation])] }

/-- `installationCache_laws` applies to the world after one call that listed. -/
theorem installationCache_laws_listed :
    installationCache.Reachable none listedWorld ∧ InstallationLaws listedWorld :=
  have h : installationCache.Reachable none listedWorld :=
    .step (.step (.step .init (e := .call "openshift") rfl) (e := .read 0 ()) rfl)
      (e := .write 0 () (.ok [openshiftInstallation])) rfl
  ⟨h, installationCache_laws _ h⟩

/-! ## Tokens -/

/-- `github.AppInstallationToken`: the fields the round tripper reads, `Token` and
`ExpiresAt` (a `time.Time`, in nanoseconds). -/
structure AppInstallationToken where
  token : String
  expiresAt : Int
  deriving DecidableEq

/-- `time.Minute`, in nanoseconds. -/
def minute : Int := 60000000000

/-- The token cache of `getTokenForInstallation`: the check `found &&
token.ExpiresAt.Add(-time.Minute).After(time.Now())`, and the write-locked section after the
second miss, given `getAppInstallationToken(installation)`. -/
def tokenCache :
    Cache (GoMap Int AppInstallationToken) Int Int (Except String AppInstallationToken)
      (String × Int) where
  lookup installation now tokens :=
    match tokens.lookup installation with
    | some token =>
      if now < token.expiresAt - minute then some (token.token, token.expiresAt) else none
    | none => none
  update installation answer tokens :=
    match answer with
    | .error err => (tokens, .error ("failed to get installation token from GitHub: " ++ err))
    | .ok token =>
      let tokens : Finmap fun _ : Int => AppInstallationToken :=
        match tokens with
        | none => ∅
        | some tokens => tokens
      (some (tokens.insert installation token), .ok (token.token, token.expiresAt))

/-- `getTokenForInstallation(installation)` with no other call interleaving, reading the
clock `now₁` and then `now₂`, `answer` being what `getAppInstallationToken` would answer. -/
def getTokenForInstallation (installation now₁ now₂ : Int)
    (answer : Except String AppInstallationToken) (tokens : GoMap Int AppInstallationToken) :
    GoMap Int AppInstallationToken × Except String (String × Int) :=
  tokenCache.run installation now₁ now₂ answer tokens

/-- `installationTokenFor(org)`: the installation's ID, then its token, with the errors
wrapped. -/
def installationTokenFor (org : String) (listing : Except String (List AppInstallation))
    (now₁ now₂ : Int) (answer : Except String AppInstallationToken)
    (installations : GoMap String AppInstallation) (tokens : GoMap Int AppInstallationToken) :
    (GoMap String AppInstallation × GoMap Int AppInstallationToken) ×
      Except String (String × Int) :=
  match installationIDFor org listing installations with
  | (installations, .error err) =>
    ((installations, tokens),
      .error ("failed to get installation id for org " ++ org ++ ": " ++ err))
  | (installations, .ok installationID) =>
    match getTokenForInstallation installationID now₁ now₂ answer tokens with
    | (tokens, .error err) => ((installations, tokens),
        .error ("failed to get an installation token for org " ++ org ++ ": " ++ err))
    | (tokens, .ok token) => ((installations, tokens), .ok token)

/-- A token check passes exactly on a cached token that is more than a minute from
expiring at the clock it reads. -/
theorem tokenCache_lookup_eq_some {installation now : Int} {tokens : GoMap Int AppInstallationToken}
    {reply : String × Int} :
    tokenCache.lookup installation now tokens = some reply ↔
      ∃ token, tokens.lookup installation = some token ∧ now < token.expiresAt - minute ∧
        reply = (token.token, token.expiresAt) := by
  simp only [tokenCache]
  cases tokens.lookup installation with
  | none => simp
  | some token =>
    by_cases hn : now < token.expiresAt - minute
    · simp [hn, eq_comm]
    · simp [hn]

/-- A token update stores the token for its installation and nothing else. -/
theorem tokenCache_update_ok_lookup (installation i : Int) (token : AppInstallationToken)
    (tokens : GoMap Int AppInstallationToken) :
    (tokenCache.update installation (.ok token) tokens).1.lookup i =
      if i = installation then some token else tokens.lookup i := by
  simp only [tokenCache]
  split_ifs with h
  · subst h
    simp [Finmap.lookup_insert]
  · cases tokens <;> simp [Finmap.lookup_insert_of_ne _ h]

/-- What the token cache guarantees in a world of a run: every cached token was issued for
its installation, and every section that runs next replies only tokens issued for the
installation (in that section, or earlier and then checked unexpired at the section's
clock), changes an entry only to a token just issued for it, and keeps the cache on a
failed fetch. -/
structure TokenLaws
    (w : World (GoMap Int AppInstallationToken) Int (Except String AppInstallationToken)) :
    Prop where
  cached_issued : ∀ installation token, w.cache.lookup installation = some token →
    (installation, .ok token) ∈ w.fetched
  reply_issued : ∀ e w' installation token expiresAt,
    tokenCache.step w e = some (w', some (installation, .ok (token, expiresAt))) →
      ∃ issued : AppInstallationToken, issued.token = token ∧ issued.expiresAt = expiresAt ∧
        (w'.fetched = w.fetched ++ [(installation, .ok issued)] ∨
          (installation, .ok issued) ∈ w.fetched ∧ w.cache.lookup installation = some issued ∧
            ∃ now, e.clock = some now ∧ now < expiresAt - minute)
  replaced_issued : ∀ e w' out installation, tokenCache.step w e = some (w', out) →
    w'.cache.lookup installation ≠ w.cache.lookup installation →
      ∃ issued, w'.fetched = w.fetched ++ [(installation, .ok issued)] ∧
        w'.cache.lookup installation = some issued
  failed_unchanged : ∀ e w' out installation err, tokenCache.step w e = some (w', out) →
    w'.fetched = w.fetched ++ [(installation, .error err)] → w'.cache = w.cache

section TokenSteps

variable {w w' : World (GoMap Int AppInstallationToken) Int (Except String AppInstallationToken)}
  {e : Event Int Int (Except String AppInstallationToken)}

/-- On every run each cached token was issued for its installation. -/
theorem tokenCache_cached_issued (hw : tokenCache.Reachable none w) (installation : Int)
    (token : AppInstallationToken) (h : w.cache.lookup installation = some token) :
    (installation, .ok token) ∈ w.fetched :=
  Cache.Reachable.invariant tokenCache
    (fun cache fetched => ∀ installation token, cache.lookup installation = some token →
      (installation, .ok token) ∈ fetched) (by simp)
    (fun _ _ _ _ answer ih _ i token hi => by
      cases answer with
      | error err => exact List.mem_append_left _ (ih i token hi)
      | ok issued =>
        rw [tokenCache_update_ok_lookup] at hi
        split_ifs at hi with h
        · cases hi
          simp [h]
        · exact List.mem_append_left _ (ih i token hi)) hw installation token h

/-- A token is replied only as issued for its installation: in this section, or earlier
and then checked unexpired at this section's clock. -/
theorem tokenCache_step_reply (hw : tokenCache.Reachable none w) {installation : Int}
    {token : String} {expiresAt : Int}
    (hs : tokenCache.step w e = some (w', some (installation, .ok (token, expiresAt)))) :
    ∃ issued : AppInstallationToken, issued.token = token ∧ issued.expiresAt = expiresAt ∧
      (w'.fetched = w.fetched ++ [(installation, .ok issued)] ∨
        (installation, .ok issued) ∈ w.fetched ∧ w.cache.lookup installation = some issued ∧
          ∃ now, e.clock = some now ∧ now < expiresAt - minute) := by
  rcases Cache.step_reply hs with ⟨now, _, hl, hc, -, -, hr⟩ | ⟨_, answer, -, -, hf, hr⟩
  · cases hr
    obtain ⟨issued, hi, hnow, he⟩ := tokenCache_lookup_eq_some.1 hl
    cases he
    exact ⟨issued, rfl, rfl, .inr ⟨tokenCache_cached_issued hw _ _ hi, hi, now, hc, hnow⟩⟩
  · cases answer with
    | error err => cases hr
    | ok issued =>
      cases hr
      exact ⟨issued, rfl, rfl, .inl hf⟩

/-- An entry changes only to the token just issued for its installation. -/
theorem tokenCache_step_replaced {out : Option (Int × Except String (String × Int))}
    {installation : Int} (hs : tokenCache.step w e = some (w', out))
    (hne : w'.cache.lookup installation ≠ w.cache.lookup installation) :
    ∃ issued, w'.fetched = w.fetched ++ [(installation, .ok issued)] ∧
      w'.cache.lookup installation = some issued := by
  rcases Cache.step_cases hs with ⟨hw', -, -⟩ | ⟨_, _, _, -, -, hw', -, -⟩ |
      ⟨_, _, answer, -, -, hw', hf, -⟩
  · exact absurd (by rw [hw']) hne
  · exact absurd (by rw [hw']) hne
  · cases answer with
    | error err => exact absurd (by rw [hw']; rfl) hne
    | ok issued =>
      rw [hw', tokenCache_update_ok_lookup] at hne ⊢
      split_ifs at hne ⊢ with h
      · subst h
        exact ⟨issued, hf, rfl⟩
      · exact absurd rfl hne

/-- A failed fetch leaves the cache as it was. -/
theorem tokenCache_step_failed {out : Option (Int × Except String (String × Int))}
    {installation : Int} {err : String} (hs : tokenCache.step w e = some (w', out))
    (hf : w'.fetched = w.fetched ++ [(installation, .error err)]) : w'.cache = w.cache :=
  (Cache.step_fetched hs hf).elim fun _ h => h.2

end TokenSteps

/-- **The token cache over every run.** -/
theorem tokenCache_laws
    (w : World (GoMap Int AppInstallationToken) Int (Except String AppInstallationToken))
    (hw : tokenCache.Reachable none w) : TokenLaws w :=
  ⟨tokenCache_cached_issued hw, fun _ _ _ _ _ => tokenCache_step_reply hw,
    fun _ _ _ _ => tokenCache_step_replaced, fun _ _ _ _ _ => tokenCache_step_failed⟩

/-- A call for installation `7` at clock `0` that missed twice and fetched a token
expiring at two minutes. -/
def issuedWorld :
    World (GoMap Int AppInstallationToken) Int (Except String AppInstallationToken) :=
  { cache := some ((∅ : Finmap fun _ : Int => AppInstallationToken).insert 7 ⟨"t", 2 * minute⟩)
    calls := [.returned 7]
    fetched := [(7, .ok ⟨"t", 2 * minute⟩)] }

/-- `tokenCache_laws` applies to the world after one call that fetched. -/
theorem tokenCache_laws_issued :
    tokenCache.Reachable none issuedWorld ∧ TokenLaws issuedWorld :=
  have h : tokenCache.Reachable none issuedWorld :=
    .step (.step (.step .init (e := .call 7) rfl) (e := .read 0 0) rfl)
      (e := .write 0 0 (.ok ⟨"t", 2 * minute⟩)) rfl
  ⟨h, tokenCache_laws _ h⟩

end SplatBot
