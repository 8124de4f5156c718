import Mathlib.Data.Finmap
import SplatBot.Data

/-!
# Double-checked caches behind a `sync.RWMutex`

`appsRoundTripper` (`pkg/github/roundtripper.go`) keeps two caches, installations by
organization and tokens by installation, each behind its own `sync.RWMutex`, and reads
both the same way: `installationIDFor` and `getTokenForInstallation` look the key up under
the read lock and return on a hit; otherwise they take the write lock, look again ("in
case a concurrent routine updated it while we waited for the lock"), and only on the
second miss ask GitHub and update the cache.

`Cache` is that pattern with its two parts as parameters: `lookup`, the check made under
either lock (given the clock, for the token check), and `update`, what the write-locked
section does with GitHub's answer after the second miss.  A run is any interleaving of
the sections of any number of calls: a call is `reading` until its read-locked section
runs, then `locking` until its write-locked section runs.  A write-locked section
excludes every other section and read-locked sections only read, so each section is one
atomic step, and every interleaving of the Go program is a sequence of such steps.
Beside the cache the world keeps a log of every answer GitHub gave (`fetched`), and each
step says which reply it gave, if any.

`step_cases` says once what a step can do; the laws of each cache are derived from it,
over every reachable world (`Reachable.invariant`).  `run` is one call's sections back
to back, the Go function as it reads with no other call between its sections; the round
tripper's model (`AuthWorld.RoundTrip_alone`) shows that its sections, run that way,
compute it.
-/

namespace SplatBot

/-- A Go `map[K]V`: `none` is the nil map, which reads as empty.  Two maps are
`reflect.DeepEqual` exactly when they are equal: both nil, or both non-nil with the same
entries. -/
def GoMap (κ ν : Type) := Option (Finmap fun _ : κ => ν)

namespace GoMap

variable {κ ν : Type} [DecidableEq κ]

instance [DecidableEq ν] : DecidableEq (GoMap κ ν) :=
  inferInstanceAs (DecidableEq (Option (Finmap fun _ : κ => ν)))

/-- `v, found := m[k]`. -/
def lookup (m : GoMap κ ν) (k : κ) : Option ν := Option.bind m (Finmap.lookup k)

@[simp] theorem lookup_none (k : κ) : lookup (none : GoMap κ ν) k = none := rfl

@[simp] theorem lookup_some (m : Finmap fun _ : κ => ν) (k : κ) :
    lookup (some m : GoMap κ ν) k = m.lookup k := rfl

end GoMap

/-- A cache read with double-checked locking: `lookup req now cache` is the check made
under either lock, `update req answer cache` what the write-locked section does with
GitHub's `answer` after the second miss, and the reply it gives. -/
structure Cache (σ ρ ν φ α : Type) where
  lookup : ρ → ν → σ → Option α
  update : ρ → φ → σ → σ × Except String α

/-- Where one call is: before its read-locked section, waiting for the write lock after
a miss, or returned. -/
inductive Call (ρ : Type)
  | reading (req : ρ)
  | locking (req : ρ)
  | returned (req : ρ)
  deriving DecidableEq

/-- The cache, the calls made so far, and every answer GitHub gave, with the request it
was asked for. -/
structure World (σ ρ φ : Type) where
  cache : σ
  calls : List (Call ρ) := []
  fetched : List (ρ × φ) := []

/-- A new call, the read-locked section of call `caller` at clock `now`, or its
write-locked section at `now`, in which GitHub would answer `answer`. -/
inductive Event (ρ ν φ : Type)
  | call (req : ρ)
  | read (caller : Nat) (now : ν)
  | write (caller : Nat) (now : ν) (answer : φ)

/-- The clock a section reads. -/
def Event.clock {ρ ν φ : Type} : Event ρ ν φ → Option ν
  | .call _ => none
  | .read _ now => some now
  | .write _ now _ => some now

namespace Cache

variable {σ ρ ν φ α : Type} (D : Cache σ ρ ν φ α)

/-- One section of one call, with the reply it gives; `none` when the call is not at that
section. -/
def step (w : World σ ρ φ) : Event ρ ν φ → Option (World σ ρ φ × Option (ρ × Except String α))
  | .call req => some ({ w with calls := w.calls ++ [.reading req] }, none)
  | .read c now =>
    match w.calls[c]? with
    | some (.reading req) =>
      match D.lookup req now w.cache with
      | some a => some ({ w with calls := w.calls.set c (.returned req) }, some (req, .ok a))
      | none => some ({ w with calls := w.calls.set c (.locking req) }, none)
    | _ => none
  | .write c now answer =>
    match w.calls[c]? with
    | some (.locking req) =>
      match D.lookup req now w.cache with
      | some a => some ({ w with calls := w.calls.set c (.returned req) }, some (req, .ok a))
      | none =>
        some ({ cache := (D.update req answer w.cache).1
                calls := w.calls.set c (.returned req)
                fetched := w.fetched ++ [(req, answer)] },
          some (req, (D.update req answer w.cache).2))
    | _ => none

/-- The worlds that runs from the cache `init` reach, whatever the calls, their
interleaving, the clock and GitHub's answers. -/
inductive Reachable (init : σ) : World σ ρ φ → Prop
  | init : Reachable init { cache := init }
  | step {w w' : World σ ρ φ} {e : Event ρ ν φ} {out : Option (ρ × Except String α)} :
      Reachable init w → D.step w e = some (w', out) → Reachable init w'

variable {D}

/-- **What a step can do.**  It leaves the cache and the log as they were and replies
nothing; or it finds the key under either lock, at the clock it reads, and replies with
what it found; or, in a write-locked section after the second miss, it logs GitHub's
answer and replies with the update. -/
theorem step_cases {w w' : World σ ρ φ} {e : Event ρ ν φ} {out : Option (ρ × Except String α)}
    (h : D.step w e = some (w', out)) :
    (w'.cache = w.cache ∧ w'.fetched = w.fetched ∧ out = none) ∨
    (∃ req now a, D.lookup req now w.cache = some a ∧ e.clock = some now ∧
      w'.cache = w.cache ∧ w'.fetched = w.fetched ∧ out = some (req, .ok a)) ∨
    (∃ req now answer, D.lookup req now w.cache = none ∧ (∃ c, e = .write c now answer) ∧
      w'.cache = (D.update req answer w.cache).1 ∧ w'.fetched = w.fetched ++ [(req, answer)] ∧
      out = some (req, (D.update req answer w.cache).2)) := by
  cases e with
  | call req =>
    simp only [step, Option.some.injEq, Prod.mk.injEq] at h
    obtain ⟨rfl, rfl⟩ := h
    exact .inl ⟨rfl, rfl, rfl⟩
  | read c now =>
    simp only [step] at h
    split at h <;> try contradiction
    split at h <;> simp only [Option.some.injEq, Prod.mk.injEq] at h <;> obtain ⟨rfl, rfl⟩ := h
    · exact .inr (.inl ⟨_, _, _, ‹_›, rfl, rfl, rfl, rfl⟩)
    · exact .inl ⟨rfl, rfl, rfl⟩
  | write c now answer =>
    simp only [step] at h
    split at h <;> try contradiction
    split at h <;> simp only [Option.some.injEq, Prod.mk.injEq] at h <;> obtain ⟨rfl, rfl⟩ := h
    · exact .inr (.inl ⟨_, _, _, ‹_›, rfl, rfl, rfl, rfl⟩)
    · exact .inr (.inr ⟨_, _, _, ‹_›, ⟨c, rfl⟩, rfl, rfl, rfl⟩)

/-- A reply is what the lookup found, at the clock the section read, or the update's
reply after the second miss, with GitHub's answer logged. -/
theorem step_reply {w w' : World σ ρ φ} {e : Event ρ ν φ} {req : ρ} {r : Except String α}
    (h : D.step w e = some (w', some (req, r))) :
    (∃ now a, D.lookup req now w.cache = some a ∧ e.clock = some now ∧
      w'.cache = w.cache ∧ w'.fetched = w.fetched ∧ r = .ok a) ∨
    (∃ now answer, D.lookup req now w.cache = none ∧
      w'.cache = (D.update req answer w.cache).1 ∧ w'.fetched = w.fetched ++ [(req, answer)] ∧
      r = (D.update req answer w.cache).2) := by
  rcases step_cases h with ⟨-, -, ho⟩ | ⟨_, now, a, hl, hc, hw, hf, ho⟩ |
      ⟨_, now, answer, hl, -, hw, hf, ho⟩
  · cases ho
  · simp only [Option.some.injEq, Prod.mk.injEq] at ho
    obtain ⟨rfl, rfl⟩ := ho
    exact .inl ⟨now, a, hl, hc, hw, hf, rfl⟩
  · simp only [Option.some.injEq, Prod.mk.injEq] at ho
    obtain ⟨rfl, rfl⟩ := ho
    exact .inr ⟨now, answer, hl, hw, hf, rfl⟩

/-- A step that logs an answer from GitHub ran the update on it, after a miss. -/
theorem step_fetched {w w' : World σ ρ φ} {e : Event ρ ν φ} {out : Option (ρ × Except String α)}
    {req : ρ} {answer : φ} (h : D.step w e = some (w', out))
    (hf : w'.fetched = w.fetched ++ [(req, answer)]) :
    ∃ now, D.lookup req now w.cache = none ∧ w'.cache = (D.update req answer w.cache).1 := by
  rcases step_cases h with ⟨-, hf', -⟩ | ⟨_, _, _, -, -, -, hf', -⟩ | ⟨_, now, _, hl, -, hw, hf', -⟩
  · simp [hf'] at hf
  · simp [hf'] at hf
  · rw [hf', List.append_cancel_left_eq, List.singleton_inj, Prod.mk.injEq] at hf
    obtain ⟨rfl, rfl⟩ := hf
    exact ⟨now, hl, hw⟩

variable (D)

/-- **An invariant of the cache and the log holds on every run** when it holds of `init`
with nothing logged and every update after a miss keeps it. -/
theorem Reachable.invariant {init : σ} (I : σ → List (ρ × φ) → Prop) (h0 : I init [])
    (hupdate : ∀ cache fetched req now answer, I cache fetched → D.lookup req now cache = none →
      I (D.update req answer cache).1 (fetched ++ [(req, answer)]))
    {w : World σ ρ φ} (hw : D.Reachable init w) : I w.cache w.fetched := by
  induction hw with
  | init => exact h0
  | step _ hs ih =>
    rcases step_cases hs with ⟨hw, hf, -⟩ | ⟨_, _, _, -, -, hw, hf, -⟩ |
        ⟨_, _, _, hl, -, hw, hf, -⟩
    · rwa [hw, hf]
    · rwa [hw, hf]
    · rw [hw, hf]
      exact hupdate _ _ _ _ _ ih hl

/-- One call by itself: look up at `now₁` and return on a hit; otherwise look up again at
`now₂` and return on a hit; otherwise update with GitHub's `answer`. -/
def run (req : ρ) (now₁ now₂ : ν) (answer : φ) (cache : σ) : σ × Except String α :=
  match D.lookup req now₁ cache with
  | some a => (cache, .ok a)
  | none =>
    match D.lookup req now₂ cache with
    | some a => (cache, .ok a)
    | none => D.update req answer cache

end Cache

end SplatBot
