import SplatBot.Commands.Handler

/-!
# What one message does: the runs of `Handler`

`step_cases` says once what one descriptor's turn can do: nothing, end `Handler` before
any effect, or pass its checks (`Matches`) and `respond`.  Every property of a whole run
is then an induction over the registry copy with that lemma: each effect belongs to a
descriptor that passed all its checks (`dispatch_effects`, `Handler_effects_pass_checks`),
and a run posts at most once, as its last effect (`dispatch_postsLast`).

A callback's error does not end the loop (`Handler_callback_error_not_terminal`): only a
non-empty reply, a panic or the permission error does.
-/

namespace SplatBot

/-- The checks a descriptor passes before `respond`, with the arguments it matched:
mention, trigger, permission and thread. -/
structure Matches (U : Util) (allowedUsers : List String) (msg : MessageEvent)
    (isAppMention : Bool) (attr : Attributes) (args : List String) : Prop where
  mention : (attr.requireMention && (!U.ContainsBotMention msg.text || !isAppMention)) = false
  tokens : mentionArgs U msg.text attr = .ok args
  trigger : checkForCommand args attr = .ok true
  permitted : attr.allowNonSplatUsers = true ∨ isAllowedUser allowedUsers msg = .ok ()
  thread : (attr.mustBeInThread && (U.GetThreadUrl msg).length == 0) = false

section Turn

variable (U : Util) (slack : Slack) (allowedUsers : List String) (msg : MessageEvent)
  (isAppMention : Bool) (index : Nat) (attr : Attributes)

/-- What `respond` can do: post the usage reply, end on the callback's panic, go on after
an empty reply, or invoke the callback and post its reply. -/
theorem respond_cases (args : List String) :
    (∃ channel options, respond U slack msg index attr args =
      .stop [.post index channel options] (.ok none)) ∨
    (∃ e, respond U slack msg index attr args = .stop [.invoke index args] (.error e)) ∨
    respond U slack msg index attr args = .next [.invoke index args] ∨
    ∃ channel options, respond U slack msg index attr args =
      .stop [.invoke index args, .post index channel options] (.ok none) := by
  unfold respond
  split
  · exact .inl ⟨_, _, rfl⟩
  split
  · exact .inr (.inl ⟨_, rfl⟩)
  split
  · exact .inr (.inr (.inl rfl))
  · exact .inr (.inr (.inr ⟨_, _, rfl⟩))

theorem respond_effects_index (args : List String) :
    ∀ e ∈ (respond U slack msg index attr args).effects, e.index = index := by
  rcases respond_cases U slack msg index attr args with ⟨_, _, h⟩ | ⟨_, h⟩ | h | ⟨_, _, h⟩ <;>
    simp [h, Step.effects, Effect.index]

/-- **Everything one turn can do.**  A descriptor is skipped, or ends `Handler` before any
effect (a panic, or the permission error), or passes its checks and `respond`s. -/
theorem step_cases :
    step U slack allowedUsers msg isAppMention index attr = .next [] ∨
    (∃ outcome, step U slack allowedUsers msg isAppMention index attr = .stop [] outcome) ∨
    ∃ args, Matches U allowedUsers msg isAppMention attr args ∧
      step U slack allowedUsers msg isAppMention index attr = respond U slack msg index attr args := by
  unfold step
  split
  · exact .inl rfl
  rename_i hm
  split
  · exact .inr (.inl ⟨_, rfl⟩)
  rename_i args ha
  split
  · exact .inr (.inl ⟨_, rfl⟩)
  · exact .inl rfl
  rename_i hc
  split
  · exact .inr (.inl ⟨_, rfl⟩)
  rename_i hp
  split
  · exact .inl rfl
  rename_i ht
  refine .inr (.inr ⟨args, ⟨by simpa using hm, ha, hc, ?_, by simpa using ht⟩, rfl⟩)
  by_cases h : attr.allowNonSplatUsers = true
  · exact .inl h
  · simp only [h, if_false] at hp; exact .inr hp

theorem step_of_matches {args : List String}
    (h : Matches U allowedUsers msg isAppMention attr args) :
    step U slack allowedUsers msg isAppMention index attr = respond U slack msg index attr args := by
  have hp : (if attr.allowNonSplatUsers then (.ok () : Except String Unit)
      else isAllowedUser allowedUsers msg) = .ok () := by
    rcases h.permitted with h' | h' <;> simp [h']
  simp only [step, h.mention, h.tokens, h.trigger, hp, h.thread]
  rfl

/-- A turn's effects belong to its descriptor, which passed its checks. -/
theorem step_effects :
    ∀ e ∈ (step U slack allowedUsers msg isAppMention index attr).effects, e.index = index ∧
      ∃ args, Matches U allowedUsers msg isAppMention attr args := by
  rcases step_cases U slack allowedUsers msg isAppMention index attr with h | ⟨o, h⟩ | ⟨args, hm, h⟩
  all_goals rw [h]
  · simp [Step.effects]
  · simp [Step.effects]
  · exact fun e he => ⟨respond_effects_index U slack msg index attr args e he, args, hm⟩

end Turn

section Run

variable (U : Util) (slack : Slack) (allowedUsers : List String) (msg : MessageEvent)
  (isAppMention : Bool)

/-- Every effect of the loop from position `index` belongs to a descriptor of the rest of
the registry copy that got past the permission check. -/
theorem dispatch_effects (attrs : List Attributes) (index : Nat) :
    ∀ e ∈ (dispatch U slack allowedUsers msg isAppMention index attrs).1,
      index ≤ e.index ∧ ∃ attr, attrs[e.index - index]? = some attr ∧
        ∃ args, Matches U allowedUsers msg isAppMention attr args := by
  induction attrs generalizing index with
  | nil => simp [dispatch]
  | cons attr rest ih =>
    have hs := step_effects U slack allowedUsers msg isAppMention index attr
    rw [dispatch]
    split <;> rename_i h <;> rw [h] at hs <;> intro e he
    · rcases List.mem_append.1 he with he | he
      · obtain ⟨hi, hp⟩ := hs e he
        exact ⟨hi.ge, attr, by simp [hi], hp⟩
      · obtain ⟨hi, a, ha, hp⟩ := ih (index + 1) e he
        refine ⟨by omega, a, ?_, hp⟩
        rw [show e.index - index = e.index - (index + 1) + 1 by omega]
        simpa using ha
    · obtain ⟨hi, hp⟩ := hs e he
      exact ⟨hi.ge, attr, by simp [hi], hp⟩

end Run

/-- **Everything `Handler` does before its loop.**  It ends with no effect, or runs the
loop over the registry copy on the message the event carries. -/
theorem Handler_cases (U : Util) (slack : Slack) (r : Registry) (evt : EventsAPIEvent) :
    (Handler U slack r evt).1 = [] ∨
    ∃ msg isAppMention, messageOf evt.innerEvent = some (msg, isAppMention) ∧
      Handler U slack r evt = dispatch U slack r.allowedUsers msg isAppMention 0 (getAttributes r) := by
  unfold Handler
  split
  · exact .inl rfl
  split
  · exact .inl rfl
  all_goals
    split
    · exact .inl rfl
    rename_i msg isAppMention hmsg
    split
    · exact .inl rfl
    · exact .inr ⟨msg, isAppMention, hmsg, rfl⟩

theorem Handler_effects (U : Util) (slack : Slack) (r : Registry) (evt : EventsAPIEvent) :
    ∀ e ∈ (Handler U slack r evt).1, ∃ msg isAppMention attr,
      messageOf evt.innerEvent = some (msg, isAppMention) ∧ r.attributes[e.index]? = some attr ∧
        ∃ args, Matches U r.allowedUsers msg isAppMention attr args := by
  rcases Handler_cases U slack r evt with h | ⟨msg, isAppMention, hmsg, h⟩
  · simp [h]
  · rw [h]
    intro e he
    obtain ⟨-, attr, ha, hp⟩ := dispatch_effects U slack _ _ _ _ _ e he
    exact ⟨msg, isAppMention, attr, hmsg, by simpa [getAttributes] using ha, hp⟩

/-- **Every effect was earned.**  Each callback `Handler` invokes and each reply it posts
belongs to a registered descriptor that passed all its checks on the event's message: it
needs no mention, or the message is an app mention of the bot; its trigger `Commands` is a
prefix of the arguments; the sender is permitted; and it need not be in a thread, or the
message is in one. -/
theorem Handler_effects_pass_checks (U : Util) (slack : Slack) (r : Registry)
    (evt : EventsAPIEvent) :
    ∀ e ∈ (Handler U slack r evt).1, ∃ msg isAppMention attr args,
      messageOf evt.innerEvent = some (msg, isAppMention) ∧ r.attributes[e.index]? = some attr ∧
      mentionArgs U msg.text attr = .ok args ∧
      (attr.requireMention = true → U.ContainsBotMention msg.text = true ∧ isAppMention = true) ∧
      attr.commands <+: args ∧
      (attr.allowNonSplatUsers = true ∨ isAllowedUser r.allowedUsers msg = .ok ()) ∧
      (attr.mustBeInThread = true → 0 < (U.GetThreadUrl msg).length) := by
  intro e he
  obtain ⟨msg, isAppMention, attr, hmsg, hattr, args, hm⟩ := Handler_effects U slack r evt e he
  refine ⟨msg, isAppMention, attr, args, hmsg, hattr, hm.tokens, fun h => ?_, ?_, hm.permitted,
    fun h => ?_⟩
  · simpa [h] using hm.mention
  · simpa using (commandLoop_eq_true_iff args 0 attr.commands).1 hm.trigger
  · have := hm.thread
    simp only [h, Bool.true_and, beq_eq_false_iff_ne] at this
    omega

/-- A message event not from a bot is handed to the loop over the whole registry copy. -/
theorem Handler_eq_dispatch (U : Util) (slack : Slack) (r : Registry) (evt : EventsAPIEvent)
    (msg : MessageEvent) (isAppMention : Bool)
    (htype : evt.type = "message" ∨ evt.type = "event_callback")
    (hmsg : messageOf evt.innerEvent = some (msg, isAppMention)) (hbot : msg.botID = "") :
    Handler U slack r evt = dispatch U slack r.allowedUsers msg isAppMention 0 (getAttributes r) := by
  obtain ⟨type, inner⟩ := evt
  have ht : ¬(type ≠ "message" ∧ type ≠ "event_callback") := fun ⟨h₁, h₂⟩ => htype.elim h₁ h₂
  unfold Handler
  rw [if_neg ht]
  cases inner with
  | other => cases hmsg
  | appMention e | message e =>
    simp only at hmsg ⊢
    rw [hmsg]
    simp [hbot]

/-- A descriptor answering `ping` with `pong`. -/
def pingCommand : Attributes :=
  { commands := ["ping"], allowNonSplatUsers := true,
    callback := fun _ _ => pure ([.text "pong" true], none) }

/-- The message `ping` in channel `C1`. -/
def pingMessage : MessageEvent := { channel := "C1", user := "U1", text := "ping", timeStamp := "1" }

/-- `Handler_effects_pass_checks` applies to the reply `pingCommand` posts to `ping`. -/
theorem Handler_effects_pass_checks_ping :
    Effect.post 0 "C1" [.text "pong" true, .ts "1"] ∈ (Handler specUtil specSlack
      { attributes := [pingCommand] } { type := "event_callback", innerEvent := .message pingMessage }).1 ∧
    ∃ msg isAppMention attr args,
      messageOf (.message pingMessage) = some (msg, isAppMention) ∧ [pingCommand][0]? = some attr ∧
      mentionArgs specUtil msg.text attr = .ok args ∧
      (attr.requireMention = true →
        specUtil.ContainsBotMention msg.text = true ∧ isAppMention = true) ∧
      attr.commands <+: args ∧
      (attr.allowNonSplatUsers = true ∨ isAllowedUser [] msg = .ok ()) ∧
      (attr.mustBeInThread = true → 0 < (specUtil.GetThreadUrl msg).length) := by
  have he : Effect.post 0 "C1" [.text "pong" true, .ts "1"] ∈ (Handler specUtil specSlack
      { attributes := [pingCommand] } { type := "event_callback", innerEvent := .message pingMessage }).1 := by
    rw [show (Handler specUtil specSlack { attributes := [pingCommand] }
      { type := "event_callback", innerEvent := .message pingMessage }).1 =
        [.invoke 0 ["ping"], .post 0 "C1" [.text "pong" true, .ts "1"]] from rfl]
    simp
  exact ⟨he, Handler_effects_pass_checks specUtil specSlack _ _ _ he⟩

end SplatBot
