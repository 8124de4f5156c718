import SplatBot.Startup
import SplatBot.Commands.Dialog

/-!
# The event loop of `cmd/slack-bot`

After startup (`Startup`), `main` (`cmd/slack-bot/slack-bot.go`) reads the Socket Mode
client's events in one goroutine, one after another.  It acknowledges an Events API event
and hands it to `commands.Handler`; it acknowledges an interactive event and hands it to
`processInteractiveEvent`, which acknowledges it a second time and deletes the message of a
`Close` button, or hands a view submission to `commands.ViewSubmissionHandler`; it
acknowledges a slash command and hands it to `commands.SlashHandler`; it only logs the other
events.  An Events API event whose payload is not an `EventsAPIEvent` is skipped, and not
acknowledged.

Nothing in the loop recovers from a panic, and a panic in a goroutine ends the process: the
first event whose handling panics (a `Handler` panic, a payload of another Go type, a
`block_actions` callback without actions, a nil request) is the last one the bot ever
serves (`eventLoop_stops_on_panic`).  Until then the bot's command replies are exactly
`Handler`'s on each message in turn (`eventLoop_handler_effects`), so what is proved of
`Handler` holds of the running bot.

`commands.SlashHandler` and `commands.ViewSubmissionHandler` are not under `src/`: their
calls are effects, taken to return.  The constants of `socketmode` and `slack` the switches
compare with are constructors of `EventType` and `InteractionType`.
-/

namespace SplatBot

/-- `socketmode.EventType`: the types the loop tells apart, and the others. -/
inductive EventType
  | connecting
  | connectionError
  | connected
  | eventsAPI
  | interactive
  | slashCommand
  | other (name : String)

/-- `slack.InteractionType`: the two `processInteractiveEvent` acts on, and the others. -/
inductive InteractionType
  | blockActions
  | viewSubmission
  | other (name : String)

/-- `slack.InteractionCallback`, the fields `processInteractiveEvent` reads: its type, the
text of each of `ActionCallback.BlockActions`, `Channel.ID` and `ResponseURL`. -/
structure InteractionCallback where
  type : InteractionType
  blockActions : List String
  channelID : String
  responseURL : String

/-- `evt.Data`, by its Go type; `other` names any other type, `nil` included. -/
inductive EventData
  | eventsAPI (event : EventsAPIEvent)
  | interaction (callback : InteractionCallback)
  | slashCommand (command : SlashCommand)
  | other (goType : String)

/-- The Go type of a payload. -/
def EventData.goType : EventData → String
  | .eventsAPI _ => "slackevents.EventsAPIEvent"
  | .interaction _ => "slack.InteractionCallback"
  | .slashCommand _ => "slack.SlashCommand"
  | .other goType => goType

/-- `socketmode.Event`: its type, its payload, and the envelope ID of its request (`none`
for a nil `Request`). -/
structure SocketEvent where
  type : EventType
  data : EventData
  request : Option String

/-- What the loop does that Slack sees: an acknowledgement, an effect of
`commands.Handler`, the deletion of a message, and the calls of the dispatchers not under
`src/`. -/
inductive LoopEffect
  | ack (envelopeID : String)
  | handler (effect : Effect)
  | deleteOriginal (channel responseURL : String)
  | viewSubmission (callback : InteractionCallback)
  | slashCommand (command : SlashCommand)

/-- The effect of `commands.Handler` a loop effect is, if any. -/
def LoopEffect.handlerEffect? : LoopEffect → Option Effect
  | .handler effect => some effect
  | _ => none

/-- The panic of `*evt.Request` on a nil request. -/
def nilDereference : String := "runtime error: invalid memory address or nil pointer dereference"

/-- The panic of the type assertion `evt.Data.(T)` on a payload of another type. -/
def interfaceConversion (data : EventData) (T : String) : String :=
  "interface conversion: interface \x7b\x7d is " ++ data.goType ++ ", not " ++ T

/-- `processInteractiveEvent(ctx, client, evt)`, on an event whose request has the envelope
ID `envelopeID`: a second acknowledgement, then the callback. -/
def processInteractiveEvent (envelopeID : String) (data : EventData) :
    List LoopEffect × Go Unit :=
  match data with
  | .interaction callback =>
    match callback.type with
    | .blockActions =>
      match callback.blockActions with
      | [] => ([.ack envelopeID], .error "runtime error: index out of range [0] with length 0")
      | text :: _ =>
        (.ack envelopeID ::
          if text = "Close" then [.deleteOriginal callback.channelID callback.responseURL] else [],
          .ok ())
    | .viewSubmission => ([.ack envelopeID, .viewSubmission callback], .ok ())
    | .other _ => ([.ack envelopeID], .ok ())
  | data => ([.ack envelopeID], .error (interfaceConversion data "slack.InteractionCallback"))

/-- The body of the loop for one event, against the registry `r` startup left: what it does,
and whether it returns or panics. -/
def handleEvent (U : Util) (slack : Slack) (r : Registry) (evt : SocketEvent) :
    List LoopEffect × Go Unit :=
  match evt.type with
  | .eventsAPI =>
    match evt.data with
    | .eventsAPI event =>
      match evt.request with
      | none => ([], .error nilDereference)
      | some envelopeID =>
        (.ack envelopeID :: (Handler U slack r event).1.map .handler,
          (Handler U slack r event).2.map fun _ => ())
    | _ => ([], .ok ())
  | .interactive =>
    match evt.request with
    | none => ([], .error nilDereference)
    | some envelopeID =>
      (.ack envelopeID :: (processInteractiveEvent envelopeID evt.data).1,
        (processInteractiveEvent envelopeID evt.data).2)
  | .slashCommand =>
    match evt.request with
    | none => ([], .error nilDereference)
    | some envelopeID =>
      match evt.data with
      | .slashCommand command => ([.ack envelopeID, .slashCommand command], .ok ())
      | data => ([.ack envelopeID], .error (interfaceConversion data "slack.SlashCommand"))
  | _ => ([], .ok ())

/-- `for evt := range client.Events`, over the events received so far: what the loop has
done, and whether it is still running or the process ended in a panic. -/
def eventLoop (U : Util) (slack : Slack) (r : Registry) :
    List SocketEvent → List LoopEffect × Go Unit
  | [] => ([], .ok ())
  | evt :: evts =>
    match (handleEvent U slack r evt).2 with
    | .error p => ((handleEvent U slack r evt).1, .error p)
    | .ok () =>
      ((handleEvent U slack r evt).1 ++ (eventLoop U slack r evts).1, (eventLoop U slack r evts).2)

/-- The payload `commands.Handler` gets from an Events API event. -/
def SocketEvent.eventsAPIEvent? (evt : SocketEvent) : Option EventsAPIEvent :=
  match evt.type, evt.data with
  | .eventsAPI, .eventsAPI event => some event
  | _, _ => none

section Loop

variable (U : Util) (slack : Slack) (r : Registry)

/-- An Events API event with its payload and a request is acknowledged, then handed to
`Handler`, whose effects and panic are the loop's. -/
theorem handleEvent_eventsAPI (event : EventsAPIEvent) (envelopeID : String) :
    handleEvent U slack r ⟨.eventsAPI, .eventsAPI event, some envelopeID⟩ =
      (.ack envelopeID :: (Handler U slack r event).1.map .handler,
        (Handler U slack r event).2.map fun _ => ()) := rfl

/-- `processInteractiveEvent` has no effect of `Handler`. -/
theorem processInteractiveEvent_handlerEffects (envelopeID : String) (data : EventData) :
    (processInteractiveEvent envelopeID data).1.filterMap LoopEffect.handlerEffect? = [] := by
  unfold processInteractiveEvent
  split
  · split
    · split
      · rfl
      · split_ifs <;> rfl
    · rfl
    · rfl
  · rfl

/-- One event that returns: the effects of `Handler` in it are `Handler`'s on its payload,
and there are none in any other event. -/
theorem handleEvent_handlerEffects (evt : SocketEvent) (h : (handleEvent U slack r evt).2 = .ok ()) :
    (handleEvent U slack r evt).1.filterMap LoopEffect.handlerEffect? =
      (evt.eventsAPIEvent?.map fun event => (Handler U slack r event).1).getD [] := by
  obtain ⟨type, data, request⟩ := evt
  cases type
  case eventsAPI =>
    cases data
    case eventsAPI event =>
      cases request with
      | none => cases h
      | some envelopeID =>
        simp [handleEvent, SocketEvent.eventsAPIEvent?, LoopEffect.handlerEffect?,
          List.filterMap_map, Function.comp_def]
    all_goals rfl
  case interactive =>
    cases request with
    | none => cases h
    | some envelopeID => exact processInteractiveEvent_handlerEffects envelopeID data
  case slashCommand =>
    cases request with
    | none => cases h
    | some envelopeID => cases data <;> rfl
  all_goals rfl

/-- A run in which no event panics does what each event does, in order. -/
theorem eventLoop_served :
    ∀ evts : List SocketEvent, (∀ evt ∈ evts, (handleEvent U slack r evt).2 = .ok ()) →
      eventLoop U slack r evts = (evts.flatMap fun evt => (handleEvent U slack r evt).1, .ok ())
  | [], _ => rfl
  | evt :: evts, h => by
    simp only [eventLoop, h evt (List.mem_cons_self _ _), List.flatMap_cons,
      eventLoop_served evts fun e he => h e (List.mem_cons_of_mem _ he)]

/-- **A panic ends the bot.**  Whatever the events before it, as long as none of them
panics, and whatever the events after it, the first event whose handling panics is the last
one the loop handles: the loop does what the events before it and this event do, and then
the process ends with that panic; no later event is acknowledged or handled. -/
theorem eventLoop_stops_on_panic (pre post : List SocketEvent) (evt : SocketEvent) (p : String)
    (hpre : ∀ e ∈ pre, (handleEvent U slack r e).2 = .ok ())
    (hevt : (handleEvent U slack r evt).2 = .error p) :
    eventLoop U slack r (pre ++ evt :: post) =
      ((pre ++ [evt]).flatMap fun e => (handleEvent U slack r e).1, .error p) := by
  induction pre with
  | nil => simp [eventLoop, hevt]
  | cons e pre ih =>
    have he := hpre e (List.mem_cons_self _ _)
    simp [eventLoop, he, ih fun e' h => hpre e' (List.mem_cons_of_mem _ h)]

/-- The registry of `CreateAttributes` alone. -/
def createRegistry : Registry := { attributes := [CreateAttributes specServices] }

/-- An app mention of the bot in `C1` by `U1`, in the request with envelope `envelopeID`. -/
def mentionEvent (envelopeID text : String) : SocketEvent where
  type := .eventsAPI
  data := .eventsAPI
    { type := "event_callback"
      innerEvent := .appMention { channel := "C1", user := "U1", text := text, timeStamp := "1" } }
  request := some envelopeID

/-- The connection event Socket Mode sends first. -/
def connectedEvent : SocketEvent := ⟨.connected, .other "nil", none⟩

/-- `eventLoop_stops_on_panic` applies to `jira create` with two arguments, after the
connection and before any later message: the mention is acknowledged and `Handler` invokes
the callback, which panics; `E2` is never acknowledged. -/
theorem eventLoop_stops_on_panic_jiraCreate :
    (∀ e ∈ [connectedEvent], (handleEvent specUtil specSlack createRegistry e).2 = .ok ()) ∧
    (handleEvent specUtil specSlack createRegistry (mentionEvent "E1" "<@BOT> jira create")).2 =
      .error "runtime error: index out of range [2] with length 2" ∧
    eventLoop specUtil specSlack createRegistry
        ([connectedEvent] ++ mentionEvent "E1" "<@BOT> jira create" ::
          [mentionEvent "E2" "<@BOT> jira create summary"]) =
      (([connectedEvent] ++ [mentionEvent "E1" "<@BOT> jira create"]).flatMap fun e =>
          (handleEvent specUtil specSlack createRegistry e).1,
        .error "runtime error: index out of range [2] with length 2") :=
  have hpre : ∀ e ∈ [connectedEvent], (handleEvent specUtil specSlack createRegistry e).2 = .ok () :=
    List.forall_mem_singleton.2 rfl
  have hevt : (handleEvent specUtil specSlack createRegistry
      (mentionEvent "E1" "<@BOT> jira create")).2 =
      .error "runtime error: index out of range [2] with length 2" := by
    rw [mentionEvent, handleEvent_eventsAPI]; rfl
  ⟨hpre, hevt, eventLoop_stops_on_panic specUtil specSlack createRegistry [connectedEvent]
    [mentionEvent "E2" "<@BOT> jira create summary"] _ _ hpre hevt⟩

/-- **The bot's commands are `Handler`'s.**  Over every run in which no event panics, the
effects of `Handler` in what the loop does are, in order, `Handler`'s effects on the payload
of each Events API event received: the loop adds none, drops none and reorders none. -/
theorem eventLoop_handler_effects (evts : List SocketEvent)
    (h : ∀ evt ∈ evts, (handleEvent U slack r evt).2 = .ok ()) :
    (eventLoop U slack r evts).1.filterMap LoopEffect.handlerEffect? =
      (evts.filterMap SocketEvent.eventsAPIEvent?).flatMap fun event => (Handler U slack r event).1 := by
  rw [eventLoop_served U slack r evts h]
  induction evts with
  | nil => rfl
  | cons evt evts ih =>
    rw [List.flatMap_cons, List.filterMap_append,
      handleEvent_handlerEffects U slack r evt (h evt (List.mem_cons_self _ _)),
      ih fun e he => h e (List.mem_cons_of_mem _ he)]
    cases hev : evt.eventsAPIEvent? <;> simp [List.filterMap_cons, hev]

/-- A `Close` button pressed in `C1`, in the request with envelope `E2`. -/
def closeEvent : SocketEvent where
  type := .interactive
  data := .interaction
    { type := .blockActions
      blockActions := ["Close"]
      channelID := "C1"
      responseURL := "R1" }
  request := some "E2"

/-- `eventLoop_handler_effects` applies to a run of the connection, a `jira create` with
three arguments (answered with the usage reply), and a `Close` button. -/
theorem eventLoop_handler_effects_usageAndClose :
    (∀ e ∈ [connectedEvent, mentionEvent "E1" "<@BOT> jira create summary", closeEvent],
      (handleEvent specUtil specSlack createRegistry e).2 = .ok ()) ∧
    (eventLoop specUtil specSlack createRegistry
        [connectedEvent, mentionEvent "E1" "<@BOT> jira create summary", closeEvent]).1.filterMap
        LoopEffect.handlerEffect? =
      ([connectedEvent, mentionEvent "E1" "<@BOT> jira create summary", closeEvent].filterMap
        SocketEvent.eventsAPIEvent?).flatMap fun event =>
          (Handler specUtil specSlack createRegistry event).1 :=
  have h : ∀ e ∈ [connectedEvent, mentionEvent "E1" "<@BOT> jira create summary", closeEvent],
      (handleEvent specUtil specSlack createRegistry e).2 = .ok () := by
    simp only [List.mem_cons, List.mem_singleton, forall_eq_or_imp, forall_eq, List.not_mem_nil,
      false_imp_iff, implies_true, and_true]
    exact ⟨rfl, rfl, rfl⟩
  ⟨h, eventLoop_handler_effects specUtil specSlack createRegistry _ h⟩

end Loop

end SplatBot
