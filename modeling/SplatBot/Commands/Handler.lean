import SplatBot.Commands.Tokenize

/-!
# The dispatcher: `Handler`

`Handler` (`pkg/commands/command.go`) takes one Events API event, turns it into a message,
drops messages from bots, and walks a copy of the registered descriptors in registration
order.  For each descriptor it checks the mention requirement, tokenizes and drops the
mention, matches the trigger with `checkForCommand`, checks the sender against the allowed
users and the thread requirement, and then answers with a usage reply or the callback's
reply.  A non-empty reply is posted and ends the message; an empty one, even from a
callback that returned an error, goes on to the next descriptor.

The run of `Handler` is a list of `Effect`s, the callbacks it invokes and the reply it
posts, with how it ended: a returned error (or `none`), or a panic.  `step` is one
descriptor; `dispatch` is the loop.
-/

namespace SplatBot

/-- The state of package `commands`: the registered descriptors in registration order
(`attributes`) and the keys of `allowedUsers`. -/
structure Registry where
  attributes : List Attributes := []
  allowedUsers : List String := []

/-- `AddCommand(attribute)`: append under the lock.  The `MessageOfInterest` it also sets is
read by no modelled function: `Handler` calls `checkForCommand` directly. -/
def AddCommand (attr : Attributes) (r : Registry) : Registry :=
  { r with attributes := r.attributes ++ [attr] }

/-- `getAttributes()`: a copy of the registered descriptors. -/
def getAttributes (r : Registry) : List Attributes := r.attributes

/-- `isAllowedUser(evt)`: refuse a sender missing from a non-empty allow-list. -/
def isAllowedUser (allowedUsers : List String) (evt : MessageEvent) : Except String Unit :=
  if evt.user ∉ allowedUsers ∧ allowedUsers ≠ [] then .error "user not allowed" else .ok ()

/-- `getDMChannelID(client, evt)`: the direct conversation with the sender. -/
def getDMChannelID (slack : Slack) (evt : MessageEvent) : Except String String :=
  match slack.OpenConversation evt.user with
  | .error e => .error ("failed to open conversation: " ++ e)
  | .ok channel => .ok channel

/-- What `Handler` does that the outside sees: a descriptor's callback invoked with its
arguments, and a reply posted on behalf of a descriptor, to a channel. -/
inductive Effect
  | invoke (index : Nat) (args : List String)
  | post (index : Nat) (channel : String) (options : List MsgOption)
  deriving DecidableEq, Repr

/-- The position in the registry copy of the descriptor an effect belongs to. -/
def Effect.index : Effect → Nat
  | .invoke index _ => index
  | .post index _ _ => index

/-- One descriptor's turn: `continue` with its effects, or the end of `Handler` with its
effects and how it ends (`.ok err` returns `err`, `.error` panics). -/
inductive Step
  | next (effects : List Effect)
  | stop (effects : List Effect) (outcome : Go (Option String))

/-- The effects of a descriptor's turn. -/
def Step.effects : Step → List Effect
  | .next effects => effects
  | .stop effects _ => effects

/-- The arguments `Handler` matches and passes on: the text tokenized by the descriptor's
quoting policy, with the first token dropped when the text mentions the bot
(`args[1:]`, which panics when there is no token). -/
def mentionArgs (U : Util) (text : String) (attr : Attributes) : Go (List String) :=
  let args := tokenize text !attr.dontGlobQuotes
  if U.ContainsBotMention text then
    match args with
    | [] => throw "runtime error: slice bounds out of range [1:0]"
    | _ :: rest => pure rest
  else pure args

/-- The usage reply for too few, or (when `RequiredArgs` is positive) too many arguments;
`none` when the callback is to run. -/
def usageReply (attr : Attributes) (args : List String) : Option (List MsgOption) :=
  if (args.length : Int) < attr.requiredArgs then
    some [.text ("command requires " ++ toString attr.requiredArgs ++ " arguments.\n" ++
      attr.helpMarkdown ++ "\n") true]
  else if attr.requiredArgs > 0 ∧ (args.length : Int) > attr.requiredArgs then
    some [.text ("command requires " ++ toString attr.requiredArgs ++
      " arguments. if an argument is greater than one word, be sure to wrap that argument " ++
      "in quotes.\n" ++ attr.helpMarkdown ++ "\n") true]
  else none

/-- Where a reply is posted and with which thread anchor: a direct message (the empty
channel when opening it failed), the message's own timestamp, or its thread's. -/
def route (U : Util) (slack : Slack) (attr : Attributes) (msg : MessageEvent)
    (response : List MsgOption) : String × List MsgOption :=
  if attr.respondInDM then
    (match getDMChannelID slack msg with | .ok channel => channel | .error _ => "", response)
  else if !attr.respondInChannel then (msg.channel, response ++ [.ts msg.timeStamp])
  else if (U.GetThreadUrl msg).length > 0 then (msg.channel, response ++ [.ts msg.threadTimeStamp])
  else (msg.channel, response)

/-- A matched, permitted descriptor: the usage reply, or the callback, whose error is only
logged; a non-empty reply is posted and ends `Handler`. -/
def respond (U : Util) (slack : Slack) (msg : MessageEvent) (index : Nat) (attr : Attributes)
    (args : List String) : Step :=
  match usageReply attr args with
  | some response =>
    let (channel, options) := route U slack attr msg response
    .stop [.post index channel options] (.ok none)
  | none =>
    match attr.callback msg args with
    | .error e => .stop [.invoke index args] (.error e)
    | .ok (response, _) =>
      if response.isEmpty then .next [.invoke index args]
      else
        let (channel, options) := route U slack attr msg response
        .stop [.invoke index args, .post index channel options] (.ok none)

/-- The body of `Handler`'s loop for the descriptor at `index`. -/
def step (U : Util) (slack : Slack) (allowedUsers : List String) (msg : MessageEvent)
    (isAppMention : Bool) (index : Nat) (attr : Attributes) : Step :=
  if attr.requireMention && (!U.ContainsBotMention msg.text || !isAppMention) then .next []
  else
    match mentionArgs U msg.text attr with
    | .error e => .stop [] (.error e)
    | .ok args =>
      match checkForCommand args attr with
      | .error e => .stop [] (.error e)
      | .ok false => .next []
      | .ok true =>
        match (if attr.allowNonSplatUsers then .ok () else isAllowedUser allowedUsers msg) with
        | .error e => .stop [] (.ok (some ("user not allowed: " ++ e)))
        | .ok () =>
          if attr.mustBeInThread && (U.GetThreadUrl msg).length == 0 then .next []
          else respond U slack msg index attr args

/-- `for _, attribute := range getAttributes()`, from position `index`. -/
def dispatch (U : Util) (slack : Slack) (allowedUsers : List String) (msg : MessageEvent)
    (isAppMention : Bool) : Nat → List Attributes → List Effect × Go (Option String)
  | _, [] => ([], .ok none)
  | index, attr :: rest =>
    match step U slack allowedUsers msg isAppMention index attr with
    | .next effects =>
      let (more, outcome) := dispatch U slack allowedUsers msg isAppMention (index + 1) rest
      (effects ++ more, outcome)
    | .stop effects outcome => (effects, outcome)

/-- The message `Handler` builds from an event, and whether it is an app mention; an app
mention's message carries no `BotID`. -/
def messageOf : InnerEvent → Option (MessageEvent × Bool)
  | .appMention e =>
    some (⟨e.channel, e.user, e.text, e.timeStamp, e.threadTimeStamp, ""⟩, true)
  | .message e => some (e, false)
  | .other _ => none

/-- `Handler(ctx, client, evt)`. -/
def Handler (U : Util) (slack : Slack) (r : Registry) (evt : EventsAPIEvent) :
    List Effect × Go (Option String) :=
  if evt.type ≠ "message" ∧ evt.type ≠ "event_callback" then ([], .ok none)
  else
    match evt.innerEvent with
    | .other goType => ([], .ok (some ("received an unknown event type: " ++ goType)))
    | .appMention _ | .message _ =>
      match messageOf evt.innerEvent with
      | none => ([], .ok none)
      | some (msg, isAppMention) =>
        if msg.botID.length > 0 then ([], .ok none)
        else dispatch U slack r.allowedUsers msg isAppMention 0 (getAttributes r)

end SplatBot
