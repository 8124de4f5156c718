import SplatBot.Commands.Runs

/-!
# The registered commands and `Initialize`

`Initialize` (`pkg/commands/command.go`) registers eight descriptors and records the
allowed users from `SLACK_ALLOWED_USERS`.  Three of the descriptors are in the sources:
`CreateAttributes` (`create.go`, callback `createJira`), `SummarizeAttributes`
(`summarize.go`, callback `handlePrompt`) and `UnsizedAttributes` (`unsized-stories.go`).
The other five are absent and enter as `AbsentAttributes`; Jira and Ollama are services.

`Handler_restricted_never_served` is the allow-list's guarantee over every registry: a
sender missing from the list built by `Initialize` gets nothing from a descriptor that
does not allow non-SPLAT users.  `Handler_panics_on_short_trigger` is the message
`<@BOT> jira` against `CreateAttributes`, which `checkForCommand` reads past its end.

`createJira` reads `args[2]`, but the argument checks run the callback only on exactly
`RequiredArgs = 2` arguments: `respond_create_never_creates` shows that a matched
`jira create` gets the usage reply or a panic, never an issue.
-/

namespace SplatBot

/-- The Jira side of the commands: the test-mode switch, the base URL (a constant absent
from the sources), `issue.CreateIssue` (project, summary, description, type; the new key)
and `util.GetUnsizedStories` (key and summary of each story). -/
structure Jira where
  JIRA_TEST_MODE_ENABLED : Bool
  JIRA_BASE_URL : String
  CreateIssue : String → String → String → String → Except String String
  GetUnsizedStories : Except String (List (String × String))

/-- The language model behind `handlePrompt`: `OLLAMA_ENDPOINT`, `ollama.New` and
`llms.GenerateFromSinglePrompt`. -/
structure Ollama where
  OLLAMA_ENDPOINT : String
  New : Except String Unit
  GenerateFromSinglePrompt : String → Except String String

/-- Everything outside the sources that the commands' callbacks call. -/
structure Services where
  util : Util
  slack : Slack
  jira : Jira
  ollama : Ollama

/-- The descriptors `Initialize` registers whose definitions are absent from the sources. -/
structure AbsentAttributes where
  CreateSummaryAttributes : Attributes
  HelpAttributes : Attributes
  ProwAttributes : Attributes
  ProwGraphAttributes : Attributes
  ProviderSummaryAttributes : Attributes

/-- `args[i]`, which panics past the end. -/
def argAt (args : List String) (i : Nat) : Go String :=
  match args[i]? with
  | some arg => pure arg
  | none => throw ("runtime error: index out of range [" ++ toString i ++ "] with length " ++
      toString args.length)

/-- `issueTemplate` executed on an `assistantContext`; executing it cannot fail. -/
def issueDescription (principal goal outcome : String) : String :=
  "\n*User Story:*\nAs an " ++ principal ++ " I want " ++ goal ++ " so " ++ outcome ++
  ".\n\n*Description:*\n< Record any background information >\n\n*Acceptance Criteria:*\n" ++
  "< Record how we\x27ll know we\x27re done >\n\n*Other Information:*\n< Record anything else " ++
  "that may be helpful to someone else picking up the card >\n\nissue created by splat-bot\n"

/-- `createJira(ctx, evt, args)`: the summary is `args[2]`, goal and outcome `args[2]` and
`args[3]` when there are four arguments. -/
def createJira (S : Services) (evt : MessageEvent) (args : List String) :
    Go (List MsgOption × Option String) := do
  let url := S.util.GetThreadUrl evt
  let summary ← argAt args 2
  let (goal, outcome) ← if args.length ≥ 4 then do
      let goal ← argAt args 2
      let outcome ← argAt args 3
      pure (goal, outcome)
    else pure ("___", "___")
  let description := issueDescription "OpenShift Engineer" goal outcome
  let description :=
    if url.length > 0 then description ++ "\n\ncreated from thread: " ++ url else description
  if S.jira.JIRA_TEST_MODE_ENABLED then
    return (S.util.StringToBlock "issue <www.example.com|Key> created" false, none)
  match S.jira.CreateIssue "SPLAT" summary description "Task" with
  | .error err => return (S.util.WrapErrorToBlock err "error creating issue", none)
  | .ok key =>
    let issueURL := S.jira.JIRA_BASE_URL ++ "/browse/" ++ key
    return (S.util.StringToBlock ("issue <" ++ issueURL ++ "|" ++ key ++ "> created") false, none)

/-- `CreateAttributes`. -/
def CreateAttributes (S : Services) : Attributes where
  commands := ["jira", "create"]
  requireMention := true
  callback := createJira S
  requiredArgs := 2
  maxArgs := 4
  helpMarkdown := "create a Jira issue: `jira create \"[description]\"`"

/-- `PROMPT_ISSUE_SUMMARY`. -/
def PROMPT_ISSUE_SUMMARY : String := "can you summarize this thread a short paragraph?"

/-- `handlePrompt(prompt, client, evt)`: the prompt and the thread's replies that do not
mention the bot, one per line, sent to the model; `log.Fatal` ends the program. -/
def handlePrompt (S : Services) (prompt : String) (evt : MessageEvent) :
    Go (Except String String) := do
  if S.ollama.OLLAMA_ENDPOINT.length = 0 then return .error "OLLAMA_ENDPOINT must be exported"
  if let .error err := S.ollama.New then throw ("log.Fatal: " ++ err)
  match S.slack.GetConversationReplies evt.channel evt.threadTimeStamp with
  | .error err => return .error ("failed to get thread messages: " ++ err)
  | .ok messages =>
    let buffer := prompt ++ "\n" ++ String.join ((messages.filter fun text =>
      !S.util.ContainsBotMention text).map (· ++ "\n"))
    match S.ollama.GenerateFromSinglePrompt buffer with
    | .error err => throw ("log.Fatal: " ++ err)
    | .ok completion => return .ok completion

/-- `SummarizeAttributes`: its `Regex` is read by no modelled function, so it has no
`Commands` and matches every mention. -/
def SummarizeAttributes (S : Services) : Attributes where
  requireMention := true
  respondInDM := false
  callback evt _ := do
    match ← handlePrompt S PROMPT_ISSUE_SUMMARY evt with
    | .error err => return ([], some ("unable to get summary: " ++ err))
    | .ok response =>
      return (S.util.StringToBlock ("WIP: will summarize thread: " ++ response) false, none)
  requiredArgs := 1
  helpMarkdown := "summarize this thread: `summary`"

/-- `UnsizedAttributes`. -/
def UnsizedAttributes (S : Services) : Attributes where
  commands := ["jira", "unsized"]
  requireMention := true
  callback _ _ :=
    match S.jira.GetUnsizedStories with
    | .error err => return (S.util.WrapErrorToBlock err "error querying issues", none)
    | .ok issues =>
      let lines := String.join (issues.map fun (key, summary) => key ++ " - " ++ summary ++ "\n")
      return (S.util.StringToBlock (if issues.isEmpty then lines ++ "no issues found" else lines)
        false, none)
  requiredArgs := 3
  helpMarkdown :=
    "outputs a list of unsized stories for import in to PlanIt Poker: `jira unsized [project]`"

/-- The allowed users `Initialize` records: none for an empty `SLACK_ALLOWED_USERS`, else its
comma-separated entries. -/
def allowedUsersOf (SLACK_ALLOWED_USERS : String) : List String :=
  if SLACK_ALLOWED_USERS.length = 0 then [] else split SLACK_ALLOWED_USERS ','

/-- `Initialize(client)`: the eight descriptors in order, then the allowed users. -/
def Initialize (S : Services) (absent : AbsentAttributes) (SLACK_ALLOWED_USERS : String)
    (r : Registry) : Registry :=
  let r := [absent.CreateSummaryAttributes, CreateAttributes S, SummarizeAttributes S,
    absent.HelpAttributes, UnsizedAttributes S, absent.ProwAttributes, absent.ProwGraphAttributes,
    absent.ProviderSummaryAttributes].foldl (fun r attr => AddCommand attr r) r
  { r with allowedUsers := r.allowedUsers ++ allowedUsersOf SLACK_ALLOWED_USERS }

/-- Modelled from the spec: Jira in test mode with no unsized stories, and an Ollama endpoint
that is not configured; with `specUtil` and `specSlack`, the services the examples run on. -/
def specServices : Services where
  util := specUtil
  slack := specSlack
  jira :=
    { JIRA_TEST_MODE_ENABLED := true, JIRA_BASE_URL := "",
      CreateIssue := fun _ _ _ _ => .error "test mode", GetUnsizedStories := .ok [] }
  ollama :=
    { OLLAMA_ENDPOINT := "", New := .ok (), GenerateFromSinglePrompt := fun _ => .ok "" }

theorem splitAux_ne_nil (sep : Char) : ∀ (acc cs : List Char), splitAux sep acc cs ≠ []
  | _, [] => by simp [splitAux]
  | acc, c :: cs => by
    rw [splitAux]
    split
    · simp
    · exact splitAux_ne_nil sep _ cs

theorem Initialize_allowedUsers (S : Services) (absent : AbsentAttributes)
    (SLACK_ALLOWED_USERS : String) (r : Registry) :
    (Initialize S absent SLACK_ALLOWED_USERS r).allowedUsers =
      r.allowedUsers ++ allowedUsersOf SLACK_ALLOWED_USERS := by
  simp [Initialize, AddCommand]

/-- `Initialize` appends the eight descriptors, in order, after those registered before. -/
theorem Initialize_attributes (S : Services) (absent : AbsentAttributes)
    (SLACK_ALLOWED_USERS : String) (r : Registry) :
    (Initialize S absent SLACK_ALLOWED_USERS r).attributes =
      r.attributes ++ [absent.CreateSummaryAttributes, CreateAttributes S, SummarizeAttributes S,
        absent.HelpAttributes, UnsizedAttributes S, absent.ProwAttributes,
        absent.ProwGraphAttributes, absent.ProviderSummaryAttributes] := by
  simp [Initialize, AddCommand]

/-- A non-empty `SLACK_ALLOWED_USERS` gives a non-empty allow-list. -/
theorem allowedUsersOf_ne_nil {SLACK_ALLOWED_USERS : String}
    (h : 0 < SLACK_ALLOWED_USERS.length) : allowedUsersOf SLACK_ALLOWED_USERS ≠ [] := by
  rw [allowedUsersOf, if_neg (by omega)]
  exact splitAux_ne_nil _ _ _

/-- **A sender missing from the allow-list gets nothing from a restricted command.**  For
every registry copy, with the allow-list `Initialize` builds from a non-empty
`SLACK_ALLOWED_USERS`, every callback `Handler` invokes and every reply it posts, usage
replies included, belongs to a descriptor that allows non-SPLAT users. -/
theorem Handler_restricted_never_served (S : Services) (absent : AbsentAttributes)
    (SLACK_ALLOWED_USERS : String) (hne : 0 < SLACK_ALLOWED_USERS.length)
    (attributes : List Attributes) (evt : EventsAPIEvent) (msg : MessageEvent)
    (isAppMention : Bool) (hmsg : messageOf evt.innerEvent = some (msg, isAppMention))
    (hsender : msg.user ∉ (Initialize S absent SLACK_ALLOWED_USERS {}).allowedUsers) :
    ∀ e ∈ (Handler S.util S.slack
        { attributes, allowedUsers := (Initialize S absent SLACK_ALLOWED_USERS {}).allowedUsers }
        evt).1,
      ∃ attr, attributes[e.index]? = some attr ∧ attr.allowNonSplatUsers = true := by
  intro e he
  obtain ⟨msg', isAppMention', attr, hmsg', hattr, args, hm⟩ :=
    Handler_effects S.util S.slack _ evt e he
  rw [hmsg, Option.some.injEq, Prod.mk.injEq] at hmsg'
  obtain ⟨rfl, -⟩ := hmsg'
  refine ⟨attr, hattr, hm.permitted.resolve_right ?_⟩
  have hA : (Initialize S absent SLACK_ALLOWED_USERS {}).allowedUsers ≠ [] := by
    simpa [Initialize_allowedUsers] using allowedUsersOf_ne_nil hne
  simp [isAllowedUser, hsender, hA]

/-- No descriptor registered, as far as the allow-list's examples need. -/
def noAbsentAttributes : AbsentAttributes :=
  { CreateSummaryAttributes := {}, HelpAttributes := {}, ProwAttributes := {},
    ProwGraphAttributes := {}, ProviderSummaryAttributes := {} }

/-- `U2` asks for unsized stories while only `U1` is allowed. -/
def unsizedFromU2 : EventsAPIEvent :=
  { type := "event_callback",
    innerEvent := .appMention
      { channel := "C1", user := "U2", text := "<@BOT> jira unsized SPLAT", timeStamp := "1" } }

/-- `Handler_restricted_never_served` applies to `U2` under the allow-list `U1`. -/
theorem Handler_restricted_never_served_U2 :
    0 < "U1".length ∧
    messageOf unsizedFromU2.innerEvent =
      some ({ channel := "C1", user := "U2", text := "<@BOT> jira unsized SPLAT",
              timeStamp := "1" }, true) ∧
    "U2" ∉ (Initialize specServices noAbsentAttributes "U1" {}).allowedUsers ∧
    ∀ e ∈ (Handler specServices.util specServices.slack
        { attributes := [UnsizedAttributes specServices],
          allowedUsers := (Initialize specServices noAbsentAttributes "U1" {}).allowedUsers }
        unsizedFromU2).1,
      ∃ attr, [UnsizedAttributes specServices][e.index]? = some attr ∧
        attr.allowNonSplatUsers = true := by
  have hmsg : messageOf unsizedFromU2.innerEvent =
      some ({ channel := "C1", user := "U2", text := "<@BOT> jira unsized SPLAT",
              timeStamp := "1" }, true) := rfl
  have hU2 : "U2" ∉ (Initialize specServices noAbsentAttributes "U1" {}).allowedUsers := by
    simp [Initialize_allowedUsers, allowedUsersOf, split, splitAux]
  exact ⟨by decide, hmsg, hU2, Handler_restricted_never_served specServices noAbsentAttributes "U1"
    (by decide) [UnsizedAttributes specServices] unsizedFromU2 _ true hmsg hU2⟩

/-- The argument checks let the callback run only on exactly `RequiredArgs` arguments
when `RequiredArgs` is positive. -/
theorem usageReply_eq_none {attr : Attributes} {args : List String} (hpos : 0 < attr.requiredArgs)
    (h : usageReply attr args = none) : (args.length : Int) = attr.requiredArgs := by
  unfold usageReply at h
  split at h
  · cases h
  split at h
  · cases h
  · omega

/-- **`jira create` never creates an issue.**  Whatever the message and the services, once
`CreateAttributes` has matched, `Handler`'s turn for it posts the usage reply or, on the
two arguments the checks let through, panics when `createJira` reads `args[2]`. -/
theorem respond_create_never_creates (U : Util) (slack : Slack) (msg : MessageEvent)
    (index : Nat) (S : Services) (args : List String) :
    (∃ channel options, respond U slack msg index (CreateAttributes S) args =
      .stop [.post index channel options] (.ok none)) ∨
    respond U slack msg index (CreateAttributes S) args =
      .stop [.invoke index args] (.error "runtime error: index out of range [2] with length 2") := by
  unfold respond
  split
  · exact .inl ⟨_, _, rfl⟩
  rename_i hu
  have hlen : args.length = 2 := by
    have := usageReply_eq_none (show (0 : Int) < 2 by decide) hu
    simp only [CreateAttributes] at this
    omega
  obtain ⟨a, b, rfl⟩ := List.length_eq_two.1 hlen
  right
  simp [CreateAttributes, createJira, argAt, bind, Except.bind, throw, throwThe,
    MonadExceptOf.throw]
  rfl

/-- **`<@BOT> jira` crashes the bot.**  Against `CreateAttributes`, the message's one
argument left after the mention agrees with the trigger `jira create` as far as it goes,
and `checkForCommand` reads `args[1]` past its end: `Handler` panics. -/
theorem Handler_panics_on_short_trigger (S : Services) :
    Handler specUtil specSlack { attributes := [CreateAttributes S] }
      { type := "event_callback",
        innerEvent := .appMention
          { channel := "C1", user := "U1", text := "<@BOT> jira", timeStamp := "1" } } =
      ([], .error "runtime error: index out of range [1] with length 1") :=
  rfl

/-- **Three arguments to `jira create` get the usage reply.**  `CreateAttributes` bounds
its arguments with `MaxArgs = 4`, but `Handler` uses `RequiredArgs = 2` as the upper bound:
`<@BOT> jira create summary` passes every check with three arguments and is answered with
the too-many usage reply, without the callback. -/
theorem Handler_create_three_args_usage (S : Services) :
    (CreateAttributes S).maxArgs = 4 ∧
    Handler specUtil specSlack { attributes := [CreateAttributes S] }
      { type := "event_callback",
        innerEvent := .appMention
          { channel := "C1", user := "U1", text := "<@BOT> jira create summary", timeStamp := "1" } } =
      ([.post 0 "C1" [.text ("command requires 2 arguments. if an argument is greater than one " ++
          "word, be sure to wrap that argument in quotes.\n" ++ (CreateAttributes S).helpMarkdown ++
          "\n") true, .ts "1"]], .ok none) :=
  ⟨rfl, rfl⟩

/-- **`<@BOT> jira create` crashes the bot.**  The message passes every check of
`CreateAttributes` with exactly the two arguments it requires, and `createJira` reads
`args[2]` past their end: `Handler` invokes the callback and panics. -/
theorem Handler_create_panics_on_two_args (S : Services) :
    Handler specUtil specSlack { attributes := [CreateAttributes S] }
      { type := "event_callback",
        innerEvent := .appMention
          { channel := "C1", user := "U1", text := "<@BOT> jira create", timeStamp := "1" } } =
      ([.invoke 0 ["jira", "create"]], .error "runtime error: index out of range [2] with length 2") :=
  rfl

end SplatBot
