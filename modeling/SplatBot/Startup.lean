import SplatBot.Knowledge.Load
import SplatBot.Commands.Descriptors

/-!
# Startup: the registry `main` serves

`cmd/slack-bot/slack-bot.go` imports package knowledge, whose `init` runs before `main`:
when it loads its rules it registers `KnowledgeCommandAttributes` first.  `main` then
creates the Slack client (exiting when it cannot) and calls `commands.Initialize`, which
appends the eight command descriptors and the allowed users.

The knowledge descriptor has no trigger, needs no mention and is open to every user, so it
is consulted first on every message: whenever a rule matches, its reply is the one posted
(`Handler_knowledge_answers_first`), also for a message that a command descriptor after it
was written for.
-/

namespace SplatBot

/-- What `main` serves from after package initialization and `commands.Initialize`: the
loaded assets and the registry, or `os.Exit(1)` when no client could be created. -/
def startup (S : Services) (absent : AbsentAttributes) (P : Platforms)
    (Unmarshal : String → Except String KnowledgeAsset)
    (Compile : String → Except String ExprLang.Node) (fs : FileSystem)
    (PROMPT_PATH SLACK_ALLOWED_USERS : String) : Except String (List KnowledgeAsset × Registry) :=
  let (knowledgeAssets, r) := knowledgeInit S.util P S.slack Unmarshal Compile fs PROMPT_PATH {}
  match S.slack.GetClient with
  | .error _ => .error "exit status 1"
  | .ok () => .ok (knowledgeAssets, Initialize S absent SLACK_ALLOWED_USERS r)

/-- After a startup that loaded its rules, the knowledge descriptor comes first and the
eight command descriptors follow it. -/
theorem startup_attributes (S : Services) (absent : AbsentAttributes) (P : Platforms)
    (Unmarshal : String → Except String KnowledgeAsset)
    (Compile : String → Except String ExprLang.Node) (fs : FileSystem)
    (PROMPT_PATH SLACK_ALLOWED_USERS : String) (assets : List KnowledgeAsset) (r : Registry)
    (hstart :
      startup S absent P Unmarshal Compile fs PROMPT_PATH SLACK_ALLOWED_USERS = .ok (assets, r))
    (hloaded : (loadKnowledgeEntries P Unmarshal Compile fs (promptPath PROMPT_PATH) []).1 = none) :
    r.attributes = KnowledgeCommandAttributes S.util P S.slack assets ::
      [absent.CreateSummaryAttributes, CreateAttributes S, SummarizeAttributes S,
        absent.HelpAttributes, UnsizedAttributes S, absent.ProwAttributes,
        absent.ProwGraphAttributes, absent.ProviderSummaryAttributes] := by
  unfold startup at hstart
  rw [knowledgeInit_of_loaded _ _ _ _ _ _ _ _ hloaded] at hstart
  cases hc : S.slack.GetClient <;> simp only [hc, Except.ok.injEq, Prod.mk.injEq,
    reduceCtorEq] at hstart
  obtain ⟨rfl, rfl⟩ := hstart
  simp [Initialize_attributes, AddCommand]

/-- The arguments the knowledge descriptor matches: the text split at spaces, without the
mention. -/
def knowledgeArgs (U : Util) (text : String) : List String :=
  if U.ContainsBotMention text then (split text ' ').tail else split text ' '

/-- The knowledge descriptor passes every check, on every message, with `knowledgeArgs`. -/
theorem knowledge_matches (U : Util) (P : Platforms) (slack : Slack)
    (assets : List KnowledgeAsset) (allowedUsers : List String) (msg : MessageEvent)
    (isAppMention : Bool) :
    Matches U allowedUsers msg isAppMention (KnowledgeCommandAttributes U P slack assets)
      (knowledgeArgs U msg.text) where
  mention := rfl
  tokens := by
    have hne := splitAux_ne_nil ' ' [] msg.text.toList
    simp only [mentionArgs, tokenize, knowledgeArgs, KnowledgeCommandAttributes, split]
    split
    · revert hne
      cases splitAux ' ' [] msg.text.toList <;> simp [pure, Except.pure]
    · rfl
  trigger := rfl
  permitted := .inl rfl
  thread := rfl

/-- **The knowledge descriptor answers first.**  After a startup that loaded its rules, on
every message (not from a bot) for which `defaultKnowledgeHandler` finds a matching rule,
`Handler` invokes the knowledge callback and posts its reply in the message's thread, and
no other descriptor is consulted. -/
theorem Handler_knowledge_answers_first (S : Services) (absent : AbsentAttributes)
    (P : Platforms) (Unmarshal : String → Except String KnowledgeAsset)
    (Compile : String → Except String ExprLang.Node) (fs : FileSystem)
    (PROMPT_PATH SLACK_ALLOWED_USERS : String) (assets : List KnowledgeAsset) (r : Registry)
    (evt : EventsAPIEvent) (msg : MessageEvent) (isAppMention : Bool)
    (response : List MsgOption)
    (hstart :
      startup S absent P Unmarshal Compile fs PROMPT_PATH SLACK_ALLOWED_USERS = .ok (assets, r))
    (hloaded : (loadKnowledgeEntries P Unmarshal Compile fs (promptPath PROMPT_PATH) []).1 = none)
    (htype : evt.type = "message" ∨ evt.type = "event_callback")
    (hmsg : messageOf evt.innerEvent = some (msg, isAppMention)) (hbot : msg.botID = "")
    (hreply : defaultKnowledgeHandler S.util P S.slack assets (knowledgeArgs S.util msg.text) msg =
      .ok (.ok response))
    (hne : response ≠ []) :
    Handler S.util S.slack r evt =
      ([.invoke 0 (knowledgeArgs S.util msg.text),
        .post 0 msg.channel (response ++ [.ts msg.timeStamp])], .ok none) := by
  have hdispatch := Handler_eq_dispatch S.util S.slack r evt msg isAppMention htype hmsg hbot
  rw [hdispatch, getAttributes, startup_attributes S absent P Unmarshal Compile fs PROMPT_PATH
    SLACK_ALLOWED_USERS assets r hstart hloaded, dispatch,
    step_of_matches _ _ _ _ _ _ _ (knowledge_matches S.util P S.slack assets _ msg isAppMention)]
  have hne' : response.isEmpty = false := List.isEmpty_eq_false.2 hne
  have hargs : ¬((knowledgeArgs S.util msg.text).length : Int) < 0 := by omega
  simp [hargs, respond, usageReply, KnowledgeCommandAttributes, hreply, hne', route, bind,
    Except.bind, pure, Except.pure]

/-- A rule about Jira. -/
def jiraRule : KnowledgeAsset :=
  { name := "jira", On := { tokens := ["jira"], terms := [] }, markdownPrompt := "Jira" }

/-- `jiraRule`, whatever the file. -/
def jiraYaml (_ : String) : Except String KnowledgeAsset := .ok jiraRule

/-- The message `<@BOT> jira unsized SPLAT` in the channel `C1`. -/
def unsizedMessage : MessageEvent :=
  { channel := "C1", user := "U1", text := "<@BOT> jira unsized SPLAT", timeStamp := "1" }

/-- `unsizedMessage` as an app mention. -/
def jiraUnsized : EventsAPIEvent :=
  { type := "event_callback",
    innerEvent := .appMention
      { channel := "C1", user := "U1", text := "<@BOT> jira unsized SPLAT", timeStamp := "1" } }

/-- The registry after startup with `jiraRule` loaded and no allow-list. -/
def jiraRegistry : Registry :=
  Initialize specServices noAbsentAttributes ""
    (AddCommand (KnowledgeCommandAttributes specUtil specPlatforms specSlack [jiraRule]) {})

/-- `Handler_knowledge_answers_first` applies to `<@BOT> jira unsized SPLAT` with `jiraRule`
loaded. -/
theorem Handler_knowledge_answers_first_jira :
    startup specServices noAbsentAttributes specPlatforms jiraYaml ExprLang.Compile
        (pathAsContents (.dir (.ok [("jira.yaml", .file)]))) "/prompts" "" =
      .ok ([jiraRule], jiraRegistry) ∧
    (loadKnowledgeEntries specPlatforms jiraYaml ExprLang.Compile
        (pathAsContents (.dir (.ok [("jira.yaml", .file)]))) (promptPath "/prompts") []).1 = none ∧
    messageOf jiraUnsized.innerEvent = some (unsizedMessage, true) ∧
    defaultKnowledgeHandler specUtil specPlatforms specSlack [jiraRule]
        (knowledgeArgs specUtil unsizedMessage.text) unsizedMessage =
      .ok (.ok (knowledgeReply specUtil jiraRule)) ∧
    Handler specServices.util specServices.slack jiraRegistry jiraUnsized =
      ([.invoke 0 (knowledgeArgs specUtil unsizedMessage.text),
        .post 0 "C1" (knowledgeReply specUtil jiraRule ++ [.ts "1"])], .ok none) :=
  ⟨rfl, rfl, rfl, rfl, Handler_knowledge_answers_first specServices noAbsentAttributes
    specPlatforms jiraYaml ExprLang.Compile (pathAsContents (.dir (.ok [("jira.yaml", .file)])))
    "/prompts" ""
    [jiraRule] jiraRegistry jiraUnsized _ true _ rfl rfl (.inr rfl) rfl rfl rfl
    (by simp [knowledgeReply, jiraRule])⟩

/-- **A rule preempts the command it shares a word with.**  With one rule on `jira` loaded,
and whatever the five descriptors absent from the sources are, `<@BOT> jira unsized SPLAT`
passes every check of `UnsizedAttributes`, the sixth descriptor, whose callback would answer
it; yet the knowledge descriptor, first in the registry, answers with the rule's reply. -/
theorem Handler_knowledge_preempts_unsized (absent : AbsentAttributes) :
    ∃ assets r, startup specServices absent specPlatforms jiraYaml ExprLang.Compile
        (pathAsContents (.dir (.ok [("jira.yaml", .file)]))) "/prompts" "" = .ok (assets, r) ∧
      r.attributes[5]? = some (UnsizedAttributes specServices) ∧
      Matches specServices.util r.allowedUsers unsizedMessage true (UnsizedAttributes specServices)
        ["jira", "unsized", "SPLAT"] ∧
      usageReply (UnsizedAttributes specServices) ["jira", "unsized", "SPLAT"] = none ∧
      (UnsizedAttributes specServices).callback unsizedMessage ["jira", "unsized", "SPLAT"] =
        .ok ([.blocks ["no issues found"]], none) ∧
      Handler specServices.util specServices.slack r jiraUnsized =
        ([.invoke 0 ["jira", "unsized", "SPLAT"],
          .post 0 "C1" (knowledgeReply specUtil jiraRule ++ [.ts "1"])], .ok none) :=
  ⟨_, _, rfl, rfl, ⟨rfl, rfl, rfl, .inr rfl, rfl⟩, rfl, rfl, rfl⟩

end SplatBot
