import SplatBot.ExprLang.Run

/-!
# The data model

The records of package `data` that the dispatcher and the knowledge matcher read
(`data.Attributes`, `data.TokenMatch`, `data.KnowledgeAsset`), the Slack events and
message options they exchange, and the collaborators they call but whose code is not in
the repository's sources: package `util`, package `platforms` and the Slack client.
Those collaborators are records of functions, so that every result proved about the bot
holds whatever they compute.

A Go panic ends the program; a call that can panic returns in `Go`, whose `.error`
carries the panic's text.  Errors that Go code returns as values stay values.
-/

namespace SplatBot

open ExprLang (TokenMap)

/-- A Go call: `.ok` when it returns, `.error msg` when it panics with `msg` (or ends the
program with `log.Fatal`). -/
abbrev Go := Except String

/-- `data.TokenMatch`: a node of a knowledge asset's `on` tree.  `type` is `"or"` or
anything else (read as `and`); `satisfied` is written by `isTokenMatch`. -/
structure TokenMatch where
  type : String := ""
  tokens : List String := []
  terms : List TokenMatch
  expr : String := ""
  compiledExpr : Option ExprLang.Node := none
  satisfied : Bool := false

/-- `data.ChannelContext`: the channels that imply the context of `contextPath`. -/
structure ChannelContext where
  channels : List String
  contextPath : String

/-- `data.KnowledgeAsset`, the fields `defaultKnowledgeHandler` reads. -/
structure KnowledgeAsset where
  name : String := ""
  On : TokenMatch := { terms := [] }
  markdownPrompt : String := ""
  urls : List String := []
  watchThreads : Bool := false
  channelContext : Option ChannelContext := none
  requireInChannel : List String := []

/-- `slackevents.MessageEvent`, the fields the bot reads. -/
structure MessageEvent where
  channel : String := ""
  user : String := ""
  text : String := ""
  timeStamp : String := ""
  threadTimeStamp : String := ""
  botID : String := ""
  deriving DecidableEq, Repr

/-- `slackevents.AppMentionEvent`, the fields `Handler` copies. -/
structure AppMentionEvent where
  channel : String := ""
  user : String := ""
  text : String := ""
  timeStamp : String := ""
  threadTimeStamp : String := ""
  deriving DecidableEq, Repr

/-- `evt.InnerEvent.Data`, by its Go type. -/
inductive InnerEvent
  | appMention (event : AppMentionEvent)
  | message (event : MessageEvent)
  | other (goType : String)
  deriving DecidableEq, Repr

/-- `slackevents.EventsAPIEvent`. -/
structure EventsAPIEvent where
  type : String
  innerEvent : InnerEvent
  deriving DecidableEq, Repr

/-- `slack.MsgOption`: text (`MsgOptionText`), a thread anchor (`MsgOptionTS`), or the
blocks `util`'s block builders make. -/
inductive MsgOption
  | text (text : String) (escape : Bool)
  | ts (timestamp : String)
  | blocks (content : List String)
  deriving DecidableEq, Repr

/-- `data.Attributes`: a command descriptor.  The callback's context and client are
external; its result is the reply and the error it returns.  A descriptor without a
callback calls a nil function. -/
structure Attributes where
  commands : List String := []
  requireMention : Bool := false
  dontGlobQuotes : Bool := false
  allowNonSplatUsers : Bool := false
  mustBeInThread : Bool := false
  respondInDM : Bool := false
  respondInChannel : Bool := false
  requiredArgs : Int := 0
  maxArgs : Int := 0
  helpMarkdown : String := ""
  callback : MessageEvent → List String → Go (List MsgOption × Option String) :=
    fun _ _ => throw "invalid memory address or nil pointer dereference"

/-- The pieces of `cs` between the separators, after the piece `acc` (reversed) read so far. -/
def splitAux (sep : Char) : List Char → List Char → List String
  | acc, [] => [String.mk acc.reverse]
  | acc, c :: cs => if c = sep then String.mk acc.reverse :: splitAux sep [] cs
    else splitAux sep (c :: acc) cs

/-- `strings.Split(s, sep)` for a one-character separator: empty pieces are kept, and the
empty string is one empty piece. -/
def split (s : String) (sep : Char) : List String := splitAux sep [] s.toList

/-- Whether `pattern` occurs in `text`, as `strings.Contains` reads it. -/
def containsChars (pattern : List Char) : List Char → Bool
  | [] => pattern.isEmpty
  | c :: cs => pattern.isPrefixOf (c :: cs) || containsChars pattern cs

/-- Package `util`, absent from the sources: the functions the modelled code calls. -/
structure Util where
  NormalizeTokens : List String → TokenMap
  TokensPresentOR : TokenMap → List String → Bool
  TokensPresentAND : TokenMap → List String → Bool
  ContainsBotMention : String → Bool
  GetThreadUrl : MessageEvent → String
  StringToBlock : String → Bool → List MsgOption
  StringsToBlockWithURLs : List String → List String → List MsgOption
  WrapErrorToBlock : String → String → List MsgOption

/-- Modelled from the spec: package `util` is absent from the sources.  Normalizing
lower-cases and trims every token, presence is any/all membership, the bot
is mentioned as `<@BOT>`, a thread's address is its timestamp, and a block is its text.
The concrete runs of the development use it. -/
def specUtil : Util where
  NormalizeTokens tokens := tokens.map fun t =>
    let n := String.mk (((t.toList.dropWhile Char.isWhitespace).reverse.dropWhile
      Char.isWhitespace).reverse.map Char.toLower)
    (n, n)
  TokensPresentOR tokenMap toks := toks.any (ExprLang.present tokenMap)
  TokensPresentAND tokenMap toks := toks.all (ExprLang.present tokenMap)
  ContainsBotMention text := containsChars "<@BOT>".toList text.toList
  GetThreadUrl evt := evt.threadTimeStamp
  StringToBlock text _ := [.blocks [text]]
  StringsToBlockWithURLs texts urls := [.blocks (texts ++ urls)]
  WrapErrorToBlock err msg := [.blocks [msg ++ ": " ++ err]]

/-- Package `platforms`, absent from the sources: the context a rule file's path implies. -/
structure Platforms where
  GetPathContextTerms : String → List TokenMatch
  GetPathContextExpr : String → String

/-- Modelled from the spec: a rule file living under a platform's directory requires that
platform's context.  The one platform here is vSphere: a path naming `vsphere` implies the
tokens `vsphere` or `vcenter`, as a term and as an expression. -/
def specPlatforms : Platforms where
  GetPathContextTerms path :=
    if containsChars "vsphere".toList path.toList then
      [{ type := "or", tokens := ["vsphere", "vcenter"], terms := [] }]
    else []
  GetPathContextExpr path :=
    if containsChars "vsphere".toList path.toList then
      "containsAny(tokens, [\"vsphere\", \"vcenter\"])"
    else ""

/-- The Slack client calls the bot makes: the client itself, the channel of a direct
conversation with a user, a channel's name, and the texts of a thread's replies. -/
structure Slack where
  GetClient : Except String Unit
  OpenConversation : String → Except String String
  GetConversationInfo : String → Except String String
  GetConversationReplies : String → String → Except String (List String)

/-- Modelled from the spec: a Slack workspace that always answers, where the direct
conversation with a user is named after the user and a channel's name is its ID.  The
concrete runs of the development use it. -/
def specSlack : Slack where
  GetClient := .ok ()
  OpenConversation user := .ok user
  GetConversationInfo channelID := .ok channelID
  GetConversationReplies _ _ := .ok []

end SplatBot
