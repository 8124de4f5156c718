import SplatBot.Commands.Descriptors

/-!
# The Jira dialog: `createJiraDialog` and `HandleViewSubmission`

The slash command `/jira-create` (`pkg/commands/create.go`) opens a modal
(`createJiraDialog`) with five text inputs built by `createTextInputField`: title, user
story, description, acceptance criteria and other information.  When the user submits it,
Slack sends the view back with `view.state.values`, the text of each input keyed by the
input's block ID and then its action ID.  `CanHandleViewSubmission` recognizes the view by
its callback ID, and `HandleViewSubmission` reads the five texts back by the IDs it
expects, renders the description with `issueTemplateDialog` and creates the issue
(`generateJira`).

The event loop hands a view submission to `commands.ViewSubmissionHandler`, which is not
under `src/`; these definitions are the two ends of the dialog that are.
-/

namespace SplatBot

/-! ## The view -/

/-- A `plain_text_input` element (`slack.PlainTextInputBlockElement`); its texts are
`plain_text` objects without emoji or verbatim, so they are their texts. -/
structure PlainTextInput where
  actionID : String
  placeholder : Option String
  maxLength : Int
  multiline : Bool

/-- An `input` block (`slack.InputBlock`). -/
structure InputBlock where
  blockID : String
  label : String
  hint : Option String
  element : PlainTextInput
  optional : Bool

/-- A modal (`slack.ModalViewRequest`), with the fields `createJiraDialog` sets. -/
structure ModalView where
  type : String
  callbackID : String
  clearOnClose : Bool
  title : String
  submit : String
  close : String
  blocks : List InputBlock
  privateMetadata : String

/-- The part of `slack.SlashCommand` the dialog reads. -/
structure SlashCommand where
  command : String
  triggerID : String
  channelID : String

/-- `CreateJiraDialogCommand`. -/
def CreateJiraDialogCommand : String := "Jira_Create_Dialog_Input"

/-- `createTextInputField(fieldId, fieldLabel, fieldPlaceholderText, fieldHintText,
maxLength, multiline, isOptional)`: the block and its element share the field's ID; an
empty hint or placeholder is left out, and a maximum that is not positive becomes 80. -/
def createTextInputField (fieldId fieldLabel fieldPlaceholderText fieldHintText : String)
    (maxLength : Int) (multiline isOptional : Bool) : InputBlock where
  blockID := fieldId
  label := fieldLabel ++ ":"
  hint := if fieldHintText.length > 0 then some fieldHintText else none
  element :=
    { actionID := fieldId
      placeholder := if fieldPlaceholderText.length > 0 then some fieldPlaceholderText else none
      maxLength := if maxLength > 0 then maxLength else 80
      multiline := multiline }
  optional := isOptional

/-- The view `createJiraDialog` opens for a command from `channelID`. -/
def jiraDialogView (channelID : String) : ModalView where
  type := "modal"
  callbackID := CreateJiraDialogCommand
  clearOnClose := true
  title := "Create JIRA"
  submit := "Create"
  close := "Close"
  blocks :=
    [createTextInputField "title" "Title" "" "" 0 false false,
     createTextInputField "userStory" "User Story" "As a ____ I want to ____ so that ____" ""
       3000 true false,
     createTextInputField "description" "Description"
       "A single sentence describing what this story needs to accomplish" "" 3000 true true,
     createTextInputField "acceptanceCriteria" "AcceptanceCriteria"
       ("Describe in detail what all needs to be done including acceptance criteria and " ++
         "definition of done, done, done.") "" 3000 true true,
     createTextInputField "otherInfo" "Other Information"
       "Record anything else that may be helpful to someone else picking up the card." ""
       3000 true true]
  privateMetadata := channelID

/-- `createJiraDialog(ctx, client, command)`: open `jiraDialogView` with the command's
trigger; no reply either way, and the error of `OpenViewContext` when it fails. -/
def createJiraDialog (OpenViewContext : String → ModalView → Except String Unit)
    (command : SlashCommand) : Except String (List MsgOption) :=
  match OpenViewContext command.triggerID (jiraDialogView command.channelID) with
  | .error err => .error err
  | .ok () => .ok []

/-- `CanHandleViewSubmission(callbackID)`. -/
def CanHandleViewSubmission (callbackID : String) : Bool :=
  callbackID = CreateJiraDialogCommand

/-! ## The submission -/

/-- The part of `slack.InteractionCallback` a view submission carries: the user, the view's
callback ID and private metadata, and `view.state.values`. -/
structure ViewSubmission where
  userID : String
  callbackID : String
  privateMetadata : String
  values : List (String × List (String × String))

/-- `inputValues[blockID][actionID].Value`: the empty text when either key is missing. -/
def inputValue (values : List (String × List (String × String))) (blockID actionID : String) :
    String :=
  ((values.lookup blockID).bind (·.lookup actionID)).getD ""

/-- `jiraDescriptionInput`. -/
structure jiraDescriptionInput where
  UserStory : String
  Description : String
  AcceptanceCriteria : String
  OtherInfo : String

/-- `{{if .Field}} {{.Field}} {{else}} default {{end}}`: a non-empty text, or the default. -/
def ifText (value default : String) : String :=
  if value.length > 0 then " " ++ value ++ " " else " " ++ default ++ " "

/-- `issueTemplateDialog` executed on a `jiraDescriptionInput`; executing it cannot fail. -/
def issueDialogDescription (input : jiraDescriptionInput) : String :=
  "\n*User Story:*\n" ++ input.UserStory ++ "\n\n*Description:*\n" ++
  ifText input.Description "< Record any background information >" ++
  "\n\n*Acceptance Criteria:*\n" ++
  ifText input.AcceptanceCriteria "< Record how we\x27ll know we\x27re done >" ++
  "\n\n*Other Information:*\n" ++
  ifText input.OtherInfo
    "< Record anything else that may be helpful to someone else picking up the card >" ++
  "\n\nissue created by splat-bot\n"

/-- `generateJira(ctx, data, summary, description, aiGenerateFields)`: create the issue
(unless in test mode) and name it to the user; its error is always nil, and
`aiGenerateFields` only logs. -/
def generateJira (S : Services) (userID summary description : String)
    (_aiGenerateFields : Bool) : List MsgOption :=
  if S.jira.JIRA_TEST_MODE_ENABLED then
    S.util.StringToBlock ("<@" ++ userID ++ ">: issue <http://www.example.com|Key> created") false
  else
    match S.jira.CreateIssue "SPLAT" summary description "Task" with
    | .error err => S.util.WrapErrorToBlock err "error creating issue"
    | .ok issueKey =>
      S.util.StringToBlock ("<@" ++ userID ++ ">: issue <" ++ S.jira.JIRA_BASE_URL ++
        "/browse/" ++ issueKey ++ "|" ++ issueKey ++ "> created") false

/-- `HandleViewSubmission(ctx, client, data)`: the title and the four description texts read
by their IDs, the description rendered, and the issue created; its error is always nil. -/
def HandleViewSubmission (S : Services) (data : ViewSubmission) : List MsgOption :=
  let title := inputValue data.values "title" "title"
  let jiraInput : jiraDescriptionInput :=
    { UserStory := inputValue data.values "userStory" "userStory"
      Description := inputValue data.values "description" "description"
      AcceptanceCriteria := inputValue data.values "acceptanceCriteria" "acceptanceCriteria"
      OtherInfo := inputValue data.values "otherInfo" "otherInfo" }
  generateJira S data.userID title (issueDialogDescription jiraInput) false

end SplatBot
