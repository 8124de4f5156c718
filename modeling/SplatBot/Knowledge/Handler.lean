import SplatBot.Knowledge.Match

/-!
# Answering from the knowledge assets: `defaultKnowledgeHandler`

`defaultKnowledgeHandler` (`pkg/knowledge/knowledge.go`) walks the loaded assets in order.
An asset that does not watch threads skips threaded messages.  An asset with a channel
context looks the channel's name up (once per message) and, in one of the context's
channels, appends the tokens of the context path's terms to `args`; an asset restricted to
channels is skipped elsewhere.  The asset's `on` tree is then matched against the
normalized `args`, and the reply is built from the first asset that matched.

`args` is the handler's own parameter, so what one asset appends stays for every asset
after it.  `Scan` carries the loop's variables, `scanAsset` is the loop's body and
`scanAssets` the loop.  `cumulativeMatches` says what the loop decides, over `eval`: each
asset on `args` with the injections of every watched asset up to itself.
`defaultKnowledgeHandler_cumulative` shows the handler answers with its first match,
from the step lemma `scanAsset_known` and the run lemma `scanAssets_known`.  As injections
only add tokens and rule trees are monotone in them, no asset that holds with its own
context is missed (`defaultKnowledgeHandler_answers_own_context`); the leak only adds
matches (`defaultKnowledgeHandler_leaks_context`).  The cache of channel names (`channelIDMap`) memoizes
`GetConversationInfo` and is left out, as is the write-back of `satisfied` into the
global assets, which only `DumpMatchTree` reads.
-/

namespace SplatBot

open ExprLang

/-- `DEFAULT_URL_PROMPT` up to its `%s`. -/
def DEFAULT_URL_PROMPT : String := "This may be a topic that I can help with.\n\n"

/-- `getChannelName(channelID)`: the client, then the channel's name. -/
def getChannelName (slack : Slack) (channelID : String) : Except String String :=
  match slack.GetClient with
  | .error e => .error ("unable to get client: " ++ e)
  | .ok () =>
    match slack.GetConversationInfo channelID with
    | .error e => .error ("error getting channel info: " ++ e)
    | .ok name => .ok name

/-- The channel name as the loop needs it: looked up while still `""`. -/
def lookupChannel (slack : Slack) (evt : MessageEvent) (channel : String) :
    Except String String :=
  if channel = "" then
    match getChannelName slack evt.channel with
    | .error e => .error ("error getting channel name: " ++ e)
    | .ok name => .ok name
  else .ok channel

/-- The tokens a channel context injects: those of the context path's terms, in one of
the context's channels. -/
def contextTokens (P : Platforms) (channel : String) (cc : ChannelContext) : List String :=
  if channel ∈ cc.channels then (P.GetPathContextTerms cc.contextPath).flatMap (·.tokens)
  else []

/-- The variables of the loop: the channel name (`""` until looked up), `args` with what has
been appended so far, and the matched assets. -/
structure Scan where
  channel : String
  args : List String
  matched : List KnowledgeAsset

/-- The channel-context part of the loop's body: the channel and the arguments after it. -/
def injectContext (P : Platforms) (slack : Slack) (evt : MessageEvent) (channel : String)
    (args : List String) : Option ChannelContext → Except String (String × List String)
  | none => .ok (channel, args)
  | some cc => (lookupChannel slack evt channel).map fun channel =>
    (channel, args ++ contextTokens P channel cc)

/-- The `RequireInChannel` part: the channel after it and whether the asset may answer. -/
def checkRequired (slack : Slack) (evt : MessageEvent) (channel : String)
    (required : List String) : Except String (String × Bool) :=
  if required.length > 0 then
    (lookupChannel slack evt channel).map fun channel => (channel, channel ∈ required)
  else .ok (channel, true)

/-- The body of the loop for one asset; a failed channel lookup returns the error. -/
def scanAsset (U : Util) (P : Platforms) (slack : Slack) (evt : MessageEvent) (s : Scan)
    (entry : KnowledgeAsset) : Go (Except String Scan) :=
  if !entry.watchThreads && evt.threadTimeStamp ≠ "" then pure (.ok s)
  else
    match injectContext P slack evt s.channel s.args entry.channelContext with
    | .error e => pure (.error e)
    | .ok (channel, args) =>
      match checkRequired slack evt channel entry.requireInChannel with
      | .error e => pure (.error e)
      | .ok (channel, false) => pure (.ok ⟨channel, args, s.matched⟩)
      | .ok (channel, true) => do
        let (tokenMatch, _) ← isTokenMatch U (U.NormalizeTokens args) entry.On
        pure (.ok ⟨channel, args, if tokenMatch then s.matched ++ [entry] else s.matched⟩)

/-- `for idx, entry := range knowledgeAssets`. -/
def scanAssets (U : Util) (P : Platforms) (slack : Slack) (evt : MessageEvent) :
    Scan → List KnowledgeAsset → Go (Except String Scan)
  | s, [] => pure (.ok s)
  | s, entry :: rest => do
    match ← scanAsset U P slack evt s entry with
    | .error e => pure (.error e)
    | .ok s => scanAssets U P slack evt s rest

/-- The reply built from a matched asset. -/
def knowledgeReply (U : Util) (asset : KnowledgeAsset) : List MsgOption :=
  let responseText := DEFAULT_URL_PROMPT ++ asset.markdownPrompt
  if asset.urls.length > 0 then U.StringsToBlockWithURLs [responseText] asset.urls
  else [.text responseText true]

/-- `defaultKnowledgeHandler(ctx, args, evt)`: the reply of the first matched asset, none
without a match, or the channel lookup's error. -/
def defaultKnowledgeHandler (U : Util) (P : Platforms) (slack : Slack)
    (knowledgeAssets : List KnowledgeAsset) (args : List String) (evt : MessageEvent) :
    Go (Except String (List MsgOption)) := do
  match ← scanAssets U P slack evt ⟨"", args, []⟩ knowledgeAssets with
  | .error e => pure (.error e)
  | .ok s =>
    match s.matched with
    | [] => pure (.ok [])
    | first :: _ => pure (.ok (knowledgeReply U first))

/-- `KnowledgeCommandAttributes`, over the loaded assets: no trigger, no mention needed,
open to every user, the text split at spaces; its callback is
`defaultKnowledgeEventHandler`, which returns an error with no reply. -/
def KnowledgeCommandAttributes (U : Util) (P : Platforms) (slack : Slack)
    (knowledgeAssets : List KnowledgeAsset) : Attributes where
  callback evt args := do
    match ← defaultKnowledgeHandler U P slack knowledgeAssets args evt with
    | .error e => pure ([], some e)
    | .ok response => pure (response, none)
  dontGlobQuotes := true
  requireMention := false
  allowNonSplatUsers := true

/-! ## What the loop decides -/

/-- Whether the loop looks at an asset: not when it skips threads and the message is in one. -/
def watches (evt : MessageEvent) (entry : KnowledgeAsset) : Bool :=
  entry.watchThreads || evt.threadTimeStamp == ""

/-- The tokens the loop appends to `args` for an asset, in the channel named `channel`. -/
def injectedTokens (P : Platforms) (evt : MessageEvent) (channel : String)
    (entry : KnowledgeAsset) : List String :=
  if watches evt entry then (entry.channelContext.map (contextTokens P channel)).getD [] else []

/-- Whether an asset may answer in the channel named `channel`. -/
def admits (channel : String) (entry : KnowledgeAsset) : Bool :=
  entry.requireInChannel.isEmpty || decide (channel ∈ entry.requireInChannel)

/-- The assets the loop matches, from `args` on, in the channel named `channel`: each watched
asset that may answer there and whose tree holds on the tokens after its own injection, with
every earlier injection kept. -/
def cumulativeMatches (U : Util) (P : Platforms) (evt : MessageEvent) (channel : String) :
    List String → List KnowledgeAsset → List KnowledgeAsset
  | _, [] => []
  | args, entry :: rest =>
    let args := args ++ injectedTokens P evt channel entry
    (if watches evt entry && admits channel entry && entry.On.eval U (U.NormalizeTokens args)
      then [entry] else []) ++ cumulativeMatches U P evt channel args rest

section Loop

variable (U : Util) (P : Platforms) (slack : Slack) (evt : MessageEvent) (channel : String)

/-- Once looked up, the channel name looks itself up. -/
theorem lookupChannel_self {c : String} (h : lookupChannel slack evt c = .ok channel) :
    lookupChannel slack evt channel = .ok channel := by
  unfold lookupChannel at h ⊢
  split at h
  · split
    · rename_i hc hn
      subst hc hn
      exact h
    · rfl
  · cases h
    exact if_neg ‹_›

/-- The channel-context part appends the context's tokens for the known channel name. -/
theorem injectContext_known {c : String} (args : List String) (cc : Option ChannelContext)
    (h : lookupChannel slack evt c = .ok channel) :
    ∃ c', lookupChannel slack evt c' = .ok channel ∧ injectContext P slack evt c args cc =
      .ok (c', args ++ (cc.map (contextTokens P channel)).getD []) := by
  cases cc with
  | none => exact ⟨c, h, by simp [injectContext]⟩
  | some cc =>
    exact ⟨channel, lookupChannel_self slack evt channel h, by simp [injectContext, h, Except.map]⟩

/-- The `RequireInChannel` part admits the asset by the known channel name. -/
theorem checkRequired_known {c : String} (required : List String)
    (h : lookupChannel slack evt c = .ok channel) :
    ∃ c', lookupChannel slack evt c' = .ok channel ∧ checkRequired slack evt c required =
      .ok (c', required.isEmpty || decide (channel ∈ required)) := by
  unfold checkRequired
  split
  · rename_i hpos
    refine ⟨channel, lookupChannel_self slack evt channel h, ?_⟩
    have : required.isEmpty = false := List.isEmpty_eq_false.2 (List.ne_nil_of_length_pos hpos)
    simp [h, this, Except.map]
  · rename_i hpos
    have : required = [] := List.eq_nil_of_length_eq_zero (by omega)
    exact ⟨c, h, by simp [this]⟩

/-- The loop's body, once the channel name is known: it appends the asset's injection to
`args` and the asset to the matches when `cumulativeMatches` would. -/
theorem scanAsset_known (s : Scan) (entry : KnowledgeAsset)
    (h : lookupChannel slack evt s.channel = .ok channel) (hfree : entry.On.exprFree = true) :
    ∃ c, lookupChannel slack evt c = .ok channel ∧
      scanAsset U P slack evt s entry = .ok (.ok ⟨c, s.args ++ injectedTokens P evt channel entry,
        s.matched ++ if watches evt entry && admits channel entry &&
          entry.On.eval U (U.NormalizeTokens (s.args ++ injectedTokens P evt channel entry))
        then [entry] else []⟩) := by
  unfold scanAsset
  split
  · rename_i hskip
    have hw : watches evt entry = false := by simpa [watches] using hskip
    exact ⟨s.channel, h, by simp [injectedTokens, hw, pure, Except.pure]⟩
  · rename_i hskip
    have hw : watches evt entry = true := by
      cases hwt : entry.watchThreads <;> simp_all [watches]
    obtain ⟨c₁, h₁, hinj⟩ := injectContext_known P slack evt channel s.args entry.channelContext h
    obtain ⟨c₂, h₂, hreq⟩ := checkRequired_known slack evt channel entry.requireInChannel h₁
    obtain ⟨m', hm, -⟩ := isTokenMatch_of_exprFree U
      (U.NormalizeTokens (s.args ++ injectedTokens P evt channel entry)) entry.On hfree
    refine ⟨c₂, h₂, ?_⟩
    simp only [injectedTokens, hw, if_true] at hm ⊢
    simp only [hinj, hreq]
    cases hadm : (entry.requireInChannel.isEmpty || decide (channel ∈ entry.requireInChannel)) with
    | false => simp [admits, hadm, pure, Except.pure]
    | true =>
      simp only [admits, hadm, hm, bind, Except.bind, pure, Except.pure, hw, Bool.true_and]
      split <;> simp_all

/-- The loop, once the channel name is known, appends every injection and computes
`cumulativeMatches`. -/
theorem scanAssets_known : ∀ (s : Scan) (assets : List KnowledgeAsset),
    lookupChannel slack evt s.channel = .ok channel → (∀ a ∈ assets, a.On.exprFree = true) →
    ∃ c, scanAssets U P slack evt s assets =
      .ok (.ok ⟨c, s.args ++ assets.flatMap (injectedTokens P evt channel),
        s.matched ++ cumulativeMatches U P evt channel s.args assets⟩)
  | s, [], _, _ => ⟨s.channel, by simp [scanAssets, cumulativeMatches, pure, Except.pure]⟩
  | s, entry :: rest, h, hfree => by
    obtain ⟨c, hc, hstep⟩ :=
      scanAsset_known U P slack evt channel s entry h (hfree entry (List.mem_cons_self _ _))
    obtain ⟨c', hrest⟩ := scanAssets_known ⟨c, _, _⟩ rest hc
      (fun a ha => hfree a (List.mem_cons_of_mem _ ha))
    refine ⟨c', ?_⟩
    simp only [scanAssets, hstep, bind, Except.bind]
    rw [hrest]
    simp [cumulativeMatches, List.append_assoc]

/-- **Each asset is decided on every earlier injection.**  When the channel's name can be
looked up and no asset's tree carries an expression, `defaultKnowledgeHandler` answers with
the first asset of `cumulativeMatches`: every asset is matched against `args` followed by
the context tokens of every watched asset up to and including itself, not of itself only. -/
theorem defaultKnowledgeHandler_cumulative (assets : List KnowledgeAsset) (args : List String)
    (hname : getChannelName slack evt.channel = .ok channel)
    (hfree : ∀ a ∈ assets, a.On.exprFree = true) :
    defaultKnowledgeHandler U P slack assets args evt =
      .ok (.ok (match cumulativeMatches U P evt channel args assets with
        | [] => []
        | first :: _ => knowledgeReply U first)) := by
  obtain ⟨c, h⟩ := scanAssets_known U P slack evt channel ⟨"", args, []⟩ assets
    (by simp [lookupChannel, hname]) hfree
  simp only [defaultKnowledgeHandler, h, bind, Except.bind, List.nil_append]
  cases cumulativeMatches U P evt channel args assets <;> rfl

/-- The loop matches only loaded assets. -/
theorem cumulativeMatches_subset (U : Util) (P : Platforms) (evt : MessageEvent) (channel : String) :
    ∀ (args : List String) (assets : List KnowledgeAsset),
      cumulativeMatches U P evt channel args assets ⊆ assets
  | _, [] => by simp [cumulativeMatches]
  | args, a :: rest => by
    rw [cumulativeMatches]
    refine List.append_subset.2 ⟨?_, List.Subset.trans
      (cumulativeMatches_subset U P evt channel _ rest) (List.subset_cons_self a rest)⟩
    split <;> simp

/-- An asset that holds on `args` with its own injection is among the loop's matches: the
injections of the assets before it only add tokens. -/
theorem cumulativeMatches_complete (P : Platforms) (evt : MessageEvent) (channel : String) :
    ∀ (args : List String) (assets : List KnowledgeAsset) (entry : KnowledgeAsset),
      entry ∈ assets →
      (watches evt entry && admits channel entry && entry.On.eval specUtil
        (specUtil.NormalizeTokens (args ++ injectedTokens P evt channel entry))) = true →
      entry ∈ cumulativeMatches specUtil P evt channel args assets
  | _, [], _, h, _ => absurd h (List.not_mem_nil _)
  | args, a :: rest, entry, hmem, hmatch => by
    rw [cumulativeMatches, List.mem_append]
    rcases List.mem_cons.1 hmem with rfl | hrest
    · left
      simp [hmatch]
    · right
      refine cumulativeMatches_complete P evt channel _ rest entry hrest ?_
      simp only [Bool.and_eq_true] at hmatch ⊢
      refine ⟨hmatch.1, eval_mono specUtil_monotone (present_normalizeTokens_mono ?_) _ hmatch.2⟩
      intro x hx
      simp only [List.mem_append] at hx ⊢
      tauto

/-- **No asset is missed.**  When the channel's name can be looked up and no asset's tree
carries an expression, an asset that holds on `args` with only its own channel context
injected, and that the loop watches and admits, makes `defaultKnowledgeHandler` reply with
the reply of a loaded asset. -/
theorem defaultKnowledgeHandler_answers_own_context (P : Platforms) (slack : Slack)
    (evt : MessageEvent) (channel : String) (assets : List KnowledgeAsset) (args : List String)
    (entry : KnowledgeAsset) (hname : getChannelName slack evt.channel = .ok channel)
    (hfree : ∀ a ∈ assets, a.On.exprFree = true) (hentry : entry ∈ assets)
    (hmatch : (watches evt entry && admits channel entry && entry.On.eval specUtil
      (specUtil.NormalizeTokens (args ++ injectedTokens P evt channel entry))) = true) :
    ∃ first ∈ assets, defaultKnowledgeHandler specUtil P slack assets args evt =
      .ok (.ok (knowledgeReply specUtil first)) := by
  obtain ⟨c, h⟩ := scanAssets_known specUtil P slack evt channel ⟨"", args, []⟩ assets
    (by simp [lookupChannel, hname]) hfree
  have hin := cumulativeMatches_complete P evt channel args assets entry hentry hmatch
  simp only [defaultKnowledgeHandler, h, bind, Except.bind, List.nil_append]
  cases hm : cumulativeMatches specUtil P evt channel args assets with
  | nil => simp [hm] at hin
  | cons first rest =>
    refine ⟨first, cumulativeMatches_subset specUtil P evt channel args assets (by simp [hm]), ?_⟩
    rfl

end Loop

/-! ## The leak -/

/-- An asset whose channel context ties `forum-vsphere` to the `vsphere` path, and which
matches nothing itself. -/
def forumAsset : KnowledgeAsset :=
  { name := "forum", On := { tokens := ["unrelated"], terms := [] },
    channelContext := some { channels := ["forum-vsphere"], contextPath := "vsphere" } }

/-- An asset about vSphere, without channel context. -/
def vsphereAsset : KnowledgeAsset :=
  { name := "vsphere", On := { tokens := ["vsphere"], terms := [] }, markdownPrompt := "vSphere" }

/-- The message `install` in the channel `forum-vsphere`. -/
def forumMessage : MessageEvent :=
  { channel := "forum-vsphere", user := "U1", text := "install", timeStamp := "1" }

/-- `defaultKnowledgeHandler_cumulative` applies to `forumAsset` and `vsphereAsset` in
`forum-vsphere`. -/
theorem defaultKnowledgeHandler_cumulative_forum :
    getChannelName specSlack forumMessage.channel = .ok "forum-vsphere" ∧
    (∀ a ∈ [forumAsset, vsphereAsset], a.On.exprFree = true) ∧
    defaultKnowledgeHandler specUtil specPlatforms specSlack [forumAsset, vsphereAsset]
        ["install"] forumMessage =
      .ok (.ok (match cumulativeMatches specUtil specPlatforms forumMessage "forum-vsphere"
          ["install"] [forumAsset, vsphereAsset] with
        | [] => []
        | first :: _ => knowledgeReply specUtil first)) := by
  have hname : getChannelName specSlack forumMessage.channel = .ok "forum-vsphere" := rfl
  have hfree : ∀ a ∈ [forumAsset, vsphereAsset], a.On.exprFree = true := by decide
  exact ⟨hname, hfree, defaultKnowledgeHandler_cumulative specUtil specPlatforms specSlack
    forumMessage "forum-vsphere" _ _ hname hfree⟩

/-- `defaultKnowledgeHandler_answers_own_context` applies to `vsphereAsset` on the message
`vsphere` in `forum-vsphere`. -/
theorem defaultKnowledgeHandler_answers_own_context_vsphere :
    getChannelName specSlack forumMessage.channel = .ok "forum-vsphere" ∧
    (∀ a ∈ [forumAsset, vsphereAsset], a.On.exprFree = true) ∧
    vsphereAsset ∈ [forumAsset, vsphereAsset] ∧
    (watches forumMessage vsphereAsset && admits "forum-vsphere" vsphereAsset &&
      vsphereAsset.On.eval specUtil (specUtil.NormalizeTokens (["vsphere"] ++
        injectedTokens specPlatforms forumMessage "forum-vsphere" vsphereAsset))) = true ∧
    ∃ first ∈ [forumAsset, vsphereAsset], defaultKnowledgeHandler specUtil specPlatforms specSlack
        [forumAsset, vsphereAsset] ["vsphere"] forumMessage =
      .ok (.ok (knowledgeReply specUtil first)) := by
  have hname : getChannelName specSlack forumMessage.channel = .ok "forum-vsphere" := rfl
  have hfree : ∀ a ∈ [forumAsset, vsphereAsset], a.On.exprFree = true := by decide
  have hmatch : (watches forumMessage vsphereAsset && admits "forum-vsphere" vsphereAsset &&
      vsphereAsset.On.eval specUtil (specUtil.NormalizeTokens (["vsphere"] ++
        injectedTokens specPlatforms forumMessage "forum-vsphere" vsphereAsset))) = true := rfl
  exact ⟨hname, hfree, by simp, hmatch, defaultKnowledgeHandler_answers_own_context specPlatforms
    specSlack forumMessage "forum-vsphere" _ ["vsphere"] vsphereAsset hname hfree (by simp) hmatch⟩

/-- **One asset's channel context reaches the assets after it.**  `vsphereAsset` has no
channel context and does not match `install` on its own, yet after `forumAsset` appended
the `vsphere` terms to `args` it matches, and its reply is the handler's. -/
theorem defaultKnowledgeHandler_leaks_context :
    Prod.fst <$> isTokenMatch specUtil (specUtil.NormalizeTokens ["install"]) vsphereAsset.On =
      .ok false ∧
    scanAssets specUtil specPlatforms specSlack forumMessage ⟨"", ["install"], []⟩
        [forumAsset, vsphereAsset] =
      .ok (.ok ⟨"forum-vsphere", ["install", "vsphere", "vcenter"], [vsphereAsset]⟩) ∧
    defaultKnowledgeHandler specUtil specPlatforms specSlack [forumAsset, vsphereAsset]
        ["install"] forumMessage =
      .ok (.ok (knowledgeReply specUtil vsphereAsset)) :=
  ⟨rfl, rfl, rfl⟩

end SplatBot
