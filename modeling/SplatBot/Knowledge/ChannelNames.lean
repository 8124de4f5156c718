import Mathlib.Data.Finmap
import SplatBot.Knowledge.Handler

/-!
# The channel-name cache: `channelIDMap`

`getChannelName` (`pkg/knowledge/knowledge.go`) asks `util.GetClient()` for a client on
every call (the package's `slackClient` is never assigned, so `getCachedClient` never
returns a cached one), then answers from `channelIDMap` when the channel is there, and
otherwise asks `GetConversationInfo` and stores the name.  `getChannelName` in
`Knowledge.Handler` is the lookup without the map, which the handler's model uses.

Lookups happen one after another, on the bot's single event loop (`channelNames`).  Against
a workspace that answers each channel with one name, the map is invisible: every lookup
replies what the uncached `getChannelName` does (`channelNames_consistent`).  Against a
workspace whose names change, the map fixes each channel's name at the first lookup of it
that got through, for the life of the process: a renamed channel keeps its old name in
every later reply (`channelNames_firstName`).
-/

namespace SplatBot

/-- One call of `getChannelName(channelID)` and what Slack answers to it: `util.GetClient()`,
and `GetConversationInfo`, which the call asks only on a miss. -/
structure ChannelLookup where
  channelID : String
  client : Except String Unit
  info : Except String String

/-- `getChannelName(channelID)` with the package's `channelIDMap` (a non-nil map): the client
first, then the map, then `GetConversationInfo`, whose name is stored. -/
def getChannelNameCached (channelIDMap : Finmap fun _ : String => String) (l : ChannelLookup) :
    (Finmap fun _ : String => String) × Except String String :=
  match l.client with
  | .error e => (channelIDMap, .error ("unable to get client: " ++ e))
  | .ok () =>
    match channelIDMap.lookup l.channelID with
    | some name => (channelIDMap, .ok name)
    | none =>
      match l.info with
      | .error e => (channelIDMap, .error ("error getting channel info: " ++ e))
      | .ok name => (channelIDMap.insert l.channelID name, .ok name)

/-- Lookups one after another from the map `channelIDMap`: the map after them, and each
lookup's reply. -/
def channelNames (channelIDMap : Finmap fun _ : String => String) :
    List ChannelLookup → (Finmap fun _ : String => String) × List (Except String String)
  | [] => (channelIDMap, [])
  | l :: ls =>
    let (m, reply) := getChannelNameCached channelIDMap l
    ((channelNames m ls).1, reply :: (channelNames m ls).2)

/-! ## A consistent workspace -/

section Consistent

variable (slack : Slack)

/-- The map agrees with the workspace: every stored name is the one it answers. -/
def Agrees (channelIDMap : Finmap fun _ : String => String) : Prop :=
  ∀ c name, channelIDMap.lookup c = some name → slack.GetConversationInfo c = .ok name

/-- A lookup that asks the workspace `slack`. -/
def Asks (l : ChannelLookup) : Prop :=
  l.client = slack.GetClient ∧ l.info = slack.GetConversationInfo l.channelID

/-- One lookup against the workspace replies as the uncached lookup and keeps the map in
agreement. -/
theorem getChannelNameCached_consistent {m : Finmap fun _ : String => String}
    {l : ChannelLookup} (hm : Agrees slack m) (hl : Asks slack l) :
    (getChannelNameCached m l).2 = getChannelName slack l.channelID ∧
      Agrees slack (getChannelNameCached m l).1 := by
  obtain ⟨c, client, info⟩ := l
  obtain ⟨hc, hi⟩ := hl
  dsimp only at hc hi
  subst hc hi
  unfold getChannelNameCached getChannelName
  dsimp only
  cases slack.GetClient with
  | error e => exact ⟨rfl, hm⟩
  | ok u =>
    cases hlook : m.lookup c with
    | some name => exact ⟨by simp [hm _ _ hlook], hm⟩
    | none =>
      cases hinfo : slack.GetConversationInfo c with
      | error e => exact ⟨rfl, hm⟩
      | ok name =>
        refine ⟨rfl, fun c' n h => ?_⟩
        by_cases hcc : c' = c
        · subst hcc
          simp only [Finmap.lookup_insert, Option.some.injEq] at h
          rw [hinfo, h]
        · rw [Finmap.lookup_insert_of_ne _ hcc] at h
          exact hm c' n h

/-- **Against a consistent workspace the cache is invisible.**  From a map that agrees with
the workspace (the empty map the package starts with does), every lookup of every run
that asks the workspace replies exactly what the uncached `getChannelName` replies. -/
theorem channelNames_consistent :
    ∀ (ls : List ChannelLookup) (m : Finmap fun _ : String => String), Agrees slack m →
      (∀ l ∈ ls, Asks slack l) →
      (channelNames m ls).2 = ls.map fun l => getChannelName slack l.channelID
  | [], _, _, _ => rfl
  | l :: ls, m, hm, hls => by
    obtain ⟨hreply, hm'⟩ :=
      getChannelNameCached_consistent slack hm (hls l (List.mem_cons_self _ _))
    simp only [channelNames, List.map_cons, hreply,
      channelNames_consistent ls _ hm' fun l' h => hls l' (List.mem_cons_of_mem _ h)]

end Consistent

/-- Three lookups against `specSlack`, the second one a hit. -/
def specLookups : List ChannelLookup :=
  [⟨"C1", .ok (), .ok "C1"⟩, ⟨"C1", .ok (), .ok "C1"⟩, ⟨"C2", .ok (), .ok "C2"⟩]

/-- `channelNames_consistent` applies to `specLookups` from the empty map. -/
theorem channelNames_consistent_specLookups :
    Agrees specSlack ∅ ∧ (∀ l ∈ specLookups, Asks specSlack l) ∧
    (channelNames ∅ specLookups).2 =
      specLookups.map fun l => getChannelName specSlack l.channelID :=
  have hm : Agrees specSlack ∅ := fun _ _ h => by simp at h
  have hls : ∀ l ∈ specLookups, Asks specSlack l := by simp [specLookups, Asks, specSlack]
  ⟨hm, hls, channelNames_consistent specSlack specLookups ∅ hm hls⟩

/-! ## A workspace whose names change -/

/-- The name Slack gave at the first of the lookups of channel `c` that got a client and a
name. -/
def firstName (c : String) : List ChannelLookup → Option String
  | [] => none
  | l :: ls =>
    match l.client, l.info with
    | .ok (), .ok name => if l.channelID = c then some name else firstName c ls
    | _, _ => firstName c ls

theorem firstName_cons (c : String) (l : ChannelLookup) (ls : List ChannelLookup) :
    firstName c (l :: ls) = (firstName c [l]).or (firstName c ls) := by
  simp only [firstName]
  split
  · split <;> rfl
  · rfl

/-- One lookup stores exactly the name of its first successful answer, on top of the map. -/
theorem getChannelNameCached_lookup (m : Finmap fun _ : String => String) (l : ChannelLookup)
    (c : String) :
    (getChannelNameCached m l).1.lookup c = (m.lookup c).or (firstName c [l]) := by
  obtain ⟨c', client, info⟩ := l
  unfold getChannelNameCached firstName
  dsimp only
  cases client with
  | error e => simp [firstName]
  | ok u =>
    cases info with
    | error e => cases m.lookup c' <;> simp [firstName]
    | ok n =>
      by_cases hcl : c' = c
      · subst hcl
        cases hlook : m.lookup c' <;> simp [hlook]
      · cases m.lookup c' <;> simp [hcl, firstName, Finmap.lookup_insert_of_ne _ (Ne.symm hcl)]

/-- One lookup replies the stored name, or the name of its own successful answer. -/
theorem getChannelNameCached_reply {m : Finmap fun _ : String => String} {l : ChannelLookup}
    {name : String} (h : (getChannelNameCached m l).2 = .ok name) :
    (m.lookup l.channelID).or (firstName l.channelID [l]) = some name := by
  unfold getChannelNameCached at h
  unfold firstName
  cases hc : l.client with
  | error e => simp [hc] at h
  | ok u =>
    simp only [hc] at h
    cases hlook : m.lookup l.channelID with
    | some n => simp only [hlook, Except.ok.injEq] at h; simp [h]
    | none =>
      simp only [hlook] at h
      cases hi : l.info with
      | error e => simp [hi] at h
      | ok n => simp only [hi, Except.ok.injEq] at h; simp [h]

/-- Over a run from any map, each successful reply is the stored name, or else the name of
the first lookup of the channel, up to this one, that got through. -/
theorem channelNames_reply :
    ∀ (ls : List ChannelLookup) (m : Finmap fun _ : String => String) (i : Nat)
      (l : ChannelLookup) (name : String), ls[i]? = some l →
      (channelNames m ls).2[i]? = some (.ok name) →
      (m.lookup l.channelID).or (firstName l.channelID (ls.take (i + 1))) = some name
  | [], _, _, _, _, hl, _ => by simp at hl
  | l' :: ls, m, 0, l, name, hl, hr => by
    simp only [List.getElem?_cons_zero, Option.some.injEq] at hl
    subst hl
    simp only [channelNames, List.getElem?_cons_zero, Option.some.injEq] at hr
    simpa [List.take] using getChannelNameCached_reply hr
  | l' :: ls, m, i + 1, l, name, hl, hr => by
    simp only [List.getElem?_cons_succ] at hl
    simp only [channelNames, List.getElem?_cons_succ] at hr
    have ih := channelNames_reply ls _ i l name hl hr
    rw [getChannelNameCached_lookup, Option.or_assoc, ← firstName_cons] at ih
    simpa [List.take] using ih

/-- **The first name sticks.**  From the empty map the package starts with, whatever Slack
answers along the run, every successful reply for a channel is the name Slack gave at the
first lookup of that channel that got through: a channel renamed after that keeps its old
name in every later reply. -/
theorem channelNames_firstName (ls : List ChannelLookup) (i : Nat) (l : ChannelLookup)
    (name : String) (hl : ls[i]? = some l) (hr : (channelNames ∅ ls).2[i]? = some (.ok name)) :
    firstName l.channelID (ls.take (i + 1)) = some name := by
  simpa using channelNames_reply ls ∅ i l name hl hr

/-- Channel `C1` is looked up as `general`, a lookup of `C2` fails to get a client, and `C1`
has been renamed `announcements` by its next lookup. -/
def renamedLookups : List ChannelLookup :=
  [⟨"C1", .ok (), .ok "general"⟩, ⟨"C2", .error "rate limited", .ok "random"⟩,
   ⟨"C1", .ok (), .ok "announcements"⟩]

/-- `channelNames_firstName` applies to the third lookup of `renamedLookups`: it still
replies `general`. -/
theorem channelNames_firstName_renamed :
    renamedLookups[2]? = some ⟨"C1", .ok (), .ok "announcements"⟩ ∧
    (channelNames ∅ renamedLookups).2[2]? = some (.ok "general") ∧
    firstName "C1" (renamedLookups.take 3) = some "general" :=
  have hl : renamedLookups[2]? = some ⟨"C1", .ok (), .ok "announcements"⟩ := rfl
  have hr : (channelNames ∅ renamedLookups).2[2]? = some (.ok "general") := rfl
  ⟨hl, hr, channelNames_firstName renamedLookups 2 _ "general" hl hr⟩

end SplatBot
