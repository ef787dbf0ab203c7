import Rill.Discord.SetupTrace
import Rill.Discord.FeedPins

/-!
# The pin stages against their descriptions

The pin loop of `ServerSetup.pin_messages` and the pin stage of
`add_feed_channels.main`, in live mode, each equal to a program written from
what the stage is meant to do.  Both read a send's reply the same way.  A falsy
reply is a failed send.  A truthy one is pinned by its `"id"` when that is
non-empty, and raises when it is not an object, ending the script.
-/

namespace Rill
namespace Discord

open Prog hiding pure bind

/-- The message id a send's reply yields for pinning: the reply's non-empty
`"id"` when the send succeeded; a truthy reply that is not an object raises. -/
def pinnableId : Option Json → Script (Option Json)
  | some reply =>
      if reply.truthy then
        (fun msgId => if msgId.truthy then some msgId else none) <$>
          ofOption (reply.getD? "id" .null)
      else pure none
  | none => pure none

/-- Each message in order: one send to `chId`, then one pin of the id the send
yields, if any. -/
def describedSendPin (chId : Json) : List String → Script Unit
  | [] => pure ()
  | message :: rest => do
      let reply ← send ⟨.post, .channelMessages chId, some (.message message)⟩
      let msgId ← pinnableId reply
      match msgId with
      | some msgId => do
          let _ ← send ⟨.put, .channelPin chId msgId, none⟩
          describedSendPin chId rest
      | none => describedSendPin chId rest

/-! ## `pin_messages` -/

namespace ServerSetup

/-- The id recorded for a channel, if it is non-empty. -/
def recordedId (channelIds : Dict Json) (name : String) : Option Json :=
  (channelIds.get? name).filter Json.truthy

/-- The declared type of a channel: that of the structure's channel of that
name. -/
def declaredType (serverStructure : List CategoryDef) (name : String) : Option Nat :=
  ((serverStructure.flatMap CategoryDef.channels).find? fun ch => ch.name = name).map
    ChannelDef.type

/-- `pin_messages` as described: for each pin-map channel with a recorded id
whose declared type is not forum, its messages sent and pinned in order. -/
def describedPinChannels (channelIds : Dict Json) (serverStructure : List CategoryDef) :
    Dict (List String) → Script Unit
  | [] => pure ()
  | (name, messages) :: rest =>
      match recordedId channelIds name with
      | some chId =>
          if declaredType serverStructure name = some chForum then
            describedPinChannels channelIds serverStructure rest
          else do
            describedSendPin chId messages
            describedPinChannels channelIds serverStructure rest
      | none => describedPinChannels channelIds serverStructure rest

theorem declaredType_cons (category : CategoryDef) (rest : List CategoryDef) (name : String) :
    declaredType (category :: rest) name =
      ((category.channels.find? fun ch => ch.name = name).map ChannelDef.type).or
        (declaredType rest name) := by
  simp only [declaredType, List.flatMap_cons, List.find?_append, Option.map_or']

/-- Two lookups that cannot both succeed may be tried in either order. -/
theorem option_or_swap {α : Type} {first later found : Option α}
    (exclusive : first.isSome → later = none) :
    later.or (first.or found) = (first.or later).or found := by
  cases first with
  | none => rfl
  | some a => rw [exclusive rfl]; rfl

/-- The scan of `pin_messages` breaks out of each category at a match and lets
a later category override: with unique channel names that is the one match. -/
theorem channelType_eq_declaredType (serverStructure : List CategoryDef) (name : String)
    (unique : (channelNames serverStructure).Nodup) :
    channelType serverStructure name = declaredType serverStructure name := by
  suffices scan : ∀ (categories : List CategoryDef) (found : Option Nat),
      (channelNames categories).Nodup →
      categories.foldl (fun found cat =>
          ((cat.channels.find? fun ch => ch.name = name).map ChannelDef.type).or found) found =
        (declaredType categories name).or found by
    simpa [channelType] using scan serverStructure none unique
  intro categories
  induction categories with
  | nil => intro found _; rfl
  | cons category rest ih =>
      intro found unique
      rw [channelNames_cons] at unique
      obtain ⟨-, uniqueRest, apart⟩ := List.nodup_append.mp unique
      rw [List.foldl_cons, ih _ uniqueRest, declaredType_cons]
      refine option_or_swap fun present => ?_
      obtain ⟨ch, here⟩ := Option.isSome_iff_exists.mp (Option.isSome_map'.symm.trans present)
      rcases later : (rest.flatMap CategoryDef.channels).find? (fun ch => ch.name = name)
        with _ | ch'
      · simp [declaredType, later]
      · have named : ch.name = name := by simpa using List.find?_some here
        have named' : ch'.name = name := by simpa using List.find?_some later
        have inHere := List.mem_map_of_mem ChannelDef.name (List.mem_of_find?_eq_some here)
        have inLater := List.mem_map_of_mem ChannelDef.name (List.mem_of_find?_eq_some later)
        rw [named] at inHere
        rw [named'] at inLater
        exact (apart inHere inLater).elim

theorem pinEach_described (s : ServerSetup) (live : s.Live) (chId : Json)
    (messages : List String) : s.pinEach chId messages = describedSendPin chId messages := by
  induction messages with
  | nil => rfl
  | cons message rest ih =>
      simp only [pinEach, describedSendPin, live.1, Bool.false_eq_true, if_false,
        DiscordClient.post, DiscordClient.put, DiscordClient.request_live _ live.2, send,
        call_bind, pure_bind']
      congr 1
      funext reply
      rcases reply with _ | reply
      · simpa [pinnableId] using ih
      · by_cases set : reply.truthy
        · rcases found : reply.getD? "id" .null with _ | msgId
          · simp [pinnableId, set, found]
          · by_cases pinned : msgId.truthy <;> simp [pinnableId, set, found, pinned, ih]
        · simpa [pinnableId, set] using ih

theorem pinChannels_described (s : ServerSetup) (live : s.Live)
    (serverStructure : List CategoryDef) (unique : (channelNames serverStructure).Nodup)
    (pinned : Dict (List String)) :
    s.pinChannels serverStructure pinned =
      describedPinChannels s.channelIds serverStructure pinned := by
  induction pinned with
  | nil => rfl
  | cons entry rest ih =>
      obtain ⟨name, messages⟩ := entry
      simp only [pinChannels, describedPinChannels, recordedId,
        channelType_eq_declaredType serverStructure name unique]
      rcases s.channelIds.get? name with _ | chId
      · exact ih
      · by_cases set : chId.truthy
        · simp [Option.filter_some, set, pinEach_described s live, ih]
        · simpa [Option.filter_some, set] using ih

/-- Live `pin_messages`, with no placeholder in the pin map and unique channel
names, equals its description. -/
theorem pinMessages_described (s : ServerSetup) (live : s.Live) (catalog : Catalog)
    (noPlaceholder : catalog.anyPlaceholder = false)
    (unique : (channelNames catalog.serverStructure).Nodup) :
    s.pinMessages catalog =
      describedPinChannels s.channelIds catalog.serverStructure catalog.pinnedMessages := by
  simp only [pinMessages, noPlaceholder, Bool.false_eq_true, if_false]
  exact pinChannels_described s live _ unique _

/-- A catalog whose channel `rules` has two messages to pin. -/
def rulesCatalog : Catalog where
  roles := []
  serverStructure := [welcomeCategory]
  pinnedMessages := [("rules", ["a", "b"])]
  pinnedKeysNodup := by decide

/-- A live setup that recorded the id `"c"` for `rules`. -/
def rulesRecorded : ServerSetup :=
  { new ⟨"t", false⟩ "g" with channelIds := [("rules", .str "c")] }

/-- `pinMessages_described` for `rulesCatalog`. -/
theorem pinMessages_described_rules :
    rulesRecorded.Live ∧ rulesCatalog.anyPlaceholder = false ∧
      (channelNames rulesCatalog.serverStructure).Nodup ∧
      rulesRecorded.pinMessages rulesCatalog =
        describedPinChannels [("rules", .str "c")] [welcomeCategory] [("rules", ["a", "b"])] :=
  ⟨⟨rfl, rfl⟩, by decide, by decide,
    pinMessages_described rulesRecorded ⟨rfl, rfl⟩ rulesCatalog (by decide) (by decide)⟩

/-- A send answered with a truthy list: `send_result.get("id")` raises, and the
second message of `rules` is never sent. -/
theorem pinMessages_list_reply_stops :
    ((rulesRecorded.pinMessages rulesCatalog).exec
        (oracle fun _ _ => .reply (some (.arr [.num 1]))) []).2.map Sigma.fst =
      [⟨.post, .channelMessages (.str "c"), some (.message "a")⟩] := by
  decide

end ServerSetup

/-! ## The pin stage of `add_feed_channels.main` -/

/-- The pin stage as described: for each resolved channel in order whose
catalog messages are not empty, one pins lookup; unless it returns a non-empty
list, each message without the placeholder sent and pinned in order. -/
def describedFeedPins (pinnedMessages : Dict (List String)) :
    List (String × Json) → Script Unit
  | [] => pure ()
  | (name, chId) :: rest => do
      let messages := (pinnedMessages.get? name).getD []
      if messages.isEmpty then describedFeedPins pinnedMessages rest
      else do
        let pins ← send ⟨.get, .channelPins chId, none⟩
        if hasPins pins then describedFeedPins pinnedMessages rest
        else do
          describedSendPin chId (messages.filter fun message => !hasPlaceholder message)
          describedFeedPins pinnedMessages rest

/-- The send loop of `main` is the one of `pin_messages`, over the messages
without the placeholder. -/
theorem sendEach_eq_pinEach {client : DiscordClient} (chId : Json) (messages : List String) :
    sendEach client chId messages =
      ({ client, guildId := "", dryRun := client.dryRun } : ServerSetup).pinEach chId
        (messages.filter fun message => !hasPlaceholder message) := by
  induction messages with
  | nil => rfl
  | cons message rest ih =>
      by_cases marked : hasPlaceholder message
      · simp [sendEach, marked, ih]
      · simp only [sendEach, marked, Bool.false_eq_true, if_false, List.filter_cons,
          Bool.not_false, if_true, ServerSetup.pinEach]
        exact ih ▸ rfl

/-- A message holding the placeholder is skipped on its own. -/
theorem sendEach_described {client : DiscordClient} (live : client.dryRun = false)
    (chId : Json) (messages : List String) :
    sendEach client chId messages =
      describedSendPin chId (messages.filter fun message => !hasPlaceholder message) := by
  rw [sendEach_eq_pinEach]
  exact ServerSetup.pinEach_described _ ⟨live, live⟩ _ _

theorem pinEach_described {client : DiscordClient} (live : client.dryRun = false)
    (pinnedMessages : Dict (List String)) (created : List (String × Json)) :
    pinEach client pinnedMessages created = describedFeedPins pinnedMessages created := by
  induction created with
  | nil => rfl
  | cons entry rest ih =>
      obtain ⟨name, chId⟩ := entry
      simp only [pinEach, describedFeedPins, live, Bool.not_false, if_true, DiscordClient.get,
        DiscordClient.request_live _ live, map_eq_bind, call_bind, pure_bind', send, ih,
        sendEach_described live]

end Discord
end Rill
