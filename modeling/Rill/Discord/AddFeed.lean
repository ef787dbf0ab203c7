import Rill.Discord.Overwrites

/-!
# Adding the feed channels

`main` of `add_feed_channels.py`: list the guild's channels and find the
`BOTS` category, list the roles for the read-only overwrites, create each entry
of `NEW_CHANNELS` whose name no channel has yet, and pin each created or found
channel's catalog messages unless the channel already has a pinned message.
Unlike `ServerSetup.pin_messages`, a message holding the placeholder is
skipped, not fatal.  A dry run issues nothing: the first `client.get` returns
the stub and `main` returns.

`NEW_CHANNELS` and `PINNED_MESSAGES` are parameters; the `perm_template` of a
`NEW_CHANNELS` entry is never read.
-/

namespace Rill
namespace Discord

/-- An entry of `NEW_CHANNELS`. -/
structure NewChannel where
  name : String
  type : Nat
  topic : String

/-- The non-ASCII characters whose upper case under Python's `str.upper` is
ASCII, with that upper case. -/
def asciiUpperTable : List (Char × List Char) :=
  [('ß', ['S', 'S']), ('ı', ['I']), ('ſ', ['S']), ('ﬀ', ['F', 'F']), ('ﬁ', ['F', 'I']),
    ('ﬂ', ['F', 'L']), ('ﬃ', ['F', 'F', 'I']), ('ﬄ', ['F', 'F', 'L']), ('ﬅ', ['S', 'T']),
    ('ﬆ', ['S', 'T'])]

/-- Python's `str.upper` of one character, exact on every character whose upper
case is ASCII: the ASCII letters and `asciiUpperTable`.  Any other character
keeps itself; Python's upper case of it holds a non-ASCII character too, so the
two agree on which strings have an ASCII upper case, and on what it is. -/
def upperChar (c : Char) : List Char :=
  if c.isLower then [c.toUpper] else (asciiUpperTable.lookup c).getD [c]

/-- `str.upper()`, character by character. -/
def upper (s : String) : String := ⟨s.toList.flatMap upperChar⟩

example : upper "botſ" = "BOTS" := by decide

/-- The test `ch.get("type") == 4 and ch.get("name", "").upper() == "BOTS"`
of one listed channel: `ch["id"]` when it passes, `botsId` when it fails.
`ch.get` raises unless `ch` is a dict, `.upper()` unless the name of a type-4
channel is a string, and `ch["id"]` when the key is missing. -/
def botsIdOf? (ch botsId : Json) : Option Json := do
  let type ← ch.getD? "type" .null
  if type = .num 4 then
    let name ← ch.getD? "name" (.str "")
    let name ← name.asString?
    if upper name = "BOTS" then ch.item? "id" else pure botsId
  else pure botsId

/-- The loop over the listed channels: the `BOTS` category id (`None` is
`null`) and the names seen; `set.add` raises when a name is a list or a
dict. -/
def scanChannels : List Json → Json → List Json → Option (Json × List Json)
  | [], botsId, names => some (botsId, names)
  | ch :: rest, botsId, names => do
      let botsId ← botsIdOf? ch botsId
      let name ← ch.getD? "name" (.str "")
      if name.hashable then scanChannels rest botsId (names ++ [name]) else none

/-- The loop `role_ids[role.get("name", "")] = role.get("id", "")`.  Only
string keys are kept: the script reads the dict with a string key only. -/
def roleIdsOf : List Json → Dict Json → Option (Dict Json)
  | [], roleIds => some roleIds
  | role :: rest, roleIds => do
      let name ← role.getD? "name" (.str "")
      let roleId ← role.getD? "id" (.str "")
      match name with
      | .str n => roleIdsOf rest (roleIds.insert n roleId)
      | _ => if name.hashable then roleIdsOf rest roleIds else none

/-- The search `for ch in channels: if ch.get("name") == name: ... break`:
the id of the first channel of that name. -/
def existingId (name : String) : List Json → Option (Option Json)
  | [] => some none
  | ch :: rest => do
      let chName ← ch.getD? "name" .null
      if chName = .str name then (ch.item? "id").map some else existingId name rest

/-- The creation payload of a `NEW_CHANNELS` entry. -/
def feedPayload (botsId : Json) (overwrites : List Overwrite) (chDef : NewChannel) :
    ChannelPayload :=
  { name := chDef.name, type := chDef.type, parentId := some botsId,
    permissionOverwrites := overwrites, topic := some chDef.topic, rateLimitPerUser := none,
    defaultThreadRateLimitPerUser := none }

/-- The loop `for ch_def in NEW_CHANNELS`, filling `created_channels`. -/
def createEach (client : DiscordClient) (guildId : String) (channels existing : List Json)
    (botsId : Json) (overwrites : List Overwrite) :
    List NewChannel → Dict Json → Script (Dict Json)
  | [], created => pure created
  | chDef :: rest, created => do
      if Json.str chDef.name ∈ existing then
        let found ← Prog.ofOption (existingId chDef.name channels)
        let created := match found with
          | some chId => created.insert chDef.name chId
          | none => created
        createEach client guildId channels existing botsId overwrites rest created
      else
        let result ← client.post (.guildChannels guildId)
          (.channel (feedPayload botsId overwrites chDef))
        let created ← match result with
          | some r =>
              if r.truthy then do
                let chId ← Prog.ofOption (r.getD? "id" (.str "DRY_RUN_ID"))
                pure (created.insert chDef.name chId)
              else pure created
          | none => pure created
        createEach client guildId channels existing botsId overwrites rest created

/-- The loop `for idx, msg_content in enumerate(messages)` of one channel. -/
def sendEach (client : DiscordClient) (chId : Json) : List String → Script Unit
  | [] => pure ()
  | message :: rest =>
      if hasPlaceholder message then sendEach client chId rest
      else if client.dryRun then sendEach client chId rest
      else do
        let sendResult ← client.post (.channelMessages chId) (.message message)
        match sendResult with
        | some r =>
            if r.truthy then do
              let msgId ← Prog.ofOption (r.getD? "id" .null)
              if msgId.truthy then do
                let _ ← client.put (.channelPin chId msgId)
                sendEach client chId rest
              else sendEach client chId rest
            else sendEach client chId rest
        | none => sendEach client chId rest

/-- Whether `existing_pins` is a non-empty list. -/
def hasPins : Option Json → Bool
  | some (.arr (_ :: _)) => true
  | _ => false

/-- The loop `for name, ch_id in created_channels.items()`. -/
def pinEach (client : DiscordClient) (pinnedMessages : Dict (List String)) :
    List (String × Json) → Script Unit
  | [] => pure ()
  | (name, chId) :: rest => do
      let messages := (pinnedMessages.get? name).getD []
      if messages.isEmpty then pinEach client pinnedMessages rest
      else do
        let pinned ← if !client.dryRun then hasPins <$> client.get (.channelPins chId)
          else pure false
        if pinned then pinEach client pinnedMessages rest
        else do
          sendEach client chId messages
          pinEach client pinnedMessages rest

/-- `main()` with the credentials `token`, `guild_id` and `--dry-run`. -/
def main (token guildId : String) (dryRun : Bool) (newChannels : List NewChannel)
    (pinnedMessages : Dict (List String)) : Script Unit := do
  let client : DiscordClient := ⟨token, dryRun⟩
  let channelsResult ← client.get (.guildChannels guildId)
  if dryRun then pure ()
  else
    let some (.arr (first :: others)) := channelsResult | .halt (.exit 1)
    let channels := first :: others
    let (botsId, existing) ← Prog.ofOption (scanChannels channels .null [])
    if !botsId.truthy then .halt (.exit 1)
    else
      let roles ← client.get (.guildRoles guildId)
      let some (.arr (firstRole :: otherRoles)) := roles | .halt (.exit 1)
      let roleIds ← Prog.ofOption (roleIdsOf (firstRole :: otherRoles) [])
      let overwrites := buildReadOnlyOverwrites (.str guildId) roleIds
      let created ← createEach client guildId channels existing botsId overwrites newChannels []
      pinEach client pinnedMessages created

/-- Steps 1 to 3 of a live `main`: list the channels and find the `BOTS`
category, list the roles, create the missing channels.  The result is
`created_channels`. -/
def createdChannels (token guildId : String) (newChannels : List NewChannel) :
    Script (Dict Json) := do
  let client : DiscordClient := ⟨token, false⟩
  let channelsResult ← client.get (.guildChannels guildId)
  let some (.arr (first :: others)) := channelsResult | .halt (.exit 1)
  let channels := first :: others
  let (botsId, existing) ← Prog.ofOption (scanChannels channels .null [])
  if !botsId.truthy then .halt (.exit 1)
  else
    let roles ← client.get (.guildRoles guildId)
    let some (.arr (firstRole :: otherRoles)) := roles | .halt (.exit 1)
    let roleIds ← Prog.ofOption (roleIdsOf (firstRole :: otherRoles) [])
    let overwrites := buildReadOnlyOverwrites (.str guildId) roleIds
    createEach client guildId channels existing botsId overwrites newChannels []

/-- A live `main` is its steps 1 to 3, then the pin loop over what they
resolved. -/
theorem main_live_eq (token guildId : String) (newChannels : List NewChannel)
    (pinnedMessages : Dict (List String)) :
    main token guildId false newChannels pinnedMessages =
      createdChannels token guildId newChannels >>= pinEach ⟨token, false⟩ pinnedMessages := by
  have live : (⟨token, false⟩ : DiscordClient).dryRun = false := rfl
  simp only [main, createdChannels, DiscordClient.get, DiscordClient.request_live _ live,
    Prog.call_bind, Prog.pure_bind', Prog.bind_assoc', Bool.false_eq_true, if_false]
  congr 1
  funext channelsResult
  rcases channelsResult with _ | (_ | _ | _ | _ | (_ | ⟨first, others⟩) | _) <;> try rfl
  simp only [Prog.bind_assoc']
  congr 1
  funext scanned
  obtain ⟨botsId, existing⟩ := scanned
  split
  · rfl
  · simp only [Prog.call_bind, Prog.pure_bind', Prog.bind_assoc']
    congr 1
    funext roles
    rcases roles with _ | (_ | _ | _ | _ | (_ | ⟨firstRole, otherRoles⟩) | _) <;> try rfl
    simp only [Prog.bind_assoc']

/-! ## Runs one after another -/

/-- One run of `main` and the exchanges it made. -/
abbrev FeedRun := Except Halt Unit × List Exchange

/-- The exchanges of the runs so far, in order. -/
def feedHistory (runs : List FeedRun) : List Exchange := runs.flatMap Prod.snd

/-- `count` more live runs of `main` after `runs`, against `server`, which sees
every earlier exchange; a run ends by returning, by `sys.exit(1)` or by an
exception. -/
def feedRuns (token guildId : String) (newChannels : List NewChannel)
    (pinnedMessages : Dict (List String)) (server : Server) : Nat → List FeedRun → List FeedRun
  | 0, runs => runs
  | count + 1, runs =>
      feedRuns token guildId newChannels pinnedMessages server count
        (runs ++ [(main token guildId false newChannels pinnedMessages).exec
          (Prog.oracle fun h => server (feedHistory runs ++ h)) []])

end Discord
end Rill
