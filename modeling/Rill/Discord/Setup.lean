import Rill.Discord.Overwrites

/-!
# Server provisioning

`ServerSetup` of `setup_discord.py`: its mutable attributes become a record
threaded through the stages, and each method a script.  `run` calls, in order,
`delete_default_channels`, `create_roles`, `_validate_required_roles`,
`create_channels` and `pin_messages`.  Every `for` loop of the source is a
structural recursion over the list it walks; `time.sleep` and `print` leave no
trace here.  `ch.get(...)` on a reply that is not a dict raises, as Python's
`AttributeError` does.
-/

namespace Rill
namespace Discord

/-- The attributes of a `ServerSetup` object. -/
structure ServerSetup where
  client : DiscordClient
  guildId : String
  dryRun : Bool
  /-- `role_ids`: role name to role id. -/
  roleIds : Dict Json := []
  /-- `channel_ids`: channel name to channel id. -/
  channelIds : Dict Json := []

namespace ServerSetup

/-- `self.everyone_role_id`, set to the guild id in `__init__`. -/
def everyoneRoleId (s : ServerSetup) : String := s.guildId

/-! ## Step 1: delete the existing channels -/

/-- The loop `for ch in channels` of `delete_default_channels`. -/
def deleteEach (s : ServerSetup) : List Json → Script Unit
  | [] => pure ()
  | ch :: rest => do
      let chId ← Prog.ofOption (ch.getD? "id" (.str ""))
      if s.dryRun then deleteEach s rest
      else do
        let _ ← s.client.delete (.channel chId)
        deleteEach s rest

/-- `delete_default_channels`: a failed or empty listing returns at once. -/
def deleteDefaultChannels (s : ServerSetup) : Script Unit := do
  let result ← s.client.get (.guildChannels s.guildId)
  match result with
  | some listing =>
      if listing.truthy then deleteEach s (listing.asList?.getD []) else pure ()
  | none => pure ()

/-! ## Step 2: create the roles -/

/-- The payload built from one `ROLES` entry. -/
def rolePayload (roleDef : RoleDef) : RolePayload :=
  ⟨roleDef.name, roleDef.color, roleDef.hoist, roleDef.mentionable, roleDef.permissions⟩

/-- Record a role-creation reply: `if result: role_ids[name] = result.get("id",
"DRY_RUN_ID")`. -/
def recordRole (s : ServerSetup) (name : String) : Option Json → Script ServerSetup
  | some result =>
      if result.truthy then do
        let roleId ← Prog.ofOption (result.getD? "id" (.str "DRY_RUN_ID"))
        pure { s with roleIds := s.roleIds.insert name roleId }
      else pure s
  | none => pure s

/-- The creation loop `for role_def in ROLES` of `create_roles`. -/
def createRoleEach (s : ServerSetup) : List RoleDef → Script ServerSetup
  | [] => pure s
  | roleDef :: rest => do
      let result ← s.client.post (.guildRoles s.guildId) (.role (rolePayload roleDef))
      let s ← s.recordRole roleDef.name result
      createRoleEach s rest

/-- The reorder entries: `ROLES[idx]` gets `total - idx`, if its id is set. -/
def rolePositions (roleIds : Dict Json) (total : Nat) : Nat → List RoleDef → List Position
  | _, [] => []
  | idx, roleDef :: rest =>
      match roleIds.get? roleDef.name with
      | some rid =>
          if rid.truthy then ⟨rid, total - idx⟩ :: rolePositions roleIds total (idx + 1) rest
          else rolePositions roleIds total (idx + 1) rest
      | none => rolePositions roleIds total (idx + 1) rest

/-- `create_roles`: create every role, then one reorder request in live mode. -/
def createRoles (s : ServerSetup) (roles : List RoleDef) : Script ServerSetup := do
  let s ← s.createRoleEach roles
  if !s.dryRun && !s.roleIds.isEmpty then
    let positions := rolePositions s.roleIds roles.length 0 roles
    if !positions.isEmpty then do
      let _ ← s.client.patch (.guildRoles s.guildId) (.positions positions)
      pure s
    else pure s
  else pure s

/-! ## Step 2b: check the required roles -/

/-- `_validate_required_roles`: exit 1 in live mode if a required role has no
entry in `role_ids`. -/
def validateRequiredRoles (s : ServerSetup) : Script Unit :=
  let missing := requiredRoles.filter fun r => r ∉ s.roleIds.keys
  if !missing.isEmpty && !s.dryRun then .halt (.exit 1) else pure ()

/-! ## Step 3: create the categories and channels -/

/-- `self._build_overwrites(template)`. -/
def overwrites (s : ServerSetup) (template : String) : List Overwrite :=
  buildOverwrites s.everyoneRoleId s.roleIds template

/-- The category payload. -/
def categoryPayload (s : ServerSetup) (category : CategoryDef) : ChannelPayload :=
  { name := category.category, type := chCategory, parentId := none,
    permissionOverwrites := s.overwrites category.effectiveTemplate,
    topic := none, rateLimitPerUser := none, defaultThreadRateLimitPerUser := none }

/-- The payload of a channel inside the category whose id is `catId`. -/
def channelPayload (s : ServerSetup) (catId : Json) (catTemplate : String)
    (ch : ChannelDef) : ChannelPayload :=
  let topic := ch.topic.getD ""
  let slowmode := ch.slowmode.getD 0
  { name := ch.name, type := ch.type, parentId := some catId,
    permissionOverwrites := s.overwrites (ch.effectiveTemplate catTemplate),
    topic :=
      if topic ≠ "" ∧ ch.type ≠ chCategory ∧ ch.type ≠ chForum then some topic
      else if ch.type = chForum ∧ topic ≠ "" then some topic
      else none,
    rateLimitPerUser := if slowmode ≠ 0 ∧ ch.type = chText then some slowmode else none,
    defaultThreadRateLimitPerUser :=
      if ch.type = chForum then some (ch.threadRateLimit.getD 300) else none }

/-- Record a channel-creation reply under the channel's name. -/
def recordChannel (s : ServerSetup) (name : String) : Option Json → Script ServerSetup
  | some result =>
      if result.truthy then do
        let chId ← Prog.ofOption (result.getD? "id" (.str "DRY_RUN_CH_ID"))
        pure { s with channelIds := s.channelIds.insert name chId }
      else pure s
  | none => pure s

/-- The inner loop `for ch_def in category_def.get("channels", [])`. -/
def createChannelEach (s : ServerSetup) (catId : Json) (catTemplate : String) :
    List ChannelDef → Script ServerSetup
  | [] => pure s
  | ch :: rest => do
      let result ← s.client.post (.guildChannels s.guildId)
        (.channel (s.channelPayload catId catTemplate ch))
      let s ← s.recordChannel ch.name result
      createChannelEach s catId catTemplate rest

/-- `cat_id = cat_result.get("id", "DRY_RUN_CAT_ID") if cat_result else None`. -/
def categoryId : Option Json → Script (Option Json)
  | some result =>
      if result.truthy then some <$> Prog.ofOption (result.getD? "id" (.str "DRY_RUN_CAT_ID"))
      else pure none
  | none => pure none

/-- The outer loop `for category_def in SERVER_STRUCTURE`: a category whose
creation yields no id skips its own channels only. -/
def createCategoryEach (s : ServerSetup) : List CategoryDef → Script ServerSetup
  | [] => pure s
  | category :: rest => do
      let result ← s.client.post (.guildChannels s.guildId) (.channel (s.categoryPayload category))
      let catId ← categoryId result
      match catId with
      | some id =>
          if id.truthy then do
            let s ← s.createChannelEach id category.effectiveTemplate category.channels
            createCategoryEach s rest
          else createCategoryEach s rest
      | none => createCategoryEach s rest

/-- `create_channels`. -/
def createChannels (s : ServerSetup) (serverStructure : List CategoryDef) :
    Script ServerSetup :=
  s.createCategoryEach serverStructure

/-! ## Step 4: pin the messages -/

/-- The declared type of a channel: the loops over `SERVER_STRUCTURE` break out
of a category at its first channel of that name, and a later category with one
overrides it. -/
def channelType (serverStructure : List CategoryDef) (name : String) : Option Nat :=
  serverStructure.foldl
    (fun found cat => ((cat.channels.find? fun ch => ch.name = name).map ChannelDef.type).or found)
    none

/-- Send one message and pin it by the id the send returned. -/
def pinEach (s : ServerSetup) (chId : Json) : List String → Script Unit
  | [] => pure ()
  | message :: rest =>
      if s.dryRun then pinEach s chId rest
      else do
        let sendResult ← s.client.post (.channelMessages chId) (.message message)
        match sendResult with
        | some result =>
            if result.truthy then do
              let msgId ← Prog.ofOption (result.getD? "id" .null)
              if msgId.truthy then do
                let _ ← s.client.put (.channelPin chId msgId)
                pinEach s chId rest
              else pinEach s chId rest
            else pinEach s chId rest
        | none => pinEach s chId rest

/-- The loop `for ch_name, messages in PINNED_MESSAGES.items()`: channels with no
recorded id and forum channels are skipped. -/
def pinChannels (s : ServerSetup) (serverStructure : List CategoryDef) :
    Dict (List String) → Script Unit
  | [] => pure ()
  | (name, messages) :: rest =>
      match s.channelIds.get? name with
      | some chId =>
          if chId.truthy then
            if channelType serverStructure name = some chForum then
              pinChannels s serverStructure rest
            else do
              s.pinEach chId messages
              pinChannels s serverStructure rest
          else pinChannels s serverStructure rest
      | none => pinChannels s serverStructure rest

/-- `pin_messages`: exit 1 before any request if a message holds the
placeholder. -/
def pinMessages (s : ServerSetup) (catalog : Catalog) : Script Unit :=
  if catalog.anyPlaceholder then .halt (.exit 1)
  else s.pinChannels catalog.serverStructure catalog.pinnedMessages

/-! ## All steps -/

/-- The stages of `run` after the reset. -/
def provision (s : ServerSetup) (catalog : Catalog) : Script Unit := do
  let s ← s.createRoles catalog.roles
  s.validateRequiredRoles
  let s ← s.createChannels catalog.serverStructure
  s.pinMessages catalog

/-- `ServerSetup.run`. -/
def run (s : ServerSetup) (catalog : Catalog) : Script Unit := do
  s.deleteDefaultChannels
  s.provision catalog

end ServerSetup

end Discord
end Rill
