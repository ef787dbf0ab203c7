import Rill.Discord.Setup

/-!
# What a provisioning run sends

A live `ServerSetup.run` against an arbitrary server.  Each stage gets one
lemma saying which kinds of request it can issue and how it can halt, whatever
the server replies; the run's theorems are assembled from them.
-/

namespace Rill
namespace Discord
namespace ServerSetup

open Prog

/-- `ServerSetup(client, guild_id, dry_run)` as `main` builds it: the setup and
its client share the `--dry-run` flag. -/
def new (client : DiscordClient) (guildId : String) : ServerSetup :=
  { client, guildId, dryRun := client.dryRun }

/-- Neither the setup nor its client is in dry-run mode. -/
def Live (s : ServerSetup) : Prop := s.dryRun = false ∧ s.client.dryRun = false

/-- A run of `main`'s setup in live mode: its outcome and every exchange. -/
def liveRun (token guildId : String) (catalog : Catalog) (server : Server) :
    Except Halt Unit × List Exchange :=
  ((new ⟨token, false⟩ guildId).run catalog).exec (oracle server) []

/-- A request among the given kinds. -/
def KindIn (kinds : List Kind) (q : Request) : Prop := q.kind ∈ kinds

/-- Halting by an exception, the only way the creation stages halt. -/
def RaisedOnly (h : Halt) : Prop := h = .raised

variable {s : ServerSetup}

/-! ## One lemma per stage -/

theorem deleteEach_only (live : s.Live) (channels : List Json) :
    Only (KindIn [.deleteChannel]) RaisedOnly (fun _ => True) (s.deleteEach channels) := by
  induction channels with
  | nil => trivial
  | cons ch rest ih =>
      simp only [deleteEach, live.1, DiscordClient.delete, DiscordClient.request_live _ live.2,
        Bool.false_eq_true, if_false, only_bind, only_ofOption, call_bind, pure_bind', only_call]
      exact ⟨fun _ => rfl, fun _ _ => ⟨List.mem_singleton_self _, fun _ => ih⟩⟩

theorem deleteDefaultChannels_only (live : s.Live) :
    Only (KindIn [.listChannels, .deleteChannel]) RaisedOnly (fun _ => True)
      s.deleteDefaultChannels := by
  simp only [deleteDefaultChannels, DiscordClient.get, DiscordClient.request_live _ live.2,
    call_bind, only_call, pure_bind']
  refine ⟨by simp [KindIn, Request.kind], fun result => ?_⟩
  rcases result with _ | listing
  · trivial
  · by_cases set : listing.truthy
    · simp only [set, ite_true]
      exact (deleteEach_only live _).mono (fun q k => by simp_all [KindIn]) (fun _ => id)
        fun _ => id
    · simp [set]

/-- `s'` is `s` with possibly other role and channel maps. -/
def Keeps (s s' : ServerSetup) : Prop :=
  s'.client = s.client ∧ s'.guildId = s.guildId ∧ s'.dryRun = s.dryRun

theorem Keeps.refl (s : ServerSetup) : Keeps s s := ⟨rfl, rfl, rfl⟩

theorem Keeps.trans {s' s'' : ServerSetup} (first : Keeps s s') (second : Keeps s' s'') :
    Keeps s s'' :=
  ⟨second.1.trans first.1, second.2.1.trans first.2.1, second.2.2.trans first.2.2⟩

theorem Keeps.live {s' : ServerSetup} (keeps : Keeps s s') (live : s.Live) : s'.Live :=
  ⟨keeps.2.2.trans live.1, keeps.1 ▸ live.2⟩

theorem recordRole_only {K : Request → Prop} (name : String) (result : Option Json) :
    Only K RaisedOnly (Keeps s) (s.recordRole name result) := by
  rcases result with _ | result
  · exact Keeps.refl s
  · by_cases set : result.truthy <;>
      simp [recordRole, set, RaisedOnly, Keeps]

theorem createRoleEach_only (roles : List RoleDef) :
    ∀ s : ServerSetup, s.Live →
      Only (KindIn [.createRole]) RaisedOnly (Keeps s) (s.createRoleEach roles) := by
  induction roles with
  | nil => exact fun s _ => Keeps.refl s
  | cons roleDef rest ih =>
      intro s live
      simp only [createRoleEach, DiscordClient.post, DiscordClient.request_live _ live.2,
        call_bind, only_call, pure_bind', only_bind]
      refine ⟨by simp [KindIn, Request.kind], fun result => ?_⟩
      exact (recordRole_only roleDef.name result).mono (fun _ => id) (fun _ => id)
        fun s' keeps => (ih s' (keeps.live live)).mono (fun _ => id) (fun _ => id)
          fun _ => keeps.trans

theorem createRoles_only (live : s.Live) (roles : List RoleDef) :
    Only (KindIn [.createRole, .reorderRoles]) RaisedOnly (Keeps s) (s.createRoles roles) := by
  simp only [createRoles, only_bind]
  refine (createRoleEach_only roles s live).mono (by simp_all [KindIn]) (fun _ => id) ?_
  intro s' keeps
  have live' := keeps.live live
  by_cases reorder : s'.roleIds.isEmpty = false ∧
      (rolePositions s'.roleIds roles.length 0 roles).isEmpty = false
  · simp [reorder, live'.1, DiscordClient.patch, live'.2, KindIn, Request.kind, keeps]
  · simp only [not_and_or] at reorder
    rcases reorder with empty | empty <;> simp_all

theorem validateRequiredRoles_only {K : Request → Prop} (s : ServerSetup) :
    Only K (· = .exit 1) (fun _ => True) s.validateRequiredRoles := by
  unfold validateRequiredRoles
  dsimp only
  split <;> simp

theorem recordChannel_only {K : Request → Prop} (name : String) (result : Option Json) :
    Only K RaisedOnly (Keeps s) (s.recordChannel name result) := by
  rcases result with _ | result
  · exact Keeps.refl s
  · by_cases set : result.truthy <;>
      simp [recordChannel, set, RaisedOnly, Keeps]

theorem createChannelEach_only (catId : Json) (catTemplate : String)
    (channels : List ChannelDef) :
    ∀ s : ServerSetup, s.Live → Only (KindIn [.createChannel]) RaisedOnly (Keeps s)
      (s.createChannelEach catId catTemplate channels) := by
  induction channels with
  | nil => exact fun s _ => Keeps.refl s
  | cons ch rest ih =>
      intro s live
      simp only [createChannelEach, DiscordClient.post, DiscordClient.request_live _ live.2,
        call_bind, only_call, pure_bind', only_bind]
      refine ⟨by simp [KindIn, Request.kind], fun result => ?_⟩
      exact (recordChannel_only ch.name result).mono (fun _ => id) (fun _ => id)
        fun s' keeps => (ih s' (keeps.live live)).mono (fun _ => id) (fun _ => id)
          fun _ => keeps.trans

theorem categoryId_only {K : Request → Prop} (result : Option Json) :
    Only K RaisedOnly (fun _ => True) (categoryId result) := by
  rcases result with _ | result
  · trivial
  · by_cases set : result.truthy <;> simp [categoryId, set, RaisedOnly]

theorem createCategoryEach_only (categories : List CategoryDef) :
    ∀ s : ServerSetup, s.Live → Only (KindIn [.createChannel]) RaisedOnly (Keeps s)
      (s.createCategoryEach categories) := by
  induction categories with
  | nil => exact fun s _ => Keeps.refl s
  | cons category rest ih =>
      intro s live
      simp only [createCategoryEach, DiscordClient.post, DiscordClient.request_live _ live.2,
        call_bind, only_call, pure_bind', only_bind]
      refine ⟨by simp [KindIn, Request.kind], fun result => ?_⟩
      refine (categoryId_only result).mono (fun _ => id) (fun _ => id) fun catId _ => ?_
      rcases catId with _ | cid
      · exact ih s live
      · by_cases set : cid.truthy
        · simp only [set, ite_true, only_bind]
          exact (createChannelEach_only cid _ category.channels s live).mono (fun _ => id)
            (fun _ => id) fun s' keeps => (ih s' (keeps.live live)).mono (fun _ => id)
              (fun _ => id) fun _ => keeps.trans
        · simpa [set] using ih s live

theorem pinEach_only (live : s.Live) (chId : Json) (messages : List String) :
    Only (KindIn [.sendMessage, .pinMessage]) RaisedOnly (fun _ => True)
      (s.pinEach chId messages) := by
  induction messages with
  | nil => trivial
  | cons message rest ih =>
      simp only [pinEach, live.1, Bool.false_eq_true, ite_false, DiscordClient.post,
        DiscordClient.request_live _ live.2, call_bind, only_call, pure_bind']
      refine ⟨by simp [KindIn, Request.kind], fun result => ?_⟩
      rcases result with _ | result
      · exact ih
      · by_cases set : result.truthy
        · simp [set, DiscordClient.put, live.2, KindIn, Request.kind, RaisedOnly, ih]
          intro msgId _
          split <;> simp [ih, KindIn, Request.kind]
        · simpa [set] using ih

theorem pinChannels_only (live : s.Live) (serverStructure : List CategoryDef)
    (pinned : Dict (List String)) :
    Only (KindIn [.sendMessage, .pinMessage]) RaisedOnly (fun _ => True)
      (s.pinChannels serverStructure pinned) := by
  induction pinned with
  | nil => trivial
  | cons entry rest ih =>
      obtain ⟨name, messages⟩ := entry
      simp only [pinChannels]
      split
      · split
        · split
          · exact ih
          · simpa using (pinEach_only live _ messages).mono (fun _ => id) (fun _ => id)
              fun _ _ => ih
        · exact ih
      · exact ih

theorem createChannels_only (live : s.Live) (serverStructure : List CategoryDef) :
    Only (KindIn [.createChannel]) RaisedOnly (Keeps s) (s.createChannels serverStructure) :=
  createCategoryEach_only serverStructure s live

theorem pinMessages_only (live : s.Live) (catalog : Catalog) :
    Only (KindIn [.sendMessage, .pinMessage]) (fun h => h.code = 1) (fun _ => True)
      (s.pinMessages catalog) := by
  unfold pinMessages
  split
  · rfl
  · exact (pinChannels_only live _ _).mono (fun _ => id) (fun _ raised => raised ▸ rfl)
      fun _ => id

theorem KindIn.not_of_disjoint {kinds other : List Kind} {q : Request} (within : KindIn kinds q)
    (disjoint : ∀ k ∈ kinds, k ∉ other) : ¬ KindIn other q :=
  disjoint _ within

/-! ## The placeholder check comes after the creation stages -/

/-- With a placeholder in the pin table, the run never sends or pins, and every
way it ends has exit status 1. -/
theorem run_only_of_placeholder (live : s.Live) (catalog : Catalog)
    (placeholder : catalog.anyPlaceholder = true) :
    Only (fun q => ¬ KindIn [.sendMessage, .pinMessage] q) (fun h => h.code = 1)
      (fun _ => False) (s.run catalog) := by
  have raisedCode : ∀ h, RaisedOnly h → h.code = 1 := fun _ raised => raised ▸ rfl
  simp only [run, provision, only_bind]
  refine (deleteDefaultChannels_only live).mono
    (fun _ within => within.not_of_disjoint (by decide)) raisedCode fun _ _ => ?_
  refine (createRoles_only live catalog.roles).mono
    (fun _ within => within.not_of_disjoint (by decide)) raisedCode fun s' keeps => ?_
  refine (validateRequiredRoles_only s').mono (fun _ => id)
    (fun _ exit => exit ▸ rfl) fun _ _ => ?_
  refine (createChannels_only (keeps.live live) _).mono
    (fun _ within => within.not_of_disjoint (by decide)) raisedCode fun _ _ => ?_
  simp [pinMessages, placeholder, Halt.code]

/-- A live run with a placeholder in the pin table sends and pins nothing and
ends with exit status 1. -/
theorem run_placeholder_no_message_sent (token guildId : String) (catalog : Catalog)
    (server : Server) (placeholder : catalog.anyPlaceholder = true) :
    (∀ e ∈ (liveRun token guildId catalog server).2,
      ¬ KindIn [.sendMessage, .pinMessage] e.1) ∧
    ∃ h, (liveRun token guildId catalog server).1 = .error h ∧ h.code = 1 := by
  have facts := (run_only_of_placeholder (s := new ⟨token, false⟩ guildId) ⟨rfl, rfl⟩ catalog
    placeholder).exec_oracle rfl server (h := []) (by simp)
  refine ⟨facts.1, ?_⟩
  revert facts
  unfold liveRun
  rcases ((new ⟨token, false⟩ guildId).run catalog).exec (oracle server) [] with ⟨_ | _, _⟩
  · exact fun ⟨_, ends⟩ => ⟨_, rfl, ends⟩
  · exact fun ⟨_, ends⟩ => ends.elim

/-- A role definition whose other fields do not matter here. -/
def sampleRole (name : String) : RoleDef := ⟨name, 0, false, false, "0"⟩

/-- The required roles, one channel, and a pinned message still holding the
placeholder. -/
def placeholderCatalog : Catalog where
  roles := requiredRoles.map sampleRole
  serverStructure :=
    [{ category := "START HERE", permTemplate := some "read_only", channels := [{ name := "welcome", type := chText }] }]
  pinnedMessages := [("welcome", ["[docs](URL_PLACEHOLDER)"])]
  pinnedKeysNodup := by decide

/-- A server listing one channel and answering every other call with an id. -/
def listingServer : Server := fun _ q =>
  .reply (some (if q.kind = .listChannels then .arr [.obj [("id", .str "9")]]
    else .obj [("id", .str "7")]))

/-- With the placeholder present, the run still deletes a channel, creates and
reorders the roles and creates a category and a channel before `pin_messages`
exits. -/
theorem run_placeholder_mutates_first :
    (liveRun "token" "g" placeholderCatalog listingServer).1 = .error (.exit 1) ∧
    (liveRun "token" "g" placeholderCatalog listingServer).2.map (fun e => e.1.kind) =
      [.listChannels, .deleteChannel, .createRole, .createRole, .createRole, .createRole,
        .createRole, .createRole, .reorderRoles, .createChannel, .createChannel] :=
  ⟨rfl, rfl⟩

/-- The run of `run_placeholder_mutates_first` sends and pins nothing. -/
theorem run_placeholder_no_message_sent_listing :
    placeholderCatalog.anyPlaceholder = true ∧
    (∀ e ∈ (liveRun "token" "g" placeholderCatalog listingServer).2,
      ¬ KindIn [.sendMessage, .pinMessage] e.1) ∧
    ∃ h, (liveRun "token" "g" placeholderCatalog listingServer).1 = .error h ∧ h.code = 1 :=
  ⟨rfl, run_placeholder_no_message_sent "token" "g" placeholderCatalog listingServer rfl⟩

/-! ## A failed listing is not fatal -/

/-- One role and a pin table with nothing to pin. -/
def oneRoleCatalog : Catalog where
  roles := [sampleRole "Founder"]
  serverStructure := []
  pinnedMessages := []
  pinnedKeysNodup := List.nodup_nil

/-- After a failed listing the run goes on to create a role, and ends only at
the required-role check. -/
theorem run_failed_listing_continues :
    (liveRun "token" "g" oneRoleCatalog fun _ _ => .reply none).1 = .error (.exit 1) ∧
    (liveRun "token" "g" oneRoleCatalog fun _ _ => .reply none).2.map (fun e => e.1.kind) =
      [.listChannels, .createRole] :=
  ⟨rfl, rfl⟩

/-! ## The dry-run sentinels in live requests -/

/-- A server whose role-creation reply has no `"id"` field and that fails every
other call. -/
def noIdServer : Server := fun _ q =>
  .reply (if q.kind = .createRole then some (.obj [("name", .str "Founder")]) else none)

/-- The role created without an id is recorded under `"DRY_RUN_ID"`, and the
live reorder request carries that sentinel. -/
theorem run_reorder_carries_sentinel :
    (liveRun "token" "g" oneRoleCatalog noIdServer).2.map (fun e => e.1) =
      [⟨.get, .guildChannels "g", none⟩,
        ⟨.post, .guildRoles "g", some (.role (rolePayload (sampleRole "Founder")))⟩,
        ⟨.patch, .guildRoles "g", some (.positions [⟨.str "DRY_RUN_ID", 1⟩])⟩] :=
  rfl

end ServerSetup
end Discord
end Rill
