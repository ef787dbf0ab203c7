import Rill.Discord.SetupRun

/-!
# A dry run of the setup

`setup_discord.py --dry-run` builds its client and its `ServerSetup` with
`dry_run=True`.  Every `_request` of that client returns the stub
`{"id": "DRY_RUN_ID", "dry_run": True}` and sends nothing, so each stage
returns at once: the channel listing is a dict, not a list, and nothing is
deleted; every role and channel is recorded under the stub's id; the reorder,
the role check and the pins are skipped.  The run stops only where
`pin_messages` refuses a placeholder, before it looks at the mode.
-/

namespace Rill
namespace Discord
namespace ServerSetup

/-- The setup and its client are both in dry-run mode. -/
def Dry (s : ServerSetup) : Prop := s.dryRun = true ∧ s.client.dryRun = true

/-- A stage of a dry run sends nothing and returns a setup still in dry-run
mode. -/
def DryReturns (p : Script ServerSetup) : Prop := ∃ s', p = pure s' ∧ s'.Dry

variable {s : ServerSetup}

theorem deleteDefaultChannels_dry (dry : s.Dry) : s.deleteDefaultChannels = pure () := by
  simp [deleteDefaultChannels, DiscordClient.get, DiscordClient.request_dry _ dry.2, dryRunReply,
    Json.asList?, deleteEach]

theorem createRoleEach_dry (roles : List RoleDef) :
    ∀ s : ServerSetup, s.Dry → DryReturns (s.createRoleEach roles) := by
  induction roles with
  | nil => exact fun s dry => ⟨s, rfl, dry⟩
  | cons roleDef rest ih =>
      intro s dry
      obtain ⟨s', run, dry'⟩ :=
        ih { s with roleIds := s.roleIds.insert roleDef.name (.str "DRY_RUN_ID") } dry
      refine ⟨s', ?_, dry'⟩
      simp [createRoleEach, DiscordClient.post, DiscordClient.request_dry _ dry.2, recordRole,
        dryRunReply, Dict.get?_cons, run]

theorem createRoles_dry (roles : List RoleDef) (dry : s.Dry) : DryReturns (s.createRoles roles) := by
  obtain ⟨s', run, dry'⟩ := createRoleEach_dry roles s dry
  exact ⟨s', by simp [createRoles, run, dry'.1], dry'⟩

theorem validateRequiredRoles_dry (dry : s.Dry) : s.validateRequiredRoles = pure () := by
  simp [validateRequiredRoles, dry.1]

theorem createChannelEach_dry (catId : Json) (catTemplate : String) (channels : List ChannelDef) :
    ∀ s : ServerSetup, s.Dry → DryReturns (s.createChannelEach catId catTemplate channels) := by
  induction channels with
  | nil => exact fun s dry => ⟨s, rfl, dry⟩
  | cons ch rest ih =>
      intro s dry
      obtain ⟨s', run, dry'⟩ :=
        ih { s with channelIds := s.channelIds.insert ch.name (.str "DRY_RUN_ID") } dry
      refine ⟨s', ?_, dry'⟩
      simp [createChannelEach, DiscordClient.post, DiscordClient.request_dry _ dry.2,
        recordChannel, dryRunReply, Dict.get?_cons, run]

theorem createCategoryEach_dry (categories : List CategoryDef) :
    ∀ s : ServerSetup, s.Dry → DryReturns (s.createCategoryEach categories) := by
  induction categories with
  | nil => exact fun s dry => ⟨s, rfl, dry⟩
  | cons category rest ih =>
      intro s dry
      obtain ⟨s₁, channels, dry₁⟩ := createChannelEach_dry (.str "DRY_RUN_ID")
        category.effectiveTemplate category.channels s dry
      obtain ⟨s', run, dry'⟩ := ih s₁ dry₁
      refine ⟨s', ?_, dry'⟩
      simp [createCategoryEach, DiscordClient.post, DiscordClient.request_dry _ dry.2, categoryId,
        dryRunReply, Dict.get?_cons, channels, run]

theorem pinEach_dry (dry : s.Dry) (chId : Json) (messages : List String) :
    s.pinEach chId messages = pure () := by
  induction messages with
  | nil => rfl
  | cons message rest ih => simp [pinEach, dry.1, ih]

theorem pinChannels_dry (dry : s.Dry) (serverStructure : List CategoryDef)
    (pinnedMessages : Dict (List String)) :
    s.pinChannels serverStructure pinnedMessages = pure () := by
  induction pinnedMessages with
  | nil => rfl
  | cons entry rest ih =>
      obtain ⟨name, messages⟩ := entry
      cases found : s.channelIds.get? name with
      | none => simp [pinChannels, found, ih]
      | some chId =>
          by_cases set : chId.truthy <;>
            by_cases forum : channelType serverStructure name = some chForum <;>
            simp [pinChannels, found, set, forum, pinEach_dry dry, ih]

/-- `setup_discord.py --dry-run` sends no request, whatever the catalog: the
run returns at once, or stops with exit status 1 when a pinned message holds
the placeholder. -/
theorem run_dry_returns (token guildId : String) (catalog : Catalog) :
    (new ⟨token, true⟩ guildId).run catalog =
      if catalog.anyPlaceholder then .halt (.exit 1) else pure () := by
  have dry : (new ⟨token, true⟩ guildId).Dry := ⟨rfl, rfl⟩
  obtain ⟨s₁, roles, dry₁⟩ := createRoles_dry catalog.roles dry
  obtain ⟨s₂, channels, dry₂⟩ := createCategoryEach_dry catalog.serverStructure s₁ dry₁
  simp only [run, provision, createChannels, deleteDefaultChannels_dry dry, roles, channels,
    validateRequiredRoles_dry dry₁, Prog.pure_bind'', Prog.pure_bind', pinMessages]
  split <;> simp [pinChannels_dry dry₂]

/-! ## What a live run refuses -/

open Prog

theorem KindIn.mono {kinds kinds' : List Kind} {q : Request} (within : KindIn kinds q)
    (sub : kinds ⊆ kinds') : KindIn kinds' q :=
  sub within

theorem recordRole_keys {K : Request → Prop} (name : String) (result : Option Json) :
    Only K RaisedOnly (fun s' => Keeps s s' ∧ s'.roleIds.keys.Sublist (s.roleIds.keys ++ [name]))
      (s.recordRole name result) := by
  rcases result with _ | result
  · exact ⟨Keeps.refl s, List.sublist_append_left _ _⟩
  · by_cases set : result.truthy <;>
      simp [recordRole, set, RaisedOnly, Keeps, Dict.keys_insert_sublist]

/-- The creation loop records only names of `ROLES`. -/
theorem createRoleEach_keys (roles : List RoleDef) :
    ∀ s : ServerSetup, s.Live → Only (KindIn [.createRole]) RaisedOnly
      (fun s' => Keeps s s' ∧ ∀ k ∈ s'.roleIds.keys, k ∈ s.roleIds.keys ∨ k ∈ roles.map RoleDef.name)
      (s.createRoleEach roles) := by
  induction roles with
  | nil => exact fun s _ => ⟨Keeps.refl s, fun _ mem => .inl mem⟩
  | cons roleDef rest ih =>
      intro s live
      simp only [createRoleEach, DiscordClient.post, DiscordClient.request_live _ live.2,
        call_bind, only_call, pure_bind', only_bind]
      refine ⟨by simp [KindIn, Request.kind], fun result => ?_⟩
      refine (recordRole_keys roleDef.name result).mono (fun _ => id) (fun _ => id)
        fun s₁ ⟨keeps₁, named₁⟩ => (ih s₁ (keeps₁.live live)).mono (fun _ => id) (fun _ => id)
          fun s₂ ⟨keeps₂, named₂⟩ => ⟨keeps₁.trans keeps₂, fun k mem => ?_⟩
      rcases named₂ k mem with old | later
      · rcases List.mem_append.mp (named₁.subset old) with older | here
        · exact .inl older
        · exact .inr (by simp [List.mem_singleton.mp here])
      · exact .inr (.tail _ later)

/-- `create_roles` records only names of `ROLES`. -/
theorem createRoles_keys (live : s.Live) (roles : List RoleDef) :
    Only (KindIn [.createRole, .reorderRoles]) RaisedOnly
      (fun s' => Keeps s s' ∧ ∀ k ∈ s'.roleIds.keys, k ∈ s.roleIds.keys ∨ k ∈ roles.map RoleDef.name)
      (s.createRoles roles) := by
  simp only [createRoles, only_bind]
  refine (createRoleEach_keys roles s live).mono (fun _ within => within.mono (by decide)) (fun _ => id) ?_
  rintro s' ⟨keeps, named⟩
  have live' := keeps.live live
  by_cases reorder : s'.roleIds.isEmpty = false ∧
      (rolePositions s'.roleIds roles.length 0 roles).isEmpty = false
  · simpa [reorder, live'.1, DiscordClient.patch, live'.2, KindIn, Request.kind, keeps] using named
  · simp only [not_and_or] at reorder
    rcases reorder with empty | empty <;> simp_all

theorem validateRequiredRoles_missing (live : s.Live) {r : String} (required : r ∈ requiredRoles)
    (absent : r ∉ s.roleIds.keys) : s.validateRequiredRoles = .halt (.exit 1) := by
  simpa [validateRequiredRoles, live.1] using
    (⟨r, required, absent⟩ : ∃ r ∈ requiredRoles, r ∉ s.roleIds.keys)

/-- A live run of a catalog that lacks a required role stops at the role check,
whatever the server does: it only lists and deletes channels and creates and
reorders roles, and every way it ends has exit status 1. -/
theorem run_only_of_missing_role (live : s.Live) (fresh : s.roleIds = []) (catalog : Catalog)
    {r : String} (required : r ∈ requiredRoles) (undeclared : r ∉ catalog.roles.map RoleDef.name) :
    Only (KindIn [.listChannels, .deleteChannel, .createRole, .reorderRoles]) (fun h => h.code = 1)
      (fun _ => False) (s.run catalog) := by
  have raisedCode : ∀ h, RaisedOnly h → h.code = 1 := fun _ raised => raised ▸ rfl
  simp only [run, provision, only_bind]
  refine (deleteDefaultChannels_only live).mono (fun _ within => within.mono (by decide)) raisedCode
    fun _ _ => ?_
  refine (createRoles_keys live catalog.roles).mono (fun _ within => within.mono (by decide)) raisedCode
    fun s' ⟨keeps, named⟩ => ?_
  have absent : r ∉ s'.roleIds.keys := fun mem => by
    rcases named r mem with old | declared
    · simp [fresh, Dict.keys] at old
    · exact undeclared declared
  rw [validateRequiredRoles_missing (keeps.live live) required absent]
  rfl

/-- The dry run and the live run of one catalog.  A dry run sends no request:
it returns at once, or stops with exit status 1 when a pinned message holds the
placeholder.  When the catalog lacks a required role, every live run, whatever
the server does, stops at the role check with exit status 1 or an exception,
having only listed and deleted channels and created and reordered roles. -/
theorem run_dry (token guildId : String) (catalog : Catalog) :
    (new ⟨token, true⟩ guildId).run catalog =
        ((if catalog.anyPlaceholder then .halt (.exit 1) else .pure ()) : Script Unit) ∧
      ∀ r ∈ requiredRoles, r ∉ catalog.roles.map RoleDef.name → ∀ server : Server,
        (∀ e ∈ (liveRun token guildId catalog server).2,
          KindIn [.listChannels, .deleteChannel, .createRole, .reorderRoles] e.1) ∧
        ∃ h, (liveRun token guildId catalog server).1 = .error h ∧ h.code = 1 := by
  refine ⟨run_dry_returns token guildId catalog, fun r required undeclared server => ?_⟩
  have facts := (run_only_of_missing_role (s := new ⟨token, false⟩ guildId) ⟨rfl, rfl⟩ rfl catalog
    required undeclared).exec_oracle rfl server (h := []) (by simp)
  refine ⟨facts.1, ?_⟩
  revert facts
  unfold liveRun
  rcases ((new ⟨token, false⟩ guildId).run catalog).exec (oracle server) [] with ⟨_ | _, _⟩
  · exact fun ⟨_, ends⟩ => ⟨_, rfl, ends⟩
  · exact fun ⟨_, ends⟩ => ends.elim

/-- `run_dry` for the catalog with only `Founder`, against a server that fails
every call. -/
theorem run_dry_oneRole :
    "Core Team" ∈ requiredRoles ∧ "Core Team" ∉ oneRoleCatalog.roles.map RoleDef.name ∧
      (∀ e ∈ (liveRun "token" "g" oneRoleCatalog fun _ _ => .reply none).2,
        KindIn [.listChannels, .deleteChannel, .createRole, .reorderRoles] e.1) ∧
      ∃ h, (liveRun "token" "g" oneRoleCatalog fun _ _ => .reply none).1 = .error h ∧ h.code = 1 :=
  ⟨by decide, by decide,
    (run_dry "token" "g" oneRoleCatalog).2 "Core Team" (by decide) (by decide) fun _ _ => .reply none⟩

end ServerSetup
end Discord
end Rill
