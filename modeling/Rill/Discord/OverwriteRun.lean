import Rill.Discord.SetupRun
import Mathlib.Data.List.Forall2

/-!
# The overwrites a provisioning run sends

`_validate_required_roles` requires every role the four templates name, so in
a live run that gets past it `_build_overwrites` drops nothing.  The creations
of a run are made, in order, for entries of `SERVER_STRUCTURE`, one entry each,
and each carries the full record list of the template its entry declares.  The
role ids it carries are those the server returned for the role creations before
it, read off the exchanges by `returnedRoleIds` exactly as `create_roles`
records them.
-/

namespace Rill
namespace Discord
namespace ServerSetup

open Prog

/-! ## The role map, read from the exchanges -/

/-- How one exchange changes `role_ids`: a truthy reply to a role creation
records its `"id"`, or `"DRY_RUN_ID"` when it has none. -/
def noteRole (roleIds : Dict Json) : Exchange → Dict Json
  | ⟨⟨.post, .guildRoles _, some (.role payload)⟩, .reply (some result)⟩ =>
      if result.truthy then
        match result.getD? "id" (.str "DRY_RUN_ID") with
        | some id => roleIds.insert payload.name id
        | none => roleIds
      else roleIds
  | _ => roleIds

/-- The role ids returned by the role creations of `h`. -/
def returnedRoleIds (h : List Exchange) : Dict Json := h.foldl noteRole []

@[simp] theorem returnedRoleIds_nil : returnedRoleIds [] = [] := rfl

@[simp] theorem returnedRoleIds_snoc (h : List Exchange) (e : Exchange) :
    returnedRoleIds (h ++ [e]) = noteRole (returnedRoleIds h) e := by
  simp [returnedRoleIds]

theorem noteRole_of_ne {q : Request} (other : q.kind ≠ .createRole) (roleIds : Dict Json)
    (a : Answer (Option Json)) : noteRole roleIds ⟨q, a⟩ = roleIds := by
  unfold noteRole
  split
  · rename_i same
    cases same
    simp [Request.kind] at other
  · rfl

/-- Every id a role map holds is non-empty. -/
def IdsSet (roleIds : Dict Json) : Prop :=
  ∀ name v, roleIds.get? name = some v → v.truthy = true

/-- A reply to a role creation carries a non-empty id whenever it carries one. -/
def RoleIdsSet (q : Request) (a : Answer (Option Json)) : Prop :=
  q.kind = .createRole →
    ∀ result v, a = .reply (some result) → result.field? "id" = some v → v.truthy = true

/-! ## The entries of the structure -/

/-- An entry of `SERVER_STRUCTURE` as `create_channels` walks it: a category, or
one of its channels. -/
inductive Entry where
  | category (cat : CategoryDef)
  | channel (cat : CategoryDef) (ch : ChannelDef)

/-- The entries of a structure in walking order: each category, then its
channels. -/
def entries (cats : List CategoryDef) : List Entry :=
  cats.flatMap fun cat => .category cat :: cat.channels.map (.channel cat)

@[simp] theorem entries_cons (cat : CategoryDef) (rest : List CategoryDef) :
    entries (cat :: rest) = .category cat :: cat.channels.map (.channel cat) ++ entries rest := rfl

/-- The name an entry declares. -/
def Entry.name : Entry → String
  | .category cat => cat.category
  | .channel _ ch => ch.name

/-- The template an entry declares: its own `perm_template`, else its
category's, else `"community"`. -/
def Entry.template : Entry → String
  | .category cat => cat.permTemplate.getD "community"
  | .channel cat ch => ch.permTemplate.getD (cat.permTemplate.getD "community")

/-- Every template a structure declares is one of the four `_build_overwrites`
knows. -/
def TemplatesKnown (cats : List CategoryDef) : Prop :=
  ∀ e ∈ entries cats, (template? e.template).isSome

/-! ## The invariant -/

/-- A creation payload for `entry` carries the entry's name and the full record
list of the template it declares, with the role ids of `roleIds`. -/
def CarriesFullOverwrites (guildId : String) (roleIds : Dict Json) (payload : ChannelPayload)
    (entry : Entry) : Prop :=
  payload.name = entry.name ∧ ∃ t, template? entry.template = some t ∧
    payload.permissionOverwrites = templateOverwrites (.str guildId) (roleIdOf roleIds) t

/-- The payload of a channel creation. -/
def createdPayload? : Request → Option ChannelPayload
  | ⟨.post, .guildChannels _, some (.channel payload)⟩ => some payload
  | _ => none

/-- The channel creations of exchanges that follow the role map `roleIds`, in
order, each with the role map returned before it. -/
def creationsFrom : Dict Json → List Exchange → List (Dict Json × ChannelPayload)
  | _, [] => []
  | roleIds, e :: rest =>
      ((createdPayload? e.1).map fun payload => (roleIds, payload)).toList ++
        creationsFrom (noteRole roleIds e) rest

/-- The channel creations of `h`, each with the role ids returned before it. -/
def creations (h : List Exchange) : List (Dict Json × ChannelPayload) := creationsFrom [] h

theorem creationsFrom_snoc (h : List Exchange) (e : Exchange) :
    ∀ roleIds, creationsFrom roleIds (h ++ [e]) = creationsFrom roleIds h ++
      ((createdPayload? e.1).map fun payload => (h.foldl noteRole roleIds, payload)).toList := by
  induction h with
  | nil => intro; simp [creationsFrom]
  | cons e' rest ih => intro roleIds; simp [creationsFrom, ih]

@[simp] theorem creations_snoc (h : List Exchange) (e : Exchange) :
    creations (h ++ [e]) =
      creations h ++ ((createdPayload? e.1).map fun payload => (returnedRoleIds h, payload)).toList :=
  creationsFrom_snoc h e []

theorem createdPayload?_of_ne {q : Request} (other : q.kind ≠ .createChannel) : createdPayload? q = none := by
  unfold createdPayload?
  split
  · exact absurd rfl other
  · rfl

/-- The creations of `h` are made, in order, for entries of `done`, one entry
each, and each carries the full list of its entry. -/
def CreatedInOrder (guildId : String) (done : List Entry) (h : List Exchange) : Prop :=
  ∃ made, made.Sublist done ∧ List.Forall₂ (fun (c : Dict Json × ChannelPayload) e =>
    CarriesFullOverwrites guildId c.1 c.2 e) (creations h) made

variable {guildId : String}

theorem CreatedInOrder.mono {done done' : List Entry} {h : List Exchange}
    (created : CreatedInOrder guildId done h) (sub : done.Sublist done') : CreatedInOrder guildId done' h :=
  let ⟨made, within, matched⟩ := created
  ⟨made, within.trans sub, matched⟩

theorem createdInOrder_snoc_of_none {done : List Entry} {h : List Exchange} {e : Exchange}
    (none : createdPayload? e.1 = none) :
    CreatedInOrder guildId done (h ++ [e]) ↔ CreatedInOrder guildId done h := by
  simp [CreatedInOrder, none]

/-- The invariant of the whole run: the creations so far are made in order for
entries of `done`, and the role map the exchanges returned is `roleIds`. -/
def RunInv (guildId : String) (done : List Entry) (roleIds : Dict Json) (h : List Exchange) :
    Prop :=
  CreatedInOrder guildId done h ∧ returnedRoleIds h = roleIds

variable {done : List Entry}

theorem RunInv.mono {done' : List Entry} {roleIds : Dict Json} {h : List Exchange}
    (inv : RunInv guildId done roleIds h) (sub : done.Sublist done') : RunInv guildId done' roleIds h :=
  ⟨inv.1.mono sub, inv.2⟩

/-- A creation for `entry` extends the entries walked by `entry`. -/
theorem RunInv.create {roleIds : Dict Json} {h : List Exchange} (inv : RunInv guildId done roleIds h)
    {payload : ChannelPayload} {entry : Entry} (carries : CarriesFullOverwrites guildId roleIds payload entry)
    (g : String) (a : Answer (Option Json)) :
    RunInv guildId (done ++ [entry]) roleIds (h ++ [⟨⟨.post, .guildChannels g, some (.channel payload)⟩, a⟩]) := by
  obtain ⟨⟨made, within, matched⟩, roled⟩ := inv
  refine ⟨⟨made ++ [entry], within.append (List.Sublist.refl _), ?_⟩, by simp [noteRole, roled]⟩
  rw [creations_snoc, roled]
  exact List.rel_append matched (.cons carries .nil)

/-- A request that creates neither a role nor a channel keeps the invariant. -/
theorem runInv_other {roleIds : Dict Json} {q : Request} (notRole : q.kind ≠ .createRole)
    (notChannel : q.kind ≠ .createChannel) {h : List Exchange} (a : Answer (Option Json))
    (inv : RunInv guildId done roleIds h) : RunInv guildId done roleIds (h ++ [⟨q, a⟩]) :=
  ⟨(createdInOrder_snoc_of_none (createdPayload?_of_ne notChannel)).mpr inv.1,
    by simp [noteRole_of_ne notRole, inv.2]⟩

/-- The keep condition of `Only.sat` for a stage of other kinds of request. -/
theorem keep_other {kinds : List Kind} (noRole : Kind.createRole ∉ kinds)
    (noChannel : Kind.createChannel ∉ kinds) (roleIds : Dict Json) :
    ∀ q h a h', KindIn kinds q → RunInv guildId done roleIds h →
      logs (fun _ => RoleIdsSet) q h a h' → RunInv guildId done roleIds h' := by
  rintro q h a h' within inv ⟨-, rfl⟩
  exact runInv_other (fun e => noRole (e ▸ within)) (fun e => noChannel (e ▸ within)) a inv

/-! ## Creating the roles -/

theorem IdsSet.insert {roleIds : Dict Json} (ids : IdsSet roleIds) (name : String) {v : Json}
    (set : v.truthy = true) : IdsSet (roleIds.insert name v) := by
  intro other w found
  by_cases same : name = other
  · subst same
    simp only [Dict.get?_insert_self, Option.some.injEq] at found
    exact found ▸ set
  · rw [Dict.get?_insert_of_ne _ _ same] at found
    exact ids other w found

/-- `create_roles` records exactly the ids the exchanges returned, all non-empty. -/
theorem createRoleEach_sat (roles : List RoleDef) :
    ∀ (s : ServerSetup) (h : List Exchange), s.Live → RunInv guildId done s.roleIds h →
      IdsSet s.roleIds →
      Sat (logs (fun _ => RoleIdsSet))
        (fun s' h' => RunInv guildId done s'.roleIds h' ∧ IdsSet s'.roleIds ∧ Keeps s s')
        (fun _ h' => CreatedInOrder guildId done h') (s.createRoleEach roles) h := by
  induction roles with
  | nil => exact fun s h _ inv ids => ⟨inv, ids, Keeps.refl s⟩
  | cons roleDef rest ih =>
      intro s h live inv ids
      simp only [createRoleEach, DiscordClient.post, DiscordClient.request_live _ live.2,
        call_bind, sat_call, pure_bind', sat_bind]
      set q : Request := ⟨.post, .guildRoles s.guildId, some (.role (rolePayload roleDef))⟩
      rintro a _ ⟨allowed, rfl⟩
      have isRole : q.kind = .createRole := rfl
      have logged : ∀ a, CreatedInOrder guildId done (h ++ [⟨q, a⟩]) :=
        fun _ => (createdInOrder_snoc_of_none (e := ⟨q, _⟩) rfl).mpr inv.1
      cases a with
      | raised => exact logged _
      | reply r =>
          have next : ∀ s' : ServerSetup, Keeps s s' → IdsSet s'.roleIds →
              returnedRoleIds (h ++ [⟨q, .reply r⟩]) = s'.roleIds →
              Sat (logs (fun _ => RoleIdsSet))
                (fun s'' h' => RunInv guildId done s''.roleIds h' ∧ IdsSet s''.roleIds ∧
                  Keeps s s'')
                (fun _ h' => CreatedInOrder guildId done h') (s'.createRoleEach rest)
                (h ++ [⟨q, .reply r⟩]) := fun s' keeps ids' same =>
            (ih s' _ (keeps.live live) ⟨logged _, same⟩ ids').mono
              (fun _ _ ⟨inv'', ids'', keeps''⟩ => ⟨inv'', ids'', keeps.trans keeps''⟩)
              fun _ _ => id
          rcases r with _ | result
          · exact next s (Keeps.refl s) ids (by simp [noteRole, inv.2])
          · by_cases set : result.truthy
            · rcases found : result.getD? "id" (.str "DRY_RUN_ID") with _ | id
              · simpa [recordRole, set, found] using logged _
              · have idSet : id.truthy = true :=
                  (Json.getD?_eq_some found).elim
                    (fun field => allowed isRole result id rfl field) fun ⟨_, dry⟩ => dry ▸ rfl
                simpa [recordRole, set, found] using
                  next { s with roleIds := s.roleIds.insert roleDef.name id } ⟨rfl, rfl, rfl⟩
                    (ids.insert _ idSet) (by simp [noteRole, set, found, inv.2, rolePayload])
            · simpa [recordRole, set] using
                next s (Keeps.refl s) ids (by simp [noteRole, set, inv.2])

theorem createRoles_sat {s : ServerSetup} (live : s.Live) (roles : List RoleDef)
    {h : List Exchange} (inv : RunInv guildId done s.roleIds h) (ids : IdsSet s.roleIds) :
    Sat (logs (fun _ => RoleIdsSet))
      (fun s' h' => RunInv guildId done s'.roleIds h' ∧ IdsSet s'.roleIds ∧ Keeps s s')
      (fun _ h' => CreatedInOrder guildId done h') (s.createRoles roles) h := by
  simp only [createRoles, sat_bind]
  refine (createRoleEach_sat roles s h live inv ids).mono
    (fun s' h' ⟨inv', ids', keeps⟩ => ?_) fun _ _ => id
  have live' := keeps.live live
  have done : ∀ a, RunInv guildId done s'.roleIds
      (h' ++ [⟨⟨.patch, .guildRoles s'.guildId,
        some (.positions (rolePositions s'.roleIds roles.length 0 roles))⟩, a⟩]) :=
    fun a => runInv_other (by simp [Request.kind]) (by simp [Request.kind]) a inv'
  split
  · split
    · simp only [DiscordClient.patch, DiscordClient.request_live _ live'.2, call_bind, sat_call]
      rintro a _ ⟨-, rfl⟩
      cases a with
      | raised => exact (done _).1
      | reply r => exact ⟨done _, ids', keeps⟩
    · exact ⟨inv', ids', keeps⟩
  · exact ⟨inv', ids', keeps⟩

/-! ## The required-role check -/

theorem validateRequiredRoles_sat {W : Type}
    {env : (q : Request) → W → Answer (Option Json) → W → Prop} {post : Unit → W → Prop}
    {stop : Halt → W → Prop} {s : ServerSetup} (live : s.Live) {w : W}
    (present : (∀ r ∈ requiredRoles, r ∈ s.roleIds.keys) → post () w)
    (exit : stop (.exit 1) w) : Sat env post stop s.validateRequiredRoles w := by
  unfold validateRequiredRoles
  dsimp only
  split
  · exact exit
  · rename_i passed
    exact present (by simpa [live.1, List.filter_eq_nil_iff] using passed)

/-! ## Creating the categories and channels -/

/-- A live setup of guild `guildId` with role map `roleIds`. -/
def Fixed (guildId : String) (roleIds : Dict Json) (s : ServerSetup) : Prop :=
  s.Live ∧ s.guildId = guildId ∧ s.roleIds = roleIds

theorem recordChannel_fixed {K : Request → Prop} {roleIds : Dict Json} {s : ServerSetup}
    (fixed : Fixed guildId roleIds s) (name : String) (result : Option Json) :
    Only K RaisedOnly (Fixed guildId roleIds) (s.recordChannel name result) := by
  rcases result with _ | result
  · exact fixed
  · by_cases set : result.truthy <;>
      simp [recordChannel, set, RaisedOnly, Fixed, Live, fixed.1.1, fixed.1.2, fixed.2.1, fixed.2.2]

theorem roleIdOf_truthy {roleIds : Dict Json} {name : String} (present : name ∈ roleIds.keys)
    (ids : IdsSet roleIds) : (roleIdOf roleIds name).truthy = true := by
  obtain ⟨v, found⟩ := Dict.get?_of_mem_keys present
  simp [roleIdOf, found, ids name v found]

section Channels

/- Past the required-role check, with the role map `roleIds` and the structure
`cats`. -/
variable {cats : List CategoryDef} (known : TemplatesKnown cats) (guildSet : guildId ≠ "")
  {roleIds : Dict Json} (present : ∀ r ∈ requiredRoles, r ∈ roleIds.keys) (ids : IdsSet roleIds)

include known guildSet present ids in
/-- A payload compiled from the template a declared entry declares carries the
full list of the entry. -/
theorem carries_of_built {entry : Entry} (declared : entry ∈ entries cats) {payload : ChannelPayload}
    (named : payload.name = entry.name)
    (built : payload.permissionOverwrites = buildOverwrites guildId roleIds entry.template) :
    CarriesFullOverwrites guildId roleIds payload entry := by
  obtain ⟨t, found⟩ := Option.isSome_iff_exists.mp (known entry declared)
  refine ⟨named, t, found, ?_⟩
  rw [built, buildOverwrites_eq_templateOverwrites found guildSet fun r role =>
    roleIdOf_truthy (present r (Template.roles_subset_required found r role)) ids]

include known guildSet present ids in
/-- The inner loop creates the channels of `cat` in order, each for its own
entry. -/
theorem createChannelEach_sat (cat : CategoryDef) (catId : Json) (chs : List ChannelDef) :
    ∀ (s : ServerSetup) (h : List Exchange) (done : List Entry), Fixed guildId roleIds s →
      RunInv guildId done roleIds h → (done ++ chs.map (Entry.channel cat)).Sublist (entries cats) →
      Sat (logs (fun _ => RoleIdsSet))
        (fun s' h' => Fixed guildId roleIds s' ∧ RunInv guildId (done ++ chs.map (Entry.channel cat)) roleIds h')
        (fun _ h' => CreatedInOrder guildId (entries cats) h')
        (s.createChannelEach catId cat.effectiveTemplate chs) h := by
  induction chs with
  | nil => intro s h done fixed inv _; simpa using ⟨fixed, inv⟩
  | cons ch rest ih =>
      intro s h done fixed inv within
      have within₁ : (done ++ [Entry.channel cat ch] ++ rest.map (Entry.channel cat)).Sublist (entries cats) := by
        simpa using within
      have carries : CarriesFullOverwrites guildId roleIds (s.channelPayload catId cat.effectiveTemplate ch)
          (.channel cat ch) :=
        carries_of_built known guildSet present ids (within.subset (by simp)) rfl
          (by simp [channelPayload, overwrites, everyoneRoleId, fixed.2.1, fixed.2.2, Entry.template,
            ChannelDef.effectiveTemplate, CategoryDef.effectiveTemplate])
      simp only [createChannelEach, DiscordClient.post, DiscordClient.request_live _ fixed.1.2,
        call_bind, sat_call, sat_bind]
      rintro a _ ⟨-, rfl⟩
      have inv₁ := inv.create carries s.guildId a
      cases a with
      | raised => exact inv₁.1.mono ((List.sublist_append_left _ _).trans within₁)
      | reply r =>
          refine ((recordChannel_fixed (K := fun _ => False) fixed ch.name r).sat _ rfl
            (fun _ _ _ _ no => no.elim) inv₁).mono (fun s₁ h₁ ⟨fixed₁, inv₂⟩ => ?_)
            fun _ _ ⟨_, inv₂⟩ => inv₂.1.mono ((List.sublist_append_left _ _).trans within₁)
          exact (ih s₁ h₁ _ fixed₁ inv₂ within₁).mono
            (fun _ _ ⟨fixed₂, inv₃⟩ => ⟨fixed₂, by simpa using inv₃⟩) fun _ _ => id

include known guildSet present ids in
/-- The outer loop creates each category of `todo` and, when its reply yields an
id, its channels, in order, each for its own entry. -/
theorem createCategoryEach_sat (todo : List CategoryDef) :
    ∀ (s : ServerSetup) (h : List Exchange) (done : List Entry), Fixed guildId roleIds s →
      RunInv guildId done roleIds h → (done ++ entries todo).Sublist (entries cats) →
      Sat (logs (fun _ => RoleIdsSet))
        (fun s' h' => Fixed guildId roleIds s' ∧ RunInv guildId (done ++ entries todo) roleIds h')
        (fun _ h' => CreatedInOrder guildId (entries cats) h')
        (s.createCategoryEach todo) h := by
  induction todo with
  | nil => intro s h done fixed inv _; simpa [entries] using ⟨fixed, inv⟩
  | cons cat rest ih =>
      intro s h done fixed inv within
      have carries : CarriesFullOverwrites guildId roleIds (s.categoryPayload cat) (.category cat) :=
        carries_of_built known guildSet present ids (within.subset (by simp)) rfl
          (by simp [categoryPayload, overwrites, everyoneRoleId, fixed.2.1, fixed.2.2, Entry.template,
            CategoryDef.effectiveTemplate])
      have started : (done ++ [Entry.category cat]).Sublist (entries cats) :=
        (List.sublist_append_left _ _).trans (by simpa using within)
      simp only [createCategoryEach, DiscordClient.post, DiscordClient.request_live _ fixed.1.2,
        call_bind, sat_call, sat_bind]
      rintro a _ ⟨-, rfl⟩
      have inv₁ := inv.create carries s.guildId a
      cases a with
      | raised => exact inv₁.1.mono started
      | reply r =>
          refine ((categoryId_only (K := fun _ => False) r).sat _ rfl (fun _ _ _ _ no => no.elim) inv₁).mono
            (fun catId h₁ ⟨_, inv₂⟩ => ?_) fun _ _ ⟨_, inv₂⟩ => inv₂.1.mono started
          -- the categories after this one, from the end of its subtree
          have later : ∀ s₁ h₂, Fixed guildId roleIds s₁ →
              RunInv guildId (done ++ [Entry.category cat] ++ cat.channels.map (Entry.channel cat)) roleIds h₂ →
              Sat (logs (fun _ => RoleIdsSet))
                (fun s₂ h₃ => Fixed guildId roleIds s₂ ∧
                  RunInv guildId (done ++ entries (cat :: rest)) roleIds h₃)
                (fun _ h₃ => CreatedInOrder guildId (entries cats) h₃) (s₁.createCategoryEach rest) h₂ :=
            fun s₁ h₂ fixed₁ inv₃ => (ih s₁ h₂ _ fixed₁ inv₃ (by simpa using within)).mono
              (fun _ _ ⟨fixed₂, inv₄⟩ => ⟨fixed₂, by simpa using inv₄⟩) fun _ _ => id
          have skipped := later s h₁ fixed (inv₂.mono (List.sublist_append_left _ _))
          rcases catId with _ | cid
          · exact skipped
          · by_cases set : cid.truthy
            · simp only [set, ite_true, sat_bind]
              exact (createChannelEach_sat known guildSet present ids cat cid cat.channels s h₁ _ fixed inv₂
                ((List.sublist_append_left _ (entries rest)).trans (by simpa using within))).mono
                (fun s₁ h₂ ⟨fixed₁, inv₃⟩ => later s₁ h₂ fixed₁ inv₃) fun _ _ => id
            · simpa [set] using skipped

end Channels

/-! ## The whole run -/

theorem run_sat {catalog : Catalog} (known : TemplatesKnown catalog.serverStructure)
    (guildSet : guildId ≠ "") {s : ServerSetup} (live : s.Live) (guild : s.guildId = guildId)
    (fresh : s.roleIds = []) :
    Sat (logs (fun _ => RoleIdsSet)) (fun _ h => CreatedInOrder guildId (entries catalog.serverStructure) h)
      (fun _ h => CreatedInOrder guildId (entries catalog.serverStructure) h) (s.run catalog) [] := by
  have begun : ∀ {h}, CreatedInOrder guildId [] h → CreatedInOrder guildId (entries catalog.serverStructure) h :=
    fun created => created.mono (List.nil_sublist _)
  simp only [run, provision, createChannels, sat_bind]
  refine ((deleteDefaultChannels_only live).sat (RunInv guildId [] []) rfl
    (keep_other (by decide) (by decide) []) (w := []) ⟨⟨[], .slnil, .nil⟩, rfl⟩).mono
    (fun _ h inv => ?_) fun _ _ inv => begun inv.2.1
  refine (createRoles_sat live catalog.roles (by rw [fresh]; exact inv.2)
    (by rw [fresh]; exact fun _ _ none => by simp at none)).mono
    (fun s₁ h₁ ⟨inv₁, ids, keeps⟩ => ?_) fun _ _ => begun
  have live₁ := keeps.live live
  refine validateRequiredRoles_sat live₁ (fun present => ?_) (begun inv₁.1)
  refine (createCategoryEach_sat known guildSet present ids catalog.serverStructure s₁ h₁ []
    ⟨live₁, keeps.2.1.trans guild, rfl⟩ inv₁ (by simp)).mono
    (fun _ _ ⟨fixed, inv₂⟩ => ?_) fun _ _ => id
  exact ((pinMessages_only fixed.1 catalog).sat (RunInv guildId (entries catalog.serverStructure) s₁.roleIds)
    rfl (keep_other (by decide) (by decide) _) (by simpa using inv₂)).mono (fun _ _ inv => inv.2.1)
    fun _ _ inv => inv.2.1

/-- In a live run whose declared templates are the four known ones, whose guild
id is non-empty and whose server returns non-empty role ids, the category and
channel creations are made in order for entries of `SERVER_STRUCTURE`, one
entry each.  Each carries its entry's name and the full record list of the
template the entry declares, with the role ids returned before it. -/
theorem run_creations_carry_full_overwrites (token guildId : String) (catalog : Catalog)
    (server : Server) (guildSet : guildId ≠ "") (known : TemplatesKnown catalog.serverStructure)
    (idsSet : ∀ h q, RoleIdsSet q (server h q)) :
    CreatedInOrder guildId (entries catalog.serverStructure) (liveRun token guildId catalog server).2 := by
  have ends := Sat.exec (oracle_allowed idsSet)
    (run_sat known guildSet (s := new ⟨token, false⟩ guildId) ⟨rfl, rfl⟩ rfl rfl)
  unfold liveRun
  revert ends
  rcases ((new ⟨token, false⟩ guildId).run catalog).exec (oracle server) [] with ⟨_ | _, _⟩ <;>
    exact id

/-- `run_creations_carry_full_overwrites` for the run of
`run_placeholder_mutates_first`. -/
theorem run_creations_carry_full_overwrites_listing :
    "g" ≠ "" ∧ TemplatesKnown placeholderCatalog.serverStructure ∧
      (∀ h q, RoleIdsSet q (listingServer h q)) ∧
      CreatedInOrder "g" (entries placeholderCatalog.serverStructure)
        (liveRun "token" "g" placeholderCatalog listingServer).2 := by
  have known : TemplatesKnown placeholderCatalog.serverStructure := by
    unfold TemplatesKnown placeholderCatalog
    decide
  have ids : ∀ h q, RoleIdsSet q (listingServer h q) := by
    intro h q isRole result v answered field
    simp only [listingServer, Answer.reply.injEq, Option.some.injEq] at answered
    split at answered
    next listing => exact absurd (isRole.symm.trans listing) (by decide)
    next =>
      subst answered
      simp only [Json.field?_obj, Dict.get?_cons, if_pos, Option.some.injEq] at field
      simp [← field]
  exact ⟨by decide, known, ids,
    run_creations_carry_full_overwrites "token" "g" placeholderCatalog listingServer (by decide)
      known ids⟩

end ServerSetup
end Discord
end Rill
