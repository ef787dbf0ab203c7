import Rill.Discord.Guild
import Rill.Discord.PinTrace

/-!
# A live provisioning run against Discord

`ServerSetup.run` in live mode against the Discord of `Rill.Discord.Guild`,
stage by stage.  Each stage's lemma gives the guild and the setup it leaves:
the reset deletes every listed channel, the roles are created in `ROLES` order
and then placed by the reorder, every category and channel of the structure is
created in order with each channel under its category, and every message of the
pin map goes to its channel and is pinned.  The run's theorem puts them
together: the guild the run leaves is the one the catalog declares.  Read back
at the level of the catalog, the channels are laid out as `SERVER_STRUCTURE`
declares them (`LaidOut`) and the roles of `ROLES` sit at positions `n - i`,
whether or not the pin stage stops at a placeholder.
-/

namespace Rill
namespace Discord
namespace ServerSetup

open Prog Guild

variable {s : ServerSetup}

/-! ## The reset -/

theorem deleteEach_exec (live : s.Live) (listed : List Channel) (G : Guild) :
    (s.deleteEach (listed.map channelJson)).exec (step s.guildId) G =
      (.ok (), { G with channels := G.channels.filter fun c => c.id ∉ listed.map Channel.id }) := by
  induction listed generalizing G with
  | nil => simp [deleteEach]
  | cons c rest ih =>
      obtain ⟨r, stepped⟩ := step_delete s.guildId c.id G
      simp only [List.map_cons, deleteEach, getD?_channelJson, ofOption_some, pure_bind', live.1,
        Bool.false_eq_true, if_false, DiscordClient.delete, DiscordClient.request_live _ live.2,
        call_bind]
      rw [exec_call, stepped]
      simp only [pure_bind']
      rw [ih]
      simp only [List.filter_filter, List.map_cons]
      congr 2
      exact List.filter_congr fun a _ => by by_cases h : a.id = c.id <;> simp [h]

/-- The reset deletes every channel of the guild. -/
theorem deleteDefaultChannels_exec (live : s.Live) (G : Guild) :
    s.deleteDefaultChannels.exec (step s.guildId) G = (.ok (), { G with channels := [] }) := by
  simp only [deleteDefaultChannels, DiscordClient.get, DiscordClient.request_live _ live.2,
    call_bind, pure_bind']
  rw [exec_call]
  simp only [step, if_true, Json.truthy_arr, Json.asList?_arr, Option.getD_some]
  split_ifs with listed
  · rw [deleteEach_exec live, List.filter_eq_nil_iff.mpr fun c mem => by simpa using ⟨c, mem, rfl⟩]
  · obtain ⟨channels, roles, posts, pins, nextId⟩ := G
    simp_all

/-! ## The roles -/

/-- Recording one of a list of distinct, unrecorded names leaves the others
unrecorded. -/
theorem not_mem_keys_append {α : Type} (name : α → String) {x : α} {rest : List α}
    {d : Dict Json} (v : Json) (fresh : ∀ y ∈ x :: rest, name y ∉ d.keys)
    (notRest : name x ∉ rest.map name) : ∀ y ∈ rest, name y ∉ (d ++ [(name x, v)]).keys := by
  intro y mem
  simp only [Dict.keys_append, List.mem_append, not_or]
  refine ⟨fresh y (.tail _ mem), fun recorded => ?_⟩
  have same : name y = name x := by simpa [Dict.keys] using recorded
  exact notRest (same ▸ List.mem_map_of_mem name mem)

/-- The role map a run builds: each name of `ROLES` with the id of its role,
ids from `n` on. -/
def roleEntries (n : Nat) : List RoleDef → Dict Json
  | [] => []
  | r :: rest => (r.name, .num n) :: roleEntries (n + 1) rest

/-- The roles of `ROLES` as Discord creates them, ids from `n` on. -/
def createdRoles (n : Nat) : List RoleDef → List Role
  | [] => []
  | r :: rest => ⟨n, rolePayload r, 1⟩ :: createdRoles (n + 1) rest

theorem keys_roleEntries (n : Nat) (roles : List RoleDef) :
    (roleEntries n roles).keys = roles.map RoleDef.name := by
  induction roles generalizing n with
  | nil => rfl
  | cons r rest ih => simp [roleEntries, Dict.keys, ← ih (n + 1)]

theorem createRoleEach_exec (roles : List RoleDef) (distinct : (roles.map RoleDef.name).Nodup) :
    ∀ (s : ServerSetup) (G : Guild), s.Live → (∀ r ∈ roles, r.name ∉ s.roleIds.keys) →
      (s.createRoleEach roles).exec (step s.guildId) G =
        (.ok { s with roleIds := s.roleIds ++ roleEntries G.nextId roles },
          { G with roles := G.roles ++ createdRoles G.nextId roles,
                   nextId := G.nextId + roles.length }) := by
  induction roles with
  | nil => intro s G _ _; simp [createRoleEach, roleEntries, createdRoles]
  | cons r rest ih =>
      intro s G live fresh
      obtain ⟨notRest, distinct'⟩ := List.nodup_cons.mp distinct
      simp only [createRoleEach, DiscordClient.post, DiscordClient.request_live _ live.2, call_bind,
        pure_bind']
      rw [exec_call, step_createRole]
      simp only [recordRole, truthy_roleJson, if_true, getD?_roleJson, ofOption_some, pure_bind',
        pure_bind'', Dict.insert_of_not_mem_keys _ _ (fresh r (.head _))]
      rw [ih distinct' { s with roleIds := s.roleIds ++ [(r.name, .num G.nextId)] } _ live
        (not_mem_keys_append RoleDef.name _ fresh notRest)]
      simp [roleEntries, createdRoles, Nat.add_assoc, Nat.add_comm 1]

/-- The reorder entries a run sends: the role created with id `n + i` at
position `total - (idx + i)`. -/
def positionsFrom (n total idx : Nat) : List RoleDef → List Position
  | [] => []
  | _ :: rest => ⟨.num n, total - idx⟩ :: positionsFrom (n + 1) total (idx + 1) rest

/-- The roles of `ROLES` after the reorder: ids from `n` on, the one at index
`idx` at position `total - idx`. -/
def placedRoles (n total idx : Nat) : List RoleDef → List Role
  | [] => []
  | r :: rest => ⟨n, rolePayload r, total - idx⟩ :: placedRoles (n + 1) total (idx + 1) rest

theorem rolePositions_roleEntries (total : Nat) (roles : List RoleDef)
    (distinct : (roles.map RoleDef.name).Nodup) :
    ∀ (pre : Dict Json) (n idx : Nat), 0 < n → (∀ r ∈ roles, r.name ∉ pre.keys) →
      rolePositions (pre ++ roleEntries n roles) total idx roles = positionsFrom n total idx roles := by
  induction roles with
  | nil => intros; rfl
  | cons r rest ih =>
      intro pre n idx positive fresh
      obtain ⟨notRest, distinct'⟩ := List.nodup_cons.mp distinct
      have found : (pre ++ roleEntries n (r :: rest)).get? r.name = some (.num n) := by
        rw [Dict.get?_append_of_not_mem (fresh r (.head _))]
        simp [roleEntries, Dict.get?_cons]
      have split : pre ++ roleEntries n (r :: rest) =
          (pre ++ [(r.name, .num n)]) ++ roleEntries (n + 1) rest := by simp [roleEntries]
      rw [rolePositions, found]
      simp only [Json.truthy_num, ne_eq, Nat.cast_eq_zero, positive.ne', not_false_eq_true,
        decide_True, if_true, positionsFrom]
      rw [split, ih distinct' _ _ _ (Nat.succ_pos n) (not_mem_keys_append RoleDef.name _ fresh notRest)]

theorem find?_positionsFrom_of_lt {m n : Nat} (lt : m < n) (total idx : Nat) (roles : List RoleDef) :
    (positionsFrom n total idx roles).find? (fun e => e.id = .num m) = none := by
  induction roles generalizing n idx with
  | nil => rfl
  | cons r rest ih =>
      simp [positionsFrom, lt.ne', ih (Nat.lt_succ_of_lt lt)]

/-- The reorder puts each created role at its place. -/
theorem createdRoles_reposition (total : Nat) (roles : List RoleDef) :
    ∀ (pre : List Position) (n idx : Nat), (∀ e ∈ pre, ∃ m < n, e.id = .num m) →
      (createdRoles n roles).map (reposition (pre ++ positionsFrom n total idx roles)) =
        placedRoles n total idx roles := by
  induction roles with
  | nil => intros; rfl
  | cons r rest ih =>
      intro pre n idx below
      have skipped : pre.find? (fun e => e.id = .num n) = none :=
        List.find?_eq_none.mpr fun e mem => by
          obtain ⟨m, lt, same⟩ := below e mem
          simpa [same] using lt.ne
      have split : pre ++ positionsFrom n total idx (r :: rest) =
          (pre ++ [⟨.num n, total - idx⟩]) ++ positionsFrom (n + 1) total (idx + 1) rest := by
        simp [positionsFrom]
      simp only [createdRoles, List.map_cons, placedRoles]
      congr 1
      · simp [reposition, positionsFrom, List.find?_append, skipped]
      · rw [split, ih]
        intro e mem
        rcases List.mem_append.mp mem with old | new
        · obtain ⟨m, lt, same⟩ := below e old
          exact ⟨m, Nat.lt_succ_of_lt lt, same⟩
        · exact ⟨n, Nat.lt_succ_self n, by simp_all⟩

/-- The roles the guild had are not moved: their ids are below every new one. -/
theorem reposition_old {roles : List Role} {n : Nat} (below : ∀ r ∈ roles, r.id < n)
    (total idx : Nat) (defs : List RoleDef) :
    roles.map (reposition (positionsFrom n total idx defs)) = roles := by
  conv_rhs => rw [← List.map_id roles]
  exact List.map_congr_left fun r mem => by
    simp [reposition, find?_positionsFrom_of_lt (below r mem)]

/-- `create_roles` on a setup with no roles yet: each role of `ROLES` is created
and then placed, the first highest; the roles the guild had stay where they
were. -/
theorem createRoles_exec (live : s.Live) (empty : s.roleIds = []) (roles : List RoleDef)
    (distinct : (roles.map RoleDef.name).Nodup) {G : Guild} (fresh : G.Fresh) :
    (s.createRoles roles).exec (step s.guildId) G =
      (.ok { s with roleIds := roleEntries G.nextId roles },
        { G with roles := G.roles ++ placedRoles G.nextId roles.length 0 roles,
                 nextId := G.nextId + roles.length }) := by
  rw [createRoles, exec_bind_of_ok (createRoleEach_exec roles distinct s G live (by simp [empty, Dict.keys]))]
  cases roles with
  | nil => simp [empty, roleEntries, createdRoles, placedRoles]
  | cons r rest =>
      have positions := rolePositions_roleEntries (r :: rest).length (r :: rest) distinct [] G.nextId 0
        fresh.positive (by simp [Dict.keys])
      simp only [List.nil_append, empty] at positions
      have named : (roleEntries G.nextId (r :: rest)).isEmpty = false := rfl
      have placed : (positionsFrom G.nextId (r :: rest).length 0 (r :: rest)).isEmpty = false := rfl
      simp only [empty, List.nil_append, live.1, Bool.not_false, Bool.true_and, named, if_true,
        positions, placed, DiscordClient.patch, DiscordClient.request_live _ live.2, call_bind,
        pure_bind', pure_bind'']
      rw [exec_call, step_reorder, List.map_append, reposition_old fresh.roles,
        ← List.nil_append (positionsFrom _ _ _ _), createdRoles_reposition _ _ [] _ _ (by simp)]
      rfl

/-! ## The categories and channels -/

/-- The channels of one category as a run creates them, ids from `n` on, each
under the category of id `catId`. -/
def channelsUnder (s : ServerSetup) (catId : Nat) (catTemplate : String) (n : Nat) :
    List ChannelDef → List Channel
  | [] => []
  | ch :: rest =>
      ⟨n, s.channelPayload (.num catId) catTemplate ch⟩ :: channelsUnder s catId catTemplate (n + 1) rest

/-- The channel map entries of those channels. -/
def channelEntries (n : Nat) : List ChannelDef → Dict Json
  | [] => []
  | ch :: rest => (ch.name, .num n) :: channelEntries (n + 1) rest

/-- The structure as a run creates it, ids from `n` on: each category, then its
channels under it. -/
def layout (s : ServerSetup) (n : Nat) : List CategoryDef → List Channel
  | [] => []
  | cat :: rest =>
      ⟨n, s.categoryPayload cat⟩ :: channelsUnder s n cat.effectiveTemplate (n + 1) cat.channels ++
        layout s (n + 1 + cat.channels.length) rest

/-- The channel map a run builds from the structure. -/
def layoutEntries (n : Nat) : List CategoryDef → Dict Json
  | [] => []
  | cat :: rest =>
      channelEntries (n + 1) cat.channels ++ layoutEntries (n + 1 + cat.channels.length) rest

/-- The payloads do not read the channel map. -/
@[simp] theorem channelsUnder_channelIds (s : ServerSetup) (ids : Dict Json) (catId : Nat)
    (catTemplate : String) (n : Nat) (chs : List ChannelDef) :
    channelsUnder { s with channelIds := ids } catId catTemplate n chs =
      channelsUnder s catId catTemplate n chs := by
  induction chs generalizing n <;> simp [channelsUnder, channelPayload, overwrites, everyoneRoleId, *]

@[simp] theorem layout_channelIds (s : ServerSetup) (ids : Dict Json) (n : Nat)
    (cats : List CategoryDef) : layout { s with channelIds := ids } n cats = layout s n cats := by
  induction cats generalizing n <;> simp [layout, categoryPayload, overwrites, everyoneRoleId, *]

@[simp] theorem length_channelsUnder (s : ServerSetup) (catId : Nat) (catTemplate : String)
    (n : Nat) (chs : List ChannelDef) : (channelsUnder s catId catTemplate n chs).length = chs.length := by
  induction chs generalizing n <;> simp [channelsUnder, *]

theorem keys_channelEntries (n : Nat) (chs : List ChannelDef) :
    (channelEntries n chs).keys = chs.map ChannelDef.name := by
  induction chs generalizing n with
  | nil => rfl
  | cons ch rest ih => simp [channelEntries, Dict.keys, ← ih (n + 1)]

/-- The channels of a category take consecutive ids. -/
theorem map_id_channelsUnder (s : ServerSetup) (catId : Nat) (catTemplate : String)
    (n : Nat) (chs : List ChannelDef) :
    (channelsUnder s catId catTemplate n chs).map Channel.id = List.range' n chs.length := by
  induction chs generalizing n with
  | nil => rfl
  | cons ch rest ih => simp [channelsUnder, ih, List.range'_succ]

theorem ids_channelsUnder {s : ServerSetup} {catId : Nat} {catTemplate : String}
    {n : Nat} {chs : List ChannelDef} {c : Channel} (mem : c ∈ channelsUnder s catId catTemplate n chs) :
    n ≤ c.id ∧ c.id < n + chs.length := by
  simpa [map_id_channelsUnder] using List.mem_map_of_mem Channel.id mem

/-- One category's channels, each created under it with the next id. -/
theorem createChannelEach_exec (catId : Nat) (catTemplate : String) (chs : List ChannelDef)
    (distinct : (chs.map ChannelDef.name).Nodup) :
    ∀ (s : ServerSetup) (G : Guild), s.Live → (∀ ch ∈ chs, ch.name ∉ s.channelIds.keys) →
      ∀ {cat : Channel}, G.channel? (.num catId) = some cat → cat.payload.type = chCategory →
      (s.createChannelEach (.num catId) catTemplate chs).exec (step s.guildId) G =
        (.ok { s with channelIds := s.channelIds ++ channelEntries G.nextId chs },
          { G with channels := G.channels ++ channelsUnder s catId catTemplate G.nextId chs,
                   nextId := G.nextId + chs.length }) := by
  induction chs with
  | nil => intro s G _ _ _ _ _; simp [createChannelEach, channelEntries, channelsUnder]
  | cons ch rest ih =>
      intro s G live fresh cat found category
      obtain ⟨notRest, distinct'⟩ := List.nodup_cons.mp distinct
      simp only [createChannelEach, DiscordClient.post, DiscordClient.request_live _ live.2, call_bind,
        pure_bind']
      rw [exec_call, step_createChannel _ _ (parentOk_of_category rfl found category)]
      simp only [recordChannel, truthy_channelJson, if_true, getD?_channelJson, ofOption_some,
        pure_bind', pure_bind'', Dict.insert_of_not_mem_keys _ _ (fresh ch (.head _))]
      rw [ih distinct' { s with channelIds := s.channelIds ++ [(ch.name, .num G.nextId)] }
        { G with channels := G.channels ++ [⟨G.nextId, _⟩], nextId := G.nextId + 1 } live
        (not_mem_keys_append ChannelDef.name _ fresh notRest) (channel?_append found rfl) category]
      simp [channelEntries, channelsUnder, Nat.add_assoc, Nat.add_comm 1]

theorem length_layout (s : ServerSetup) (n : Nat) (cat : CategoryDef) (rest : List CategoryDef) :
    (layout s n (cat :: rest)).length =
      1 + cat.channels.length + (layout s (n + 1 + cat.channels.length) rest).length := by
  simp [layout]
  omega

/-- The categories of the structure, each followed by its channels under it;
each creation takes the next id. -/
theorem createCategoryEach_exec (cats : List CategoryDef) (distinct : (channelNames cats).Nodup) :
    ∀ (s : ServerSetup) (G : Guild), s.Live → (∀ name ∈ channelNames cats, name ∉ s.channelIds.keys) →
      0 < G.nextId → (∀ c ∈ G.channels, c.id < G.nextId) →
      (s.createCategoryEach cats).exec (step s.guildId) G =
        (.ok { s with channelIds := s.channelIds ++ layoutEntries G.nextId cats },
          { G with channels := G.channels ++ layout s G.nextId cats,
                   nextId := G.nextId + (layout s G.nextId cats).length }) := by
  induction cats with
  | nil => intro s G _ _ _ _; simp [createCategoryEach, layoutEntries, layout]
  | cons cat rest ih =>
      intro s G live fresh positive below
      rw [channelNames_cons, List.nodup_append] at distinct
      simp only [channelNames_cons, List.mem_append] at fresh
      let G₁ : Guild := { G with channels := G.channels ++ [⟨G.nextId, s.categoryPayload cat⟩],
                                 nextId := G.nextId + 1 }
      have opened : G₁.channel? (.num G.nextId) = some ⟨G.nextId, s.categoryPayload cat⟩ :=
        channel?_new below _
      simp only [createCategoryEach, DiscordClient.post, DiscordClient.request_live _ live.2, call_bind,
        pure_bind']
      rw [exec_call, step_createChannel _ _ (by simp [parentOk, categoryPayload])]
      simp only [categoryId, truthy_channelJson, if_true, getD?_channelJson, ofOption_some,
        map_eq_bind, pure_bind', pure_bind'', Json.truthy_num, ne_eq, Nat.cast_eq_zero,
        positive.ne', not_false_eq_true, decide_True]
      rw [exec_bind_of_ok (createChannelEach_exec G.nextId cat.effectiveTemplate cat.channels
        distinct.1 s G₁ live (fun ch mem => fresh _ (.inl (List.mem_map_of_mem _ mem))) opened rfl)]
      rw [ih distinct.2.1 { s with channelIds := s.channelIds ++ channelEntries (G.nextId + 1) cat.channels }
        { G₁ with channels := G₁.channels ++ channelsUnder s G.nextId cat.effectiveTemplate (G.nextId + 1) cat.channels,
                  nextId := G.nextId + 1 + cat.channels.length }
        live (fun name mem => ?_) (Nat.succ_pos _ |>.trans_le (Nat.le_add_right _ _)) (fun c mem => ?_)]
      · rw [length_layout]
        simp only [layoutEntries, layout, List.append_assoc, List.cons_append, List.singleton_append,
          layout_channelIds]
        congr 2
        omega
      · simp only [Dict.keys_append, List.mem_append, not_or, keys_channelEntries]
        exact ⟨fresh name (.inr mem), fun here => distinct.2.2 here mem⟩
      · dsimp only [G₁] at mem ⊢
        simp only [List.mem_append, List.mem_singleton] at mem
        rcases mem with (old | rfl) | new
        · have := below c old
          omega
        · dsimp only
          omega
        · have := ids_channelsUnder new
          omega

/-- The structure takes consecutive ids, so no two of its channels share one. -/
theorem map_id_layout (s : ServerSetup) (n : Nat) (cats : List CategoryDef) :
    (layout s n cats).map Channel.id = List.range' n (layout s n cats).length := by
  induction cats generalizing n with
  | nil => rfl
  | cons cat rest ih =>
      rw [length_layout, show ∀ a b, 1 + a + b = b + a + 1 from fun _ _ => by omega, List.range'_succ]
      simp only [layout, List.map_cons, List.map_append, map_id_channelsUnder, ih, List.cons_append,
        List.range'_append_1]

theorem names_channelsUnder (s : ServerSetup) (catId : Nat) (catTemplate : String) (n : Nat)
    (chs : List ChannelDef) :
    (channelsUnder s catId catTemplate n chs).map (·.payload.name) = chs.map ChannelDef.name := by
  induction chs generalizing n <;> simp [channelsUnder, channelPayload, *]

/-- The layout names its channels as the structure does, category by category. -/
theorem names_layout (s : ServerSetup) (n : Nat) (cats : List CategoryDef) :
    (layout s n cats).map (·.payload.name) =
      cats.flatMap fun cat => cat.category :: cat.channels.map ChannelDef.name := by
  induction cats generalizing n <;> simp [layout, categoryPayload, names_channelsUnder, *]

/-- Each category of the structure is a channel of the layout. -/
theorem category_mem_layout (s : ServerSetup) {cat : CategoryDef} {cats : List CategoryDef}
    (mem : cat ∈ cats) (n : Nat) : ∃ c ∈ layout s n cats, c.payload = s.categoryPayload cat := by
  induction cats generalizing n with
  | nil => cases mem
  | cons d rest ih =>
      rcases List.mem_cons.mp mem with rfl | later
      · exact ⟨_, .head _, rfl⟩
      · obtain ⟨c, cMem, payload⟩ := ih later _
        exact ⟨c, List.mem_append_right _ cMem, payload⟩

/-! ## The role check -/

/-- With every required role among the created ones, the check passes. -/
theorem validateRequiredRoles_created (s : ServerSetup) (n : Nat) (roles : List RoleDef)
    (declared : ∀ r ∈ requiredRoles, r ∈ roles.map RoleDef.name) :
    ({ s with roleIds := roleEntries n roles } : ServerSetup).validateRequiredRoles = pure () := by
  have none_missing : requiredRoles.filter (fun r => r ∉ roles.map RoleDef.name) = [] :=
    List.filter_eq_nil_iff.mpr fun r mem => by simpa using declared r mem
  simp only [validateRequiredRoles, keys_roleEntries, none_missing, List.isEmpty_nil, Bool.not_true,
    Bool.false_and, Bool.false_eq_true, if_false]
  rfl

/-! ## The pins -/

/-- The messages a run sends to the channel of id `chId`, ids from `n` on. -/
def postsIn (chId n : Nat) : List String → List Post
  | [] => []
  | m :: rest => ⟨n, chId, m⟩ :: postsIn chId (n + 1) rest

/-- The pins of messages, each in its own channel. -/
def pinsOf (posts : List Post) : List (Nat × Nat) := posts.map fun p => (p.channel, p.id)

@[simp] theorem length_postsIn (chId n : Nat) (msgs : List String) :
    (postsIn chId n msgs).length = msgs.length := by
  induction msgs generalizing n <;> simp [postsIn, *]

theorem map_id_postsIn (chId n : Nat) (msgs : List String) :
    (postsIn chId n msgs).map Post.id = List.range' n msgs.length := by
  induction msgs generalizing n with
  | nil => rfl
  | cons m rest ih => simp [postsIn, ih, List.range'_succ]

theorem ids_postsIn {chId n : Nat} {msgs : List String} {p : Post} (mem : p ∈ postsIn chId n msgs) :
    n ≤ p.id ∧ p.id < n + msgs.length := by
  simpa [map_id_postsIn] using List.mem_map_of_mem Post.id mem

@[simp] theorem pinsOf_append (posts posts' : List Post) :
    pinsOf (posts ++ posts') = pinsOf posts ++ pinsOf posts' := List.map_append _ _ _

/-- A channel that takes messages gets each one, pinned by the id the send
returned. -/
theorem pinEach_exec (live : s.Live) (c : Channel) (takes : takesMessages c = true)
    (msgs : List String) :
    ∀ G : Guild, G.channel? (.num c.id) = some c → 0 < G.nextId → (∀ p ∈ G.posts, p.id < G.nextId) →
      (s.pinEach (.num c.id) msgs).exec (step s.guildId) G =
        (.ok (), { G with posts := G.posts ++ postsIn c.id G.nextId msgs,
                          pins := G.pins ++ pinsOf (postsIn c.id G.nextId msgs),
                          nextId := G.nextId + msgs.length }) := by
  induction msgs with
  | nil => intro G _ _ _; simp [pinEach, postsIn, pinsOf]
  | cons m rest ih =>
      intro G found positive below
      let G₁ : Guild := { G with posts := G.posts ++ [⟨G.nextId, c.id, m⟩], nextId := G.nextId + 1 }
      have found₁ : G₁.channel? (.num c.id) = some c := found
      simp only [pinEach, live.1, Bool.false_eq_true, if_false, DiscordClient.post, DiscordClient.put,
        DiscordClient.request_live _ live.2, call_bind, pure_bind']
      rw [exec_call, step_message _ _ found takes]
      simp only [truthy_postJson, if_true, getD?_postJson, ofOption_some, pure_bind', Json.truthy_num,
        ne_eq, Nat.cast_eq_zero, positive.ne', not_false_eq_true, decide_True, call_bind]
      rw [exec_call, step_pin _ found₁ (post?_new below c m)]
      simp only [pure_bind']
      rw [ih { G₁ with pins := G.pins ++ [(c.id, G.nextId)] } found (Nat.succ_pos _) fun p mem => ?_]
      · simp [postsIn, pinsOf, Nat.add_assoc, Nat.add_comm 1]
      · simp only [G₁, List.mem_append, List.mem_singleton] at mem
        rcases mem with old | rfl
        · exact Nat.lt_succ_of_lt (below p old)
        · exact Nat.lt_succ_self _

/-- A category-typed channel refuses each message, and nothing is pinned. -/
theorem pinEach_refused (live : s.Live) (c : Channel) (refuses : takesMessages c = false)
    (msgs : List String) (G : Guild) (found : G.channel? (.num c.id) = some c) :
    (s.pinEach (.num c.id) msgs).exec (step s.guildId) G = (.ok (), G) := by
  induction msgs with
  | nil => rfl
  | cons m rest ih =>
      simp only [pinEach, live.1, Bool.false_eq_true, if_false, DiscordClient.post,
        DiscordClient.request_live _ live.2, call_bind]
      rw [exec_call, step_message_refused _ _ found refuses]
      exact ih

/-- The channel a pin-map name names among created channels: the first of that
name inside a category. -/
def pinTarget (chans : List Channel) (name : String) : Option Channel :=
  chans.find? fun c => c.payload.parentId.isSome ∧ c.payload.name = name

/-- The pin map's messages as Discord ends up holding them, ids from `n` on: the
messages of each entry whose channel takes them, in order. -/
def pinnedPosts (target : String → Option Channel) (n : Nat) : Dict (List String) → List Post
  | [] => []
  | (name, msgs) :: rest =>
      match target name with
      | some c =>
          if takesMessages c then postsIn c.id n msgs ++ pinnedPosts target (n + msgs.length) rest
          else pinnedPosts target n rest
      | none => pinnedPosts target n rest

/-- The pin loop, for a channel map and a structure that agree with the
channels of the guild: `target` gives each name's channel. -/
theorem pinChannels_exec (live : s.Live) (cats : List CategoryDef) (target : String → Option Channel)
    (recorded : ∀ name, s.channelIds.get? name = (target name).map fun c => .num c.id)
    (typed : ∀ name, channelType cats name = (target name).map (·.payload.type))
    (pinned : Dict (List String)) :
    ∀ G : Guild, (∀ name c, target name = some c → G.channel? (.num c.id) = some c ∧ 0 < c.id) →
      0 < G.nextId → (∀ p ∈ G.posts, p.id < G.nextId) →
      (s.pinChannels cats pinned).exec (step s.guildId) G =
        (.ok (), { G with posts := G.posts ++ pinnedPosts target G.nextId pinned,
                          pins := G.pins ++ pinsOf (pinnedPosts target G.nextId pinned),
                          nextId := G.nextId + (pinnedPosts target G.nextId pinned).length }) := by
  induction pinned with
  | nil => intro G _ _ _; simp [pinChannels, pinnedPosts, pinsOf]
  | cons entry rest ih =>
      obtain ⟨name, msgs⟩ := entry
      intro G targets positive below
      simp only [pinChannels, recorded name, typed name]
      cases aimed : target name with
      | none => simpa [pinnedPosts, aimed] using ih G targets positive below
      | some c =>
          obtain ⟨found, idPositive⟩ := targets name c aimed
          simp only [Option.map_some', Json.truthy_num, ne_eq, Nat.cast_eq_zero, idPositive.ne',
            not_false_eq_true, decide_True, if_true, Option.some.injEq]
          by_cases forum : c.payload.type = chForum
          · have refuses : takesMessages c = false := by simp [takesMessages, forum]
            simpa [forum, pinnedPosts, aimed, refuses] using ih G targets positive below
          cases takes : takesMessages c
          · rw [if_neg forum, exec_bind_of_ok (pinEach_refused live c takes msgs G found)]
            simpa [pinnedPosts, aimed, takes] using ih G targets positive below
          · rw [if_neg forum, exec_bind_of_ok (pinEach_exec live c takes msgs G found positive below)]
            rw [ih { G with posts := G.posts ++ postsIn c.id G.nextId msgs,
                            pins := G.pins ++ pinsOf (postsIn c.id G.nextId msgs),
                            nextId := G.nextId + msgs.length }
              targets (Nat.lt_of_lt_of_le positive (Nat.le_add_right _ _)) fun p mem => ?_]
            · simp [pinnedPosts, aimed, takes, Nat.add_assoc]
            · simp only [List.mem_append] at mem
              rcases mem with old | new
              · exact Nat.lt_of_lt_of_le (below p old) (Nat.le_add_right _ _)
              · exact (ids_postsIn new).2

/-! ## The channel map against the channels -/

theorem get?_channelEntries (s : ServerSetup) (catId : Nat) (catTemplate : String) (n : Nat)
    (chs : List ChannelDef) (name : String) :
    (channelEntries n chs).get? name =
      (pinTarget (channelsUnder s catId catTemplate n chs) name).map fun c => .num c.id := by
  induction chs generalizing n with
  | nil => rfl
  | cons ch rest ih =>
      rw [channelEntries, Dict.get?_cons, ih]
      by_cases named : ch.name = name <;> simp [named, channelsUnder, channelPayload, pinTarget]

/-- The channel map a run builds names, for each name, the channel that
`pinTarget` finds. -/
theorem get?_layoutEntries (s : ServerSetup) (n : Nat) (cats : List CategoryDef) (name : String) :
    (layoutEntries n cats).get? name = (pinTarget (layout s n cats) name).map fun c => .num c.id := by
  induction cats generalizing n with
  | nil => rfl
  | cons cat rest ih =>
      rw [layoutEntries, Dict.get?_append, get?_channelEntries s n cat.effectiveTemplate, ih]
      simp [layout, pinTarget, categoryPayload, List.find?_append, Option.map_or']

theorem type_pinTarget_channelsUnder (s : ServerSetup) (catId : Nat) (catTemplate : String) (n : Nat)
    (chs : List ChannelDef) (name : String) :
    (pinTarget (channelsUnder s catId catTemplate n chs) name).map (·.payload.type) =
      (chs.find? fun ch => ch.name = name).map ChannelDef.type := by
  induction chs generalizing n with
  | nil => rfl
  | cons ch rest ih =>
      by_cases named : ch.name = name
      · simp [named, channelsUnder, channelPayload, pinTarget]
      · simpa [named, channelsUnder, channelPayload, pinTarget] using ih (n + 1)

/-- The channel `pinTarget` finds has the type the structure declares. -/
theorem type_pinTarget (s : ServerSetup) (n : Nat) (cats : List CategoryDef) (name : String) :
    (pinTarget (layout s n cats) name).map (·.payload.type) = declaredType cats name := by
  induction cats generalizing n with
  | nil => rfl
  | cons cat rest ih =>
      rw [declaredType_cons, ← type_pinTarget_channelsUnder s n cat.effectiveTemplate (n + 1),
        ← ih (n + 1 + cat.channels.length)]
      simp [layout, pinTarget, categoryPayload, List.find?_append, Option.map_or']

/-! ## The whole run -/

/-- The guild a live run of `s` leaves from `G` before its pin stage: no channel
but those of the structure, each under its category, and the roles of `ROLES`
after the guild's own, placed by the reorder. -/
def built (s : ServerSetup) (catalog : Catalog) (G : Guild) : Guild :=
  let n := G.nextId + catalog.roles.length
  let chans := layout { s with roleIds := roleEntries G.nextId catalog.roles } n catalog.serverStructure
  { G with channels := chans,
           roles := G.roles ++ placedRoles G.nextId catalog.roles.length 0 catalog.roles,
           nextId := n + chans.length }

/-- The guild a live run of `s` leaves from `G`, as the catalog declares it: the
guild `built` gives, with the pin map's messages in the channels that take them,
each pinned. -/
def provisioned (s : ServerSetup) (catalog : Catalog) (G : Guild) : Guild :=
  let B := s.built catalog G
  let posts := pinnedPosts (pinTarget B.channels) B.nextId catalog.pinnedMessages
  { B with posts := B.posts ++ posts, pins := B.pins ++ pinsOf posts, nextId := B.nextId + posts.length }

theorem map_id_placedRoles (n total idx : Nat) (roles : List RoleDef) :
    (placedRoles n total idx roles).map Role.id = List.range' n roles.length := by
  induction roles generalizing n idx with
  | nil => rfl
  | cons r rest ih => simp [placedRoles, ih, List.range'_succ]

/-- A run from a guild whose ids are below its counter leaves one again. -/
theorem fresh_built (s : ServerSetup) (catalog : Catalog) {G : Guild} (fresh : G.Fresh) :
    (s.built catalog G).Fresh where
  positive := by
    have := fresh.positive
    simp only [built]
    omega
  roles r mem := by
    simp only [built, List.mem_append] at mem ⊢
    rcases mem with old | new
    · have := fresh.roles r old
      omega
    · have bounds := List.mem_map_of_mem Role.id new
      rw [map_id_placedRoles, List.mem_range'_1] at bounds
      omega
  posts p mem := by
    have := fresh.posts p mem
    simp only [built]
    omega

/-- The channels `built` gives take ids below its counter. -/
theorem channels_built (s : ServerSetup) (catalog : Catalog) (G : Guild) :
    ∀ c ∈ (s.built catalog G).channels,
      G.nextId + catalog.roles.length ≤ c.id ∧ c.id < (s.built catalog G).nextId := by
  intro c mem
  have bounds : c.id ∈ (layout _ (G.nextId + catalog.roles.length) catalog.serverStructure).map
      Channel.id := List.mem_map_of_mem Channel.id mem
  rw [map_id_layout, List.mem_range'_1] at bounds
  exact bounds

/-- The channels `built` gives have distinct ids. -/
theorem distinct_built (s : ServerSetup) (catalog : Catalog) (G : Guild) :
    ((s.built catalog G).channels.map Channel.id).Nodup := by
  simp only [built, map_id_layout]
  exact List.nodup_range' _ _

/-- The stages before the pins build the guild `built` gives, and leave the
setup the role map and the channel map of what they created. -/
theorem run_eq_pinMessages (live : s.Live) (emptyRoles : s.roleIds = [])
    (emptyChannels : s.channelIds = []) (catalog : Catalog) {G : Guild} (fresh : G.Fresh)
    (distinctRoles : (catalog.roles.map RoleDef.name).Nodup)
    (declared : ∀ r ∈ requiredRoles, r ∈ catalog.roles.map RoleDef.name)
    (distinctChannels : (channelNames catalog.serverStructure).Nodup) :
    (s.run catalog).exec (step s.guildId) G =
      ({ s with roleIds := roleEntries G.nextId catalog.roles,
                channelIds := s.channelIds ++ layoutEntries (G.nextId + catalog.roles.length)
                  catalog.serverStructure }.pinMessages catalog).exec
        (step s.guildId) (s.built catalog G) := by
  have reset : ({ G with channels := [] } : Guild).Fresh := ⟨fresh.positive, fresh.roles, fresh.posts⟩
  refine (exec_bind_of_ok (deleteDefaultChannels_exec live G)).trans ?_
  refine (exec_bind_of_ok (createRoles_exec live emptyRoles catalog.roles distinctRoles reset)).trans ?_
  simp only [validateRequiredRoles_created s _ _ declared, pure_bind', pure_bind'', createChannels]
  refine (exec_bind_of_ok (createCategoryEach_exec catalog.serverStructure distinctChannels
    { s with roleIds := roleEntries G.nextId catalog.roles } _ live
    (fun name _ => by simp [emptyChannels, Dict.keys]) ?_ ?_)).trans ?_
  · exact Nat.lt_of_lt_of_le fresh.positive (Nat.le_add_right _ _)
  · exact fun c mem => (List.not_mem_nil c mem).elim
  rfl

/-- Without a placeholder, the pin stage, run on the guild `built` gives with the
maps the stages before it left, posts and pins the catalog's messages. -/
theorem pinMessages_built (token guildId : String) (catalog : Catalog) {G : Guild} (fresh : G.Fresh)
    (noPlaceholder : catalog.anyPlaceholder = false)
    (distinctChannels : (channelNames catalog.serverStructure).Nodup) :
    let s := new ⟨token, false⟩ guildId
    ({ s with roleIds := roleEntries G.nextId catalog.roles,
              channelIds := s.channelIds ++ layoutEntries (G.nextId + catalog.roles.length)
                catalog.serverStructure }.pinMessages catalog).exec (step guildId) (s.built catalog G) =
      (.ok (), s.provisioned catalog G) := by
  intro s
  let s₁ : ServerSetup := { s with roleIds := roleEntries G.nextId catalog.roles }
  let B := s.built catalog G
  have live : s.Live := ⟨rfl, rfl⟩
  have freshB := fresh_built s catalog fresh
  rw [pinMessages, if_neg (by simp [noPlaceholder])]
  let s₂ : ServerSetup :=
    { s₁ with channelIds := layoutEntries (G.nextId + catalog.roles.length) catalog.serverStructure }
  refine (@pinChannels_exec s₂ live _ (pinTarget B.channels)
    (fun name => get?_layoutEntries s₁ _ _ name)
    (fun name => (channelType_eq_declaredType _ _ distinctChannels).trans (type_pinTarget s₁ _ _ name).symm)
    catalog.pinnedMessages B (fun name c aimed => ?_) freshB.positive freshB.posts).trans rfl
  have mem := List.mem_of_find?_eq_some aimed
  exact ⟨channel?_of_mem (distinct_built s catalog G) mem,
    fresh.positive.trans_le ((Nat.le_add_right _ _).trans (channels_built s catalog G c mem).1)⟩

/-- A live `setup_discord.py` run against a Discord that carries out every
request leaves the guild the catalog declares, whatever the guild held before,
when the catalog holds no placeholder, its role names and channel names are
distinct, and it declares every required role. -/
theorem run_provisions (token guildId : String) (catalog : Catalog) {G : Guild} (fresh : G.Fresh)
    (noPlaceholder : catalog.anyPlaceholder = false)
    (distinctRoles : (catalog.roles.map RoleDef.name).Nodup)
    (declared : ∀ r ∈ requiredRoles, r ∈ catalog.roles.map RoleDef.name)
    (distinctChannels : (channelNames catalog.serverStructure).Nodup) :
    ((new ⟨token, false⟩ guildId).run catalog).exec (step guildId) G =
      (.ok (), (new ⟨token, false⟩ guildId).provisioned catalog G) := by
  have live : (new ⟨token, false⟩ guildId).Live := ⟨rfl, rfl⟩
  exact (run_eq_pinMessages live rfl rfl catalog fresh distinctRoles declared distinctChannels).trans
    (pinMessages_built token guildId catalog fresh noPlaceholder distinctChannels)

/-- With a placeholder in the pin map, a live run against the same Discord still
resets the guild and creates every role, category and channel before
`pin_messages` exits with status 1: the guild is left as `built` gives it, with
nothing posted. -/
theorem run_halts_built (token guildId : String) (catalog : Catalog) {G : Guild} (fresh : G.Fresh)
    (placeholder : catalog.anyPlaceholder = true)
    (distinctRoles : (catalog.roles.map RoleDef.name).Nodup)
    (declared : ∀ r ∈ requiredRoles, r ∈ catalog.roles.map RoleDef.name)
    (distinctChannels : (channelNames catalog.serverStructure).Nodup) :
    ((new ⟨token, false⟩ guildId).run catalog).exec (step guildId) G =
      (.error (.exit 1), (new ⟨token, false⟩ guildId).built catalog G) := by
  have live : (new ⟨token, false⟩ guildId).Live := ⟨rfl, rfl⟩
  refine (run_eq_pinMessages live rfl rfl catalog fresh distinctRoles declared distinctChannels).trans ?_
  rw [pinMessages, if_pos placeholder]
  rfl

/-- The required roles, a category with a text channel and an announcement
channel, and one message to pin. -/
def starterCatalog : Catalog where
  roles := requiredRoles.map sampleRole
  serverStructure :=
    [{ category := "START HERE", channels := [{ name := "rules", type := chText },
        { name := "announcements", type := chAnnouncement }] }]
  pinnedMessages := [("rules", ["Be kind."])]
  pinnedKeysNodup := by decide

/-- An empty guild whose next id is 1. -/
def emptyGuild : Guild := ⟨[], [], [], [], 1⟩

theorem run_provisions_starter :
    ((new ⟨"token", false⟩ "g").run starterCatalog).exec (step "g") emptyGuild =
      (.ok (), (new ⟨"token", false⟩ "g").provisioned starterCatalog emptyGuild) :=
  run_provisions "token" "g" starterCatalog ⟨Nat.one_pos, by simp [emptyGuild], by simp [emptyGuild]⟩
    (by decide) (by decide) (by decide) (by decide)

/-! ## One run after another -/

theorem names_placedRoles (n total idx : Nat) (roles : List RoleDef) :
    (placedRoles n total idx roles).map (·.payload.name) = roles.map RoleDef.name := by
  induction roles generalizing n idx with
  | nil => rfl
  | cons r rest ih => simp [placedRoles, rolePayload, ih]

/-- With distinct names, each name of `ROLES` names one placed role. -/
theorem count_placedRoles (n total idx : Nat) (roles : List RoleDef)
    (distinct : (roles.map RoleDef.name).Nodup) {r : RoleDef} (mem : r ∈ roles) :
    ((placedRoles n total idx roles).filter (·.payload.name = r.name)).length = 1 := by
  induction roles generalizing n idx with
  | nil => cases mem
  | cons d rest ih =>
      obtain ⟨notRest, distinct'⟩ := List.nodup_cons.mp distinct
      rcases List.mem_cons.mp mem with rfl | later
      · have others : (placedRoles (n + 1) total (idx + 1) rest).filter (·.payload.name = r.name) = [] :=
          List.filter_eq_nil_iff.mpr fun x mem' same => notRest <| by
            rw [← names_placedRoles (n + 1) total (idx + 1)]
            exact (of_decide_eq_true same) ▸ List.mem_map_of_mem _ mem'
        simp [placedRoles, rolePayload, others]
      · have apart : d.name ≠ r.name := fun same => notRest (same ▸ List.mem_map_of_mem _ later)
        simp [placedRoles, rolePayload, apart, ih _ _ distinct' later]

/-- The messages of the pin stage take consecutive ids. -/
theorem map_id_pinnedPosts (target : String → Option Channel) (pinned : Dict (List String)) :
    ∀ n, (pinnedPosts target n pinned).map Post.id = List.range' n (pinnedPosts target n pinned).length := by
  induction pinned with
  | nil => intro n; rfl
  | cons entry rest ih =>
      obtain ⟨name, msgs⟩ := entry
      intro n
      cases aimed : target name with
      | none => simpa [pinnedPosts, aimed] using ih n
      | some c =>
          cases takes : takesMessages c
          · simpa [pinnedPosts, aimed, takes] using ih n
          · simp only [pinnedPosts, aimed, takes, if_true, List.map_append, map_id_postsIn, ih,
              List.length_append, length_postsIn, List.range'_append_1, Nat.add_comm msgs.length]

theorem fresh_provisioned (s : ServerSetup) (catalog : Catalog) {G : Guild} (fresh : G.Fresh) :
    (s.provisioned catalog G).Fresh where
  positive := Nat.lt_of_lt_of_le (fresh_built s catalog fresh).positive (Nat.le_add_right _ _)
  roles r mem := Nat.lt_of_lt_of_le ((fresh_built s catalog fresh).roles r mem) (Nat.le_add_right _ _)
  posts p mem := by
    rcases List.mem_append.mp mem with old | new
    · exact Nat.lt_of_lt_of_le ((fresh_built s catalog fresh).posts p old) (Nat.le_add_right _ _)
    · have bounds := List.mem_map_of_mem Post.id new
      rw [map_id_pinnedPosts, List.mem_range'_1] at bounds
      exact bounds.2

/-- What a live run leaves, with a placeholder in the pin map or without: the
channels and roles of `built`, under a counter at least its own. -/
theorem run_leaves_built (token guildId : String) (catalog : Catalog) {G : Guild} (fresh : G.Fresh)
    (distinctRoles : (catalog.roles.map RoleDef.name).Nodup)
    (declared : ∀ r ∈ requiredRoles, r ∈ catalog.roles.map RoleDef.name)
    (distinctChannels : (channelNames catalog.serverStructure).Nodup) :
    let G' := (((new ⟨token, false⟩ guildId).run catalog).exec (step guildId) G).2
    G'.Fresh ∧ G'.channels = ((new ⟨token, false⟩ guildId).built catalog G).channels ∧
      G'.roles = ((new ⟨token, false⟩ guildId).built catalog G).roles ∧
      ((new ⟨token, false⟩ guildId).built catalog G).nextId ≤ G'.nextId := by
  have live : (new ⟨token, false⟩ guildId).Live := ⟨rfl, rfl⟩
  cases placeholder : catalog.anyPlaceholder
  · have ran : ((new ⟨token, false⟩ guildId).run catalog).exec (step guildId) G =
        (.ok (), (new ⟨token, false⟩ guildId).provisioned catalog G) :=
      (run_eq_pinMessages live rfl rfl catalog fresh distinctRoles declared distinctChannels).trans
        (pinMessages_built token guildId catalog fresh placeholder distinctChannels)
    rw [ran]
    exact ⟨fresh_provisioned _ catalog fresh, rfl, rfl, Nat.le_add_right _ _⟩
  · rw [run_halts_built token guildId catalog fresh placeholder distinctRoles declared distinctChannels]
    exact ⟨fresh_built _ catalog fresh, rfl, rfl, le_rfl⟩

/-- Running the setup a second time is not idempotent: against a Discord that
carries out every request, the second run deletes every channel the first one
created (none of them is left), and creates every role of `ROLES` again, so
each of their names then names two more roles than before the first run. -/
theorem run_twice (token guildId : String) (catalog : Catalog) {G : Guild} (fresh : G.Fresh)
    (distinctRoles : (catalog.roles.map RoleDef.name).Nodup)
    (declared : ∀ r ∈ requiredRoles, r ∈ catalog.roles.map RoleDef.name)
    (distinctChannels : (channelNames catalog.serverStructure).Nodup) :
    let G₁ := (((new ⟨token, false⟩ guildId).run catalog).exec (step guildId) G).2
    let G₂ := (((new ⟨token, false⟩ guildId).run catalog).exec (step guildId) G₁).2
    (∀ c ∈ G₂.channels, c ∉ G₁.channels) ∧
      ∀ r ∈ catalog.roles, (G₂.roles.filter (·.payload.name = r.name)).length =
        (G.roles.filter (·.payload.name = r.name)).length + 2 := by
  intro G₁ G₂
  let s := new ⟨token, false⟩ guildId
  obtain ⟨fresh₁, channels₁, roles₁, counter₁⟩ : G₁.Fresh ∧ G₁.channels = (s.built catalog G).channels ∧
      G₁.roles = (s.built catalog G).roles ∧ (s.built catalog G).nextId ≤ G₁.nextId :=
    run_leaves_built token guildId catalog fresh distinctRoles declared distinctChannels
  obtain ⟨-, channels₂, roles₂, -⟩ : G₂.Fresh ∧ G₂.channels = (s.built catalog G₁).channels ∧
      G₂.roles = (s.built catalog G₁).roles ∧ (s.built catalog G₁).nextId ≤ G₂.nextId :=
    run_leaves_built token guildId catalog fresh₁ distinctRoles declared distinctChannels
  refine ⟨fun c mem old => ?_, fun r mem => ?_⟩
  · have later := (channels_built _ catalog G₁ c (channels₂ ▸ mem)).1
    have earlier := (channels_built _ catalog G c (channels₁ ▸ old)).2
    omega
  · simp only [roles₂, roles₁, built, List.filter_append, List.length_append,
      count_placedRoles _ _ _ _ distinctRoles mem]

theorem run_twice_starter :
    let G₁ := (((new ⟨"token", false⟩ "g").run starterCatalog).exec (step "g") emptyGuild).2
    let G₂ := (((new ⟨"token", false⟩ "g").run starterCatalog).exec (step "g") G₁).2
    (∀ c ∈ G₂.channels, c ∉ G₁.channels) ∧
      ∀ r ∈ starterCatalog.roles, (G₂.roles.filter (·.payload.name = r.name)).length =
        (emptyGuild.roles.filter (·.payload.name = r.name)).length + 2 :=
  run_twice "token" "g" starterCatalog ⟨Nat.one_pos, by simp [emptyGuild], by simp [emptyGuild]⟩
    (by decide) (by decide) (by decide)

/-! ## The structure as declared -/

/-- Channels laid out as a structure declares them, with the overwrites
`compile` gives each template: each category at the top, then its channels under
it, in order, with the declared names and types.  A category's template is its
`perm_template`, else `"community"`; a channel's is its own, else its
category's. -/
inductive LaidOut (compile : String → List Overwrite) : List CategoryDef → List Channel → Prop
  | nil : LaidOut compile [] []
  | cons {cat : CategoryDef} {rest : List CategoryDef} {category : Channel} {chs more : List Channel}
      (named : category.payload.name = cat.category) (isCategory : category.payload.type = chCategory)
      (top : category.payload.parentId = none)
      (guarded : category.payload.permissionOverwrites = compile (cat.permTemplate.getD "community"))
      (declared : chs.map (fun c => (c.payload.name, c.payload.type, c.payload.permissionOverwrites)) =
        cat.channels.map fun ch =>
          (ch.name, ch.type, compile (ch.permTemplate.getD (cat.permTemplate.getD "community"))))
      (under : ∀ c ∈ chs, c.payload.parentId = some (.num category.id))
      (later : LaidOut compile rest more) :
      LaidOut compile (cat :: rest) (category :: chs ++ more)

theorem declared_channelsUnder (s : ServerSetup) (catId : Nat) (catTemplate : String) (n : Nat)
    (chs : List ChannelDef) :
    (channelsUnder s catId catTemplate n chs).map
        (fun c => (c.payload.name, c.payload.type, c.payload.permissionOverwrites)) =
      chs.map fun ch => (ch.name, ch.type, s.overwrites (ch.effectiveTemplate catTemplate)) := by
  induction chs generalizing n <;> simp [channelsUnder, channelPayload, *]

theorem parent_channelsUnder (s : ServerSetup) (catId : Nat) (catTemplate : String) (n : Nat)
    (chs : List ChannelDef) : ∀ c ∈ channelsUnder s catId catTemplate n chs,
      c.payload.parentId = some (.num catId) := by
  induction chs generalizing n with
  | nil => simp [channelsUnder]
  | cons ch rest ih =>
      intro c mem
      rcases List.mem_cons.mp mem with rfl | later
      · rfl
      · exact ih _ c later

/-- The layout is the structure as declared, compiled with the setup's role map. -/
theorem laidOut_layout (s : ServerSetup) (n : Nat) (cats : List CategoryDef) :
    LaidOut s.overwrites cats (layout s n cats) := by
  induction cats generalizing n with
  | nil => exact .nil
  | cons cat rest ih =>
      exact .cons rfl rfl rfl rfl (declared_channelsUnder s n _ _ _) (parent_channelsUnder s n _ _ _) (ih _)

/-- A live run from a fresh guild, with a placeholder in the pin map or without,
leaves the channels laid out as `SERVER_STRUCTURE` declares them: each category
at the top, then its channels under it, in order, with the declared names and
types, and the overwrites of their effective templates compiled with the ids
the run gave the roles. -/
theorem run_lays_out (token guildId : String) (catalog : Catalog) {G : Guild} (fresh : G.Fresh)
    (distinctRoles : (catalog.roles.map RoleDef.name).Nodup)
    (declared : ∀ r ∈ requiredRoles, r ∈ catalog.roles.map RoleDef.name)
    (distinctChannels : (channelNames catalog.serverStructure).Nodup) :
    LaidOut { new ⟨token, false⟩ guildId with roleIds := roleEntries G.nextId catalog.roles }.overwrites
      catalog.serverStructure
      (((new ⟨token, false⟩ guildId).run catalog).exec (step guildId) G).2.channels := by
  rw [(run_leaves_built token guildId catalog fresh distinctRoles declared distinctChannels).2.1]
  exact laidOut_layout _ _ _

theorem run_lays_out_starter :
    LaidOut
      { new ⟨"token", false⟩ "g" with roleIds := roleEntries emptyGuild.nextId starterCatalog.roles }.overwrites
      starterCatalog.serverStructure
      (((new ⟨"token", false⟩ "g").run starterCatalog).exec (step "g") emptyGuild).2.channels :=
  run_lays_out "token" "g" starterCatalog ⟨Nat.one_pos, by simp [emptyGuild], by simp [emptyGuild]⟩
    (by decide) (by decide) (by decide)

/-- The placed roles carry the names of `ROLES` in order, the role at index `i`
at position `total - i`. -/
theorem positions_placedRoles (n total idx : Nat) (roles : List RoleDef) :
    (placedRoles n total idx roles).map (fun r => (r.payload.name, r.position)) =
      (roles.enumFrom idx).map fun (i, r) => (r.name, total - i) := by
  induction roles generalizing n idx <;> simp [placedRoles, rolePayload, *]

/-- A live run from a fresh guild, with a placeholder in the pin map or without,
keeps the roles the guild had and adds one role per entry of `ROLES`, in order,
the role at index `i` of `n` at position `n - i`: the first entry highest. -/
theorem run_places_roles (token guildId : String) (catalog : Catalog) {G : Guild} (fresh : G.Fresh)
    (distinctRoles : (catalog.roles.map RoleDef.name).Nodup)
    (declared : ∀ r ∈ requiredRoles, r ∈ catalog.roles.map RoleDef.name)
    (distinctChannels : (channelNames catalog.serverStructure).Nodup) :
    let G' := (((new ⟨token, false⟩ guildId).run catalog).exec (step guildId) G).2
    G'.roles.take G.roles.length = G.roles ∧
      (G'.roles.drop G.roles.length).map (fun r => (r.payload.name, r.position)) =
        catalog.roles.enum.map fun (i, r) => (r.name, catalog.roles.length - i) := by
  intro G'
  have placed : G'.roles = G.roles ++ placedRoles G.nextId catalog.roles.length 0 catalog.roles :=
    (run_leaves_built token guildId catalog fresh distinctRoles declared distinctChannels).2.2.1
  rw [placed, List.take_left, List.drop_left, positions_placedRoles]
  exact ⟨rfl, rfl⟩

theorem run_places_roles_starter :
    let G' := (((new ⟨"token", false⟩ "g").run starterCatalog).exec (step "g") emptyGuild).2
    G'.roles.take emptyGuild.roles.length = emptyGuild.roles ∧
      (G'.roles.drop emptyGuild.roles.length).map (fun r => (r.payload.name, r.position)) =
        starterCatalog.roles.enum.map fun (i, r) => (r.name, starterCatalog.roles.length - i) :=
  run_places_roles "token" "g" starterCatalog ⟨Nat.one_pos, by simp [emptyGuild], by simp [emptyGuild]⟩
    (by decide) (by decide) (by decide)

end ServerSetup
end Discord
end Rill
