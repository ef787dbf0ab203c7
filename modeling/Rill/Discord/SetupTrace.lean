import Rill.Discord.SetupRun
import Mathlib.Data.List.Nodup

/-!
# The creation stages against their descriptions

`create_channels` and `create_roles` in live mode, each set beside a program
written from what the stage is meant to do.  `create_channels` equals its
description outright.  `create_roles` agrees with its description on every
run in which each successful role creation returns a non-empty id.

A creation reply is read as the source reads it.  A falsy reply is a failure.
A truthy one yields its `"id"`, or the simulate-mode sentinel when it has none,
and raises when it is not an object.
-/

namespace Rill
namespace Discord
namespace ServerSetup

open Prog hiding pure bind

/-! ## Reading a creation reply -/

/-- The id a creation reply yields: none for a falsy reply, else its `"id"` or
`fallback`; a truthy reply that is not an object raises. -/
def createdId (fallback : String) : Option Json → Script (Option Json)
  | some reply =>
      if reply.truthy then some <$> ofOption (reply.getD? "id" (.str fallback)) else pure none
  | none => pure none

theorem categoryId_eq_createdId : categoryId = createdId "DRY_RUN_CAT_ID" := by
  funext result
  cases result <;> rfl

/-! ## `create_channels` -/

/-- A channel's creation payload as described: its parent, the overwrites of
its template (the category's by default), a topic iff it has a non-empty one
and is not a category, a slowmode iff it is a text channel with a non-zero
one, and a thread slowmode (300 by default) iff it is a forum. -/
def describedChannelPayload (guildId : String) (roleIds : Dict Json) (catId : Json)
    (catTemplate : String) (ch : ChannelDef) : ChannelPayload :=
  { name := ch.name, type := ch.type, parentId := some catId,
    permissionOverwrites := buildOverwrites guildId roleIds (ch.effectiveTemplate catTemplate),
    topic := if ch.topic.getD "" ≠ "" ∧ ch.type ≠ chCategory then some (ch.topic.getD "")
      else none,
    rateLimitPerUser := if ch.type = chText ∧ ch.slowmode.getD 0 ≠ 0 then
      some (ch.slowmode.getD 0) else none,
    defaultThreadRateLimitPerUser :=
      if ch.type = chForum then some (ch.threadRateLimit.getD 300) else none }

/-- The two topic branches of the source make one condition. -/
theorem channelPayload_eq_described (s : ServerSetup) (catId : Json) (catTemplate : String)
    (ch : ChannelDef) :
    s.channelPayload catId catTemplate ch =
      describedChannelPayload s.guildId s.roleIds catId catTemplate ch := by
  simp only [channelPayload, describedChannelPayload, chCategory, chForum, chText, and_comm]
  congr 1
  by_cases empty : ch.topic.getD "" = "" <;> by_cases forum : ch.type = 15 <;> simp [empty, forum]

/-- A category's creation payload as described: type 4 and the overwrites of
its template, `"community"` by default. -/
def describedCategoryPayload (guildId : String) (roleIds : Dict Json)
    (category : CategoryDef) : ChannelPayload :=
  { name := category.category, type := chCategory, parentId := none,
    permissionOverwrites :=
      buildOverwrites guildId roleIds (category.permTemplate.getD "community"),
    topic := none, rateLimitPerUser := none, defaultThreadRateLimitPerUser := none }

/-- One category's channels as described: one creation request each, in
order; a truthy reply records the channel's name with the id it yields. -/
def describedChannelEach (guildId : String) (roleIds : Dict Json) (catId : Json)
    (catTemplate : String) : List ChannelDef → Script (Dict Json)
  | [] => pure []
  | ch :: rest => do
      let reply ← send ⟨.post, .guildChannels guildId,
        some (.channel (describedChannelPayload guildId roleIds catId catTemplate ch))⟩
      let chId ← createdId "DRY_RUN_CH_ID" reply
      let later ← describedChannelEach guildId roleIds catId catTemplate rest
      pure ((chId.map fun id => (ch.name, id)).toList ++ later)

/-- `create_channels` as described: one creation request per category, in
order; its channels only when the reply yields a truthy id, each with that id
as parent.  The result is the channel map the stage records. -/
def describedCategoryEach (guildId : String) (roleIds : Dict Json) :
    List CategoryDef → Script (Dict Json)
  | [] => pure []
  | category :: rest => do
      let reply ← send ⟨.post, .guildChannels guildId,
        some (.channel (describedCategoryPayload guildId roleIds category))⟩
      let catId ← createdId "DRY_RUN_CAT_ID" reply
      match catId with
      | some id =>
          if id.truthy then do
            let here ← describedChannelEach guildId roleIds id
              (category.permTemplate.getD "community") category.channels
            let later ← describedCategoryEach guildId roleIds rest
            pure (here ++ later)
          else describedCategoryEach guildId roleIds rest
      | none => describedCategoryEach guildId roleIds rest

/-- The names of the channels of `categories`. -/
def channelNames (categories : List CategoryDef) : List String :=
  (categories.flatMap CategoryDef.channels).map ChannelDef.name

theorem channelNames_cons (category : CategoryDef) (rest : List CategoryDef) :
    channelNames (category :: rest) =
      category.channels.map ChannelDef.name ++ channelNames rest := by
  simp [channelNames]

/-- The inner loop, followed by any `k`: the channel map grows by what the
described loop records. -/
theorem createChannelEach_bind {β : Type} (catId : Json) (catTemplate : String)
    (channels : List ChannelDef) :
    ∀ (s : ServerSetup) (k : ServerSetup → Script β), s.Live →
      (channels.map ChannelDef.name).Nodup →
      (∀ ch ∈ channels, ch.name ∉ s.channelIds.keys) →
      s.createChannelEach catId catTemplate channels >>= k =
        describedChannelEach s.guildId s.roleIds catId catTemplate channels >>= fun created =>
          k { s with channelIds := s.channelIds ++ created } := by
  induction channels with
  | nil => intro s k _ _ _; simp [createChannelEach, describedChannelEach]
  | cons ch rest ih =>
      intro s k live unique fresh
      obtain ⟨notLater, uniqueRest⟩ := List.nodup_cons.mp unique
      simp only [createChannelEach, describedChannelEach, DiscordClient.post,
        DiscordClient.request_live _ live.2, channelPayload_eq_described, send, call_bind,
        bind_assoc', pure_bind']
      congr 1
      funext reply
      have skip : s.createChannelEach catId catTemplate rest >>= k =
          describedChannelEach s.guildId s.roleIds catId catTemplate rest >>= fun created =>
            k { s with channelIds := s.channelIds ++ ([] ++ created) } := by
        simpa using ih s k live uniqueRest fun c mem => fresh c (.tail _ mem)
      rcases reply with _ | result
      · simpa [recordChannel, createdId] using skip
      · by_cases set : result.truthy
        · rcases found : result.getD? "id" (.str "DRY_RUN_CH_ID") with _ | chId
          · simp [recordChannel, createdId, set, found]
          · have absent : ch.name ∉ s.channelIds.keys := fresh ch (.head _)
            have grown := ih { s with channelIds := s.channelIds.insert ch.name chId } k live
              uniqueRest fun c mem => by
                rw [Dict.keys_insert_of_not_mem _ _ absent, List.mem_append, not_or]
                exact ⟨fresh c (.tail _ mem), fun same => notLater (by
                  rw [← List.mem_singleton.mp same]; exact List.mem_map_of_mem ChannelDef.name mem)⟩
            simp only [recordChannel, createdId, set, found, if_true, ofOption_some,
              map_eq_bind, bind_assoc', pure_bind', Dict.insert_of_not_mem_keys _ _ absent]
              at grown ⊢
            simpa using grown
        · simpa [recordChannel, createdId, set] using skip

theorem createdId_only {K : Request → Prop} {P : Option Json → Prop} (fallback : String)
    (reply : Option Json) (all : ∀ chId, P chId) :
    Only K (fun _ => True) P (createdId fallback reply) := by
  rcases reply with _ | reply
  · exact all none
  · by_cases set : reply.truthy
    · simp only [createdId, set, if_true, map_eq_bind, only_bind, only_ofOption]
      exact ⟨fun _ => trivial, fun a _ => all (some a)⟩
    · simpa only [createdId, set, Bool.false_eq_true, if_false] using all none

/-- The described inner loop records only names of its channels. -/
theorem describedChannelEach_keys (guildId : String) (roleIds : Dict Json) (catId : Json)
    (catTemplate : String) (channels : List ChannelDef) :
    Only (fun _ => True) (fun _ => True)
      (fun created : Dict Json => ∀ name ∈ created.keys, name ∈ channels.map ChannelDef.name)
      (describedChannelEach guildId roleIds catId catTemplate channels) := by
  induction channels with
  | nil => simp [describedChannelEach, Dict.keys]
  | cons ch rest ih =>
      simp only [describedChannelEach, send, call_bind, pure_bind', only_call, only_bind]
      refine ⟨trivial, fun reply => createdId_only _ reply fun chId =>
        ih.mono (fun _ => id) (fun _ => id) fun later recorded name mem => ?_⟩
      rcases chId with _ | id <;>
        simp only [Option.map_none', Option.map_some', Option.toList_none, Option.toList_some,
          List.nil_append, List.singleton_append, Dict.keys, List.map_cons, List.mem_cons] at mem ⊢
      · exact .inr (recorded name mem)
      · exact mem.imp_right (recorded name)

/-- The outer loop, followed by any `k`: the channel map grows by what the
described loop records. -/
theorem createCategoryEach_bind {β : Type} (categories : List CategoryDef) :
    ∀ (s : ServerSetup) (k : ServerSetup → Script β), s.Live →
      (channelNames categories).Nodup →
      (∀ name ∈ channelNames categories, name ∉ s.channelIds.keys) →
      s.createCategoryEach categories >>= k =
        describedCategoryEach s.guildId s.roleIds categories >>= fun created =>
          k { s with channelIds := s.channelIds ++ created } := by
  induction categories with
  | nil => intro s k _ _ _; simp [createCategoryEach, describedCategoryEach]
  | cons category rest ih =>
      intro s k live unique fresh
      rw [channelNames_cons] at unique fresh
      obtain ⟨uniqueHere, uniqueRest, apart⟩ := List.nodup_append.mp unique
      have skip : s.createCategoryEach rest >>= k =
          describedCategoryEach s.guildId s.roleIds rest >>= fun created =>
            k { s with channelIds := s.channelIds ++ created } :=
        ih s k live uniqueRest fun name mem => fresh name (List.mem_append_right _ mem)
      simp only [createCategoryEach, describedCategoryEach, DiscordClient.post,
        DiscordClient.request_live _ live.2, categoryId_eq_createdId, send, call_bind,
        bind_assoc', pure_bind']
      congr 1
      funext reply
      congr 1
      funext catId
      rcases catId with _ | id
      · exact skip
      · by_cases set : id.truthy
        · simp only [set, if_true, bind_assoc', pure_bind']
          rw [createChannelEach_bind _ _ _ s _ live uniqueHere
            fun ch mem => fresh _ (List.mem_append_left _ (List.mem_map_of_mem _ mem))]
          refine (describedChannelEach_keys _ _ _ _ _).bind_congr fun here recorded => ?_
          have grown := ih { s with channelIds := s.channelIds ++ here } k live uniqueRest
            fun name mem => by
              simp only [Dict.keys, List.map_append, List.mem_append, not_or]
              exact ⟨fresh name (List.mem_append_right _ mem),
                fun inHere => apart (recorded name inHere) mem⟩
          simpa only [List.append_assoc] using grown
        · simpa only [set, Bool.false_eq_true, if_false] using skip

/-- `create_channels` from an empty channel map equals its description, the
map it leaves being the pairs the description records. -/
theorem createChannels_described (s : ServerSetup) (live : s.Live) (empty : s.channelIds = [])
    (serverStructure : List CategoryDef) (unique : (channelNames serverStructure).Nodup) :
    s.createChannels serverStructure =
      (fun created => { s with channelIds := created }) <$>
        describedCategoryEach s.guildId s.roleIds serverStructure := by
  have loop := createCategoryEach_bind serverStructure s Prog.pure live unique
    fun name _ => by simp [empty, Dict.keys]
  simpa [createChannels, empty] using loop

/-! ## `create_roles` -/

/-- Whether a creation succeeded: its reply is truthy. -/
def succeeded : Option Json → Bool
  | some reply => reply.truthy
  | none => false

/-- The id the server assigned in a successful creation's reply. -/
def assignedId : Option Json → Option Json
  | some reply => if reply.truthy then reply.field? "id" else none
  | none => none

/-- A successful role creation is assigned a non-empty id. -/
def AssignsIds (q : Request) (reply : Option Json) : Prop :=
  q.kind = .createRole → succeeded reply = true → ∃ id, assignedId reply = some id ∧ id.truthy

/-- The reorder entries as described: each role created, in catalog order, the
one at index `i` at position `n - i`. -/
def reorderEntries (n : Nat) : Nat → List (Option Json) → List Position
  | _, [] => []
  | i, id :: rest => (id.map fun id => ⟨id, n - i⟩).toList ++ reorderEntries n (i + 1) rest

/-- The role creations as described: one request per role, in catalog order.
The result is their replies. -/
def describedRoleEach (guildId : String) : List RoleDef → Script (List (Option Json))
  | [] => pure []
  | roleDef :: rest => do
      let reply ← send ⟨.post, .guildRoles guildId, some (.role (rolePayload roleDef))⟩
      let later ← describedRoleEach guildId rest
      pure (reply :: later)

/-- `create_roles` as described: the creations, then one reorder request iff
one of them succeeded, listing the roles created. -/
def describedCreateRoles (guildId : String) (roles : List RoleDef) : Script Unit := do
  let replies ← describedRoleEach guildId roles
  if replies.any succeeded then do
    let _ ← send ⟨.patch, .guildRoles guildId,
      some (.positions (reorderEntries roles.length 0 (replies.map assignedId)))⟩
    pure ()
  else pure ()

/-- The positions of the reorder entries from index `i` on strictly decrease
and stay in `(n - (i + k), n - i]`, for `k` replies. -/
theorem reorderEntries_positions (n : Nat) (ids : List (Option Json)) :
    ∀ i, i + ids.length ≤ n →
      ((reorderEntries n i ids).map Position.position).Pairwise (· > ·) ∧
        ∀ p ∈ (reorderEntries n i ids).map Position.position,
          n - (i + ids.length) < p ∧ p ≤ n - i := by
  induction ids with
  | nil => simp [reorderEntries]
  | cons id rest ih =>
      intro i fits
      obtain ⟨decreasing, bounded⟩ := ih (i + 1) (by simp at fits; omega)
      have below : ∀ p ∈ (reorderEntries n (i + 1) rest).map Position.position,
          n - (i + (rest.length + 1)) < p ∧ p < n - i := fun p mem => by
        have := bounded p mem
        simp only [List.length_cons] at fits
        omega
      rcases id with _ | value
      · simp only [reorderEntries, Option.map_none', Option.toList_none, List.nil_append,
          List.length_cons]
        exact ⟨decreasing, fun p mem => ⟨(below p mem).1, le_of_lt (below p mem).2⟩⟩
      · simp only [reorderEntries, Option.map_some', Option.toList_some, List.singleton_append,
          List.map_cons, List.pairwise_cons, List.mem_cons, List.length_cons, forall_eq_or_imp]
        simp only [List.length_cons] at fits
        exact ⟨⟨fun p mem => (below p mem).2, decreasing⟩, ⟨by omega, le_refl _⟩,
          fun p mem => ⟨(below p mem).1, le_of_lt (below p mem).2⟩⟩

/-- The role map the creations leave: each role created, with its id. -/
def recordedRoles : List RoleDef → List (Option Json) → Dict Json
  | roleDef :: rest, reply :: replies =>
      ((assignedId reply).map fun id => (roleDef.name, id)).toList ++ recordedRoles rest replies
  | _, _ => []

/-- Every successful reply of `replies` carries a non-empty id. -/
def IdsAssigned (replies : List (Option Json)) : Prop :=
  ∀ reply ∈ replies, succeeded reply = true → ∃ id, assignedId reply = some id ∧ id.truthy

theorem assignedId_isSome {reply : Option Json}
    (assigned : succeeded reply = true → ∃ id, assignedId reply = some id ∧ id.truthy) :
    (assignedId reply).isSome = succeeded reply := by
  rcases reply with _ | reply
  · rfl
  · by_cases set : reply.truthy
    · obtain ⟨id, found, -⟩ := assigned (by simpa [succeeded] using set)
      simp [found, succeeded, set]
    · simp [assignedId, succeeded, set]

theorem assignedId_truthy {reply : Option Json} {id : Json}
    (assigned : succeeded reply = true → ∃ id, assignedId reply = some id ∧ id.truthy)
    (found : assignedId reply = some id) : id.truthy := by
  have isSome := assignedId_isSome assigned
  rw [found] at isSome
  obtain ⟨id', found', set⟩ := assigned isSome.symm
  exact (Option.some.inj (found.symm.trans found')) ▸ set

theorem recordedRoles_keys (roles : List RoleDef) (replies : List (Option Json)) :
    ∀ name ∈ (recordedRoles roles replies).keys, name ∈ roles.map RoleDef.name := by
  induction roles generalizing replies with
  | nil => simp [recordedRoles, Dict.keys]
  | cons roleDef rest ih =>
      rcases replies with _ | ⟨reply, replies⟩
      · simp [recordedRoles, Dict.keys]
      · intro name mem
        rcases found : assignedId reply with _ | id <;>
          simp only [recordedRoles, found, Option.map_none', Option.map_some', Option.toList_none,
            Option.toList_some, List.nil_append, List.singleton_append, Dict.keys,
            List.map_cons, List.mem_cons] at mem ⊢
        · exact .inr (ih replies name mem)
        · exact mem.imp_right (ih replies name)

theorem recordedRoles_isEmpty (roles : List RoleDef) (replies : List (Option Json))
    (length : replies.length = roles.length) (assigned : IdsAssigned replies) :
    (recordedRoles roles replies).isEmpty = !replies.any succeeded := by
  induction roles generalizing replies with
  | nil => cases replies <;> simp_all [recordedRoles]
  | cons roleDef rest ih =>
      rcases replies with _ | ⟨reply, replies⟩
      · simp at length
      · have head := assignedId_isSome (assigned reply (.head _))
        have later := ih replies (by simpa using length) fun r mem => assigned r (.tail _ mem)
        rw [recordedRoles, List.any_cons, Bool.not_or, ← head, ← later]
        cases assignedId reply <;> rfl

theorem reorderEntries_isEmpty (n i : Nat) (replies : List (Option Json))
    (assigned : IdsAssigned replies) :
    (reorderEntries n i (replies.map assignedId)).isEmpty = !replies.any succeeded := by
  induction replies generalizing i with
  | nil => rfl
  | cons reply replies ih =>
      have head := assignedId_isSome (assigned reply (.head _))
      have later := ih (i + 1) fun r mem => assigned r (.tail _ mem)
      rw [List.map_cons, reorderEntries, List.any_cons, Bool.not_or, ← head, ← later]
      cases assignedId reply <;> rfl

/-- The code's reorder entries, read off the role map the creations leave, are
the described ones. -/
theorem rolePositions_recorded (n : Nat) (roles : List RoleDef) :
    ∀ (pre : Dict Json) (i : Nat) (replies : List (Option Json)),
      (roles.map RoleDef.name).Nodup → (∀ r ∈ roles, r.name ∉ pre.keys) →
      replies.length = roles.length → IdsAssigned replies →
      rolePositions (pre ++ recordedRoles roles replies) n i roles =
        reorderEntries n i (replies.map assignedId) := by
  induction roles with
  | nil =>
      intro pre i replies _ _ length _
      cases replies <;> simp_all [rolePositions, reorderEntries]
  | cons roleDef rest ih =>
      intro pre i replies unique fresh length assigned
      rcases replies with _ | ⟨reply, replies⟩
      · simp at length
      obtain ⟨notLater, uniqueRest⟩ := List.nodup_cons.mp unique
      have absent : roleDef.name ∉ pre.keys := fresh roleDef (.head _)
      have assignedRest : IdsAssigned replies := fun r mem => assigned r (.tail _ mem)
      rcases found : assignedId reply with _ | id
      · have notRecorded : roleDef.name ∉ (recordedRoles rest replies).keys := fun mem =>
          notLater (recordedRoles_keys rest replies _ mem)
        simp only [recordedRoles, found, Option.map_none', Option.toList_none, List.nil_append,
          rolePositions, List.map_cons, reorderEntries]
        rw [Dict.get?_append_of_not_mem absent, Dict.get?_of_not_mem_keys notRecorded]
        exact ih pre (i + 1) replies uniqueRest (fun r mem => fresh r (.tail _ mem))
          (by simpa using length) assignedRest
      · have set := assignedId_truthy (assigned reply (.head _)) found
        have grown := ih (pre ++ [(roleDef.name, id)]) (i + 1) replies uniqueRest
          (fun r mem => by
            simp only [Dict.keys, List.map_append, List.mem_append, not_or]
            refine ⟨fresh r (.tail _ mem), fun inHead => notLater ?_⟩
            simp only [List.map_cons, List.map_nil, List.mem_singleton] at inHead
            rw [← inHead]
            exact List.mem_map_of_mem _ mem)
          (by simpa using length) assignedRest
        simp only [recordedRoles, found, Option.map_some', Option.toList_some,
          List.singleton_append, rolePositions, List.map_cons, reorderEntries]
        rw [Dict.get?_append_of_not_mem absent, Dict.get?_cons, if_pos rfl]
        simpa [set] using grown

/-- What the code's creation loop has when the described one has `replies`. -/
def RolesRecorded (s : ServerSetup) (roles : List RoleDef) (s' : ServerSetup)
    (replies : List (Option Json)) : Prop :=
  s'.roleIds = s.roleIds ++ recordedRoles roles replies ∧ Keeps s s' ∧
    replies.length = roles.length ∧ IdsAssigned replies

theorem recordRole_assigned (s : ServerSetup) (name : String) {reply : Option Json}
    (assigned : succeeded reply = true → ∃ id, assignedId reply = some id ∧ id.truthy)
    (absent : name ∉ s.roleIds.keys) :
    s.recordRole name reply =
      pure { s with
        roleIds := s.roleIds ++ ((assignedId reply).map fun id => (name, id)).toList } := by
  rcases reply with _ | reply
  · simp [recordRole, assignedId]
  · by_cases set : reply.truthy
    · obtain ⟨id, found, -⟩ := assigned (by simpa [succeeded] using set)
      have field : reply.field? "id" = some id := by simpa [assignedId, set] using found
      simp [recordRole, set, Json.getD?_of_field? field, found,
        Dict.insert_of_not_mem_keys _ _ absent]
    · simp [recordRole, assignedId, set]

theorem createRoleEach_agree (roles : List RoleDef) :
    ∀ s : ServerSetup, s.Live → (roles.map RoleDef.name).Nodup →
      (∀ r ∈ roles, r.name ∉ s.roleIds.keys) →
      Agree AssignsIds (RolesRecorded s roles) (s.createRoleEach roles)
        (describedRoleEach s.guildId roles) := by
  induction roles with
  | nil => intro s _ _ _; exact ⟨by simp [recordedRoles], Keeps.refl s, rfl, by simp [IdsAssigned]⟩
  | cons roleDef rest ih =>
      intro s live unique fresh
      obtain ⟨notLater, uniqueRest⟩ := List.nodup_cons.mp unique
      simp only [createRoleEach, describedRoleEach, DiscordClient.post,
        DiscordClient.request_live _ live.2, send, call_bind, pure_bind']
      refine (agree_call _ _ _).mpr fun reply assigns => ?_
      have assigned := assigns rfl
      rw [recordRole_assigned s roleDef.name assigned (fresh roleDef (.head _)), pure_bind'',
        ← bind_pure' (createRoleEach _ rest)]
      have fresh' : ∀ r ∈ rest, r.name ∉ (s.roleIds ++
          ((assignedId reply).map fun id => (roleDef.name, id)).toList).keys := fun r mem => by
        simp only [Dict.keys, List.map_append, List.mem_append, not_or]
        refine ⟨fresh r (.tail _ mem), fun inHead => notLater ?_⟩
        rcases found : assignedId reply with _ | id <;> rw [found] at inHead <;>
          simp only [Option.map_none', Option.map_some', Option.toList_none, Option.toList_some,
            List.map_cons, List.map_nil, List.mem_singleton, List.not_mem_nil] at inHead
        rw [← inHead]
        exact List.mem_map_of_mem _ mem
      refine (ih { s with roleIds := s.roleIds ++
          ((assignedId reply).map fun id => (roleDef.name, id)).toList } live uniqueRest
          fresh').bind fun s' later recorded => ?_
      obtain ⟨roleIds, keeps, length, ids⟩ := recorded
      refine ⟨by rw [roleIds]; simp [recordedRoles], (Keeps.refl s).trans keeps,
        by simp [length], ?_⟩
      rintro r (_ | ⟨_, mem⟩)
      · exact assigned
      · exact ids r mem

/-- `create_roles` from an empty role map agrees with its description on every
path whose successful role creations are assigned non-empty ids. -/
theorem createRoles_agree (s : ServerSetup) (live : s.Live) (empty : s.roleIds = [])
    (roles : List RoleDef) (unique : (roles.map RoleDef.name).Nodup) :
    Agree AssignsIds (fun _ _ => True) (s.createRoles roles)
      (describedCreateRoles s.guildId roles) := by
  refine (createRoleEach_agree roles s live unique (by simp [empty, Dict.keys])).bind
    fun s' replies ⟨roleIds, keeps, length, ids⟩ => ?_
  rw [empty, List.nil_append] at roleIds
  have live' := keeps.live live
  have positions := rolePositions_recorded roles.length roles [] 0 replies unique
    (by simp [Dict.keys]) length ids
  rw [List.nil_append] at positions
  by_cases any : replies.any succeeded
  · have present : (recordedRoles roles replies).isEmpty = false := by
      simp [recordedRoles_isEmpty roles replies length ids, any]
    have listed : (reorderEntries roles.length 0 (replies.map assignedId)).isEmpty = false := by
      simp [reorderEntries_isEmpty _ _ replies ids, any]
    simp only [live'.1, roleIds, present, positions, listed, any, Bool.not_false, Bool.and_self,
      if_true, DiscordClient.patch, DiscordClient.request_live _ live'.2, keeps.2.1, send,
      call_bind, pure_bind']
    exact (agree_call _ _ _).mpr fun _ _ => trivial
  · have absent : (recordedRoles roles replies).isEmpty = true := by
      simp [recordedRoles_isEmpty roles replies length ids, any]
    simp [live'.1, roleIds, absent, any]

/-- Against every server that assigns a non-empty id to each successful role
creation, live `create_roles` on a fresh setup issues exactly the described
requests, and the positions it can send strictly decrease within `[1, n]`. -/
theorem createRoles_reorder (token guildId : String) (roles : List RoleDef)
    (unique : (roles.map RoleDef.name).Nodup) (server : Server)
    (assigns : ∀ h q r, server h q = .reply r → AssignsIds q r) :
    (((new ⟨token, false⟩ guildId).createRoles roles).exec (oracle server) []).2 =
        ((describedCreateRoles guildId roles).exec (oracle server) []).2 ∧
      ∀ replies : List (Option Json), replies.length = roles.length →
        ((reorderEntries roles.length 0 (replies.map assignedId)).map
          Position.position).Pairwise (· > ·) ∧
        ∀ p ∈ (reorderEntries roles.length 0 (replies.map assignedId)).map Position.position,
          1 ≤ p ∧ p ≤ roles.length := by
  refine ⟨(createRoles_agree _ ⟨rfl, rfl⟩ rfl roles unique).exec assigns [],
    fun replies length => ?_⟩
  obtain ⟨decreasing, bounded⟩ :=
    reorderEntries_positions roles.length (replies.map assignedId) 0 (by simp [length])
  refine ⟨decreasing, fun p mem => ?_⟩
  have := bounded p mem
  simp only [List.length_map, length, zero_add, Nat.sub_self, Nat.sub_zero] at this
  omega

/-- A server that answers every request with `{"id": "r"}`. -/
def assigningServer : Server := fun _ _ => .reply (some (.obj [("id", .str "r")]))

theorem assigningServer_assigns :
    ∀ h q r, assigningServer h q = .reply r → AssignsIds q r := by
  rintro h q r ⟨⟩
  exact fun _ _ => ⟨.str "r", rfl, rfl⟩

/-- `createRoles_reorder` for two roles against `assigningServer`. -/
theorem createRoles_reorder_two :
    ([sampleRole "Founder", sampleRole "Member"].map RoleDef.name).Nodup ∧
      (∀ h q r, assigningServer h q = .reply r → AssignsIds q r) ∧
      ((((new ⟨"t", false⟩ "g").createRoles [sampleRole "Founder", sampleRole "Member"]).exec
          (oracle assigningServer) []).2 =
        ((describedCreateRoles "g" [sampleRole "Founder", sampleRole "Member"]).exec
          (oracle assigningServer) []).2 ∧
      ∀ replies : List (Option Json), replies.length = 2 →
        ((reorderEntries 2 0 (replies.map assignedId)).map Position.position).Pairwise (· > ·) ∧
        ∀ p ∈ (reorderEntries 2 0 (replies.map assignedId)).map Position.position,
          1 ≤ p ∧ p ≤ 2) :=
  ⟨by decide, assigningServer_assigns,
    createRoles_reorder "t" "g" _ (by decide) assigningServer assigningServer_assigns⟩

/-- A category `Welcome` holding one text channel `rules`. -/
def welcomeCategory : CategoryDef :=
  { category := "Welcome", channels := [{ name := "rules", type := chText }] }

/-- The `parent_id` a request's payload carries. -/
def parentIdOf (q : Request) : Option Json :=
  match q.json with
  | some (.channel payload) => payload.parentId
  | _ => none

/-- A category reply with no `"id"`: the category's channel is still created,
with the sentinel `DRY_RUN_CAT_ID` as its parent. -/
theorem createChannels_parent_not_returned :
    (Json.obj [("name", .str "Welcome")]).field? "id" = none ∧
      ((((new ⟨"t", false⟩ "g").createChannels [welcomeCategory]).exec
        (oracle fun _ _ => .reply (some (.obj [("name", .str "Welcome")])))
          []).2.map fun e => parentIdOf e.1) = [none, some (.str "DRY_RUN_CAT_ID")] :=
  ⟨rfl, by decide⟩

end ServerSetup
end Discord
end Rill
