import Rill.Discord.Catalog
import Mathlib.Algebra.Ring.Rat

/-!
# Discord as a state machine

The requests of the scripts carried out on one guild by a Discord that does
what each request asks whenever what it names exists.  The guild holds its
channels, roles, messages and pins, and each creation takes the next id of a
counter.
-/

namespace Rill
namespace Discord

/-- A channel: its id and the payload it was created with. -/
structure Channel where
  id : Nat
  payload : ChannelPayload

/-- A role: its id, the payload it was created with, and its position. -/
structure Role where
  id : Nat
  payload : RolePayload
  position : Nat

/-- A message: its id, the id of its channel, its text. -/
structure Post where
  id : Nat
  channel : Nat
  content : String

/-- One guild as Discord holds it.  Ids are JSON numbers here: the scripts only
test them for truth, compare them and send them back.  A deleted channel's
messages stay, since no later listing shows them. -/
structure Guild where
  channels : List Channel
  roles : List Role
  posts : List Post
  /-- The pinned messages, as (channel id, message id). -/
  pins : List (Nat × Nat)
  /-- The next id Discord hands out. -/
  nextId : Nat

namespace Guild

/-- A channel as Discord lists it and answers its creation. -/
def channelJson (c : Channel) : Json :=
  .obj [("id", .num c.id), ("name", .str c.payload.name), ("type", .num c.payload.type)]

/-- A role as Discord lists it and answers its creation. -/
def roleJson (r : Role) : Json :=
  .obj [("id", .num r.id), ("name", .str r.payload.name), ("position", .num r.position)]

/-- A message as Discord lists it and answers its creation. -/
def postJson (p : Post) : Json :=
  .obj [("id", .num p.id), ("channel_id", .num p.channel), ("content", .str p.content)]

/-- The channel a JSON id names. -/
def channel? (G : Guild) (j : Json) : Option Channel :=
  G.channels.find? fun c => j = .num c.id

/-- The message of channel `c` a JSON id names. -/
def post? (G : Guild) (c : Channel) (j : Json) : Option Post :=
  G.posts.find? fun p => p.channel = c.id ∧ j = .num p.id

/-- A creation may go through: its parent, if it names one, is a category of
the guild. -/
def parentOk (G : Guild) (payload : ChannelPayload) : Bool :=
  match payload.parentId with
  | none => true
  | some j => (G.channel? j).any fun c => c.payload.type = chCategory

/-- Messages can be sent to the channel: it is neither a category nor a
forum. -/
def takesMessages (c : Channel) : Bool := c.payload.type ≠ chCategory && c.payload.type ≠ chForum

/-- The position a reorder gives a role: its entry's, if it has one. -/
def reposition (entries : List Position) (r : Role) : Role :=
  match entries.find? fun e => e.id = .num r.id with
  | some e => { r with position := e.position }
  | none => r

/-- Discord carrying out one request on the guild `guildId`: the answer and
the guild after it.  A request that names nothing of the guild fails (the
client's `None`).  A channel creation needs its parent, if it names one, to be
a category; a message goes to a channel that is neither a category nor a forum;
a pin names a message of its channel; a new role goes to position 1, just above
`@everyone`, until a reorder moves it. -/
def step (guildId : String) (q : Request) (G : Guild) : Answer (Option Json) × Guild :=
  match q with
  | ⟨.get, .guildChannels g, none⟩ =>
      if g = guildId then (.reply (some (.arr (G.channels.map channelJson))), G)
      else (.reply none, G)
  | ⟨.get, .guildRoles g, none⟩ =>
      if g = guildId then (.reply (some (.arr (G.roles.map roleJson))), G) else (.reply none, G)
  | ⟨.get, .channelPins j, none⟩ =>
      match G.channel? j with
      | some c =>
          (.reply (some (.arr ((G.posts.filter fun p => (c.id, p.id) ∈ G.pins).map postJson))), G)
      | none => (.reply none, G)
  | ⟨.delete, .channel j, none⟩ =>
      match G.channel? j with
      | some c =>
          (.reply (some (channelJson c)), { G with channels := G.channels.filter (·.id ≠ c.id) })
      | none => (.reply none, G)
  | ⟨.post, .guildRoles g, some (.role payload)⟩ =>
      if g = guildId then
        (.reply (some (roleJson ⟨G.nextId, payload, 1⟩)),
          { G with roles := G.roles ++ [⟨G.nextId, payload, 1⟩], nextId := G.nextId + 1 })
      else (.reply none, G)
  | ⟨.patch, .guildRoles g, some (.positions entries)⟩ =>
      if g = guildId then
        (.reply (some (.arr ((G.roles.map (reposition entries)).map roleJson))),
          { G with roles := G.roles.map (reposition entries) })
      else (.reply none, G)
  | ⟨.post, .guildChannels g, some (.channel payload)⟩ =>
      if g = guildId ∧ G.parentOk payload then
        (.reply (some (channelJson ⟨G.nextId, payload⟩)),
          { G with channels := G.channels ++ [⟨G.nextId, payload⟩], nextId := G.nextId + 1 })
      else (.reply none, G)
  | ⟨.post, .channelMessages j, some (.message content)⟩ =>
      match G.channel? j with
      | some c =>
          if takesMessages c then
            (.reply (some (postJson ⟨G.nextId, c.id, content⟩)),
              { G with posts := G.posts ++ [⟨G.nextId, c.id, content⟩], nextId := G.nextId + 1 })
          else (.reply none, G)
      | none => (.reply none, G)
  | ⟨.put, .channelPin j m, none⟩ =>
      match G.channel? j with
      | some c =>
          match G.post? c m with
          | some p => (.reply (some (.obj [])), { G with pins := G.pins ++ [(c.id, p.id)] })
          | none => (.reply none, G)
      | none => (.reply none, G)
  | _ => (.reply none, G)

/-- Every id the guild holds is below its counter, and the counter is
positive, so every id Discord hands out is new and true. -/
structure Fresh (G : Guild) : Prop where
  positive : 0 < G.nextId
  roles : ∀ r ∈ G.roles, r.id < G.nextId
  posts : ∀ p ∈ G.posts, p.id < G.nextId

/-! ## What each request does -/

@[simp] theorem getD?_channelJson (c : Channel) (default : Json) :
    (channelJson c).getD? "id" default = some (.num c.id) := by
  simp [channelJson, Dict.get?_cons]

@[simp] theorem getD?_roleJson (r : Role) (default : Json) :
    (roleJson r).getD? "id" default = some (.num r.id) := by
  simp [roleJson, Dict.get?_cons]

@[simp] theorem getD?_postJson (p : Post) (default : Json) :
    (postJson p).getD? "id" default = some (.num p.id) := by
  simp [postJson, Dict.get?_cons]

@[simp] theorem truthy_channelJson (c : Channel) : (channelJson c).truthy = true := rfl

@[simp] theorem truthy_roleJson (r : Role) : (roleJson r).truthy = true := rfl

@[simp] theorem truthy_postJson (p : Post) : (postJson p).truthy = true := rfl

theorem filter_of_channel?_none {G : Guild} {n : Nat} (absent : G.channel? (.num n) = none) :
    G.channels.filter (·.id ≠ n) = G.channels := by
  simp only [channel?, List.find?_eq_none, decide_eq_true_eq] at absent
  exact List.filter_eq_self.mpr fun c mem => by simpa using fun same => absent c mem (by rw [same])

/-- A delete removes the channel of that id, if there is one. -/
theorem step_delete (g : String) (n : Nat) (G : Guild) :
    ∃ r, step g ⟨.delete, .channel (.num n), none⟩ G =
      (.reply r, { G with channels := G.channels.filter (·.id ≠ n) }) := by
  cases found : G.channel? (.num n) with
  | none =>
      refine ⟨none, ?_⟩
      rw [filter_of_channel?_none found]
      simp [step, found]
  | some c =>
      have same : c.id = n := by simpa [eq_comm] using List.find?_some found
      exact ⟨some (channelJson c), by simp [step, found, same]⟩

theorem step_createRole (g : String) (payload : RolePayload) (G : Guild) :
    step g ⟨.post, .guildRoles g, some (.role payload)⟩ G =
      (.reply (some (roleJson ⟨G.nextId, payload, 1⟩)),
        { G with roles := G.roles ++ [⟨G.nextId, payload, 1⟩], nextId := G.nextId + 1 }) := by
  simp [step]

theorem step_reorder (g : String) (entries : List Position) (G : Guild) :
    step g ⟨.patch, .guildRoles g, some (.positions entries)⟩ G =
      (.reply (some (.arr ((G.roles.map (reposition entries)).map roleJson))),
        { G with roles := G.roles.map (reposition entries) }) := by
  simp [step]

/-- A channel creation whose parent, if any, is a category takes the next id. -/
theorem step_createChannel (g : String) (payload : ChannelPayload) {G : Guild}
    (parent : G.parentOk payload = true) :
    step g ⟨.post, .guildChannels g, some (.channel payload)⟩ G =
      (.reply (some (channelJson ⟨G.nextId, payload⟩)),
        { G with channels := G.channels ++ [⟨G.nextId, payload⟩], nextId := G.nextId + 1 }) := by
  simp [step, parent]

theorem step_message (g : String) {j : Json} (content : String) {G : Guild} {c : Channel}
    (found : G.channel? j = some c) (takes : takesMessages c = true) :
    step g ⟨.post, .channelMessages j, some (.message content)⟩ G =
      (.reply (some (postJson ⟨G.nextId, c.id, content⟩)),
        { G with posts := G.posts ++ [⟨G.nextId, c.id, content⟩], nextId := G.nextId + 1 }) := by
  simp [step, found, takes]

/-- A category or a forum refuses a message, and nothing changes. -/
theorem step_message_refused (g : String) {j : Json} (content : String) {G : Guild} {c : Channel}
    (found : G.channel? j = some c) (refuses : takesMessages c = false) :
    step g ⟨.post, .channelMessages j, some (.message content)⟩ G = (.reply none, G) := by
  simp [step, found, refuses]

theorem step_pin (g : String) {j m : Json} {G : Guild} {c : Channel} {p : Post}
    (found : G.channel? j = some c) (posted : G.post? c m = some p) :
    step g ⟨.put, .channelPin j m, none⟩ G =
      (.reply (some (.obj [])), { G with pins := G.pins ++ [(c.id, p.id)] }) := by
  simp [step, found, posted]

/-- Listing a channel's pins reads the messages pinned in it. -/
theorem step_pins (g : String) {j : Json} {G : Guild} {c : Channel} (found : G.channel? j = some c) :
    step g ⟨.get, .channelPins j, none⟩ G =
      (.reply (some (.arr ((G.posts.filter fun p => (c.id, p.id) ∈ G.pins).map postJson))), G) := by
  simp [step, found]

/-! ## Finding what was created -/

/-- Creating more channels hides none that a lookup found. -/
theorem channel?_append {G : Guild} {j : Json} {c : Channel} (found : G.channel? j = some c)
    {G' : Guild} {more : List Channel} (grown : G'.channels = G.channels ++ more) :
    G'.channel? j = some c := by
  simp only [channel?, grown, List.find?_append] at found ⊢
  rw [found]
  rfl

/-- The channel just created under an id above every other is the one its id
names. -/
theorem channel?_new {G : Guild} (below : ∀ c ∈ G.channels, c.id < G.nextId)
    (payload : ChannelPayload) :
    ({ G with channels := G.channels ++ [⟨G.nextId, payload⟩] } : Guild).channel? (.num G.nextId) =
      some ⟨G.nextId, payload⟩ := by
  have older : G.channels.find? (fun c => Json.num G.nextId = .num c.id) = none :=
    List.find?_eq_none.mpr fun c mem => by simpa using (below c mem).ne'
  rw [channel?, List.find?_append, older]
  simp

/-- With distinct ids, a channel of the guild is the one its id names. -/
theorem channel?_of_mem {G : Guild} (distinct : (G.channels.map Channel.id).Nodup) {c : Channel}
    (mem : c ∈ G.channels) : G.channel? (.num c.id) = some c := by
  obtain ⟨channels, roles, posts, pins, nextId⟩ := G
  simp only [channel?] at distinct mem ⊢
  induction channels with
  | nil => cases mem
  | cons d rest ih =>
      obtain ⟨fresh, distinct'⟩ := List.nodup_cons.mp distinct
      rcases List.mem_cons.mp mem with rfl | later
      · simp
      · have apart : c.id ≠ d.id := fun same => fresh (same ▸ List.mem_map_of_mem _ later)
        rw [List.find?_cons_of_neg _ (by simpa using apart)]
        exact ih distinct' later

theorem parentOk_of_category {G : Guild} {payload : ChannelPayload} {j : Json} {c : Channel}
    (parent : payload.parentId = some j) (found : G.channel? j = some c)
    (category : c.payload.type = chCategory) : G.parentOk payload = true := by
  simp [parentOk, parent, found, category]

/-- The message just sent under an id above every other is the one its id names. -/
theorem post?_new {G : Guild} (below : ∀ p ∈ G.posts, p.id < G.nextId) (c : Channel)
    (content : String) :
    ({ G with posts := G.posts ++ [⟨G.nextId, c.id, content⟩] } : Guild).post? c (.num G.nextId) =
      some ⟨G.nextId, c.id, content⟩ := by
  have older : G.posts.find? (fun p => p.channel = c.id ∧ Json.num G.nextId = .num p.id) = none :=
    List.find?_eq_none.mpr fun p mem => by simp [(below p mem).ne']
  rw [post?, List.find?_append, older]
  simp

end Guild

end Discord
end Rill
