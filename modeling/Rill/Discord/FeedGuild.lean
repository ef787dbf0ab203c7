import Rill.Discord.AddFeed
import Rill.Discord.Shipped

/-!
# The feed-channel script against Discord

`add_feed_channels.py` run live against the Discord of `Rill.Discord.Guild`.
From a guild that has a `BOTS` category and a role, one run adds a channel for
each `NEW_CHANNELS` entry whose name no channel has, under `BOTS`, and leaves
every channel it found where it was; it pins the catalog messages of each entry
unless its channel already holds a pin.  The guild it leaves is settled: a
second run finds every name, every pin it could make, and changes nothing.

On the guild the shipped `setup_discord.py` run leaves, the shipped feed script
finds every one of its channels already in `SERVER_STRUCTURE`, and creates none.
-/

namespace Rill
namespace Discord

open Prog Guild

/-! ## What the script reads of a guild -/

/-- A channel the script takes for the `BOTS` category. -/
def IsBotsCategory (c : Channel) : Prop := c.payload.type = chCategory ∧ upper c.payload.name = "BOTS"

instance : DecidablePred IsBotsCategory := fun _ => inferInstanceAs (Decidable (_ ∧ _))

/-- The `BOTS` id the listing loop ends with, from `botsId`: the id of the last
`BOTS` category. -/
def botsAfter : List Channel → Json → Json
  | [], botsId => botsId
  | c :: rest, botsId => botsAfter rest (if IsBotsCategory c then .num c.id else botsId)

/-- The first channel of a name: the one `existing_ch` finds. -/
def named? (chans : List Channel) (name : String) : Option Channel :=
  chans.find? fun c => c.payload.name = name

/-- The id the script records for a name, `null` when no channel has it. -/
def namedId (chans : List Channel) (name : String) : Json :=
  ((named? chans name).map fun c => .num c.id).getD .null

/-- The channel names as the listing loop collects them. -/
def listedNames (chans : List Channel) : List Json := chans.map fun c => .str c.payload.name

@[simp] theorem getD?_channelJson_type (c : Channel) (default : Json) :
    (channelJson c).getD? "type" default = some (.num c.payload.type) := by
  simp [channelJson, Dict.get?_cons]

@[simp] theorem getD?_channelJson_name (c : Channel) (default : Json) :
    (channelJson c).getD? "name" default = some (.str c.payload.name) := by
  simp [channelJson, Dict.get?_cons]

@[simp] theorem item?_channelJson_id (c : Channel) : (channelJson c).item? "id" = some (.num c.id) := by
  simp [channelJson, Json.item?, Dict.get?_cons]

theorem num_eq_four (n : Nat) : Json.num (n : ℚ) = .num 4 ↔ n = 4 := by
  rw [Json.num.injEq]
  norm_cast

theorem scanChannels_channelJson (chans : List Channel) :
    ∀ botsId names, scanChannels (chans.map channelJson) botsId names =
      some (botsAfter chans botsId, names ++ listedNames chans) := by
  induction chans with
  | nil => intro botsId names; simp [scanChannels, botsAfter, listedNames]
  | cons c rest ih =>
      intro botsId names
      have named : botsIdOf? (channelJson c) botsId =
          some (if IsBotsCategory c then .num c.id else botsId) := by
        by_cases four : c.payload.type = chCategory
        · by_cases bots : upper c.payload.name = "BOTS" <;>
            simp [botsIdOf?, IsBotsCategory, four, bots, chCategory]
        · have other : ¬(c.payload.type : ℚ) = 4 := fun same =>
            four ((num_eq_four _).mp (congrArg Json.num same))
          simp [botsIdOf?, IsBotsCategory, four, other]
      simp [scanChannels, named, Json.hashable, ih, botsAfter, listedNames]

theorem botsAfter_append (chans more : List Channel) (botsId : Json) :
    botsAfter (chans ++ more) botsId = botsAfter more (botsAfter chans botsId) := by
  induction chans generalizing botsId <;> simp [botsAfter, *]

/-- `b` is the last `BOTS` category of `chans`, the one the listing loop keeps. -/
def LastBots (chans : List Channel) (b : Channel) : Prop :=
  IsBotsCategory b ∧ ∃ pre post, chans = pre ++ b :: post ∧ ∀ c ∈ post, ¬IsBotsCategory c

theorem LastBots.mem {chans : List Channel} {b : Channel} (last : LastBots chans b) : b ∈ chans := by
  obtain ⟨-, pre, post, rfl, -⟩ := last
  simp

/-- With a `BOTS` category listed, the loop ends with the id of the last one. -/
theorem botsAfter_of_mem {chans : List Channel} (present : ∃ c ∈ chans, IsBotsCategory c) :
    ∀ botsId, ∃ b, LastBots chans b ∧ botsAfter chans botsId = .num b.id := by
  intro botsId
  induction chans using List.reverseRecOn with
  | nil => obtain ⟨c, mem, _⟩ := present; cases mem
  | append_singleton init c ih =>
      rw [botsAfter_append]
      by_cases bots : IsBotsCategory c
      · exact ⟨c, ⟨bots, init, [], rfl, by simp⟩, by simp [botsAfter, bots]⟩
      · have earlier : ∃ c ∈ init, IsBotsCategory c := by
          obtain ⟨c', mem, isBots⟩ := present
          rcases List.mem_append.mp mem with old | last
          · exact ⟨c', old, isBots⟩
          · exact (bots (List.mem_singleton.mp last ▸ isBots)).elim
        obtain ⟨b, ⟨isBots, pre, post, rfl, later⟩, found⟩ := ih earlier
        refine ⟨b, ⟨isBots, pre, post ++ [c], by simp, fun c' mem => ?_⟩, by simp [botsAfter, bots, found]⟩
        rcases List.mem_append.mp mem with old | last
        · exact later c' old
        · exact List.mem_singleton.mp last ▸ bots

theorem roleIdsOf_roleJson (roles : List Role) :
    ∀ roleIds, ∃ roleIds', roleIdsOf (roles.map roleJson) roleIds = some roleIds' := by
  induction roles with
  | nil => exact fun roleIds => ⟨roleIds, rfl⟩
  | cons r rest ih =>
      intro roleIds
      simpa [roleIdsOf, roleJson, Dict.get?_cons] using ih _

theorem existingId_channelJson (name : String) (chans : List Channel) :
    existingId name (chans.map channelJson) = some ((named? chans name).map fun c => .num c.id) := by
  induction chans with
  | nil => rfl
  | cons c rest ih =>
      by_cases same : c.payload.name = name
      · simp [existingId, named?, same]
      · simpa [existingId, named?, same] using ih

theorem mem_listedNames {chans : List Channel} {name : String} :
    Json.str name ∈ listedNames chans ↔ ∃ c ∈ chans, c.payload.name = name := by
  simp [listedNames]

theorem named?_append_of_isSome {chans : List Channel} {name : String}
    (present : (named? chans name).isSome) (more : List Channel) :
    named? (chans ++ more) name = named? chans name := by
  obtain ⟨c, found⟩ := Option.isSome_iff_exists.mp present
  simp only [named?, List.find?_append] at found ⊢
  rw [found]
  rfl

theorem named?_append_of_none {chans : List Channel} {name : String}
    (absent : ∀ c ∈ chans, c.payload.name ≠ name) (more : List Channel) :
    named? (chans ++ more) name = named? more name := by
  have none : named? chans name = none := List.find?_eq_none.mpr fun c mem => by simpa using absent c mem
  simp only [named?, List.find?_append] at none ⊢
  rw [none]
  rfl

/-! ## The creations -/

/-- The channels the creation loop adds, ids from `n` on: one for each entry
whose name is not among `existing`, under the `BOTS` category. -/
def feedChannels (existing : List Json) (botsId : Json) (overwrites : List Overwrite) (n : Nat) :
    List NewChannel → List Channel
  | [] => []
  | chDef :: rest =>
      if Json.str chDef.name ∈ existing then feedChannels existing botsId overwrites n rest
      else ⟨n, feedPayload botsId overwrites chDef⟩ :: feedChannels existing botsId overwrites (n + 1) rest

theorem names_feedChannels (existing : List Json) (botsId : Json) (overwrites : List Overwrite)
    (n : Nat) (todo : List NewChannel) :
    ∀ c ∈ feedChannels existing botsId overwrites n todo,
      c.payload.parentId = some botsId ∧ ∃ chDef ∈ todo, c.payload.name = chDef.name ∧
        Json.str chDef.name ∉ existing := by
  induction todo generalizing n with
  | nil => simp [feedChannels]
  | cons chDef rest ih =>
      intro c mem
      by_cases listed : Json.str chDef.name ∈ existing
      · rw [feedChannels, if_pos listed] at mem
        obtain ⟨parent, d, dMem, named, fresh⟩ := ih n c mem
        exact ⟨parent, d, .tail _ dMem, named, fresh⟩
      · rw [feedChannels, if_neg listed] at mem
        rcases List.mem_cons.mp mem with rfl | mem
        · exact ⟨rfl, chDef, .head _, rfl, listed⟩
        · obtain ⟨parent, d, dMem, named, fresh⟩ := ih (n + 1) c mem
          exact ⟨parent, d, .tail _ dMem, named, fresh⟩

theorem map_id_feedChannels (existing : List Json) (botsId : Json) (overwrites : List Overwrite)
    (n : Nat) (todo : List NewChannel) :
    (feedChannels existing botsId overwrites n todo).map Channel.id =
      List.range' n (feedChannels existing botsId overwrites n todo).length := by
  induction todo generalizing n with
  | nil => rfl
  | cons chDef rest ih =>
      by_cases listed : Json.str chDef.name ∈ existing
      · simp [feedChannels, listed, ih]
      · simp [feedChannels, listed, ih, List.range'_succ]

/-- The map `created_channels` the loop builds: each entry's name with the id of
the first channel of that name. -/
def feedEntries (chans : List Channel) (todo : List NewChannel) : Dict Json :=
  todo.map fun chDef => (chDef.name, namedId chans chDef.name)

/-- One turn of the creation loop on a listed name: the id of the first listed
channel of that name is recorded, and nothing is sent. -/
theorem createEach_cons_listed (client : DiscordClient) (guildId : String) (listed : List Channel)
    (botsId : Json) (overwrites : List Overwrite) {chDef : NewChannel} (rest : List NewChannel)
    (created : Dict Json) (listedHere : Json.str chDef.name ∈ listedNames listed) {c : Channel}
    (found : named? listed chDef.name = some c) :
    createEach client guildId (listed.map channelJson) (listedNames listed) botsId overwrites
        (chDef :: rest) created =
      createEach client guildId (listed.map channelJson) (listedNames listed) botsId overwrites rest
        (created.insert chDef.name (.num c.id)) := by
  simp only [createEach, if_pos listedHere, existingId_channelJson, found, Option.map_some', ofOption_some,
    pure_bind']

/-- One turn of the creation loop on a new name, in a guild where `botsId` is a
category's: the channel is created under it with the next id, which is recorded. -/
theorem createEach_cons_new {client : DiscordClient} (live : client.dryRun = false) (guildId : String)
    (listed : List Channel) (botsId : Json) (overwrites : List Overwrite) {chDef : NewChannel}
    (rest : List NewChannel) (created : Dict Json) (newHere : Json.str chDef.name ∉ listedNames listed)
    {G : Guild} (parent : ∃ b, G.channel? botsId = some b ∧ b.payload.type = chCategory) :
    (createEach client guildId (listed.map channelJson) (listedNames listed) botsId overwrites
        (chDef :: rest) created).exec (step guildId) G =
      (createEach client guildId (listed.map channelJson) (listedNames listed) botsId overwrites rest
        (created.insert chDef.name (.num G.nextId))).exec (step guildId)
        { G with channels := G.channels ++ [⟨G.nextId, feedPayload botsId overwrites chDef⟩],
                 nextId := G.nextId + 1 } := by
  obtain ⟨b, found, category⟩ := parent
  simp only [createEach, if_neg newHere, DiscordClient.post, DiscordClient.request_live _ live, call_bind]
  rw [exec_call, step_createChannel _ _ (parentOk_of_category rfl found category)]
  simp only [truthy_channelJson, if_true, getD?_channelJson, ofOption_some, pure_bind', pure_bind'']

/-- The creation loop, from a guild whose channels are the listed ones and those
created so far: each entry whose name was listed is recorded under the first
channel of that name, each other one is created under `BOTS` with the next id
and recorded under it. -/
theorem createEach_exec {client : DiscordClient} (live : client.dryRun = false) (guildId : String)
    (listed : List Channel) (botsId : Json) (overwrites : List Overwrite) (todo : List NewChannel)
    (distinct : (todo.map NewChannel.name).Nodup) :
    ∀ (G : Guild) (created : Dict Json) (pre : List Channel), G.channels = listed ++ pre →
      (∀ chDef ∈ todo, chDef.name ∉ created.keys) →
      (∀ chDef ∈ todo, Json.str chDef.name ∉ listedNames listed → ∀ c ∈ pre, c.payload.name ≠ chDef.name) →
      (∃ b, G.channel? botsId = some b ∧ b.payload.type = chCategory) →
      (createEach client guildId (listed.map channelJson) (listedNames listed) botsId overwrites todo
          created).exec (step guildId) G =
        let added := feedChannels (listedNames listed) botsId overwrites G.nextId todo
        (.ok (created ++ feedEntries (G.channels ++ added) todo),
          { G with channels := G.channels ++ added, nextId := G.nextId + added.length }) := by
  induction todo with
  | nil => intro G _ _ _ _ _ _; simp [createEach, feedEntries, feedChannels]
  | cons chDef rest ih =>
      intro G created pre grown fresh absent parent
      obtain ⟨notRest, distinct'⟩ := List.nodup_cons.mp distinct
      by_cases listedHere : Json.str chDef.name ∈ listedNames listed
      · obtain ⟨c, found⟩ : ∃ c, named? listed chDef.name = some c := by
          obtain ⟨c, mem, same⟩ := mem_listedNames.mp listedHere
          exact Option.isSome_iff_exists.mp (List.find?_isSome.mpr ⟨c, mem, by simpa using same⟩)
        have recorded : namedId (G.channels ++ feedChannels (listedNames listed) botsId overwrites
            G.nextId rest) chDef.name = .num c.id := by
          rw [grown, List.append_assoc, namedId, named?_append_of_isSome (by simp [found]), found]
          rfl
        rw [createEach_cons_listed client guildId listed botsId overwrites rest created listedHere found,
          Dict.insert_of_not_mem_keys _ _ (fresh chDef (.head _)),
          ih distinct' G _ pre grown (ServerSetup.not_mem_keys_append NewChannel.name _ fresh notRest)
            (fun d mem => absent d (.tail _ mem)) parent]
        simp [feedEntries, feedChannels, listedHere, recorded]
      · obtain ⟨b, found, category⟩ := parent
        let new : Channel := ⟨G.nextId, feedPayload botsId overwrites chDef⟩
        have recorded : namedId (G.channels ++ new :: feedChannels (listedNames listed) botsId
            overwrites (G.nextId + 1) rest) chDef.name = .num G.nextId := by
          have inListed : ∀ c ∈ listed, c.payload.name ≠ chDef.name := fun c mem same =>
            listedHere (mem_listedNames.mpr ⟨c, mem, same⟩)
          rw [grown, List.append_assoc, namedId, named?_append_of_none inListed,
            named?_append_of_none (absent chDef (.head _) listedHere)]
          simp [named?, new, feedPayload]
        rw [createEach_cons_new live guildId listed botsId overwrites rest created listedHere
            ⟨b, found, category⟩, Dict.insert_of_not_mem_keys _ _ (fresh chDef (.head _)),
          ih distinct' { G with channels := G.channels ++ [new], nextId := G.nextId + 1 } _ (pre ++ [new])
            (by simp [grown]) (ServerSetup.not_mem_keys_append NewChannel.name _ fresh notRest)
            (fun d mem listedD c inPre => ?_)
            ⟨b, channel?_append found rfl, category⟩]
        · simp [feedEntries, feedChannels, listedHere, recorded, new, Nat.add_assoc, Nat.add_comm 1]
        · rw [List.mem_append, List.mem_singleton] at inPre
          rcases inPre with old | rfl
          · exact absent d (.tail _ mem) listedD c old
          · intro same
            have renamed : chDef.name = d.name := same
            exact notRest (renamed ▸ List.mem_map_of_mem _ mem)

/-! ## Steps 1 to 3 -/

/-- Steps 1 to 3 of a live run from a guild with a `BOTS` category and a role,
channel ids distinct and true: the missing channels are created under the last
`BOTS` category, and every entry is recorded under the first channel of its
name. -/
theorem createdChannels_exec (token guildId : String) (todo : List NewChannel)
    (distinct : (todo.map NewChannel.name).Nodup) {G : Guild}
    (hasBots : ∃ c ∈ G.channels, IsBotsCategory c) (ids : (G.channels.map Channel.id).Nodup)
    (idsPositive : ∀ c ∈ G.channels, 0 < c.id) (hasRoles : G.roles ≠ []) :
    ∃ b, LastBots G.channels b ∧ ∃ overwrites,
      (createdChannels token guildId todo).exec (step guildId) G =
        let added := feedChannels (listedNames G.channels) (.num b.id) overwrites G.nextId todo
        (.ok (feedEntries (G.channels ++ added) todo),
          { G with channels := G.channels ++ added, nextId := G.nextId + added.length }) := by
  obtain ⟨b, last, scanned⟩ := botsAfter_of_mem hasBots .null
  have mem := last.mem
  obtain ⟨roleIds, roled⟩ := roleIdsOf_roleJson G.roles []
  refine ⟨b, last, buildReadOnlyOverwrites (.str guildId) roleIds, ?_⟩
  have live : (⟨token, false⟩ : DiscordClient).dryRun = false := rfl
  obtain ⟨channels, roles, posts, pins, nextId⟩ := G
  obtain _ | ⟨c₀, cs⟩ := channels
  · cases mem
  obtain _ | ⟨r₀, rs⟩ := roles
  · exact (hasRoles rfl).elim
  simp only [createdChannels, DiscordClient.get, DiscordClient.request_live _ live, call_bind, pure_bind']
  rw [exec_call]
  simp only [step, if_true, List.map_cons]
  simp only [← List.map_cons, scanChannels_channelJson, scanned, ofOption_some, pure_bind', List.nil_append,
    Json.truthy_num, ne_eq, Nat.cast_eq_zero, (idsPositive b mem).ne', not_false_eq_true, decide_True,
    Bool.not_true, Bool.false_eq_true, if_false, call_bind]
  rw [exec_call]
  simp only [step, if_true, List.map_cons]
  simp only [← List.map_cons, roled, ofOption_some, pure_bind']
  exact createEach_exec live guildId _ _ _ todo distinct _ [] [] (List.append_nil _).symm
    (fun _ _ => List.not_mem_nil _) (fun _ _ _ c mem => (List.not_mem_nil c mem).elim)
    ⟨b, channel?_of_mem ids mem, last.1.1⟩

/-! ## The pins -/

open ServerSetup (postsIn pinsOf)

/-- The messages the send loop sends: those without the placeholder. -/
def sendable (msgs : List String) : List String := msgs.filter fun m => !hasPlaceholder m

/-- A channel that takes messages gets each message without the placeholder,
pinned by the id the send returned. -/
theorem sendEach_exec {client : DiscordClient} (live : client.dryRun = false) (guildId : String)
    (c : Channel) (takes : takesMessages c = true) (msgs : List String) :
    ∀ G : Guild, G.channel? (.num c.id) = some c → 0 < G.nextId → (∀ p ∈ G.posts, p.id < G.nextId) →
      (sendEach client (.num c.id) msgs).exec (step guildId) G =
        let sent := postsIn c.id G.nextId (sendable msgs)
        (.ok (), { G with posts := G.posts ++ sent, pins := G.pins ++ pinsOf sent,
                          nextId := G.nextId + sent.length }) := by
  induction msgs with
  | nil => intro G _ _ _; simp [sendEach, sendable, postsIn, pinsOf]
  | cons m rest ih =>
      intro G found positive below
      by_cases marked : hasPlaceholder m = true
      · simpa [sendEach, sendable, marked] using ih G found positive below
      let G₁ : Guild := { G with posts := G.posts ++ [⟨G.nextId, c.id, m⟩], nextId := G.nextId + 1 }
      have found₁ : G₁.channel? (.num c.id) = some c := found
      simp only [sendEach, marked, live, Bool.false_eq_true, if_false, DiscordClient.post,
        DiscordClient.put, DiscordClient.request_live _ live, call_bind]
      rw [exec_call, step_message _ _ found takes]
      simp only [truthy_postJson, if_true, getD?_postJson, ofOption_some, pure_bind', Json.truthy_num,
        ne_eq, Nat.cast_eq_zero, positive.ne', not_false_eq_true, decide_True, call_bind]
      rw [exec_call, step_pin _ found₁ (post?_new below c m)]
      simp only [pure_bind']
      rw [ih { G₁ with pins := G.pins ++ [(c.id, G.nextId)] } found (Nat.succ_pos _) fun p mem => ?_]
      · simp [sendable, marked, postsIn, pinsOf, Nat.add_assoc, Nat.add_comm 1]
      · simp only [G₁, List.mem_append, List.mem_singleton] at mem
        rcases mem with old | rfl
        · exact Nat.lt_succ_of_lt (below p old)
        · exact Nat.lt_succ_self _

/-- A channel that takes no messages refuses each send, and nothing changes. -/
theorem sendEach_refused {client : DiscordClient} (live : client.dryRun = false) (guildId : String)
    (c : Channel) (refuses : takesMessages c = false) (msgs : List String) (G : Guild)
    (found : G.channel? (.num c.id) = some c) :
    (sendEach client (.num c.id) msgs).exec (step guildId) G = (.ok (), G) := by
  induction msgs with
  | nil => rfl
  | cons m rest ih =>
      by_cases marked : hasPlaceholder m = true
      · simpa [sendEach, marked] using ih
      simp only [sendEach, marked, live, Bool.false_eq_true, if_false, DiscordClient.post,
        DiscordClient.request_live _ live, call_bind]
      rw [exec_call, step_message_refused _ _ found refuses]
      exact ih

/-- With the placeholder in every message, the send loop sends nothing. -/
theorem sendEach_marked (client : DiscordClient) (chId : Json) {msgs : List String}
    (marked : ∀ m ∈ msgs, hasPlaceholder m = true) : sendEach client chId msgs = pure () := by
  induction msgs with
  | nil => rfl
  | cons m rest ih =>
      simp only [sendEach, marked m (.head _), if_true]
      exact ih fun m' mem => marked m' (.tail _ mem)

/-- A channel holds a pinned message. -/
def HasPin (G : Guild) (c : Channel) : Prop := ∃ p ∈ G.posts, (c.id, p.id) ∈ G.pins

instance (G : Guild) (c : Channel) : Decidable (HasPin G c) :=
  inferInstanceAs (Decidable (∃ p ∈ G.posts, _))

/-- The pin loop has nothing to do for the messages `msgs` of channel `c`: there
are none, the channel holds a pin, each message holds the placeholder, or the
channel takes no messages. -/
def PinsDone (G : Guild) (c : Channel) (msgs : List String) : Prop :=
  msgs = [] ∨ HasPin G c ∨ (∀ m ∈ msgs, hasPlaceholder m = true) ∨ takesMessages c = false

theorem hasPins_listing (G : Guild) (c : Channel) :
    hasPins (some (.arr ((G.posts.filter fun p => (c.id, p.id) ∈ G.pins).map postJson))) =
      decide (HasPin G c) := by
  by_cases pinned : HasPin G c
  · obtain ⟨p, mem, pin⟩ := pinned
    have listed : p ∈ G.posts.filter fun p => (c.id, p.id) ∈ G.pins :=
      List.mem_filter.mpr ⟨mem, by simpa using pin⟩
    obtain ⟨q, qs, eq⟩ := List.exists_cons_of_ne_nil (List.ne_nil_of_mem listed)
    rw [eq, List.map_cons]
    exact (decide_eq_true ⟨p, mem, pin⟩).symm
  · have none : (G.posts.filter fun p => (c.id, p.id) ∈ G.pins) = [] :=
      List.filter_eq_nil_iff.mpr fun p mem pin => pinned ⟨p, mem, by simpa using pin⟩
    simp [none, hasPins, pinned]

theorem HasPin.mono {G G' : Guild} {c : Channel} (pinned : HasPin G c) (posts : G.posts ⊆ G'.posts)
    (pins : G.pins ⊆ G'.pins) : HasPin G' c := by
  obtain ⟨p, mem, pin⟩ := pinned
  exact ⟨p, posts mem, pins pin⟩

theorem PinsDone.mono {G G' : Guild} {c : Channel} {msgs : List String} (done : PinsDone G c msgs)
    (posts : G.posts ⊆ G'.posts) (pins : G.pins ⊆ G'.pins) : PinsDone G' c msgs := by
  rcases done with none | pinned | marked | refuses
  · exact .inl none
  · exact .inr (.inl (pinned.mono posts pins))
  · exact .inr (.inr (.inl marked))
  · exact .inr (.inr (.inr refuses))

/-- What the pin loop may do to a guild: add messages and pins under a counter
at least as large, keeping its channels and roles. -/
structure Grown (G G' : Guild) : Prop where
  channels : G'.channels = G.channels
  roles : G'.roles = G.roles
  posts : G.posts ⊆ G'.posts
  pins : G.pins ⊆ G'.pins
  counter : G.nextId ≤ G'.nextId

theorem Grown.refl (G : Guild) : Grown G G := ⟨rfl, rfl, fun _ => id, fun _ => id, le_rfl⟩

theorem Grown.trans {G G' G'' : Guild} (first : Grown G G') (second : Grown G' G'') : Grown G G'' :=
  ⟨second.channels.trans first.channels, second.roles.trans first.roles,
    fun _ mem => second.posts (first.posts mem), fun _ mem => second.pins (first.pins mem),
    first.counter.trans second.counter⟩

theorem Grown.channel?_eq {G G' : Guild} (grown : Grown G G') (j : Json) : G'.channel? j = G.channel? j := by
  simp only [Guild.channel?, grown.channels]

theorem PinsDone.grown {G G' : Guild} {c : Channel} {msgs : List String} (done : PinsDone G c msgs)
    (grown : Grown G G') : PinsDone G' c msgs :=
  done.mono grown.posts grown.pins

/-- The messages of an entry of `created_channels`. -/
def messagesOf (pinned : Dict (List String)) (name : String) : List String := (pinned.get? name).getD []

/-- The guild after the send loop on a channel that takes messages. -/
theorem sendEach_grown {client : DiscordClient} (live : client.dryRun = false) (guildId : String)
    {c : Channel} (takes : takesMessages c = true) (msgs : List String) {G : Guild}
    (found : G.channel? (.num c.id) = some c) (fresh : G.Fresh) :
    ∃ G', (sendEach client (.num c.id) msgs).exec (step guildId) G = (.ok (), G') ∧ Grown G G' ∧
      G'.Fresh ∧ PinsDone G' c msgs := by
  rw [sendEach_exec live guildId c takes msgs G found fresh.positive fresh.posts]
  refine ⟨_, rfl, ⟨rfl, rfl, fun _ => List.mem_append_left _, fun _ => List.mem_append_left _,
    Nat.le_add_right _ _⟩, ⟨Nat.lt_of_lt_of_le fresh.positive (Nat.le_add_right _ _),
    fun r mem => Nat.lt_of_lt_of_le (fresh.roles r mem) (Nat.le_add_right _ _), fun p mem => ?_⟩, ?_⟩
  · rcases List.mem_append.mp mem with old | new
    · exact Nat.lt_of_lt_of_le (fresh.posts p old) (Nat.le_add_right _ _)
    · exact (ServerSetup.ids_postsIn new).2.trans_le (by simp)
  · cases sent : sendable msgs with
    | nil =>
        refine .inr (.inr (.inl fun m mem => ?_))
        have : m ∉ sendable msgs := by simp [sent]
        simpa [sendable, mem] using this
    | cons m rest =>
        refine .inr (.inl ⟨⟨G.nextId, c.id, m⟩, ?_, ?_⟩) <;> simp [sent, postsIn, pinsOf]

/-- An entry with messages reads the channel's pins, and sends only to a channel
that has none. -/
theorem pinEach_cons_exec {client : DiscordClient} (live : client.dryRun = false) (guildId : String)
    (pinned : Dict (List String)) {name : String} {c : Channel} (rest : List (String × Json)) {G : Guild}
    (here : G.channel? (.num c.id) = some c) (nonempty : messagesOf pinned name ≠ []) :
    (pinEach client pinned ((name, .num c.id) :: rest)).exec (step guildId) G =
      if HasPin G c then (pinEach client pinned rest).exec (step guildId) G
      else (sendEach client (.num c.id) (messagesOf pinned name) >>= fun _ =>
        pinEach client pinned rest).exec (step guildId) G := by
  simp only [messagesOf] at nonempty ⊢
  simp only [pinEach, List.isEmpty_eq_false.mpr nonempty, live, Bool.not_false, if_true, map_eq_bind,
    DiscordClient.get, DiscordClient.request_live _ live, call_bind, pure_bind', Bool.false_eq_true,
    if_false]
  rw [exec_call, step_pins guildId here]
  dsimp only
  rw [hasPins_listing]
  by_cases pinnedHere : HasPin G c <;> simp [pinnedHere]

/-- One pass of the pin loop over `created_channels`: each entry's channel ends
with nothing left to pin. -/
theorem pinEach_settles {client : DiscordClient} (live : client.dryRun = false) (guildId : String)
    (pinned : Dict (List String)) (entries : List (String × Json)) :
    ∀ G : Guild, (∀ e ∈ entries, ∃ c, e.2 = .num c.id ∧ G.channel? e.2 = some c) → G.Fresh →
      ∃ G', (pinEach client pinned entries).exec (step guildId) G = (.ok (), G') ∧ Grown G G' ∧
        G'.Fresh ∧ ∀ e ∈ entries, ∀ c, G.channel? e.2 = some c → PinsDone G' c (messagesOf pinned e.1) := by
  induction entries with
  | nil => exact fun G _ fresh => ⟨G, rfl, .refl G, fresh, fun _ mem => (List.not_mem_nil _ mem).elim⟩
  | cons entry rest ih =>
      obtain ⟨name, chId⟩ := entry
      intro G found fresh
      obtain ⟨c, rfl, here⟩ := found _ (.head _)
      have foundRest := fun e mem => found e (.tail _ mem)
      dsimp only at here
      -- after this entry, the loop goes on from `G₁`
      suffices this : ∃ G₁, (pinEach client pinned ((name, .num c.id) :: rest)).exec (step guildId) G =
          (pinEach client pinned rest).exec (step guildId) G₁ ∧ Grown G G₁ ∧ G₁.Fresh ∧
            PinsDone G₁ c (messagesOf pinned name) by
        obtain ⟨G₁, ran, grown₁, fresh₁, done₁⟩ := this
        obtain ⟨G', ran', grown', fresh', done'⟩ :=
          ih G₁ (fun e mem => by simpa only [grown₁.channel?_eq] using foundRest e mem) fresh₁
        refine ⟨G', ran.trans ran', grown₁.trans grown', fresh', fun e mem c' lookup => ?_⟩
        rcases List.mem_cons.mp mem with rfl | later
        · rw [here, Option.some.injEq] at lookup
          exact lookup ▸ done₁.grown grown'
        · exact done' e later c' (by rwa [grown₁.channel?_eq])
      by_cases empty : messagesOf pinned name = []
      · refine ⟨G, ?_, .refl G, fresh, .inl empty⟩
        simp only [messagesOf] at empty
        simp [pinEach, empty]
      rw [pinEach_cons_exec live guildId pinned rest here empty]
      by_cases pinnedHere : HasPin G c
      · exact ⟨G, if_pos pinnedHere, .refl G, fresh, .inr (.inl pinnedHere)⟩
      rw [if_neg pinnedHere]
      cases takes : takesMessages c
      · refine ⟨G, ?_, .refl G, fresh, .inr (.inr (.inr takes))⟩
        rw [exec_bind_of_ok (sendEach_refused live guildId c takes _ G here)]
      · obtain ⟨G₁, sent, grown₁, fresh₁, done₁⟩ :=
          sendEach_grown live guildId takes (messagesOf pinned name) here fresh
        exact ⟨G₁, exec_bind_of_ok sent, grown₁, fresh₁, done₁⟩

/-- A second pass of the pin loop, over channels with nothing left to pin, sends
nothing and leaves the guild as it is. -/
theorem pinEach_quiet {client : DiscordClient} (live : client.dryRun = false) (guildId : String)
    (pinned : Dict (List String)) (entries : List (String × Json)) (G : Guild)
    (settled : ∀ e ∈ entries, ∃ c, e.2 = .num c.id ∧ G.channel? e.2 = some c ∧
      PinsDone G c (messagesOf pinned e.1)) :
    (pinEach client pinned entries).exec (step guildId) G = (.ok (), G) := by
  induction entries with
  | nil => rfl
  | cons entry rest ih =>
      obtain ⟨name, chId⟩ := entry
      obtain ⟨c, rfl, here, done⟩ := settled _ (.head _)
      have quietRest := ih fun e mem => settled e (.tail _ mem)
      dsimp only at here done
      by_cases empty : messagesOf pinned name = []
      · simp only [messagesOf] at empty
        simpa [pinEach, empty] using quietRest
      rw [pinEach_cons_exec live guildId pinned rest here empty]
      split
      · exact quietRest
      rcases done with empty' | pinnedHere | marked | refuses
      · exact (empty empty').elim
      · contradiction
      · rwa [sendEach_marked client _ marked, pure_bind']
      · rwa [exec_bind_of_ok (sendEach_refused live guildId c refuses _ G here)]

/-! ## Every name, after the creations -/

/-- With every name listed, the creation loop adds nothing. -/
theorem feedChannels_of_listed (existing : List Json) (botsId : Json) (overwrites : List Overwrite)
    (n : Nat) (todo : List NewChannel) (listed : ∀ chDef ∈ todo, Json.str chDef.name ∈ existing) :
    feedChannels existing botsId overwrites n todo = [] := by
  induction todo with
  | nil => rfl
  | cons chDef rest ih =>
      rw [feedChannels, if_pos (listed chDef (.head _))]
      exact ih fun d mem => listed d (.tail _ mem)

theorem exists_feedChannels_named (existing : List Json) (botsId : Json) (overwrites : List Overwrite)
    {chDef : NewChannel} (absent : Json.str chDef.name ∉ existing) (todo : List NewChannel) :
    ∀ n, chDef ∈ todo → ∃ c ∈ feedChannels existing botsId overwrites n todo, c.payload.name = chDef.name := by
  induction todo with
  | nil => exact fun _ mem => (List.not_mem_nil _ mem).elim
  | cons d rest ih =>
      intro n mem
      by_cases listed : Json.str d.name ∈ existing
      · rw [feedChannels, if_pos listed]
        rcases List.mem_cons.mp mem with rfl | later
        · exact (absent listed).elim
        · exact ih n later
      · rw [feedChannels, if_neg listed]
        rcases List.mem_cons.mp mem with rfl | later
        · exact ⟨_, .head _, rfl⟩
        · obtain ⟨c, cMem, named⟩ := ih (n + 1) later
          exact ⟨c, .tail _ cMem, named⟩

/-- After the creation loop, each entry's name is a channel's. -/
theorem names_present (chans : List Channel) (botsId : Json) (overwrites : List Overwrite) (n : Nat)
    (todo : List NewChannel) :
    ∀ chDef ∈ todo, ∃ c ∈ chans ++ feedChannels (listedNames chans) botsId overwrites n todo,
      c.payload.name = chDef.name := by
  intro chDef mem
  by_cases listed : Json.str chDef.name ∈ listedNames chans
  · obtain ⟨c, cMem, named⟩ := mem_listedNames.mp listed
    exact ⟨c, List.mem_append_left _ cMem, named⟩
  · obtain ⟨c, cMem, named⟩ := exists_feedChannels_named _ botsId overwrites listed todo n mem
    exact ⟨c, List.mem_append_right _ cMem, named⟩

/-- With each name a channel's and channel ids distinct, every entry of
`created_channels` is the id of a channel of its name. -/
theorem feedEntries_found {G : Guild} (distinct : (G.channels.map Channel.id).Nodup) {todo : List NewChannel}
    (present : ∀ chDef ∈ todo, ∃ c ∈ G.channels, c.payload.name = chDef.name) :
    ∀ e ∈ feedEntries G.channels todo, ∃ c ∈ G.channels, e.2 = .num c.id ∧ G.channel? e.2 = some c ∧
      c.payload.name = e.1 := by
  intro e mem
  obtain ⟨chDef, chMem, rfl⟩ := List.mem_map.mp mem
  obtain ⟨c₀, mem₀, named₀⟩ := present chDef chMem
  obtain ⟨c, found⟩ := Option.isSome_iff_exists.mp
    (List.find?_isSome.mpr ⟨c₀, mem₀, by simpa using named₀⟩ : (named? G.channels chDef.name).isSome)
  have cMem := List.mem_of_find?_eq_some found
  have cNamed : c.payload.name = chDef.name := by simpa using List.find?_some found
  have recorded : namedId G.channels chDef.name = .num c.id := by simp [namedId, named?, found]
  exact ⟨c, cMem, recorded, by rw [recorded, channel?_of_mem distinct cMem], cNamed⟩

/-! ## A run, and the run after it -/

/-- What a live run needs of a guild: a `BOTS` category, a role, and channel,
role and message ids that are distinct, true and below the counter. -/
structure FeedReady (G : Guild) : Prop where
  bots : ∃ c ∈ G.channels, IsBotsCategory c
  roles : G.roles ≠ []
  fresh : G.Fresh
  distinct : (G.channels.map Channel.id).Nodup
  positive : ∀ c ∈ G.channels, 0 < c.id
  below : ∀ c ∈ G.channels, c.id < G.nextId

/-- Channels added with the next ids keep a guild ready. -/
theorem FeedReady.append {G : Guild} (ready : FeedReady G) {added : List Channel}
    (ids : added.map Channel.id = List.range' G.nextId added.length) :
    FeedReady { G with channels := G.channels ++ added, nextId := G.nextId + added.length } := by
  have newId : ∀ c ∈ added, G.nextId ≤ c.id ∧ c.id < G.nextId + added.length := fun c mem => by
    simpa [ids] using List.mem_map_of_mem Channel.id mem
  have raised : G.nextId ≤ G.nextId + added.length := Nat.le_add_right _ _
  obtain ⟨⟨c, mem, bots⟩, roles, fresh, distinct, positive, below⟩ := ready
  refine ⟨⟨c, List.mem_append_left _ mem, bots⟩, roles,
    ⟨fresh.positive.trans_le raised, fun r mem => (fresh.roles r mem).trans_le raised,
      fun p mem => (fresh.posts p mem).trans_le raised⟩, ?_, fun c mem => ?_, fun c mem => ?_⟩
  · rw [List.map_append, ids]
    refine List.nodup_append.mpr ⟨distinct, List.nodup_range' _ _, fun a old new => ?_⟩
    obtain ⟨c, cMem, rfl⟩ := List.mem_map.mp old
    exact absurd (List.mem_range'_1.mp new).1 (Nat.not_le.mpr (below c cMem))
  · rcases List.mem_append.mp mem with old | new
    · exact positive c old
    · exact fresh.positive.trans_le (newId c new).1
  · rcases List.mem_append.mp mem with old | new
    · exact (below c old).trans_le raised
    · exact (newId c new).2

/-- The channels of a ready guild, with roles and messages below a counter no
smaller, make a ready guild. -/
theorem FeedReady.raise {G G' : Guild} (ready : FeedReady G) (channels : G'.channels = G.channels)
    (roles : G'.roles ≠ []) (fresh : G'.Fresh) (counter : G.nextId ≤ G'.nextId) : FeedReady G' := by
  obtain ⟨bots, -, -, distinct, positive, below⟩ := ready
  rw [← channels] at bots distinct positive
  exact ⟨bots, roles, fresh, distinct, positive, fun c mem => (below c (channels ▸ mem)).trans_le counter⟩

/-- The pin loop keeps a guild ready. -/
theorem FeedReady.grown {G G' : Guild} (ready : FeedReady G) (grown : Grown G G') (fresh : G'.Fresh) :
    FeedReady G' :=
  ready.raise grown.channels (grown.roles ▸ ready.roles) fresh grown.counter

/-- Steps 1 to 3 of a run from a ready guild where every name is already a
channel's create nothing. -/
theorem createdChannels_present (token guildId : String) (todo : List NewChannel)
    (distinct : (todo.map NewChannel.name).Nodup) {G : Guild} (ready : FeedReady G)
    (present : ∀ chDef ∈ todo, ∃ c ∈ G.channels, c.payload.name = chDef.name) :
    (createdChannels token guildId todo).exec (step guildId) G = (.ok (feedEntries G.channels todo), G) := by
  obtain ⟨b, -, overwrites, created⟩ :=
    createdChannels_exec token guildId todo distinct ready.bots ready.distinct ready.positive ready.roles
  have listed : ∀ chDef ∈ todo, Json.str chDef.name ∈ listedNames G.channels := fun chDef mem =>
    mem_listedNames.mpr (present chDef mem)
  simpa only [feedChannels_of_listed _ _ _ _ _ listed, List.append_nil, List.length_nil, Nat.add_zero]
    using created

/-- The pin loop over the entries of a ready guild in which every name is a
channel's: it leaves each of those channels with nothing left to pin, and a run
from the guild it leaves changes nothing. -/
theorem pinEach_feedEntries_settles (token guildId : String) (newChannels : List NewChannel)
    (pinnedMessages : Dict (List String)) (distinct : (newChannels.map NewChannel.name).Nodup)
    {G : Guild} (ready : FeedReady G)
    (present : ∀ chDef ∈ newChannels, ∃ c ∈ G.channels, c.payload.name = chDef.name) :
    ∃ G₁, (pinEach ⟨token, false⟩ pinnedMessages (feedEntries G.channels newChannels)).exec (step guildId) G =
        (.ok (), G₁) ∧ Grown G G₁ ∧
      (∀ chDef ∈ newChannels, ∃ c ∈ G₁.channels, c.payload.name = chDef.name ∧
        PinsDone G₁ c (messagesOf pinnedMessages chDef.name)) ∧
      (main token guildId false newChannels pinnedMessages).exec (step guildId) G₁ = (.ok (), G₁) := by
  have live : (⟨token, false⟩ : DiscordClient).dryRun = false := rfl
  have found := feedEntries_found ready.distinct present
  obtain ⟨G₁, pinned, grown, fresh₁, done⟩ := pinEach_settles live guildId pinnedMessages _ G
    (fun e mem => let ⟨c, _, same, lookup, _⟩ := found e mem; ⟨c, same, lookup⟩) ready.fresh
  refine ⟨G₁, pinned, grown, fun chDef mem => ?_, ?_⟩
  · have entry := List.mem_map_of_mem (fun chDef : NewChannel => (chDef.name, namedId G.channels chDef.name)) mem
    obtain ⟨c, cMem, -, lookup, named⟩ := found _ entry
    exact ⟨c, grown.channels ▸ cMem, named, done _ entry c lookup⟩
  -- the second run finds every name, so it creates nothing and finds every pin done
  have present₁ : ∀ chDef ∈ newChannels, ∃ c ∈ G₁.channels, c.payload.name = chDef.name := by
    rw [grown.channels]
    exact present
  rw [main_live_eq, exec_bind_of_ok (createdChannels_present token guildId newChannels distinct
    (ready.grown grown fresh₁) present₁)]
  refine pinEach_quiet live guildId pinnedMessages _ G₁ fun e mem => ?_
  rw [grown.channels] at mem
  obtain ⟨c, -, same, lookup, -⟩ := found e mem
  exact ⟨c, same, (grown.channel?_eq _).trans lookup, done e mem c lookup⟩

/-- A live run from a ready guild: the missing channels are created under a
`BOTS` category, the pin loop only adds messages and pins after that, and the
run after it changes nothing. -/
theorem main_exec_ready (token guildId : String) (newChannels : List NewChannel)
    (pinnedMessages : Dict (List String)) (distinct : (newChannels.map NewChannel.name).Nodup)
    {G : Guild} (ready : FeedReady G) :
    ∃ b, LastBots G.channels b ∧ ∃ overwrites G₁,
      (main token guildId false newChannels pinnedMessages).exec (step guildId) G = (.ok (), G₁) ∧
      Grown { G with
        channels :=
          G.channels ++ feedChannels (listedNames G.channels) (.num b.id) overwrites G.nextId newChannels,
        nextId := G.nextId +
          (feedChannels (listedNames G.channels) (.num b.id) overwrites G.nextId newChannels).length } G₁ ∧
      (∀ chDef ∈ newChannels, ∃ c ∈ G₁.channels, c.payload.name = chDef.name ∧
        PinsDone G₁ c (messagesOf pinnedMessages chDef.name)) ∧
      (main token guildId false newChannels pinnedMessages).exec (step guildId) G₁ = (.ok (), G₁) := by
  obtain ⟨b, last, overwrites, created⟩ :=
    createdChannels_exec token guildId newChannels distinct ready.bots ready.distinct ready.positive ready.roles
  obtain ⟨G₁, pinned, grown, done, again⟩ := pinEach_feedEntries_settles token guildId newChannels pinnedMessages
    distinct (ready.append (map_id_feedChannels _ _ _ _ _))
    (names_present G.channels (.num b.id) overwrites G.nextId newChannels)
  refine ⟨b, last, overwrites, G₁, ?_, grown, done, again⟩
  rw [main_live_eq, exec_bind_of_ok created]
  exact pinned

/-- A live run of `add_feed_channels.py` from a ready guild, and the run after
it.  The first appends `feedChannels`: under the last `BOTS` category, one
channel for each entry whose name no channel had, with the next ids.  It keeps
every channel, role, message and pin it found, and leaves each entry's name on a
channel with nothing left to pin.  The second run changes nothing: no channel is
created twice and no channel is pinned twice. -/
theorem main_settles (token guildId : String) (newChannels : List NewChannel)
    (pinnedMessages : Dict (List String)) (distinct : (newChannels.map NewChannel.name).Nodup)
    {G : Guild} (ready : FeedReady G) :
    ∃ G₁, (main token guildId false newChannels pinnedMessages).exec (step guildId) G = (.ok (), G₁) ∧
      (∃ b, LastBots G.channels b ∧ ∃ overwrites, G₁.channels =
        G.channels ++ feedChannels (listedNames G.channels) (.num b.id) overwrites G.nextId newChannels) ∧
      G₁.roles = G.roles ∧ G.posts ⊆ G₁.posts ∧ G.pins ⊆ G₁.pins ∧
      (∀ chDef ∈ newChannels, ∃ c ∈ G₁.channels, c.payload.name = chDef.name ∧
        PinsDone G₁ c (messagesOf pinnedMessages chDef.name)) ∧
      (main token guildId false newChannels pinnedMessages).exec (step guildId) G₁ = (.ok (), G₁) := by
  obtain ⟨b, last, overwrites, G₁, run₁, grown, done, again⟩ :=
    main_exec_ready token guildId newChannels pinnedMessages distinct ready
  exact ⟨G₁, run₁, ⟨b, last, overwrites, grown.channels⟩, grown.roles, grown.posts, grown.pins, done, again⟩

/-! ## After the setup script -/

/-- The guild a setup run builds is ready for the feed script when its structure
has a `BOTS` category and its catalog a role. -/
theorem FeedReady.built (s : ServerSetup) (catalog : Catalog) {G : Guild} (fresh : G.Fresh)
    (bots : ∃ cat ∈ catalog.serverStructure, upper cat.category = "BOTS") (roles : catalog.roles ≠ []) :
    FeedReady (s.built catalog G) := by
  obtain ⟨cat, catMem, named⟩ := bots
  obtain ⟨c, cMem, payload⟩ := ServerSetup.category_mem_layout
    { s with roleIds := ServerSetup.roleEntries G.nextId catalog.roles } catMem (G.nextId + catalog.roles.length)
  have inBuilt := ServerSetup.channels_built s catalog G
  refine ⟨⟨c, cMem, ?_⟩, ?_, ServerSetup.fresh_built s catalog fresh, ServerSetup.distinct_built s catalog G,
    fun c mem => ?_, fun c mem => (inBuilt c mem).2⟩
  · rw [IsBotsCategory, payload]
    exact ⟨rfl, named⟩
  · cases listed : catalog.roles with
    | nil => exact (roles listed).elim
    | cons r rest => simp [ServerSetup.built, listed, ServerSetup.placedRoles]
  · exact fresh.positive.trans_le ((Nat.le_add_right _ _).trans (inBuilt c mem).1)

namespace Shipped

/-- `NEW_CHANNELS` of `add_feed_channels.py`; its `perm_template` is never read. -/
def newChannels : List NewChannel := [
  ⟨"crypto-news", chText,
    "Aggregated crypto industry news from curated RSS sources. Powered by MonitoRSS."⟩,
  ⟨"price-ticker", chText,
    "Auto-updating price data for BTC, ETH, and top 20 by market cap. Powered by CoinTrendzBot."⟩,
  ⟨"regulatory-watch", chText,
    "Crypto regulation and legal news from SEC, CFTC, and industry sources. Powered by MonitoRSS."⟩,
  ⟨"whale-alerts", chText, "Large transaction alerts on major chains. Powered by Whale Alert Bot."⟩]

/-- A guild with a `BOTS` category and one role. -/
def botsGuild : Guild :=
  ⟨[⟨1, ⟨"BOTS", chCategory, none, [], none, none, none⟩⟩], [⟨2, ⟨"@everyone", 0, false, false, "0"⟩, 0⟩],
    [], [], 3⟩

theorem botsGuild_ready : FeedReady botsGuild :=
  ⟨⟨_, .head _, by decide⟩, List.cons_ne_nil _ _, ⟨by decide, by decide, by decide⟩, by decide, by decide,
    by decide⟩

theorem main_settles_botsGuild :
    ∃ G₁, (main "token" "g" false newChannels pinnedMessages).exec (step "g") botsGuild = (.ok (), G₁) ∧
      (main "token" "g" false newChannels pinnedMessages).exec (step "g") G₁ = (.ok (), G₁) :=
  let ⟨G₁, first, _, _, _, _, _, second⟩ :=
    main_settles "token" "g" newChannels pinnedMessages (by decide) botsGuild_ready
  ⟨G₁, first, second⟩

/-- The shipped scripts one after the other.  The shipped setup run stops at the
placeholder check with the roles and the structure created; on the guild it
leaves, the feed script finds the `BOTS` category and every feed channel, so it
creates no channel and only pins, and a second feed run changes nothing. -/
theorem feed_after_setup (token guildId : String) {G : Guild} (fresh : G.Fresh) :
    let G₀ := (((ServerSetup.new ⟨token, false⟩ guildId).run catalog).exec (step guildId) G).2
    ∃ G₁, (main token guildId false newChannels pinnedMessages).exec (step guildId) G₀ = (.ok (), G₁) ∧
      G₁.channels = G₀.channels ∧ G₁.roles = G₀.roles ∧
      (∀ chDef ∈ newChannels, ∃ c ∈ G₁.channels, c.payload.name = chDef.name ∧
        PinsDone G₁ c (messagesOf pinnedMessages chDef.name)) ∧
      (main token guildId false newChannels pinnedMessages).exec (step guildId) G₁ = (.ok (), G₁) := by
  intro G₀
  have stopped : G₀ = (ServerSetup.new ⟨token, false⟩ guildId).built catalog G :=
    congrArg Prod.snd (ServerSetup.run_halts_built token guildId catalog fresh anyPlaceholder_catalog
      (by decide) (by decide) (by decide))
  clear_value G₀
  subst stopped
  have ready := FeedReady.built (ServerSetup.new ⟨token, false⟩ guildId) catalog fresh (by decide)
    (List.cons_ne_nil _ _)
  have declared : ∀ chDef ∈ newChannels, chDef.name ∈
      catalog.serverStructure.flatMap fun cat => cat.category :: cat.channels.map ChannelDef.name := by
    decide
  have present : ∀ chDef ∈ newChannels, ∃ c ∈ ((ServerSetup.new ⟨token, false⟩ guildId).built catalog G).channels,
      c.payload.name = chDef.name := by
    intro chDef mem
    have named : chDef.name ∈
        ((ServerSetup.new ⟨token, false⟩ guildId).built catalog G).channels.map (·.payload.name) := by
      simp only [ServerSetup.built, ServerSetup.names_layout]
      exact declared chDef mem
    simpa using named
  obtain ⟨G₁, pinned, grown, done, again⟩ :=
    pinEach_feedEntries_settles token guildId newChannels pinnedMessages (by decide) ready present
  refine ⟨G₁, ?_, grown.channels, grown.roles, done, again⟩
  rw [main_live_eq, exec_bind_of_ok (createdChannels_present token guildId newChannels (by decide) ready present)]
  exact pinned

theorem feed_after_setup_emptyGuild :
    let G₀ := (((ServerSetup.new ⟨"token", false⟩ "g").run catalog).exec (step "g") ServerSetup.emptyGuild).2
    ∃ G₁, (main "token" "g" false newChannels pinnedMessages).exec (step "g") G₀ = (.ok (), G₁) ∧
      G₁.channels = G₀.channels :=
  let ⟨G₁, ran, same, _⟩ := @feed_after_setup "token" "g" ServerSetup.emptyGuild
    ⟨Nat.one_pos, by simp [ServerSetup.emptyGuild], by simp [ServerSetup.emptyGuild]⟩
  ⟨G₁, ran, same⟩

end Shipped

end Discord
end Rill
