import Rill.Discord.AddFeed
import Mathlib.Data.List.Nodup

/-!
# Runs of the feed-channel script

`add_feed_channels.py` run again and again against one guild with no other
writer.  The guild's channels are the ones it started with and the replies of
the creations that succeeded; an honest Discord lists them all and answers a
creation with a channel of the name asked for, while every request may fail or
raise.  Then across any number of runs each `NEW_CHANNELS` name is created at
most once, never when a channel of that name existed before the first run, and
always under a live `BOTS` category.

Each run lists the channels first: what it creates afterwards depends only on
that listing (`RunFacts`), and the guild invariant `FeedInv` follows from one
run to the next.
-/

namespace Rill
namespace Discord

/-! ## The guild's channels -/

/-- The payload of a channel creation. -/
def creation? : Request → Option ChannelPayload
  | ⟨.post, .guildChannels _, some (.channel payload)⟩ => some payload
  | _ => none

/-- The channel a message send or a pin writes to. -/
def pinTarget? : Request → Option Json
  | ⟨.post, .channelMessages chId, some (.message _)⟩ => some chId
  | ⟨.put, .channelPin chId _, none⟩ => some chId
  | _ => none

/-- The channel a successful creation added: its reply. -/
def created? (e : Exchange) : Option Json :=
  match creation? e.1, e.2 with
  | some _, .reply (some r) => some r
  | _, _ => none

/-- The name a successful creation asked for. -/
def createdName? (e : Exchange) : Option String :=
  match creation? e.1, e.2 with
  | some payload, .reply (some _) => some payload.name
  | _, _ => none

/-- The guild's channels after the exchanges `h`, from the channels `init`. -/
def channelsAt (init : List Json) (h : List Exchange) : List Json :=
  init ++ h.filterMap created?

/-- The payloads of the channel creations of `h`, in order. -/
def creations (h : List Exchange) : List ChannelPayload := h.filterMap fun e => creation? e.1

/-- The names of the channel creations of `h` that succeeded. -/
def createdNames (h : List Exchange) : List String := h.filterMap createdName?

theorem channelsAt_append (init : List Json) (h h' : List Exchange) :
    channelsAt init (h ++ h') = channelsAt init h ++ h'.filterMap created? := by
  simp [channelsAt, List.filterMap_append]

theorem channelsAt_mono (init : List Json) (h h' : List Exchange) {ch : Json}
    (mem : ch ∈ channelsAt init h) : ch ∈ channelsAt init (h ++ h') := by
  rw [channelsAt_append]
  exact List.mem_append_left _ mem

@[simp] theorem creations_append (h h' : List Exchange) :
    creations (h ++ h') = creations h ++ creations h' := List.filterMap_append _ _ _

@[simp] theorem createdNames_append (h h' : List Exchange) :
    createdNames (h ++ h') = createdNames h ++ createdNames h' := List.filterMap_append _ _ _

@[simp] theorem creations_singleton (e : Exchange) : creations [e] = (creation? e.1).toList := by
  simp only [creations, List.filterMap_cons, List.filterMap_nil]
  cases creation? e.1 <;> rfl

theorem createdName?_eq_some {e : Exchange} {n : String} (found : createdName? e = some n) :
    ∃ payload r, creation? e.1 = some payload ∧ payload.name = n ∧ e.2 = .reply (some r) ∧
      created? e = some r := by
  unfold createdName? at found
  split at found
  · next payload r creation reply =>
      cases found
      exact ⟨payload, r, creation, rfl, reply, by simp [created?, creation, reply]⟩
  · cases found

/-- A successful creation is a creation. -/
theorem createdNames_sublist (h : List Exchange) :
    (createdNames h).Sublist ((creations h).map ChannelPayload.name) := by
  induction h with
  | nil => exact .slnil
  | cons e rest ih =>
      obtain ⟨q, a⟩ := e
      simp only [createdNames, creations, List.filterMap_cons] at ih ⊢
      cases found : creation? q with
      | none => simpa [createdName?, found] using ih
      | some payload =>
          rcases a with _ | _ | r
          · simpa [createdName?, found] using ih.cons payload.name
          · simpa [createdName?, found] using ih.cons payload.name
          · simpa [createdName?, found] using ih.cons₂ payload.name

/-! ## What Discord answers -/

/-- A creation in `e` that succeeded replied with a channel of the name it
asked for. -/
def NamedReply (e : Exchange) : Prop :=
  ∀ payload, creation? e.1 = some payload → ∀ r, e.2 = .reply (some r) →
    r.field? "name" = some (.str payload.name)

/-- What an honest Discord answers when the guild holds `channels`: a listing
that succeeds lists them all, and a creation that succeeds replies with a
channel of the name asked for.  Any request may fail or raise, and a request
that does changes nothing. -/
def Honest (channels : List Json) (q : Request) (a : Answer (Option Json)) : Prop :=
  (q.kind = .listChannels → ∀ r, a = .reply (some r) → r = .arr channels) ∧ NamedReply ⟨q, a⟩

/-- A name created with an honest reply is the name of a channel the creation
added. -/
theorem createdName_listed {h : List Exchange} (named : ∀ e ∈ h, NamedReply e) {n : String}
    (mem : n ∈ createdNames h) : ∃ ch ∈ h.filterMap created?, ch.field? "name" = some (.str n) := by
  obtain ⟨e, logged, found⟩ := List.mem_filterMap.mp mem
  obtain ⟨payload, r, creation, rfl, reply, added⟩ := createdName?_eq_some found
  exact ⟨r, List.mem_filterMap.mpr ⟨e, logged, added⟩, named e logged payload creation r reply⟩

/-- A channel the script takes for the `BOTS` category: type 4 and a name whose
upper case is `BOTS`. -/
def IsBots (ch : Json) : Prop :=
  ch.field? "type" = some (.num 4) ∧ ∃ name, ch.field? "name" = some (.str name) ∧ upper name = "BOTS"

/-! ## The listing loop -/

/-- The `BOTS` test keeps the id it had or takes the id of a `BOTS`
category. -/
theorem botsIdOf?_spec {ch botsId found : Json} (result : botsIdOf? ch botsId = some found) :
    found = botsId ∨ IsBots ch ∧ ch.field? "id" = some found := by
  simp only [botsIdOf?, Option.bind_eq_bind, Option.bind_eq_some] at result
  obtain ⟨type, typed, result⟩ := result
  by_cases four : type = .num 4
  · rw [if_pos four] at result
    simp only [Option.bind_eq_some] at result
    obtain ⟨name, named, text, isText, result⟩ := result
    by_cases isBots : upper text = "BOTS"
    · rw [if_pos isBots] at result
      subst four
      cases name <;> simp only [Json.asString?, Option.some.injEq, reduceCtorEq] at isText
      subst isText
      rcases Json.getD?_eq_some typed with typeField | ⟨-, nope⟩
      · rcases Json.getD?_eq_some named with nameField | ⟨-, empty⟩
        · exact .inr ⟨⟨typeField, _, nameField, isBots⟩, result⟩
        · cases empty
          exact absurd isBots (by decide)
      · cases nope
    · rw [if_neg isBots] at result
      exact .inl (Option.some.inj result).symm
  · rw [if_neg four] at result
    exact .inl (Option.some.inj result).symm

/-- The listing loop keeps every listed name and takes the `BOTS` id from a
listed `BOTS` category. -/
theorem scanChannels_spec (channels : List Json) :
    ∀ (botsId : Json) (names : List Json) (result : Json × List Json),
      scanChannels channels botsId names = some result →
        (∀ n ∈ names, n ∈ result.2) ∧
        (∀ ch ∈ channels, ∀ n, ch.field? "name" = some (.str n) → .str n ∈ result.2) ∧
        (result.1 = botsId ∨ ∃ ch ∈ channels, IsBots ch ∧ ch.field? "id" = some result.1) := by
  induction channels with
  | nil =>
      rintro botsId names result ⟨⟩
      exact ⟨fun _ => id, List.forall_mem_nil _, .inl rfl⟩
  | cons ch rest ih =>
      intro botsId names result scanned
      simp only [scanChannels, Option.bind_eq_bind, Option.bind_eq_some] at scanned
      obtain ⟨botsId', found, name, named, next⟩ := scanned
      split at next
      · obtain ⟨kept, seen, bots⟩ := ih botsId' (names ++ [name]) result next
        refine ⟨fun n mem => kept n (List.mem_append_left _ mem), ?_, ?_⟩
        · intro ch' mem n field
          rcases List.mem_cons.mp mem with rfl | later
          · rw [Json.getD?_of_field? field] at named
            cases named
            exact kept _ (List.mem_append_right _ (List.mem_singleton_self _))
          · exact seen ch' later n field
        · rcases bots with same | ⟨ch', mem, isBots, id⟩
          · rw [same]
            rcases botsIdOf?_spec found with kept | ⟨isBots, id⟩
            · exact .inl kept
            · exact .inr ⟨ch, List.mem_cons_self _ _, isBots, id⟩
          · exact .inr ⟨ch', List.mem_cons_of_mem _ mem, isBots, id⟩
      · cases next

/-! ## One run -/

/-- What one run guarantees of its own exchanges `w`, given that its listing
showed `listed` and that it may create the names of `names`, in order. -/
structure RunFacts (listed : List Json) (names : List String) (w : List Exchange) : Prop where
  /-- It creates names of `names`, in order, each at most once. -/
  sublist : ((creations w).map ChannelPayload.name).Sublist names
  /-- It creates no name a listed channel has. -/
  unlisted : ∀ p ∈ creations w, ∀ ch ∈ listed, ch.field? "name" ≠ some (.str p.name)
  /-- It creates every channel under a listed `BOTS` category. -/
  parented : ∀ p ∈ creations w, ∃ ch ∈ listed, IsBots ch ∧ ch.field? "id" = p.parentId
  /-- Each creation that succeeded made a channel of its name. -/
  named : ∀ e ∈ w, NamedReply e

namespace RunFacts

variable {listed : List Json} {names : List String} {w : List Exchange}

theorem nil (listed : List Json) (names : List String) : RunFacts listed names [] :=
  ⟨List.nil_sublist _, List.forall_mem_nil _, List.forall_mem_nil _, List.forall_mem_nil _⟩

/-- An exchange that creates no channel keeps the facts. -/
theorem quiet {e : Exchange} (other : creation? e.1 = none) (facts : RunFacts listed names w) :
    RunFacts listed names (w ++ [e]) := by
  obtain ⟨sublist, unlisted, parented, named⟩ := facts
  have same : creations (w ++ [e]) = creations w := by simp [other]
  refine ⟨same ▸ sublist, same ▸ unlisted, same ▸ parented, List.forall_mem_append.mpr ⟨named,
    List.forall_mem_singleton.mpr fun payload creation => nomatch other.symm.trans creation⟩⟩

theorem widen (more : List String) (facts : RunFacts listed names w) :
    RunFacts listed (names ++ more) w :=
  { facts with sublist := facts.sublist.trans (List.sublist_append_left _ _) }

/-- A creation of an unlisted name under a listed `BOTS` category keeps the
facts, with its name added to the names it may create. -/
theorem create {q : Request} {a : Answer (Option Json)} {payload : ChannelPayload}
    (facts : RunFacts listed names w) (creation : creation? q = some payload)
    (named : NamedReply ⟨q, a⟩)
    (unlisted : ∀ ch ∈ listed, ch.field? "name" ≠ some (.str payload.name))
    (parented : ∃ ch ∈ listed, IsBots ch ∧ ch.field? "id" = payload.parentId) :
    RunFacts listed (names ++ [payload.name]) (w ++ [⟨q, a⟩]) := by
  obtain ⟨sublist, unlisted', parented', named'⟩ := facts
  have grown : creations (w ++ [⟨q, a⟩]) = creations w ++ [payload] := by simp [creation]
  refine ⟨?_, ?_, ?_, List.forall_mem_append.mpr ⟨named', List.forall_mem_singleton.mpr named⟩⟩ <;>
    rw [grown]
  · simpa using sublist.append (List.Sublist.refl [payload.name])
  · exact List.forall_mem_append.mpr ⟨unlisted', List.forall_mem_singleton.mpr unlisted⟩
  · exact List.forall_mem_append.mpr ⟨parented', List.forall_mem_singleton.mpr parented⟩

end RunFacts

/-- The outside of a run after the exchanges `hprev`: each answer is honest for
the channels the guild holds at that moment. -/
def feedEnv (init : List Json) (hprev : List Exchange) :=
  Prog.logs fun w => Honest (channelsAt init (hprev ++ w))

section Run

variable {init : List Json} {hprev : List Exchange} {client : DiscordClient}

/-- The creation loop creates, in order, the entries whose name it did not see
listed, each under the `BOTS` category it found. -/
theorem createEach_sat (live : client.dryRun = false) {guildId : String}
    {listed channels existing : List Json} {botsId : Json} {overwrites : List Overwrite}
    (seen : ∀ ch ∈ listed, ∀ n, ch.field? "name" = some (.str n) → Json.str n ∈ existing)
    (bots : ∃ ch ∈ listed, IsBots ch ∧ ch.field? "id" = some botsId) (todo : List NewChannel) :
    ∀ (created : Dict Json) (names : List String) (w : List Exchange), RunFacts listed names w →
      Prog.Sat (feedEnv init hprev)
        (fun _ w' => RunFacts listed (names ++ todo.map NewChannel.name) w')
        (fun _ w' => RunFacts listed (names ++ todo.map NewChannel.name) w')
        (createEach client guildId channels existing botsId overwrites todo created) w := by
  induction todo with
  | nil => exact fun _ names w facts => by simpa using facts
  | cons chDef rest ih =>
      intro created names w facts
      have done : ∀ w, RunFacts listed (names ++ [chDef.name]) w →
          RunFacts listed (names ++ (chDef :: rest).map NewChannel.name) w := fun w facts => by
        simpa using facts.widen (rest.map NewChannel.name)
      have next : ∀ created w, RunFacts listed (names ++ [chDef.name]) w →
          Prog.Sat (feedEnv init hprev)
            (fun _ w' => RunFacts listed (names ++ (chDef :: rest).map NewChannel.name) w')
            (fun _ w' => RunFacts listed (names ++ (chDef :: rest).map NewChannel.name) w')
            (createEach client guildId channels existing botsId overwrites rest created) w :=
        fun created w facts => by simpa using ih created _ w facts
      unfold createEach
      split
      · rw [Prog.sat_bind, Prog.sat_ofOption]
        exact ⟨fun _ => done w (facts.widen _), fun _ _ => next _ w (facts.widen _)⟩
      · rename_i fresh
        simp only [DiscordClient.post, DiscordClient.request_live _ live, Prog.call_bind,
          Prog.sat_call, Prog.pure_bind']
        rintro a _ ⟨honest, rfl⟩
        have facts' := facts.create (q := ⟨.post, .guildChannels guildId,
            some (.channel (feedPayload botsId overwrites chDef))⟩) rfl honest.2
          (fun ch mem named => fresh (seen ch mem _ named)) bots
        cases a with
        | raised => exact done _ facts'
        | reply result =>
            dsimp only
            rcases result with _ | r
            · exact next _ _ facts'
            · dsimp only
              split
              · rw [Prog.sat_bind, Prog.sat_ofOption]
                exact ⟨fun _ => done _ facts', fun _ _ => next _ _ facts'⟩
              · exact next _ _ facts'

/-- Sending and pinning create no channel and write to the channel given. -/
theorem sendEach_only (live : client.dryRun = false) (chId : Json) (messages : List String) :
    Prog.Only (fun q => creation? q = none ∧ pinTarget? q = some chId) (fun _ => True)
      (fun _ => True) (sendEach client chId messages) := by
  induction messages with
  | nil => trivial
  | cons message rest ih =>
      unfold sendEach
      split
      · exact ih
      · simp only [live, DiscordClient.post, DiscordClient.put, DiscordClient.request_live _ live,
          Prog.call_bind, Prog.pure_bind', Prog.only_call]
        refine ⟨⟨rfl, rfl⟩, fun sendResult => ?_⟩
        rcases sendResult with _ | r
        · exact ih
        · dsimp only
          split
          · simp only [Prog.only_bind, Prog.only_ofOption]
            refine ⟨fun _ => trivial, fun msgId _ => ?_⟩
            split
            · exact ⟨⟨rfl, rfl⟩, fun _ => ih⟩
            · exact ih
          · exact ih

theorem pinEach_only (live : client.dryRun = false) (pinnedMessages : Dict (List String))
    (created : List (String × Json)) :
    Prog.Only (fun q => creation? q = none) (fun _ => True) (fun _ => True)
      (pinEach client pinnedMessages created) := by
  induction created with
  | nil => trivial
  | cons entry rest ih =>
      obtain ⟨name, chId⟩ := entry
      unfold pinEach
      dsimp only
      split
      · exact ih
      · simp only [live, DiscordClient.get, DiscordClient.request_live _ live, Prog.map_eq_bind,
          Prog.call_bind, Prog.pure_bind', Prog.only_call, Bool.not_false, ↓reduceIte]
        refine ⟨rfl, fun pins => ?_⟩
        split
        · exact ih
        · exact (Prog.only_bind _ _).mpr ((sendEach_only live chId _).mono (fun _ => And.left)
            (fun _ => id) fun _ _ => ih)

/-- One live run of `main` against an honest Discord, after the exchanges
`hprev`: what it creates depends only on the channels it listed, which are
those the guild held when it started. -/
theorem main_sat (token guildId : String) (newChannels : List NewChannel)
    (pinnedMessages : Dict (List String)) :
    Prog.Sat (feedEnv init hprev)
      (fun _ w => RunFacts (channelsAt init hprev) (newChannels.map NewChannel.name) w)
      (fun _ w => RunFacts (channelsAt init hprev) (newChannels.map NewChannel.name) w)
      (main token guildId false newChannels pinnedMessages) [] := by
  have live : (⟨token, false⟩ : DiscordClient).dryRun = false := rfl
  simp only [main, DiscordClient.get, DiscordClient.request_live _ live, Prog.call_bind,
    Prog.sat_call, Prog.pure_bind']
  rintro a _ ⟨honest, rfl⟩
  have facts := (RunFacts.nil (channelsAt init hprev) []).quiet
    (e := ⟨⟨.get, .guildChannels guildId, none⟩, a⟩) rfl
  cases a with
  | raised => exact facts.widen _
  | reply channelsResult =>
      dsimp only
      rw [if_neg Bool.false_ne_true]
      split
      · next first others =>
          have listed : channelsAt init hprev = first :: others := by
            simpa using (honest.1 rfl _ rfl).symm
          rw [Prog.sat_bind, Prog.sat_ofOption]
          refine ⟨fun _ => facts.widen _, ?_⟩
          rintro ⟨botsId, existing⟩ scanned
          obtain ⟨-, seen, bots⟩ := scanChannels_spec _ _ _ _ scanned
          rw [← listed] at seen bots
          dsimp only
          split
          · exact facts.widen _
          · rename_i truthy
            have bots : ∃ ch ∈ channelsAt init hprev, IsBots ch ∧ ch.field? "id" = some botsId :=
              bots.resolve_left fun null => by
                simp only at null
                subst null
                exact truthy rfl
            simp only [DiscordClient.request_live _ live, Prog.call_bind, Prog.sat_call,
              Prog.pure_bind']
            rintro a _ ⟨-, rfl⟩
            have facts' := facts.quiet (e := ⟨⟨.get, .guildRoles guildId, none⟩, a⟩) rfl
            cases a with
            | raised => exact facts'.widen _
            | reply roles =>
                dsimp only
                split
                · rw [Prog.sat_bind, Prog.sat_ofOption]
                  refine ⟨fun _ => facts'.widen _, fun roleIds _ => ?_⟩
                  rw [Prog.sat_bind]
                  refine (createEach_sat live seen bots newChannels [] [] _ facts').mono
                    (fun _ w facts => ?_) fun _ _ => id
                  exact ((pinEach_only live pinnedMessages _).sat _ trivial
                    (fun q w a w' other facts ⟨_, same⟩ => same ▸ facts.quiet other)
                    facts).mono (fun _ _ => And.right) fun _ _ => And.right
                · exact facts'.widen _
      · exact facts.widen _

end Run

/-! ## A Discord that follows the rules -/

/-- A guild with one `BOTS` category. -/
def botsCategory : Json := .obj [("id", .str "10"), ("type", .num 4), ("name", .str "BOTS")]

/-- One `NEW_CHANNELS` entry. -/
def cryptoNews : NewChannel := ⟨"crypto-news", 0, "News."⟩

/-- One catalog message for it. -/
def welcomePins : Dict (List String) := [("crypto-news", ["Welcome"])]

/-- A Discord whose guild started with `botsCategory` alone: it lists every
channel, answers a creation with a channel of the name asked for and the id
"20", gives a message the number of exchanges before it as its id, and answers
a pins lookup with `pins`. -/
def feedServer (pins : List Exchange → Json → Answer (Option Json)) : Server
  | h, ⟨.get, .guildChannels _, none⟩ => .reply (some (.arr (channelsAt [botsCategory] h)))
  | _, ⟨.get, .guildRoles _, none⟩ =>
      .reply (some (.arr [.obj [("name", .str "Unverified"), ("id", .str "5")]]))
  | _, ⟨.post, .guildChannels _, some (.channel payload)⟩ =>
      .reply (some (.obj [("id", .str "20"), ("type", .num payload.type),
        ("name", .str payload.name)]))
  | h, ⟨.get, .channelPins chId, none⟩ => pins h chId
  | h, ⟨.post, .channelMessages _, some (.message _)⟩ => .reply (some (.obj [("id", .num h.length)]))
  | _, _ => .reply (some (.obj []))

/-- The creation in `e`, if any, puts its channel under a `BOTS` category of
`channels`. -/
def UnderBots (channels : List Json) (e : Exchange) : Prop :=
  ∀ payload, creation? e.1 = some payload →
    ∃ ch ∈ channels, IsBots ch ∧ ch.field? "id" = payload.parentId

/-- What the exchanges `h` of the runs so far guarantee, from a guild that
held `init`. -/
structure FeedInv (init : List Json) (h : List Exchange) : Prop where
  /-- Each creation that succeeded made a channel of its name. -/
  named : ∀ e ∈ h, NamedReply e
  /-- No name was created twice. -/
  once : (createdNames h).Nodup
  /-- No creation asked for the name of a channel of `init`. -/
  fresh : ∀ p ∈ creations h, ∀ ch ∈ init, ch.field? "name" ≠ some (.str p.name)
  /-- Every creation went under a `BOTS` category the guild held at that
  moment. -/
  parented : Logged (fun pre e => UnderBots (channelsAt init pre) e) h

theorem FeedInv.nil (init : List Json) : FeedInv init [] :=
  ⟨List.forall_mem_nil _, .nil, List.forall_mem_nil _, Logged.nil⟩

/-- A run whose facts hold for the channels the guild held when it started
keeps the invariant. -/
theorem FeedInv.append {init : List Json} {names : List String} (distinct : names.Nodup)
    {h w : List Exchange} (inv : FeedInv init h) (facts : RunFacts (channelsAt init h) names w) :
    FeedInv init (h ++ w) := by
  obtain ⟨named, once, fresh, parented⟩ := inv
  refine ⟨List.forall_mem_append.mpr ⟨named, facts.named⟩, ?_, ?_, ?_⟩
  · rw [createdNames_append]
    refine List.nodup_append.mpr
      ⟨once, distinct.sublist ((createdNames_sublist w).trans facts.sublist), ?_⟩
    intro n old new
    obtain ⟨ch, added, nameField⟩ := createdName_listed named old
    obtain ⟨p, created, rfl⟩ := List.mem_map.mp ((createdNames_sublist w).subset new)
    exact facts.unlisted p created ch (List.mem_append_right _ added) nameField
  · rw [creations_append]
    exact List.forall_mem_append.mpr ⟨fresh, fun p created ch first =>
      facts.unlisted p created ch (List.mem_append_left _ first)⟩
  · refine (Logged.append h w).mpr ⟨parented, fun pre e prefixed p creation => ?_⟩
    have logged : e ∈ w := prefixed.subset (List.mem_append_right _ (List.mem_singleton_self _))
    obtain ⟨ch, listed, isBots, id⟩ :=
      facts.parented p (List.mem_filterMap.mpr ⟨e, logged, creation⟩)
    exact ⟨ch, channelsAt_mono init h pre listed, isBots, id⟩

theorem feedHistory_append (runs : List FeedRun) (run : FeedRun) :
    feedHistory (runs ++ [run]) = feedHistory runs ++ run.2 := by
  simp [feedHistory]

/-- One more live run against an honest Discord keeps the invariant. -/
theorem FeedInv.next (token guildId : String) {newChannels : List NewChannel}
    (pinnedMessages : Dict (List String)) (distinct : (newChannels.map NewChannel.name).Nodup)
    {init : List Json} {server : Server} (honest : ∀ h q, Honest (channelsAt init h) q (server h q))
    {runs : List FeedRun} (inv : FeedInv init (feedHistory runs)) :
    FeedInv init (feedHistory (runs ++ [(main token guildId false newChannels pinnedMessages).exec
      (Prog.oracle fun h => server (feedHistory runs ++ h)) []])) := by
  have allowed := @Prog.oracle_allowed Request (fun _ => Option Json)
    (fun w => Honest (channelsAt init (feedHistory runs ++ w)))
    (fun h => server (feedHistory runs ++ h)) fun h q => honest _ q
  have ends := Prog.Sat.exec allowed (main_sat token guildId newChannels pinnedMessages)
  rw [feedHistory_append]
  refine inv.append distinct ?_
  revert ends
  rcases Prog.exec _ (main token guildId false newChannels pinnedMessages) [] with ⟨_ | _, w⟩ <;>
    exact id

/-- Any number of live runs keeps the invariant. -/
theorem FeedInv.loop (token guildId : String) {newChannels : List NewChannel}
    (pinnedMessages : Dict (List String)) (distinct : (newChannels.map NewChannel.name).Nodup)
    {init : List Json} {server : Server} (honest : ∀ h q, Honest (channelsAt init h) q (server h q)) :
    ∀ (count : Nat) (runs : List FeedRun), FeedInv init (feedHistory runs) →
      FeedInv init (feedHistory (feedRuns token guildId newChannels pinnedMessages server count runs))
  | 0, _, inv => inv
  | count + 1, _, inv =>
      FeedInv.loop token guildId pinnedMessages distinct honest count _
        (inv.next token guildId pinnedMessages distinct honest)

end Discord
end Rill
