import Rill.Discord.FeedRuns

/-!
# The pins guard across runs

`add_feed_channels.py` skips the pin stage of a channel whose pins lookup
lists a pin.  A lookup that fails returns `None`, which the guard reads as no
pin: the run then sends the catalog messages again and pins the copies beside
the ones pinned before.  When every lookup succeeds and lists the pins made so
far, the guard does its work: a channel one run pinned in receives no message
and no pin from a later run.
-/

namespace Rill
namespace Discord

/-! ## A pins lookup that fails -/

/-- Pins lookups that find no pin in the first run and fail in every later
one. -/
def lookupFailsLater (h : List Exchange) (_ : Json) : Answer (Option Json) :=
  if h.countP (fun e => e.1.kind = .listChannels) = 1 then .reply (some (.arr [])) else .reply none

/-- The pins lookup guards the sending: when it fails in a later run, that run
sends the catalog message again and pins the copy beside the one pinned
before. -/
theorem feedRuns_repin_after_failed_lookup :
    (feedRuns "token" "g" [cryptoNews] welcomePins (feedServer lookupFailsLater) 2 []).map
        (fun run => run.2.filter fun e => e.1.kind ∈ [.listPins, .sendMessage, .pinMessage]) =
      [[⟨⟨.get, .channelPins (.str "20"), none⟩, .reply (some (.arr []))⟩,
        ⟨⟨.post, .channelMessages (.str "20"), some (.message "Welcome")⟩,
          .reply (some (.obj [("id", .num 4)]))⟩,
        ⟨⟨.put, .channelPin (.str "20") (.num 4), none⟩, .reply (some (.obj []))⟩],
       [⟨⟨.get, .channelPins (.str "20"), none⟩, .reply none⟩,
        ⟨⟨.post, .channelMessages (.str "20"), some (.message "Welcome")⟩,
          .reply (some (.obj [("id", .num 9)]))⟩,
        ⟨⟨.put, .channelPin (.str "20") (.num 9), none⟩, .reply (some (.obj []))⟩]] := by
  decide

/-! ## Pins lookups that succeed -/

/-- The channel of a pin that succeeded. -/
def pinned? : Exchange → Option Json
  | ⟨⟨.put, .channelPin chId _, none⟩, .reply (some _)⟩ => some chId
  | _ => none

/-- The channels the successful pins of `h` went to. -/
def pinnedChannels (h : List Exchange) : List Json := h.filterMap pinned?

@[simp] theorem pinnedChannels_append (h h' : List Exchange) :
    pinnedChannels (h ++ h') = pinnedChannels h ++ pinnedChannels h' := List.filterMap_append _ _ _

/-- A pins lookup that never fails and finds a pin in every channel the
exchanges `h` pinned in; it may still raise. -/
def PinsKnown (h : List Exchange) (q : Request) (a : Answer (Option Json)) : Prop :=
  ∀ chId, q = ⟨.get, .channelPins chId, none⟩ →
    a ≠ .reply none ∧ (chId ∈ pinnedChannels h → ∀ r, a = .reply (some r) → hasPins (some r) = true)

/-- Every send and pin of `w` goes to a channel no pin of `hprev` went to. -/
def PinFresh (hprev w : List Exchange) : Prop :=
  ∀ e ∈ w, ∀ chId, pinTarget? e.1 = some chId → chId ∉ pinnedChannels hprev

namespace PinFresh

variable {hprev w : List Exchange}

theorem append {e : Exchange} (fresh : PinFresh hprev w)
    (target : ∀ chId, pinTarget? e.1 = some chId → chId ∉ pinnedChannels hprev) :
    PinFresh hprev (w ++ [e]) :=
  List.forall_mem_append.mpr ⟨fresh, List.forall_mem_singleton.mpr target⟩

/-- An exchange that sends and pins nothing keeps the guarantee. -/
theorem quiet {e : Exchange} (other : pinTarget? e.1 = none) (fresh : PinFresh hprev w) :
    PinFresh hprev (w ++ [e]) :=
  fresh.append fun _ target => nomatch other.symm.trans target

end PinFresh

section Pins

variable {hprev : List Exchange} {client : DiscordClient}

/-- The creation loop sends and pins nothing, and the names it resolves follow
`NEW_CHANNELS`. -/
theorem createEach_resolves (live : client.dryRun = false)
    (guildId : String) (channels existing : List Json) (botsId : Json)
    (overwrites : List Overwrite) (todo : List NewChannel) :
    ∀ created : Dict Json, Prog.Only (fun q => pinTarget? q = none) (fun _ => True)
      (fun created' : Dict Json => created'.keys.Sublist (created.keys ++ todo.map NewChannel.name))
      (createEach client guildId channels existing botsId overwrites todo created) := by
  induction todo with
  | nil => intro created; simp [createEach]
  | cons chDef rest ih =>
      intro created
      have next : ∀ grown : Dict Json, grown.keys.Sublist (created.keys ++ [chDef.name]) →
          Prog.Only (fun q => pinTarget? q = none) (fun _ => True)
            (fun created' : Dict Json =>
              created'.keys.Sublist (created.keys ++ (chDef :: rest).map NewChannel.name))
            (createEach client guildId channels existing botsId overwrites rest grown) :=
        fun grown sub => (ih grown).mono (fun _ => id) (fun _ => id) fun _ found =>
          found.trans (by simpa using sub.append_right (rest.map NewChannel.name))
      have kept : created.keys.Sublist (created.keys ++ [chDef.name]) :=
        List.sublist_append_left _ _
      unfold createEach
      split
      · simp only [Prog.only_bind, Prog.only_ofOption]
        refine ⟨fun _ => trivial, fun found _ => ?_⟩
        rcases found with _ | chId
        · exact next _ kept
        · exact next _ (Dict.keys_insert_sublist _ _ _)
      · simp only [DiscordClient.post, DiscordClient.request_live _ live, Prog.call_bind,
          Prog.pure_bind', Prog.only_call]
        refine ⟨rfl, fun result => ?_⟩
        rcases result with _ | r
        · exact next _ kept
        · dsimp only
          split
          · simp only [Prog.map_eq_bind, Prog.bind_assoc', Prog.only_bind, Prog.only_ofOption,
              Prog.pure_bind']
            exact ⟨fun _ => trivial, fun _ _ => next _ (Dict.keys_insert_sublist _ _ _)⟩
          · exact next _ kept

theorem createdChannels_resolves (token guildId : String) (newChannels : List NewChannel) :
    Prog.Only (fun q => pinTarget? q = none) (fun _ => True)
      (fun created : Dict Json => created.keys.Sublist (newChannels.map NewChannel.name))
      (createdChannels token guildId newChannels) := by
  have live : (⟨token, false⟩ : DiscordClient).dryRun = false := rfl
  simp only [createdChannels, DiscordClient.get, DiscordClient.request_live _ live, Prog.call_bind,
    Prog.pure_bind', Prog.only_call]
  refine ⟨rfl, fun channelsResult => ?_⟩
  split
  · simp only [Prog.only_bind, Prog.only_ofOption]
    refine ⟨fun _ => trivial, fun ⟨botsId, existing⟩ _ => ?_⟩
    split
    · trivial
    · simp only [Prog.call_bind, Prog.pure_bind', Prog.only_call]
      refine ⟨rfl, fun roles => ?_⟩
      split
      · simp only [Prog.only_bind, Prog.only_ofOption]
        exact ⟨fun _ => trivial, fun _ _ => by
          simpa using createEach_resolves live _ _ _ _ _ newChannels []⟩
      · trivial
  · trivial

/-- The pin loop, against pins lookups that never fail and see every pin made
so far, sends and pins only in channels no earlier run pinned in. -/
theorem pinEach_sat (live : client.dryRun = false) (pinnedMessages : Dict (List String))
    (created : List (String × Json)) :
    ∀ w : List Exchange, PinFresh hprev w →
      Prog.Sat (Prog.logs fun w => PinsKnown (hprev ++ w)) (fun _ w' => PinFresh hprev w')
        (fun _ w' => PinFresh hprev w') (pinEach client pinnedMessages created) w := by
  induction created with
  | nil => exact fun _ fresh => fresh
  | cons entry rest ih =>
      obtain ⟨name, chId⟩ := entry
      intro w fresh
      unfold pinEach
      dsimp only
      split
      · exact ih w fresh
      · simp only [live, DiscordClient.get, DiscordClient.request_live _ live, Prog.map_eq_bind,
          Prog.call_bind, Prog.pure_bind', Prog.sat_call, Bool.not_false, ↓reduceIte]
        rintro a _ ⟨known, rfl⟩
        have fresh' := fresh.quiet (e := ⟨⟨.get, .channelPins chId, none⟩, a⟩) rfl
        obtain ⟨answered, found⟩ := known chId rfl
        rcases a with _ | _ | pins
        · exact fresh'
        · exact absurd rfl answered
        · dsimp only
          split
          · exact ih _ fresh'
          · rename_i empty
            have unpinned : chId ∉ pinnedChannels hprev := fun old => empty
              (found (by rw [pinnedChannels_append]; exact List.mem_append_left _ old) pins rfl)
            rw [Prog.sat_bind]
            refine ((sendEach_only live chId _).sat (PinFresh hprev) trivial
              (fun q w a w' ⟨_, target⟩ fresh ⟨_, same⟩ => same ▸ fresh.append fun c sent =>
                (Option.some.inj (target.symm.trans sent)) ▸ unpinned) fresh').mono
              (fun _ w' fresh => ih w' fresh.2) fun _ _ => And.right

/-- One live run of `main` against pins lookups that never fail and see every
pin made so far: it sends and pins only in channels no earlier run pinned
in. -/
theorem main_pins_sat (token guildId : String) (newChannels : List NewChannel)
    (pinnedMessages : Dict (List String)) :
    Prog.Sat (Prog.logs fun w => PinsKnown (hprev ++ w)) (fun _ w => PinFresh hprev w)
      (fun _ w => PinFresh hprev w) (main token guildId false newChannels pinnedMessages) [] := by
  rw [main_live_eq, Prog.sat_bind]
  exact ((createdChannels_resolves token guildId newChannels).sat (PinFresh hprev) trivial
      (fun q w a w' other fresh ⟨_, same⟩ => same ▸ fresh.quiet other)
      (List.forall_mem_nil _)).mono
    (fun _ w fresh => pinEach_sat rfl pinnedMessages _ w fresh.2) fun _ _ => And.right

end Pins

/-- A pin a run made is in the history of every later run. -/
theorem pinnedChannels_history {runs : List FeedRun} {run : FeedRun} (mem : run ∈ runs)
    {chId : Json} (pinned : chId ∈ pinnedChannels run.2) :
    chId ∈ pinnedChannels (feedHistory runs) := by
  obtain ⟨e, logged, found⟩ := List.mem_filterMap.mp pinned
  exact List.mem_filterMap.mpr ⟨e, List.mem_flatMap.mpr ⟨run, mem, logged⟩, found⟩

/-- No later run sends or pins in a channel an earlier run pinned in. -/
def PinsOnce (runs : List FeedRun) : Prop :=
  runs.Pairwise fun earlier later =>
    ∀ chId ∈ pinnedChannels earlier.2, ∀ e ∈ later.2, pinTarget? e.1 ≠ some chId

/-- Any number of live runs against pins lookups that never fail and see every
pin made so far keeps `PinsOnce`. -/
theorem PinsOnce.loop (token guildId : String) (newChannels : List NewChannel)
    (pinnedMessages : Dict (List String)) {server : Server}
    (known : ∀ h q, PinsKnown h q (server h q)) :
    ∀ (count : Nat) (runs : List FeedRun), PinsOnce runs →
      PinsOnce (feedRuns token guildId newChannels pinnedMessages server count runs)
  | 0, _, once => once
  | count + 1, runs, once => by
      refine PinsOnce.loop token guildId newChannels pinnedMessages known count _ ?_
      have allowed := @Prog.oracle_allowed Request (fun _ => Option Json)
        (fun w => PinsKnown (feedHistory runs ++ w)) (fun h => server (feedHistory runs ++ h))
        fun h q => known _ q
      have ends := Prog.Sat.exec allowed
        (main_pins_sat token guildId newChannels pinnedMessages)
      have fresh : PinFresh (feedHistory runs)
          ((main token guildId false newChannels pinnedMessages).exec
            (Prog.oracle fun h => server (feedHistory runs ++ h)) []).2 := by
        revert ends
        rcases Prog.exec _ (main token guildId false newChannels pinnedMessages) [] with
          ⟨_ | _, w⟩ <;> exact id
      refine List.pairwise_append.mpr ⟨once, List.pairwise_singleton _ _, ?_⟩
      intro earlier old later new chId pinned e sent target
      obtain rfl := List.mem_singleton.mp new
      exact fresh e sent chId target (pinnedChannels_history old pinned)

/-- Across any number of live runs whose pins lookups never fail and see every
pin made so far, a channel one run pinned in receives no message and no pin
from a later run. -/
theorem feedRuns_pins_once (token guildId : String) (newChannels : List NewChannel)
    (pinnedMessages : Dict (List String)) (server : Server)
    (known : ∀ h q, PinsKnown h q (server h q)) (count : Nat) :
    (feedRuns token guildId newChannels pinnedMessages server count []).Pairwise
      fun earlier later =>
        ∀ chId ∈ pinnedChannels earlier.2, ∀ e ∈ later.2, pinTarget? e.1 ≠ some chId :=
  PinsOnce.loop token guildId newChannels pinnedMessages known count [] .nil

/-- Pins lookups that list one record per pin made in the channel. -/
def pinsMade (h : List Exchange) (chId : Json) : Answer (Option Json) :=
  .reply (some (.arr ((pinnedChannels h).filter (· = chId))))

theorem feedServer_pinsKnown (h : List Exchange) (q : Request) :
    PinsKnown h q (feedServer pinsMade h q) := by
  rintro chId rfl
  refine ⟨by simp [feedServer, pinsMade], fun pinned r answered => ?_⟩
  cases answered
  have listed : chId ∈ (pinnedChannels h).filter (· = chId) := List.mem_filter.mpr ⟨pinned, by simp⟩
  obtain ⟨first, others, same⟩ := List.exists_cons_of_ne_nil (List.ne_nil_of_mem listed)
  simp [hasPins, same]

/-- `feedRuns_pins_once` for two runs against `feedServer pinsMade`. -/
theorem feedRuns_pins_once_listed :
    (∀ h q, PinsKnown h q (feedServer pinsMade h q)) ∧
      (feedRuns "token" "g" [cryptoNews] welcomePins (feedServer pinsMade) 2 []).Pairwise
        fun earlier later =>
          ∀ chId ∈ pinnedChannels earlier.2, ∀ e ∈ later.2, pinTarget? e.1 ≠ some chId :=
  ⟨feedServer_pinsKnown, feedRuns_pins_once "token" "g" [cryptoNews] welcomePins _
    feedServer_pinsKnown 2⟩

end Discord
end Rill
