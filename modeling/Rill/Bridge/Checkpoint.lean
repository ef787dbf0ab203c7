import Rill.Bridge.Bridge
import Mathlib.Algebra.Order.Ring.Rat
import Mathlib.Data.List.Nodup
import Mathlib.Data.Nat.Cast.Order.Basic

/-!
# The checkpoint across polls

A poll writes each channel's newest fetched id whether or not Telegram took
the messages before it, so a refused message is skipped for good.  Against an
honest outside (`Honest`) no poll delivers a message twice, and a message two
polls deliver was first delivered by a poll that raised before `save_state`:
`Tracks` follows one poll, `RunInv` a run of polls.
-/

namespace Rill
namespace Bridge

/-! ## Deliveries and the checkpoint file -/

/-- The message a send delivered: Telegram answered 200. -/
def delivered? : Exchange → Option Json
  | ⟨.telegramSend _ source, .reply true⟩ => some source
  | _ => none

/-- The ids of the messages delivered, in order. -/
def deliveries (h : List Exchange) : List Json := h.filterMap delivered?

/-- The state a write put in the file. -/
def written? : Exchange → Option Json
  | ⟨.saveState state, .reply _⟩ => some state
  | _ => none

/-- The file after the exchanges `h`, which found it holding `file`. -/
def fileState (file : Json) (h : List Exchange) : Json :=
  h.foldl (fun file e => (written? e).getD file) file

@[simp] theorem deliveries_nil : deliveries [] = [] := rfl

@[simp] theorem deliveries_append (h h' : List Exchange) :
    deliveries (h ++ h') = deliveries h ++ deliveries h' := List.filterMap_append _ _ _

@[simp] theorem deliveries_send_true (text : List Char) (source : Json) :
    deliveries [⟨.telegramSend text source, .reply true⟩] = [source] := rfl

@[simp] theorem deliveries_send_false (text : List Char) (source : Json) :
    deliveries [⟨.telegramSend text source, .reply false⟩] = [] := rfl

@[simp] theorem deliveries_raised (q : Request) : deliveries [⟨q, .raised⟩] = [] := by
  cases q <;> rfl

@[simp] theorem deliveries_get (path : Path) (a : Answer (Option Json)) :
    deliveries [⟨.discordGet path, a⟩] = [] := by
  cases a <;> rfl

@[simp] theorem deliveries_load (a : Answer Json) : deliveries [⟨.loadState, a⟩] = [] := by
  cases a <;> rfl

@[simp] theorem deliveries_save (state : Json) (a : Answer Unit) :
    deliveries [⟨.saveState state, a⟩] = [] := by
  cases a <;> rfl

@[simp] theorem fileState_nil (file : Json) : fileState file [] = file := rfl

theorem fileState_append (file : Json) (h h' : List Exchange) :
    fileState file (h ++ h') = fileState (fileState file h) h' := List.foldl_append _ _ _ _

@[simp] theorem fileState_snoc (file : Json) (h : List Exchange) (e : Exchange) :
    fileState file (h ++ [e]) = (written? e).getD (fileState file h) := by
  simp [fileState_append, fileState]

@[simp] theorem written?_save (state : Json) : written? ⟨.saveState state, .reply ()⟩ = some state :=
  rfl

@[simp] theorem written?_raised (q : Request) : written? ⟨q, .raised⟩ = none := by
  cases q <;> rfl

@[simp] theorem written?_get (path : Path) (a : Answer (Option Json)) :
    written? ⟨.discordGet path, a⟩ = none := rfl

@[simp] theorem written?_send (text : List Char) (source : Json) (a : Answer Bool) :
    written? ⟨.telegramSend text source, a⟩ = none := rfl

@[simp] theorem written?_load (a : Answer Json) : written? ⟨.loadState, a⟩ = none := rfl

/-! ## The outside -/

/-- The number a string of decimal digits writes; `none` for an empty string or
one with another character. -/
def decimal? (s : List Char) : Option Nat :=
  if s ≠ [] ∧ s.all Char.isDigit then some (s.foldl (fun n c => 10 * n + (c.toNat - '0'.toNat)) 0)
  else none

/-- The number an id stands for: Discord writes a snowflake as a decimal
string, and a number stands for itself. -/
def snowflake? : Json → Option ℚ
  | .num q => some q
  | .str s => (decimal? s.toList).map Nat.cast
  | _ => none

example : snowflake? (.str "1234") = some 1234 ∧ snowflake? (.str "") = none := by decide

/-- A falsy id that stands for a number stands for zero. -/
theorem snowflake?_of_falsy {c : Json} (falsy : c.truthy = false) {q : ℚ}
    (stands : snowflake? c = some q) : q = 0 := by
  cases c with
  | num q' => simp_all [snowflake?, Json.truthy]
  | str s =>
      obtain rfl : s = "" := by simpa [Json.truthy] using falsy
      simp [snowflake?, decimal?] at stands
  | _ => simp [snowflake?] at stands

/-- A message as the bridge reads it: its id as the listing writes it (`key`),
the number that id stands for, its content and its author. -/
structure Message where
  id : Nat
  key : Json
  content : Json
  author : Json

/-- The JSON object of a message with no other field. -/
def Message.toJson (m : Message) : Json :=
  .obj [("id", m.key), ("content", m.content), ("author", m.author)]

/-- `msg` lists the message `m` by the fields the bridge reads: an object whose
`"id"` is `m`'s key and whose content and author, as `msg.get` reads them with
their defaults, are `m`'s.  Any other field may be there too. -/
def Lists (m : Message) (msg : Json) : Prop :=
  msg.field? "id" = some m.key ∧ msg.getD? "content" (.str "") = some m.content ∧
    msg.getD? "author" (.obj []) = some m.author

theorem Lists.getD?_id {m : Message} {msg : Json} (listed : Lists m msg) (default : Json) :
    msg.getD? "id" default = some m.key := by
  obtain ⟨id, -, -⟩ := listed
  cases msg <;> simp_all [Json.field?]

theorem Message.lists_toJson (m : Message) : Lists m m.toJson := by
  simp [Lists, Message.toJson, Dict.get?_cons]

example : Lists ⟨5, .str "5", .str "hi", .obj [("id", .str "9"), ("bot", .bool false)]⟩
    (.obj [("id", .str "5"), ("type", .num 0), ("content", .str "hi"),
      ("author", .obj [("id", .str "9"), ("bot", .bool false)])]) := by
  unfold Lists
  decide

section Outside

/- `ids` names the channel id of each bridged channel; `owner` gives the
channel each message id belongs to. -/
variable (ids : Dict Json) (owner : Nat → Json)

/-- An honest list of the messages of channel `channelId` after `after`: its
messages, newest first, each key standing for its positive id, every id above
the number the checkpoint stands for. -/
def HonestBatch (channelId : Json) (after : Option Json) (batch : List Message) : Prop :=
  (∀ m ∈ batch, snowflake? m.key = some m.id ∧ owner m.id = channelId ∧ 0 < m.id ∧
      ∀ c q, after = some c → snowflake? c = some q → q < m.id) ∧
    (batch.map Message.id).Pairwise (· > ·)

/-- What an honest outside may answer when the checkpoint file holds `file`:
the file's content, a successful write, any answer of Telegram, and Discord
replies that agree with `ids` and `owner`. -/
def Honest (file : Json) : (q : Request) → Answer (Reply q) → Prop
  | .loadState, a => a = .reply file
  | .saveState _, a => a = .reply ()
  | .telegramSend _ _, _ => True
  | .discordGet (.guildChannels _), a =>
      ∀ chs found, a = .reply (some (.arr chs)) → bridgeIds [] chs = some found →
        ∀ entry ∈ found, ids.get? entry.1 = some entry.2
  | .discordGet (.channelMessages channelId after), a =>
      ∀ msgs, a = .reply (some (.arr msgs)) →
        ∃ batch, List.Forall₂ Lists batch msgs ∧ HonestBatch owner channelId after batch

/-- The message whose key is `source` is no newer than the checkpoint `state`
keeps for its channel: the poll that loads `state` does not fetch it again. -/
def Covered (state source : Json) : Prop :=
  ∃ n : Nat, snowflake? source = some n ∧ ∃ name c q, ids.get? name = some (owner n) ∧
    state.field? name = some c ∧ snowflake? c = some q ∧ (n : ℚ) ≤ q

/-- `ids` names each bridged channel by its own id. -/
def Distinct (ids : Dict Json) : Prop :=
  ∀ name name' channelId, ids.get? name = some channelId → ids.get? name' = some channelId →
    name = name'

end Outside

/-! ## One poll -/

section Poll

variable {ids : Dict Json} {owner : Nat → Json}

/-- The outside of one poll that found the file holding `S`: each answer is
honest for the file as the poll's own writes left it. -/
def pollEnv (ids : Dict Json) (owner : Nat → Json) (S : Json) :=
  Prog.logs fun w => Honest ids owner (fileState S w)

/-- What a poll that loaded `S` guarantees, however it ends: it delivered no
message twice, none that `S` covers, and the file still covers what `S`
covered. -/
structure PollInv (ids : Dict Json) (owner : Nat → Json) (S : Json) (w : List Exchange) :
    Prop where
  nodup : (deliveries w).Nodup
  fresh : ∀ m ∈ deliveries w, ¬ Covered ids owner S m
  keeps : ∀ m, Covered ids owner S m → Covered ids owner (fileState S w) m

/-- The loop invariant of a poll that loaded `S` and holds `state` in memory:
the in-memory state covers what `S` covered and every message delivered. -/
structure Tracks (ids : Dict Json) (owner : Nat → Json) (S state : Json) (w : List Exchange) :
    Prop where
  nodup : (deliveries w).Nodup
  fresh : ∀ m ∈ deliveries w, ¬ Covered ids owner S m
  unsaved : fileState S w = S
  keeps : ∀ m, Covered ids owner S m → Covered ids owner state m
  covers : ∀ m ∈ deliveries w, Covered ids owner state m

theorem Tracks.pollInv {S state : Json} {w : List Exchange} (tracks : Tracks ids owner S state w) :
    PollInv ids owner S w :=
  ⟨tracks.nodup, tracks.fresh, by rw [tracks.unsaved]; exact fun _ => id⟩

/-- An exchange that delivers nothing and writes nothing keeps the invariant. -/
theorem Tracks.quiet {S state : Json} {w : List Exchange} {e : Exchange}
    (silent : deliveries [e] = []) (unwritten : written? e = none)
    (tracks : Tracks ids owner S state w) : Tracks ids owner S state (w ++ [e]) := by
  obtain ⟨nodup, fresh, unsaved, keeps, covers⟩ := tracks
  exact ⟨by simpa [silent] using nodup, by simpa [silent] using fresh,
    by simpa [unwritten] using unsaved, keeps, by simpa [silent] using covers⟩

/-! ### The inner loop -/

/-- The inner loop went from `w` to `w'` over the messages `batch`: it
delivered some of them, in order, and wrote no file. -/
def Forwarded (w : List Exchange) (batch : List Message) (w' : List Exchange) : Prop :=
  ∃ ds, ds.Sublist (batch.map Message.key) ∧ deliveries w' = deliveries w ++ ds ∧
    ∀ file, fileState file w' = fileState file w

theorem Forwarded.refl (w : List Exchange) (batch : List Message) : Forwarded w batch w :=
  ⟨[], List.nil_sublist _, by simp, fun _ => rfl⟩

theorem Forwarded.skip {w w' : List Exchange} {batch : List Message} (m : Message)
    (forwarded : Forwarded w batch w') : Forwarded w (m :: batch) w' :=
  let ⟨ds, sub, dels, files⟩ := forwarded
  ⟨ds, sub.cons _, dels, files⟩

theorem Forwarded.quiet {w w' : List Exchange} {batch : List Message} {e : Exchange}
    (silent : deliveries [e] = []) (unwritten : written? e = none)
    (forwarded : Forwarded (w ++ [e]) batch w') : Forwarded w batch w' := by
  obtain ⟨ds, sub, dels, files⟩ := forwarded
  exact ⟨ds, sub, by simpa [silent] using dels, fun file => by simp [files, unwritten]⟩

theorem Forwarded.deliver {w w' : List Exchange} {batch : List Message} {m : Message}
    {text : List Char}
    (forwarded : Forwarded (w ++ [⟨.telegramSend text m.key, .reply true⟩]) batch w') :
    Forwarded w (m :: batch) w' := by
  obtain ⟨ds, sub, dels, files⟩ := forwarded
  exact ⟨m.key :: ds, sub.cons₂ _, by simpa using dels, fun file => by simp [files]⟩

/-- The inner loop over a chronological listing delivers some of its messages in
order, writes no file and changes the in-memory checkpoint of its own channel
only. -/
theorem forwardEach_sat (S : Json) (chName : String) {batch : List Message} {msgs : List Json}
    (listed : List.Forall₂ Lists batch msgs) :
    ∀ (state : Dict Json) (forwarded : Nat) (w : List Exchange),
      Prog.Sat (pollEnv ids owner S)
        (fun r w' => Forwarded w batch w' ∧
          ∀ name, name ≠ chName → Dict.get? r.1 name = Dict.get? state name)
        (fun h w' => h = .raised ∧ Forwarded w batch w')
        (forwardEach false chName msgs state forwarded) w := by
  induction listed with
  | nil => exact fun _ _ w => ⟨.refl w [], fun _ _ => rfl⟩
  | @cons m msg rest msgs head _ ih =>
      intro state forwarded w
      have skip : ∀ state forwarded, Prog.Sat (pollEnv ids owner S)
          (fun r w' => Forwarded w (m :: rest) w' ∧
            ∀ name, name ≠ chName → Dict.get? r.1 name = Dict.get? state name)
          (fun h w' => h = .raised ∧ Forwarded w (m :: rest) w')
          (forwardEach false chName msgs state forwarded) w :=
        fun state forwarded => (ih state forwarded w).mono
          (fun _ _ ⟨forwarded, frame⟩ => ⟨forwarded.skip m, frame⟩)
          (fun _ _ ⟨raised, forwarded⟩ => ⟨raised, forwarded.skip m⟩)
      simp only [forwardEach, head.getD?_id, head.2.1, head.2.2, Prog.ofOption_some, Prog.pure_bind']
      split
      · rw [Prog.sat_bind, Prog.sat_ofOption]
        refine ⟨fun _ => ⟨rfl, .refl w _⟩, fun flag _ => ?_⟩
        split
        · exact skip state forwarded
        · rw [Prog.sat_bind, Prog.sat_ofOption]
          refine ⟨fun _ => ⟨rfl, .refl w _⟩, fun text _ => ?_⟩
          simp only [telegramSend, Prog.send, Bool.false_eq_true, if_false, Prog.call_bind]
          rintro a w' ⟨-, rfl⟩
          cases a with
          | raised => exact ⟨rfl, (Forwarded.refl _ _).quiet (by simp) (by simp)⟩
          | reply success =>
              cases success with
              | true =>
                  refine (ih _ _ _).mono (fun r w'' ⟨forwarded, frame⟩ => ⟨forwarded.deliver,
                    fun name other => ?_⟩) fun h w'' ⟨raised, forwarded⟩ =>
                      ⟨raised, forwarded.deliver⟩
                  rw [frame name other, Dict.get?_insert_of_ne _ _ (Ne.symm other)]
              | false =>
                  exact (ih _ _ _).mono
                    (fun r w'' ⟨forwarded, frame⟩ =>
                      ⟨(forwarded.quiet (by simp) (by simp)).skip m, frame⟩)
                    fun h w'' ⟨raised, forwarded⟩ =>
                      ⟨raised, (forwarded.quiet (by simp) (by simp)).skip m⟩
      · exact skip state forwarded

/-! ### One channel -/

/-- Every message of an honest batch lies above the checkpoint it was fetched
after; a falsy checkpoint is not sent and stands for zero. -/
theorem HonestBatch.above_checkpoint {chName : String} {chId : Json} {kvs : Dict Json}
    {batch : List Message}
    (honest : HonestBatch owner chId
      (if ((Dict.get? kvs chName).getD .null).truthy then some ((Dict.get? kvs chName).getD .null)
        else none) batch)
    {m : Message} (mem : m ∈ batch) {c : Json} {q : ℚ} (field : Dict.get? kvs chName = some c)
    (value : snowflake? c = some q) : q < m.id := by
  obtain ⟨-, -, positive, above⟩ := honest.1 m mem
  by_cases set : c.truthy
  · exact above c q (by simp [field, set]) value
  · rw [snowflake?_of_falsy (by simpa using set) value]
    exact_mod_cast positive

/-- The `after` of the fetch for `chName` from the in-memory checkpoints. -/
theorem HonestBatch.not_covered (distinct : Distinct ids) {chName : String} {chId : Json}
    (named : ids.get? chName = some chId) {kvs : Dict Json} {batch : List Message}
    (honest : HonestBatch owner chId
      (if ((Dict.get? kvs chName).getD .null).truthy then some ((Dict.get? kvs chName).getD .null)
        else none) batch)
    {m : Message} (mem : m ∈ batch) : ¬ Covered ids owner (.obj kvs) m.key := by
  rintro ⟨n, stands, name, c, q, owned, field, value, below⟩
  obtain ⟨key, belongs, -⟩ := honest.1 m mem
  obtain rfl : m.id = n := by exact_mod_cast Option.some.inj (key.symm.trans stands)
  obtain rfl := distinct name chName chId (belongs ▸ owned) named
  exact not_le.mpr (honest.above_checkpoint mem (by simpa using field) value) below

theorem HonestBatch.nodup {chId : Json} {after : Option Json} {batch : List Message}
    (honest : HonestBatch owner chId after batch) : (batch.reverse.map Message.key).Nodup := by
  rw [List.map_reverse, List.nodup_reverse]
  refine List.pairwise_map.mpr ((List.pairwise_map.mp honest.2).imp_of_mem
    fun {a b} memA memB newer same => ?_)
  have keyB : snowflake? a.key = some b.id := same ▸ (honest.1 b memB).1
  have ids : (a.id : ℚ) = b.id := Option.some.inj ((honest.1 a memA).1.symm.trans keyB)
  exact ne_of_gt newer (by exact_mod_cast ids)

/-- The newest message of a batch has the largest id. -/
theorem HonestBatch.le_newest {chId : Json} {after : Option Json} {newest : Message}
    {older : List Message} (honest : HonestBatch owner chId after (newest :: older))
    {m : Message} (mem : m ∈ newest :: older) : m.id ≤ newest.id := by
  rcases List.mem_cons.mp mem with rfl | old
  · exact le_rfl
  · exact le_of_lt ((List.pairwise_cons.mp honest.2).1 m.id (List.mem_map_of_mem _ old))

/-- Moving a channel's checkpoint up keeps every message covered. -/
theorem Covered.raise {kvs kvs' : Dict Json} {chName : String} {key : Json} {top : ℚ}
    (frame : ∀ name, name ≠ chName → Dict.get? kvs' name = Dict.get? kvs name)
    (topKey : snowflake? key = some top)
    (above : ∀ c q, Dict.get? kvs chName = some c → snowflake? c = some q → q ≤ top) {source : Json}
    (covered : Covered ids owner (.obj kvs) source) :
    Covered ids owner (.obj (kvs'.insert chName key)) source := by
  obtain ⟨n, stands, name, c, q, owned, field, value, below⟩ := covered
  simp only [Json.field?_obj] at field
  by_cases same : name = chName
  · subst same
    exact ⟨n, stands, name, key, top, owned, by simp, topKey, le_trans below (above c q field value)⟩
  · exact ⟨n, stands, name, c, q, owned,
      by simp [Dict.get?_insert_of_ne _ _ (Ne.symm same), frame name same, field], value, below⟩

/-- A channel whose fetch returned an honest batch: whatever the inner loop
did, the poll keeps its guarantees, and moving the checkpoint to the newest
message restores the loop invariant. -/
theorem Tracks.channel (distinct : Distinct ids) {S : Json} {chName : String} {chId : Json}
    (named : ids.get? chName = some chId) {kvs : Dict Json} {w : List Exchange}
    (tracks : Tracks ids owner S (.obj kvs) w) {newest : Message} {older : List Message}
    (honest : HonestBatch owner chId
      (if ((Dict.get? kvs chName).getD .null).truthy then some ((Dict.get? kvs chName).getD .null)
        else none) (newest :: older))
    {w' : List Exchange} (forwarded : Forwarded w (newest :: older).reverse w') :
    PollInv ids owner S w' ∧
      ∀ kvs' : Dict Json, (∀ name, name ≠ chName → Dict.get? kvs' name = Dict.get? kvs name) →
        Tracks ids owner S (.obj (kvs'.insert chName newest.key)) w' := by
  obtain ⟨ds, sub, dels, files⟩ := forwarded
  have newMsg : ∀ x ∈ ds, ∃ m ∈ newest :: older, x = m.key := fun x mem => by
    obtain ⟨m, mem', rfl⟩ := List.mem_map.mp (sub.subset mem)
    exact ⟨m, List.mem_reverse.mp mem', rfl⟩
  have uncovered : ∀ x ∈ ds, ¬ Covered ids owner (.obj kvs) x := fun x mem => by
    obtain ⟨m, mem', rfl⟩ := newMsg x mem
    exact honest.not_covered distinct named mem'
  have nodup : (deliveries w').Nodup := by
    rw [dels]
    refine List.nodup_append.mpr ⟨tracks.nodup, honest.nodup.sublist sub, ?_⟩
    intro x old new
    exact uncovered x new (tracks.covers x old)
  have fresh : ∀ x ∈ deliveries w', ¬ Covered ids owner S x := by
    rw [dels]
    intro x mem
    rcases List.mem_append.mp mem with old | new
    · exact tracks.fresh x old
    · exact fun coveredS => uncovered x new (tracks.keeps x coveredS)
  have unsaved : fileState S w' = S := (files S).trans tracks.unsaved
  refine ⟨⟨nodup, fresh, by rw [unsaved]; exact fun _ => id⟩, fun kvs' frame => ?_⟩
  have topKey := (honest.1 newest (List.mem_cons_self _ _)).1
  have above : ∀ c q, Dict.get? kvs chName = some c → snowflake? c = some q → q ≤ newest.id :=
    fun _ _ field value => le_of_lt (honest.above_checkpoint (List.mem_cons_self _ _) field value)
  refine ⟨nodup, fresh, unsaved, fun x covered => (tracks.keeps x covered).raise frame topKey above, ?_⟩
  rw [dels]
  intro x mem
  rcases List.mem_append.mp mem with old | new
  · exact (tracks.covers x old).raise frame topKey above
  · obtain ⟨m, mem', rfl⟩ := newMsg x new
    refine ⟨m.id, (honest.1 m mem').1, chName, newest.key, newest.id, ?_, by simp, topKey,
      by exact_mod_cast honest.le_newest mem'⟩
    rw [named, (honest.1 m mem').2.1]

theorem forwardChannel_sat (distinct : Distinct ids) {S : Json} {chName : String} {chId : Json}
    (named : ids.get? chName = some chId) {state : Json} {forwarded : Nat} {w : List Exchange}
    (tracks : Tracks ids owner S state w) :
    Prog.Sat (pollEnv ids owner S) (fun r w' => Tracks ids owner S r.1 w')
      (fun h w' => h = .raised ∧ PollInv ids owner S w')
      (forwardChannel false chName chId state forwarded) w := by
  cases state with
  | obj kvs =>
      simp only [forwardChannel, discordGet, Prog.send, Prog.call_bind, Prog.pure_bind']
      rintro a w' ⟨honest, rfl⟩
      have tracks' : Tracks ids owner S (.obj kvs) (w ++ [⟨_, a⟩]) :=
        Tracks.quiet (deliveries_get _ _) (written?_get _ _) tracks
      cases a with
      | raised => exact ⟨rfl, tracks'.pollInv⟩
      | reply reply =>
          dsimp only
          split
          · next newest older =>
              obtain ⟨batch, listed, batchOk⟩ := honest _ rfl
              obtain ⟨m, ms, rfl⟩ : ∃ m ms, batch = m :: ms := by
                cases listed
                exact ⟨_, _, rfl⟩
              have newestKey := (List.forall₂_cons.mp listed).1.getD?_id
              rw [Prog.sat_bind]
              refine (forwardEach_sat S chName (List.forall₂_reverse_iff.mpr listed) kvs forwarded _).mono
                (fun r w'' ⟨done, frame⟩ => ?_) fun h w'' ⟨raised, done⟩ =>
                  ⟨raised, (tracks'.channel distinct named batchOk done).1⟩
              obtain ⟨kvs', count⟩ := r
              simpa [newestKey] using (tracks'.channel distinct named batchOk done).2 kvs' frame
          · exact tracks'
  | _ => exact ⟨rfl, tracks.pollInv⟩

theorem forwardChannels_sat (distinct : Distinct ids) {S : Json} (found : List (String × Json))
    (consistent : ∀ entry ∈ found, ids.get? entry.1 = some entry.2) :
    ∀ (state : Json) (forwarded : Nat) (w : List Exchange), Tracks ids owner S state w →
      Prog.Sat (pollEnv ids owner S) (fun r w' => Tracks ids owner S r.1 w')
        (fun h w' => h = .raised ∧ PollInv ids owner S w')
        (forwardChannels false found state forwarded) w := by
  induction found with
  | nil => exact fun _ _ _ tracks => tracks
  | cons entry rest ih =>
      obtain ⟨chName, chId⟩ := entry
      intro state forwarded w tracks
      simp only [forwardChannels, Prog.sat_bind]
      refine (forwardChannel_sat distinct (consistent _ (List.mem_cons_self _ _)) tracks).mono
        (fun r w' tracks' => ?_) fun _ _ => id
      exact ih (fun entry mem => consistent entry (List.mem_cons_of_mem _ mem)) _ _ _ tracks'

/-! ### The whole poll -/

theorem findChannelIds_sat {S state : Json} {w : List Exchange}
    (tracks : Tracks ids owner S state w) (guildId : String) :
    Prog.Sat (pollEnv ids owner S)
      (fun found w' => (∀ entry ∈ found, ids.get? entry.1 = some entry.2) ∧
        Tracks ids owner S state w')
      (fun h w' => h = .raised ∧ PollInv ids owner S w') (findChannelIds guildId) w := by
  simp only [findChannelIds, discordGet, Prog.send, Prog.call_bind, Prog.pure_bind']
  rintro a w' ⟨honest, rfl⟩
  have tracks' : Tracks ids owner S state (w ++ [⟨_, a⟩]) :=
    Tracks.quiet (deliveries_get _ _) (written?_get _ _) tracks
  cases a with
  | raised => exact ⟨rfl, tracks'.pollInv⟩
  | reply reply =>
      dsimp only
      split
      · next chs =>
          cases found : bridgeIds [] chs with
          | none => exact ⟨rfl, tracks'.pollInv⟩
          | some found' => exact ⟨honest chs found' rfl found, tracks'⟩
      · exact ⟨fun _ absent => absurd absent (List.not_mem_nil _), tracks'⟩

/-- One live poll against an honest outside: it delivers no message twice and
none the loaded file covers, the file keeps covering what it covered, and a
poll that returns leaves a file covering everything it delivered. -/
theorem checkAndForward_sat (distinct : Distinct ids) (S : Json) (guildId : String) :
    Prog.Sat (pollEnv ids owner S)
      (fun _ w => PollInv ids owner S w ∧ ∀ m ∈ deliveries w, Covered ids owner (fileState S w) m)
      (fun h w => h = .raised ∧ PollInv ids owner S w) (checkAndForward guildId false) [] := by
  simp only [checkAndForward, loadState, Prog.send, Prog.call_bind, Prog.pure_bind']
  rintro a w ⟨honest, rfl⟩
  have start : Tracks ids owner S S ([] ++ [⟨.loadState, a⟩]) :=
    ⟨by simp, by simp, by cases a <;> rfl, fun _ => id, by simp⟩
  cases a with
  | raised => exact ⟨rfl, start.pollInv⟩
  | reply state =>
      have loaded : S = state := by cases honest; rfl
      subst loaded
      dsimp only
      rw [Prog.sat_bind]
      refine (findChannelIds_sat start guildId).mono (fun found w' ⟨consistent, tracks⟩ => ?_)
        fun _ _ => id
      split
      · exact ⟨tracks.pollInv, fun m mem => absurd (tracks.covers m mem) (tracks.fresh m mem)⟩
      · rw [Prog.sat_bind]
        refine (forwardChannels_sat distinct found consistent S 0 w' tracks).mono
          (fun r w₂ tracks' => ?_) fun _ _ => id
        obtain ⟨state', count⟩ := r
        simp only [Bool.not_false, ↓reduceIte, saveState, Prog.send, Prog.call_bind,
          Prog.pure_bind']
        rintro a w₃ ⟨honest, rfl⟩
        cases honest
        exact ⟨⟨by simpa using tracks'.nodup, by simpa using tracks'.fresh,
          by simpa using tracks'.keeps⟩, by simpa using tracks'.covers⟩

end Poll

/-! ## Runs of polls -/

section Runs

variable {ids : Dict Json} {owner : Nat → Json}

theorem history_append (runs : List PollRun) (run : PollRun) :
    history (runs ++ [run]) = history runs ++ run.2 := by
  simp [history]

theorem deliveries_history (runs : List PollRun) :
    deliveries (history runs) = runs.flatMap fun run => deliveries run.2 := by
  induction runs with
  | nil => rfl
  | cons run rest ih => simp [history, ← ih]

/-- What the polls `runs`, started on a file holding `init`, guarantee: each
delivered no message twice, each that halted raised, a message two of them
delivered was first delivered by one that raised, and the file covers every
message delivered by a poll that returned. -/
structure RunInv (ids : Dict Json) (owner : Nat → Json) (init : Json) (runs : List PollRun) :
    Prop where
  nodup : ∀ run ∈ runs, (deliveries run.2).Nodup
  raised : ∀ run ∈ runs, ∀ h, run.1 = .error h → h = .raised
  raisedFirst : runs.Pairwise fun earlier later =>
    ∀ m ∈ deliveries earlier.2, m ∈ deliveries later.2 → earlier.1 = .error .raised
  covered : ∀ run ∈ runs, ∀ n, run.1 = .ok n →
    ∀ m ∈ deliveries run.2, Covered ids owner (fileState init (history runs)) m

theorem RunInv.nil (init : Json) : RunInv ids owner init [] :=
  ⟨List.forall_mem_nil _, List.forall_mem_nil _, .nil, List.forall_mem_nil _⟩

/-- One more poll against an honest outside keeps the invariant. -/
theorem RunInv.next (distinct : Distinct ids) {init : Json} {server : Server}
    (honest : ∀ h q, Honest ids owner (fileState init h) q (server h q)) (guildId : String)
    {runs : List PollRun} (inv : RunInv ids owner init runs) :
    RunInv ids owner init (runs ++ [poll server guildId runs]) := by
  have allowed := @Prog.oracle_allowed Request Reply
    (fun w => Honest ids owner (fileState (fileState init (history runs)) w))
    (fun h => server (history runs ++ h)) fun h q => by
      dsimp only
      rw [← fileState_append]
      exact honest (history runs ++ h) q
  have ends := Prog.Sat.exec allowed
    (checkAndForward_sat distinct (fileState init (history runs)) guildId)
  have facts : PollInv ids owner (fileState init (history runs)) (poll server guildId runs).2 ∧
      (∀ h, (poll server guildId runs).1 = .error h → h = .raised) ∧
      ∀ n, (poll server guildId runs).1 = .ok n → ∀ m ∈ deliveries (poll server guildId runs).2,
        Covered ids owner
          (fileState (fileState init (history runs)) (poll server guildId runs).2) m := by
    unfold poll
    revert ends
    rcases Prog.exec _ (checkAndForward guildId false) [] with ⟨_ | _, w⟩
    · exact fun ⟨raised, pollInv⟩ => ⟨pollInv, fun h same => by cases same; exact raised, nofun⟩
    · exact fun ⟨pollInv, covers⟩ => ⟨pollInv, nofun, fun _ _ => covers⟩
  obtain ⟨pollInv, raised, covers⟩ := facts
  rw [← fileState_append, ← history_append] at covers
  refine ⟨?_, ?_, ?_, ?_⟩
  · exact List.forall_mem_append.mpr ⟨inv.nodup, List.forall_mem_singleton.mpr pollInv.nodup⟩
  · exact List.forall_mem_append.mpr ⟨inv.raised, List.forall_mem_singleton.mpr raised⟩
  · refine List.pairwise_append.mpr ⟨inv.raisedFirst, List.pairwise_singleton _ _, ?_⟩
    intro earlier old later new m delivered again
    obtain rfl := List.mem_singleton.mp new
    cases outcome : earlier.1 with
    | error h => rw [inv.raised earlier old h outcome]
    | ok n => exact absurd (inv.covered earlier old n outcome m delivered) (pollInv.fresh m again)
  · intro run mem n returned m delivered
    rcases List.mem_append.mp mem with old | new
    · rw [history_append, fileState_append]
      exact pollInv.keeps m (inv.covered run old n returned m delivered)
    · obtain rfl := List.mem_singleton.mp new
      exact covers n returned m delivered

/-- Any number of polls keeps the invariant. -/
theorem RunInv.loop (distinct : Distinct ids) {init : Json} {server : Server}
    (honest : ∀ h q, Honest ids owner (fileState init h) q (server h q)) (guildId : String) :
    ∀ (count : Nat) (runs : List PollRun), RunInv ids owner init runs →
      RunInv ids owner init (pollLoop server guildId count runs)
  | 0, _, inv => inv
  | count + 1, _, inv =>
      RunInv.loop distinct honest guildId count _ (inv.next distinct honest guildId)

/-! ## An outside that follows the rules -/

/-- The channel listing with `#announcements` as channel `1`. -/
def announcementsListing : Json := .arr [.obj [("name", .str "announcements"), ("id", .str "1")]]

/-- A message from a person. -/
def hello (id : Nat) : Message := ⟨id, .num id, .str "hello", .obj [("bot", .bool false)]⟩

/-- Channel `1` holds two messages; a fetch lists those above the number the
checkpoint stands for, newest first. -/
def messagesAfter (after : Option Json) : List Message :=
  [hello 2, hello 1].filter fun m =>
    match after.bind snowflake? with
    | some q => decide (q < m.id)
    | none => true

/-- Discord and the file as the rules say, with Telegram answering
`telegram`. -/
def bridgeServer (telegram : List Exchange → Json → Answer Bool) : Server
  | _, .discordGet (.guildChannels _) => .reply (some announcementsListing)
  | _, .discordGet (.channelMessages channelId after) =>
      if channelId = .str "1" then .reply (some (.arr ((messagesAfter after).map Message.toJson)))
      else .reply none
  | h, .telegramSend _ source => telegram h source
  | h, .loadState => .reply (fileState (.obj []) h)
  | _, .saveState _ => .reply ()

theorem distinct_announcements : Distinct [("announcements", .str "1")] := by
  intro name name' channelId found found'
  simp only [Dict.get?_cons, Dict.get?_nil] at found found'
  split at found <;> split at found' <;> simp_all

theorem bridgeServer_honest (telegram : List Exchange → Json → Answer Bool) (h : List Exchange)
    (q : Request) :
    Honest [("announcements", .str "1")] (fun _ => .str "1") (fileState (.obj []) h) q
      (bridgeServer telegram h q) := by
  cases q with
  | discordGet path =>
      cases path with
      | guildChannels guildId =>
          rintro chs found ⟨⟩ bridged
          cases bridged
          decide
      | channelMessages channelId after =>
          intro msgs listed
          simp only [bridgeServer] at listed
          split at listed
          · next named =>
              cases listed
              refine ⟨_, List.forall₂_map_right_iff.mpr (List.forall₂_same.mpr fun m _ => m.lists_toJson),
                fun m mem => ?_, ?_⟩
              · obtain ⟨listed, above⟩ := List.mem_filter.mp mem
                simp only [List.mem_cons, List.mem_singleton, List.not_mem_nil, or_false]
                  at listed
                refine ⟨by rcases listed with rfl | rfl <;> rfl, named.symm,
                  by rcases listed with rfl | rfl <;> decide, fun c q after value => ?_⟩
                simpa [after, value] using above
              · exact List.Pairwise.sublist ((List.filter_sublist _).map Message.id) (by decide)
          · cases listed
  | telegramSend => trivial
  | loadState => rfl
  | saveState => rfl

/-- The number of polls the exchanges `h` started. -/
def pollsStarted (h : List Exchange) : Nat :=
  h.countP fun e => match e.1 with
    | .loadState => true
    | _ => false

/-- Telegram times out on message 2 in the first poll and accepts everything
else. -/
def timesOutOnce : Server :=
  bridgeServer fun h source =>
    if source = .num 2 ∧ pollsStarted h = 1 then .raised else .reply true

/-- Telegram refuses every message. -/
def refusesAll : Server := bridgeServer fun _ _ => .reply false

/-- A poll whose sends Telegram refuses still moves the checkpoint of
`#announcements` to message 2: messages 1 and 2 are never delivered, and no
later poll fetches them. -/
theorem poll_checkpoint_passes_refused :
    poll refusesAll "g" [] =
      (.ok 0, [⟨.loadState, .reply (.obj [])⟩,
        ⟨.discordGet (.guildChannels "g"), .reply (some announcementsListing)⟩,
        ⟨.discordGet (.channelMessages (.str "1") none),
          .reply (some (.arr [(hello 2).toJson, (hello 1).toJson]))⟩,
        ⟨.telegramSend (formatForTelegram "hello".toList "announcements") (.num 1), .reply false⟩,
        ⟨.telegramSend (formatForTelegram "hello".toList "announcements") (.num 2), .reply false⟩,
        ⟨.saveState (.obj [("announcements", .num 2)]), .reply ()⟩]) :=
  rfl

/-- Against an honest outside, however many polls run and whatever Telegram
does, no poll delivers a message twice, and a message two polls deliver was
first delivered by a poll that raised (and so never wrote the file). -/
theorem pollLoop_redelivers_only_after_raise (guildId : String) (init : Json) (server : Server)
    (distinct : Distinct ids) (honest : ∀ h q, Honest ids owner (fileState init h) q (server h q))
    (count : Nat) :
    (∀ run ∈ pollLoop server guildId count [], (deliveries run.2).Nodup) ∧
      (pollLoop server guildId count []).Pairwise fun earlier later =>
        ∀ m ∈ deliveries earlier.2, m ∈ deliveries later.2 → earlier.1 = .error .raised :=
  let inv := RunInv.loop distinct honest guildId count [] (.nil init)
  ⟨inv.nodup, inv.raisedFirst⟩

/-- Message 1, delivered by a first poll that raised on message 2, is
delivered again by the second poll. -/
theorem pollLoop_timeout_redelivers :
    (pollLoop timesOutOnce "g" 2 []).map (fun run => (run.1, deliveries run.2)) =
      [(.error .raised, [.num 1]), (.ok 2, [.num 1, .num 2])] :=
  rfl

/-- `pollLoop_redelivers_only_after_raise` for the run of
`pollLoop_timeout_redelivers`. -/
theorem pollLoop_redelivers_only_after_raise_timeout :
    Distinct [("announcements", .str "1")] ∧
      (∀ h q, Honest [("announcements", .str "1")] (fun _ => .str "1") (fileState (.obj []) h) q
        (timesOutOnce h q)) ∧
      (∀ run ∈ pollLoop timesOutOnce "g" 2 [], (deliveries run.2).Nodup) ∧
      (pollLoop timesOutOnce "g" 2 []).Pairwise fun earlier later =>
        ∀ m ∈ deliveries earlier.2, m ∈ deliveries later.2 → earlier.1 = .error .raised :=
  ⟨distinct_announcements, bridgeServer_honest _,
    pollLoop_redelivers_only_after_raise "g" (.obj []) timesOutOnce distinct_announcements
      (bridgeServer_honest _) 2⟩

/-- If no poll raises, the bridge delivers no message twice. -/
theorem pollLoop_returning_delivers_once (guildId : String) (init : Json) (server : Server)
    (distinct : Distinct ids) (honest : ∀ h q, Honest ids owner (fileState init h) q (server h q))
    (count : Nat)
    (returned : ∀ run ∈ pollLoop server guildId count [], ∃ n, run.1 = .ok n) :
    (deliveries (history (pollLoop server guildId count []))).Nodup := by
  have inv := RunInv.loop distinct honest guildId count [] (.nil init)
  rw [deliveries_history, List.nodup_flatMap]
  refine ⟨inv.nodup, inv.raisedFirst.imp_of_mem fun {earlier later} mem _ first => ?_⟩
  obtain ⟨n, ok⟩ := returned earlier mem
  intro m delivered again
  cases ok.symm.trans (first m delivered again)

/-- Telegram accepts every message. -/
def acceptsAll : Server := bridgeServer fun _ _ => .reply true

/-- `pollLoop_returning_delivers_once` for two polls that Telegram never
fails. -/
theorem pollLoop_returning_delivers_once_accepted :
    Distinct [("announcements", .str "1")] ∧
      (∀ h q, Honest [("announcements", .str "1")] (fun _ => .str "1") (fileState (.obj []) h) q
        (acceptsAll h q)) ∧
      (∀ run ∈ pollLoop acceptsAll "g" 2 [], ∃ n, run.1 = .ok n) ∧
      (deliveries (history (pollLoop acceptsAll "g" 2 []))).Nodup := by
  have outcomes : (pollLoop acceptsAll "g" 2 []).map Prod.fst = [.ok 2, .ok 0] := rfl
  have returned : ∀ run ∈ pollLoop acceptsAll "g" 2 [], ∃ n, run.1 = .ok n := fun run mem => by
    have outcome := List.mem_map_of_mem Prod.fst mem
    rw [outcomes] at outcome
    simp only [List.mem_cons, List.mem_singleton, List.not_mem_nil, or_false] at outcome
    rcases outcome with same | same <;> exact ⟨_, same⟩
  exact ⟨distinct_announcements, bridgeServer_honest _, returned,
    pollLoop_returning_delivers_once "g" (.obj []) acceptsAll distinct_announcements
      (bridgeServer_honest _) 2 returned⟩

end Runs

end Bridge
end Rill
