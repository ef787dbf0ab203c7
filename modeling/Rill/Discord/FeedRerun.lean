import Rill.Discord.FeedGuild

/-!
# Running the feed script again after a kill

`add_feed_channels.py` has no cancellation: a run killed between two requests
leaves the guild as the requests made so far left it.  The script never deletes,
and every other request Discord carries out keeps a guild ready for the script,
so a run started on what a killed run left settles the guild, and the run after
it changes nothing.
-/

namespace Rill
namespace Discord

open Prog Guild

/-! ## The script never deletes -/

/-- A request that deletes nothing. -/
def NoDelete (q : Request) : Prop := q.method ≠ .delete

section Requests

variable {α : Type}

theorem request_noDelete (client : DiscordClient) {method : Method} (keeps : method ≠ .delete)
    (path : Path) (json : Option Payload) {P : Option Json → Prop} (all : ∀ r, P r) :
    Only NoDelete (fun _ => True) P (client.request method path json) := by
  unfold DiscordClient.request
  split
  · exact all _
  · exact ⟨keeps, all⟩

theorem ofOption_noDelete (x : Option α) {P : α → Prop} (all : ∀ a, P a) :
    Only NoDelete (fun _ => True) P (Prog.ofOption x : Script α) :=
  (only_ofOption x).mpr ⟨fun _ => trivial, fun a _ => all a⟩

theorem sendEach_noDelete (client : DiscordClient) (chId : Json) (msgs : List String) :
    Only NoDelete (fun _ => True) (fun _ => True) (sendEach client chId msgs) := by
  induction msgs with
  | nil => trivial
  | cons m rest ih =>
      unfold sendEach
      split
      · exact ih
      split
      · exact ih
      rw [only_bind]
      refine request_noDelete client (by decide) _ _ fun sendResult => ?_
      rcases sendResult with _ | r
      · exact ih
      dsimp only
      split
      · refine (only_bind _ _).mpr (ofOption_noDelete _ fun msgId => ?_)
        split
        · exact (only_bind _ _).mpr (request_noDelete client (by decide) _ _ fun _ => ih)
        · exact ih
      · exact ih

theorem pinEach_noDelete (client : DiscordClient) (pinnedMessages : Dict (List String))
    (entries : List (String × Json)) :
    Only NoDelete (fun _ => True) (fun _ => True) (pinEach client pinnedMessages entries) := by
  induction entries with
  | nil => trivial
  | cons entry rest ih =>
      obtain ⟨name, chId⟩ := entry
      have sent : ∀ msgs, Only NoDelete (fun _ => True) (fun _ => True)
          (sendEach client chId msgs >>= fun _ => pinEach client pinnedMessages rest) := fun msgs =>
        (only_bind _ _).mpr ((sendEach_noDelete client chId msgs).mono (fun _ => id) (fun _ => id)
          fun _ _ => ih)
      unfold pinEach
      dsimp only
      split
      · exact ih
      split
      · rw [only_bind, map_eq_bind, only_bind]
        refine request_noDelete client (by decide) _ _ fun pins => ?_
        rw [only_pure]
        split
        · exact ih
        · exact sent _
      · exact sent _

theorem createEach_noDelete (client : DiscordClient) (guildId : String) (channels existing : List Json)
    (botsId : Json) (overwrites : List Overwrite) (todo : List NewChannel) :
    ∀ created, Only NoDelete (fun _ => True) (fun _ => True)
      (createEach client guildId channels existing botsId overwrites todo created) := by
  induction todo with
  | nil => exact fun _ => trivial
  | cons chDef rest ih =>
      intro created
      unfold createEach
      split
      · exact (only_bind _ _).mpr (ofOption_noDelete _ fun _ => ih _)
      rw [only_bind]
      refine request_noDelete client (by decide) _ _ fun result => ?_
      rcases result with _ | r
      · exact ih _
      dsimp only
      split
      · exact (only_bind _ _).mpr (ofOption_noDelete _ fun _ => ih _)
      · exact ih _

theorem createdChannels_noDelete (token guildId : String) (newChannels : List NewChannel)
    {P : Dict Json → Prop} (all : ∀ created, P created) :
    Only NoDelete (fun _ => True) P (createdChannels token guildId newChannels) := by
  unfold createdChannels
  rw [only_bind]
  refine request_noDelete _ (by decide) _ _ fun channelsResult => ?_
  split
  · rw [only_bind]
    refine ofOption_noDelete _ fun ⟨botsId, existing⟩ => ?_
    dsimp only
    split
    · trivial
    rw [only_bind]
    refine request_noDelete _ (by decide) _ _ fun roles => ?_
    split
    · rw [only_bind]
      exact ofOption_noDelete _ fun _ =>
        (createEach_noDelete _ _ _ _ _ _ _ []).mono (fun _ => id) (fun _ => id) fun created _ => all created
    · trivial
  · trivial

/-- A live run of `main` deletes nothing. -/
theorem main_noDelete (token guildId : String) (newChannels : List NewChannel)
    (pinnedMessages : Dict (List String)) :
    Only NoDelete (fun _ => True) (fun _ => True) (main token guildId false newChannels pinnedMessages) := by
  rw [main_live_eq, only_bind]
  exact createdChannels_noDelete token guildId newChannels fun created =>
    pinEach_noDelete _ pinnedMessages created

end Requests

/-! ## Discord keeps a guild ready -/

theorem id_reposition (entries : List Position) (r : Role) : (reposition entries r).id = r.id := by
  unfold reposition
  split <;> rfl

theorem FeedReady.addRole {G : Guild} (ready : FeedReady G) (payload : RolePayload) :
    FeedReady { G with roles := G.roles ++ [⟨G.nextId, payload, 1⟩], nextId := G.nextId + 1 } := by
  refine ready.raise rfl (by simp) ⟨Nat.succ_pos _, fun r mem => ?_,
    fun p mem => Nat.lt_succ_of_lt (ready.fresh.posts p mem)⟩ (Nat.le_succ _)
  rcases List.mem_append.mp mem with old | new
  · exact Nat.lt_succ_of_lt (ready.fresh.roles r old)
  · rw [List.mem_singleton.mp new]
    exact Nat.lt_succ_self _

theorem FeedReady.reorder {G : Guild} (ready : FeedReady G) (entries : List Position) :
    FeedReady { G with roles := G.roles.map (reposition entries) } := by
  refine ready.raise rfl (by simpa using ready.roles)
    ⟨ready.fresh.positive, fun r mem => ?_, ready.fresh.posts⟩ le_rfl
  obtain ⟨r₀, mem₀, rfl⟩ := List.mem_map.mp mem
  rw [id_reposition]
  exact ready.fresh.roles r₀ mem₀

theorem FeedReady.addPost {G : Guild} (ready : FeedReady G) (c : Nat) (content : String) :
    FeedReady { G with posts := G.posts ++ [⟨G.nextId, c, content⟩], nextId := G.nextId + 1 } := by
  refine ready.raise rfl ready.roles ⟨Nat.succ_pos _,
    fun r mem => Nat.lt_succ_of_lt (ready.fresh.roles r mem), fun p mem => ?_⟩ (Nat.le_succ _)
  rcases List.mem_append.mp mem with old | new
  · exact Nat.lt_succ_of_lt (ready.fresh.posts p old)
  · rw [List.mem_singleton.mp new]
    exact Nat.lt_succ_self _

theorem FeedReady.addPin {G : Guild} (ready : FeedReady G) (pin : Nat × Nat) :
    FeedReady { G with pins := G.pins ++ [pin] } :=
  ready.raise rfl ready.roles ⟨ready.fresh.positive, ready.fresh.roles, ready.fresh.posts⟩ le_rfl

/-- Every request but a deletion keeps a guild ready for the feed script. -/
theorem FeedReady.step {G : Guild} (ready : FeedReady G) (guildId : String) {q : Request}
    (keeps : NoDelete q) : FeedReady (Guild.step guildId q G).2 := by
  unfold Guild.step
  split
  -- the listings change nothing
  · split <;> exact ready
  · split <;> exact ready
  · split <;> exact ready
  -- the one request the script never makes
  · exact absurd rfl keeps
  · split
    · exact ready.addRole _
    · exact ready
  · split
    · exact ready.reorder _
    · exact ready
  · split
    · exact @FeedReady.append _ ready [_] rfl
    · exact ready
  · split
    · split
      · exact ready.addPost _ _
      · exact ready
    · exact ready
  · split
    · split
      · exact ready.addPin _
      · exact ready
    · exact ready
  · exact ready

/-- Every request but a deletion keeps the guild's channels, adding at most one
after them. -/
theorem channels_prefix_step (guildId : String) {q : Request} (keeps : NoDelete q) (G : Guild) :
    G.channels <+: (Guild.step guildId q G).2.channels := by
  unfold Guild.step
  repeat' split
  all_goals first | exact List.prefix_refl _ | exact List.prefix_append _ _ | exact (keeps rfl).elim

/-! ## A run after a killed run -/

/-- The feed script is safe to run again after a kill.  Stop a live run from a
ready guild after any number of requests: a run on what it left completes, keeps
every channel the guild had before, leaves each entry's name on a channel with
nothing left to pin, and the run after it changes nothing. -/
theorem main_after_kill (token guildId : String) (newChannels : List NewChannel)
    (pinnedMessages : Dict (List String)) (distinct : (newChannels.map NewChannel.name).Nodup)
    {G : Guild} (ready : FeedReady G) (n : Nat) :
    let G₀ := Prog.execFor (step guildId) n (main token guildId false newChannels pinnedMessages) G
    ∃ G₁, (main token guildId false newChannels pinnedMessages).exec (step guildId) G₀ = (.ok (), G₁) ∧
      G.channels <+: G₁.channels ∧
      (∀ chDef ∈ newChannels, ∃ c ∈ G₁.channels, c.payload.name = chDef.name ∧
        PinsDone G₁ c (messagesOf pinnedMessages chDef.name)) ∧
      (main token guildId false newChannels pinnedMessages).exec (step guildId) G₁ = (.ok (), G₁) := by
  intro G₀
  have noDelete := main_noDelete token guildId newChannels pinnedMessages
  have ready₀ : FeedReady G₀ :=
    noDelete.execFor_inv FeedReady (fun _ _ keeps ready => ready.step guildId keeps) n ready
  have kept₀ : G.channels <+: G₀.channels :=
    noDelete.execFor_inv (fun W => G.channels <+: W.channels)
      (fun _ W keeps kept => kept.trans (channels_prefix_step guildId keeps W)) n (List.prefix_refl _)
  obtain ⟨b, -, overwrites, G₁, run₁, grown, done, again⟩ :=
    main_exec_ready token guildId newChannels pinnedMessages distinct ready₀
  refine ⟨G₁, run₁, ?_, done, again⟩
  rw [grown.channels]
  exact kept₀.trans (List.prefix_append _ _)

theorem main_after_kill_botsGuild :
    let G₀ := Prog.execFor (step "g") 3
      (main "token" "g" false Shipped.newChannels Shipped.pinnedMessages) Shipped.botsGuild
    ∃ G₁, (main "token" "g" false Shipped.newChannels Shipped.pinnedMessages).exec (step "g") G₀ = (.ok (), G₁) ∧
      (main "token" "g" false Shipped.newChannels Shipped.pinnedMessages).exec (step "g") G₁ = (.ok (), G₁) :=
  let ⟨G₁, first, _, _, second⟩ := main_after_kill "token" "g" Shipped.newChannels Shipped.pinnedMessages
    (by decide) Shipped.botsGuild_ready 3
  ⟨G₁, first, second⟩

end Discord
end Rill
