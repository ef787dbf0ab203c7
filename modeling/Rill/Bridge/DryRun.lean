import Rill.Bridge.Checkpoint

/-!
# The bridge in dry-run mode

`discord_telegram_bridge.py --dry-run` polls as the live bridge does, but
`telegram_send` only prints and reports success, and `check_and_forward` skips
`save_state`.  So a dry poll reads Discord and the checkpoint file and nothing
else, whatever the outside answers: over any number of polls nothing reaches
Telegram and the file keeps what it held before the first one.
-/

namespace Rill
namespace Bridge

open Prog

/-- A request that only reads: a Discord GET, or reading the checkpoint file. -/
def Reads : Request → Prop
  | .discordGet _ | .loadState => True
  | .telegramSend _ _ | .saveState _ => False

/-- What a dry poll can do: read, and halt by an exception. -/
abbrev DryOnly {α : Type} (p : Script α) : Prop := Only Reads (· = .raised) (fun _ => True) p

theorem forwardEach_dry (chName : String) (messages : List Json) :
    ∀ (state : Dict Json) (forwarded : Nat), DryOnly (forwardEach true chName messages state forwarded) := by
  induction messages with
  | nil => exact fun _ _ => trivial
  | cons msg rest ih =>
      intro state forwarded
      simp only [forwardEach, telegramSend, if_true, only_bind, only_ofOption]
      refine ⟨fun _ => trivial, fun msgId _ => ⟨fun _ => trivial, fun content _ => ?_⟩⟩
      split
      · simp only [only_bind, only_ofOption]
        refine ⟨fun _ => trivial, fun author _ => ⟨fun _ => trivial, fun bot _ => ?_⟩⟩
        split
        · exact ih _ _
        · simp [ih]
      · exact ih _ _

theorem forwardChannel_dry (chName : String) (chId state : Json) (forwarded : Nat) :
    DryOnly (forwardChannel true chName chId state forwarded) := by
  cases state with
  | obj kvs =>
      simp only [forwardChannel, discordGet, send, call_bind, only_call, pure_bind']
      refine ⟨trivial, fun messages => ?_⟩
      rcases messages with _ | (_ | _ | _ | _ | (_ | ⟨newest, older⟩) | _) <;> try trivial
      simp only [only_bind]
      exact (forwardEach_dry chName _ kvs forwarded).mono (fun _ => id) (fun _ => id)
        fun _ _ => by simp
  | _ => rfl

theorem forwardChannels_dry (found : List (String × Json)) :
    ∀ (state : Json) (forwarded : Nat), DryOnly (forwardChannels true found state forwarded) := by
  induction found with
  | nil => exact fun _ _ => trivial
  | cons entry rest ih =>
      intro state forwarded
      simp only [forwardChannels, only_bind]
      exact (forwardChannel_dry entry.1 entry.2 state forwarded).mono (fun _ => id) (fun _ => id)
        fun _ _ => ih _ _

theorem findChannelIds_dry (guildId : String) : DryOnly (findChannelIds guildId) := by
  simp only [findChannelIds, discordGet, send, call_bind, only_call, pure_bind']
  refine ⟨trivial, fun channels => ?_⟩
  rcases channels with _ | (_ | _ | _ | _ | chs | _) <;> simp

/-- One dry poll, whatever the outside answers, only reads. -/
theorem checkAndForward_dry (guildId : String) : DryOnly (checkAndForward guildId true) := by
  simp only [checkAndForward, loadState, send, call_bind, only_call, pure_bind', only_bind]
  refine ⟨trivial, fun state => (findChannelIds_dry guildId).mono (fun _ => id) (fun _ => id)
    fun found _ => ?_⟩
  split
  · trivial
  · simp only [only_bind]
    exact (forwardChannels_dry found state 0).mono (fun _ => id) (fun _ => id) fun _ _ => by simp

/-- `count` more rounds of the loop of `main --dry-run` after the polls
`runs`. -/
def dryPollLoop (server : Server) (guildId : String) : Nat → List PollRun → List PollRun
  | 0, runs => runs
  | count + 1, runs => dryPollLoop server guildId count
      (runs ++ [(checkAndForward guildId true).exec (Prog.oracle fun h => server (history runs ++ h)) []])

theorem dryPollLoop_reads_of (server : Server) (guildId : String) (count : Nat) :
    ∀ runs, (∀ e ∈ history runs, Reads e.1) →
      ∀ e ∈ history (dryPollLoop server guildId count runs), Reads e.1 := by
  induction count with
  | zero => exact fun _ reads => reads
  | succ count ih =>
      intro runs reads
      refine ih _ fun e mem => ?_
      rw [history_append, List.mem_append] at mem
      rcases mem with old | new
      · exact reads e old
      · exact ((checkAndForward_dry guildId).exec_oracle rfl _ (List.forall_mem_nil _)).1 e new

theorem Reads.quiet {e : Exchange} (reads : Reads e.1) : delivered? e = none ∧ written? e = none := by
  obtain ⟨q, a⟩ := e
  cases q <;> cases a <;> first | exact ⟨rfl, rfl⟩ | exact reads.elim

/-- Over any number of dry-run polls, against any outside, every request only
reads: nothing is delivered to Telegram, and the checkpoint file keeps what it
held before the first poll. -/
theorem dryPollLoop_reads (server : Server) (guildId : String) (count : Nat) (file : Json) :
    (∀ e ∈ history (dryPollLoop server guildId count []), Reads e.1) ∧
      deliveries (history (dryPollLoop server guildId count [])) = [] ∧
      fileState file (history (dryPollLoop server guildId count [])) = file := by
  have reads := dryPollLoop_reads_of server guildId count [] (List.forall_mem_nil _)
  refine ⟨reads, List.filterMap_eq_nil_iff.mpr fun e mem => (reads e mem).quiet.1, ?_⟩
  generalize history (dryPollLoop server guildId count []) = h at reads
  induction h using List.reverseRecOn with
  | nil => rfl
  | append_singleton h e ih =>
      rw [fileState_snoc, (reads e (by simp)).quiet.2, Option.getD_none]
      exact ih fun e mem => reads e (by simp [mem])

end Bridge
end Rill
