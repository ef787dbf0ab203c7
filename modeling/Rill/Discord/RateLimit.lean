import Rill.Discord.Client
import Mathlib.Algebra.Order.Ring.Rat
import Mathlib.Tactic.NormNum

/-!
# The rate-limit loop over a run of responses

`requestLoop` against responses that open with `k` rate-limit responses and
then give another status.  The request goes out `k + 1` times and the loop
sleeps each `retry_after` in turn, `1.0` where a body has none.  The last
response decides the result: its decoded body for 200 and 201, `{}` for 204,
`None` for anything else.  A 200 or 201 whose body is not JSON makes
`resp.json()` raise, and so does `time.sleep` on a delay of `2^63` ns or more.
A failed response's body, decoded or raw, changes nothing the loop does.
-/

namespace Rill
namespace Discord

/-- A 429 whose body is an object with no `retry_after`, or one from 0 to `10^9`
seconds.  `time.sleep` raises on a delay of `2^63` ns or more, and on Linux on
one that carries the monotonic clock past `2^63` ns; below `10^9` s that takes
over 260 years of uptime. -/
def RateLimited (resp : Response) : Prop :=
  resp.status = 429 ∧ ∃ kvs, resp.body = some (.obj kvs) ∧
    (Dict.get? kvs "retry_after" = none ∨
      ∃ q, 0 ≤ q ∧ q ≤ 10 ^ 9 ∧ Dict.get? kvs "retry_after" = some (.num q))

/-- The delay a 429 asks for: its `retry_after`, `1.0` when it has none. -/
def retryDelay (resp : Response) : ℚ :=
  match resp.body with
  | some (.obj kvs) =>
      match Dict.get? kvs "retry_after" with
      | some (.num q) => q
      | _ => 1
  | _ => 1

/-- What `_request` returns for the response that ends the loop: the decoded
body for 200 and 201 (an exception when the body is not JSON), `{}` for 204 and
`None` for any other status. -/
def finalResult (resp : Response) : Answer (Option Json) :=
  if resp.status = 200 ∨ resp.status = 201 then
    match resp.body with
    | some j => .reply (some j)
    | none => .raised
  else if resp.status = 204 then .reply (some (.obj []))
  else .reply none

/-- `time.sleep` returns on a delay from 0 to `10^9` seconds. -/
theorem sleepRaises_eq_false {delay : ℚ} (nonneg : 0 ≤ delay) (bounded : delay ≤ 10 ^ 9) :
    sleepRaises delay = false := by
  have below : delay * 10 ^ 9 < 2 ^ 63 := calc
    delay * 10 ^ 9 ≤ 10 ^ 9 * 10 ^ 9 := mul_le_mul_of_nonneg_right bounded (by norm_num)
    _ < 2 ^ 63 := by norm_num
  simp [sleepRaises, not_lt.mpr nonneg, not_le.mpr below]

example : (requestLoop .get (.guildRoles "g")
    [⟨429, some (.obj [("retry_after", .num (10 ^ 10))]), []⟩]).map RequestRun.result = some .raised := by
  norm_num [requestLoop, retryAfter?, sleepRaises, Dict.get?]

theorem retryAfter?_rateLimited {resp : Response} (limited : RateLimited resp) :
    retryAfter? resp.body = some (retryDelay resp) ∧ sleepRaises (retryDelay resp) = false := by
  obtain ⟨-, kvs, body, absent | ⟨q, nonneg, bounded, present⟩⟩ := limited
  · simp only [retryAfter?, retryDelay, body, absent, Option.getD_none]
    exact ⟨trivial, sleepRaises_eq_false zero_le_one (by norm_num)⟩
  · simp only [retryAfter?, retryDelay, body, present, Option.getD_some]
    exact ⟨trivial, sleepRaises_eq_false nonneg bounded⟩

/-- One 429: the loop sleeps its delay and sends the request again. -/
theorem requestLoop_rateLimited (method : Method) (path : Path) {resp : Response}
    (limited : RateLimited resp) (rest : List Response) :
    requestLoop method path (resp :: rest) = (requestLoop method path rest).map fun run =>
      ⟨run.result, run.sends + 1, retryDelay resp :: run.sleeps,
        .rateLimit (retryDelay resp) :: run.log⟩ := by
  obtain ⟨delay, sleeps⟩ := retryAfter?_rateLimited limited
  simp [requestLoop, limited.1, delay, sleeps]

/-- Any other status ends the loop after one send and no sleep. -/
theorem requestLoop_final (method : Method) (path : Path) {resp : Response}
    (other : resp.status ≠ 429) (rest : List Response) :
    requestLoop method path (resp :: rest) = some (finalRun method path resp) := by
  simp [requestLoop, other]

/-- Two responses the same but for the body of a failure: the same status, and
the same body and text unless the status is a failure. -/
def SameButFailedBody (resp resp' : Response) : Prop :=
  resp.status = resp'.status ∧ (¬Failed resp.status → resp = resp')

/-- `_request` keeps the body of a failed response, decoded or raw, out of its
result, its sends, its sleeps and its output. -/
theorem requestLoop_failed_bodies (method : Method) (path : Path) {resps resps' : List Response}
    (same : List.Forall₂ SameButFailedBody resps resps') :
    requestLoop method path resps = requestLoop method path resps' := by
  induction same with
  | nil => rfl
  | @cons resp resp' rest rest' head _ ih =>
      obtain ⟨status, shown⟩ := head
      by_cases failed : Failed resp.status
      · have final : resp.status ≠ 429 := failed.2.2.2
        rw [requestLoop_final method path final, requestLoop_final method path (status ▸ final),
          finalRun_failed_body method path failed status]
      · cases shown failed
        simp only [requestLoop, ih]

/-- `requestLoop_failed_bodies` for two 403s, one with a JSON body and one
without. -/
theorem requestLoop_failed_bodies_forbidden :
    List.Forall₂ SameButFailedBody [⟨403, some (.str "token abc"), "token abc".toList⟩]
        [⟨403, none, "Missing Access".toList⟩] ∧
      requestLoop .get (.guildRoles "g") [⟨403, some (.str "token abc"), "token abc".toList⟩] =
        requestLoop .get (.guildRoles "g") [⟨403, none, "Missing Access".toList⟩] := by
  have same : List.Forall₂ SameButFailedBody [⟨403, some (.str "token abc"), "token abc".toList⟩]
      [⟨403, none, "Missing Access".toList⟩] :=
    .cons ⟨rfl, fun kept => (kept ⟨by decide, by decide, by decide, by decide⟩).elim⟩ .nil
  exact ⟨same, requestLoop_failed_bodies _ _ same⟩

theorem finalRun_sends_sleeps_result (method : Method) (path : Path) (resp : Response) :
    (finalRun method path resp).sends = 1 ∧ (finalRun method path resp).sleeps = [] ∧
      (finalRun method path resp).result = finalResult resp := by
  obtain ⟨status, _ | body⟩ := resp <;> unfold finalRun finalResult <;> split_ifs <;> simp

/-- `k` rate-limit responses, then one of another status: `k + 1` sends, the
`k` delays in order, and the result the last response decides. -/
theorem requestLoop_retries_then_final (method : Method) (path : Path)
    (limited : List Response) (rateLimited : ∀ resp ∈ limited, RateLimited resp)
    (final : Response) (other : final.status ≠ 429) (later : List Response) :
    ∃ run, requestLoop method path (limited ++ final :: later) = some run ∧
      run.sends = limited.length + 1 ∧ run.sleeps = limited.map retryDelay ∧
      run.result = finalResult final := by
  induction limited with
  | nil => exact ⟨_, requestLoop_final method path other later,
      finalRun_sends_sleeps_result method path final⟩
  | cons resp rest ih =>
      obtain ⟨run, loop, sends, sleeps, result⟩ :=
        ih fun r mem => rateLimited r (.tail _ mem)
      rw [List.cons_append, requestLoop_rateLimited method path (rateLimited resp (.head _)),
        loop]
      exact ⟨_, rfl, by simp [sends], by simp [sleeps], result⟩

/-- Two 429s, the first with `retry_after` 0.5 and the second with none, then a
204. -/
theorem requestLoop_retries_then_final_twice :
    (∀ resp ∈ [(⟨429, some (.obj [("retry_after", .num (1 / 2))]), []⟩ : Response),
        ⟨429, some (.obj [("message", .str "slow down")]), []⟩], RateLimited resp) ∧
      (⟨204, none, []⟩ : Response).status ≠ 429 ∧
      ∃ run, requestLoop .get (.guildRoles "g")
          ([⟨429, some (.obj [("retry_after", .num (1 / 2))]), []⟩,
            ⟨429, some (.obj [("message", .str "slow down")]), []⟩] ++ [⟨204, none, []⟩]) = some run ∧
        run.sends = 2 + 1 ∧ run.sleeps = [1 / 2, 1] ∧ run.result = .reply (some (.obj [])) := by
  have limited : ∀ resp ∈ [(⟨429, some (.obj [("retry_after", .num (1 / 2))]), []⟩ : Response),
      ⟨429, some (.obj [("message", .str "slow down")]), []⟩], RateLimited resp := by
    simp only [List.mem_cons, List.mem_singleton, List.not_mem_nil, or_false]
    rintro resp (rfl | rfl)
    · exact ⟨rfl, _, rfl, .inr ⟨1 / 2, by norm_num, by norm_num, rfl⟩⟩
    · exact ⟨rfl, _, rfl, .inl rfl⟩
  refine ⟨limited, by decide, ?_⟩
  obtain ⟨run, loop, sends, sleeps, result⟩ :=
    requestLoop_retries_then_final .get (.guildRoles "g") _ limited ⟨204, none, []⟩ (by decide) []
  exact ⟨run, loop, sends, by simp [sleeps, retryDelay, Dict.get?_cons], by
    simp [result, finalResult]⟩

/-- A 200 whose body is not JSON: `resp.json()` raises, so `_request` returns
no decoded body. -/
theorem requestLoop_success_not_json :
    (requestLoop .get (.guildRoles "g") [⟨200, none, []⟩]).map RequestRun.result = some .raised :=
  rfl

end Discord
end Rill
