import Rill.Json
import Mathlib.Data.List.Infix

/-!
# Scripts as trees of requests

Each script is sequential Python that talks to the outside only through HTTP
calls (and, for the bridge, its checkpoint file).  A script is modelled as a
tree: `call q k` issues the request `q` and continues with `k` on the reply;
`halt` is `sys.exit` or an uncaught exception.  The environment answers each
call: a reply, or an exception raised inside `requests`.

`exec` runs a tree against one deterministic environment, a step function on
a world.  `Sat env post stop p w` says that `p`, started in `w`, ends in
`post` (normal return) or `stop` (halt) along every path the environment
relation `env` allows; `Sat.exec` turns it into a fact about every `exec`
whose steps `env` allows.  This is the weakest precondition of the program
for the demonic choice of replies.
-/

namespace Rill

/-- How a run stops before returning. -/
inductive Halt where
  /-- `sys.exit(code)`. -/
  | exit (code : Nat)
  /-- An exception nothing catches. -/
  | raised
  deriving DecidableEq, Repr

/-- The exit status of a run that halted: Python exits with 1 on an uncaught
exception. -/
def Halt.code : Halt → Nat
  | .exit code => code
  | .raised => 1

/-- What the environment does with one call: it raises, or it replies. -/
inductive Answer (α : Type) where
  | raised
  | reply (value : α)
  deriving DecidableEq, Repr

/-- A script issuing requests of type `Q`, whose replies have type `R q`. -/
inductive Prog (Q : Type) (R : Q → Type) (α : Type) : Type where
  | pure (a : α)
  | call (q : Q) (k : R q → Prog Q R α)
  | halt (h : Halt)

namespace Prog

variable {Q : Type} {R : Q → Type} {α β W : Type}

/-- Sequencing: run `p`, then `f` on its result. -/
def bind : Prog Q R α → (α → Prog Q R β) → Prog Q R β
  | .pure a, f => f a
  | .call q k, f => .call q fun r => (k r).bind f
  | .halt h, _ => .halt h

instance : Monad (Prog Q R) where
  pure := .pure
  bind := .bind

@[simp] theorem pure_bind' (a : α) (f : α → Prog Q R β) :
    (Prog.pure a >>= f) = f a := rfl

@[simp] theorem pure_bind'' (a : α) (f : α → Prog Q R β) :
    (Pure.pure a >>= f) = f a := rfl

@[simp] theorem halt_bind (h : Halt) (f : α → Prog Q R β) :
    (Prog.halt h >>= f) = .halt h := rfl

@[simp] theorem call_bind (q : Q) (k : R q → Prog Q R α) (f : α → Prog Q R β) :
    (Prog.call q k >>= f) = .call q fun r => k r >>= f := rfl

@[simp] theorem bind_assoc' (p : Prog Q R α) (f : α → Prog Q R β) {γ : Type}
    (g : β → Prog Q R γ) : (p >>= f >>= g) = p >>= fun a => f a >>= g := by
  induction p with
  | pure a => rfl
  | call q k ih => exact congrArg (Prog.call q) (funext ih)
  | halt h => rfl

@[simp] theorem bind_pure' (p : Prog Q R α) : (p >>= Prog.pure) = p := by
  induction p with
  | pure a => rfl
  | call q k ih => exact congrArg (Prog.call q) (funext ih)
  | halt h => rfl

@[simp] theorem map_eq_bind (f : α → β) (p : Prog Q R α) :
    (f <$> p) = p >>= fun a => .pure (f a) := rfl

/-- Issue one request and return its reply. -/
def send (q : Q) : Prog Q R (R q) := .call q .pure

/-- Python raising an exception (`AttributeError`, `KeyError`, ...). -/
def raise : Prog Q R α := .halt .raised

/-- A value Python computes, or the exception it raises (`none`). -/
def ofOption : Option α → Prog Q R α
  | some a => .pure a
  | none => raise

@[simp] theorem ofOption_some (a : α) : (ofOption (some a) : Prog Q R α) = .pure a := rfl

@[simp] theorem ofOption_none : (ofOption none : Prog Q R α) = .halt .raised := rfl

/-! ## Execution against one environment -/

/-- Run `p` from world `w`; `step q w` is the environment's answer to `q` and
the world after it. -/
def exec (step : (q : Q) → W → Answer (R q) × W) :
    Prog Q R α → W → Except Halt α × W
  | .pure a, w => (.ok a, w)
  | .halt h, w => (.error h, w)
  | .call q k, w =>
      match step q w with
      | (.raised, w') => (.error .raised, w')
      | (.reply r, w') => exec step (k r) w'

@[simp] theorem exec_pure (step : (q : Q) → W → Answer (R q) × W) (a : α) (w : W) :
    exec step (Pure.pure a : Prog Q R α) w = (.ok a, w) := rfl

@[simp] theorem exec_halt (step : (q : Q) → W → Answer (R q) × W) (h : Halt) (w : W) :
    exec step (.halt h : Prog Q R α) w = (.error h, w) := rfl

theorem exec_call (step : (q : Q) → W → Answer (R q) × W) (q : Q) (k : R q → Prog Q R α)
    (w : W) : exec step (.call q k) w =
      match step q w with
      | (.raised, w') => (.error .raised, w')
      | (.reply r, w') => exec step (k r) w' := by
  rw [exec]

theorem exec_bind (step : (q : Q) → W → Answer (R q) × W) (p : Prog Q R β)
    (f : β → Prog Q R α) (w : W) :
    exec step (p >>= f) w =
      match exec step p w with
      | (.ok b, w') => exec step (f b) w'
      | (.error h, w') => (.error h, w') := by
  induction p generalizing w with
  | pure b => rfl
  | halt h => rfl
  | call q k ih =>
      rw [call_bind, exec_call, exec_call]
      rcases step q w with ⟨_ | r, w'⟩
      · rfl
      · exact ih r w'

/-- A stage that returns lets the run go on from where it ended. -/
theorem exec_bind_of_ok {step : (q : Q) → W → Answer (R q) × W} {p : Prog Q R β}
    {f : β → Prog Q R α} {w w' : W} {b : β} (ran : exec step p w = (.ok b, w')) :
    exec step (p >>= f) w = exec step (f b) w' := by
  rw [exec_bind, ran]

/-! ## Every behaviour the environment allows -/

/-- `p` from `w` ends in `post` or `stop` whatever the environment does within
`env q w answer w'`. -/
def Sat (env : (q : Q) → W → Answer (R q) → W → Prop)
    (post : α → W → Prop) (stop : Halt → W → Prop) : Prog Q R α → W → Prop
  | .pure a, w => post a w
  | .halt h, w => stop h w
  | .call q k, w => ∀ a w', env q w a w' →
      match a with
      | .raised => stop .raised w'
      | .reply r => Sat env post stop (k r) w'

variable {env : (q : Q) → W → Answer (R q) → W → Prop}
  {post : α → W → Prop} {stop : Halt → W → Prop}

@[simp] theorem sat_pure (a : α) (w : W) :
    Sat env post stop (.pure a) w ↔ post a w := Iff.rfl

@[simp] theorem sat_pure' (a : α) (w : W) :
    Sat env post stop (Pure.pure a) w ↔ post a w := Iff.rfl

@[simp] theorem sat_halt (h : Halt) (w : W) :
    Sat env post stop (.halt h) w ↔ stop h w := Iff.rfl

theorem sat_call (q : Q) (k : R q → Prog Q R α) (w : W) :
    Sat env post stop (.call q k) w ↔ ∀ a w', env q w a w' →
      match a with
      | .raised => stop .raised w'
      | .reply r => Sat env post stop (k r) w' := Iff.rfl

theorem sat_ofOption (x : Option α) (w : W) :
    Sat env post stop (ofOption x) w ↔ (x = none → stop .raised w) ∧ ∀ a, x = some a → post a w := by
  cases x <;> simp [ofOption, raise]

/-- The rule for sequencing: the postcondition of `p` is what `f` needs. -/
theorem sat_bind (p : Prog Q R β) (f : β → Prog Q R α) (w : W) :
    Sat env post stop (p >>= f) w ↔
      Sat env (fun b w' => Sat env post stop (f b) w') stop p w := by
  induction p generalizing w with
  | pure b => rfl
  | halt h => rfl
  | call q k ih =>
      simp only [call_bind, sat_call]
      refine forall_congr' fun a => forall_congr' fun w' => imp_congr_right fun _ => ?_
      cases a with
      | raised => rfl
      | reply r => exact ih r w'

theorem Sat.mono {post' : α → W → Prop} {stop' : Halt → W → Prop}
    {p : Prog Q R α} {w : W} (holds : Sat env post stop p w)
    (postImp : ∀ a w, post a w → post' a w) (stopImp : ∀ h w, stop h w → stop' h w) :
    Sat env post' stop' p w := by
  induction p generalizing w with
  | pure a => exact postImp a w holds
  | halt h => exact stopImp h w holds
  | call q k ih =>
      intro a w' allowed
      cases a with
      | raised => exact stopImp _ _ (holds .raised w' allowed)
      | reply r => exact ih r (holds (.reply r) w' allowed)

/-- Soundness: an environment whose every step `env` allows ends `p` as `Sat`
says. -/
theorem Sat.exec {step : (q : Q) → W → Answer (R q) × W}
    (allowed : ∀ q w, env q w (step q w).1 (step q w).2)
    {p : Prog Q R α} {w : W} (holds : Sat env post stop p w) :
    match Prog.exec step p w with
    | (.ok a, w') => post a w'
    | (.error h, w') => stop h w' := by
  induction p generalizing w with
  | pure a => exact holds
  | halt h => exact holds
  | call q k ih =>
      have next := holds (step q w).1 (step q w).2 (allowed q w)
      unfold Prog.exec
      revert next
      cases step q w with
      | mk a w' =>
          cases a with
          | raised => exact id
          | reply r => exact ih r

/-! ## Facts that do not depend on the replies -/

/-- Every request `p` can issue satisfies `K`, every way it halts satisfies `H`
and every result it returns satisfies `P`, whatever the replies. -/
def Only (K : Q → Prop) (H : Halt → Prop) (P : α → Prop) : Prog Q R α → Prop
  | .pure a => P a
  | .halt h => H h
  | .call q k => K q ∧ ∀ r, Only K H P (k r)

variable {K : Q → Prop} {H : Halt → Prop} {P : α → Prop}

@[simp] theorem only_pure (a : α) : Only K H P (.pure a : Prog Q R α) ↔ P a := Iff.rfl

@[simp] theorem only_pure' (a : α) : Only K H P (Pure.pure a : Prog Q R α) ↔ P a := Iff.rfl

@[simp] theorem only_halt (h : Halt) : Only K H P (.halt h : Prog Q R α) ↔ H h := Iff.rfl

@[simp] theorem only_call (q : Q) (k : R q → Prog Q R α) :
    Only K H P (.call q k) ↔ K q ∧ ∀ r, Only K H P (k r) := Iff.rfl

@[simp] theorem only_ofOption (x : Option α) :
    Only K H P (ofOption x : Prog Q R α) ↔ (x = none → H .raised) ∧ ∀ a, x = some a → P a := by
  cases x <;> simp [ofOption, raise]

/-- The rule for sequencing. -/
@[simp] theorem only_bind (p : Prog Q R β) (f : β → Prog Q R α) :
    Only K H P (p >>= f) ↔ Only K H (fun b => Only K H P (f b)) p := by
  induction p with
  | pure b => rfl
  | halt h => rfl
  | call q k ih => simp only [call_bind, only_call, ih]

theorem Only.mono {K' : Q → Prop} {H' : Halt → Prop} {P' : α → Prop} {p : Prog Q R α}
    (only : Only K H P p) (kImp : ∀ q, K q → K' q) (hImp : ∀ h, H h → H' h)
    (pImp : ∀ a, P a → P' a) : Only K' H' P' p := by
  induction p with
  | pure a => exact pImp a only
  | halt h => exact hImp h only
  | call q k ih => exact ⟨kImp q only.1, fun r => ih r (only.2 r)⟩

/-- Sequencing depends only on the results `p` can return. -/
theorem Only.bind_congr {p : Prog Q R β} {P : β → Prop} {f g : β → Prog Q R α}
    (only : Only (fun _ => True) (fun _ => True) P p) (same : ∀ b, P b → f b = g b) :
    p >>= f = p >>= g := by
  induction p with
  | pure b => exact same b only
  | halt h => rfl
  | call q k ih => exact congrArg (Prog.call q) (funext fun r => ih r (only.2 r))

/-- A reply-independent fact gives `Sat` for any invariant of the world that
the allowed requests keep. -/
theorem Only.sat (Inv : W → Prop) {p : Prog Q R α} (only : Only K H P p)
    (raised : H .raised) (keep : ∀ q w a w', K q → Inv w → env q w a w' → Inv w')
    {w : W} (start : Inv w) :
    Sat env (fun a w' => P a ∧ Inv w') (fun h w' => H h ∧ Inv w') p w := by
  induction p generalizing w with
  | pure a => exact ⟨only, start⟩
  | halt h => exact ⟨only, start⟩
  | call q k ih =>
      intro a w' allowed
      have kept := keep q w a w' only.1 start allowed
      cases a with
      | raised => exact ⟨raised, kept⟩
      | reply r => exact ih r (only.2 r) kept

/-! ## Runs cut short -/

/-- The world `p` leaves from `w` when the process is stopped after at most `n`
calls: the state a kill between two requests leaves behind. -/
def execFor (step : (q : Q) → W → Answer (R q) × W) : Nat → Prog Q R α → W → W
  | n + 1, .call q k, w =>
      match step q w with
      | (.raised, w') => w'
      | (.reply r, w') => execFor step n (k r) w'
  | _, _, w => w

/-- An invariant of the world that every allowed request keeps holds after any
prefix of a run. -/
theorem Only.execFor_inv {step : (q : Q) → W → Answer (R q) × W} (Inv : W → Prop) {p : Prog Q R α}
    (only : Only K H P p) (keep : ∀ q w, K q → Inv w → Inv (step q w).2) :
    ∀ (n : Nat) {w : W}, Inv w → Inv (Prog.execFor step n p w) := by
  induction p with
  | pure a => intro n w start; cases n <;> exact start
  | halt h => intro n w start; cases n <;> exact start
  | call q k ih =>
      intro n w start
      cases n with
      | zero => exact start
      | succ n =>
          have kept := keep q w only.1 start
          simp only [Prog.execFor]
          split
          · next w' answered => rwa [answered] at kept
          · next r w' answered => exact ih r (only.2 r) n (by rwa [answered] at kept)

/-! ## Worlds that log every exchange -/

/-- One call and what the environment did with it. -/
abbrev Exchange (Q : Type) (R : Q → Type) := (q : Q) × Answer (R q)

/-- The environment that gives any answer `allows` admits after the exchanges
`h`, and logs it. -/
def logs (allows : List (Exchange Q R) → (q : Q) → Answer (R q) → Prop) (q : Q)
    (h : List (Exchange Q R)) (a : Answer (R q)) (h' : List (Exchange Q R)) : Prop :=
  allows h q a ∧ h' = h ++ [⟨q, a⟩]

/-- A server that answers each call from the exchanges before it. -/
def oracle (server : List (Exchange Q R) → (q : Q) → Answer (R q)) (q : Q)
    (h : List (Exchange Q R)) : Answer (R q) × List (Exchange Q R) :=
  (server h q, h ++ [⟨q, server h q⟩])

theorem oracle_allowed {allows : List (Exchange Q R) → (q : Q) → Answer (R q) → Prop}
    {server : List (Exchange Q R) → (q : Q) → Answer (R q)}
    (admitted : ∀ h q, allows h q (server h q)) (q : Q) (h : List (Exchange Q R)) :
    logs allows q h (oracle server q h).1 (oracle server q h).2 :=
  ⟨admitted h q, rfl⟩

/-- A reply-independent fact holds of every run against every server: each
logged request satisfies `K`, and the run ends in `P` or `H`. -/
theorem Only.exec_oracle {p : Prog Q R α} (only : Only K H P p) (raised : H .raised)
    (server : List (Exchange Q R) → (q : Q) → Answer (R q)) {h : List (Exchange Q R)}
    (start : ∀ e ∈ h, K e.1) :
    (∀ e ∈ (p.exec (oracle server) h).2, K e.1) ∧
      match (p.exec (oracle server) h).1 with
      | .ok a => P a
      | .error stop => H stop := by
  have sat := Sat.exec (@oracle_allowed Q R (fun _ _ _ => True) server fun _ _ => trivial)
    (only.sat (fun h => ∀ e ∈ h, K e.1) raised
      (fun q w a w' kq inv allowed e mem => by
        rw [allowed.2, List.mem_append, List.mem_singleton] at mem
        rcases mem with old | rfl
        · exact inv e old
        · exact kq) start)
  revert sat
  rcases p.exec (oracle server) h with ⟨_ | _, _⟩ <;> exact fun ⟨ends, logged⟩ => ⟨logged, ends⟩

/-! ## Agreement on the replies a hypothesis admits -/

/-- `p` and `p'` issue the same requests, and end alike, on every path whose
replies satisfy `A`; `same` relates the results they return. -/
def Agree {ρ : Type} (A : Q → ρ → Prop) (same : α → β → Prop) :
    Prog Q (fun _ => ρ) α → Prog Q (fun _ => ρ) β → Prop
  | .pure a, .pure b => same a b
  | .halt h, .halt h' => h = h'
  | .call q k, .call q' k' => q = q' ∧ ∀ r, A q r → Agree A same (k r) (k' r)
  | _, _ => False

section Agree

variable {ρ : Type} {A : Q → ρ → Prop}

@[simp] theorem agree_pure {γ δ : Type} {same : γ → δ → Prop} (a : γ) (b : δ) :
    Agree A same (Pure.pure a : Prog Q (fun _ => ρ) γ) (Pure.pure b) ↔ same a b := Iff.rfl

theorem agree_call {γ δ : Type} {same : γ → δ → Prop} (q : Q) (k : ρ → Prog Q (fun _ => ρ) γ)
    (k' : ρ → Prog Q (fun _ => ρ) δ) :
    Agree A same (.call q k) (.call q k') ↔ ∀ r, A q r → Agree A same (k r) (k' r) := by
  simp [Agree]

/-- The rule for sequencing. -/
theorem Agree.bind {γ δ : Type} {same : α → β → Prop} {same' : γ → δ → Prop}
    {p : Prog Q (fun _ => ρ) α} {p' : Prog Q (fun _ => ρ) β}
    {f : α → Prog Q (fun _ => ρ) γ} {f' : β → Prog Q (fun _ => ρ) δ}
    (agree : Agree A same p p') (next : ∀ a b, same a b → Agree A same' (f a) (f' b)) :
    Agree A same' (p >>= f) (p' >>= f') := by
  induction p generalizing p' with
  | pure a => cases p' with
    | pure b => exact next a b agree
    | _ => exact (agree : False).elim
  | call q k ih => cases p' with
    | call q' k' =>
        obtain ⟨rfl, tails⟩ := agree
        exact (agree_call q _ _).mpr fun r admitted => ih r (tails r admitted)
    | _ => exact (agree : False).elim
  | halt h => cases p' with
    | halt h' => exact agree
    | _ => exact (agree : False).elim

/-- Against a server whose every reply satisfies `A`, two agreeing programs log
the same exchanges. -/
theorem Agree.exec {same : α → β → Prop} {p : Prog Q (fun _ => ρ) α}
    {p' : Prog Q (fun _ => ρ) β} (agree : Agree A same p p')
    {server : List (Exchange Q fun _ => ρ) → Q → Answer ρ}
    (admitted : ∀ h q r, server h q = .reply r → A q r) (h : List (Exchange Q fun _ => ρ)) :
    (p.exec (oracle server) h).2 = (p'.exec (oracle server) h).2 := by
  induction p generalizing p' h with
  | pure a => cases p' with
    | pure b => rfl
    | _ => exact (agree : False).elim
  | halt e => cases p' with
    | halt e' => rfl
    | _ => exact (agree : False).elim
  | call q k ih => cases p' with
    | call q' k' =>
        obtain ⟨rfl, tails⟩ := agree
        simp only [exec_call, oracle]
        cases answer : server h q with
        | raised => rfl
        | reply r => exact ih r (tails r (admitted h q r answer)) _
    | _ => exact (agree : False).elim

end Agree

end Prog

/-- Each element of `h` satisfies `P` given the elements before it. -/
def Logged {E : Type} (P : List E → E → Prop) (h : List E) : Prop :=
  ∀ pre e, pre ++ [e] <+: h → P pre e

namespace Logged

variable {E : Type} {P : List E → E → Prop}

@[simp] theorem nil : Logged P [] := fun pre e prefixed => by
  simpa using prefixed.length_le

@[simp] theorem snoc (h : List E) (e : E) : Logged P (h ++ [e]) ↔ Logged P h ∧ P h e := by
  constructor
  · intro logged
    exact ⟨fun pre e' prefixed => logged pre e' (prefixed.trans (List.prefix_append _ _)),
      logged h e List.prefix_rfl⟩
  · rintro ⟨logged, last⟩ pre e' prefixed
    rcases List.prefix_concat_iff.mp prefixed with equal | earlier
    · obtain ⟨rfl, same⟩ := List.append_inj' equal rfl
      cases same
      exact last
    · exact logged pre e' earlier

theorem append (h h' : List E) :
    Logged P (h ++ h') ↔ Logged P h ∧ Logged (fun pre e => P (h ++ pre) e) h' := by
  induction h' using List.reverseRecOn with
  | nil => simp
  | append_singleton h' e ih =>
      rw [← List.append_assoc, snoc, snoc, ih, and_assoc]

end Logged

end Rill
