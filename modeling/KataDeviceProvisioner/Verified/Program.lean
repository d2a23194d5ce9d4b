/-!
# Effectful programs that may fail or be killed

A program issues operations to the machine it runs on and decides from the
answers what to do next.  Two things can go wrong that the program has no say
in: an operation can report a failure, possibly after doing part of its work,
and the whole process can be killed between two operations.

`Program` keeps the operations as data, so that one program has all of its
interrupted runs.  `Runs` is the big-step relation over an `Adversary` that
says which of the two mishaps may happen, and `exec` computes the run that a
list of verdicts selects; `exec_runs` connects them.

Everything here is generic in the operations, their answers, the errors and
the machine.  What composes the runs of a program out of the runs of its parts
is in `Verified/Runs.lean`.
-/

namespace KataDeviceProvisioner.Verified

/-- Why a run ended before its program returned. -/
inductive Stop (Err : Type) where
  | error (e : Err)
  | killed
  deriving Repr, DecidableEq

/-- How a run ended. -/
inductive Outcome (Err α : Type) where
  | done (a : α)
  | stopped (why : Stop Err)
  deriving Repr, DecidableEq

/-- What the program returned, if it did. -/
def Outcome.result {Err α : Type} : Outcome Err α → Option α
  | .done a => some a
  | .stopped _ => none

/-- A program that issues operations `op : Op`, each answered by a `Res op` or
by an error. -/
inductive Program (Op : Type) (Res : Op → Type) (Err : Type) (α : Type) : Type where
  | pure (a : α)
  | throw (e : Err)
  | call (op : Op) (next : Except Err (Res op) → Program Op Res Err α)

namespace Program

variable {Op : Type} {Res : Op → Type} {Err α β γ : Type}

def bind : Program Op Res Err α → (α → Program Op Res Err β) → Program Op Res Err β
  | .pure a, f => f a
  | .throw e, _ => .throw e
  | .call op next, f => .call op (fun r => (next r).bind f)

instance : Monad (Program Op Res Err) where
  pure := .pure
  bind := .bind

theorem bind_eq (p : Program Op Res Err α) (f : α → Program Op Res Err β) :
    p >>= f = p.bind f := rfl

private theorem bind_pure_right (p : Program Op Res Err α) : p.bind .pure = p := by
  induction p with
  | pure a => rfl
  | throw e => rfl
  | call op next ih => simp only [bind, ih]

private theorem bind_bind (p : Program Op Res Err α) (f : α → Program Op Res Err β)
    (g : β → Program Op Res Err γ) :
    (p.bind f).bind g = p.bind (fun a => (f a).bind g) := by
  induction p with
  | pure a => rfl
  | throw e => rfl
  | call op next ih => simp only [bind, ih]

instance : LawfulMonad (Program Op Res Err) :=
  LawfulMonad.mk' _ bind_pure_right (fun _ _ => rfl) bind_bind

/-! ## The combinators programs are written with -/

/-- Issue one operation and let its error end the program. -/
def perform (op : Op) : Program Op Res Err (Res op) :=
  .call op fun
    | .ok r => .pure r
    | .error e => .throw e

/-- Run a program and hand its error back as a value. -/
def attempt : Program Op Res Err α → Program Op Res Err (Except Err α)
  | .pure a => .pure (.ok a)
  | .throw e => .pure (.error e)
  | .call op next => .call op (fun r => (next r).attempt)

/-- Rewrite the error a program ends with. -/
def mapError (f : Err → Err) : Program Op Res Err α → Program Op Res Err α
  | .pure a => .pure a
  | .throw e => .throw (f e)
  | .call op next => .call op (fun r => (next r).mapError f)

/-- A pure fallible computation as a program that issues nothing. -/
def ofExcept : Except Err α → Program Op Res Err α
  | .ok a => .pure a
  | .error e => .throw e

/-- Run `body` on each element in order. -/
def forEach (body : β → Program Op Res Err Unit) : List β → Program Op Res Err Unit
  | [] => .pure ()
  | x :: xs => do
    body x
    forEach body xs

/-- Run `body` on each element in order and collect what it returns. -/
def gather (body : β → Program Op Res Err γ) : List β → Program Op Res Err (List γ)
  | [] => .pure []
  | x :: xs => do
    let y ← body x
    let ys ← gather body xs
    return y :: ys

/-- Two loops over nested lists are one loop over the flattened list. -/
theorem forEach_flatMap (items : β → List γ) (body : γ → Program Op Res Err Unit)
    (xs : List β) :
    forEach body (xs.flatMap items) = forEach (fun x => forEach body (items x)) xs := by
  have happend : ∀ ys zs : List γ,
      forEach body (ys ++ zs) = (do forEach body ys; forEach body zs) := by
    intro ys zs
    induction ys with
    | nil => rfl
    | cons y ys ih => simp only [List.cons_append, forEach, ih, bind_assoc]
  induction xs with
  | nil => rfl
  | cons x xs ih => simp only [List.flatMap_cons, happend, forEach, ih]

theorem forEach_map (g : γ → β) (body : β → Program Op Res Err Unit) (xs : List γ) :
    forEach body (xs.map g) = forEach (fun x => body (g x)) xs := by
  induction xs with
  | nil => rfl
  | cons x xs ih => simp only [List.map_cons, forEach, ih]

end Program

/-! ## Machines, mishaps and runs -/

/-- What operations do to the state of the world. -/
structure Machine (Op : Type) (Res : Op → Type) (Err Residue S : Type) where
  /-- The answer of an operation nothing interferes with, and what it leaves. -/
  answer : S → (op : Op) → Except Err (Res op) × S
  /-- The failures an operation can be made to report. -/
  fallible : Op → Err → Bool
  /-- What an operation that was made to fail leaves behind. -/
  residual : S → Op → Residue → S

/-- One operation as it happened, with the state it was issued in. -/
structure Event (Op S : Type) where
  op : Op
  ok : Bool
  before : S

/-- Which mishaps may happen in a run. -/
structure Adversary where
  mayFail : Prop
  mayKill : Prop

/-- Anything may fail and the process may be killed anywhere. -/
def Adversary.hostile : Adversary := ⟨True, True⟩

/-- Nothing interferes. -/
def Adversary.absent : Adversary := ⟨False, False⟩

section Semantics

variable {Op : Type} {Res : Op → Type} {Err Residue S α : Type}

/-- The answers one operation can get, with the state each leaves. -/
inductive Responds (M : Machine Op Res Err Residue S) (A : Adversary) (s : S) (op : Op) :
    Except Err (Res op) → S → Prop where
  | answered : Responds M A s op (M.answer s op).1 (M.answer s op).2
  | failed (e : Err) (residue : Residue) (hmay : A.mayFail) (hop : M.fallible op e = true) :
      Responds M A s op (.error e) (M.residual s op residue)

/-- `Runs M A p s out s' t`: started in `s`, the program `p` can end as `out`
in the state `s'` with the events `t`. -/
inductive Runs (M : Machine Op Res Err Residue S) (A : Adversary) :
    Program Op Res Err α → S → Outcome Err α → S → List (Event Op S) → Prop where
  | pure (a : α) (s : S) : Runs M A (.pure a) s (.done a) s []
  | throw (e : Err) (s : S) : Runs M A (.throw e) s (.stopped (.error e)) s []
  | killed (op : Op) (next : Except Err (Res op) → Program Op Res Err α) (s : S)
      (hmay : A.mayKill) : Runs M A (.call op next) s (.stopped .killed) s []
  | call {op : Op} {next : Except Err (Res op) → Program Op Res Err α} {s s₁ s' : S}
      {r : Except Err (Res op)} {out : Outcome Err α} {t : List (Event Op S)}
      (hresp : Responds M A s op r s₁) (hnext : Runs M A (next r) s₁ out s' t) :
      Runs M A (.call op next) s out s' (⟨op, r.isOk, s⟩ :: t)

/-! ## Computing a run -/

/-- What befalls the next operation. -/
inductive Verdict (Err Residue : Type) where
  | ok
  | fail (e : Err) (residue : Residue)
  | kill
  deriving Repr, DecidableEq

/-- A computed run, with the verdicts it did not use. -/
structure Run (Op Err Residue S α : Type) where
  outcome : Outcome Err α
  state : S
  events : List (Event Op S)
  rest : List (Verdict Err Residue)

/-- The answer a verdict selects; `none` when the process is killed. -/
def respond (M : Machine Op Res Err Residue S) (s : S) (op : Op) :
    Verdict Err Residue → Option (Except Err (Res op) × S)
  | .ok => some (M.answer s op)
  | .fail e residue =>
      if M.fallible op e then some (.error e, M.residual s op residue)
      else some (M.answer s op)
  | .kill => none

/-- The run of a program under a list of verdicts.  Past the end of the list
every operation goes through, so `[]` is the run nothing interferes with. -/
def exec (M : Machine Op Res Err Residue S) :
    Program Op Res Err α → List (Verdict Err Residue) → S → Run Op Err Residue S α
  | .pure a, σ, s => ⟨.done a, s, [], σ⟩
  | .throw e, σ, s => ⟨.stopped (.error e), s, [], σ⟩
  | .call op next, σ, s =>
      match respond M s op (σ.headD .ok) with
      | none => ⟨.stopped .killed, s, [], σ.tail⟩
      | some (r, s₁) =>
          let rest := exec M (next r) σ.tail s₁
          { rest with events := ⟨op, r.isOk, s⟩ :: rest.events }

/-- The run of a sequence is the run of its first part, and from where that
completed the run of its second. -/
theorem exec_bind {β : Type} (M : Machine Op Res Err Residue S) (p : Program Op Res Err α)
    (f : α → Program Op Res Err β) (σ : List (Verdict Err Residue)) (s : S) :
    exec M (p >>= f) σ s =
      match (exec M p σ s).outcome with
      | .done a =>
          { exec M (f a) (exec M p σ s).rest (exec M p σ s).state with
            events := (exec M p σ s).events ++
              (exec M (f a) (exec M p σ s).rest (exec M p σ s).state).events }
      | .stopped why =>
          ⟨.stopped why, (exec M p σ s).state, (exec M p σ s).events, (exec M p σ s).rest⟩ := by
  rw [Program.bind_eq]
  induction p generalizing σ s with
  | pure a => rfl
  | throw e => rfl
  | call op next ih =>
      simp only [Program.bind, exec]
      cases hresp : respond M s op (σ.headD .ok) with
      | none => rfl
      | some answer =>
          obtain ⟨r, s₁⟩ := answer
          simp only [ih]
          cases (exec M (next r) σ.tail s₁).outcome <;> rfl

section Sequence

variable {β : Type} {M : Machine Op Res Err Residue S} {p : Program Op Res Err α}
  (f : α → Program Op Res Err β) {σ : List (Verdict Err Residue)} {s : S}

theorem exec_bind_done {a : α} (h : (exec M p σ s).outcome = .done a) :
    exec M (p >>= f) σ s =
      { exec M (f a) (exec M p σ s).rest (exec M p σ s).state with
        events := (exec M p σ s).events ++
          (exec M (f a) (exec M p σ s).rest (exec M p σ s).state).events } := by
  rw [exec_bind, h]

theorem exec_bind_stopped {why : Stop Err} (h : (exec M p σ s).outcome = .stopped why) :
    exec M (p >>= f) σ s =
      ⟨.stopped why, (exec M p σ s).state, (exec M p σ s).events, (exec M p σ s).rest⟩ := by
  rw [exec_bind, h]

/-- The first part of a sequence runs first. -/
theorem exec_bind_first : (exec M p σ s).events <+: (exec M (p >>= f) σ s).events := by
  cases h : (exec M p σ s).outcome with
  | done a =>
      rw [exec_bind_done f h]
      exact List.prefix_append _ _
  | stopped why =>
      have hevents : (exec M (p >>= f) σ s).events = (exec M p σ s).events := by
        rw [exec_bind_stopped f h]
      exact hevents ▸ List.prefix_rfl

end Sequence

/-- A run nothing interferes with leaves no verdicts. -/
@[simp] theorem exec_nil_rest (M : Machine Op Res Err Residue S) (p : Program Op Res Err α)
    (s : S) : (exec M p [] s).rest = [] := by
  induction p generalizing s with
  | pure a => rfl
  | throw e => rfl
  | call op next ih => exact ih _ _

/-- Machines that answer alike what a program asks have it run alike. -/
theorem exec_congr {M M' : Machine Op Res Err Residue S} {p : Program Op Res Err α} {s : S}
    (h : ∀ e ∈ (exec M p [] s).events, M'.answer e.before e.op = M.answer e.before e.op) :
    exec M' p [] s = exec M p [] s := by
  induction p generalizing s with
  | pure a => rfl
  | throw e => rfl
  | call op next ih =>
      obtain ⟨hfirst, hrest⟩ := List.forall_mem_cons.mp h
      have hanswer : M'.answer s op = M.answer s op := hfirst
      simp only [exec, respond, List.headD_nil, List.tail_nil, hanswer]
      rw [ih _ hrest]

/-- The mishaps a verdict needs. -/
def Adversary.Allows (A : Adversary) : Verdict Err Residue → Prop
  | .ok => True
  | .fail _ _ => A.mayFail
  | .kill => A.mayKill

theorem respond_none {M : Machine Op Res Err Residue S} {s : S} {op : Op}
    {v : Verdict Err Residue} (h : respond M s op v = none) : v = .kill := by
  cases v with
  | ok => simp [respond] at h
  | fail e residue =>
      simp only [respond] at h
      split at h <;> simp at h
  | kill => rfl

theorem respond_some {M : Machine Op Res Err Residue S} {A : Adversary} {s : S} {op : Op}
    {v : Verdict Err Residue} {r : Except Err (Res op)} {s₁ : S} (hv : A.Allows v)
    (h : respond M s op v = some (r, s₁)) : Responds M A s op r s₁ := by
  have hanswer : M.answer s op = (r, s₁) → Responds M A s op r s₁ := by
    intro heq
    have hr : Responds M A s op (M.answer s op).1 (M.answer s op).2 := .answered
    rwa [heq] at hr
  cases v with
  | ok => exact hanswer (Option.some.inj h)
  | fail e residue =>
      simp only [respond] at h
      split at h
      case isTrue hop =>
          obtain ⟨rfl, rfl⟩ := Prod.mk.inj (Option.some.inj h)
          exact .failed e residue hv hop
      case isFalse => exact hanswer (Option.some.inj h)
  | kill => simp [respond] at h

/-- Every computed run is a run. -/
theorem exec_runs (M : Machine Op Res Err Residue S) (A : Adversary)
    (p : Program Op Res Err α) : ∀ (σ : List (Verdict Err Residue)) (s : S),
      (∀ v ∈ σ, A.Allows v) →
      Runs M A p s (exec M p σ s).outcome (exec M p σ s).state (exec M p σ s).events := by
  induction p with
  | pure a => intro σ s _; exact .pure a s
  | throw e => intro σ s _; exact .throw e s
  | call op next ih =>
      intro σ s hσ
      have hhead : A.Allows (σ.headD .ok) := by
        cases σ with
        | nil => trivial
        | cons v σ => exact hσ v (by simp)
      have htail : ∀ v ∈ σ.tail, A.Allows v :=
        fun v hv => hσ v (List.mem_of_mem_tail hv)
      cases hresp : respond M s op (σ.headD .ok) with
      | none =>
          rw [respond_none hresp] at hhead
          simpa only [exec, hresp] using Runs.killed op next s hhead
      | some answer =>
          obtain ⟨r, s₁⟩ := answer
          simpa only [exec, hresp] using
            Runs.call (respond_some hhead hresp) (ih r σ.tail s₁ htail)

/-- Under the hostile adversary every list of verdicts is a run. -/
theorem exec_runs_hostile (M : Machine Op Res Err Residue S) (p : Program Op Res Err α)
    (σ : List (Verdict Err Residue)) (s : S) :
    Runs M .hostile p s (exec M p σ s).outcome (exec M p σ s).state (exec M p σ s).events :=
  exec_runs M .hostile p σ s fun v _ => by cases v <;> trivial

/-- A computed run that completed is a completed run. -/
theorem exec_runs_done {M : Machine Op Res Err Residue S} {p : Program Op Res Err α}
    {σ : List (Verdict Err Residue)} {s : S} {a : α} (h : (exec M p σ s).outcome = .done a) :
    Runs M .hostile p s (.done a) (exec M p σ s).state (exec M p σ s).events := by
  rw [← h]
  exact exec_runs_hostile M p σ s

/-- The empty list of verdicts is the run nothing interferes with. -/
theorem exec_runs_absent (M : Machine Op Res Err Residue S) (p : Program Op Res Err α)
    (s : S) :
    Runs M .absent p s (exec M p [] s).outcome (exec M p [] s).state (exec M p [] s).events :=
  exec_runs M .absent p [] s fun v hv => by simp at hv

end Semantics

end KataDeviceProvisioner.Verified
