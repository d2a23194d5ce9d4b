import KataDeviceProvisioner.Verified.Program
import Mathlib.Data.List.Forall2

/-!
# Runs of composed programs

A run of a composed program is a run of its first part, possibly followed by
one of its second.  `runs_bind_iff` says so for sequencing, and the lemmas
after it for the other combinators.  On top of these stand three ways to say
what a run can do:

* `Uses` bounds the operations a program can issue whatever the answers are,
  which gives the events of its runs (`Runs.events_of_uses`) and the
  properties of the state they keep (`Runs.invariant`), and `Returns` bounds
  what it can return;
* `runs_gather_done` and `runs_forEach_done` say what a loop that completed
  has established for each element;
* `Scripted` describes a loop that issues a fixed list of operations and stops
  at the first one that fails.
-/

namespace KataDeviceProvisioner.Verified

variable {Op : Type} {Res : Op → Type} {Err Residue S α β γ : Type}

/-- The same ending, with its error rewritten. -/
def Outcome.mapError (f : Err → Err) : Outcome Err α → Outcome Err α
  | .stopped (.error e) => .stopped (.error (f e))
  | out => out

/-- The same ending, with another value. -/
def Outcome.map (f : α → β) : Outcome Err α → Outcome Err β
  | .done a => .done (f a)
  | .stopped why => .stopped why

/-- The same ending, with an error handed back as a value. -/
def Outcome.attempted : Outcome Err α → Outcome Err (Except Err α)
  | .done a => .done (.ok a)
  | .stopped (.error e) => .done (.error e)
  | .stopped .killed => .stopped .killed

/-- The ending an answer makes for a program that lets its error end it. -/
def Outcome.ofExcept : Except Err α → Outcome Err α
  | .ok a => .done a
  | .error e => .stopped (.error e)

/-- The same ending, without the value. -/
def Outcome.forget (out : Outcome Err α) : Outcome Err Unit := out.map fun _ => ()

theorem Outcome.forget_unit (out : Outcome Err Unit) : out.forget = out := by
  cases out <;> rfl

section Composition

variable {M : Machine Op Res Err Residue S} {A : Adversary}

theorem runs_pure_iff {a : α} {s s' : S} {out : Outcome Err α} {t : List (Event Op S)} :
    Runs M A (.pure a) s out s' t ↔ out = .done a ∧ s' = s ∧ t = [] := by
  constructor
  · rintro ⟨⟩
    exact ⟨rfl, rfl, rfl⟩
  · rintro ⟨rfl, rfl, rfl⟩
    exact .pure _ _

theorem runs_throw_iff {e : Err} {s s' : S} {out : Outcome Err α} {t : List (Event Op S)} :
    Runs M A (.throw e) s out s' t ↔ out = .stopped (.error e) ∧ s' = s ∧ t = [] := by
  constructor
  · rintro ⟨⟩
    exact ⟨rfl, rfl, rfl⟩
  · rintro ⟨rfl, rfl, rfl⟩
    exact .throw _ _

theorem runs_call_iff {op : Op} {next : Except Err (Res op) → Program Op Res Err α} {s s' : S}
    {out : Outcome Err α} {t : List (Event Op S)} :
    Runs M A (.call op next) s out s' t ↔
      (A.mayKill ∧ out = .stopped .killed ∧ s' = s ∧ t = []) ∨
      ∃ r s₁ t₁, Responds M A s op r s₁ ∧ Runs M A (next r) s₁ out s' t₁ ∧
        t = ⟨op, r.isOk, s⟩ :: t₁ := by
  constructor
  · intro h
    cases h with
    | killed _ _ _ hmay => exact .inl ⟨hmay, rfl, rfl, rfl⟩
    | call hresp hnext => exact .inr ⟨_, _, _, hresp, hnext, rfl⟩
  · rintro (⟨hmay, rfl, rfl, rfl⟩ | ⟨r, s₁, t₁, hresp, hnext, rfl⟩)
    · exact .killed _ _ _ hmay
    · exact .call hresp hnext

/-- A run of a sequence ends inside its first part, or completes it and goes
on with the second. -/
theorem runs_bind_iff {p : Program Op Res Err α} {f : α → Program Op Res Err β} {s s' : S}
    {out : Outcome Err β} {t : List (Event Op S)} :
    Runs M A (p >>= f) s out s' t ↔
      (∃ a s₁ t₁ t₂, Runs M A p s (.done a) s₁ t₁ ∧ Runs M A (f a) s₁ out s' t₂ ∧
        t = t₁ ++ t₂) ∨
      ∃ why, out = .stopped why ∧ Runs M A p s (.stopped why) s' t := by
  rw [Program.bind_eq]
  induction p generalizing s t with
  | pure a =>
      simp only [Program.bind, runs_pure_iff]
      constructor
      · intro h
        exact .inl ⟨a, s, [], t, ⟨rfl, rfl, rfl⟩, h, rfl⟩
      · rintro (⟨_, _, _, _, ⟨heq, rfl, rfl⟩, h, rfl⟩ | ⟨_, _, h, _⟩)
        · obtain rfl := Outcome.done.inj heq
          exact h
        · cases h
  | throw e =>
      simp only [Program.bind, runs_throw_iff]
      constructor
      · rintro ⟨rfl, rfl, rfl⟩
        exact .inr ⟨_, rfl, rfl, rfl, rfl⟩
      · rintro (⟨_, _, _, _, ⟨h, _⟩, _⟩ | ⟨why, rfl, heq, rfl, rfl⟩)
        · cases h
        · obtain rfl := Outcome.stopped.inj heq
          exact ⟨rfl, rfl, rfl⟩
  | call op next ih =>
      simp only [Program.bind, runs_call_iff, ih]
      constructor
      · rintro (⟨hmay, rfl, rfl, rfl⟩ | ⟨r, s₁, t₁, hresp, hrest, rfl⟩)
        · exact .inr ⟨_, rfl, .inl ⟨hmay, rfl, rfl, rfl⟩⟩
        · obtain ⟨a, s₂, t₂, t₃, hp, hf, rfl⟩ | ⟨why, rfl, hp⟩ := hrest
          · exact .inl ⟨a, s₂, _, t₃, .inr ⟨r, s₁, t₂, hresp, hp, rfl⟩, hf, rfl⟩
          · exact .inr ⟨why, rfl, .inr ⟨r, s₁, t₁, hresp, hp, rfl⟩⟩
      · rintro (⟨a, s₁, t₁, t₂, hp, hf, rfl⟩ | ⟨why, rfl, hp⟩)
        · obtain ⟨_, h, _⟩ | ⟨r, s₂, t₃, hresp, hp, rfl⟩ := hp
          · cases h
          · exact .inr ⟨r, s₂, _, hresp, .inl ⟨a, s₁, t₃, t₂, hp, hf, rfl⟩, rfl⟩
        · obtain ⟨hmay, h, rfl, rfl⟩ | ⟨r, s₁, t₁, hresp, hp, rfl⟩ := hp
          · obtain rfl := Outcome.stopped.inj h
            exact .inl ⟨hmay, rfl, rfl, rfl⟩
          · exact .inr ⟨r, s₁, t₁, hresp, .inr ⟨why, rfl, hp⟩, rfl⟩

/-- A sequence that completed completed both of its parts. -/
theorem runs_bind_done {p : Program Op Res Err α} {f : α → Program Op Res Err β} {s s' : S}
    {b : β} {t : List (Event Op S)} :
    Runs M A (p >>= f) s (.done b) s' t ↔
      ∃ a s₁ t₁ t₂, Runs M A p s (.done a) s₁ t₁ ∧ Runs M A (f a) s₁ (.done b) s' t₂ ∧
        t = t₁ ++ t₂ := by
  rw [runs_bind_iff]
  constructor
  · rintro (h | ⟨_, h, _⟩)
    · exact h
    · cases h
  · exact .inl

theorem runs_perform_iff {op : Op} {s s' : S} {out : Outcome Err (Res op)}
    {t : List (Event Op S)} :
    Runs M A (Program.perform op) s out s' t ↔
      (A.mayKill ∧ out = .stopped .killed ∧ s' = s ∧ t = []) ∨
      (∃ a, Responds M A s op (.ok a) s' ∧ out = .done a ∧ t = [⟨op, true, s⟩]) ∨
      ∃ e, Responds M A s op (.error e) s' ∧ out = .stopped (.error e) ∧
        t = [⟨op, false, s⟩] := by
  rw [Program.perform, runs_call_iff]
  refine or_congr Iff.rfl ?_
  constructor
  · rintro ⟨r, s₁, t₁, hresp, hrest, rfl⟩
    cases r with
    | ok a =>
        obtain ⟨rfl, rfl, rfl⟩ := runs_pure_iff.mp hrest
        exact .inl ⟨a, hresp, rfl, rfl⟩
    | error e =>
        obtain ⟨rfl, rfl, rfl⟩ := runs_throw_iff.mp hrest
        exact .inr ⟨e, hresp, rfl, rfl⟩
  · rintro (⟨a, hresp, rfl, rfl⟩ | ⟨e, hresp, rfl, rfl⟩)
    · exact ⟨.ok a, s', [], hresp, .pure _ _, rfl⟩
    · exact ⟨.error e, s', [], hresp, .throw _ _, rfl⟩

/-- An operation that answered is an operation the machine answered. -/
theorem Responds.ok {s s' : S} {op : Op} {a : Res op}
    (h : Responds M A s op (.ok a) s') : M.answer s op = (.ok a, s') := by
  generalize hr : (Except.ok a : Except Err (Res op)) = r at h
  cases h with
  | answered => rfl
  | failed => cases hr

/-- A reported failure is the machine's own or one the adversary caused. -/
theorem Responds.error {s s' : S} {op : Op} {e : Err}
    (h : Responds M A s op (.error e) s') :
    M.answer s op = (.error e, s') ∨
      A.mayFail ∧ M.fallible op e = true ∧ ∃ residue, s' = M.residual s op residue := by
  generalize hr : (Except.error e : Except Err (Res op)) = r at h
  cases h with
  | answered => exact .inl rfl
  | failed e' residue hmay hop =>
      obtain rfl := Except.error.inj hr
      exact .inr ⟨hmay, hop, residue, rfl⟩

/-- The answer an operation gets when nothing interferes is the machine's own. -/
theorem responds_absent {s s₁ : S} {op : Op} {r : Except Err (Res op)}
    (h : Responds M .absent s op r s₁) : r = (M.answer s op).1 ∧ s₁ = (M.answer s op).2 := by
  cases h with
  | answered => exact ⟨rfl, rfl⟩
  | failed _ _ hmay => exact hmay.elim

theorem runs_perform_done {op : Op} {s s' : S} {a : Res op} {t : List (Event Op S)} :
    Runs M A (Program.perform op) s (.done a) s' t ↔
      M.answer s op = (.ok a, s') ∧ t = [⟨op, true, s⟩] := by
  rw [runs_perform_iff]
  constructor
  · rintro (⟨_, h, _⟩ | ⟨b, hresp, h, rfl⟩ | ⟨_, _, h, _⟩)
    · cases h
    · obtain rfl := Outcome.done.inj h
      exact ⟨hresp.ok, rfl⟩
    · cases h
  · rintro ⟨hanswer, rfl⟩
    have hresp : Responds M A s op (M.answer s op).1 (M.answer s op).2 := .answered
    rw [hanswer] at hresp
    exact .inr (.inl ⟨a, hresp, rfl, rfl⟩)

/-- With nothing interfering an operation ends the way the machine answers it. -/
theorem runs_perform_absent {op : Op} {s s' : S} {out : Outcome Err (Res op)}
    {t : List (Event Op S)} (h : Runs M .absent (Program.perform op) s out s' t) :
    out = .ofExcept (M.answer s op).1 ∧ s' = (M.answer s op).2 := by
  obtain ⟨hkill, _⟩ | ⟨a, hresp, rfl, _⟩ | ⟨e, hresp, rfl, _⟩ := runs_perform_iff.mp h
  · exact hkill.elim
  · obtain ⟨hok, hs⟩ := responds_absent hresp
    rw [← hok]
    exact ⟨rfl, hs⟩
  · obtain ⟨herror, hs⟩ := responds_absent hresp
    rw [← herror]
    exact ⟨rfl, hs⟩

/-- Programs that go on with the same runs but for their endings have the same
runs but for their endings. -/
theorem runs_call_map {f : Outcome Err α → Outcome Err β} {op : Op}
    {next : Except Err (Res op) → Program Op Res Err α}
    {next' : Except Err (Res op) → Program Op Res Err β} {s s' : S} {out : Outcome Err β}
    {t : List (Event Op S)} (hkilled : f (.stopped .killed) = .stopped .killed)
    (h : ∀ r {s : S} {t : List (Event Op S)}, Runs M A (next' r) s out s' t ↔
      ∃ out₀, Runs M A (next r) s out₀ s' t ∧ out = f out₀) :
    Runs M A (.call op next') s out s' t ↔
      ∃ out₀, Runs M A (.call op next) s out₀ s' t ∧ out = f out₀ := by
  simp only [runs_call_iff, h]
  constructor
  · rintro (⟨hmay, rfl, rfl, rfl⟩ | ⟨r, s₁, t₁, hresp, ⟨out₀, hrest, rfl⟩, rfl⟩)
    · exact ⟨.stopped .killed, .inl ⟨hmay, rfl, rfl, rfl⟩, hkilled.symm⟩
    · exact ⟨out₀, .inr ⟨r, s₁, t₁, hresp, hrest, rfl⟩, rfl⟩
  · rintro ⟨out₀, ⟨hmay, rfl, rfl, rfl⟩ | ⟨r, s₁, t₁, hresp, hrest, rfl⟩, rfl⟩
    · exact .inl ⟨hmay, hkilled, rfl, rfl⟩
    · exact .inr ⟨r, s₁, t₁, hresp, ⟨out₀, hrest, rfl⟩, rfl⟩

theorem runs_mapError_iff {f : Err → Err} {p : Program Op Res Err α} {s s' : S}
    {out : Outcome Err α} {t : List (Event Op S)} :
    Runs M A (p.mapError f) s out s' t ↔
      ∃ out₀, Runs M A p s out₀ s' t ∧ out = out₀.mapError f := by
  induction p generalizing s t with
  | pure a =>
      simp only [Program.mapError, runs_pure_iff]
      constructor
      · rintro ⟨rfl, rfl, rfl⟩
        exact ⟨_, ⟨rfl, rfl, rfl⟩, rfl⟩
      · rintro ⟨_, ⟨rfl, rfl, rfl⟩, rfl⟩
        exact ⟨rfl, rfl, rfl⟩
  | throw e =>
      simp only [Program.mapError, runs_throw_iff]
      constructor
      · rintro ⟨rfl, rfl, rfl⟩
        exact ⟨_, ⟨rfl, rfl, rfl⟩, rfl⟩
      · rintro ⟨_, ⟨rfl, rfl, rfl⟩, rfl⟩
        exact ⟨rfl, rfl, rfl⟩
  | call op next ih => exact runs_call_map rfl fun _ => ih _

@[simp] theorem Outcome.mapError_eq_done {f : Err → Err} {out : Outcome Err α} {a : α} :
    .done a = out.mapError f ↔ out = .done a := by
  cases out with
  | done b => simp [mapError, eq_comm]
  | stopped why => cases why <;> simp [mapError]

theorem runs_mapError_done {f : Err → Err} {p : Program Op Res Err α} {s s' : S} {a : α}
    {t : List (Event Op S)} :
    Runs M A (p.mapError f) s (.done a) s' t ↔ Runs M A p s (.done a) s' t := by
  simp only [runs_mapError_iff, Outcome.mapError_eq_done]
  exact ⟨fun ⟨_, h, heq⟩ => heq ▸ h, fun h => ⟨_, h, rfl⟩⟩

theorem runs_attempt_iff {p : Program Op Res Err α} {s s' : S}
    {out : Outcome Err (Except Err α)} {t : List (Event Op S)} :
    Runs M A p.attempt s out s' t ↔
      ∃ out₀, Runs M A p s out₀ s' t ∧ out = out₀.attempted := by
  induction p generalizing s t with
  | pure a =>
      simp only [Program.attempt, runs_pure_iff]
      constructor
      · rintro ⟨rfl, rfl, rfl⟩
        exact ⟨_, ⟨rfl, rfl, rfl⟩, rfl⟩
      · rintro ⟨_, ⟨rfl, rfl, rfl⟩, rfl⟩
        exact ⟨rfl, rfl, rfl⟩
  | throw e =>
      simp only [Program.attempt, runs_pure_iff, runs_throw_iff]
      constructor
      · rintro ⟨rfl, rfl, rfl⟩
        exact ⟨_, ⟨rfl, rfl, rfl⟩, rfl⟩
      · rintro ⟨_, ⟨rfl, rfl, rfl⟩, rfl⟩
        exact ⟨rfl, rfl, rfl⟩
  | call op next ih => exact runs_call_map rfl fun _ => ih _

/-- Past a guard whose other branch gives up, the guard did not hold. -/
theorem runs_guard_done {c : Prop} [Decidable c] {e : Err} {p : Program Op Res Err α} {s s' : S}
    {a : α} {t : List (Event Op S)} :
    Runs M A (if c then .throw e else p) s (.done a) s' t ↔ ¬c ∧ Runs M A p s (.done a) s' t := by
  by_cases hc : c
  · rw [if_pos hc]
    exact ⟨fun h => (by cases h), fun h => absurd hc h.1⟩
  · rw [if_neg hc, and_iff_right hc]

theorem runs_ofExcept_done {x : Except Err α} {s s' : S} {a : α} {t : List (Event Op S)} :
    Runs M A (Program.ofExcept x) s (.done a) s' t ↔ x = .ok a ∧ s' = s ∧ t = [] := by
  cases x with
  | ok b => simp [Program.ofExcept, runs_pure_iff, eq_comm]
  | error e => simp [Program.ofExcept, runs_throw_iff]

end Composition

/-! ## What a program can issue -/

/-- Whatever the answers are, every operation the program issues satisfies `P`. -/
def Program.Uses (P : Op → Prop) : Program Op Res Err α → Prop
  | .pure _ => True
  | .throw _ => True
  | .call op next => P op ∧ ∀ r, (next r).Uses P

section Footprint

variable {P Q : Op → Prop}

theorem uses_perform {op : Op} (h : P op) :
    (Program.perform op : Program Op Res Err (Res op)).Uses P :=
  ⟨h, fun r => by cases r <;> trivial⟩

theorem uses_bind {p : Program Op Res Err α} {f : α → Program Op Res Err β}
    (hp : p.Uses P) (hf : ∀ a, (f a).Uses P) : (p >>= f).Uses P := by
  rw [Program.bind_eq]
  induction p with
  | pure a => exact hf a
  | throw e => trivial
  | call op next ih => exact ⟨hp.1, fun r => ih r (hp.2 r)⟩

theorem uses_mapError {f : Err → Err} {p : Program Op Res Err α} (hp : p.Uses P) :
    (p.mapError f).Uses P := by
  induction p with
  | pure a => trivial
  | throw e => trivial
  | call op next ih => exact ⟨hp.1, fun r => ih r (hp.2 r)⟩

theorem uses_attempt {p : Program Op Res Err α} (hp : p.Uses P) : p.attempt.Uses P := by
  induction p with
  | pure a => trivial
  | throw e => trivial
  | call op next ih => exact ⟨hp.1, fun r => ih r (hp.2 r)⟩

theorem uses_ofExcept (x : Except Err α) :
    (Program.ofExcept x : Program Op Res Err α).Uses P := by
  cases x <;> trivial

theorem uses_forEach {body : β → Program Op Res Err Unit} {xs : List β}
    (h : ∀ x ∈ xs, (body x).Uses P) : (Program.forEach body xs).Uses P := by
  induction xs with
  | nil => trivial
  | cons x xs ih =>
      exact uses_bind (h x (by simp)) fun _ => ih fun y hy => h y (by simp [hy])

theorem uses_gather {body : β → Program Op Res Err γ} {xs : List β}
    (h : ∀ x ∈ xs, (body x).Uses P) : (Program.gather body xs).Uses P := by
  induction xs with
  | nil => trivial
  | cons x xs ih =>
      exact uses_bind (h x (by simp)) fun _ =>
        uses_bind (ih fun y hy => h y (by simp [hy])) fun _ => trivial

theorem Program.Uses.mono {p : Program Op Res Err α} (hp : p.Uses P)
    (h : ∀ op, P op → Q op) : p.Uses Q := by
  induction p with
  | pure a => trivial
  | throw e => trivial
  | call op next ih => exact ⟨h op hp.1, fun r => ih r (hp.2 r)⟩

/-- Whatever the answers are, what the program returns satisfies `R`. -/
def Program.Returns (R : α → Prop) : Program Op Res Err α → Prop
  | .pure a => R a
  | .throw _ => True
  | .call _ next => ∀ r, (next r).Returns R

theorem returns_true (p : Program Op Res Err α) : p.Returns fun _ => True := by
  induction p with
  | pure a => trivial
  | throw e => trivial
  | call op next ih => exact fun r => ih r

theorem Program.Returns.mono {R R' : α → Prop} {p : Program Op Res Err α} (hp : p.Returns R)
    (h : ∀ a, R a → R' a) : p.Returns R' := by
  induction p with
  | pure a => exact h a hp
  | throw e => trivial
  | call op next ih => exact fun r => ih r (hp r)

theorem returns_ofExcept (x : Except Err α) :
    (Program.ofExcept x : Program Op Res Err α).Returns fun a => x = .ok a := by
  cases x <;> trivial

/-- What the first part returns decides what the second can. -/
theorem returns_bind {R : α → Prop} {R' : β → Prop} {p : Program Op Res Err α}
    {f : α → Program Op Res Err β} (hp : p.Returns R) (hf : ∀ a, R a → (f a).Returns R') :
    (p >>= f).Returns R' := by
  rw [Program.bind_eq]
  induction p with
  | pure a => exact hf a hp
  | throw e => trivial
  | call op next ih => exact fun r => ih r (hp r)

theorem returns_mapError {R : α → Prop} {f : Err → Err} {p : Program Op Res Err α}
    (hp : p.Returns R) : (p.mapError f).Returns R := by
  induction p with
  | pure a => exact hp
  | throw e => trivial
  | call op next ih => exact fun r => ih r (hp r)

theorem returns_gather {R : β → γ → Prop} {body : β → Program Op Res Err γ} {xs : List β}
    (h : ∀ x ∈ xs, (body x).Returns (R x)) :
    (Program.gather body xs).Returns (List.Forall₂ R xs) := by
  induction xs with
  | nil => exact .nil
  | cons x xs ih =>
      refine returns_bind (h x List.mem_cons_self) fun y hy => ?_
      refine returns_bind (ih fun z hz => h z (List.mem_cons_of_mem x hz)) fun ys hys => ?_
      exact .cons hy hys

/-- And what the second can issue. -/
theorem uses_bind_returns {R : α → Prop} {p : Program Op Res Err α}
    {f : α → Program Op Res Err β} (hp : p.Uses P) (hr : p.Returns R)
    (hf : ∀ a, R a → (f a).Uses P) : (p >>= f).Uses P := by
  rw [Program.bind_eq]
  induction p with
  | pure a => exact hf a hr
  | throw e => trivial
  | call op next ih => exact ⟨hp.1, fun r => ih r (hp.2 r) (hr r)⟩

variable {M : Machine Op Res Err Residue S} {A : Adversary} {p : Program Op Res Err α}
  {s s' : S} {out : Outcome Err α} {t : List (Event Op S)}

/-- A run that returned, returned what its program can. -/
theorem Runs.returned {R : α → Prop} {a : α} (h : Runs M A p s (.done a) s' t)
    (hp : p.Returns R) : R a := by
  generalize hout : Outcome.done a = out at h
  induction h with
  | pure b s => exact Outcome.done.inj hout ▸ hp
  | throw | killed => cases hout
  | call _ _ ih => exact ih (hp _) hout

/-- The events of a run are operations the program can issue. -/
theorem Runs.events_of_uses (h : Runs M A p s out s' t) (hp : p.Uses P) :
    ∀ e ∈ t, P e.op := by
  induction h with
  | pure | throw | killed => simp
  | call hresp hnext ih =>
      intro e he
      obtain rfl | he := List.mem_cons.mp he
      · exact hp.1
      · exact ih (hp.2 _) e he

/-- A property the issued operations keep holds throughout the run. -/
theorem Runs.keeps {I : S → Prop} (h : Runs M A p s out s' t)
    (hstep : ∀ e ∈ t, ∀ s r s', I s → Responds M A s e.op r s' → I s') (hs : I s) :
    I s' ∧ ∀ e ∈ t, I e.before := by
  induction h with
  | pure | throw | killed => exact ⟨hs, by simp⟩
  | @call op next s s₁ s' r out t hresp hnext ih =>
      have hs₁ : I s₁ := hstep ⟨op, r.isOk, s⟩ List.mem_cons_self _ _ _ hs hresp
      obtain ⟨hs', hbefore⟩ := ih (fun e he => hstep e (List.mem_cons_of_mem _ he)) hs₁
      refine ⟨hs', fun e he => ?_⟩
      obtain rfl | he := List.mem_cons.mp he
      · exact hs
      · exact hbefore e he

/-- A property every operation the program can issue keeps holds throughout the
run. -/
theorem Runs.invariant {I : S → Prop} (h : Runs M A p s out s' t) (hp : p.Uses P)
    (hstep : ∀ op s r s', P op → I s → Responds M A s op r s' → I s') (hs : I s) :
    I s' ∧ ∀ e ∈ t, I e.before :=
  h.keeps (fun e he s r s' => hstep e.op s r s' (h.events_of_uses hp e he)) hs

end Footprint

/-! ## From one machine to another -/

/-- A run whose operations another machine can answer alike is a run of that. -/
theorem Runs.transfer {M M' : Machine Op Res Err Residue S} {A A' : Adversary}
    {p : Program Op Res Err α} {s s' : S} {out : Outcome Err α} {t : List (Event Op S)}
    (h : Runs M A p s out s' t) (hkill : A.mayKill → A'.mayKill)
    (hstep : ∀ e ∈ t, ∀ r s₁, Responds M A e.before e.op r s₁ →
      Responds M' A' e.before e.op r s₁) : Runs M' A' p s out s' t := by
  induction h with
  | pure a s => exact .pure a s
  | throw e s => exact .throw e s
  | killed op next s hmay => exact .killed op next s (hkill hmay)
  | call hresp _ ih =>
      obtain ⟨hfirst, hrest⟩ := List.forall_mem_cons.mp hstep
      exact .call (hfirst _ _ hresp) (ih hrest)

/-! ### Machines that leave less behind -/

/-- A machine that answers like another, and whose failures leave only what the
other's can leave. -/
structure Machine.Within (M M' : Machine Op Res Err Residue S) : Prop where
  answer : M.answer = M'.answer
  fallible : ∀ op e, M.fallible op e = true → M'.fallible op e = true
  residual : ∀ s op residue, ∃ residue', M.residual s op residue = M'.residual s op residue'

section Within

variable {M M' : Machine Op Res Err Residue S} {A : Adversary} (hM : M.Within M')

include hM

theorem Responds.weaken {s s₁ : S} {op : Op} {r : Except Err (Res op)}
    (h : Responds M A s op r s₁) : Responds M' A s op r s₁ := by
  cases h with
  | answered =>
      rw [hM.answer]
      exact .answered
  | failed e residue hmay hop =>
      obtain ⟨residue', heq⟩ := hM.residual s op residue
      rw [heq]
      exact .failed e residue' hmay (hM.fallible op e hop)

/-- Its runs are runs of the other. -/
theorem Runs.weaken {p : Program Op Res Err α} {s s' : S} {out : Outcome Err α}
    {t : List (Event Op S)} (h : Runs M A p s out s' t) : Runs M' A p s out s' t :=
  h.transfer id fun _ _ _ _ hresp => hresp.weaken hM

end Within

/-! ## Loops that completed -/

section Loops

variable {M : Machine Op Res Err Residue S} {A : Adversary}

theorem runs_forEach_done {body : β → Program Op Res Err Unit} {I : S → Prop} {Q : β → Prop}
    {xs : List β} {s s' : S} {t : List (Event Op S)}
    (hbody : ∀ x ∈ xs, ∀ s s' t, I s → Runs M A (body x) s (.done ()) s' t → I s' ∧ Q x)
    (hs : I s) (h : Runs M A (Program.forEach body xs) s (.done ()) s' t) :
    I s' ∧ ∀ x ∈ xs, Q x := by
  induction xs generalizing s t with
  | nil =>
      obtain ⟨_, rfl, _⟩ := runs_pure_iff.mp h
      exact ⟨hs, by simp⟩
  | cons x xs ih =>
      obtain ⟨_, s₁, t₁, t₂, hx, hxs, rfl⟩ := runs_bind_done.mp h
      obtain ⟨hs₁, hQ⟩ := hbody x (by simp) s s₁ t₁ hs hx
      obtain ⟨hs', hQs⟩ := ih (fun y hy => hbody y (by simp [hy])) hs₁ hxs
      exact ⟨hs', by simpa using ⟨hQ, hQs⟩⟩

theorem runs_gather_done {body : β → Program Op Res Err γ} {I : S → Prop}
    {Q : β → γ → Prop} {xs : List β} {ys : List γ} {s s' : S} {t : List (Event Op S)}
    (hbody : ∀ x ∈ xs, ∀ s y s' t, I s → Runs M A (body x) s (.done y) s' t →
      I s' ∧ Q x y)
    (hs : I s) (h : Runs M A (Program.gather body xs) s (.done ys) s' t) :
    I s' ∧ List.Forall₂ Q xs ys := by
  induction xs generalizing s ys t with
  | nil =>
      obtain ⟨hys, rfl, _⟩ := runs_pure_iff.mp h
      obtain rfl := Outcome.done.inj hys
      exact ⟨hs, .nil⟩
  | cons x xs ih =>
      obtain ⟨y, s₁, t₁, t₂, hx, hrest, rfl⟩ := runs_bind_done.mp h
      obtain ⟨ys₁, s₂, t₃, t₄, hxs, hret, rfl⟩ := runs_bind_done.mp hrest
      obtain ⟨hys, rfl, _⟩ := runs_pure_iff.mp hret
      obtain rfl := Outcome.done.inj hys
      obtain ⟨hs₁, hQ⟩ := hbody x (by simp) s y s₁ t₁ hs hx
      obtain ⟨hs', hQs⟩ := ih (fun y hy => hbody y (by simp [hy])) hs₁ hxs
      exact ⟨hs', .cons hQ hQs⟩

/-- A loop that stopped did so at one of the elements, with those before it gone
through. -/
theorem runs_forEach_stopped {body : β → Program Op Res Err Unit} {xs : List β} {s s' : S}
    {why : Stop Err} {t : List (Event Op S)}
    (h : Runs M A (Program.forEach body xs) s (.stopped why) s' t) :
    ∃ before x after s₁ t₁ t₂, xs = before ++ x :: after ∧
      Runs M A (Program.forEach body before) s (.done ()) s₁ t₁ ∧
      Runs M A (body x) s₁ (.stopped why) s' t₂ ∧ t = t₁ ++ t₂ := by
  induction xs generalizing s t with
  | nil => cases (runs_pure_iff.mp h).1
  | cons x xs ih =>
      obtain ⟨_, s₁, t₁, t₂, hx, hxs, rfl⟩ | ⟨_, hwhy, hx⟩ := runs_bind_iff.mp h
      · obtain ⟨before, y, after, s₂, t₃, t₄, rfl, hbefore, hy, rfl⟩ := ih hxs
        refine ⟨x :: before, y, after, s₂, t₁ ++ t₃, t₄, rfl, ?_, hy, by simp⟩
        exact runs_bind_done.mpr ⟨(), s₁, t₁, t₃, hx, hbefore, rfl⟩
      · obtain rfl := Outcome.stopped.inj hwhy
        exact ⟨[], x, xs, s, [], t, rfl, .pure _ _, hx, rfl⟩

end Loops

/-! ## Programs that let no failure pass, and programs that complete -/

/-- No completed run of the program passed over a failure. -/
def Program.Strict (M : Machine Op Res Err Residue S) (A : Adversary)
    (p : Program Op Res Err α) : Prop :=
  ∀ s a s' t, Runs M A p s (.done a) s' t → ∀ e ∈ t, e.ok = true

/-- The program completes whenever nothing interferes. -/
def Program.Sure (M : Machine Op Res Err Residue S) (p : Program Op Res Err α) : Prop :=
  ∀ s out s' t, Runs M .absent p s out s' t → ∃ a, out = .done a

section Strict

variable {M : Machine Op Res Err Residue S} {A : Adversary}

theorem strict_pure (a : α) : (pure a : Program Op Res Err α).Strict M A := by
  intro s b s' t h
  obtain ⟨_, _, rfl⟩ := runs_pure_iff.mp h
  simp

theorem strict_perform (op : Op) :
    (Program.perform op : Program Op Res Err (Res op)).Strict M A := by
  intro s a s' t h
  obtain ⟨_, rfl⟩ := runs_perform_done.mp h
  simp

theorem strict_bind {p : Program Op Res Err α} {f : α → Program Op Res Err β}
    (hp : p.Strict M A) (hf : ∀ a, (f a).Strict M A) : (p >>= f).Strict M A := by
  intro s b s' t h e he
  obtain ⟨a, s₁, t₁, t₂, h₁, h₂, rfl⟩ := runs_bind_done.mp h
  rcases List.mem_append.mp he with he | he
  · exact hp s a s₁ t₁ h₁ e he
  · exact hf a s₁ b s' t₂ h₂ e he

theorem strict_mapError {f : Err → Err} {p : Program Op Res Err α} (hp : p.Strict M A) :
    (p.mapError f).Strict M A :=
  fun s a s' t h => hp s a s' t (runs_mapError_done.mp h)

theorem strict_gather {body : β → Program Op Res Err γ} {xs : List β}
    (h : ∀ x ∈ xs, (body x).Strict M A) : (Program.gather body xs).Strict M A := by
  induction xs with
  | nil => exact strict_pure _
  | cons x xs ih =>
      exact strict_bind (h x (by simp)) fun _ =>
        strict_bind (ih fun y hy => h y (by simp [hy])) fun _ => strict_pure _

end Strict

section Sure

variable {M : Machine Op Res Err Residue S}

theorem sure_pure (a : α) : (pure a : Program Op Res Err α).Sure M := by
  intro s out s' t h
  exact ⟨a, (runs_pure_iff.mp h).1⟩

theorem sure_perform {op : Op} (hop : ∀ s, ∃ a, (M.answer s op).1 = .ok a) :
    (Program.perform op : Program Op Res Err (Res op)).Sure M := by
  intro s out s' t h
  obtain ⟨a, ha⟩ := hop s
  obtain ⟨rfl, _⟩ := runs_perform_absent h
  exact ⟨a, by rw [ha]; rfl⟩

theorem sure_bind {p : Program Op Res Err α} {f : α → Program Op Res Err β}
    (hp : p.Sure M) (hf : ∀ a, (f a).Sure M) : (p >>= f).Sure M := by
  intro s out s' t h
  obtain ⟨a, s₁, t₁, t₂, _, h₂, rfl⟩ | ⟨why, rfl, h₁⟩ := runs_bind_iff.mp h
  · exact hf a s₁ out s' t₂ h₂
  · obtain ⟨a, ha⟩ := hp s _ s' t h₁
    cases ha

theorem sure_mapError {f : Err → Err} {p : Program Op Res Err α} (hp : p.Sure M) :
    (p.mapError f).Sure M := by
  intro s out s' t h
  obtain ⟨out₀, h₀, rfl⟩ := runs_mapError_iff.mp h
  obtain ⟨a, rfl⟩ := hp s out₀ s' t h₀
  exact ⟨a, rfl⟩

theorem sure_gather {body : β → Program Op Res Err γ} {xs : List β}
    (h : ∀ x ∈ xs, (body x).Sure M) : (Program.gather body xs).Sure M := by
  induction xs with
  | nil => exact sure_pure _
  | cons x xs ih =>
      exact sure_bind (h x (by simp)) fun _ =>
        sure_bind (ih fun y hy => h y (by simp [hy])) fun _ => sure_pure _

theorem sure_forEach {body : β → Program Op Res Err Unit} {xs : List β}
    (h : ∀ x ∈ xs, (body x).Sure M) : (Program.forEach body xs).Sure M := by
  induction xs with
  | nil => exact sure_pure _
  | cons x xs ih => exact sure_bind (h x (by simp)) fun _ => ih fun y hy => h y (by simp [hy])

end Sure

/-- Started in `s` and with nothing interfering, the program returns `a` and
leaves the state as it is. -/
def Program.Yields (M : Machine Op Res Err Residue S) (p : Program Op Res Err α) (s : S)
    (a : α) : Prop :=
  ∀ out s' t, Runs M .absent p s out s' t → out = .done a ∧ s' = s

section Yields

variable {M : Machine Op Res Err Residue S} {s : S}

theorem yields_pure (a : α) : (pure a : Program Op Res Err α).Yields M s a := by
  intro out s' t h
  obtain ⟨hout, hs, _⟩ := runs_pure_iff.mp h
  exact ⟨hout, hs⟩

theorem yields_guard {c : Prop} [Decidable c] {e : Err} {p : Program Op Res Err α} {a : α}
    (hc : ¬c) (hp : p.Yields M s a) :
    (if c then .throw e else p : Program Op Res Err α).Yields M s a := by
  rw [if_neg hc]
  exact hp

/-- A program yields what its undisturbed run returns, and nothing else. -/
theorem Program.Yields.exec {p : Program Op Res Err α} {a : α} (h : p.Yields M s a) :
    (Verified.exec M p [] s).outcome = .done a ∧ (Verified.exec M p [] s).state = s :=
  h _ _ _ (exec_runs_absent M p s)

theorem Program.Yields.unique {p : Program Op Res Err α} {a b : α} (ha : p.Yields M s a)
    (hb : p.Yields M s b) : a = b :=
  Outcome.done.inj (ha.exec.1.symm.trans hb.exec.1)

theorem yields_perform {op : Op} {a : Res op} (h : M.answer s op = (.ok a, s)) :
    (Program.perform op : Program Op Res Err (Res op)).Yields M s a := by
  intro out s' t hrun
  obtain ⟨rfl, rfl⟩ := runs_perform_absent hrun
  rw [h]
  exact ⟨rfl, rfl⟩

theorem yields_bind {p : Program Op Res Err α} {f : α → Program Op Res Err β} {a : α} {b : β}
    (hp : p.Yields M s a) (hf : (f a).Yields M s b) : (p >>= f).Yields M s b := by
  intro out s' t h
  obtain ⟨a', s₁, t₁, t₂, h₁, h₂, _⟩ | ⟨why, _, h₁⟩ := runs_bind_iff.mp h
  · obtain ⟨hdone, rfl⟩ := hp _ _ _ h₁
    obtain rfl := Outcome.done.inj hdone
    exact hf _ _ _ h₂
  · cases (hp _ _ _ h₁).1

theorem yields_mapError {f : Err → Err} {p : Program Op Res Err α} {a : α}
    (hp : p.Yields M s a) : (p.mapError f).Yields M s a := by
  intro out s' t h
  obtain ⟨out₀, h₀, rfl⟩ := runs_mapError_iff.mp h
  obtain ⟨rfl, hs⟩ := hp _ _ _ h₀
  exact ⟨rfl, hs⟩

theorem yields_ofExcept {x : Except Err α} {a : α} (h : x = .ok a) :
    (Program.ofExcept x : Program Op Res Err α).Yields M s a := by
  rw [h]
  exact yields_pure a

theorem yields_gather {body : β → Program Op Res Err γ} {xs : List β} {ys : List γ}
    (h : List.Forall₂ (fun x y => (body x).Yields M s y) xs ys) :
    (Program.gather body xs).Yields M s ys := by
  induction h with
  | nil => exact yields_pure _
  | cons hx _ ih => exact yields_bind hx (yields_bind ih (yields_pure _))

theorem yields_forEach {body : β → Program Op Res Err Unit} {xs : List β}
    (h : ∀ x ∈ xs, (body x).Yields M s ()) : (Program.forEach body xs).Yields M s () := by
  induction xs with
  | nil => exact yields_pure _
  | cons x xs ih =>
      refine yields_bind (h x List.mem_cons_self) (ih fun y hy => ?_)
      exact h y (List.mem_cons_of_mem x hy)

/-- A program whose operations change nothing and are answered alike in another
state ends alike there. -/
theorem yields_of_alike {P : Op → Prop} {p : Program Op Res Err α} {s₂ s' : S} {a : α}
    {t : List (Event Op S)} (hp : p.Uses P) (hkeeps : ∀ op, P op → (M.answer s op).2 = s)
    (halike : ∀ op, P op → M.answer s₂ op = ((M.answer s op).1, s₂))
    (h : Runs M .absent p s (.done a) s' t) : p.Yields M s₂ a := by
  induction p generalizing t with
  | pure b =>
      obtain ⟨hdone, _⟩ := runs_pure_iff.mp h
      rw [Outcome.done.inj hdone]
      exact yields_pure b
  | throw e => cases h
  | call op next ih =>
      obtain ⟨hkill, _⟩ | ⟨r, s₁, t₁, hresp, hrest, _⟩ := runs_call_iff.mp h
      · exact hkill.elim
      · obtain ⟨rfl, rfl⟩ := responds_absent hresp
        rw [hkeeps op hp.1] at hrest
        have hnext := ih _ (hp.2 _) hrest
        intro out s₃ t₃ hrun
        obtain ⟨hkill, _⟩ | ⟨r, s₁, t₁, hresp', hrest', _⟩ := runs_call_iff.mp hrun
        · exact hkill.elim
        · obtain ⟨rfl, rfl⟩ := responds_absent hresp'
          rw [halike op hp.1] at hrest'
          exact hnext _ _ _ hrest'

end Yields

/-! ## Fixed lists of operations -/

/-- A run of the operations `ops` in order that stops at the first failure. -/
inductive Scripted (M : Machine Op Res Err Residue S) (A : Adversary) :
    List Op → S → Outcome Err Unit → S → List (Event Op S) → Prop where
  | done (s : S) : Scripted M A [] s (.done ()) s []
  | killed (op : Op) (ops : List Op) (s : S) (hmay : A.mayKill) :
      Scripted M A (op :: ops) s (.stopped .killed) s []
  | failed {op : Op} (ops : List Op) {s s' : S} {e : Err} (e' : Err)
      (hresp : Responds M A s op (.error e) s') :
      Scripted M A (op :: ops) s (.stopped (.error e')) s' [⟨op, false, s⟩]
  | step {op : Op} {ops : List Op} {s s₁ s' : S} {a : Res op} {out : Outcome Err Unit}
      {t : List (Event Op S)} (hresp : Responds M A s op (.ok a) s₁)
      (hrest : Scripted M A ops s₁ out s' t) :
      Scripted M A (op :: ops) s out s' (⟨op, true, s⟩ :: t)

/-- What an operation leaves when nothing interferes. -/
def Machine.effect (M : Machine Op Res Err Residue S) (s : S) (op : Op) : S :=
  (M.answer s op).2

section Scripts

variable {M : Machine Op Res Err Residue S} {A : Adversary} {ops : List Op} {s s' : S}
  {out : Outcome Err Unit} {t : List (Event Op S)}

/-- One operation, whatever becomes of its error, is a script of it. -/
theorem scripted_perform {op : Op} {out₀ : Outcome Err (Res op)} (f : Err → Err)
    (h : Runs M A (Program.perform op) s out₀ s' t) :
    Scripted M A [op] s (out₀.mapError f).forget s' t := by
  obtain ⟨hkill, rfl, rfl, rfl⟩ | ⟨a, hresp, rfl, rfl⟩ | ⟨e, hresp, rfl, rfl⟩ :=
    runs_perform_iff.mp h
  · exact .killed _ _ _ hkill
  · exact .step hresp (.done _)
  · exact .failed _ _ hresp

/-- A loop whose bodies each issue one operation runs the script of these. -/
theorem scripted_of_forEach {op : β → Op} {body : β → Program Op Res Err Unit} {xs : List β}
    (hbody : ∀ x ∈ xs, ∀ s out s' t, Runs M A (body x) s out s' t →
      Scripted M A [op x] s out s' t)
    (h : Runs M A (Program.forEach body xs) s out s' t) :
    Scripted M A (xs.map op) s out s' t := by
  induction xs generalizing s t with
  | nil =>
      obtain ⟨rfl, rfl, rfl⟩ := runs_pure_iff.mp h
      exact .done _
  | cons x xs ih =>
      obtain ⟨_, s₁, t₁, t₂, hx, hxs, rfl⟩ | ⟨why, rfl, hx⟩ := runs_bind_iff.mp h
      · cases hbody x (by simp) _ _ _ _ hx with
        | step hresp hrest =>
            cases hrest
            exact .step hresp (ih (fun y hy => hbody y (by simp [hy])) hxs)
      · cases hbody x (by simp) _ _ _ _ hx with
        | killed _ _ _ hmay => exact .killed _ _ _ hmay
        | failed _ _ hresp => exact .failed _ _ hresp
        | step hresp hrest => cases hrest

/-- The operations a script got to are its first ones. -/
theorem Scripted.ops_isPrefix (h : Scripted M A ops s out s' t) :
    t.map (·.op) <+: ops := by
  induction h with
  | done => exact List.nil_prefix
  | killed => exact List.nil_prefix
  | failed => simp
  | step _ _ ih => exact (List.prefix_cons_inj _).mpr ih

/-- A script that completed issued all of its operations, and each of them
went through. -/
theorem Scripted.complete (h : Scripted M A ops s out s' t) (hdone : out = .done ()) :
    t.map (·.op) = ops ∧ (∀ e ∈ t, e.ok = true) ∧ s' = ops.foldl M.effect s := by
  induction h with
  | done => exact ⟨rfl, by simp, rfl⟩
  | killed | failed => cases hdone
  | step hresp _ ih =>
      obtain ⟨hops, hok, rfl⟩ := ih hdone
      refine ⟨by simp [hops], by simpa using hok, ?_⟩
      rw [List.foldl_cons, Machine.effect, hresp.ok]

/-- A property the operations of a script keep holds throughout it. -/
theorem Scripted.invariant {I : S → Prop} (h : Scripted M A ops s out s' t)
    (hstep : ∀ op ∈ ops, ∀ s r s', I s → Responds M A s op r s' → I s') (hs : I s) :
    I s' ∧ ∀ e ∈ t, I e.before := by
  induction h with
  | done | killed => exact ⟨hs, by simp⟩
  | failed _ _ hresp => exact ⟨hstep _ (by simp) _ _ _ hs hresp, by simpa using hs⟩
  | step hresp _ ih =>
      obtain ⟨hs', hbefore⟩ := ih (fun op hop => hstep op (by simp [hop]))
        (hstep _ (by simp) _ _ _ hs hresp)
      exact ⟨hs', by simpa using ⟨hs, hbefore⟩⟩

/-- Only the last operation of a script can have failed. -/
theorem Scripted.pairwise_ok (h : Scripted M A ops s out s' t) :
    t.Pairwise fun e _ => e.ok = true := by
  induction h with
  | done | killed => exact .nil
  | failed => exact List.pairwise_singleton _ _
  | step _ _ ih => exact List.pairwise_cons.mpr ⟨fun _ _ => rfl, ih⟩

/-- What an operation establishes and the operations of the script keep holds
from then on. -/
theorem Scripted.established {I : Op → S → Prop} (h : Scripted M A ops s out s' t)
    (hset : ∀ op ∈ ops, ∀ s, I op (M.effect s op))
    (hkeep : ∀ op, ∀ op' ∈ ops, ∀ s r s', I op s → Responds M A s op' r s' → I op s') :
    t.Pairwise (fun e e' => I e.op e'.before) ∧
      (out = .done () → ∀ op ∈ ops, I op s') := by
  induction h with
  | done => exact ⟨.nil, by simp⟩
  | killed => exact ⟨.nil, by simp⟩
  | failed => exact ⟨List.pairwise_singleton _ _, by simp⟩
  | @step op ops s s₁ s' a out t hresp hrest ih =>
      have htail : ∀ op' ∈ ops, op' ∈ op :: ops := fun _ => List.mem_cons_of_mem op
      obtain ⟨hpair, hdone⟩ := ih (fun op' hop' => hset op' (htail op' hop'))
        (fun op₁ op' hop' => hkeep op₁ op' (htail op' hop'))
      have hs₁ : I op s₁ := by
        have heff := hset op List.mem_cons_self s
        rwa [Machine.effect, hresp.ok] at heff
      obtain ⟨hs', hbefore⟩ := hrest.invariant
        (fun op' hop' => hkeep op op' (htail op' hop')) hs₁
      refine ⟨List.pairwise_cons.mpr ⟨hbefore, hpair⟩, fun hout op' hop' => ?_⟩
      rcases List.mem_cons.mp hop' with rfl | hop'
      · exact hs'
      · exact hdone hout op' hop'

/-- A script of operations the machine always answers completes when nothing
interferes. -/
theorem Scripted.absent_done (h : Scripted M .absent ops s out s' t)
    (hok : ∀ op ∈ ops, ∀ s, ∃ a, (M.answer s op).1 = .ok a) : out = .done () := by
  induction h with
  | done => rfl
  | killed _ _ _ hmay => exact hmay.elim
  | failed _ _ hresp =>
      obtain ⟨a, ha⟩ := hok _ List.mem_cons_self _
      rw [← (responds_absent hresp).1] at ha
      cases ha
  | step _ _ ih => exact ih fun op hop => hok op (by simp [hop])

end Scripts

end KataDeviceProvisioner.Verified
