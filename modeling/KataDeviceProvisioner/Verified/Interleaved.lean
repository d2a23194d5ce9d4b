import KataDeviceProvisioner.Verified.Runs
import Mathlib.Logic.Function.Basic

/-!
# Programs that share a machine

Several programs run on one machine and their operations interleave in any
order (`Interleaves`).  A program that is killed is one whose turn never comes
again.

What a program does beside others is said by `Program.Guarantees`: as long as
nobody takes away one of the facts `F`, the program takes none away either, and
when it returns, its postcondition holds and goes on holding.  The rules after
it are those of a program logic, one for each combinator.  Programs that all
guarantee this can be put together: `Interleaves.guarantees` says that each of
them still does, wherever the interleaving stands.

`Program.Owes` is about what a program has yet to do.  A debt is a condition on
the state that some operations bring about and others end; a program that only
brings about what it then ends itself is `Honest`, and among honest programs no
debt outlives the last of them (`Interleaves.owed`).
-/

namespace KataDeviceProvisioner.Verified

variable {Op : Type} {Res : Op → Type} {Err Residue S α β Fact : Type}

/-! ## Facts that are kept -/

/-- What is a fact of the first state is one of the second. -/
def Keeps (F : Fact → S → Prop) (s s' : S) : Prop :=
  ∀ fact, F fact s → F fact s'

/-- What holds of a state and of every state that keeps its facts. -/
def Lasting (F : Fact → S → Prop) (I : S → Prop) : Prop :=
  ∀ s s', Keeps F s s' → I s → I s'

section Facts

variable {F : Fact → S → Prop} {s s₁ s' : S}

theorem Keeps.refl (F : Fact → S → Prop) (s : S) : Keeps F s s := fun _ h => h

theorem Keeps.trans (h : Keeps F s s₁) (h' : Keeps F s₁ s') : Keeps F s s' :=
  fun fact hfact => h' fact (h fact hfact)

theorem lasting_fact (fact : Fact) : Lasting F (F fact) := fun _ _ hkeeps h => hkeeps fact h

theorem lasting_const (p : Prop) : Lasting F fun _ : S => p := fun _ _ _ h => h

theorem Lasting.and {I J : S → Prop} (hI : Lasting F I) (hJ : Lasting F J) :
    Lasting F fun s => I s ∧ J s :=
  fun s s' hkeeps h => ⟨hI s s' hkeeps h.1, hJ s s' hkeeps h.2⟩

theorem Lasting.imp {p : Prop} {I : S → Prop} (hI : Lasting F I) :
    Lasting F fun s => p → I s :=
  fun s s' hkeeps h hp => hI s s' hkeeps (h hp)

theorem Lasting.all {I : β → S → Prop} (hI : ∀ x, Lasting F (I x)) :
    Lasting F fun s => ∀ x, I x s :=
  fun s s' hkeeps h x => hI x s s' hkeeps (h x)

end Facts

/-! ## A program beside others -/

/-- Started in `s` beside programs that keep the facts `F`, the program keeps them
too, `Q` holds from when it returns and `E` from when it gives up. -/
def Program.Guarantees (M : Machine Op Res Err Residue S) (A : Adversary) (F : Fact → S → Prop)
    (Q : α → S → Prop) (E : Err → S → Prop) : Program Op Res Err α → S → Prop
  | .pure a, s => ∀ s', Keeps F s s' → Q a s'
  | .throw e, s => ∀ s', Keeps F s s' → E e s'
  | .call op next, s => ∀ s', Keeps F s s' → ∀ r s₁, Responds M A s' op r s₁ →
      Keeps F s' s₁ ∧ (next r).Guarantees M A F Q E s₁

section Rules

variable {M : Machine Op Res Err Residue S} {A : Adversary} {F : Fact → S → Prop}
  {Q : α → S → Prop} {E : Err → S → Prop} {s s' : S}

/-- What a program guarantees is not lost while others run. -/
theorem Program.Guarantees.later {p : Program Op Res Err α} (h : p.Guarantees M A F Q E s)
    (hkeeps : Keeps F s s') : p.Guarantees M A F Q E s' := by
  cases p with
  | pure a => exact fun s₂ h₂ => h s₂ (hkeeps.trans h₂)
  | throw e => exact fun s₂ h₂ => h s₂ (hkeeps.trans h₂)
  | call op next => exact fun s₂ h₂ => h s₂ (hkeeps.trans h₂)

theorem Program.Guarantees.mono {p : Program Op Res Err α} {Q' : α → S → Prop}
    {E' : Err → S → Prop} (h : p.Guarantees M A F Q E s)
    (hQ : ∀ a s', Keeps F s s' → Q a s' → Q' a s')
    (hE : ∀ e s', Keeps F s s' → E e s' → E' e s') : p.Guarantees M A F Q' E' s := by
  induction p generalizing s with
  | pure a => exact fun s' hs' => hQ a s' hs' (h s' hs')
  | throw e => exact fun s' hs' => hE e s' hs' (h s' hs')
  | call op next ih =>
      intro s' hs' r s₁ hresp
      obtain ⟨hkeeps, hnext⟩ := h s' hs' r s₁ hresp
      have hfrom : Keeps F s s₁ := hs'.trans hkeeps
      refine ⟨hkeeps, ih r hnext (fun a s₂ hs₂ => ?_) (fun e s₂ hs₂ => ?_)⟩
      · exact hQ a s₂ (hfrom.trans hs₂)
      · exact hE e s₂ (hfrom.trans hs₂)

/-- What lasts is still so when the program returns. -/
theorem Program.Guarantees.frame {p : Program Op Res Err α} {I : S → Prop}
    (h : p.Guarantees M A F Q E s) (hI : Lasting F I) (hs : I s) :
    p.Guarantees M A F (fun a s => Q a s ∧ I s) E s :=
  h.mono (fun _ s' hs' hQ => ⟨hQ, hI s s' hs' hs⟩) fun _ _ _ hE => hE

theorem guarantees_pure {a : α} (h : ∀ s', Keeps F s s' → Q a s') :
    (pure a : Program Op Res Err α).Guarantees M A F Q E s := h

theorem guarantees_throw {e : Err} (h : ∀ s', Keeps F s s' → E e s') :
    (.throw e : Program Op Res Err α).Guarantees M A F Q E s := h

theorem guarantees_bind {p : Program Op Res Err α} {f : α → Program Op Res Err β}
    {Q' : β → S → Prop}
    (h : p.Guarantees M A F (fun a s' => (f a).Guarantees M A F Q' E s') E s) :
    (p >>= f).Guarantees M A F Q' E s := by
  rw [Program.bind_eq]
  induction p generalizing s with
  | pure a => exact h s (Keeps.refl F s)
  | throw e => exact h
  | call op next ih =>
      intro s' hs' r s₁ hresp
      obtain ⟨hkeeps, hnext⟩ := h s' hs' r s₁ hresp
      exact ⟨hkeeps, ih r hnext⟩

/-- A sequence, where the postcondition of its first part is all that its second
part needs. -/
theorem guarantees_seq {p : Program Op Res Err α} {f : α → Program Op Res Err β}
    {Q' : β → S → Prop} (hp : p.Guarantees M A F Q E s)
    (hf : ∀ a s', Keeps F s s' → Q a s' → (f a).Guarantees M A F Q' E s') :
    (p >>= f).Guarantees M A F Q' E s :=
  guarantees_bind (hp.mono hf fun _ _ _ hE => hE)

theorem guarantees_mapError {f : Err → Err} {p : Program Op Res Err α}
    (h : p.Guarantees M A F Q (fun e => E (f e)) s) :
    (p.mapError f).Guarantees M A F Q E s := by
  induction p generalizing s with
  | pure a => exact h
  | throw e => exact h
  | call op next ih =>
      intro s' hs' r s₁ hresp
      obtain ⟨hkeeps, hnext⟩ := h s' hs' r s₁ hresp
      exact ⟨hkeeps, ih r hnext⟩

theorem guarantees_attempt {p : Program Op Res Err α} {Q' : Except Err α → S → Prop}
    (h : p.Guarantees M A F (fun a => Q' (.ok a)) (fun e => Q' (.error e)) s) :
    p.attempt.Guarantees M A F Q' E s := by
  induction p generalizing s with
  | pure a => exact h
  | throw e => exact h
  | call op next ih =>
      intro s' hs' r s₁ hresp
      obtain ⟨hkeeps, hnext⟩ := h s' hs' r s₁ hresp
      exact ⟨hkeeps, ih r hnext⟩

theorem guarantees_ofExcept {x : Except Err α}
    (hok : ∀ a, x = .ok a → ∀ s', Keeps F s s' → Q a s')
    (herror : ∀ e, x = .error e → ∀ s', Keeps F s s' → E e s') :
    (Program.ofExcept x : Program Op Res Err α).Guarantees M A F Q E s := by
  cases x with
  | ok a => exact hok a rfl
  | error e => exact herror e rfl

/-- One operation: it keeps the facts, and what it leaves is what is wanted of
it. -/
theorem guarantees_perform {op : Op} {Q : Res op → S → Prop}
    (hkeeps : ∀ s' r s₁, Responds M A s' op r s₁ → Keeps F s' s₁)
    (hok : ∀ s' a s₁, Keeps F s s' → Responds M A s' op (.ok a) s₁ →
      ∀ s₂, Keeps F s₁ s₂ → Q a s₂)
    (herror : ∀ s' e s₁, Keeps F s s' → Responds M A s' op (.error e) s₁ →
      ∀ s₂, Keeps F s₁ s₂ → E e s₂) :
    (Program.perform op : Program Op Res Err (Res op)).Guarantees M A F Q E s := by
  intro s' hs' r s₁ hresp
  refine ⟨hkeeps s' r s₁ hresp, ?_⟩
  cases r with
  | ok a => exact hok s' a s₁ hs' hresp
  | error e => exact herror s' e s₁ hs' hresp

/-- A loop establishes for each element what one round of it establishes. -/
theorem guarantees_forEach {body : β → Program Op Res Err Unit} {I : β → S → Prop} {xs : List β}
    (hI : ∀ x, Lasting F (I x))
    (hbody : ∀ x ∈ xs, ∀ s', Keeps F s s' → (body x).Guarantees M A F (fun _ => I x) E s') :
    (Program.forEach body xs).Guarantees M A F (fun _ s' => ∀ x ∈ xs, I x s') E s := by
  induction xs generalizing s with
  | nil => exact fun s' _ x hx => by cases hx
  | cons x xs ih =>
      refine guarantees_seq (hbody x List.mem_cons_self s (Keeps.refl F s)) fun _ s₁ hs₁ hx => ?_
      have hrest := ih fun y hy s' hs' => hbody y (List.mem_cons_of_mem x hy) s' (hs₁.trans hs')
      refine (hrest.frame (hI x) hx).mono (fun _ s' _ hall y hy => ?_) fun _ _ _ hE => hE
      rcases List.mem_cons.mp hy with rfl | hy
      · exact hall.2
      · exact hall.1 y hy

theorem guarantees_gather {body : β → Program Op Res Err α} {I : β → α → S → Prop} {xs : List β}
    (hI : ∀ x a, Lasting F (I x a))
    (hbody : ∀ x ∈ xs, ∀ s', Keeps F s s' → (body x).Guarantees M A F (I x) E s') :
    (Program.gather body xs).Guarantees M A F
      (fun ys s' => List.Forall₂ (fun x a => I x a s') xs ys) E s := by
  induction xs generalizing s with
  | nil => exact fun _ _ => .nil
  | cons x xs ih =>
      refine guarantees_seq (hbody x List.mem_cons_self s (Keeps.refl F s)) fun y s₁ hs₁ hy => ?_
      have hrest := ih fun z hz s' hs' => hbody z (List.mem_cons_of_mem x hz) s' (hs₁.trans hs')
      refine guarantees_seq (hrest.frame (hI x y) hy) fun ys s₂ _ hall => ?_
      refine guarantees_pure fun s₃ hs₃ => .cons (hI x y s₂ s₃ hs₃ hall.2) ?_
      exact hall.1.imp fun z a ha => hI z a s₂ s₃ hs₃ ha

/-- A program whose operations keep the facts whatever becomes of them. -/
theorem guarantees_of_uses {P : Op → Prop} {p : Program Op Res Err α} (hp : p.Uses P)
    (hkeeps : ∀ op, P op → ∀ s' r s₁, Responds M A s' op r s₁ → Keeps F s' s₁) (s : S) :
    p.Guarantees M A F (fun _ _ => True) (fun _ _ => True) s := by
  induction p generalizing s with
  | pure a => exact fun _ _ => trivial
  | throw e => exact fun _ _ => trivial
  | call op next ih =>
      exact fun s' _ r s₁ hresp => ⟨hkeeps op hp.1 s' r s₁ hresp, ih r (hp.2 r) s₁⟩

/-- An operation another state answers alike, without changing, can get there every
answer it got here. -/
theorem Responds.alike {op : Op} {r : Except Err (Res op)} {s₁ s₂ : S}
    (h : Responds M A s op r s₁) (residue : Residue)
    (hanswer : M.answer s₂ op = ((M.answer s op).1, s₂))
    (hresidual : M.residual s₂ op residue = s₂) : Responds M A s₂ op r s₂ := by
  cases h with
  | answered =>
      have hresp : Responds M A s₂ op (M.answer s₂ op).1 (M.answer s₂ op).2 := .answered
      rwa [hanswer] at hresp
  | failed e _ hmay hop =>
      have hresp : Responds M A s₂ op (.error e) (M.residual s₂ op residue) :=
        .failed e residue hmay hop
      rwa [hresidual] at hresp

/-- A program whose operations change nothing and are answered alike in every
state returns what a run by itself returns. -/
theorem guarantees_of_steady {P : Op → Prop} {p : Program Op Res Err α} (hp : p.Uses P)
    (hquiet : ∀ op, P op → ∀ s' r s₁, Responds M A s' op r s₁ → s₁ = s')
    (halike : ∀ op, P op → ∀ s' s₂ r s₁, Responds M A s' op r s₁ → Responds M A s₂ op r s₂)
    (s₀ s : S) :
    p.Guarantees M A F (fun a _ => ∃ t, Runs M A p s₀ (.done a) s₀ t)
      (fun e _ => ∃ t, Runs M A p s₀ (.stopped (.error e)) s₀ t) s := by
  induction p generalizing s with
  | pure a => exact fun _ _ => ⟨[], .pure a s₀⟩
  | throw e => exact fun _ _ => ⟨[], .throw e s₀⟩
  | call op next ih =>
      intro s' _ r s₁ hresp
      obtain rfl := hquiet op hp.1 s' r s₁ hresp
      have hsame : Responds M A s₀ op r s₀ := halike op hp.1 s₁ s₀ r s₁ hresp
      refine ⟨Keeps.refl F s₁, (ih r (hp.2 r) s₁).mono (fun a _ _ => ?_) fun e _ _ => ?_⟩
      · rintro ⟨t, hrun⟩
        exact ⟨_, .call hsame hrun⟩
      · rintro ⟨t, hrun⟩
        exact ⟨_, .call hsame hrun⟩

/-- A program that does not give up returns when it is let run. -/
theorem Program.Guarantees.completes {p : Program Op Res Err α}
    (h : p.Guarantees M .absent F Q (fun _ _ => False) s) :
    ∃ a, (exec M p [] s).outcome = .done a := by
  induction p generalizing s with
  | pure a => exact ⟨a, rfl⟩
  | throw e => exact (h s (Keeps.refl F s)).elim
  | call op next ih =>
      obtain ⟨_, hnext⟩ := h s (Keeps.refl F s) _ _ .answered
      exact ih _ hnext

/-- The facts may be named otherwise. -/
theorem Program.Guarantees.congr {F' : Fact → S → Prop} {p : Program Op Res Err α}
    (h : p.Guarantees M A F Q E s) (hF : ∀ fact s, F fact s ↔ F' fact s) :
    p.Guarantees M A F' Q E s := by
  have hsame : F = F' := funext fun fact => funext fun s => propext (hF fact s)
  rwa [← hsame]

end Rules

/-! ## Interleavings -/

section Pools

variable {ι : Type} [DecidableEq ι] {M : Machine Op Res Err Residue S} {A : Adversary}
  {pool pool' pool'' : ι → Program Op Res Err α} {s s' s'' : S}

/-- The programs take turns, one operation at a time and in any order.  What is
left of each is in the pool. -/
inductive Interleaves (M : Machine Op Res Err Residue S) (A : Adversary) :
    (ι → Program Op Res Err α) → S → (ι → Program Op Res Err α) → S → Prop where
  | refl (pool : ι → Program Op Res Err α) (s : S) : Interleaves M A pool s pool s
  | turn {pool pool' : ι → Program Op Res Err α} {s s₁ s' : S} (i : ι) {op : Op}
      {next : Except Err (Res op) → Program Op Res Err α} {r : Except Err (Res op)}
      (hi : pool i = .call op next) (hresp : Responds M A s op r s₁)
      (hrest : Interleaves M A (Function.update pool i (next r)) s₁ pool' s') :
      Interleaves M A pool s pool' s'

theorem Interleaves.trans (h : Interleaves M A pool s pool' s')
    (h' : Interleaves M A pool' s' pool'' s'') : Interleaves M A pool s pool'' s'' := by
  induction h with
  | refl => exact h'
  | turn i hi hresp _ ih => exact .turn i hi hresp (ih h')

/-- A run of one of the programs is an interleaving in which it is always that
one's turn. -/
theorem Interleaves.of_runs {p : Program Op Res Err α} {a : α} {t : List (Event Op S)} (i : ι)
    (h : Runs M A p s (.done a) s' t) (hi : pool i = p) :
    Interleaves M A pool s (Function.update pool i (.pure a)) s' := by
  generalize hout : Outcome.done a = out at h
  induction h generalizing pool with
  | pure b s =>
      obtain rfl := Outcome.done.inj hout
      rw [← hi, Function.update_eq_self]
      exact .refl pool s
  | throw => cases hout
  | killed => cases hout
  | @call op next s s₁ s' r out t hresp hnext ih =>
      have hself : Function.update pool i (next r) i = next r := Function.update_self i _ _
      have hrest := ih hself hout
      rw [Function.update_idem] at hrest
      exact .turn i hi hresp hrest

/-- The first operations of a program, when nothing befalls them. -/
def Program.advance (M : Machine Op Res Err Residue S) :
    Nat → Program Op Res Err α → S → Program Op Res Err α × S
  | 0, p, s => (p, s)
  | _ + 1, .pure a, s => (.pure a, s)
  | _ + 1, .throw e, s => (.throw e, s)
  | n + 1, .call op next, s => (next (M.answer s op).1).advance M n (M.answer s op).2

theorem Interleaves.advance (i : ι) (n : Nat) (pool : ι → Program Op Res Err α) (s : S) :
    Interleaves M A pool s (Function.update pool i ((pool i).advance M n s).1)
      ((pool i).advance M n s).2 := by
  induction n generalizing pool s with
  | zero =>
      rw [Program.advance, Function.update_eq_self]
      exact .refl pool s
  | succ n ih =>
      cases hi : pool i with
      | pure a =>
          rw [Program.advance, ← hi, Function.update_eq_self]
          exact .refl pool s
      | throw e =>
          rw [Program.advance, ← hi, Function.update_eq_self]
          exact .refl pool s
      | call op next =>
          have hrest := ih (Function.update pool i (next (M.answer s op).1)) (M.answer s op).2
          rw [Function.update_self, Function.update_idem] at hrest
          exact .turn i hi .answered hrest

variable {F : Fact → S → Prop} {Q : ι → α → S → Prop} {E : ι → Err → S → Prop}

/-- Programs that guarantee something beside each other do so wherever the
interleaving stands. -/
theorem Interleaves.guarantees (h : Interleaves M A pool s pool' s')
    (hall : ∀ i, (pool i).Guarantees M A F (Q i) (E i) s) :
    Keeps F s s' ∧ ∀ i, (pool' i).Guarantees M A F (Q i) (E i) s' := by
  induction h with
  | refl => exact ⟨Keeps.refl F _, hall⟩
  | @turn pool pool' s s₁ s' i op next r hi hresp _ ih =>
      have hturn := hall i
      rw [hi] at hturn
      obtain ⟨hkeeps, hnext⟩ := hturn s (Keeps.refl F s) r s₁ hresp
      have hothers : ∀ j, (Function.update pool i (next r) j).Guarantees M A F (Q j) (E j) s₁ := by
        intro j
        by_cases hj : j = i
        · subst hj
          rw [Function.update_self]
          exact hnext
        · rw [Function.update_of_ne hj]
          exact (hall j).later hkeeps
      obtain ⟨hrest, hpool⟩ := ih hothers
      exact ⟨hkeeps.trans hrest, hpool⟩

/-- The postcondition of a program that has returned holds from then on. -/
theorem Interleaves.returned (h : Interleaves M A pool s pool' s')
    (hall : ∀ i, (pool i).Guarantees M A F (Q i) (E i) s) {i : ι} {a : α}
    (hi : pool' i = .pure a) : Q i a s' := by
  have hpost := (h.guarantees hall).2 i
  rw [hi] at hpost
  exact hpost s' (Keeps.refl F s')

end Pools

/-! ## Debts -/

/-- Where the debt is due the program does not return before it has ended it. -/
def Program.Owes (M : Machine Op Res Err Residue S) (A : Adversary) (Due : S → Prop) :
    Program Op Res Err α → Prop
  | .pure _ => False
  | .throw _ => True
  | .call op next => ∀ s r s₁, Responds M A s op r s₁ → Due s₁ → (next r).Owes M A Due

/-- Every debt the program brings about is in `D`, or one it owes from then on. -/
def Program.Honest {Debt : Type} (M : Machine Op Res Err Residue S) (A : Adversary)
    (Due : Debt → S → Prop) (D : Debt → Prop) : Program Op Res Err α → Prop
  | .pure _ => True
  | .throw _ => True
  | .call op next => ∀ r, (next r).Honest M A Due D ∧ ∀ d s s₁, Responds M A s op r s₁ →
      Due d s₁ → Due d s ∨ D d ∨ (next r).Owes M A (Due d)

section Debts

variable {Debt : Type} {M : Machine Op Res Err Residue S} {A : Adversary} {due : S → Prop}
  {Due : Debt → S → Prop} {D D' : Debt → Prop}

theorem owes_bind_left {p : Program Op Res Err α} {f : α → Program Op Res Err β}
    (hp : p.Owes M A due) : (p >>= f).Owes M A due := by
  rw [Program.bind_eq]
  induction p with
  | pure a => exact hp.elim
  | throw e => trivial
  | call op next ih => exact fun s r s₁ hresp hdue => ih r (hp s r s₁ hresp hdue)

theorem owes_bind_right {p : Program Op Res Err α} {f : α → Program Op Res Err β}
    (hf : ∀ a, (f a).Owes M A due) : (p >>= f).Owes M A due := by
  rw [Program.bind_eq]
  induction p with
  | pure a => exact hf a
  | throw e => trivial
  | call op next ih => exact fun s r s₁ _ _ => ih r

theorem owes_mapError {f : Err → Err} {p : Program Op Res Err α} (hp : p.Owes M A due) :
    (p.mapError f).Owes M A due := by
  induction p with
  | pure a => exact hp
  | throw e => trivial
  | call op next ih => exact fun s r s₁ hresp hdue => ih r (hp s r s₁ hresp hdue)

/-- An operation that goes through only where the debt is ended. -/
theorem owes_perform {op : Op} (h : ∀ s a s₁, Responds M A s op (.ok a) s₁ → ¬due s₁) :
    (Program.perform op : Program Op Res Err (Res op)).Owes M A due := by
  intro s r s₁ hresp hdue
  cases r with
  | ok a => exact absurd hdue (h s a s₁ hresp)
  | error e => trivial

theorem owes_forEach {body : β → Program Op Res Err Unit} {xs : List β} {x : β} (hx : x ∈ xs)
    (h : (body x).Owes M A due) : (Program.forEach body xs).Owes M A due := by
  induction xs with
  | nil => cases hx
  | cons y ys ih =>
      rcases List.mem_cons.mp hx with rfl | hx
      · exact owes_bind_left h
      · exact owes_bind_right fun _ => ih hx

/-- What the second part of a sequence owes in any case its first part may bring
about. -/
theorem honest_bind {p : Program Op Res Err α} {f : α → Program Op Res Err β}
    (hp : p.Honest M A Due fun d => D d ∨ D' d) (hf : ∀ a, (f a).Honest M A Due D)
    (howes : ∀ d, D' d → ∀ a, (f a).Owes M A (Due d)) : (p >>= f).Honest M A Due D := by
  rw [Program.bind_eq]
  induction p with
  | pure a => exact hf a
  | throw e => trivial
  | call op next ih =>
      intro r
      obtain ⟨hnext, hdebts⟩ := hp r
      refine ⟨ih r hnext, fun d s s₁ hresp hdue => ?_⟩
      rcases hdebts d s s₁ hresp hdue with hdue | (hd | hd) | hd
      · exact .inl hdue
      · exact .inr (.inl hd)
      · exact .inr (.inr (owes_bind_right (howes d hd)))
      · exact .inr (.inr (owes_bind_left hd))

theorem honest_seq {p : Program Op Res Err α} {f : α → Program Op Res Err β}
    (hp : p.Honest M A Due D) (hf : ∀ a, (f a).Honest M A Due D) : (p >>= f).Honest M A Due D := by
  rw [Program.bind_eq]
  induction p with
  | pure a => exact hf a
  | throw e => trivial
  | call op next ih =>
      intro r
      obtain ⟨hnext, hdebts⟩ := hp r
      refine ⟨ih r hnext, fun d s s₁ hresp hdue => ?_⟩
      exact (hdebts d s s₁ hresp hdue).imp_right fun hnew => hnew.imp_right owes_bind_left

/-- A program that brings no debt about but those of `D`. -/
theorem honest_of_uses {P : Op → Prop} {p : Program Op Res Err α} (hp : p.Uses P)
    (h : ∀ op, P op → ∀ d s r s₁, Responds M A s op r s₁ → Due d s₁ → Due d s ∨ D d) :
    p.Honest M A Due D := by
  induction p with
  | pure a => trivial
  | throw e => trivial
  | call op next ih =>
      refine fun r => ⟨ih r (hp.2 r), fun d s s₁ hresp hdue => ?_⟩
      rcases h op hp.1 d s r s₁ hresp hdue with hdue | hd
      · exact .inl hdue
      · exact .inr (.inl hd)

variable {ι : Type} [DecidableEq ι] {pool pool' : ι → Program Op Res Err α} {s s' : S}

/-- Among honest programs, what is due is owed by one of them. -/
theorem Interleaves.owed (h : Interleaves M A pool s pool' s')
    (hhonest : ∀ i, (pool i).Honest M A Due fun _ => False)
    (howed : ∀ d, Due d s → ∃ i, (pool i).Owes M A (Due d)) :
    ∀ d, Due d s' → ∃ i, (pool' i).Owes M A (Due d) := by
  induction h with
  | refl => exact howed
  | @turn pool pool' s s₁ s' i op next r hi hresp _ ih =>
      have hturn := hhonest i
      rw [hi] at hturn
      obtain ⟨hnext, hdebts⟩ := hturn r
      refine ih (fun j => ?_) fun d hdue => ?_
      · by_cases hj : j = i
        · subst hj
          rw [Function.update_self]
          exact hnext
        · rw [Function.update_of_ne hj]
          exact hhonest j
      · have hself : (next r).Owes M A (Due d) →
            ∃ j, (Function.update pool i (next r) j).Owes M A (Due d) := by
          intro hnext
          refine ⟨i, ?_⟩
          rw [Function.update_self]
          exact hnext
        rcases hdebts d s s₁ hresp hdue with hdue' | hfalse | hnew
        · obtain ⟨j, hj⟩ := howed d hdue'
          by_cases hji : j = i
          · subst hji
            rw [hi] at hj
            exact hself (hj s r s₁ hresp hdue)
          · refine ⟨j, ?_⟩
            rw [Function.update_of_ne hji]
            exact hj
        · exact hfalse.elim
        · exact hself hnew

/-- So once all of them have returned nothing is. -/
theorem Interleaves.settled (h : Interleaves M A pool s pool' s')
    (hhonest : ∀ i, (pool i).Honest M A Due fun _ => False) (hstart : ∀ d, ¬Due d s)
    (hdone : ∀ i, ∃ a, pool' i = .pure a) (d : Debt) : ¬Due d s' := by
  intro hdue
  obtain ⟨i, howes⟩ := h.owed hhonest (fun d hdue => absurd hdue (hstart d)) d hdue
  obtain ⟨a, hi⟩ := hdone i
  rw [hi] at howes
  exact howes

end Debts

end KataDeviceProvisioner.Verified
