/-!
# Histories

A system that takes labelled steps, and what its runs of any length keep.
`History step log s s'` says that the labels of `log`, oldest first, lead from
`s` to `s'`.

* `History.invariant`: what every step keeps is kept.
* `History.within`: what every step stays within, if it composes, is not left.
* `History.tracks`: an account that is brought up to date at every label, and
  is true of the state after every step, is true of the state at the end;
* `History.last`: what led to the end was a step.

Nothing here knows what the labels or the states are.
-/

namespace KataDeviceProvisioner.Verified

variable {Label S Account : Type} {step : Label → S → S → Prop}

/-- The labels of the list, oldest first, lead from one state to the other. -/
inductive History (step : Label → S → S → Prop) : List Label → S → S → Prop where
  | nil (s : S) : History step [] s s
  | cons {label : Label} {log : List Label} {s s₁ s' : S} (hstep : step label s s₁)
      (hrest : History step log s₁ s') : History step (label :: log) s s'

namespace History

variable {log : List Label} {s s' : S}

/-- What the steps of a history keep holds at its end. -/
theorem invariant {I : S → Prop} (h : History step log s s')
    (hstep : ∀ label ∈ log, ∀ s s', I s → step label s s' → I s') (hs : I s) : I s' := by
  induction h with
  | nil => exact hs
  | @cons label log s s₁ s' hfirst _ ih =>
      have hs₁ : I s₁ := hstep label List.mem_cons_self s s₁ hs hfirst
      exact ih (fun label hlabel => hstep label (List.mem_cons_of_mem _ hlabel)) hs₁

/-- What the steps of a history stay within, the history stays within. -/
theorem within {R : S → S → Prop} (h : History step log s s') (hrefl : ∀ s, R s s)
    (htrans : ∀ s₁ s₂ s₃, R s₁ s₂ → R s₂ s₃ → R s₁ s₃)
    (hstep : ∀ label ∈ log, ∀ s s', step label s s' → R s s') : R s s' :=
  h.invariant (I := R s)
    (fun label hlabel s₁ s₂ hs₁ h₁ => htrans s s₁ s₂ hs₁ (hstep label hlabel s₁ s₂ h₁)) (hrefl s)

/-- An account that stays true when it is brought up to date is true of every
state a history ends in. -/
theorem tracks {Holds : Account → S → Prop} {record : Account → Label → Account}
    (h : History step log s s')
    (hstep : ∀ account label s s', Holds account s → step label s s' →
      Holds (record account label) s')
    {account : Account} (hs : Holds account s) : Holds (log.foldl record account) s' := by
  induction h generalizing account with
  | nil => exact hs
  | cons hfirst _ ih => exact ih (hstep account _ _ _ hs hfirst)

/-- The last step of a history. -/
theorem last {label : Label} (h : History step (log ++ [label]) s s') :
    ∃ s₁, History step log s s₁ ∧ step label s₁ s' := by
  induction log generalizing s with
  | nil =>
      cases h with
      | cons hstep hrest =>
          cases hrest
          exact ⟨s, .nil s, hstep⟩
  | cons first log ih =>
      cases h with
      | cons hstep hrest =>
          obtain ⟨s₁, hlog, hlast⟩ := ih hrest
          exact ⟨s₁, .cons hstep hlog, hlast⟩

end History

end KataDeviceProvisioner.Verified
