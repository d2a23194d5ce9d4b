import KataDeviceProvisioner.Verified.Runs
import Mathlib.Algebra.Ring.Nat

/-!
# Lower bounds on runs

A measure of what is left to do, which no operation lowers by more than it costs,
bounds from below what a run costs that brings the measure to nothing, whatever
program the run is of.  Where the state is made of parts and an operation is on
one of them, the measure is a sum over the parts (`sum_map_le`).
-/

namespace KataDeviceProvisioner.Verified

section Potential

variable {Op : Type} {Res : Op → Type} {Err Residue S α : Type}
  {M : Machine Op Res Err Residue S} {A : Adversary} {p : Program Op Res Err α} {s s' : S}
  {out : Outcome Err α} {t : List (Event Op S)}

/-- The operations that cost something are at least as many as the measure went
down. -/
theorem Runs.potential (h : Runs M A p s out s' t) (φ : S → Nat) (costs : Op → Bool)
    (hstep : ∀ op s r s', Responds M A s op r s' →
      φ s ≤ φ s' + if costs op then 1 else 0) :
    φ s ≤ φ s' + t.countP fun e => costs e.op := by
  induction h with
  | pure | throw | killed => simp
  | @call op next s s₁ s' r out t hresp hnext ih =>
      have hfirst := hstep op s r s₁ hresp
      rw [List.countP_cons]
      show φ s ≤ φ s' + ((t.countP fun e => costs e.op) + if costs op then 1 else 0)
      omega

end Potential

/-- A sum over parts goes down by what one part goes down, where the others stay. -/
theorem sum_map_le {α κ : Type} {key : α → κ} {f g : α → Nat} {xs : List α} {k : κ} {c : Nat}
    (hnodup : (xs.map key).Nodup) (hother : ∀ x ∈ xs, key x ≠ k → f x = g x)
    (hone : ∀ x ∈ xs, key x = k → f x ≤ g x + c) : (xs.map f).sum ≤ (xs.map g).sum + c := by
  induction xs with
  | nil => simp
  | cons x xs ih =>
      simp only [List.map_cons, List.nodup_cons] at hnodup
      have hrest := ih hnodup.2 (fun y hy => hother y (by simp [hy]))
        fun y hy => hone y (by simp [hy])
      simp only [List.map_cons, List.sum_cons]
      by_cases hx : key x = k
      · have hsame : xs.map f = xs.map g := by
          refine List.map_congr_left fun y hy => hother y (by simp [hy]) fun hk => ?_
          exact hnodup.1 (List.mem_map.mpr ⟨y, hy, hk.trans hx.symm⟩)
        have hfirst := hone x (by simp) hx
        rw [hsame]
        omega
      · have hfirst := hother x (by simp) hx
        omega

end KataDeviceProvisioner.Verified
