import KataDeviceProvisioner.Ports.NvidiaDiscipline

/-!
# A mode change nothing interferes with

The planner's case split is written against a side effect of the firmware, and
the executor, the outcome list and the verifier each work out the targets on
their own.  `apply_converges` says that they agree on every board: the run
completes, the board ends in the mode, and no planned write was wasted.
-/

namespace KataDeviceProvisioner.Ports

open KataDeviceProvisioner.Verified

/-- The knob a write is for holds what was written. -/
def Write.Holds : Write → Knobs → Prop
  | .cc mode, knobs => knobs.cc = mode
  | .ppcie mode, knobs => knobs.ppcie = mode

theorem Write.holds_write (w : Write) (knobs : Knobs) : w.Holds (knobs.write w) := by
  cases w with
  | cc mode => exact Knobs.setCc_cc knobs mode
  | ppcie mode => exact Knobs.setPpcie_ppcie knobs mode

/-- Of two writes that aim for the same mode, neither undoes the other. -/
theorem Write.Holds.write {mode : Mode} {w w' : Write} {knobs : Knobs} (hw : mode.Aims w)
    (hw' : mode.Aims w') (h : w.Holds knobs) : w.Holds (knobs.write w') := by
  rcases hw with rfl | rfl
  · exact hw'.cc_stays h
  · exact hw'.ppcie_stays h

theorem Handle.writeOp_inj {handle handle' : Handle} {w w' : Write}
    (h : handle.writeOp w = handle'.writeOp w') :
    w = w' ∧ handle.address = handle'.address := by
  cases w with
  | cc mode =>
      cases w' with
      | cc mode' =>
          obtain ⟨haddress, rfl⟩ := Op.setCc.inj h
          exact ⟨rfl, haddress⟩
      | ppcie mode' => cases h
  | ppcie mode =>
      cases w' with
      | cc mode' => cases h
      | ppcie mode' =>
          obtain ⟨rfl, rfl⟩ := Op.setPpcie.inj h
          exact ⟨rfl, rfl⟩

namespace Nvidia

variable {plat : Platform} {A : Adversary} {node node' : Node} {t : List (Event Op Node)}
  {states : List DeviceState} {mode : Mode}

/-! ## Nothing is undone -/

/-- Whatever `op` wrote still holds. -/
def StillHolds (op : Op) (s : Node) : Prop :=
  ∀ handle w, op = Handle.writeOp handle w → w.Holds (s.board handle.address).knob

/-- In the writing phase what was written holds from then on. -/
theorem writing_holds {out : Outcome Error Unit} {s₁ : Node}
    (h : Scripted plat.machine A (writeOps (plansFor plat node.board mode states)) node out
      s₁ t) :
    t.Pairwise (fun e e' => StillHolds e.op e'.before) ∧
      (out = .done () →
        ∀ op ∈ writeOps (plansFor plat node.board mode states), StillHolds op s₁) := by
  -- Only a write that aims for the mode is safe from the others.
  obtain ⟨hpair, hdone⟩ := h.established (I := fun op s => ∀ handle w,
      op = Handle.writeOp handle w → mode.Aims w ∧ w.Holds (s.board handle.address).knob)
    (fun op hop s handle w heq => by
      obtain ⟨plan, _, w', _, hop', haims⟩ := mem_writeOps hop
      obtain ⟨rfl, _⟩ := Handle.writeOp_inj (heq.symm.trans hop')
      rw [heq, effect_writeOp]
      refine ⟨haims, ?_⟩
      simpa [Platform.writeKnob] using w.holds_write _)
    (fun op op' hop' s r s' hs hresp handle w heq => by
      obtain ⟨plan, _, w', _, rfl, haims'⟩ := mem_writeOps hop'
      obtain ⟨haims, hholds⟩ := hs handle w heq
      exact ⟨haims, responds_write_keeps (P := fun device => w.Holds device.knob)
        handle.address (fun device hdevice => hdevice.write haims haims') hholds hresp⟩)
  exact ⟨hpair.imp fun he handle w heq => (he handle w heq).2,
    fun hout op hop handle w heq => (hdone hout op hop handle w heq).2⟩

theorem stillHolds_of_not_write {op : Op} (hop : op.kind ≠ .write) (s : Node) :
    StillHolds op s := by
  intro handle w heq
  exact absurd (heq ▸ Handle.writeOp_kind handle w) hop

theorem StillHolds.of_knobs {op : Op} {s s' : Node} (h : StillHolds op s)
    (hknobs : ∀ address, (s'.board address).knob = (s.board address).knob) :
    StillHolds op s' := by
  intro handle w heq
  rw [hknobs]
  exact h handle w heq

/-! ## The run -/

/-- A run that nothing interferes with gets through all of its phases. -/
theorem boardRun_absent {out : Outcome Error (List (String × Transition))}
    (h : BoardRun plat .absent states mode node out node' t) :
    ∃ s₁ t₀ t₁ t₂ t₃,
      t = t₀ ++ (t₁ ++ (t₂ ++ t₃)) ∧
      out = .done ((plansFor plat node.board mode states).map outcomeOf) ∧
      (∀ e ∈ t₀, ProbesBoard states e.op) ∧
      Scripted plat.machine .absent (writeOps (plansFor plat node.board mode states)) node
        (.done ()) s₁ t₁ ∧
      Scripted plat.machine .absent (resetOps (plansFor plat node.board mode states)) s₁
        (.done ()) node' t₂ ∧
      ∀ e ∈ t₃, ProbesBoard states e.op ∧ e.before = node' := by
  have hwrites : ∀ op ∈ writeOps (plansFor plat node.board mode states), ∀ s,
      ∃ a, (plat.machine.answer s op).1 = .ok a := by
    intro op hop s
    obtain ⟨plan, _, w, _, rfl, _⟩ := mem_writeOps hop
    cases w <;> exact ⟨(), rfl⟩
  have hresets : ∀ op ∈ resetOps (plansFor plat node.board mode states), ∀ s,
      ∃ a, (plat.machine.answer s op).1 = .ok a := by
    intro op hop s
    obtain ⟨plan, _, _, rfl⟩ := mem_resetOps hop
    exact ⟨(), rfl⟩
  cases h with
  | planning hplan =>
      obtain ⟨plans, hdone⟩ := planBoard_sure states mode _ _ _ _ hplan
      cases hdone
  | writing hplan hwrite => cases hwrite.absent_done hwrites
  | resetting hplan hwrite hreset => cases hreset.absent_done hresets
  | @verifying out s₁ s₂ t₀ t₁ t₂ t₃ hplan hwrite hreset hverify =>
      have hat : AllAtTargets plat mode (plansFor plat node.board mode states) node' := by
        intro plan hplan
        rw [AtTargets, (resetting_knob hreset).1]
        exact writing_done hwrite plan hplan
      rw [verifies_absent hat hverify]
      exact ⟨s₁, t₀, t₁, t₂, t₃, rfl, rfl, fun e he => ((planBoard_probes hplan).2 e he).1,
        hwrite, hreset, fun e he => (verifies_run hverify).2.1 e he⟩

/-- What a run that nothing interferes with does to a board. -/
structure Converges (plat : Platform) (states : List DeviceState) (mode : Mode) (node : Node)
    (run : Run Op Error Residue Node (List (String × Transition))) : Prop where
  /-- The run completes, with one entry for each openable device in order. -/
  completed : run.outcome = .done (states.filterMap fun state =>
    (Handle.of state).map fun handle =>
      (state.address,
        if plat.view handle (node.board state.address).knob = plat.view handle mode.targets then
          .alreadySet
        else .applied))
  at_targets : ∀ state handle, Openable states state handle →
    AtTargets plat mode handle (run.state.board state.address).knob
  /-- What a write set holds at every later event, and in the end. -/
  not_undone : run.events.Pairwise (fun e e' => StillHolds e.op e'.before) ∧
    ∀ e ∈ run.events, StillHolds e.op run.state
  /-- A switch is never sent a CC mode, a GPU without PPCIE never a PPCIE mode. -/
  accepted : AllAccepted plat (plansFor plat node.board mode states)
  writes_planned : ∀ e ∈ run.events, e.op.kind = .write →
    ∃ plan ∈ plansFor plat node.board mode states, ∃ w ∈ plan.writes,
      e.op = plan.handle.writeOp w

/-- The outcome list, from the knobs the board was found with. -/
theorem outcomes_eq (board : String → Firmware) :
    (plansFor plat board mode states).map outcomeOf =
      states.filterMap fun state => (Handle.of state).map fun handle =>
        (state.address,
          if plat.view handle (board state.address).knob = plat.view handle mode.targets then
            .alreadySet
          else .applied) := by
  rw [plansFor, List.map_filterMap]
  refine List.filterMap_congr fun state _ => ?_
  cases hof : Handle.of state with
  | none => simp [planOf, hof]
  | some handle =>
      have hempty : (writesFor (plat.view handle (board state.address).knob).1
          (plat.view handle (board state.address).knob).2 mode).isEmpty = true ↔
          plat.view handle (board state.address).knob = plat.view handle mode.targets := by
        rw [List.isEmpty_iff]
        exact writesFor_eq_nil_iff _ _ _ _
      simp only [planOf, hof, Option.map_some, outcomeOf]
      by_cases hview :
          plat.view handle (board state.address).knob = plat.view handle mode.targets
      · rw [if_pos (hempty.mpr hview), if_pos hview]
      · rw [if_neg fun h => hview (hempty.mp h), if_neg hview]

/-- Where all the writes stand together, none is undone if what they set holds
among them and after them. -/
private theorem not_undone_of_writing {t₀ t₁ t₂ : List (Event Op Node)} {s : Node}
    (hbefore : ∀ e ∈ t₀, e.op.kind ≠ .write) (hafter : ∀ e ∈ t₂, e.op.kind ≠ .write)
    (hwriting : t₁.Pairwise fun e e' => StillHolds e.op e'.before)
    (hlater : ∀ e ∈ t₁, (∀ e' ∈ t₂, StillHolds e.op e'.before) ∧ StillHolds e.op s) :
    (t₀ ++ (t₁ ++ t₂)).Pairwise (fun e e' => StillHolds e.op e'.before) ∧
      ∀ e ∈ t₀ ++ (t₁ ++ t₂), StillHolds e.op s := by
  have hnever : ∀ {t : List (Event Op Node)}, (∀ e ∈ t, e.op.kind ≠ .write) →
      t.Pairwise fun e e' => StillHolds e.op e'.before :=
    fun h => List.pairwise_of_forall_mem_list fun e he _ _ => stillHolds_of_not_write (h e he) _
  constructor
  · rw [List.pairwise_append, List.pairwise_append]
    exact ⟨hnever hbefore, ⟨hwriting, hnever hafter, fun e he => (hlater e he).1⟩,
      fun e he _ _ => stillHolds_of_not_write (hbefore e he) _⟩
  · intro e he
    rcases List.mem_append.mp he with he | he
    · exact stillHolds_of_not_write (hbefore e he) _
    rcases List.mem_append.mp he with he | he
    · exact (hlater e he).2
    · exact stillHolds_of_not_write (hafter e he) _

/-- Every board converges when nothing interferes, from whatever knobs it was
found with. -/
theorem apply_converges (plat : Platform) (states : List DeviceState) (mode : Mode)
    (node : Node) :
    Converges plat states mode node
      (exec plat.machine (apply plat states mode) [] node) := by
  have hboard := apply_boardRun (exec_runs_absent plat.machine (apply plat states mode) node)
  obtain ⟨s₁, t₀, t₁, t₂, t₃, htrace, hout, hprobe, hwrite, hreset, hverify⟩ :=
    boardRun_absent hboard
  obtain ⟨hknobs, hbefore⟩ := resetting_knob hreset
  obtain ⟨hpair, hholds⟩ := writing_holds hwrite
  have hmem : ∀ e ∈ t₁, e.op ∈ writeOps (plansFor plat node.board mode states) :=
    fun e he => hwrite.ops_isPrefix.subset (List.mem_map_of_mem he)
  have hafter : ∀ e ∈ t₂ ++ t₃, e.op.kind ≠ .write := by
    intro e he
    rcases List.mem_append.mp he with he | he
    · obtain ⟨plan, _, _, hop⟩ :=
        mem_resetOps (hreset.ops_isPrefix.subset (List.mem_map_of_mem he))
      simp [hop]
    · exact (hverify e he).1.silent.1
  -- From the end of the writing phase on, no knob changes.
  have hsame : ∀ e ∈ t₂ ++ t₃, ∀ address,
      (e.before.board address).knob = (s₁.board address).knob := by
    intro e he
    rcases List.mem_append.mp he with he | he
    · exact hbefore e he
    · rw [(hverify e he).2]
      exact hknobs
  have hlater : ∀ e ∈ t₁, ∀ s, (∀ address, (s.board address).knob = (s₁.board address).knob) →
      StillHolds e.op s :=
    fun e he s hs => (hholds rfl e.op (hmem e he)).of_knobs hs
  refine
    { completed := by rw [hout, outcomes_eq]
      at_targets := ?_
      not_undone := by
        rw [htrace]
        exact not_undone_of_writing (fun e he => (hprobe e he).silent.1) hafter hpair
          fun e he => ⟨fun e' he' => hlater e he _ (hsame e' he'), hlater e he _ hknobs⟩
      accepted := allAccepted_plansFor _
      writes_planned := ?_ }
  · intro state handle hopen
    have hplanned : ∃ plan ∈ plansFor plat node.board mode states,
        plan.state = state ∧ plan.handle = handle := hopen.planned
    obtain ⟨plan, hplan, rfl, rfl⟩ := hplanned
    rw [AtTargets, hknobs, ← Handle.of_address hopen.2]
    exact writing_done hwrite plan hplan
  · intro e he hkind
    obtain ⟨u₀, u₁, u₂, u₃, htrace', h⟩ := hboard.phased
    rw [htrace'] at he
    obtain ⟨plan, hplan, w, hw, hop, _⟩ :=
      mem_writeOps (h.writing.subset (List.mem_map_of_mem (h.mem_writing he hkind)))
    exact ⟨plan, hplan, w, hw, hop⟩

end Nvidia

end KataDeviceProvisioner.Ports
