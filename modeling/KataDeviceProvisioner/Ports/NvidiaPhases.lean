import KataDeviceProvisioner.Ports.NvidiaRuns

/-!
# The phases of a mode change

A run of `Nvidia.apply` opens and reads the board, then works through the
planned writes, then through the resets, and reads the board again.  `BoardRun`
lists where such a run can end, with the scripts it has worked through by then,
and `apply_boardRun` shows that every run is one of these.
-/

namespace KataDeviceProvisioner.Ports

open KataDeviceProvisioner.Verified

/-- The operation that carries out one write. -/
def Handle.writeOp (handle : Handle) : Write → Op
  | .cc mode => .setCc handle.address mode
  | .ppcie mode => .setPpcie handle mode

@[simp] theorem Handle.writeOp_kind (handle : Handle) (w : Write) :
    (handle.writeOp w).kind = .write := by
  cases w <;> rfl

@[simp] theorem Handle.writeOp_device (handle : Handle) (w : Write) :
    (handle.writeOp w).device = some handle.address := by
  cases w <;> rfl

@[simp] theorem Handle.reset_kind (handle : Handle) : (Op.reset handle).kind = .reset := rfl

@[simp] theorem Handle.reset_device (handle : Handle) :
    (Op.reset handle).device = some handle.address := rfl

namespace Nvidia

variable {plat : Platform} {A : Adversary} {node node' : Node} {t : List (Event Op Node)}
  {states : List DeviceState} {mode : Mode}

/-! ## The two scripts -/

/-- The planned writes of a board. -/
def writeOps (plans : List Planned) : List Op :=
  plans.flatMap fun plan => plan.writes.map plan.handle.writeOp

/-- The resets of a board. -/
def resetOps (plans : List Planned) : List Op :=
  (pending plans).map fun plan => .reset plan.handle

/-- Every planned write is one its device has a knob for. -/
def AllAccepted (plat : Platform) (plans : List Planned) : Prop :=
  ∀ plan ∈ plans, ∀ w ∈ plan.writes, plan.handle.Accepts plat.gpuSupportsPpcie w

theorem allAccepted_plansFor (board : String → Firmware) :
    AllAccepted plat (plansFor plat board mode states) := by
  intro plan hplan w hw
  rw [(mem_plansFor.mp hplan).2] at hw
  exact accepts_of_mem_writesFor _ _ _ hw

/-- The plan of a device that is in the mode already is empty, and only its. -/
theorem writes_eq_nil_iff {board : String → Firmware} {plan : Planned}
    (hplan : plan ∈ plansFor plat board mode states) :
    plan.writes = [] ↔
      plat.view plan.handle (board plan.handle.address).knob =
        plat.view plan.handle mode.targets := by
  rw [(mem_plansFor.mp hplan).2]
  exact writesFor_eq_nil_iff _ _ _ _

theorem mem_pending {plans : List Planned} {plan : Planned} :
    plan ∈ pending plans ↔ plan ∈ plans ∧ plan.writes ≠ [] := by
  simp [pending]

/-- Every operation of the writing phase is a write to an open device that aims
for the mode. -/
theorem mem_writeOps {board : String → Firmware} {op : Op}
    (hop : op ∈ writeOps (plansFor plat board mode states)) :
    ∃ plan ∈ plansFor plat board mode states, ∃ w ∈ plan.writes,
      op = plan.handle.writeOp w ∧ mode.Aims w := by
  obtain ⟨plan, hplan, hmem⟩ := List.mem_flatMap.mp hop
  obtain ⟨w, hw, rfl⟩ := List.mem_map.mp hmem
  have hplanned := hw
  rw [(mem_plansFor.mp hplan).2] at hplanned
  exact ⟨plan, hplan, w, hw, rfl, aims_of_mem_writesFor hplanned⟩

theorem mem_resetOps {plans : List Planned} {op : Op} (hop : op ∈ resetOps plans) :
    ∃ plan ∈ plans, plan.writes ≠ [] ∧ op = .reset plan.handle := by
  obtain ⟨plan, hplan, rfl⟩ := List.mem_map.mp hop
  obtain ⟨hmem, hne⟩ := mem_pending.mp hplan
  exact ⟨plan, hmem, hne, rfl⟩

/-- A write its device has a knob for is issued as it is. -/
private theorem writeFor_scripted {item : Planned × Write} {out : Outcome Error Unit}
    (hacc : item.1.handle.Accepts plat.gpuSupportsPpcie item.2)
    (h : Runs plat.machine A (writeFor mode item) node out node' t) :
    Scripted plat.machine A [item.1.handle.writeOp item.2] node out node' t := by
  obtain ⟨⟨state, handle, writes⟩, w⟩ := item
  obtain ⟨out₀, hrun, rfl⟩ := runs_mapError_iff.mp h
  rw [← Outcome.forget_unit (Outcome.mapError _ out₀)]
  cases handle with
  | gpu address => cases w <;> exact scripted_perform _ hrun
  | switch address =>
      cases w with
      | cc => exact hacc.elim
      | ppcie => exact scripted_perform _ hrun

private theorem resetFor_scripted {plan : Planned} {out : Outcome Error Unit}
    (h : Runs plat.machine A (resetFor mode plan) node out node' t) :
    Scripted plat.machine A [.reset plan.handle] node out node' t := by
  obtain ⟨out₀, hrun, rfl⟩ := runs_mapError_iff.mp h
  rw [← Outcome.forget_unit (Outcome.mapError _ out₀)]
  exact scripted_perform _ hrun

/-- The writing loops work through the planned writes of the board. -/
theorem writes_scripted {plans : List Planned} {out : Outcome Error Unit}
    (hacc : AllAccepted plat plans)
    (h : Runs plat.machine A (Program.forEach (fun plan =>
      Program.forEach (fun w => writeFor mode (plan, w)) plan.writes) (pending plans))
      node out node' t) :
    Scripted plat.machine A (writeOps plans) node out node' t := by
  have hloop : Program.forEach (fun plan =>
      Program.forEach (fun w => writeFor mode (plan, w)) plan.writes) (pending plans) =
      Program.forEach (writeFor mode)
        ((pending plans).flatMap fun plan => plan.writes.map fun w => (plan, w)) := by
    rw [Program.forEach_flatMap]
    simp only [Program.forEach_map]
  have hops : ((pending plans).flatMap fun plan => plan.writes.map fun w => (plan, w)).map
      (fun item => item.1.handle.writeOp item.2) = writeOps plans := by
    rw [List.map_flatMap]
    simp only [List.map_map, Function.comp_def]
    refine flatMap_filter_of_eq_nil fun plan _ hnone => ?_
    have hnil : plan.writes = [] := by simpa using hnone
    rw [hnil, List.map_nil]
  rw [hloop] at h
  rw [← hops]
  refine scripted_of_forEach (fun item hitem _ _ _ _ hrun => ?_) h
  obtain ⟨plan, hplan, hmem⟩ := List.mem_flatMap.mp hitem
  obtain ⟨w, hw, rfl⟩ := List.mem_map.mp hmem
  exact writeFor_scripted (hacc plan (mem_pending.mp hplan).1 w hw) hrun

theorem resets_scripted {plans : List Planned} {out : Outcome Error Unit}
    (h : Runs plat.machine A (Program.forEach (resetFor mode) (pending plans))
      node out node' t) :
    Scripted plat.machine A (resetOps plans) node out node' t :=
  scripted_of_forEach (fun _ _ _ _ _ _ hrun => resetFor_scripted hrun) h

/-! ## Reading back -/

/-- The knobs of an open device are where `mode` wants them. -/
def AtTargets (plat : Platform) (mode : Mode) (handle : Handle) (knobs : Knobs) : Prop :=
  plat.view handle knobs = plat.view handle mode.targets

/-- Every knob the device has is where `mode` wants it. -/
def KnobsMatch (mode : Mode) (knobs : Option CcMode × Option PpcieMode) : Prop :=
  (∀ cc, knobs.1 = some cc → cc = mode.ccTarget) ∧
    ∀ ppcie, knobs.2 = some ppcie → ppcie = mode.ppcieTarget

theorem knobsMatch_view {handle : Handle} {knobs : Knobs} :
    KnobsMatch mode (plat.view handle knobs) ↔ AtTargets plat mode handle knobs := by
  unfold KnobsMatch AtTargets Platform.view
  cases handle with
  | gpu address =>
      by_cases hs : plat.gpuSupportsPpcie address = true
      · simp [Handle.view, hs, Mode.targets]
      · simp [Handle.view, hs, Mode.targets]
  | switch address => simp [Handle.view, Mode.targets]

/-- Verifying is one more read, and a comparison that refuses what does not
match. -/
theorem verify_eq (plat : Platform) (mode : Mode) (handle : Handle)
    (state : DeviceState) :
    ∃ check : Option CcMode × Option PpcieMode → Except Error Unit,
      verify plat handle state mode =
        ((handle.current plat).mapError (Error.context (state.address ++ ": verify mode")) >>=
          fun knobs => Program.ofExcept (check knobs)) ∧
      ∀ knobs, check knobs = .ok () ↔ KnobsMatch mode knobs := by
  have hcontinues : ∃ next : Option CcMode × Option PpcieMode → Provision Unit,
      verify plat handle state mode =
        ((handle.current plat).mapError (Error.context (state.address ++ ": verify mode")) >>=
          next) ∧
      ∀ knobs, ∃ answer : Except Error Unit,
        next knobs = Program.ofExcept answer ∧ (answer = .ok () ↔ KnobsMatch mode knobs) := by
    refine ⟨_, rfl, fun knobs => ?_⟩
    obtain ⟨cc, ppcie⟩ := knobs
    cases cc with
    | none =>
        cases ppcie with
        | none => exact ⟨.ok (), rfl, by simp [KnobsMatch]⟩
        | some ppcie =>
            by_cases hp : ppcie = mode.ppcieTarget
            · refine ⟨.ok (), ?_, by simp [KnobsMatch, hp]⟩
              dsimp only
              rw [if_neg (not_not_intro hp)]
              rfl
            · refine ⟨.error ?_, ?refused, ?mismatch⟩
              case refused =>
                dsimp only
                rw [if_pos hp]
                rfl
              case mismatch => simp [KnobsMatch, hp]
    | some cc =>
        by_cases hc : cc = mode.ccTarget
        · cases ppcie with
          | none =>
              refine ⟨.ok (), ?_, by simp [KnobsMatch, hc]⟩
              dsimp only
              rw [if_neg (not_not_intro hc)]
              rfl
          | some ppcie =>
              by_cases hp : ppcie = mode.ppcieTarget
              · refine ⟨.ok (), ?_, by simp [KnobsMatch, hc, hp]⟩
                dsimp only
                rw [if_neg (not_not_intro hc), if_neg (not_not_intro hp)]
                rfl
              · refine ⟨.error ?_, ?refused, ?mismatch⟩
                case refused =>
                  dsimp only
                  rw [if_neg (not_not_intro hc), if_pos hp]
                  rfl
                case mismatch => simp [KnobsMatch, hp]
        · refine ⟨.error ?_, ?refused, ?mismatch⟩
          case refused =>
            dsimp only
            rw [if_pos hc]
            rfl
          case mismatch => simp [KnobsMatch, hc]
  obtain ⟨next, heq, hnext⟩ := hcontinues
  choose check hcheck using hnext
  refine ⟨check, ?_, fun knobs => (hcheck knobs).2⟩
  rw [heq, funext fun knobs => (hcheck knobs).1]

theorem write_uses (handle : Handle) (w : Write) :
    (handle.write w).Uses fun op => op.device = some handle.address := by
  cases handle with
  | gpu address => cases w <;> exact uses_perform rfl
  | switch address =>
      cases w with
      | cc => trivial
      | ppcie => exact uses_perform rfl

theorem verify_uses (handle : Handle) (state : DeviceState) :
    (verify plat handle state mode).Uses (ProbesAt handle.address) := by
  obtain ⟨check, heq, _⟩ := verify_eq plat mode handle state
  rw [heq]
  exact uses_bind (uses_mapError (current_uses handle)) fun knobs => uses_ofExcept _

/-- Verifying goes through only where the device reads back the mode. -/
theorem verify_done {handle : Handle} {state : DeviceState}
    (h : Runs plat.machine A (verify plat handle state mode) node (.done ()) node' t) :
    AtTargets plat mode handle (node.board handle.address).knob := by
  obtain ⟨check, heq, hcheck⟩ := verify_eq plat mode handle state
  rw [heq] at h
  obtain ⟨knobs, s₁, t₁, t₂, hcurrent, hret, _⟩ := runs_bind_done.mp h
  obtain ⟨rfl, _⟩ := current_done (runs_mapError_done.mp hcurrent)
  exact knobsMatch_view.mp ((hcheck _).mp (runs_ofExcept_done.mp hret).1)

/-- Verifying a device that is in the mode goes through when nothing
interferes. -/
theorem verify_absent {handle : Handle} {state : DeviceState} {out : Outcome Error Unit}
    (hat : AtTargets plat mode handle (node.board handle.address).knob)
    (h : Runs plat.machine .absent (verify plat handle state mode) node out node' t) :
    out = .done () := by
  obtain ⟨check, heq, hcheck⟩ := verify_eq plat mode handle state
  rw [heq] at h
  obtain ⟨knobs, s₁, t₁, t₂, hcurrent, hret, _⟩ | ⟨why, rfl, hcurrent⟩ := runs_bind_iff.mp h
  · obtain ⟨rfl, _⟩ := current_done (runs_mapError_done.mp hcurrent)
    rw [(hcheck _).mpr (knobsMatch_view.mpr hat)] at hret
    exact (runs_pure_iff.mp hret).1
  · obtain ⟨knobs, hdone⟩ := sure_mapError (current_sure handle) _ _ _ _ hcurrent
    cases hdone

/-- Every plan of the board reads back the mode. -/
def AllAtTargets (plat : Platform) (mode : Mode) (plans : List Planned) (node : Node) : Prop :=
  ∀ plan ∈ plans, AtTargets plat mode plan.handle (node.board plan.handle.address).knob

/-- The last loop only reads, and goes through only on a board in the mode. -/
theorem verifies_run {board : String → Firmware} {out : Outcome Error Unit}
    (h : Runs plat.machine A (Program.forEach
      (fun plan => verify plat plan.handle plan.state mode) (plansFor plat board mode states))
      node out node' t) :
    node' = node ∧ (∀ e ∈ t, ProbesBoard states e.op ∧ e.before = node) ∧
      (out = .done () → AllAtTargets plat mode (plansFor plat board mode states) node) := by
  have hreads : (Program.forEach
      (fun plan => verify plat plan.handle plan.state mode)
      (plansFor plat board mode states)).Uses (ProbesBoard states) := by
    refine uses_forEach fun plan hplan => (verify_uses plan.handle plan.state).mono ?_
    intro op hop
    obtain ⟨hopen, _⟩ := mem_plansFor.mp hplan
    refine ⟨plan.state, plan.handle, hopen, ?_⟩
    rw [← Handle.of_address hopen.2]
    exact hop
  obtain ⟨hnode, hbefore⟩ := node_eq_of_quiet h hreads fun _ => ProbesBoard.quiet
  refine ⟨hnode, fun e he => ⟨h.events_of_uses hreads e he, hbefore e he⟩, ?_⟩
  intro hout
  rw [hout] at h
  refine (runs_forEach_done (I := fun s => s = node) (Q := fun plan =>
      AtTargets plat mode plan.handle (node.board plan.handle.address).knob)
    (fun plan _ s s' t hs hr => ?_) rfl h).2
  subst hs
  obtain ⟨hquiet, _⟩ := node_eq_of_quiet hr (verify_uses plan.handle plan.state)
    fun _ => ProbesAt.quiet
  exact ⟨hquiet, verify_done hr⟩

/-- On a board in the mode the last loop goes through when nothing
interferes. -/
theorem verifies_absent {plans : List Planned} {out : Outcome Error Unit}
    (hat : AllAtTargets plat mode plans node)
    (h : Runs plat.machine .absent (Program.forEach
      (fun plan => verify plat plan.handle plan.state mode) plans) node out node' t) :
    out = .done () := by
  induction plans generalizing t with
  | nil => exact (runs_pure_iff.mp h).1
  | cons plan plans ih =>
      have hplan := hat plan List.mem_cons_self
      obtain ⟨_, s₁, t₁, t₂, hx, hxs, rfl⟩ | ⟨why, rfl, hx⟩ := runs_bind_iff.mp h
      · obtain ⟨rfl, _⟩ := node_eq_of_quiet hx (verify_uses plan.handle plan.state)
          fun _ => ProbesAt.quiet
        exact ih (fun plan' hplan' => hat plan' (List.mem_cons_of_mem plan hplan')) hxs
      · cases verify_absent hplan hx

/-! ## Where a run can end -/

/-- The runs of a mode change, by the phase they ended in. -/
inductive BoardRun (plat : Platform) (A : Adversary) (states : List DeviceState) (mode : Mode)
    (node : Node) : Outcome Error (List (String × Transition)) → Node → List (Event Op Node) →
    Prop where
  | planning {why : Stop Error} {t₀ : List (Event Op Node)}
      (hplan : Runs plat.machine A (planBoard plat states mode) node (.stopped why) node t₀) :
      BoardRun plat A states mode node (.stopped why) node t₀
  | writing {why : Stop Error} {s₁ : Node} {t₀ t₁ : List (Event Op Node)}
      (hplan : Runs plat.machine A (planBoard plat states mode) node
        (.done (plansFor plat node.board mode states)) node t₀)
      (hwrite : Scripted plat.machine A (writeOps (plansFor plat node.board mode states)) node
        (.stopped why) s₁ t₁) :
      BoardRun plat A states mode node (.stopped why) s₁ (t₀ ++ t₁)
  | resetting {why : Stop Error} {s₁ s₂ : Node} {t₀ t₁ t₂ : List (Event Op Node)}
      (hplan : Runs plat.machine A (planBoard plat states mode) node
        (.done (plansFor plat node.board mode states)) node t₀)
      (hwrite : Scripted plat.machine A (writeOps (plansFor plat node.board mode states)) node
        (.done ()) s₁ t₁)
      (hreset : Scripted plat.machine A (resetOps (plansFor plat node.board mode states)) s₁
        (.stopped why) s₂ t₂) :
      BoardRun plat A states mode node (.stopped why) s₂ (t₀ ++ (t₁ ++ t₂))
  | verifying {out : Outcome Error Unit} {s₁ s₂ : Node} {t₀ t₁ t₂ t₃ : List (Event Op Node)}
      (hplan : Runs plat.machine A (planBoard plat states mode) node
        (.done (plansFor plat node.board mode states)) node t₀)
      (hwrite : Scripted plat.machine A (writeOps (plansFor plat node.board mode states)) node
        (.done ()) s₁ t₁)
      (hreset : Scripted plat.machine A (resetOps (plansFor plat node.board mode states)) s₁
        (.done ()) s₂ t₂)
      (hverify : Runs plat.machine A (Program.forEach
        (fun plan => verify plat plan.handle plan.state mode)
        (plansFor plat node.board mode states)) s₂ out s₂ t₃) :
      BoardRun plat A states mode node
        (out.map fun _ => (plansFor plat node.board mode states).map outcomeOf) s₂
        (t₀ ++ (t₁ ++ (t₂ ++ t₃)))

/-- Every run of a mode change ends in one of its phases. -/
theorem apply_boardRun {out : Outcome Error (List (String × Transition))}
    (h : Runs plat.machine A (apply plat states mode) node out node' t) :
    BoardRun plat A states mode node out node' t := by
  obtain ⟨plans, s₀, t₀, u₀, hplan, hrest₀, rfl⟩ | ⟨why, rfl, hplan⟩ := runs_bind_iff.mp h
  · obtain ⟨rfl, _⟩ := planBoard_probes hplan
    obtain rfl := planBoard_done hplan
    obtain ⟨_, s₁, t₁, u₁, hwrite, hrest₁, rfl⟩ | ⟨why, rfl, hwrite⟩ := runs_bind_iff.mp hrest₀
    · have hwrites := writes_scripted (allAccepted_plansFor _) hwrite
      obtain ⟨_, s₂, t₂, u₂, hreset, hrest₂, rfl⟩ | ⟨why, rfl, hreset⟩ :=
        runs_bind_iff.mp hrest₁
      · have hresets := resets_scripted hreset
        obtain ⟨_, s₃, t₃, u₃, hverify, hret, rfl⟩ | ⟨why, rfl, hverify⟩ :=
          runs_bind_iff.mp hrest₂
        · obtain ⟨rfl, _⟩ := verifies_run hverify
          obtain ⟨rfl, rfl, rfl⟩ := runs_pure_iff.mp hret
          rw [List.append_nil]
          exact .verifying hplan hwrites hresets hverify
        · obtain ⟨rfl, _⟩ := verifies_run hverify
          exact .verifying hplan hwrites hresets hverify
      · exact .resetting hplan hwrites (resets_scripted hreset)
    · exact .writing hplan (writes_scripted (allAccepted_plansFor _) hwrite)
  · obtain ⟨rfl, _⟩ := planBoard_probes hplan
    exact .planning hplan

end Nvidia

end KataDeviceProvisioner.Ports
