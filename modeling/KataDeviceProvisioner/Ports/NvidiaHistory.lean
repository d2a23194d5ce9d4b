import KataDeviceProvisioner.Ports.NvidiaConverge

/-!
# Histories of interrupted mode changes

A board is changed again and again, and any of the runs can fail or be killed
anywhere.  The planner reads knobs, never what a device runs, so a run that died
between the writes and the resets leaves a device the next run takes for
converged.  `history_converges_iff` says exactly when the last run of a history
brings the board to its mode.
-/

namespace KataDeviceProvisioner.Ports.Nvidia

open KataDeviceProvisioner.Verified

variable {plat : Platform} {A : Adversary} {node node' : Node} {t : List (Event Op Node)}
  {states : List DeviceState} {mode : Mode}

/-! ## Histories -/

/-- One run of `Nvidia.apply`: the mode it is started for and what befalls it. -/
structure Attempt where
  mode : Mode
  verdicts : List (Verdict Error Residue)

/-- What one run comes to. -/
def Attempt.run (plat : Platform) (states : List DeviceState) (attempt : Attempt)
    (node : Node) : Run Op Error Residue Node (List (String × Transition)) :=
  exec plat.machine (apply plat states attempt.mode) attempt.verdicts node

/-- The node after a history of runs. -/
def after (plat : Platform) (states : List DeviceState) (history : List Attempt)
    (node : Node) : Node :=
  history.foldl (fun node attempt => (attempt.run plat states node).state) node

theorem after_append (history : List Attempt) (last : Attempt) (node : Node) :
    after plat states (history ++ [last]) node =
      (last.run plat states (after plat states history node)).state := by
  unfold after
  rw [List.foldl_append, List.foldl_cons, List.foldl_nil]

/-- The whole board has its knobs at the mode, and runs it. -/
def InMode (plat : Platform) (states : List DeviceState) (mode : Mode) (node : Node) : Prop :=
  ∀ state handle, Openable states state handle →
    AtTargets plat mode handle (node.board state.address).knob ∧
      AtTargets plat mode handle (node.board state.address).active

/-- Every device runs what its knobs hold. -/
def Settled (plat : Platform) (states : List DeviceState) (node : Node) : Prop :=
  ∀ state handle, Openable states state handle →
    plat.view handle (node.board state.address).active =
      plat.view handle (node.board state.address).knob

/-! ## One run -/

/-- A device none of the operations is on stays as it is. -/
theorem scripted_board {ops : List Op} {out : Outcome Error Unit} {address : String}
    (h : Scripted plat.machine A ops node out node' t)
    (hnone : ∀ op ∈ ops, op.device ≠ some address) :
    node'.board address = node.board address := by
  refine (h.invariant (I := fun s => s.board address = node.board address)
    (fun op hop s r s' hs hresp => ?_) rfl).1
  rw [responds_board address (.inl (hnone op hop)) hresp, hs]

/-- No operation of a mode change is on a device whose plan is empty. -/
theorem unplanned_device {plans : List Planned}
    (hnodup : (plans.map fun plan => some plan.handle.address).Nodup) {plan : Planned}
    (hplan : plan ∈ plans) (hnil : plan.writes = []) :
    (∀ op ∈ writeOps plans, op.device ≠ some plan.handle.address) ∧
      ∀ op ∈ resetOps plans, op.device ≠ some plan.handle.address := by
  have hwrites := writeOps_on hnodup hplan
  have hresets := resetOps_on hnodup hplan
  rw [hnil, List.map_nil, List.filter_eq_nil_iff] at hwrites
  rw [if_pos hnil, List.filter_eq_nil_iff] at hresets
  constructor
  · intro op hop hdevice
    obtain ⟨plan', _, hmem⟩ := List.mem_flatMap.mp hop
    obtain ⟨w, _, rfl⟩ := List.mem_map.mp hmem
    exact hwrites _ hop (by simpa using hdevice)
  · intro op hop hdevice
    obtain ⟨plan', _, _, rfl⟩ := mem_resetOps hop
    exact hresets _ hop (by simpa using hdevice)

/-- What a run that completed did to one device: nothing if its plan was empty,
and otherwise it brought its knobs to the mode and made it run them. -/
theorem BoardRun.device_done {outcomes : List (String × Transition)}
    (h : BoardRun plat A states mode node (.done outcomes) node' t)
    (hnodup : (states.map (·.address)).Nodup) {plan : Planned}
    (hplan : plan ∈ plansFor plat node.board mode states) :
    (plan.writes = [] →
        node'.board plan.handle.address = node.board plan.handle.address) ∧
      (plan.writes ≠ [] →
        AtTargets plat mode plan.handle (node'.board plan.handle.address).knob ∧
          (node'.board plan.handle.address).active =
            (node'.board plan.handle.address).knob) := by
  have hplans : ((plansFor plat node.board mode states).map fun plan =>
      some plan.handle.address).Nodup := nodup_plansFor hnodup
  obtain ⟨s₁, t₁, t₂, hwrite, hreset⟩ : ∃ s₁ t₁ t₂,
      Scripted plat.machine A (writeOps (plansFor plat node.board mode states)) node
        (.done ()) s₁ t₁ ∧
      Scripted plat.machine A (resetOps (plansFor plat node.board mode states)) s₁
        (.done ()) node' t₂ := by
    generalize hout : Outcome.done outcomes = out at h
    cases h with
    | planning | writing | resetting => cases hout
    | verifying _ hwrite hreset => exact ⟨_, _, _, hwrite, hreset⟩
  constructor
  · intro hnil
    obtain ⟨hnoWrite, hnoReset⟩ := unplanned_device hplans hplan hnil
    rw [scripted_board hreset hnoReset, scripted_board hwrite hnoWrite]
  · intro hne
    refine ⟨?_, resetting_done hreset plan hplan hne⟩
    rw [AtTargets, (resetting_knob hreset).1]
    exact writing_done hwrite plan hplan

/-- A run that completed brings the board to its mode exactly if every device
it found with the knobs of the mode was running it. -/
theorem BoardRun.inMode_iff {outcomes : List (String × Transition)}
    (h : BoardRun plat A states mode node (.done outcomes) node' t)
    (hnodup : (states.map (·.address)).Nodup) :
    InMode plat states mode node' ↔
      ∀ state handle, Openable states state handle →
        AtTargets plat mode handle (node.board state.address).knob →
          AtTargets plat mode handle (node.board state.address).active := by
  constructor
  · intro hmode state handle hopen hknob
    have hplanned : ∃ plan ∈ plansFor plat node.board mode states,
        plan.state = state ∧ plan.handle = handle := hopen.planned
    obtain ⟨plan, hplan, rfl, rfl⟩ := hplanned
    obtain ⟨_, hactive⟩ := hmode _ _ hopen
    rw [← Handle.of_address hopen.2] at hactive hknob ⊢
    rwa [(h.device_done hnodup hplan).1 ((writes_eq_nil_iff hplan).mpr hknob)] at hactive
  · intro hstart state handle hopen
    have hplanned : ∃ plan ∈ plansFor plat node.board mode states,
        plan.state = state ∧ plan.handle = handle := hopen.planned
    obtain ⟨plan, hplan, rfl, rfl⟩ := hplanned
    have hopened := hstart _ _ hopen
    rw [← Handle.of_address hopen.2] at hopened ⊢
    by_cases hnil : plan.writes = []
    · have hknob := (writes_eq_nil_iff hplan).mp hnil
      rw [(h.device_done hnodup hplan).1 hnil]
      exact ⟨hknob, hopened hknob⟩
    · obtain ⟨hknob, hactive⟩ := (h.device_done hnodup hplan).2 hnil
      rw [hactive]
      exact ⟨hknob, hknob⟩

/-- A run that completed, or wrote and reset nothing, leaves a settled board
settled. -/
theorem run_settled {out : Outcome Error (List (String × Transition))}
    (h : Runs plat.machine A (apply plat states mode) node out node' t)
    (hnodup : (states.map (·.address)).Nodup) (hstart : Settled plat states node)
    (hclean : (∃ outcomes, out = .done outcomes) ∨ ∀ e ∈ t, e.op.Silent) :
    Settled plat states node' := by
  rcases hclean with ⟨outcomes, rfl⟩ | hsilent
  · intro state handle hopen
    have hplanned : ∃ plan ∈ plansFor plat node.board mode states,
        plan.state = state ∧ plan.handle = handle := hopen.planned
    obtain ⟨plan, hplan, rfl, rfl⟩ := hplanned
    have hsettled := hstart _ _ hopen
    have hdevice := (apply_boardRun h).device_done hnodup hplan
    rw [← Handle.of_address hopen.2] at hsettled ⊢
    by_cases hnil : plan.writes = []
    · rw [hdevice.1 hnil]
      exact hsettled
    · rw [(hdevice.2 hnil).2]
  · have hboard : ∀ address, node'.board address = node.board address := by
      intro address
      refine (h.keeps (I := fun s => s.board address = node.board address)
        (fun e he s r s' hs hresp => ?_) rfl).1
      rw [responds_board address (.inr (hsilent e he)) hresp, hs]
    intro state handle hopen
    rw [hboard]
    exact hstart state handle hopen

/-! ## Whole histories -/

/-- A board that was settled stays settled if every run completed, or got
nowhere. -/
theorem settled_after (plat : Platform) (states : List DeviceState)
    (hnodup : (states.map (·.address)).Nodup) (node : Node)
    (hstart : Settled plat states node) (history : List Attempt)
    (hclean : ∀ earlier attempt later, history = earlier ++ attempt :: later →
      (∃ outcomes, (attempt.run plat states (after plat states earlier node)).outcome =
        .done outcomes) ∨
      ∀ e ∈ (attempt.run plat states (after plat states earlier node)).events, e.op.Silent) :
    Settled plat states (after plat states history node) := by
  induction history using List.reverseRecOn with
  | nil => exact hstart
  | append_singleton history attempt ih =>
      have hbefore := ih fun earlier attempt' later heq =>
        hclean earlier attempt' (later ++ [attempt]) (by rw [heq]; simp)
      rw [after_append]
      exact run_settled (exec_runs_hostile _ _ _ _) hnodup hbefore
        (hclean history attempt [] rfl)

/-- The last run of a history, when it completes, leaves the board in its mode
exactly if it found no device with the knobs of the mode and another mode
running; and so it does from a settled board if every run before it completed, or
got nowhere. -/
theorem history_converges_iff (plat : Platform) (states : List DeviceState)
    (hnodup : (states.map (·.address)).Nodup) (node : Node) (history : List Attempt)
    (last : Attempt) (outcomes : List (String × Transition))
    (hdone : (last.run plat states (after plat states history node)).outcome =
      .done outcomes) :
    (InMode plat states last.mode (after plat states (history ++ [last]) node) ↔
      ∀ state handle, Openable states state handle →
        AtTargets plat last.mode handle
          ((after plat states history node).board state.address).knob →
        AtTargets plat last.mode handle
          ((after plat states history node).board state.address).active) ∧
    (Settled plat states node →
      (∀ earlier attempt later, history = earlier ++ attempt :: later →
        (∃ outcomes, (attempt.run plat states (after plat states earlier node)).outcome =
          .done outcomes) ∨
        ∀ e ∈ (attempt.run plat states (after plat states earlier node)).events, e.op.Silent) →
      InMode plat states last.mode (after plat states (history ++ [last]) node)) := by
  have hrun := exec_runs_hostile plat.machine (apply plat states last.mode) last.verdicts
    (after plat states history node)
  rw [Attempt.run] at hdone
  rw [hdone] at hrun
  rw [after_append]
  have hiff := (apply_boardRun hrun).inMode_iff hnodup
  refine ⟨hiff, fun hstart hclean => hiff.mpr fun state handle hopen hknob => ?_⟩
  have hsettled := settled_after plat states hnodup node hstart history hclean
  rw [AtTargets, hsettled state handle hopen]
  exact hknob

/-- A board that is reset after a run that died, and so comes to its mode, and one
that goes there and back. -/
theorem history_converges_iff_off :
    (InMode (Bench.platform Bench.singleGpu) (Bench.states Bench.singleGpu) .off
        (after (Bench.platform Bench.singleGpu) (Bench.states Bench.singleGpu)
          ([⟨.on, [.ok, .ok, .ok, .ok, .kill]⟩] ++ [⟨.off, []⟩])
          (Bench.node (fun _ => Bench.settled .off .off) fun _ => none)) ↔
      ∀ state handle, Openable (Bench.states Bench.singleGpu) state handle →
        AtTargets (Bench.platform Bench.singleGpu) .off handle
          ((after (Bench.platform Bench.singleGpu) (Bench.states Bench.singleGpu)
            [⟨.on, [.ok, .ok, .ok, .ok, .kill]⟩]
            (Bench.node (fun _ => Bench.settled .off .off) fun _ => none)).board
              state.address).knob →
        AtTargets (Bench.platform Bench.singleGpu) .off handle
          ((after (Bench.platform Bench.singleGpu) (Bench.states Bench.singleGpu)
            [⟨.on, [.ok, .ok, .ok, .ok, .kill]⟩]
            (Bench.node (fun _ => Bench.settled .off .off) fun _ => none)).board
              state.address).active) ∧
      InMode (Bench.platform Bench.singleGpu) (Bench.states Bench.singleGpu) .off
        (after (Bench.platform Bench.singleGpu) (Bench.states Bench.singleGpu)
          ([⟨.on, []⟩] ++ [⟨.off, []⟩])
          (Bench.node (fun _ => Bench.settled .off .off) fun _ => none)) := by
  refine ⟨(history_converges_iff _ _ (by decide) _ _ ⟨.off, []⟩ [("0000:65:00.0", .applied)]
    (by decide)).1, (history_converges_iff _ _ (by decide) _ _ ⟨.off, []⟩
    [("0000:65:00.0", .applied)] (by decide)).2 (fun _ _ _ => rfl) ?_⟩
  intro earlier attempt later hsplit
  cases earlier with
  | nil =>
      obtain ⟨rfl, rfl⟩ := List.cons.inj hsplit
      exact .inl ⟨[("0000:65:00.0", .applied)], by decide⟩
  | cons first earlier => cases earlier <;> simp at hsplit

/-- A GPU whose reset never came: the next run takes it for converged and
completes, while the GPU still runs the old mode. -/
theorem history_stale :
    (exec (Bench.platform Bench.singleGpu).machine
        (apply (Bench.platform Bench.singleGpu) (Bench.states Bench.singleGpu) .on) []
        (after (Bench.platform Bench.singleGpu) (Bench.states Bench.singleGpu)
          [⟨.on, [.ok, .ok, .ok, .ok, .kill]⟩]
          (Bench.node (fun _ => Bench.settled .off .off) fun _ => none))).outcome =
        .done [("0000:65:00.0", .alreadySet)] ∧
      ¬InMode (Bench.platform Bench.singleGpu) (Bench.states Bench.singleGpu) .on
        (after (Bench.platform Bench.singleGpu) (Bench.states Bench.singleGpu)
          [⟨.on, [.ok, .ok, .ok, .ok, .kill]⟩, ⟨.on, []⟩]
          (Bench.node (fun _ => Bench.settled .off .off) fun _ => none)) := by
  refine ⟨by decide, fun h => ?_⟩
  have hopen : Openable (Bench.states Bench.singleGpu)
      (discovered Bench.pci (Bench.h100 "0000:65:00.0")) (.gpu "0000:65:00.0") :=
    ⟨by decide, by decide⟩
  have hactive := (h _ _ hopen).2
  revert hactive
  unfold AtTargets
  decide

end KataDeviceProvisioner.Ports.Nvidia
