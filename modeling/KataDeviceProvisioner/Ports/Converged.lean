import KataDeviceProvisioner.Ports.BootHistory
import KataDeviceProvisioner.Ports.Refusal

/-!
# Runs on a node that is where it should be

`Converged` is the state a completed run leaves a node in, as far as a further
run goes by it.  Such a run finds nothing to change, so no process that has a
device open can hold it up, and it leaves everything as it is
(`Converged.noOp`).
-/

namespace KataDeviceProvisioner.Ports.Main

open KataDeviceProvisioner.Verified

variable {plat : Platform} {A : Adversary} {node node' : Node} {t : List (Event Op Node)}
  {mode : Mode} {found : List DeviceState} {drivers : Drivers}

/-- Every check before the first change but the last would pass, and there is
nothing left to change. -/
structure Converged (plat : Platform) (mode : Mode) (node : Node) (found : List DeviceState)
    (drivers : Drivers) : Prop where
  host : Host.check plat.pci (plat.sysfs node) = .ok ()
  scope : inScope plat.pci (plat.sysfs node) = .ok found
  nonempty : found ≠ []
  capable : verifyCapable plat.pci found mode = .ok ()
  resolved : Resolved plat (passthroughSet found mode) drivers
  bound : ∀ state ∈ passthroughSet found mode, ∃ driver,
    drivers.get state.address = some driver ∧
      node.driver state.address = some driver.driver
  modes : ∀ state handle, Nvidia.Openable found state handle →
    Nvidia.AtTargets plat mode handle (node.board state.address).knob
  released : ∀ state ∈ found, state ∉ passthroughSet found mode →
    (node.driver state.address).any namesVfio = false
  onDisk : Modules.OnDisk plat.hostRoot
    (Modules.render ((passthroughSet found mode).filterMap (claimOf drivers))) node

/-- A run that changes nothing. -/
structure NoOp (node : Node) (run : Run Op Error Residue Node Unit) : Prop where
  completed : run.outcome = .done ()
  /-- No write, no reset, no unbind, and no bind of a device that was not on the
  driver already. -/
  unchanged : ∀ e ∈ run.events, ¬Changes e
  board : run.state.board = node.board
  driver : run.state.driver = node.driver
  files : run.state.files = node.files

/-! ## Nothing to do -/

namespace Converged

variable (h : Converged plat mode node found drivers)

include h

/-- No device in scope is one the stages would change. -/
theorem not_willChange {state : DeviceState} (hstate : state ∈ found) :
    ¬WillChange plat node mode (passthroughSet found mode) drivers state := by
  have hmember : inSet (passthroughSet found mode) state.address = true ↔
      state ∈ passthroughSet found mode := inSet_passthrough (scope_nodup h.scope) hstate
  rintro (hplan | ⟨hin, target, hget, hoff⟩ | ⟨hout, hvfio⟩)
  · rw [hasPlan_iff] at hplan
    unfold reading at hplan
    cases hof : Handle.of state with
    | none =>
        rw [hof] at hplan
        simp [Nvidia.writesFor] at hplan
    | some handle =>
        rw [hof] at hplan
        refine hplan ((Nvidia.writesFor_eq_nil_iff _ _ _ _).mpr ?_)
        rw [Handle.of_address hof]
        exact h.modes state handle ⟨hstate, hof⟩
  · obtain ⟨driver, hget', hbound⟩ := h.bound state (hmember.mp hin)
    rw [hget] at hget'
    obtain rfl := Option.some.inj hget'
    exact hoff hbound
  · have hnot : state ∉ passthroughSet found mode := by
      intro hmem
      rw [hmember.mpr hmem] at hout
      cases hout
    rw [h.released state hstate hnot] at hvfio
    cases hvfio

/-- So nothing is on the list of what has to be idle. -/
theorem writable_nil :
    writable (plat.sysfs node) ((readAll plat node found).map (·.1))
      (passthroughSet found mode) drivers mode [] = [] := by
  rw [List.eq_nil_iff_forall_not_mem]
  intro read hread
  obtain ⟨hmem, hwhy⟩ := mem_writable.mp hread
  obtain ⟨entry, hentry, rfl⟩ := List.mem_map.mp hmem
  obtain ⟨state, hstate, rfl⟩ := List.mem_map.mp hentry
  have haddress : (withModes state (reading plat node state)).address = state.address := rfl
  refine h.not_willChange hstate ?_
  by_cases hin : inSet (passthroughSet found mode) state.address = true
  · rw [haddress, if_pos hin] at hwhy
    obtain ⟨member, hmember, hmemberAddress⟩ := inSet_iff.mp hin
    obtain ⟨target, htarget, hbound⟩ := h.bound member hmember
    rw [hmemberAddress] at htarget hbound
    rcases hwhy target htarget hbound with hunread | hwrites
    · cases hunread
    · exact .inl (hasPlan_iff.mpr hwrites)
  · rw [haddress, if_neg hin] at hwhy
    exact .inr (.inr ⟨by simpa using hin, hwhy⟩)

/-- Every check passes, whatever has the devices open. -/
theorem admits : Admits plat mode node found drivers := by
  have hidle : verifyIdle plat (plat.sysfs node) (writable (plat.sysfs node)
      ((readAll plat node found).map (·.1)) (passthroughSet found mode) drivers mode
      (unreadable (readAll plat node found))) = .ok () := by
    rw [unreadable_readAll, h.writable_nil]
    rfl
  exact
    { host := h.host
      scope := h.scope
      nonempty := h.nonempty
      capable := h.capable
      passthrough := rfl
      drivers := h.resolved
      probes := probes_readAll plat node found
      states := rfl
      idle := hidle }

/-- A device that can be opened is in the mode. -/
theorem read_openable {state : DeviceState} {handle : Handle}
    (hopen : Nvidia.Openable ((readAll plat node found).map (·.1)) state handle) :
    Nvidia.AtTargets plat mode handle (node.board handle.address).knob := by
  obtain ⟨hmem, hof⟩ := hopen
  obtain ⟨entry, hentry, rfl⟩ := List.mem_map.mp hmem
  obtain ⟨device, hdevice, rfl⟩ := List.mem_map.mp hentry
  have hof' : Handle.of device = some handle := hof
  rw [Handle.of_address hof']
  exact h.modes device handle ⟨hdevice, hof'⟩

/-! ## The stages -/

/-- The mode change plans nothing. -/
theorem mode_absent {out : Outcome Error (List (String × Nvidia.Transition))}
    (hrun : Runs plat.machine .absent
      (Nvidia.apply plat ((readAll plat node found).map (·.1)) mode) node out node' t) :
    (∃ outcomes, out = .done outcomes) ∧ node' = node := by
  have hnil : ∀ plan ∈ Nvidia.plansFor plat node.board mode
      ((readAll plat node found).map (·.1)), plan.writes = [] := by
    intro plan hplan
    refine (Nvidia.writes_eq_nil_iff hplan).mpr ?_
    exact h.read_openable (Nvidia.mem_plansFor.mp hplan).1
  obtain ⟨s₁, t₀, t₁, t₂, t₃, _, hout, _, hwrite, hreset, _⟩ :=
    Nvidia.boardRun_absent (Nvidia.apply_boardRun hrun)
  have hwrites : Nvidia.writeOps (Nvidia.plansFor plat node.board mode
      ((readAll plat node found).map (·.1))) = [] := by
    refine List.flatMap_eq_nil_iff.mpr fun plan hplan => ?_
    rw [hnil plan hplan, List.map_nil]
  have hresets : Nvidia.resetOps (Nvidia.plansFor plat node.board mode
      ((readAll plat node found).map (·.1))) = [] := by
    rw [List.eq_nil_iff_forall_not_mem]
    intro op hop
    obtain ⟨plan, hplan, hne, _⟩ := Nvidia.mem_resetOps hop
    exact hne (hnil plan hplan)
  obtain ⟨_, _, rfl⟩ := hwrite.complete rfl
  obtain ⟨_, _, rfl⟩ := hreset.complete rfl
  rw [hwrites, hresets]
  exact ⟨⟨_, hout⟩, rfl⟩

/-- Binding finds every device where it should be. -/
theorem binds_absent {s : Node} (hdriver : s.driver = node.driver) :
    (Program.forEach (bindOne drivers) (passthroughSet found mode)).Yields plat.machine s () := by
  refine yields_forEach fun state hstate => ?_
  obtain ⟨driver, hget, hbound⟩ := h.bound state hstate
  refine yields_bind (index_absent hget) (yields_bind (a := .already) (yields_perform ?_) ?_)
  · simp only [Platform.machine, Platform.answer, hdriver, hbound, if_true]
  · exact yields_pure ()

/-- Releasing finds nothing that vfio has and should not. -/
theorem release_absent {s : Node} (hdriver : s.driver = node.driver) :
    (release ((readAll plat node found).map (·.1)) (passthroughSet found mode)).Yields
      plat.machine s () := by
  refine yields_forEach fun read hread => ?_
  obtain ⟨entry, hentry, rfl⟩ := List.mem_map.mp hread
  obtain ⟨state, hstate, rfl⟩ := List.mem_map.mp hentry
  show (releaseOne (passthroughSet found mode)
    (withModes state (reading plat node state))).Yields plat.machine s ()
  unfold releaseOne
  by_cases hin : inSet (passthroughSet found mode) state.address = true
  · rw [if_pos (show inSet (passthroughSet found mode)
      (withModes state (reading plat node state)).address = true from hin)]
    exact yields_pure ()
  · rw [if_neg (show ¬inSet (passthroughSet found mode)
      (withModes state (reading plat node state)).address = true from hin)]
    refine yields_bind (a := plat.sysfs s) (yields_perform rfl) ?_
    have hnot : state ∉ passthroughSet found mode := fun hmem =>
      hin (inSet_iff.mpr ⟨state, hmem, rfl⟩)
    have hnone : (s.driver state.address).filter namesVfio = none := by
      rw [hdriver, Option.filter_eq_none_iff]
      intro driver hcurrent
      have hfree := h.released state hstate hnot
      rw [hcurrent] at hfree
      simpa using hfree
    have hcurrent : ((plat.sysfs s).currentDriver
        (withModes state (reading plat node state)).address).filter namesVfio = none := hnone
    rw [hcurrent]
    exact yields_pure ()

end Converged

/-- Writing the boot configuration stays with the three files. -/
theorem persist_confined {passthrough : List DeviceState} {out : Outcome Error Unit}
    (h : Runs plat.machine A (persist plat passthrough drivers) node out node' t) :
    Modules.Confined plat.hostRoot node node' := by
  have huses : (persist plat passthrough drivers).Uses (Modules.OnBootFiles plat.hostRoot) := by
    refine uses_bind (uses_gather fun state _ => ?_) fun claims => ?_
    · exact uses_bind (index_uses drivers state.address _) fun _ => trivial
    · exact Modules.program_onBootFiles plat.hostRoot (.persist claims)
  exact (h.invariant (I := Modules.Confined plat.hostRoot node) huses
    (fun _ _ _ _ hop hs hresp => hs.trans (Modules.responds_confined hop hresp))
    (.refl plat.hostRoot node)).1

/-- Reading a device back goes through where it is in the mode. -/
theorem verifyMode_absent {state : DeviceState}
    (hat : ∀ handle, Handle.of state = some handle →
      Nvidia.AtTargets plat mode handle (node.board handle.address).knob) :
    (Nvidia.verifyMode plat state mode).Yields plat.machine node () := by
  intro out node' t hrun
  obtain ⟨hnode, _⟩ := Nvidia.node_eq_of_quiet hrun (verifyMode_uses state)
    fun _ => Nvidia.ProbesAt.quiet
  refine ⟨?_, hnode⟩
  obtain ⟨handle, s₁, t₁, t₂, hopen, hrest, _⟩ | ⟨why, _, hopen⟩ := runs_bind_iff.mp hrun
  · have hopened := runs_mapError_done.mp hopen
    obtain ⟨rfl, _⟩ := Nvidia.node_eq_of_quiet hopened (Nvidia.open_uses state)
      fun _ => Nvidia.ProbesAt.quiet
    have hof := Nvidia.open_done hopened
    cases handle with
    | none => exact (runs_pure_iff.mp hrest).1
    | some handle => exact Nvidia.verify_absent (hat handle hof.symm) hrest
  · obtain ⟨handle, hdone⟩ := sure_mapError (Nvidia.open_sure state) _ _ _ _ hopen
    cases hdone

namespace Converged

variable (h : Converged plat mode node found drivers)

include h

/-- And the last stage finds what it asks for. -/
theorem verify_absent {s : Node} (hboard : s.board = node.board)
    (hdriver : s.driver = node.driver) :
    (verify plat mode (passthroughSet found mode) drivers).Yields plat.machine s () := by
  refine yields_forEach fun state hstate => ?_
  obtain ⟨driver, hget, hbound⟩ := h.bound state hstate
  refine yields_bind (index_absent hget) (yields_bind (a := ()) (yields_perform ?_) ?_)
  · simp only [Platform.machine, Platform.answer, hdriver, hbound, if_true]
  · refine verifyMode_absent fun handle hof => ?_
    rw [hboard, Handle.of_address hof]
    exact h.modes state handle ⟨passthrough_subset hstate, hof⟩

/-- The boot files are written again, as they are. -/
theorem persist_absent {out : Outcome Error Unit}
    (hrun : Runs plat.machine .absent (persist plat (passthroughSet found mode) drivers) node out
      node' t) :
    out = .done () ∧ node'.board = node.board ∧ node'.driver = node.driver ∧
      node'.files = node.files := by
  have hget : ∀ state ∈ passthroughSet found mode, ∃ driver,
      drivers.get state.address = some driver := by
    intro state hstate
    obtain ⟨driver, hdriver, _⟩ := h.bound state hstate
    exact ⟨driver, hdriver⟩
  obtain rfl := Main.persist_absent hget hrun
  obtain ⟨_, hboard, hdriver⟩ := persist_keeps hrun
  refine ⟨rfl, hboard, hdriver, funext fun path => ?_⟩
  by_cases hpath : path ∈ Modules.bootFiles plat.hostRoot
  · have hdisk := (persist_done hrun).1
    revert path
    refine Modules.forall_bootFiles.mpr ⟨?_, ?_, ?_⟩
    · rw [hdisk.modulesLoad, h.onDisk.modulesLoad]
    · rw [hdisk.modprobe, h.onDisk.modprobe]
    · rw [hdisk.udevRules, h.onDisk.udevRules]
  · exact (persist_confined hrun).files path hpath

/-- The stages go through and leave the node as it is. -/
theorem stages_absent {out : Outcome Error Unit}
    (hrun : Runs plat.machine .absent (stages plat mode (clearedFor plat node mode found drivers))
      node out node' t) :
    out = .done () ∧ node'.board = node.board ∧ node'.driver = node.driver ∧
      node'.files = node.files := by
  have hmoded : ∀ {out : Outcome Error (List (String × Nvidia.Transition))} {s : Node}
      {t : List (Event Op Node)}, Runs plat.machine .absent
        (Nvidia.apply plat (clearedFor plat node mode found drivers).states mode) node out s t →
      (∃ outcomes, out = .done outcomes) ∧ s = node := h.mode_absent
  cases stages_stageRun hrun with
  | changing hmode =>
      obtain ⟨⟨outcomes, hdone⟩, _⟩ := hmoded hmode
      cases hdone
  | persisting hmode hpersist =>
      obtain ⟨_, rfl⟩ := hmoded hmode
      cases (h.persist_absent hpersist).1
  | binding hmode hpersist hbind =>
      obtain ⟨_, rfl⟩ := hmoded hmode
      obtain ⟨_, _, hdriver, _⟩ := h.persist_absent hpersist
      cases (h.binds_absent hdriver _ _ _ hbind).1
  | releasing hmode hpersist hbind hrelease =>
      obtain ⟨_, rfl⟩ := hmoded hmode
      obtain ⟨_, _, hdriver, _⟩ := h.persist_absent hpersist
      obtain ⟨_, rfl⟩ := h.binds_absent hdriver _ _ _ hbind
      cases (h.release_absent hdriver _ _ _ hrelease).1
  | verifying hmode hpersist hbind hrelease hverify =>
      obtain ⟨_, rfl⟩ := hmoded hmode
      obtain ⟨_, hboard, hdriver, hfiles⟩ := h.persist_absent hpersist
      obtain ⟨_, rfl⟩ := h.binds_absent hdriver _ _ _ hbind
      obtain ⟨_, rfl⟩ := h.release_absent hdriver _ _ _ hrelease
      exact ⟨(h.verify_absent hboard hdriver _ _ _ hverify).1, hboard, hdriver, hfiles⟩

/-- A run on a node that is where it should be changes nothing, whatever has the
devices open. -/
theorem noOp : NoOp node (exec plat.machine (apply plat mode) [] node) := by
  have hrun := exec_runs_absent plat.machine (apply plat mode) node
  generalize exec plat.machine (apply plat mode) [] node = run at hrun ⊢
  rw [apply_eq] at hrun
  obtain ⟨cleared, s₁, t₁, t₂, hchecks, hstages, hevents⟩ | ⟨why, _, hchecks⟩ :=
    runs_bind_iff.mp hrun
  · obtain ⟨hcleared, rfl⟩ := preflight_absent h.admits _ _ _ hchecks
    obtain rfl := Outcome.done.inj hcleared
    obtain ⟨hdone, hboard, hdriver, hfiles⟩ := h.stages_absent hstages
    refine ⟨hdone, fun e he => ?_, hboard, hdriver, hfiles⟩
    rw [hevents] at he
    rcases List.mem_append.mp he with he | he
    · exact quiet_not_changes ((preflight_quiet hchecks).2 e he).1
    · intro hchanges
      obtain ⟨read, hread, _, hwill⟩ := stages_changes
        (fun _ => passthrough_inSet (probes_readAll plat s₁ found)) hstages he hchanges
      obtain ⟨entry, hentry, rfl⟩ := List.mem_map.mp hread
      obtain ⟨state, hstate, hprobe⟩ :=
        forall₂_of_mem_right (probes_readAll plat s₁ found) hentry
      exact h.not_willChange hstate (hprobe.willChange_iff.mp hwill)
  · cases (preflight_absent h.admits _ _ _ hchecks).1

end Converged

end KataDeviceProvisioner.Ports.Main
