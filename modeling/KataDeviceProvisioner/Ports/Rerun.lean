import KataDeviceProvisioner.Ports.BootBinding
import KataDeviceProvisioner.Ports.Converged
import KataDeviceProvisioner.Ports.Postcondition

/-!
# Running again

A run that completed leaves the node `Converged`, whatever it started from and
whatever processes there are by the next run, so the next run changes nothing.
The one thing asked of the kernel is that a vfio module does not register a
driver the host check refuses.
-/

namespace KataDeviceProvisioner.Ports.Main

open KataDeviceProvisioner.Verified

variable {plat : Platform} {A : Adversary} {node node' : Node} {t : List (Event Op Node)}
  {mode : Mode} {found : List DeviceState} {drivers : Drivers}

/-- No module a run can load for a device registers a host GPU driver. -/
def VfioRegisters (plat : Platform) : Prop :=
  ∀ module, (module = "vfio_pci" ∨
      ∃ table vendor device, plat.pci.moduleFor table vendor device = .ok module) →
    ∀ driver, plat.driverFor module = .ok driver → driver ∉ Host.conflictingDrivers

/-! ## The host check -/

theorem hostCheck_eq_ok_iff {pci : Pcilibs} {sysfs : Sysfs} :
    Host.check pci sysfs = .ok () ↔ (sysfs.iommuGroups.any fun entries => !entries.isEmpty) ∧
      ∀ name ∈ Host.conflictingDrivers, Host.devicesHeldBy pci sysfs name = [] := by
  have hiommu : Host.checkIommu sysfs = .ok () ↔
      (sysfs.iommuGroups.any fun entries => !entries.isEmpty) = true := by
    unfold Host.checkIommu
    by_cases h : (sysfs.iommuGroups.any fun entries => !entries.isEmpty) = true
    · simp [h]
    · simp [h, bail]
  have hdrivers : Host.checkNoConflictingDriver pci sysfs = .ok () ↔
      ∀ name ∈ Host.conflictingDrivers, Host.devicesHeldBy pci sysfs name = [] := by
    unfold Host.checkNoConflictingDriver
    rw [forM_eq_ok_iff]
    refine forall₂_congr fun name _ => ?_
    cases Host.devicesHeldBy pci sysfs name with
    | nil => simp
    | cons held rest => simp [bail]
  rw [← hiommu, ← hdrivers]
  unfold Host.check
  cases Host.checkIommu sysfs with
  | error e => simp [bind, Except.bind]
  | ok _ => simp [bind, Except.bind]

/-- The host check looks at bindings only for the drivers it refuses. -/
theorem hostCheck_mono (h : Host.check plat.pci (plat.sysfs node) = .ok ())
    (hkept : ∀ name ∈ Host.conflictingDrivers, ∀ address,
      node'.driver address = some name → node.driver address = some name) :
    Host.check plat.pci (plat.sysfs node') = .ok () := by
  obtain ⟨hiommu, hheld⟩ := hostCheck_eq_ok_iff.mp h
  refine hostCheck_eq_ok_iff.mpr ⟨hiommu, fun name hname => ?_⟩
  have hbefore := hheld name hname
  unfold Host.devicesHeldBy at hbefore ⊢
  simp only [Platform.sysfs] at hbefore ⊢
  cases hlinks : plat.driverLinks name with
  | none => rfl
  | some links =>
      rw [hlinks] at hbefore
      rw [List.eq_nil_iff_forall_not_mem] at hbefore ⊢
      intro address hmem
      refine hbefore address ?_
      simp only [Option.map_some, List.mem_insertionSort, List.mem_filter] at hmem ⊢
      refine ⟨?_, hmem.2⟩
      cases hinv : plat.inventory with
      | error e =>
          rw [hinv] at hmem
          exact hmem.1
      | ok devs =>
          rw [hinv] at hmem
          rcases List.mem_append.mp hmem.1 with hlink | hdev
          · exact List.mem_append_left _ hlink
          · obtain ⟨hlisted, hbound⟩ := List.mem_filter.mp hdev
            refine List.mem_append_right _ (List.mem_filter.mpr ⟨hlisted, ?_⟩)
            simpa using hkept name hname address (by simpa using hbound)

/-! ## The devices, seen again -/

/-- A device as it is found on another node. -/
def rebound (node : Node) (state : DeviceState) : DeviceState :=
  { state with
    driver := if (node.driver state.address).getD "" = "" then none
      else some ((node.driver state.address).getD "") }

variable (node') in
theorem scope_rebound (h : inScope plat.pci (plat.sysfs node) = .ok found) :
    inScope plat.pci (plat.sysfs node') = .ok (found.map (rebound node')) := by
  obtain ⟨devs, hinv, rfl⟩ := scope_eq h
  unfold inScope discover Platform.sysfs Platform.listed
  rw [hinv]
  simp only [Except.map, List.filter_map, List.map_map]
  rfl

theorem passthrough_rebound :
    passthroughSet (found.map (rebound node)) mode =
      (passthroughSet found mode).map (rebound node) := by
  unfold passthroughSet
  rw [List.filter_map]
  rfl

theorem mem_passthrough_rebound (hnodup : (found.map (·.address)).Nodup) {state : DeviceState}
    (hstate : state ∈ found) :
    rebound node state ∈ (passthroughSet found mode).map (rebound node) ↔
      state ∈ passthroughSet found mode := by
  constructor
  · intro hmem
    obtain ⟨other, hother, heq⟩ := List.mem_map.mp hmem
    have haddress : (rebound node other).address = (rebound node state).address := by rw [heq]
    have hsame : other = state :=
      eq_of_address hnodup (passthrough_subset hother) hstate haddress
    rwa [← hsame]
  · exact List.mem_map_of_mem

theorem resolved_rebound {states : List DeviceState} (h : Resolved plat states drivers)
    (proc : Idle.Proc) :
    Resolved { plat with proc := proc } (states.map (rebound node)) drivers := by
  obtain ⟨aliases, haliases, hall⟩ := h
  refine ⟨aliases, haliases, List.forall₂_map_left_iff.mpr (hall.imp ?_)⟩
  intro state entry ⟨haddress, hresolves⟩
  exact ⟨haddress, hresolves.named, hresolves.command, hresolves.chroot, hresolves.loads,
    hresolves.registers⟩

/-! ## After a run that completed -/

/-- What the gates of a run that completed had let through, and what it left the
devices it did not bind on. -/
theorem apply_left (h : Runs plat.machine A (apply plat mode) node (.done ()) node' t) :
    ∃ found, inScope plat.pci (plat.sysfs node) = .ok found ∧ found ≠ [] ∧
      Host.check plat.pci (plat.sysfs node) = .ok () ∧
      verifyCapable plat.pci found mode = .ok () ∧
      ∀ address, inSet (passthroughSet found mode) address = false →
        node'.driver address =
          if inSet found address then released (node.driver address) else node.driver address := by
  rw [apply_eq] at h
  obtain ⟨cleared, s₀, t₀, u₀, hpre, hstages, _⟩ := runs_bind_done.mp h
  obtain ⟨rfl, _⟩ := preflight_quiet hpre
  obtain ⟨found, probed, hgates⟩ := preflight_done hpre
  obtain ⟨outcomes, s₁, s₂, s₃, t₁, t₂, t₃, t₄, t₅, hmode, hpersist, hbind, hrelease, _, _⟩ :=
    stages_done hstages
  refine ⟨found, hgates.scope, hgates.nonempty, hgates.host, hgates.capable,
    fun address hout => ?_⟩
  rw [← hgates.passthrough] at hout
  rw [release_done hrelease, binds_others hbind hout, (persist_keeps hpersist).2.2,
    (mode_keeps hmode).1, hgates.states, probes_inSet hgates.probes]
  by_cases hin : inSet found address = true
  · rw [if_pos ⟨hin, hout⟩, if_pos hin]
  · rw [if_neg fun hboth => hin hboth.1, if_neg hin]

/-- No device comes to be held by a host GPU driver. -/
theorem conflicting_kept (hvfio : VfioRegisters plat)
    (hpost : PostCondition plat mode node found drivers node' t)
    (hleft : ∀ address, inSet (passthroughSet found mode) address = false →
      node'.driver address =
        if inSet found address then released (node.driver address) else node.driver address) :
    ∀ name ∈ Host.conflictingDrivers, ∀ address,
      node'.driver address = some name → node.driver address = some name := by
  intro name hname address hdriver
  by_cases hin : inSet (passthroughSet found mode) address = true
  · obtain ⟨state, hstate, rfl⟩ := inSet_iff.mp hin
    obtain ⟨aliases, _, hget⟩ :=
      hpost.resolved.get (passthrough_nodup (scope_nodup hpost.scope))
    obtain ⟨driver, hfound, hresolves⟩ := hget state hstate
    obtain ⟨driver', hfound', hbound⟩ := hpost.bound state hstate
    rw [hfound] at hfound'
    obtain rfl := Option.some.inj hfound'
    rw [hbound] at hdriver
    obtain rfl := Option.some.inj hdriver
    refine absurd hname (hvfio driver.module ?_ driver.driver hresolves.registers)
    rcases (resolveModule_ok hresolves.named).1 with hnamed | ⟨_, _, hgeneric⟩
    · exact .inr ⟨_, _, _, hnamed⟩
    · exact .inl hgeneric
  · rw [hleft address (by simpa using hin)] at hdriver
    unfold released at hdriver
    split at hdriver
    · split at hdriver
      · cases hdriver
      · exact hdriver
    · exact hdriver

/-- The node is where a further run would put it. -/
theorem apply_converged (hvfio : VfioRegisters plat)
    (h : Runs plat.machine A (apply plat mode) node (.done ()) node' t) (proc : Idle.Proc) :
    ∃ found drivers, Converged { plat with proc := proc } mode node' found drivers := by
  obtain ⟨found, drivers, hpost⟩ := apply_done h
  obtain ⟨found', hscope, hne, hhost, hcapable, hleft⟩ := apply_left h
  rw [hpost.scope] at hscope
  obtain rfl := Except.ok.inj hscope
  have hnodup := scope_nodup hpost.scope
  refine ⟨found.map (rebound node'), drivers, ?_⟩
  exact
    { host := hostCheck_mono hhost (conflicting_kept hvfio hpost hleft)
      scope := scope_rebound _ hpost.scope
      nonempty := by simpa using hne
      capable := by
        refine verifyCapable_eq_ok_iff.mpr fun state hstate => ?_
        obtain ⟨device, hdevice, rfl⟩ := List.mem_map.mp hstate
        exact verifyCapable_eq_ok_iff.mp hcapable device hdevice
      resolved := by
        rw [passthrough_rebound]
        exact resolved_rebound hpost.resolved proc
      bound := by
        rw [passthrough_rebound]
        intro state hstate
        obtain ⟨device, hdevice, rfl⟩ := List.mem_map.mp hstate
        exact hpost.bound device hdevice
      modes := by
        intro state handle ⟨hstate, hof⟩
        obtain ⟨device, hdevice, rfl⟩ := List.mem_map.mp hstate
        exact hpost.modes device handle ⟨hdevice, hof⟩
      released := by
        rw [passthrough_rebound]
        intro state hstate hout
        obtain ⟨device, hdevice, rfl⟩ := List.mem_map.mp hstate
        rw [mem_passthrough_rebound hnodup hdevice] at hout
        exact (hpost.released device hdevice hout).1
      onDisk := by
        rw [passthrough_rebound, List.filterMap_map]
        exact hpost.onDisk }

/-- After a run that completed, another changes nothing and is refused by
nothing, whatever processes hold the devices by then. -/
theorem rerun_noOp (plat : Platform) (hvfio : VfioRegisters plat) (mode : Mode) (node : Node)
    (σ : List (Verdict Error Residue))
    (hdone : (exec plat.machine (apply plat mode) σ node).outcome = .done ())
    (proc : Idle.Proc) :
    (∃ found drivers,
      Admits { plat with proc := proc } mode (exec plat.machine (apply plat mode) σ node).state
        found drivers ∧
      writable (plat.sysfs (exec plat.machine (apply plat mode) σ node).state)
        ((readAll plat (exec plat.machine (apply plat mode) σ node).state found).map (·.1))
        (passthroughSet found mode) drivers mode [] = []) ∧
    NoOp (exec plat.machine (apply plat mode) σ node).state
      (exec { plat with proc := proc }.machine (apply { plat with proc := proc } mode) []
        (exec plat.machine (apply plat mode) σ node).state) := by
  obtain ⟨found, drivers, hconverged⟩ := apply_converged hvfio (exec_runs_done hdone) proc
  exact ⟨⟨found, drivers, hconverged.admits, hconverged.writable_nil⟩, hconverged.noOp⟩

/-- A baseboard taken into PPCIE, with a VM on it by the next run. -/
theorem rerun_noOp_running :
    (exec (Bench.platform Bench.baseboard).machine
      (apply (Bench.platform Bench.baseboard) .ppcie) [] Bench.dirty).outcome = .done () ∧
    NoOp (exec (Bench.platform Bench.baseboard).machine
        (apply (Bench.platform Bench.baseboard) .ppcie) [] Bench.dirty).state
      (exec { Bench.platform Bench.baseboard with proc := busyProc }.machine
        (apply { Bench.platform Bench.baseboard with proc := busyProc } .ppcie) []
        (exec (Bench.platform Bench.baseboard).machine
          (apply (Bench.platform Bench.baseboard) .ppcie) [] Bench.dirty).state) := by
  have hvfio : VfioRegisters (Bench.platform Bench.baseboard) := by
    intro module _ driver hdriver
    obtain rfl := Except.ok.inj hdriver
    by_cases h : module = "nvgrace_gpu_vfio_pci"
    · rw [if_pos h]
      decide
    · rw [if_neg h]
      decide
  have hdone : (exec (Bench.platform Bench.baseboard).machine
      (apply (Bench.platform Bench.baseboard) .ppcie) [] Bench.dirty).outcome = .done () := by
    decide +kernel
  exact ⟨hdone, (rerun_noOp (Bench.platform Bench.baseboard) hvfio .ppcie Bench.dirty []
    hdone busyProc).2⟩

end KataDeviceProvisioner.Ports.Main
