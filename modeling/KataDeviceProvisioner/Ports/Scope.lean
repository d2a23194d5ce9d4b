import KataDeviceProvisioner.Ports.Preflight

/-!
# What is in scope, and what the mode leaves on the host

The devices in scope are devices of the inventory with a row in the device
table, each once.  Probing changes none of what decides how a device is
handled, so the states a run goes on with stand for the same devices.
-/

namespace KataDeviceProvisioner.Ports.Main

open KataDeviceProvisioner.Verified

variable {plat : Platform} {node : Node} {mode : Mode} {found : List DeviceState}

/-! ## The inventory -/

/-- A device as sysfs lists it on a node. -/
def listedDev (node : Node) (dev : PciDevice) : PciDevice :=
  { dev with driver := (node.driver dev.address).getD "" }

theorem scope_eq (h : inScope plat.pci (plat.sysfs node) = .ok found) :
    ∃ devs, plat.inventory = .ok devs ∧
      found = (((devs.map (listedDev node)).filter fun dev =>
        plat.pci.isPassthroughCapableClass dev.classCode).map (discovered plat.pci)).filter
          DeviceState.inScope := by
  unfold inScope discover Platform.sysfs Platform.listed at h
  cases hinv : plat.inventory with
  | error e =>
      rw [hinv] at h
      cases h
  | ok devs =>
      rw [hinv] at h
      exact ⟨devs, rfl, (Except.ok.inj h).symm⟩

/-- A device in scope is a device of the inventory that has a row. -/
theorem mem_scope (h : inScope plat.pci (plat.sysfs node) = .ok found) {state : DeviceState}
    (hstate : state ∈ found) :
    ∃ devs, plat.inventory = .ok devs ∧ ∃ dev ∈ devs,
      state = discovered plat.pci (listedDev node dev) ∧
        (rowFor dev.vendor dev.classCode).isSome := by
  obtain ⟨devs, hinv, rfl⟩ := scope_eq h
  obtain ⟨hmem, hscope⟩ := List.mem_filter.mp hstate
  obtain ⟨dev', hdev', rfl⟩ := List.mem_map.mp hmem
  obtain ⟨dev, hdev, rfl⟩ := List.mem_map.mp (List.mem_filter.mp hdev').1
  exact ⟨devs, hinv, dev, hdev, rfl, hscope⟩

/-- The devices in scope have distinct addresses. -/
theorem scope_nodup (h : inScope plat.pci (plat.sysfs node) = .ok found) :
    (found.map (·.address)).Nodup := by
  obtain ⟨devs, hinv, rfl⟩ := scope_eq h
  have hsub : List.Sublist ((((devs.map (listedDev node)).filter fun dev =>
      plat.pci.isPassthroughCapableClass dev.classCode).map (discovered plat.pci)).filter
        DeviceState.inScope |>.map (·.address)) (devs.map (·.address)) := by
    have hall : (devs.map (listedDev node)).map (fun dev => (discovered plat.pci dev).address) =
        devs.map (·.address) := by
      rw [List.map_map]
      rfl
    rw [← hall]
    refine (List.filter_sublist.map _).trans ?_
    rw [List.map_map]
    exact List.filter_sublist.map _
  exact (plat.distinct devs hinv).sublist hsub

theorem eq_of_address (hnodup : (found.map (·.address)).Nodup) {state other : DeviceState}
    (hstate : state ∈ found) (hother : other ∈ found) (h : state.address = other.address) :
    state = other :=
  List.inj_on_of_nodup_map hnodup hstate hother h

/-- A device of the inventory at an address in scope has a row. -/
theorem row_of_inSet (h : inScope plat.pci (plat.sysfs node) = .ok found)
    {devs : List PciDevice} (hinv : plat.inventory = .ok devs) {dev : PciDevice}
    (hdev : dev ∈ devs) (hin : inSet found dev.address = true) :
    (rowFor dev.vendor dev.classCode).isSome := by
  obtain ⟨state, hstate, haddress⟩ := List.any_eq_true.mp hin
  obtain ⟨devs', hinv', dev', hdev', rfl, hrow⟩ := mem_scope h hstate
  rw [hinv] at hinv'
  obtain rfl := Except.ok.inj hinv'
  have heq : dev'.address = dev.address := by simpa [discovered, listedDev] using haddress
  have hsame : dev' = dev :=
    List.inj_on_of_nodup_map (plat.distinct devs hinv) hdev' hdev heq
  rw [← hsame]
  exact hrow

/-! ## The passthrough set -/

theorem passthrough_subset {state : DeviceState} (h : state ∈ passthroughSet found mode) :
    state ∈ found :=
  (List.mem_filter.mp h).1

theorem passthrough_nodup (hnodup : (found.map (·.address)).Nodup) :
    ((passthroughSet found mode).map (·.address)).Nodup :=
  hnodup.sublist (List.filter_sublist.map _)

theorem inSet_iff {states : List DeviceState} {address : String} :
    inSet states address = true ↔ ∃ state ∈ states, state.address = address := by
  simp [inSet]

/-- Among devices in scope, membership is decided by the address. -/
theorem inSet_passthrough (hnodup : (found.map (·.address)).Nodup) {state : DeviceState}
    (hstate : state ∈ found) :
    inSet (passthroughSet found mode) state.address = true ↔
      state ∈ passthroughSet found mode := by
  rw [inSet_iff]
  constructor
  · intro ⟨other, hother, haddress⟩
    rwa [← eq_of_address hnodup (passthrough_subset hother) hstate haddress]
  · intro hmem
    exact ⟨state, hmem, rfl⟩

/-- Outside the passthrough set are the switches, unless the mode is PPCIE. -/
theorem not_mem_passthrough {state : DeviceState} (hstate : state ∈ found) :
    state ∉ passthroughSet found mode ↔
      mode ≠ .ppcie ∧ state.provisioning = some .nvidiaInBandPpcie := by
  unfold passthroughSet
  rw [List.mem_filter]
  by_cases hmode : mode = .ppcie
  · simp [hmode, hstate]
  · simp [hmode, hstate]

/-! ## Probing -/

/-- A probed state stands for the same device. -/
theorem Probed.same {state : DeviceState} {probed : DeviceState × Option (String × String)}
    (h : Probed plat node state probed) :
    probed.1.address = state.address ∧ probed.1.iommuGroup = state.iommuGroup ∧
      Handle.of probed.1 = Handle.of state := by
  rcases h with rfl | ⟨reason, rfl⟩
  · exact ⟨rfl, rfl, rfl⟩
  · exact ⟨rfl, rfl, rfl⟩

section Probes

variable {probed : List (DeviceState × Option (String × String))}
  (h : List.Forall₂ (Probed plat node) found probed)

include h

theorem probes_inSet (address : String) :
    inSet (probed.map (·.1)) address = inSet found address := by
  induction h with
  | nil => rfl
  | cons hprobe _ ih =>
      unfold inSet at ih ⊢
      simp only [List.map_cons, List.any_cons, hprobe.same.1, ih]

/-- The passthrough set was taken before probing, and is among what was probed. -/
theorem passthrough_inSet {state : DeviceState} (hstate : state ∈ passthroughSet found mode) :
    inSet (probed.map (·.1)) state.address = true := by
  rw [probes_inSet h]
  exact inSet_iff.mpr ⟨state, passthrough_subset hstate, rfl⟩

/-- The devices that can be opened are the same after probing. -/
theorem openable_of_probes {state : DeviceState} {handle : Handle}
    (hopen : Nvidia.Openable found state handle) :
    ∃ state', Nvidia.Openable (probed.map (·.1)) state' handle ∧
      state'.address = state.address := by
  obtain ⟨entry, hentry, hprobe⟩ := forall₂_of_mem_left h hopen.1
  obtain ⟨haddress, _, hof⟩ := hprobe.same
  exact ⟨entry.1, ⟨List.mem_map_of_mem hentry, hof.trans hopen.2⟩, haddress⟩

end Probes

end KataDeviceProvisioner.Ports.Main
