import KataDeviceProvisioner.Ports.ChartRuns
import KataDeviceProvisioner.Ports.Rerun

/-!
# The labels of a node and of its GPUs

The dispatcher labels a node with the mode its run was rendered for, and reads
no hardware.  `cc_label_values` says what the hardware would report, PPCIE
before per-GPU CC.  After a run that completed the two agree, because no GPU
without the mode was let through and the rest read back where they were put.
-/

namespace KataDeviceProvisioner.Ports.Main

open KataDeviceProvisioner.Verified

variable {plat : Platform} {A : Adversary} {node node' : Node} {t : List (Event Op Node)}
  {mode : Mode} {found : List DeviceState} {drivers : Drivers}

/-! ## Probing for `status` -/

theorem status_done {all : Bool} {states : List DeviceState} {failures : List (String × String)}
    (h : Runs plat.machine A (status plat true all) node (.done (states, failures)) node' t) :
    ∃ devices probed, discover plat.pci (plat.sysfs node) = .ok devices ∧
      List.Forall₂ (Probed plat node)
        (devices.filter fun state => all || state.inScope) probed ∧
      states = probed.map (·.1) ∧ failures = unreadable probed := by
  obtain ⟨sysfs, s₁, t₁, u₁, hlook, hrest₁, _⟩ := runs_bind_done.mp h
  obtain ⟨rfl, rfl⟩ := runs_readSysfs hlook
  obtain ⟨devices, s₂, t₂, u₂, hdiscover, hrest₂, _⟩ := runs_bind_done.mp hrest₁
  obtain ⟨hdevices, rfl, _⟩ := runs_ofExcept_done.mp hdiscover
  refine ⟨devices, ?_⟩
  dsimp only at hrest₂
  by_cases hempty : (devices.filter fun state => all || state.inScope).isEmpty = true
  · rw [if_pos hempty] at hrest₂
    obtain ⟨rfl, rfl⟩ := Prod.mk.inj (Outcome.done.inj (runs_pure_iff.mp hrest₂).1)
    rw [List.isEmpty_iff] at hempty
    exact ⟨[], hdevices, hempty ▸ .nil, rfl, rfl⟩
  · rw [if_neg hempty, if_pos rfl] at hrest₂
    obtain ⟨_, s₃, t₃, u₃, hprobeable, hprobe, _⟩ := runs_bind_done.mp hrest₂
    obtain ⟨_, rfl, _⟩ := runs_ofExcept_done.mp hprobeable
    obtain ⟨probed, hprobed, hresult⟩ := probeModes_done hprobe
    obtain ⟨rfl, rfl⟩ := Prod.mk.inj hresult
    exact ⟨probed, hdevices, hprobed, rfl, rfl⟩

/-- A device that is not named among the unreadable ones has been read. -/
theorem read_of_not_unreadable {devices : List DeviceState}
    {probed : List (DeviceState × Option (String × String))}
    (h : List.Forall₂ (Probed plat node) devices probed) {state : DeviceState}
    (hstate : state ∈ probed.map (·.1)) (hread : state.address ∉ (unreadable probed).map (·.1)) :
    ∃ device ∈ devices, state = withModes device (reading plat node device) := by
  obtain ⟨entry, hentry, rfl⟩ := List.mem_map.mp hstate
  obtain ⟨device, hdevice, hprobed⟩ := forall₂_of_mem_right h hentry
  refine ⟨device, hdevice, ?_⟩
  rcases hprobed with rfl | ⟨reason, rfl⟩
  · rfl
  · refine absurd ?_ hread
    refine List.mem_map.mpr ⟨(device.address, reason), ?_, rfl⟩
    exact List.reduceOption_mem_iff.mpr (List.mem_map.mpr ⟨_, hentry, rfl⟩)

/-! ## Labels -/

/-- What the labels of a node in the mode say of whether it is ready. -/
def readyText (mode : Mode) : String := if mode ≠ .off then "true" else "false"

/-- Where the library opens a GPU it agrees with the chip table on which have
PPCIE. -/
def PpcieAgrees (plat : Platform) : Prop :=
  ∀ devs, plat.inventory = .ok devs → ∀ dev ∈ devs,
    supportsPpcie plat.pci dev.device = true → plat.gpuSupportsPpcie dev.address = true

/-- Every GPU row has labels. -/
theorem gpu_ccLabels {vendor : UInt16} {classCode : UInt32} {row : DeviceRow}
    (hrow : rowFor vendor classCode = some row) (hgpu : row.provisioning = .nvidiaInBandCc) :
    row.ccLabels = some nvidiaCcLabels := by
  have hall : ∀ row ∈ devices, row.provisioning = .nvidiaInBandCc →
      row.ccLabels = some nvidiaCcLabels := by
    decide
  unfold rowFor at hrow
  exact hall row (List.mem_of_find?_eq_some hrow) hgpu

section Gpu

variable {dev : PciDevice} (hgpu : (discovered plat.pci dev).provisioning = some .nvidiaInBandCc)

include hgpu

theorem gpu_row : ((discovered plat.pci dev).row.bind (·.ccLabels)) = some nvidiaCcLabels ∧
    (discovered plat.pci dev).ccChip = ccChip plat.pci dev.device := by
  unfold DeviceState.provisioning at hgpu
  cases hrow : (discovered plat.pci dev).row with
  | none =>
      rw [hrow] at hgpu
      cases hgpu
  | some row =>
      rw [hrow] at hgpu
      have hprovisioning := Option.some.inj hgpu
      have hfor : rowFor dev.vendor dev.classCode = some row := hrow
      refine ⟨gpu_ccLabels hfor hprovisioning, ?_⟩
      simp only [discovered, hfor, Option.map_some, hprovisioning]

/-- A GPU that can carry a mode other than off has a confidential computing
mode. -/
theorem ccCapable_of_canCarry (hmode : mode ≠ .off)
    (h : CanCarry plat.pci (discovered plat.pci dev) mode) :
    (discovered plat.pci dev).ccCapable = true := by
  cases mode with
  | off => exact absurd rfl hmode
  | on => exact h.1
  | devTools => exact h.1
  | ppcie =>
      have hcarries : (discovered plat.pci dev).carriesPpcie plat.pci = true := h
      unfold DeviceState.carriesPpcie at hcarries
      rw [hgpu] at hcarries
      have hhopper : (plat.pci.chipFor dev.device).any (·.hopper) = true := hcarries
      have hchip : (ccChip plat.pci dev.device).isSome = true := by
        unfold ccChip
        cases hfor : plat.pci.chipFor dev.device with
        | none =>
            rw [hfor] at hhopper
            cases hhopper
        | some chip => rfl
      unfold DeviceState.ccCapable
      rw [hgpu, (gpu_row hgpu).2, hchip]
      rfl

variable (dev) in
/-- Read in the mode, a GPU that can carry it reports it. -/
theorem ccLabelValues_targets
    (hppcie : mode = .ppcie → plat.gpuSupportsPpcie dev.address = true) :
    (withModes (discovered plat.pci dev)
        (plat.view (.gpu dev.address) mode.targets)).ccLabelValues =
      [(nvidiaCcLabels.modeState, mode.toString), (nvidiaCcLabels.readyState, readyText mode)] := by
  have hrow : (withModes (discovered plat.pci dev)
      (plat.view (.gpu dev.address) mode.targets)).row.bind (·.ccLabels) =
        some nvidiaCcLabels := (gpu_row hgpu).1
  unfold DeviceState.ccLabelValues
  rw [hrow]
  by_cases hs : plat.gpuSupportsPpcie dev.address = true
  · cases mode <;> simp [withModes, Platform.view, Handle.view, hs, Mode.targets, Mode.ccTarget,
      Mode.ppcieTarget, CcMode.toString, Mode.toString, readyText]
  · have hnot : mode ≠ .ppcie := fun h => hs (hppcie h)
    cases mode <;> simp_all [withModes, Platform.view, Handle.view, Mode.targets, Mode.ccTarget,
      Mode.ppcieTarget, CcMode.toString, Mode.toString, readyText]

variable (dev) in
/-- A GPU is opened if it has a confidential computing mode. -/
theorem gpu_handle : Handle.of (discovered plat.pci dev) =
    if (discovered plat.pci dev).ccCapable then some (.gpu dev.address) else none := by
  unfold Handle.of
  rw [hgpu]
  rfl

variable (dev) in
theorem ccLabelValues_none :
    (withModes (discovered plat.pci dev) (none, none)).ccLabelValues = [] := by
  have hrow : (withModes (discovered plat.pci dev) (none, none)).row.bind (·.ccLabels) =
      some nvidiaCcLabels := (gpu_row hgpu).1
  unfold DeviceState.ccLabelValues
  rw [hrow]
  rfl

end Gpu

/-! ## After a run that completed -/

/-- What a GPU that was read reports on a node a run has put into `mode`. -/
structure Reports (mode : Mode) (state : DeviceState) : Prop where
  labels : state.ccLabelValues = [] ∨
    state.ccLabelValues =
      [(nvidiaCcLabels.modeState, mode.toString), (nvidiaCcLabels.readyState, readyText mode)]
  /-- A GPU without a confidential computing mode, on a node that has it off. -/
  unlabelled : state.ccLabelValues = [] → state.ccCapable = false ∧ mode = .off

/-- On a node in the mode, the devices in scope are those the run worked on. -/
theorem mem_found {devices : List DeviceState}
    (hscope : inScope plat.pci (plat.sysfs node) = .ok found)
    (hdiscover : discover plat.pci (plat.sysfs node') = .ok devices) {state : DeviceState}
    (hstate : state ∈ devices) (hin : state.inScope = true) :
    ∃ device ∈ found, state = rebound node' device := by
  have hagain := scope_rebound node' hscope
  unfold inScope at hagain
  rw [hdiscover] at hagain
  have hmem : state ∈ found.map (rebound node') := by
    rw [← Except.ok.inj hagain]
    exact List.mem_filter.mpr ⟨hstate, hin⟩
  obtain ⟨device, hdevice, rfl⟩ := List.mem_map.mp hmem
  exact ⟨device, hdevice, rfl⟩

/-- A device is opened the same way wherever it is found. -/
theorem handle_rebound {device : DeviceState} :
    Handle.of (rebound node' device) = Handle.of device := rfl

/-- A GPU reports the mode a completed run has put it into, or nothing if it
never could be in any other than off. -/
theorem gpu_reports (hpost : PostCondition plat mode node found drivers node' t)
    (hagrees : PpcieAgrees plat) {device : DeviceState} (hdevice : device ∈ found)
    (hgpu : device.provisioning = some .nvidiaInBandCc) :
    Reports mode (withModes (rebound node' device)
      (reading plat node' (rebound node' device))) := by
  obtain ⟨devs, hinv, dev, hdev, rfl, _⟩ := mem_scope hpost.scope hdevice
  have hcarry := fun hmode => hpost.capable hmode _ hdevice hgpu
  by_cases hcapable : (discovered plat.pci (listedDev node dev)).ccCapable = true
  · have hof := (gpu_handle (listedDev node dev) hgpu).trans (if_pos hcapable)
    have hreading : reading plat node' (rebound node' (discovered plat.pci (listedDev node dev))) =
        plat.view (.gpu dev.address) mode.targets := by
      unfold reading
      rw [handle_rebound, hof]
      exact hpost.modes _ _ ⟨hdevice, hof⟩
    have hppcie : mode = .ppcie → plat.gpuSupportsPpcie dev.address = true := by
      rintro rfl
      refine hagrees devs hinv dev hdev ?_
      have hcarries : (discovered plat.pci (listedDev node dev)).carriesPpcie plat.pci = true :=
        hcarry (by decide)
      unfold DeviceState.carriesPpcie at hcarries
      rw [hgpu] at hcarries
      exact hcarries
    have hlabels := ccLabelValues_targets (listedDev node' dev) hgpu hppcie
    rw [hreading]
    refine ⟨.inr hlabels, fun hnone => ?_⟩
    cases hlabels.symm.trans hnone
  · have hof := (gpu_handle (listedDev node dev) hgpu).trans (if_neg hcapable)
    have hreading : reading plat node' (rebound node' (discovered plat.pci (listedDev node dev))) =
        (none, none) := by
      unfold reading
      rw [handle_rebound, hof]
    rw [hreading]
    refine ⟨.inl (ccLabelValues_none (listedDev node' dev) hgpu), fun _ => ⟨?_, ?_⟩⟩
    · exact Bool.eq_false_iff.mpr hcapable
    · by_contra hmode
      exact hcapable (ccCapable_of_canCarry hgpu hmode (hcarry hmode))

theorem toString_of_fromStr {s : String} (h : Mode.fromStr s = .ok mode) : s = mode.toString := by
  unfold Mode.fromStr at h
  split at h
  next => rw [← Except.ok.inj h]; rfl
  next => rw [← Except.ok.inj h]; rfl
  next => rw [← Except.ok.inj h]; rfl
  next => rw [← Except.ok.inj h]; rfl
  next => cases h

/-- The labels the dispatcher writes for a run are what every GPU it worked on
reports. -/
theorem labels_match_hardware (plat : Platform) (hagrees : PpcieAgrees plat) (mode : Mode)
    (node : Node) (σ : List (Verdict Error Residue))
    (hdone : (exec plat.machine (apply plat mode) σ node).outcome = .done ())
    (all : Bool) (σ' : List (Verdict Error Residue)) (states : List DeviceState)
    (failures : List (String × String))
    (hstatus : (exec plat.machine (status plat true all) σ'
      (exec plat.machine (apply plat mode) σ node).state).outcome = .done (states, failures)) :
    (∀ state ∈ states, state.provisioning = some .nvidiaInBandCc →
      state.address ∉ failures.map (·.1) → Reports mode state) ∧
    ∀ lib root ds, Chart.dispatchersForProfile lib root = .ok ds →
      ∀ d ∈ ds, Mode.fromStr d.run.ccMode = .ok mode →
        d.nodeLabel = mode.toString ∧
          d.extraNodeLabel = root.values.ccModeReadyLabel ++ "=" ++ readyText mode := by
  constructor
  · obtain ⟨found, drivers, hpost⟩ := apply_done (exec_runs_done hdone)
    obtain ⟨devices, probed, hdiscover, hprobed, rfl, rfl⟩ := status_done (exec_runs_done hstatus)
    intro state hstate hgpu hread
    obtain ⟨device, hdevice, rfl⟩ := read_of_not_unreadable hprobed hstate hread
    have hin : device.inScope = true := by
      have hrow : (device.row.map (·.provisioning)).isSome = true := by
        have hsome : device.row.map (·.provisioning) = some .nvidiaInBandCc := hgpu
        rw [hsome]
        rfl
      rwa [Option.isSome_map] at hrow
    obtain ⟨found', hfound', rfl⟩ :=
      mem_found hpost.scope hdiscover (List.mem_filter.mp hdevice).1 hin
    exact gpu_reports hpost hagrees hfound' hgpu
  · intro lib root ds hds d hd hmode
    obtain ⟨_, _, _, image, _, _, _, _, rfl⟩ := Chart.dispatchers_ok hds
    obtain ⟨run, _, rfl⟩ := List.mem_map.mp hd
    rw [Chart.dispatcher_run] at hmode
    rw [Chart.dispatcher_nodeLabel, Chart.dispatcher_extraNodeLabel, toString_of_fromStr hmode]
    refine ⟨rfl, congrArg (root.values.ccModeReadyLabel ++ "=" ++ ·) ?_⟩
    cases mode <;> rfl

/-- A GPU of the baseboard taken into PPCIE, seen afterwards. -/
theorem labels_match_hardware_baseboard :
    ∃ states failures,
      (exec (Bench.platform Bench.baseboard).machine
        (status (Bench.platform Bench.baseboard) true true) []
        (exec (Bench.platform Bench.baseboard).machine
          (apply (Bench.platform Bench.baseboard) .ppcie) [] Bench.dirty).state).outcome =
        .done (states, failures) ∧
      ∃ state ∈ states, Reports .ppcie state := by
  have hagrees : PpcieAgrees (Bench.platform Bench.baseboard) := by
    intro devs hinv
    obtain rfl := Except.ok.inj hinv
    decide
  have hdone : (exec (Bench.platform Bench.baseboard).machine
      (apply (Bench.platform Bench.baseboard) .ppcie) [] Bench.dirty).outcome = .done () := by
    decide +kernel
  have hread : ((exec (Bench.platform Bench.baseboard).machine
      (status (Bench.platform Bench.baseboard) true true) []
      (exec (Bench.platform Bench.baseboard).machine
        (apply (Bench.platform Bench.baseboard) .ppcie) [] Bench.dirty).state).outcome.result.any
      fun seen => seen.1.any fun state =>
        state.provisioning = some .nvidiaInBandCc && !(seen.2.map (·.1)).contains state.address) =
      true := by
    decide +kernel
  cases hstatus : (exec (Bench.platform Bench.baseboard).machine
      (status (Bench.platform Bench.baseboard) true true) []
      (exec (Bench.platform Bench.baseboard).machine
        (apply (Bench.platform Bench.baseboard) .ppcie) [] Bench.dirty).state).outcome with
  | stopped why =>
      rw [hstatus] at hread
      cases hread
  | done seen =>
      rw [hstatus] at hread
      obtain ⟨state, hstate, hgpu⟩ := List.any_eq_true.mp hread
      simp only [Bool.and_eq_true, decide_eq_true_eq, Bool.not_eq_true', List.contains_eq_mem,
        decide_eq_false_iff_not] at hgpu
      exact ⟨seen.1, seen.2, rfl, state, hstate,
        (labels_match_hardware _ hagrees .ppcie Bench.dirty [] hdone true [] seen.1 seen.2
          hstatus).1 state hstate hgpu.1 hgpu.2⟩

end KataDeviceProvisioner.Ports.Main
