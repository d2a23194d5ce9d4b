import KataDeviceProvisioner.Ports.Labels
import KataDeviceProvisioner.Ports.Lifecycle

/-!
# What is printed

The lines `status` and the mode stage print, `target_of` among them, all from
`src/main.rs`.  They are what an operator goes by, so they should be true of the
hardware: `modeStage_truthful` is about what a mode change says it did, and
`status_truthful` about what a probe says it found.

The order of the lines on standard error is that of a hash map, and left open.
-/

namespace KataDeviceProvisioner.Ports

open KataDeviceProvisioner.Verified

namespace Nvidia

variable {plat : Platform} {A : Adversary} {node node' : Node} {t : List (Event Op Node)}
  {mode : Mode} {states : List DeviceState}

/-! ## What a mode change returns -/

/-- The devices a mode change opens. -/
def opened (states : List DeviceState) : List (DeviceState × Handle) :=
  states.filterMap fun state => (Handle.of state).map fun handle => (state, handle)

theorem mem_opened {device : DeviceState × Handle} :
    device ∈ opened states ↔ Openable states device.1 device.2 := by
  unfold opened Openable
  rw [List.mem_filterMap]
  constructor
  · rintro ⟨state, hstate, hof⟩
    obtain ⟨handle, hhandle, rfl⟩ := Option.map_eq_some_iff.mp hof
    exact ⟨hstate, hhandle⟩
  · rintro ⟨hstate, hof⟩
    exact ⟨device.1, hstate, by rw [hof]; rfl⟩

/-- What was planned for a device, which is on what it was opened with. -/
def planned (plat : Platform) (node : Node) (mode : Mode) (device : DeviceState × Handle) :
    Planned where
  state := device.1
  handle := device.2
  writes := writesFor (plat.view device.2 (node.board device.1.address).knob).1
    (plat.view device.2 (node.board device.1.address).knob).2 mode

theorem plansFor_opened (plat : Platform) (node : Node) (mode : Mode)
    (states : List DeviceState) :
    plansFor plat node.board mode states = (opened states).map (planned plat node mode) := by
  unfold plansFor opened
  rw [List.map_filterMap]
  refine List.filterMap_congr fun state _ => ?_
  rw [Option.map_map]
  rfl

section Device

variable {outcomes : List (String × Transition)}
  (h : BoardRun plat A states mode node (.done outcomes) node' t)

include h in
theorem BoardRun.outcomes_done :
    outcomes = (plansFor plat node.board mode states).map outcomeOf := by
  generalize hout : Outcome.done outcomes = out at h
  cases h with
  | planning | writing | resetting => cases hout
  | @verifying last _ _ _ _ _ _ _ _ _ _ =>
      cases last with
      | done _ => exact Outcome.done.inj hout
      | stopped why => cases hout

variable (hnodup : (states.map (·.address)).Nodup) {plan : Planned}
  (hplan : plan ∈ plansFor plat node.board mode states)

include h hnodup hplan

/-- No device is reset that needs nothing, and every other one is. -/
theorem BoardRun.left_or_reset :
    (plan.writes = [] → ∀ e ∈ t, e.op.device = some plan.handle.address → e.op.Silent) ∧
      (plan.writes ≠ [] → ∃ e ∈ t, e.op = .reset plan.handle) := by
  generalize hout : Outcome.done outcomes = out at h
  cases h with
  | planning | writing | resetting => cases hout
  | @verifying _ s₁ s₂ t₀ t₁ t₂ t₃ hprobe hwrite hreset hverify =>
      obtain ⟨hwrites, _⟩ := hwrite.complete rfl
      obtain ⟨hresets, _⟩ := hreset.complete rfl
      constructor
      · intro hnil e he hdevice
        obtain ⟨hnoWrite, hnoReset⟩ :=
          unplanned_device (nodup_plansFor hnodup) hplan hnil
        simp only [List.mem_append] at he
        rcases he with he | he | he | he
        · exact ((planBoard_probes hprobe).2 e he).1.silent
        · exact absurd hdevice (hnoWrite _ (hwrites ▸ List.mem_map_of_mem he))
        · exact absurd hdevice (hnoReset _ (hresets ▸ List.mem_map_of_mem he))
        · exact ((verifies_run hverify).2.1 e he).1.silent
      · intro hne
        have hmem : Op.reset plan.handle ∈ t₂.map (·.op) := by
          rw [hresets]
          exact List.mem_map_of_mem (mem_pending.mpr ⟨hplan, hne⟩)
        obtain ⟨e, he, hop⟩ := List.mem_map.mp hmem
        exact ⟨e, by simp [he], hop⟩

/-- By the end a device has its modes where they were to be. -/
theorem BoardRun.view_done :
    plat.view plan.handle (node'.board plan.handle.address).knob =
      plat.view plan.handle mode.targets := by
  obtain ⟨hkept, hmoved⟩ := h.device_done hnodup hplan
  by_cases hnil : plan.writes = []
  · rw [hkept hnil]
    exact (writes_eq_nil_iff hplan).mp hnil
  · exact (hmoved hnil).1

end Device

end Nvidia

namespace Main

variable {plat : Platform} {A : Adversary} {node node' : Node} {t : List (Event Op Node)}
  {mode : Mode} {states : List DeviceState}

/-! ## A mode change -/

section Lines

variable (pci : Pcilibs)

/-- Per knob, not per node or per device kind: under `ppcie` a Hopper GPU takes
CC off and PPCIE on, and naming one of them reports what it did not do. -/
def targetOf (states : List DeviceState) (address : String) (mode : Mode) : String :=
  match states.find? fun state => state.address == address with
  | none => "cc " ++ mode.ccTarget.toString
  | some state =>
      let cc := if state.ccCapable then ["cc " ++ mode.ccTarget.toString] else []
      let ppcie := if state.carriesPpcie pci then ["ppcie " ++ mode.ppcieTarget.toString] else []
      ", ".intercalate (cc ++ ppcie)

/-- A GPU without in-band CC has no mode to change. -/
def bindOnlyLine (state : DeviceState) : Option String :=
  if state.provisioning == some .nvidiaInBandCc && !state.ccCapable then
    some (state.address ++ ": no CC support, bind only")
  else none

def transitionLine (states : List DeviceState) (mode : Mode)
    (outcome : String × Nvidia.Transition) : String :=
  let target := targetOf pci states outcome.1 mode
  match outcome.2 with
  | .alreadySet => outcome.1 ++ ": already " ++ target
  | .applied => outcome.1 ++ ": set to " ++ target ++ " and reset"

end Lines

/-- What `mode_stage` prints when it goes through. -/
def modeStageLines (plat : Platform) (states : List DeviceState) (mode : Mode) :
    Provision (List String) := do
  let outcomes ← Nvidia.apply plat states mode
  return states.filterMap bindOnlyLine ++ outcomes.map (transitionLine plat.pci states mode)

/-- They say what the stage came to and are no part of it. -/
theorem modeStage_eq (plat : Platform) (states : List DeviceState) (mode : Mode) :
    modeStage plat states mode = (do let _ ← modeStageLines plat states mode) := by
  unfold modeStage modeStageLines
  rw [bind_assoc]
  rfl

/-- The modes of a device as the lines spell them. -/
def modesText (modes : Option CcMode × Option PpcieMode) : String :=
  let cc := modes.1.toList.map fun cc => "cc " ++ cc.toString
  let ppcie := modes.2.toList.map fun ppcie => "ppcie " ++ ppcie.toString
  ", ".intercalate (cc ++ ppcie)

/-- Where the library opens a GPU, it has PPCIE exactly if the chip table says
so. -/
def PpcieKnown (plat : Platform) (states : List DeviceState) : Prop :=
  ∀ state ∈ states, state.provisioning = some .nvidiaInBandCc →
    plat.gpuSupportsPpcie state.address = supportsPpcie plat.pci state.deviceId

/-- The knobs a device is said to have are those it is opened with. -/
theorem view_known (hknown : PpcieKnown plat states) {state : DeviceState} {handle : Handle}
    (hopen : Nvidia.Openable states state handle) (knobs : Knobs) :
    plat.view handle knobs =
      (if state.ccCapable then some knobs.cc else none,
        if state.carriesPpcie plat.pci then some knobs.ppcie else none) := by
  obtain ⟨hstate, hof⟩ := hopen
  unfold Handle.of at hof
  unfold DeviceState.carriesPpcie Platform.view
  cases hprovisioning : state.provisioning with
  | none =>
      rw [hprovisioning] at hof
      cases hof
  | some provisioning =>
      rw [hprovisioning] at hof
      cases provisioning with
      | nvidiaInBandCc =>
          dsimp only at hof
          by_cases hcapable : state.ccCapable = true
          · rw [if_pos hcapable] at hof
            rw [← Option.some.inj hof, if_pos hcapable, Handle.view,
              hknown state hstate hprovisioning]
          · rw [if_neg hcapable] at hof
            cases hof
      | nvidiaInBandPpcie =>
          have hnot : ¬state.ccCapable = true := by
            simp [DeviceState.ccCapable, hprovisioning]
          rw [← Option.some.inj hof, if_neg hnot]
          rfl

theorem targetOf_eq (hknown : PpcieKnown plat states) (hnodup : (states.map (·.address)).Nodup)
    {state : DeviceState} {handle : Handle} (hopen : Nvidia.Openable states state handle) :
    targetOf plat.pci states state.address mode = modesText (plat.view handle mode.targets) := by
  have hfind : states.find? (fun other => other.address == state.address) = some state := by
    have hsome : (states.find? fun other => other.address == state.address).isSome = true :=
      List.find?_isSome.mpr ⟨state, hopen.1, beq_self_eq_true state.address⟩
    obtain ⟨other, hother⟩ := Option.isSome_iff_exists.mp hsome
    have haddress : other.address = state.address := by
      simpa using List.find?_some hother
    rw [hother, List.inj_on_of_nodup_map hnodup (List.mem_of_find?_eq_some hother) hopen.1 haddress]
  unfold targetOf modesText
  rw [hfind, view_known hknown hopen]
  dsimp only
  cases state.ccCapable <;> cases state.carriesPpcie plat.pci <;> rfl

/-- What a completed mode change says of a device it has opened. -/
inductive Told (plat : Platform) (node' : Node) (t : List (Event Op Node))
    (device : DeviceState × Handle) : String → Prop where
  | already (hleft : ∀ e ∈ t, e.op.device = some device.1.address → e.op.Silent) :
      Told plat node' t device (device.1.address ++ ": already " ++
        modesText (plat.view device.2 (node'.board device.1.address).knob))
  | changed (hreset : ∃ e ∈ t, e.op = .reset device.2)
      (hactive : (node'.board device.1.address).active = (node'.board device.1.address).knob) :
      Told plat node' t device (device.1.address ++ ": set to " ++
        modesText (plat.view device.2 (node'.board device.1.address).knob) ++ " and reset")

/-- A device in scope is one to open, or one that is only bound. -/
theorem length_bindOnly_opened (states : List DeviceState) :
    (states.filterMap bindOnlyLine).length + (Nvidia.opened states).length =
      (states.filter (·.inScope)).length := by
  have hone : ∀ state : DeviceState,
      (bindOnlyLine state).toList.length + (Handle.of state).toList.length =
        if state.inScope then 1 else 0 := by
    intro state
    unfold bindOnlyLine Handle.of DeviceState.inScope
    have hsome : state.row.isSome = state.provisioning.isSome := Option.isSome_map.symm
    rw [hsome]
    cases hprovisioning : state.provisioning with
    | none => rfl
    | some provisioning =>
        cases provisioning with
        | nvidiaInBandCc => cases state.ccCapable <;> rfl
        | nvidiaInBandPpcie => rfl
  induction states with
  | nil => rfl
  | cons state states ih =>
      have hfirst := hone state
      unfold Nvidia.opened at ih ⊢
      rw [List.filterMap_cons, List.filterMap_cons, List.filter_cons]
      cases hline : bindOnlyLine state <;> cases hof : Handle.of state <;>
        cases hin : state.inScope <;> simp_all <;> omega

/-- What a mode change that goes through prints is so: every device in scope has
its line, those without CC support first, and each of the others is told of with
the modes it has and what they are by then. -/
theorem modeStage_truthful (hknown : PpcieKnown plat states)
    (hnodup : (states.map (·.address)).Nodup) {lines : List String}
    (h : Runs plat.machine A (modeStageLines plat states mode) node (.done lines) node' t) :
    lines.length = (states.filter (·.inScope)).length ∧
      ∃ told, lines = states.filterMap bindOnlyLine ++ told ∧
        List.Forall₂ (Told plat node' t) (Nvidia.opened states) told := by
  obtain ⟨outcomes, s₁, t₁, u₁, hmode, hret, rfl⟩ := runs_bind_done.mp h
  obtain ⟨hlines, rfl, rfl⟩ := runs_pure_iff.mp hret
  obtain rfl := Outcome.done.inj hlines
  rw [List.append_nil]
  have hboard := Nvidia.apply_boardRun hmode
  have houtcomes : outcomes =
      (Nvidia.opened states).map (Nvidia.outcomeOf ∘ Nvidia.planned plat node mode) := by
    rw [hboard.outcomes_done, Nvidia.plansFor_opened, List.map_map]
  constructor
  · rw [houtcomes, List.length_append, List.length_map, List.length_map]
    exact length_bindOnly_opened states
  · refine ⟨_, rfl, ?_⟩
    rw [houtcomes, List.map_map, List.forall₂_map_right_iff, List.forall₂_same]
    intro device hdevice
    have hopen := Nvidia.mem_opened.mp hdevice
    have haddress : device.2.address = device.1.address := Handle.of_address hopen.2
    have hplan : Nvidia.planned plat node mode device ∈
        Nvidia.plansFor plat node.board mode states := by
      rw [Nvidia.plansFor_opened]
      exact List.mem_map_of_mem hdevice
    have htarget : targetOf plat.pci states device.1.address mode =
        modesText (plat.view device.2 (node'.board device.1.address).knob) := by
      rw [targetOf_eq hknown hnodup hopen, ← haddress]
      exact congrArg modesText (hboard.view_done hnodup hplan).symm
    obtain ⟨hleft, hreset⟩ := hboard.left_or_reset hnodup hplan
    show Told plat node' t₁ device (transitionLine plat.pci states mode
      (device.1.address, if (Nvidia.planned plat node mode device).writes.isEmpty then _ else _))
    by_cases hnil : (Nvidia.planned plat node mode device).writes = []
    · rw [if_pos (List.isEmpty_iff.mpr hnil), transitionLine, htarget]
      exact .already fun e he hdevice => hleft hnil e he (by rw [hdevice, ← haddress]; rfl)
    · rw [if_neg (by simpa using hnil), transitionLine, htarget]
      refine .changed (hreset hnil) ?_
      rw [← haddress]
      exact ((hboard.device_done hnodup hplan).2 hnil).2

/-- A baseboard taken into PPCIE, of which the GPU has two modes and the switch
one. -/
theorem modeStage_truthful_baseboard :
    let plat := Bench.platform Bench.baseboard
    let states := Bench.states Bench.baseboard
    let run := exec plat.machine (modeStageLines plat states .ppcie) [] Bench.dirty
    let lines :=
      [ "0000:65:00.0: set to cc off, ppcie on and reset"
      , "0000:06:00.0: set to ppcie on and reset" ]
    run.outcome = .done lines ∧ lines.length = (states.filter (·.inScope)).length ∧
      ∃ told, lines = states.filterMap bindOnlyLine ++ told ∧
        List.Forall₂ (Told plat run.state run.events) (Nvidia.opened states) told := by
  intro plat states run lines
  have hdone : run.outcome = .done lines := by decide +kernel
  have hrun := exec_runs_absent plat.machine (modeStageLines plat states .ppcie) Bench.dirty
  rw [show (exec _ _ _ _).outcome = .done lines from hdone] at hrun
  have hknown : PpcieKnown plat states := by
    unfold PpcieKnown
    decide
  exact ⟨hdone, modeStage_truthful hknown (by decide) hrun⟩

/-! ## The status of a node -/

/-- `#0` and the width, which counts the prefix. -/
def hexPrefixed (width n : Nat) : String :=
  let digits := Nat.toDigits 16 n
  "0x" ++ String.ofList (List.replicate (width - 2 - digits.length) '0' ++ digits)

def provisioningText : Option Provisioning → String
  | some .nvidiaInBandCc => "nvidia-in-band-cc"
  | some .nvidiaInBandPpcie => "nvidia-in-band-ppcie"
  | none => "out-of-scope"

/-- A mode, or why there is none to show. -/
def modeText (probe has : Bool) : Option String → String
  | some mode => mode
  | none => if has then (if probe then "unreadable" else "capable") else "n/a"

section Status

variable (pci : Pcilibs) (probe : Bool)

/-- The line of a device, with its modes as they are shown. -/
def deviceLine (state : DeviceState) (cc ppcie : String) : String :=
  state.address ++ "  " ++ "0x" ++ Text.hex4 state.vendor ++ ":" ++ Text.hex4 state.deviceId ++
    "  class=" ++ hexPrefixed 8 state.classCode.toNat ++ "  " ++
    provisioningText state.provisioning ++ "  chip=" ++ state.ccChip.getD "-" ++
    "  driver=" ++ state.driver.getD "<unbound>" ++ "  iommu_group=" ++
    toString state.iommuGroup ++ "  numa=" ++ toString state.numaNode ++ "  cc=" ++ cc ++
    "  ppcie=" ++ ppcie ++ "  " ++ state.deviceName

def labelLine (label : String × String) : String :=
  "    would label " ++ label.1 ++ "=" ++ label.2

def stateLines (state : DeviceState) : List String :=
  let cc := modeText probe state.ccChip.isSome (state.ccMode.map CcMode.toString)
  let ppcie := modeText probe (state.carriesPpcie pci) (state.ppcieMode.map PpcieMode.toString)
  deviceLine state cc ppcie :: state.ccLabelValues.map labelLine

/-- What `status` prints of what it found. -/
def statusLines (states : List DeviceState) : List String :=
  if states.isEmpty then ["no devices to provision (try --all to see what the node has)"]
  else states.flatMap (stateLines pci probe)

end Status

example : statusLines Bench.pci false (Bench.states Bench.singleGpu) =
    ["0000:65:00.0  0x10de:2330  class=0x030200  nvidia-in-band-cc  chip=GH100  " ++
      "driver=<unbound>  iommu_group=14  numa=0  cc=capable  ppcie=capable  H100"] := by
  decide +kernel

/-- What a node's firmware would have its labels be, going by the knobs. -/
def labelsOf (plat : Platform) (node : Node) (state : DeviceState) : List (String × String) :=
  (withModes state (reading plat node state)).ccLabelValues

/-- What a probe shows of a device. -/
inductive Shown (plat : Platform) (node : Node) (failures : List (String × String))
    (device : DeviceState) : List String → Prop where
  | read (hread : device.address ∉ failures.map (·.1)) :
      Shown plat node failures device
        (deviceLine device
          (if device.ccCapable then (node.board device.address).knob.cc.toString else "n/a")
          (if device.carriesPpcie plat.pci then (node.board device.address).knob.ppcie.toString
            else "n/a") ::
          (labelsOf plat node device).map labelLine)
  | unread (hfailed : device.address ∈ failures.map (·.1)) :
      Shown plat node failures device
        [deviceLine device (if device.ccCapable then "unreadable" else "n/a")
          (if device.carriesPpcie plat.pci then "unreadable" else "n/a")]

theorem discover_eq {devices : List DeviceState}
    (h : discover plat.pci (plat.sysfs node) = .ok devices) :
    (devices.map (·.address)).Nodup ∧
      ∀ state ∈ devices, ∃ dev, state = discovered plat.pci dev := by
  unfold discover Platform.sysfs Platform.listed at h
  cases hinv : plat.inventory with
  | error e =>
      rw [hinv] at h
      cases h
  | ok devs =>
      rw [hinv] at h
      obtain rfl := Except.ok.inj h
      constructor
      · have haddress : ((devs.map (listedDev node)).map fun dev =>
            (discovered plat.pci dev).address) = devs.map (·.address) := by
          rw [List.map_map]
          rfl
        refine (plat.distinct devs hinv).sublist ?_
        rw [← haddress, List.map_map]
        exact List.filter_sublist.map _
      · intro state hstate
        obtain ⟨dev, _, rfl⟩ := List.mem_map.mp hstate
        exact ⟨dev, rfl⟩

/-- What has a mode of its own is what is opened. -/
theorem chip_of_discovered (dev : PciDevice) :
    (discovered plat.pci dev).ccChip.isSome = (discovered plat.pci dev).ccCapable := by
  unfold DeviceState.ccCapable DeviceState.provisioning
  simp only [discovered]
  cases rowFor dev.vendor dev.classCode with
  | none => rfl
  | some row => cases hrow : row.provisioning <;> simp [hrow]

/-- A device that is not opened has no mode. -/
theorem modes_of_unopened {dev : PciDevice} (h : Handle.of (discovered plat.pci dev) = none) :
    (discovered plat.pci dev).ccCapable = false ∧
      (discovered plat.pci dev).carriesPpcie plat.pci = false := by
  have hchip : (discovered plat.pci dev).ccChip.isSome = (discovered plat.pci dev).ccCapable :=
    chip_of_discovered dev
  unfold Handle.of at h
  unfold DeviceState.carriesPpcie
  cases hprovisioning : (discovered plat.pci dev).provisioning with
  | none => simp [DeviceState.ccCapable, hprovisioning]
  | some provisioning =>
      rw [hprovisioning] at h
      cases provisioning with
      | nvidiaInBandPpcie => cases h
      | nvidiaInBandCc =>
          have hcapable : (discovered plat.pci dev).ccCapable = false := by
            rw [← Bool.not_eq_true]
            intro hcapable
            rw [if_pos hcapable] at h
            cases h
          rw [hcapable, (gpu_row hprovisioning).2] at hchip
          refine ⟨hcapable, ?_⟩
          show supportsPpcie plat.pci dev.device = false
          unfold supportsPpcie
          unfold ccChip at hchip
          cases hfor : plat.pci.chipFor dev.device with
          | none => rfl
          | some chip =>
              rw [hfor] at hchip
              cases hchip

section Shown

variable {failures : List (String × String)} {devices : List DeviceState} {dev : PciDevice}
  (hknown : PpcieKnown plat devices) (hmem : discovered plat.pci dev ∈ devices)

include hknown hmem

/-- What a probe that went through shows in the columns of the modes. -/
theorem modeText_reading (node : Node) :
    modeText true (discovered plat.pci dev).ccChip.isSome
        ((reading plat node (discovered plat.pci dev)).1.map CcMode.toString) =
      (if (discovered plat.pci dev).ccCapable then (node.board dev.address).knob.cc.toString
        else "n/a") ∧
    modeText true ((discovered plat.pci dev).carriesPpcie plat.pci)
        ((reading plat node (discovered plat.pci dev)).2.map PpcieMode.toString) =
      (if (discovered plat.pci dev).carriesPpcie plat.pci then
          (node.board dev.address).knob.ppcie.toString
        else "n/a") := by
  rw [chip_of_discovered]
  unfold reading
  cases hof : Handle.of (discovered plat.pci dev) with
  | none =>
      obtain ⟨hcapable, hcarries⟩ := modes_of_unopened hof
      rw [hcapable, hcarries]
      exact ⟨rfl, rfl⟩
  | some handle =>
      have haddress : handle.address = dev.address := Handle.of_address hof
      dsimp only
      rw [view_known hknown ⟨hmem, hof⟩, haddress]
      cases (discovered plat.pci dev).ccCapable <;>
        cases (discovered plat.pci dev).carriesPpcie plat.pci <;> exact ⟨rfl, rfl⟩

/-- Read or not, a device shows what it is said to. -/
theorem shown_of_probed {entry : DeviceState × Option (String × String)}
    (h : Probed plat node (discovered plat.pci dev) entry)
    (hfailures : dev.address ∈ failures.map (·.1) ↔ entry.2.isSome = true) :
    Shown plat node failures (discovered plat.pci dev) (stateLines plat.pci true entry.1) := by
  rcases h with rfl | ⟨reason, rfl⟩
  · obtain ⟨hcc, hppcie⟩ := modeText_reading hknown hmem node
    show Shown plat node failures (discovered plat.pci dev)
      (deviceLine (discovered plat.pci dev)
        (modeText true (discovered plat.pci dev).ccChip.isSome
          ((reading plat node (discovered plat.pci dev)).1.map CcMode.toString))
        (modeText true ((discovered plat.pci dev).carriesPpcie plat.pci)
          ((reading plat node (discovered plat.pci dev)).2.map PpcieMode.toString)) :: _)
    rw [hcc, hppcie]
    exact .read fun hfailed => by cases hfailures.mp hfailed
  · have hlabels : (discovered plat.pci dev).ccLabelValues = [] := by
      unfold DeviceState.ccLabelValues
      cases (discovered plat.pci dev).row.bind (·.ccLabels) <;> rfl
    have hlines : stateLines plat.pci true (discovered plat.pci dev) =
        [deviceLine (discovered plat.pci dev)
          (if (discovered plat.pci dev).ccCapable then "unreadable" else "n/a")
          (if (discovered plat.pci dev).carriesPpcie plat.pci then "unreadable" else "n/a")] := by
      unfold stateLines
      rw [hlabels, chip_of_discovered]
      rfl
    rw [hlines]
    exact .unread (hfailures.mpr rfl)

end Shown

/-- Who is named among the unreadable ones is who could not be read. -/
theorem named_unreadable_iff {devices : List DeviceState}
    {probed : List (DeviceState × Option (String × String))}
    (h : List.Forall₂ (Probed plat node) devices probed)
    (hnodup : (devices.map (·.address)).Nodup) {device : DeviceState}
    {entry : DeviceState × Option (String × String)} (hentry : entry ∈ probed)
    (hprobed : Probed plat node device entry) :
    device.address ∈ (unreadable probed).map (·.1) ↔ entry.2.isSome = true := by
  have hsame : ∀ {device : DeviceState} {entry : DeviceState × Option (String × String)},
      Probed plat node device entry → entry.1.address = device.address ∧
        ∀ failure, entry.2 = some failure → failure.1 = device.address := by
    rintro device entry (rfl | ⟨reason, rfl⟩)
    · exact ⟨rfl, fun _ hnone => by cases hnone⟩
    · exact ⟨rfl, fun failure hsome => by rw [← Option.some.inj hsome]⟩
  have haddresses : probed.map (·.1.address) = devices.map (·.address) :=
    forall₂_map (List.forall₂_map_right_iff.mpr (h.imp fun _ _ hone => (hsame hone).1))
  constructor
  · intro hfailed
    obtain ⟨failure, hfailure, haddress⟩ := List.mem_map.mp hfailed
    obtain ⟨other, hother, hsome⟩ := List.mem_map.mp (List.reduceOption_mem_iff.mp hfailure)
    obtain ⟨device', _, hprobed'⟩ := forall₂_of_mem_right h hother
    have heq : other = entry := by
      refine List.inj_on_of_nodup_map (haddresses ▸ hnodup) hother hentry ?_
      rw [(hsame hprobed').1, (hsame hprobed).1, ← haddress, (hsame hprobed').2 failure hsome]
    rw [← heq, hsome]
    rfl
  · intro hsome
    obtain ⟨failure, hfailure⟩ := Option.isSome_iff_exists.mp hsome
    refine List.mem_map.mpr ⟨failure, ?_, (hsame hprobed).2 failure hfailure⟩
    exact List.reduceOption_mem_iff.mpr (List.mem_map.mpr ⟨entry, hentry, hfailure⟩)

/-- What `status` prints when it probes is so: it changes nothing, every device
has its lines, and these show the knobs it holds and the labels they come to,
unless the device is among those that could not be read. -/
theorem status_truthful {all : Bool} {failures : List (String × String)}
    {devices : List DeviceState} (hdiscover : discover plat.pci (plat.sysfs node) = .ok devices)
    (hknown : PpcieKnown plat devices)
    (h : Runs plat.machine A (status plat true all) node (.done (states, failures)) node' t) :
    node' = node ∧ ∃ blocks,
      List.Forall₂ (Shown plat node failures) (devices.filter fun state => all || state.inScope)
        blocks ∧
      statusLines plat.pci true states =
        if blocks.isEmpty then ["no devices to provision (try --all to see what the node has)"]
        else blocks.flatten := by
  refine ⟨(Nvidia.node_eq_of_quiet h (status_uses true all) fun _ hop => hop).1, ?_⟩
  obtain ⟨hnodup, hlisted⟩ := discover_eq hdiscover
  obtain ⟨devices', probed, hdiscover', hprobed, rfl, rfl⟩ := status_done h
  obtain rfl : devices = devices' := Except.ok.inj (hdiscover.symm.trans hdiscover')
  have hshown := hnodup.sublist
    (List.filter_sublist (p := fun state : DeviceState => all || state.inScope) |>.map (·.address))
  refine ⟨probed.map fun entry => stateLines plat.pci true entry.1, ?_, ?_⟩
  · rw [List.forall₂_map_right_iff]
    have hwith := (List.forall₂_and_left _ _).mpr ⟨fun device hdevice => hdevice, hprobed⟩
    have hwith' := ((List.forall₂_and_left _ _).mpr ⟨fun entry hentry => hentry, hwith.flip⟩).flip
    refine hwith'.imp fun device entry ⟨hentry, hdevice, hone⟩ => ?_
    have hmem := (List.mem_filter.mp hdevice).1
    obtain ⟨dev, rfl⟩ := hlisted device hmem
    exact shown_of_probed hknown hmem hone (named_unreadable_iff hprobed hshown hentry hone)
  · unfold statusLines
    rw [List.isEmpty_map, List.isEmpty_map, List.flatMap_map]
    rfl

/-- A baseboard on which the GPU cannot be opened. -/
theorem status_truthful_unread :
    let plat := Bench.platform Bench.baseboard
    let node := Bench.node (fun _ => Bench.settled .off .on) fun _ => none
    let run := exec plat.machine (status plat true true)
      [.ok, .fail (.msg "BAR0 is not mapped") .nothing] node
    ∃ states failures, run.outcome = .done (states, failures) ∧
      failures = [("0000:65:00.0", "BAR0 is not mapped")] ∧ run.state = node ∧ ∃ blocks,
        List.Forall₂ (Shown plat node failures)
          ((Bench.states Bench.baseboard).filter fun state => true || state.inScope) blocks ∧
        statusLines plat.pci true states =
          if blocks.isEmpty then ["no devices to provision (try --all to see what the node has)"]
          else blocks.flatten := by
  intro plat node run
  have hfailures : run.outcome.result.map (·.2) =
      some [("0000:65:00.0", "BAR0 is not mapped")] := by
    decide +kernel
  cases hdone : run.outcome with
  | stopped why =>
      rw [hdone] at hfailures
      cases hfailures
  | done seen =>
      rw [hdone] at hfailures
      have hrun := exec_runs_hostile plat.machine (status plat true true)
        [.ok, .fail (.msg "BAR0 is not mapped") .nothing] node
      rw [show (exec _ _ _ _).outcome = .done seen from hdone] at hrun
      have hdiscover : discover plat.pci (plat.sysfs node) =
          .ok (Bench.states Bench.baseboard) := by
        decide +kernel
      have hknown : PpcieKnown plat (Bench.states Bench.baseboard) := by
        unfold PpcieKnown
        decide
      exact ⟨seen.1, seen.2, rfl, Option.some.inj hfailures,
        status_truthful hdiscover hknown hrun⟩

end Main

end KataDeviceProvisioner.Ports
