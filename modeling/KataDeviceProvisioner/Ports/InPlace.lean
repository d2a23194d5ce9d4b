import KataDeviceProvisioner.Ports.Switching
import KataDeviceProvisioner.Verified.Interleaved

/-!
# What a run never undoes

`Part` lists the parts of a node a mode has a place for, and `InPlace` says when
a part is where the mode wants it.  An operation `Advances` a mode if it is one
that a run for the mode may issue: it moves no part out of its place
(`responds_keeps`), wherever it is issued and whatever becomes of it, as long as
no file is left half written.  So runs for one mode do not undo each other's
work, in whatever order their operations come.
-/

namespace KataDeviceProvisioner.Ports

open KataDeviceProvisioner.Verified

variable {plat : Platform} {A : Adversary} {node s s' : Node} {mode : Mode}

namespace Modules

/-- The three files, with the contents they are to have. -/
def bootEntries (config : BootConfig) : List (Path × Option String) :=
  [(modulesLoad, some config.modulesLoad), (modprobeConf, some config.modprobe),
    (udevRules, config.udevRules)]

theorem onDisk_iff {hostRoot : Path} {config : BootConfig} :
    OnDisk hostRoot config node ↔
      ∀ entry ∈ bootEntries config, node.files (hostRoot ++ entry.1) = entry.2 := by
  simp only [bootEntries, List.forall_mem_cons, List.not_mem_nil, false_imp_iff, implies_true,
    and_true]
  exact ⟨fun h => ⟨h.modulesLoad, h.modprobe, h.udevRules⟩, fun h => ⟨h.1, h.2.1, h.2.2⟩⟩

/-- The contents of a file are settled by its path. -/
theorem bootEntries_unique {config : BootConfig} {path : Path} {contents contents' : Option String}
    (h : (path, contents) ∈ bootEntries config) (h' : (path, contents') ∈ bootEntries config) :
    contents = contents' := by
  have hnodup : ((bootEntries config).map (·.1)).Nodup := by
    have hpaths : (bootEntries config).map (·.1) = [modulesLoad, modprobeConf, udevRules] := rfl
    rw [hpaths]
    decide
  have hsame := List.inj_on_of_nodup_map hnodup h h' rfl
  exact (Prod.mk.inj hsame).2

end Modules

/-- When no file is left half written, an operation leaves the node as it is or as
it leaves it when it goes through. -/
theorem responds_whole {op : Op} {r : Except Error op.Res}
    (h : Responds plat.whole A s op r s') : s' = s ∨ s' = plat.machine.effect s op := by
  cases h with
  | answered => exact .inr rfl
  | failed e residue =>
      cases residue with
      | nothing | partly contents => exact .inl rfl
      | applied => exact .inr rfl

/-- What nothing interferes with tears no file. -/
theorem exec_whole {α : Type} (p : Provision α) (s : Node) :
    exec plat.whole p [] s = exec plat.machine p [] s :=
  exec_congr fun _ _ => rfl

namespace Main

/-! ## The places of a mode -/

/-- A boot file of the mode, with the contents the mode has for it. -/
def BootEntry (plat : Platform) (mode : Mode) (path : Path) (contents : Option String) : Prop :=
  ∃ drivers, Resolved plat (members plat (binding mode)) drivers ∧
    (path, contents) ∈ Modules.bootEntries
      (Modules.render ((members plat (binding mode)).filterMap (claimOf drivers)))

theorem BootEntry.unique {path : Path} {contents contents' : Option String}
    (h : BootEntry plat mode path contents) (h' : BootEntry plat mode path contents') :
    contents = contents' := by
  obtain ⟨drivers, hresolved, hmem⟩ := h
  obtain ⟨drivers', hresolved', hmem'⟩ := h'
  rw [← hresolved.unique hresolved'] at hmem'
  exact Modules.bootEntries_unique hmem hmem'

/-- A part of a node that a mode has a place for. -/
inductive Part where
  | cc (address : String)
  | ppcie (address : String)
  /-- A device to be bound: it is, or nothing else has it. -/
  | bound (state : DeviceState)
  | free (state : DeviceState)
  /-- A device to be left to the host. -/
  | released (state : DeviceState)
  | file (path : Path)
  | dir (path : Path)
  /-- A host GPU driver, and a device it does not have. -/
  | host (name address : String)

/-- The part is where the mode wants it. -/
def InPlace (plat : Platform) (mode : Mode) : Part → Node → Prop
  | .cc address, node => (node.board address).knob.cc = mode.ccTarget
  | .ppcie address, node => (node.board address).knob.ppcie = mode.ppcieTarget
  | .bound state, node => state ∈ members plat (binding mode) ∧
      ∃ driver, Target plat state driver ∧ node.driver state.address = some driver
  | .free state, node => state ∈ members plat (binding mode) ∧
      ∀ driver, Target plat state driver →
        node.driver state.address = none ∨ node.driver state.address = some driver
  | .released state, node => state ∈ scope plat ∧ (binding mode).has state = false ∧
      (node.driver state.address).any namesVfio = false
  | .file path, node => ∃ contents, BootEntry plat mode path contents ∧
      node.files (plat.hostRoot ++ path) = contents
  | .dir path, node => node.dirs path = true
  | .host name address, node => name ∈ Host.conflictingDrivers ∧
      node.driver address ≠ some name

/-- The operations a run for the mode may issue. -/
inductive Advances (plat : Platform) (mode : Mode) : Op → Prop where
  | quiet {op : Op} (hop : op.kind.Quiet) : Advances plat mode op
  | write (handle : Handle) {w : Write} (haims : mode.Aims w) :
      Advances plat mode (handle.writeOp w)
  | reset (handle : Handle) : Advances plat mode (.reset handle)
  | bind {state : DeviceState} {driver : String}
      (hstate : state ∈ members plat (binding mode)) (htarget : Target plat state driver) :
      Advances plat mode (.bind state.address driver)
  | unbind {state : DeviceState} (hstate : state ∈ scope plat)
      (hhas : (binding mode).has state = false) : Advances plat mode (.unbind state.address)
  | createDirAll (path : Path) : Advances plat mode (.createDirAll path)
  | writeFile {path : Path} {contents : String}
      (hentry : BootEntry plat mode path (some contents)) :
      Advances plat mode (.writeFile (plat.hostRoot ++ path) contents)
  | removeFile {path : Path} (hentry : BootEntry plat mode path none) :
      Advances plat mode (.removeFile (plat.hostRoot ++ path))

/-! ## Nothing is moved out of its place -/

/-- Devices in scope are told apart by their addresses. -/
theorem scope_inj {state other : DeviceState} (hstate : state ∈ scope plat)
    (hother : other ∈ scope plat) (h : state.address = other.address) : state = other :=
  eq_of_address (nodup_scope plat) hstate hother h

theorem member_scope {b : Binding} {state : DeviceState} (h : state ∈ members plat b) :
    state ∈ scope plat :=
  (mem_members.mp h).1

private theorem keeps_write (address : String) {w : Write} (haims : mode.Aims w) :
    Keeps (InPlace plat mode) s (Platform.writeKnob s address w) := by
  have hboard : ∀ other, other ≠ address →
      (Platform.writeKnob s address w).board other = s.board other :=
    fun other hne => Function.update_of_ne hne _ _
  have hself : (Platform.writeKnob s address w).board address = (s.board address).write w :=
    Function.update_self _ _ _
  intro part hpart
  cases part with
  | cc other =>
      show ((Platform.writeKnob s address w).board other).knob.cc = mode.ccTarget
      by_cases hsame : other = address
      · rw [hsame, hself]
        rw [hsame] at hpart
        exact haims.cc_stays hpart
      · rw [hboard other hsame]
        exact hpart
  | ppcie other =>
      show ((Platform.writeKnob s address w).board other).knob.ppcie = mode.ppcieTarget
      by_cases hsame : other = address
      · rw [hsame, hself]
        rw [hsame] at hpart
        exact haims.ppcie_stays hpart
      · rw [hboard other hsame]
        exact hpart
  | _ => exact hpart

private theorem keeps_reset (address : String) :
    Keeps (InPlace plat mode) s (Platform.resetDevice s address) := by
  have hknob : ∀ other,
      ((Platform.resetDevice s address).board other).knob = (s.board other).knob := by
    intro other
    show (Function.update s.board address (s.board address).reset other).knob = _
    by_cases hsame : other = address
    · rw [hsame, Function.update_self, Firmware.reset_knob]
    · rw [Function.update_of_ne hsame]
  intro part hpart
  cases part with
  | cc other =>
      show ((Platform.resetDevice s address).board other).knob.cc = mode.ccTarget
      rw [hknob]
      exact hpart
  | ppcie other =>
      show ((Platform.resetDevice s address).board other).knob.ppcie = mode.ppcieTarget
      rw [hknob]
      exact hpart
  | _ => exact hpart

/-- Putting a device nobody has on the driver found for it. -/
private theorem keeps_bind (hvfio : VfioRegisters plat) {state : DeviceState} {driver : String}
    (hstate : state ∈ members plat (binding mode)) (htarget : Target plat state driver)
    (hnone : s.driver state.address = none) :
    Keeps (InPlace plat mode) s (Platform.setDriver s state.address (some driver)) := by
  have hothers : ∀ address, address ≠ state.address →
      (Platform.setDriver s state.address (some driver)).driver address = s.driver address :=
    fun address hne => Function.update_of_ne hne _ _
  have hself : (Platform.setDriver s state.address (some driver)).driver state.address =
      some driver := Function.update_self _ _ _
  intro part hpart
  cases part with
  | bound other =>
      obtain ⟨hmember, current, hcurrent, hdriver⟩ := hpart
      refine ⟨hmember, current, hcurrent, ?_⟩
      by_cases hsame : other.address = state.address
      · rw [hsame, hnone] at hdriver
        cases hdriver
      · rw [hothers _ hsame, hdriver]
  | free other =>
      refine ⟨hpart.1, fun current hcurrent => ?_⟩
      by_cases hsame : other.address = state.address
      · obtain rfl := scope_inj (member_scope hpart.1) (member_scope hstate) hsame
        rw [hself, hcurrent.unique htarget]
        exact .inr rfl
      · rw [hothers _ hsame]
        exact hpart.2 current hcurrent
  | released other =>
      obtain ⟨hscope, hhas, hdriver⟩ := hpart
      refine ⟨hscope, hhas, ?_⟩
      have hne : other.address ≠ state.address := by
        intro hsame
        obtain rfl := scope_inj hscope (member_scope hstate) hsame
        rw [(mem_members.mp hstate).2] at hhas
        cases hhas
      rw [hothers _ hne]
      exact hdriver
  | host name address =>
      refine ⟨hpart.1, ?_⟩
      by_cases hsame : address = state.address
      · rw [hsame, hself]
        obtain ⟨aliases, target, _, hresolves, rfl⟩ := htarget
        intro heq
        rw [← Option.some.inj heq] at hpart
        exact resolves_vfio hvfio hresolves hpart.1
      · rw [hothers _ hsame]
        exact hpart.2
  | _ => exact hpart

/-- Taking a device that is left to the host off its driver. -/
private theorem keeps_unbind {state : DeviceState} (hstate : state ∈ scope plat)
    (hhas : (binding mode).has state = false) :
    Keeps (InPlace plat mode) s (Platform.setDriver s state.address none) := by
  have hothers : ∀ address, address ≠ state.address →
      (Platform.setDriver s state.address none).driver address = s.driver address :=
    fun address hne => Function.update_of_ne hne _ _
  have hself : (Platform.setDriver s state.address none).driver state.address = none :=
    Function.update_self _ _ _
  have hmember : ∀ other ∈ members plat (binding mode), other.address ≠ state.address := by
    intro other hother hsame
    obtain rfl := scope_inj (member_scope hother) hstate hsame
    rw [(mem_members.mp hother).2] at hhas
    cases hhas
  intro part hpart
  cases part with
  | bound other =>
      obtain ⟨hother, current, hcurrent, hdriver⟩ := hpart
      exact ⟨hother, current, hcurrent, by rw [hothers _ (hmember other hother), hdriver]⟩
  | free other =>
      refine ⟨hpart.1, ?_⟩
      rw [hothers _ (hmember other hpart.1)]
      exact hpart.2
  | released other =>
      refine ⟨hpart.1, hpart.2.1, ?_⟩
      by_cases hsame : other.address = state.address
      · rw [hsame, hself]
        rfl
      · rw [hothers _ hsame]
        exact hpart.2.2
  | host name address =>
      refine ⟨hpart.1, ?_⟩
      by_cases hsame : address = state.address
      · rw [hsame, hself]
        exact nofun
      · rw [hothers _ hsame]
        exact hpart.2
  | _ => exact hpart

/-- Giving a boot file the contents the mode has for it. -/
private theorem keeps_file {path : Path} {contents : Option String}
    (hentry : BootEntry plat mode path contents) :
    Keeps (InPlace plat mode) s (Platform.setFile s (plat.hostRoot ++ path) contents) := by
  intro part hpart
  cases part with
  | file other =>
      obtain ⟨held, hheld, hfile⟩ := hpart
      refine ⟨held, hheld, ?_⟩
      show Function.update s.files (plat.hostRoot ++ path) contents (plat.hostRoot ++ other) = held
      by_cases hsame : other = path
      · subst hsame
        rw [Function.update_self, hentry.unique hheld]
      · rw [Function.update_of_ne fun heq => hsame (List.append_cancel_left heq), hfile]
  | _ => exact hpart

private theorem keeps_createDirAll (path : Path) :
    Keeps (InPlace plat mode) s (plat.machine.effect s (.createDirAll path)) := by
  intro part hpart
  cases part with
  | dir other =>
      have hdir : s.dirs other = true := hpart
      show (plat.machine.effect s (.createDirAll path)).dirs other = true
      rw [effect_createDirAll, hdir, Bool.or_true]
  | _ => exact hpart

/-- What goes through moves nothing out of its place. -/
theorem effect_keeps (hvfio : VfioRegisters plat) {op : Op} (hop : Advances plat mode op) :
    Keeps (InPlace plat mode) s (plat.machine.effect s op) := by
  cases hop with
  | quiet hquiet =>
      rw [effect_change.quiet hquiet]
      exact Keeps.refl _ s
  | @write handle w haims =>
      cases w with
      | cc m => exact keeps_write handle.address haims
      | ppcie m => exact keeps_write handle.address haims
  | reset handle => exact keeps_reset handle.address
  | @bind state driver hstate htarget =>
      simp only [Machine.effect, Platform.machine, Platform.answer]
      cases hdriver : s.driver state.address with
      | none => exact keeps_bind hvfio hstate htarget hdriver
      | some current =>
          dsimp only
          split <;> exact Keeps.refl _ s
  | unbind hstate hhas => exact keeps_unbind hstate hhas
  | createDirAll path => exact keeps_createDirAll path
  | @writeFile path contents hentry =>
      simp only [Machine.effect, Platform.machine, Platform.answer]
      split
      · exact keeps_file hentry
      · exact Keeps.refl _ s
  | @removeFile path hentry =>
      simp only [Machine.effect, Platform.machine, Platform.answer]
      split
      · exact keeps_file hentry
      · exact Keeps.refl _ s

/-- Nor does anything else that can become of it. -/
theorem responds_keeps (hvfio : VfioRegisters plat) {op : Op} {r : Except Error op.Res}
    (hop : Advances plat mode op) (h : Responds plat.whole A s op r s') :
    Keeps (InPlace plat mode) s s' := by
  rcases responds_whole h with rfl | rfl
  · exact Keeps.refl _ s'
  · exact effect_keeps hvfio hop

/-! ## What lasts -/

/-- What the host check looks for does not come back. -/
theorem lasting_hostCheck :
    Lasting (InPlace plat mode) fun s => Host.check plat.pci (plat.sysfs s) = .ok () := by
  intro s s' hkeeps hhost
  refine hostCheck_mono hhost fun name hname address hdriver => ?_
  by_contra hnot
  exact (hkeeps (.host name address) ⟨hname, hnot⟩).2 hdriver

/-- The knobs a device has, one by one. -/
theorem atTargets_iff {handle : Handle} :
    Nvidia.AtTargets plat mode handle (node.board handle.address).knob ↔
      ((plat.view handle mode.targets).1.isSome → InPlace plat mode (.cc handle.address) node) ∧
      ((plat.view handle mode.targets).2.isSome →
        InPlace plat mode (.ppcie handle.address) node) := by
  rw [← Nvidia.knobsMatch_view]
  unfold Nvidia.KnobsMatch InPlace Platform.view
  cases handle with
  | gpu address =>
      by_cases hs : plat.gpuSupportsPpcie address = true
      · simp [Handle.view, hs]
      · simp [Handle.view, hs]
  | switch address => simp [Handle.view]

theorem lasting_atTargets (handle : Handle) :
    Lasting (InPlace plat mode) fun s =>
      Nvidia.AtTargets plat mode handle (s.board handle.address).knob := by
  simp only [atTargets_iff]
  exact (lasting_fact (Part.cc handle.address)).imp.and
    (lasting_fact (Part.ppcie handle.address)).imp

/-- Where every part is in its place the node is provisioned, if it can be. -/
theorem provisioned_of_parts
    (hfirmware : ∀ state handle, Nvidia.Openable (scope plat) state handle →
      Nvidia.AtTargets plat mode handle (node.board handle.address).knob)
    (hbound : ∀ state ∈ members plat (binding mode), InPlace plat mode (.bound state) node)
    (hreleased : ∀ state ∈ scope plat, (binding mode).has state = false →
      InPlace plat mode (.released state) node)
    {drivers : Drivers} (hresolved : Resolved plat (members plat (binding mode)) drivers)
    (hfiles : ∀ entry ∈ Modules.bootEntries
      (Modules.render ((members plat (binding mode)).filterMap (claimOf drivers))),
      InPlace plat mode (.file entry.1) node)
    (hhost : Host.check plat.pci (plat.sysfs node) = .ok ())
    (hcarries : ∃ found, inScope plat.pci (plat.sysfs node) = .ok found ∧ found ≠ [] ∧
      verifyCapable plat.pci found mode = .ok ()) : Provisioned plat mode node where
  firmware state handle hopen := by
    rw [← Handle.of_address hopen.2]
    exact hfirmware state handle hopen
  bound state hstate :=
    ⟨fun hhas => (hbound state (mem_members.mpr ⟨hstate, hhas⟩)).2,
      fun hhas => (hreleased state hstate hhas).2.2⟩
  boot := by
    refine configured_mode.mpr ⟨drivers, hresolved, Modules.onDisk_iff.mpr fun entry hentry => ?_⟩
    obtain ⟨contents, hcontents, hfile⟩ := hfiles entry hentry
    rw [hfile]
    exact hcontents.unique ⟨drivers, hresolved, hentry⟩
  host := hhost
  carries := hcarries

/-! ## Processes come and go -/

private theorem inPlace_of_proc (plat : Platform) (proc : Idle.Proc) {part : Part}
    (h : InPlace plat mode part node) : InPlace { plat with proc := proc } mode part node := by
  cases part with
  | bound state =>
      obtain ⟨hmember, driver, htarget, hdriver⟩ := h
      exact ⟨hmember, driver, target_proc plat proc htarget, hdriver⟩
  | free state =>
      obtain ⟨hmember, hfree⟩ := h
      exact ⟨hmember, fun driver htarget => hfree driver
        (target_proc { plat with proc := proc } plat.proc htarget)⟩
  | file path =>
      obtain ⟨contents, ⟨drivers, hresolved, hentry⟩, hfile⟩ := h
      exact ⟨contents, ⟨drivers, resolved_proc plat proc hresolved, hentry⟩, hfile⟩
  | _ => exact h

/-- Who has a device open has no part in any of this. -/
theorem inPlace_proc (plat : Platform) (mode : Mode) (proc : Idle.Proc) (part : Part)
    (node : Node) :
    InPlace { plat with proc := proc } mode part node ↔ InPlace plat mode part node :=
  ⟨inPlace_of_proc { plat with proc := proc } plat.proc, inPlace_of_proc plat proc⟩

end Main

end KataDeviceProvisioner.Ports
