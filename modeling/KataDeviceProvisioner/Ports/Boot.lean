import KataDeviceProvisioner.Ports.Rerun

/-!
# A boot

What a reboot keeps and what it loses: the knobs of a device are in its own
memory and stay, the bindings are the kernel's and go, and the boot
configuration says which come back (`reboot`).

`Binding` is what the boot configuration and the live bindings are compared by:
the set of devices that are to be on the drivers found for them.  A reboot puts
a node on the binding its files were written for (`reboot_onDrivers`).
-/

namespace KataDeviceProvisioner.Ports

open KataDeviceProvisioner.Verified

namespace Modules

variable {claims : List Claim} {config : BootConfig} {ids : List (UInt16 × UInt16)}
  {rules : List Rule}

/-! ## What the files bind -/

/-- The three files of a node, as its boot finds them: one that is not there
says nothing. -/
def atBoot (hostRoot : Path) (node : Node) : BootConfig where
  modulesLoad := (node.files (hostRoot ++ modulesLoad)).getD ""
  modprobe := (node.files (hostRoot ++ modprobeConf)).getD ""
  udevRules := node.files (hostRoot ++ udevRules)

/-- The host loads `vfio-pci` as it boots, and hands it the ids. -/
def loadsVfioPci (config : BootConfig) : Bool :=
  (readModules config.modulesLoad).any fun line => !needsDriverOverride line

/-- The driver a boot binds a device with these ids to.  A rule loads its own
module; the ids are nothing until `vfio-pci` is loaded. -/
def boundAtBoot (config : BootConfig) (vendor device : UInt16) : Option String :=
  if ((readRules config.udevRules).getD []).any (fun rule => rule.matches vendor device) ||
      loadsVfioPci config then
    bootDriver config vendor device
  else none

theorem OnDisk.atBoot {hostRoot : Path} {node : Node} (h : OnDisk hostRoot config node) :
    Modules.atBoot hostRoot node = config := by
  unfold Modules.atBoot
  rw [h.modulesLoad, h.modprobe, h.udevRules]
  rfl

/-- Without the files nothing is bound. -/
theorem boundAtBoot_removed {hostRoot : Path} {node : Node}
    (h : ∀ path ∈ bootFiles hostRoot, node.files path = none) (vendor device : UInt16) :
    boundAtBoot (Modules.atBoot hostRoot node) vendor device = none := by
  obtain ⟨hload, hconf, hrules⟩ := forall_bootFiles.mp h
  unfold Modules.atBoot
  rw [hload, hconf, hrules]
  have hnothing : loadsVfioPci ⟨"", "", none⟩ = false := by decide
  simp [boundAtBoot, readRules, hnothing]

/-- Every claim that only needs its id goes to `vfio-pci`. -/
def PlainDriver (claims : List Claim) : Prop :=
  ∀ claim ∈ claims, needsDriverOverride claim.module = false →
    claim.driver = driverVfioPciType

/-- A claimed device is bound to the driver of its claim. -/
theorem ReadsBack.bound (h : ReadsBack claims config ids rules) (hsame : Consistent claims)
    (hdriver : PlainDriver claims) {claim : Claim} (hclaim : claim ∈ claims) :
    boundAtBoot config claim.vendor claim.device = some claim.driver := by
  unfold boundAtBoot
  by_cases hneeds : needsDriverOverride claim.module = true
  · have hmatched : (((readRules config.udevRules).getD []).any fun rule =>
        rule.matches claim.vendor claim.device) = true := by
      rw [h.rules_read, Option.getD_some, List.any_eq_true]
      exact ⟨ruleFor claim, (h.mem_rules _).mpr ⟨claim, hclaim, hneeds, rfl⟩,
        Rule.matches_iff.mpr ⟨rfl, rfl⟩⟩
    rw [hmatched, Bool.true_or, if_pos rfl]
    exact h.bootDriver_rule hsame hclaim hneeds
  · rw [Bool.not_eq_true] at hneeds
    have hloads : loadsVfioPci config = true := by
      obtain ⟨line, hline, heq⟩ := h.modules.complete claim hclaim
      refine List.any_eq_true.mpr ⟨line, hline, ?_⟩
      unfold needsDriverOverride at hneeds ⊢
      rw [heq, hneeds]
      rfl
    rw [hloads, Bool.or_true, if_pos rfl, hdriver claim hclaim hneeds]
    exact h.bootDriver_id hclaim hneeds

/-- A device no claim has the ids of is left to the host. -/
theorem ReadsBack.unbound (h : ReadsBack claims config ids rules) (vendor device : UInt16)
    (hnone : ∀ claim ∈ claims, ¬(claim.vendor = vendor ∧ claim.device = device)) :
    boundAtBoot config vendor device = none := by
  have hunclaimed : claimsAtBoot config vendor device = false := by
    rw [← Bool.not_eq_true, h.claims_iff]
    rintro ⟨claim, hclaim, hids⟩
    exact hnone claim hclaim hids
  unfold claimsAtBoot at hunclaimed
  rw [Bool.or_eq_false_iff] at hunclaimed
  obtain ⟨hids, hrules⟩ := hunclaimed
  unfold boundAtBoot bootDriver
  have hfind : ((readRules config.udevRules).getD []).find?
      (fun rule => rule.matches vendor device) = none := by
    rw [List.find?_eq_none]
    exact List.any_eq_false.mp hrules
  rw [hfind, hids]
  split <;> rfl

/-- A boot binds to `vfio-pci` and to the drivers of the claims only. -/
theorem ReadsBack.bound_driver (h : ReadsBack claims config ids rules) {vendor device : UInt16}
    {driver : String} (hbound : boundAtBoot config vendor device = some driver) :
    driver = driverVfioPciType ∨ ∃ claim ∈ claims, claim.driver = driver := by
  unfold boundAtBoot bootDriver at hbound
  rw [h.rules_read, Option.getD_some] at hbound
  split at hbound
  · cases hfind : rules.find? (fun rule => rule.matches vendor device) with
    | none =>
        rw [hfind] at hbound
        dsimp only at hbound
        split at hbound
        · exact .inl (Option.some.inj hbound).symm
        · cases hbound
    | some rule =>
        rw [hfind] at hbound
        obtain ⟨claim, hclaim, _, hrule⟩ :=
          (h.mem_rules rule).mp (List.mem_of_find?_eq_some hfind)
        refine .inr ⟨claim, hclaim, ?_⟩
        rw [← Option.some.inj hbound, ← hrule]
        rfl
  · cases hbound

end Modules

namespace Main

variable {plat : Platform} {node node' : Node} {mode : Mode} {found : List DeviceState}
  {drivers : Drivers}

/-! ## The devices in scope -/

/-- The devices in scope, on whatever drivers they are. -/
def scope (plat : Platform) : List DeviceState :=
  match plat.inventory with
  | .ok devs =>
      ((devs.filter fun dev => plat.pci.isPassthroughCapableClass dev.classCode).map
        (discovered plat.pci)).filter DeviceState.inScope
  | .error _ => []

/-- What is found on a node is the same devices, with the drivers they are on
there. -/
theorem scope_found (h : inScope plat.pci (plat.sysfs node) = .ok found) :
    found = (scope plat).map (rebound node) := by
  obtain ⟨devs, hinv, rfl⟩ := scope_eq h
  unfold scope
  rw [hinv]
  simp only [List.filter_map, List.map_map]
  rfl

theorem nodup_scope (plat : Platform) : ((scope plat).map (·.address)).Nodup := by
  unfold scope
  cases hinv : plat.inventory with
  | error e => exact List.nodup_nil
  | ok devs =>
      have hsub : List.Sublist ((((devs.filter fun dev =>
          plat.pci.isPassthroughCapableClass dev.classCode).map (discovered plat.pci)).filter
            DeviceState.inScope).map (·.address)) (devs.map (·.address)) := by
        refine (List.filter_sublist.map _).trans ?_
        rw [List.map_map]
        exact List.filter_sublist.map _
      exact (plat.distinct devs hinv).sublist hsub

/-- The device of the inventory at an address. -/
def deviceAt (plat : Platform) (address : String) : Option PciDevice :=
  match plat.inventory with
  | .ok devs => devs.find? fun dev => dev.address == address
  | .error _ => none

/-- A device in scope is the one of the inventory at its address. -/
theorem deviceAt_scope {state : DeviceState} (hstate : state ∈ scope plat) :
    ∃ dev, deviceAt plat state.address = some dev ∧ dev.vendor = state.vendor ∧
      dev.device = state.deviceId := by
  unfold scope at hstate
  unfold deviceAt
  cases hinv : plat.inventory with
  | error e =>
      rw [hinv] at hstate
      cases hstate
  | ok devs =>
      rw [hinv] at hstate
      obtain ⟨dev, hlisted, rfl⟩ := List.mem_map.mp (List.mem_filter.mp hstate).1
      have hdev : dev ∈ devs := (List.mem_filter.mp hlisted).1
      cases hfind : devs.find? (fun other => other.address == dev.address) with
      | none =>
          have hnone := List.find?_eq_none.mp hfind dev hdev
          simp at hnone
      | some other =>
          have haddress : other.address = dev.address := by
            simpa using List.find?_some hfind
          have hsame : other = dev := List.inj_on_of_nodup_map (plat.distinct devs hinv)
            (List.mem_of_find?_eq_some hfind) hdev haddress
          exact ⟨dev, hfind.trans (congrArg some hsame), rfl, rfl⟩

/-! ## Bindings -/

/-- Which of the devices in scope are to be on the drivers found for them. -/
inductive Binding where
  /-- None: the host has them all. -/
  | host
  /-- All but the switches. -/
  | gpus
  | baseboard
  deriving Repr, DecidableEq

def Binding.has : Binding → DeviceState → Bool
  | .host, _ => false
  | .gpus, state => state.provisioning != some .nvidiaInBandPpcie
  | .baseboard, _ => true

/-- The binding a run in a mode is to leave. -/
def binding : Mode → Binding
  | .ppcie => .baseboard
  | .off | .on | .devTools => .gpus

def members (plat : Platform) (b : Binding) : List DeviceState := (scope plat).filter b.has

theorem passthroughSet_eq (states : List DeviceState) (mode : Mode) :
    passthroughSet states mode = states.filter (binding mode).has := by
  unfold passthroughSet
  cases mode <;> rfl

theorem passthrough_members (mode : Mode) :
    passthroughSet ((scope plat).map (rebound node)) mode =
      (members plat (binding mode)).map (rebound node) := by
  rw [passthroughSet_eq, members, List.filter_map]
  congr 1
  refine List.filter_congr fun state _ => ?_
  cases mode <;> rfl

theorem mem_members {b : Binding} {state : DeviceState} :
    state ∈ members plat b ↔ state ∈ scope plat ∧ b.has state = true :=
  List.mem_filter

/-- The driver found for a device. -/
def Target (plat : Platform) (state : DeviceState) (driver : String) : Prop :=
  ∃ aliases target, Modules.modulesAlias plat = .ok aliases ∧
    Resolves plat aliases state target ∧ target.driver = driver

theorem Target.unique {state : DeviceState} {driver driver' : String}
    (h : Target plat state driver) (h' : Target plat state driver') : driver = driver' := by
  obtain ⟨aliases, target, haliases, hresolves, rfl⟩ := h
  obtain ⟨aliases', target', haliases', hresolves', rfl⟩ := h'
  rw [haliases] at haliases'
  obtain rfl := Except.ok.inj haliases'
  have hmodule : target.module = target'.module :=
    Except.ok.inj (hresolves.named.symm.trans hresolves'.named)
  have hregisters := hresolves.registers
  rw [hmodule, hresolves'.registers] at hregisters
  exact (Except.ok.inj hregisters).symm

/-- The drivers of a list of devices, looked up. -/
theorem Resolved.target {states : List DeviceState} (h : Resolved plat states drivers)
    (hnodup : (states.map (·.address)).Nodup) {state : DeviceState} (hstate : state ∈ states) :
    ∃ driver, drivers.get state.address = some driver ∧ Target plat state driver.driver := by
  obtain ⟨aliases, haliases, hget⟩ := h.get hnodup
  obtain ⟨driver, hdriver, hresolves⟩ := hget state hstate
  exact ⟨driver, hdriver, aliases, driver, haliases, hresolves, rfl⟩

/-- The driver a device is on has no part in what is found for it. -/
theorem resolved_of_rebound {states : List DeviceState}
    (h : Resolved plat (states.map (rebound node)) drivers) : Resolved plat states drivers := by
  obtain ⟨aliases, haliases, hall⟩ := h
  refine ⟨aliases, haliases, (List.forall₂_map_left_iff.mp hall).imp ?_⟩
  intro state entry ⟨haddress, hresolves⟩
  exact ⟨haddress, hresolves.named, hresolves.command, hresolves.chroot, hresolves.loads,
    hresolves.registers⟩

/-- The devices of the binding are on the drivers found for them, and no other
device in scope is on a vfio driver. -/
def OnDrivers (plat : Platform) (b : Binding) (node : Node) : Prop :=
  ∀ state ∈ scope plat,
    (b.has state = true → ∃ driver, Target plat state driver ∧
      node.driver state.address = some driver) ∧
    (b.has state = false → (node.driver state.address).any namesVfio = false)

/-- The boot files are those of the binding: as rendered for its devices, or
none at all. -/
def Configured (plat : Platform) : Binding → Node → Prop
  | .host, node => ∀ path ∈ Modules.bootFiles plat.hostRoot, node.files path = none
  | b, node => ∃ drivers, Resolved plat (members plat b) drivers ∧
      Modules.OnDisk plat.hostRoot
        (Modules.render ((members plat b).filterMap (claimOf drivers))) node

/-- It is about the files only. -/
theorem Configured.of_files {b : Binding} (h : Configured plat b node)
    (hfiles : node'.files = node.files) : Configured plat b node' := by
  cases b with
  | host =>
      intro path hpath
      rw [hfiles]
      exact h path hpath
  | gpus | baseboard =>
      obtain ⟨drivers, hresolved, hdisk⟩ := h
      exact ⟨drivers, hresolved, hdisk.of_files hfiles⟩

/-! ## The boot -/

/-- What the host's own drivers make of the devices.  No vfio driver is among
them: these match nothing by themselves. -/
structure HostPick where
  driver : String → Option String
  not_vfio : ∀ address, (driver address).any namesVfio = false
  /-- They come before the boot configuration, as `nvidia.ko` does where it is
  installed. -/
  races : Bool

/-- The host keeps to what `host::check` asks of it: no GPU driver of its own takes
a device, and nothing races the boot configuration for one. -/
structure HostPick.Yields (pick : HostPick) : Prop where
  races : pick.races = false
  conflicting : ∀ address, ∀ name ∈ Host.conflictingDrivers, pick.driver address ≠ some name

/-- The driver the boot configuration has for the device at an address. -/
def claimedAtBoot (plat : Platform) (node : Node) (address : String) : Option String :=
  (deviceAt plat address).bind fun dev =>
    Modules.boundAtBoot (Modules.atBoot plat.hostRoot node) dev.vendor dev.device

/-- A boot: every device comes up running what its knobs hold, on the driver the
boot configuration has for its ids, or on what the host picks.  Where both have a
driver for it, it is on that of the one which comes first. -/
def reboot (plat : Platform) (pick : HostPick) (node : Node) : Node :=
  { node with
    board := fun address => (node.board address).reset
    driver := fun address =>
      if pick.races then (pick.driver address).or (claimedAtBoot plat node address)
      else (claimedAtBoot plat node address).or (pick.driver address) }

@[simp] theorem reboot_board (pick : HostPick) (address : String) :
    (reboot plat pick node).board address = (node.board address).reset := rfl

@[simp] theorem reboot_files (pick : HostPick) : (reboot plat pick node).files = node.files := rfl

/-- Whoever comes first, a device is on the driver of one of the two. -/
theorem reboot_driver_from {pick : HostPick} {address driver : String}
    (h : (reboot plat pick node).driver address = some driver) :
    claimedAtBoot plat node address = some driver ∨ pick.driver address = some driver := by
  simp only [reboot] at h
  split at h
  · exact (Option.or_eq_some_iff.mp h).symm.imp And.right id
  · exact (Option.or_eq_some_iff.mp h).imp_right And.right

theorem reboot_driver {pick : HostPick} (hraces : pick.races = false) {state : DeviceState}
    (hstate : state ∈ scope plat) :
    (reboot plat pick node).driver state.address =
      (Modules.boundAtBoot (Modules.atBoot plat.hostRoot node) state.vendor
        state.deviceId).or (pick.driver state.address) := by
  obtain ⟨dev, hat, hvendor, hdevice⟩ := deviceAt_scope hstate
  simp only [reboot, hraces, Bool.false_eq_true, if_false, claimedAtBoot, hat, Option.bind_some,
    hvendor, hdevice]

/-- What is relied on of the kernel and of the devices. -/
structure Sound (plat : Platform) : Prop where
  names : PlainNames plat
  /-- The module under either punctuation registers `vfio-pci`. -/
  vfioPci : ∀ module driver, Modules.underscored module = "vfio_pci" →
    plat.driverFor module = .ok driver → driver = "vfio-pci"
  /-- An id is a GPU's or a switch's. -/
  apart : ∀ state ∈ scope plat, ∀ other ∈ scope plat, state.vendor = other.vendor →
    state.deviceId = other.deviceId → state.provisioning = other.provisioning

theorem Binding.has_congr {b : Binding} {state other : DeviceState}
    (h : state.provisioning = other.provisioning) : b.has state = b.has other := by
  cases b with
  | host | baseboard => rfl
  | gpus => simp only [Binding.has, h]

/-- A boot binds what the files were written for, and nothing else that is in
scope, unless the host comes first. -/
theorem reboot_onDrivers (hsound : Sound plat) {pick : HostPick} (hraces : pick.races = false)
    {b : Binding} (h : Configured plat b node) : OnDrivers plat b (reboot plat pick node) := by
  by_cases hb : b = .host
  · subst hb
    intro state hstate
    refine ⟨fun hhas => (by cases hhas), fun _ => ?_⟩
    rw [reboot_driver hraces hstate, Modules.boundAtBoot_removed h, Option.none_or]
    exact pick.not_vfio state.address
  · have hconf : ∃ drivers, Resolved plat (members plat b) drivers ∧
        Modules.OnDisk plat.hostRoot
          (Modules.render ((members plat b).filterMap (claimOf drivers))) node := by
      cases b with
      | host => exact absurd rfl hb
      | gpus | baseboard => exact h
    obtain ⟨drivers, hresolved, hdisk⟩ := hconf
    have hnodup : ((members plat b).map (·.address)).Nodup :=
      (nodup_scope plat).sublist (List.filter_sublist.map _)
    have hconsistent := hresolved.consistent hsound.names hnodup
    obtain ⟨ids, rules, hback⟩ := Modules.render_readsBack hconsistent
    obtain ⟨aliases, _, hclaims⟩ := hresolved.claims hnodup
    have hplain : Modules.PlainDriver ((members plat b).filterMap (claimOf drivers)) := by
      intro claim hclaim hneeds
      obtain ⟨state, _, driver, _, hresolves, rfl⟩ := (hclaims claim).mp hclaim
      refine hsound.vfioPci driver.module driver.driver ?_ hresolves.registers
      simpa [Modules.needsDriverOverride] using hneeds
    intro state hstate
    rw [reboot_driver hraces hstate, hdisk.atBoot]
    constructor
    · intro hhas
      have hmember : state ∈ members plat b := mem_members.mpr ⟨hstate, hhas⟩
      obtain ⟨driver, hdriver, htarget⟩ := hresolved.target hnodup hmember
      have hbound := hback.bound hconsistent hplain (mem_claims hmember hdriver)
      exact ⟨driver.driver, htarget, by rw [hbound, Option.some_or]⟩
    · intro hhas
      have hnone := hback.unbound state.vendor state.deviceId ?_
      · rw [hnone, Option.none_or]
        exact pick.not_vfio state.address
      · rintro claim hclaim ⟨hvendor, hdevice⟩
        obtain ⟨other, hother, driver, _, _, rfl⟩ := (hclaims claim).mp hclaim
        obtain ⟨hotherScope, hotherHas⟩ := mem_members.mp hother
        have hkind := hsound.apart other hotherScope state hstate hvendor hdevice
        rw [Binding.has_congr hkind, hhas] at hotherHas
        cases hotherHas

end Main

end KataDeviceProvisioner.Ports
