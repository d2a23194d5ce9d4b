import KataDeviceProvisioner.Ports.BootText
import KataDeviceProvisioner.Ports.Postcondition
import KataDeviceProvisioner.Ports.Refusal

/-!
# What a node binds at boot

At boot a device goes to the driver of the rule that matches it, if there is
one, and otherwise to `vfio-pci` if its id is listed.  Both are decided by the
ids of the device alone, where the provisioner decides by address, class, chip
and mode; this module says how far the two agree.
-/

namespace KataDeviceProvisioner.Ports

open KataDeviceProvisioner.Verified

namespace Modules

/-! ## The boot configuration, read -/

def Rule.matches (rule : Rule) (vendor device : UInt16) : Bool :=
  rule.vendor == vendor && rule.device == device

/-- The driver a device with these ids is bound to at boot. -/
def bootDriver (config : BootConfig) (vendor device : UInt16) : Option String :=
  match ((readRules config.udevRules).getD []).find? fun rule => rule.matches vendor device with
  | some rule => some rule.driver
  | none =>
      if ((readIds config.modprobe).getD []).contains (vendor, device) then
        some driverVfioPciType
      else none

/-- The boot configuration claims devices with these ids. -/
def claimsAtBoot (config : BootConfig) (vendor device : UInt16) : Bool :=
  ((readIds config.modprobe).getD []).contains (vendor, device) ||
    ((readRules config.udevRules).getD []).any fun rule => rule.matches vendor device

theorem Rule.matches_iff {rule : Rule} {vendor device : UInt16} :
    rule.matches vendor device = true ↔ rule.vendor = vendor ∧ rule.device = device := by
  simp [Rule.matches]

/-- What a list of claims agrees on: devices with the same ids go the same way. -/
structure Consistent (claims : List Claim) : Prop where
  plain : ∀ claim ∈ claims, Plain claim.module ∧ Plain claim.driver
  same : ∀ claim ∈ claims, ∀ other ∈ claims, claim.vendor = other.vendor →
    claim.device = other.device → claim.module = other.module ∧ claim.driver = other.driver

/-- The files say what the claims say, each thing once and nothing twice. -/
structure ReadsBack (claims : List Claim) (config : BootConfig) (ids : List (UInt16 × UInt16))
    (rules : List Rule) : Prop where
  ids_read : readIds config.modprobe = some ids
  ids_once : ids.Nodup
  mem_ids : ∀ vendor device, (vendor, device) ∈ ids ↔ ∃ claim ∈ claims,
    needsDriverOverride claim.module = false ∧ claim.vendor = vendor ∧ claim.device = device
  rules_read : readRules config.udevRules = some rules
  mem_rules : ∀ rule, rule ∈ rules ↔ ∃ claim ∈ claims,
    needsDriverOverride claim.module = true ∧ ruleFor claim = rule
  /-- No two rules match the same device. -/
  rules_once : (rules.map fun rule => (rule.vendor, rule.device)).Nodup
  /-- No device is in the list and in a rule. -/
  disjoint : ∀ rule ∈ rules, (rule.vendor, rule.device) ∉ ids
  modules : Lists claims (readModules config.modulesLoad)

/-- What is rendered for claims that agree reads back as the claims. -/
theorem render_readsBack {claims : List Claim} (h : Consistent claims) :
    ∃ ids rules, ReadsBack claims (render claims) ids rules := by
  obtain ⟨ids, hids, hidsOnce, hmemIds⟩ := readIds_render claims
  obtain ⟨rules, hrules, hrulesOnce, hmemRules⟩ := readRules_render h.plain
  have hids' := fun vendor device => (hmemIds (vendor, device)).trans mem_plainIds
  have hrules' := fun rule => (hmemRules rule).trans mem_askedRules
  refine ⟨ids, rules, ?_⟩
  exact
    { ids_read := hids
      ids_once := hidsOnce
      mem_ids := hids'
      rules_read := hrules
      mem_rules := hrules'
      rules_once := by
        refine List.Nodup.map_on (fun rule hrule other hother heq => ?_) hrulesOnce
        obtain ⟨claim, hclaim, _, rfl⟩ := (hrules' rule).mp hrule
        obtain ⟨claim', hclaim', _, rfl⟩ := (hrules' other).mp hother
        have hvendor : claim.vendor = claim'.vendor := (Prod.mk.inj heq).1
        have hdevice : claim.device = claim'.device := (Prod.mk.inj heq).2
        obtain ⟨hmodule, hdriver⟩ := h.same claim hclaim claim' hclaim' hvendor hdevice
        unfold ruleFor
        rw [hvendor, hdevice, hmodule, hdriver]
      disjoint := by
        intro rule hrule hin
        obtain ⟨claim, hclaim, hneeds, rfl⟩ := (hrules' rule).mp hrule
        obtain ⟨claim', hclaim', hplain', hvendor, hdevice⟩ := (hids' _ _).mp hin
        obtain ⟨hmodule, _⟩ := h.same claim' hclaim' claim hclaim hvendor hdevice
        rw [hmodule, hneeds] at hplain'
        cases hplain'
      modules := readModules_render fun claim hclaim => (h.plain claim hclaim).1 }

section ReadsBack

variable {claims : List Claim} {config : BootConfig} {ids : List (UInt16 × UInt16)}
  {rules : List Rule}

/-- The files claim the ids of the claims, and no others. -/
theorem ReadsBack.claims_iff (h : ReadsBack claims config ids rules) (vendor device : UInt16) :
    claimsAtBoot config vendor device = true ↔
      ∃ claim ∈ claims, claim.vendor = vendor ∧ claim.device = device := by
  unfold claimsAtBoot
  rw [h.ids_read, h.rules_read, Option.getD_some, Option.getD_some, Bool.or_eq_true,
    List.contains_iff_mem, h.mem_ids, List.any_eq_true]
  constructor
  · intro hor
    rcases hor with ⟨claim, hclaim, _, hids⟩ | ⟨rule, hrule, hmatches⟩
    · exact ⟨claim, hclaim, hids⟩
    · obtain ⟨claim, hclaim, _, rfl⟩ := (h.mem_rules rule).mp hrule
      exact ⟨claim, hclaim, Rule.matches_iff.mp hmatches⟩
  · intro ⟨claim, hclaim, hids⟩
    by_cases hneeds : needsDriverOverride claim.module = true
    · exact .inr ⟨ruleFor claim, (h.mem_rules _).mpr ⟨claim, hclaim, hneeds, rfl⟩,
        Rule.matches_iff.mpr hids⟩
    · exact .inl ⟨claim, hclaim, Bool.eq_false_iff.mpr hneeds, hids⟩

/-- A claim that needs `driver_override` is bound by a rule. -/
theorem ReadsBack.bootDriver_rule (h : ReadsBack claims config ids rules)
    (hsame : Consistent claims) {claim : Claim} (hclaim : claim ∈ claims)
    (hneeds : needsDriverOverride claim.module = true) :
    bootDriver config claim.vendor claim.device = some claim.driver := by
  unfold bootDriver
  rw [h.rules_read, Option.getD_some]
  cases hfind : rules.find? fun rule => rule.matches claim.vendor claim.device with
  | none =>
      have hnone := List.find?_eq_none.mp hfind (ruleFor claim)
        ((h.mem_rules _).mpr ⟨claim, hclaim, hneeds, rfl⟩)
      exact absurd (Rule.matches_iff.mpr ⟨rfl, rfl⟩) hnone
  | some rule =>
      obtain ⟨other, hother, _, rfl⟩ := (h.mem_rules rule).mp (List.mem_of_find?_eq_some hfind)
      have hmatches := List.find?_some
        (p := fun rule : Rule => rule.matches claim.vendor claim.device) hfind
      obtain ⟨hvendor, hdevice⟩ := Rule.matches_iff.mp hmatches
      obtain ⟨_, hdriver⟩ := hsame.same other hother claim hclaim hvendor hdevice
      exact congrArg some hdriver

/-- A claim that does not is bound through the list. -/
theorem ReadsBack.bootDriver_id (h : ReadsBack claims config ids rules) {claim : Claim}
    (hclaim : claim ∈ claims) (hneeds : needsDriverOverride claim.module = false) :
    bootDriver config claim.vendor claim.device = some driverVfioPciType := by
  have hid : (claim.vendor, claim.device) ∈ ids :=
    (h.mem_ids _ _).mpr ⟨claim, hclaim, hneeds, rfl, rfl⟩
  unfold bootDriver
  rw [h.rules_read, h.ids_read, Option.getD_some, Option.getD_some]
  cases hfind : rules.find? fun rule => rule.matches claim.vendor claim.device with
  | none => exact if_pos (List.contains_iff_mem.mpr hid)
  | some rule =>
      have hmatches := List.find?_some
        (p := fun rule : Rule => rule.matches claim.vendor claim.device) hfind
      obtain ⟨hvendor, hdevice⟩ := Rule.matches_iff.mp hmatches
      have hnot := h.disjoint rule (List.mem_of_find?_eq_some hfind)
      rw [hvendor, hdevice] at hnot
      exact absurd hid hnot

end ReadsBack

/-- Three files are one boot configuration. -/
theorem OnDisk.unique {hostRoot : Path} {config config' : BootConfig} {node : Node}
    (h : OnDisk hostRoot config node) (h' : OnDisk hostRoot config' node) : config = config' := by
  obtain ⟨hload, hprobe, hrules⟩ := h
  obtain ⟨hload', hprobe', hrules'⟩ := h'
  rw [hload] at hload'
  rw [hprobe] at hprobe'
  rw [hrules] at hrules'
  obtain ⟨load, probe, rules⟩ := config
  obtain ⟨load', probe', rules'⟩ := config'
  rw [BootConfig.mk.injEq]
  exact ⟨Option.some.inj hload', Option.some.inj hprobe', hrules'⟩

end Modules

namespace Main

variable {plat : Platform} {A : Adversary} {node node' : Node} {t : List (Event Op Node)}
  {mode : Mode} {drivers : Drivers} {found passthrough : List DeviceState} {aliases : Path}

/-! ## What the claims of a run agree on -/

/-- The names the kernel has for what it loads keep to one field of one line: a
module that loads is named by identifier characters, and so is the driver it
registers.  Nothing is said about what an alias table may name. -/
structure PlainNames (plat : Platform) : Prop where
  modules : ∀ module output, plat.loadModule module = .ok output → output.success = true →
    Modules.Plain module
  drivers : ∀ module driver, plat.driverFor module = .ok driver → Modules.Plain driver

/-- What makes a module the one found for a device: the alias table names it, or
the table was read, names none, and the device is served by `vfio_pci`. -/
theorem resolveModule_ok {state : DeviceState} {module : String}
    (h : resolveModule plat aliases state = .ok module) :
    (plat.pci.moduleFor (plat.readAliases aliases) state.vendor state.deviceId = .ok module ∨
      (∃ e, plat.pci.moduleFor (plat.readAliases aliases) state.vendor state.deviceId =
        .error e) ∧ (∃ table, plat.readAliases aliases = .ok table) ∧ module = "vfio_pci") ∧
      (plat.pci.isC2c state.deviceId = true → Modules.needsDriverOverride module = true) := by
  unfold resolveModule at h
  cases hfound : Modules.vfioModule plat aliases state.vendor state.deviceId
      (Nvidia.genericVfioSupported plat.pci state) with
  | error e =>
      rw [hfound] at h
      cases h
  | ok named =>
      rw [hfound] at h
      have hvariant : verifyVariantAvailable plat.pci state named = .ok () ∧ named = module := by
        cases hcheck : verifyVariantAvailable plat.pci state named with
        | error e =>
            simp only [bind, Except.bind, hcheck] at h
            cases h
        | ok _ =>
            simp only [bind, Except.bind, hcheck] at h
            exact ⟨rfl, Except.ok.inj h⟩
      obtain ⟨hcheck, rfl⟩ := hvariant
      constructor
      · unfold Modules.vfioModule at hfound
        cases hlookup : plat.pci.moduleFor (plat.readAliases aliases) state.vendor
            state.deviceId with
        | ok module =>
            rw [hlookup] at hfound
            exact .inl hfound
        | error e =>
            rw [hlookup] at hfound
            dsimp only at hfound
            split at hfound
            · cases htable : plat.readAliases aliases with
              | error e' =>
                  rw [htable] at hfound
                  cases hfound
              | ok table =>
                  rw [htable] at hfound
                  exact .inr ⟨⟨e, rfl⟩, ⟨table, rfl⟩, (Except.ok.inj hfound).symm⟩
            · cases hfound
      · intro hc2c
        unfold verifyVariantAvailable at hcheck
        by_contra hneeds
        have hplain : Modules.underscored named = "vfio_pci" := by
          simpa [Modules.needsDriverOverride] using hneeds
        rw [if_neg (by simp [hc2c, hplain])] at hcheck
        cases hcheck

/-- Devices with the same ids have the same module, if each has one. -/
theorem resolveModule_congr {state other : DeviceState} {module module' : String}
    (hvendor : state.vendor = other.vendor) (hdevice : state.deviceId = other.deviceId)
    (h : resolveModule plat aliases state = .ok module)
    (h' : resolveModule plat aliases other = .ok module') : module = module' := by
  obtain ⟨hfound, _⟩ := resolveModule_ok h
  obtain ⟨hfound', _⟩ := resolveModule_ok h'
  rw [hvendor, hdevice] at hfound
  rcases hfound with hnamed | ⟨⟨e, hnone⟩, _, rfl⟩
  · rcases hfound' with hnamed' | ⟨⟨e, hnone'⟩, _, _⟩
    · exact Except.ok.inj (hnamed.symm.trans hnamed')
    · cases hnamed.symm.trans hnone'
  · rcases hfound' with hnamed' | ⟨_, _, rfl⟩
    · cases hnone.symm.trans hnamed'
    · rfl

/-- A device of the passthrough set is claimed with the driver found for it. -/
theorem mem_claims {state : DeviceState} {driver : VfioDriver} (hstate : state ∈ passthrough)
    (hdriver : drivers.get state.address = some driver) :
    ⟨state.address, state.vendor, state.deviceId, driver.module, driver.driver⟩ ∈
      passthrough.filterMap (claimOf drivers) := by
  rw [List.mem_filterMap]
  refine ⟨state, hstate, ?_⟩
  rw [claimOf, hdriver]
  rfl

/-- Every claim of a run is of a device of the passthrough set, with the driver
found for it. -/
theorem Resolved.claims (h : Resolved plat passthrough drivers)
    (hnodup : (passthrough.map (·.address)).Nodup) :
    ∃ aliases, Modules.modulesAlias plat = .ok aliases ∧
      ∀ claim, claim ∈ passthrough.filterMap (claimOf drivers) ↔ ∃ state ∈ passthrough,
        ∃ driver, drivers.get state.address = some driver ∧ Resolves plat aliases state driver ∧
          claim = ⟨state.address, state.vendor, state.deviceId, driver.module, driver.driver⟩ := by
  obtain ⟨aliases, haliases, hget⟩ := h.get hnodup
  refine ⟨aliases, haliases, fun claim => ?_⟩
  rw [List.mem_filterMap]
  constructor
  · intro hmem
    obtain ⟨state, hstate, hclaim⟩ := hmem
    obtain ⟨driver, hdriver, hresolves⟩ := hget state hstate
    rw [claimOf, hdriver] at hclaim
    exact ⟨state, hstate, driver, hdriver, hresolves, (Option.some.inj hclaim).symm⟩
  · intro hmem
    obtain ⟨state, hstate, driver, hdriver, _, rfl⟩ := hmem
    exact List.mem_filterMap.mp (mem_claims hstate hdriver)

theorem Resolves.plain (hplain : PlainNames plat) {state : DeviceState} {driver : VfioDriver}
    (h : Resolves plat aliases state driver) :
    Modules.Plain driver.module ∧ Modules.Plain driver.driver := by
  obtain ⟨output, hran, hsuccess⟩ := h.loads
  exact ⟨hplain.modules _ output hran hsuccess, hplain.drivers _ _ h.registers⟩

/-- The claims of a run agree on devices with the same ids, whatever their
class, chip and address. -/
theorem Resolved.consistent (hplain : PlainNames plat) (h : Resolved plat passthrough drivers)
    (hnodup : (passthrough.map (·.address)).Nodup) :
    Modules.Consistent (passthrough.filterMap (claimOf drivers)) := by
  obtain ⟨aliases, _, hclaims⟩ := h.claims hnodup
  constructor
  · intro claim hclaim
    obtain ⟨state, _, driver, _, hresolves, rfl⟩ := (hclaims claim).mp hclaim
    exact hresolves.plain hplain
  · intro claim hclaim other hother hvendor hdevice
    obtain ⟨state, _, driver, _, hresolves, rfl⟩ := (hclaims claim).mp hclaim
    obtain ⟨state', _, driver', _, hresolves', rfl⟩ := (hclaims other).mp hother
    have hmodule : driver.module = driver'.module :=
      resolveModule_congr hvendor hdevice hresolves.named hresolves'.named
    have hdriver := hresolves.registers
    rw [hmodule, hresolves'.registers] at hdriver
    exact ⟨hmodule, (Except.ok.inj hdriver).symm⟩

/-- The boot configuration a completed run leaves reads back as the claims of
the run. -/
theorem Resolved.readsBack (hplain : PlainNames plat) (h : Resolved plat passthrough drivers)
    (hnodup : (passthrough.map (·.address)).Nodup) :
    ∃ ids rules, Modules.ReadsBack (passthrough.filterMap (claimOf drivers))
      (Modules.render (passthrough.filterMap (claimOf drivers))) ids rules :=
  Modules.render_readsBack (h.consistent hplain hnodup)

/-! ## A node that is bound and one that has rebooted -/

/-- For every passthrough list whose drivers were resolved and persisted, the
files read back as the claims, and a device comes back from a reboot on the
driver it was bound to. -/
theorem boot_binding (hplain : PlainNames plat)
    (hvfioPci : ∀ module driver, Modules.underscored module = "vfio_pci" →
      plat.driverFor module = .ok driver → driver = "vfio-pci")
    (hnodup : (passthrough.map (·.address)).Nodup) {σ σ' : List (Verdict Error Residue)}
    (hresolve : (exec plat.machine (resolveDrivers plat passthrough) σ node).outcome =
      .done drivers)
    (hpersist : (exec plat.machine (persist plat passthrough drivers) σ' node').outcome =
      .done ()) :
    ∃ config ids rules,
      Modules.OnDisk plat.hostRoot config
        (exec plat.machine (persist plat passthrough drivers) σ' node').state ∧
      Modules.ReadsBack (passthrough.filterMap (claimOf drivers)) config ids rules ∧
      (∀ state ∈ passthrough, ∃ driver, drivers.get state.address = some driver ∧
        Modules.bootDriver config state.vendor state.deviceId = some driver.driver) ∧
      ∀ (σ'' : List (Verdict Error Residue)) (s : Node),
        (exec plat.machine (Program.forEach (bindOne drivers) passthrough) σ'' s).outcome =
          .done () →
        ∀ state ∈ passthrough,
          (exec plat.machine (Program.forEach (bindOne drivers) passthrough) σ'' s).state.driver
            state.address = Modules.bootDriver config state.vendor state.deviceId := by
  have hresolved := resolveDrivers_done (exec_runs_done hresolve)
  have hdisk := (persist_done (exec_runs_done hpersist)).1
  have hconsistent := hresolved.consistent hplain hnodup
  obtain ⟨ids, rules, hback⟩ := hresolved.readsBack hplain hnodup
  obtain ⟨aliases, _, hget⟩ := hresolved.get hnodup
  obtain ⟨_, _, hclaims⟩ := hresolved.claims hnodup
  have hboot : ∀ state ∈ passthrough, ∃ driver, drivers.get state.address = some driver ∧
      Modules.bootDriver (Modules.render (passthrough.filterMap (claimOf drivers))) state.vendor
        state.deviceId = some driver.driver := by
    intro state hstate
    obtain ⟨driver, hdriver, hresolves⟩ := hget state hstate
    refine ⟨driver, hdriver, ?_⟩
    have hclaim := mem_claims hstate hdriver
    by_cases hneeds : Modules.needsDriverOverride driver.module = true
    · exact hback.bootDriver_rule hconsistent hclaim hneeds
    · rw [Bool.not_eq_true] at hneeds
      have hname : driver.driver = "vfio-pci" := by
        refine hvfioPci driver.module driver.driver ?_ hresolves.registers
        simpa [Modules.needsDriverOverride] using hneeds
      rw [hname]
      exact hback.bootDriver_id hclaim hneeds
  refine ⟨_, ids, rules, hdisk, hback, hboot, fun σ'' s hbind state hstate => ?_⟩
  obtain ⟨driver, hdriver, hlive⟩ := binds_done (exec_runs_done hbind) state hstate
  obtain ⟨driver', hdriver', hdriverBoot⟩ := hboot state hstate
  rw [hdriver] at hdriver'
  obtain rfl := Option.some.inj hdriver'
  rw [hlive, hdriverBoot]

theorem bench_plainNames (plugged : List PciDevice)
    (distinct : (plugged.map (·.address)).Nodup) :
    PlainNames (Bench.platform plugged distinct) := by
  constructor
  · intro module output h hsuccess
    have hknown : module ∈ Bench.modules := by
      by_contra hnot
      rw [← Except.ok.inj h, if_neg hnot] at hsuccess
      cases hsuccess
    have hall : ∀ module ∈ Bench.modules, Modules.quote ∉ module.toList ∧
        '\n' ∉ module.toList := by decide
    exact hall module hknown
  · intro module driver h
    rw [← Except.ok.inj h]
    split <;> exact ⟨by decide, by decide⟩

/-- What is found for the board where an ordinary GPU stands beside a coherently
attached one. -/
private def mixedDrivers : Drivers :=
  [("0000:66:00.0", ⟨"nvgrace_gpu_vfio_pci", "nvgrace-gpu-vfio-pci"⟩),
    ("0000:65:00.0", ⟨"vfio_pci", "vfio-pci"⟩)]

/-- On that board each GPU comes back on its own driver. -/
theorem boot_binding_mixed :
    ∃ config, Modules.OnDisk ["host"] config
        (exec (Bench.platform Bench.mixed).machine
          (persist (Bench.platform Bench.mixed) (Bench.states Bench.mixed) mixedDrivers) []
          Bench.dirty).state ∧
      Modules.bootDriver config 0x10de 0x2330 = some "vfio-pci" ∧
      Modules.bootDriver config 0x10de 0x2342 = some "nvgrace-gpu-vfio-pci" := by
  have hvfioPci : ∀ module driver, Modules.underscored module = "vfio_pci" →
      (Bench.platform Bench.mixed).driverFor module = .ok driver → driver = "vfio-pci" := by
    intro module driver hmodule h
    rw [← Except.ok.inj h, if_neg]
    intro hgrace
    rw [hgrace] at hmodule
    exact absurd hmodule (by decide)
  have hresolve : (exec (Bench.platform Bench.mixed).machine
      (resolveDrivers (Bench.platform Bench.mixed) (Bench.states Bench.mixed)) []
      Bench.dirty).outcome = .done mixedDrivers := by decide +kernel
  have hpersist : (exec (Bench.platform Bench.mixed).machine
      (persist (Bench.platform Bench.mixed) (Bench.states Bench.mixed) mixedDrivers) []
      Bench.dirty).outcome = .done () := by decide +kernel
  obtain ⟨config, _, _, hdisk, _, hboot, _⟩ := boot_binding (bench_plainNames Bench.mixed _)
    hvfioPci (by decide) hresolve hpersist
  obtain ⟨ordinary, hordinary, hbootOrdinary⟩ :=
    hboot (discovered Bench.pci (Bench.h100 "0000:65:00.0")) (by decide)
  obtain ⟨grace, hgrace, hbootGrace⟩ :=
    hboot (discovered Bench.pci (Bench.gh200 "0000:66:00.0")) (by decide)
  obtain rfl : ordinary = ⟨"vfio_pci", "vfio-pci"⟩ := Option.some.inj hordinary.symm
  obtain rfl : grace = ⟨"nvgrace_gpu_vfio_pci", "nvgrace-gpu-vfio-pci"⟩ :=
    Option.some.inj hgrace.symm
  exact ⟨config, hdisk, hbootOrdinary, hbootGrace⟩

/-! ## Coherently attached devices -/

/-- A device goes to a variant driver only, live and at boot. -/
structure VariantOnly (plat : Platform) (passthrough : List DeviceState) (drivers : Drivers)
    (state : DeviceState) (driver : VfioDriver) : Prop where
  found : drivers.get state.address = some driver
  not_plain : Modules.underscored driver.module ≠ "vfio_pci"
  from_table : ∃ aliases table, Modules.modulesAlias plat = .ok aliases ∧
    plat.readAliases aliases = .ok table ∧
    plat.pci.moduleFor (.ok table) state.vendor state.deviceId = .ok driver.module
  at_boot : ∀ (σ : List (Verdict Error Residue)) (node : Node),
    (exec plat.machine (persist plat passthrough drivers) σ node).outcome = .done () →
    ∃ config ids rules,
      Modules.OnDisk plat.hostRoot config
        (exec plat.machine (persist plat passthrough drivers) σ node).state ∧
      Modules.readIds config.modprobe = some ids ∧
      Modules.readRules config.udevRules = some rules ∧
      (⟨state.vendor, state.deviceId, driver.driver, driver.module⟩ : Modules.Rule) ∈ rules ∧
      (state.vendor, state.deviceId) ∉ ids

/-- Drivers are only resolved when the alias table could be read. -/
theorem Resolved.table
    (hunread : ∀ e vendor device, ∃ e', plat.pci.moduleFor (.error e) vendor device = .error e')
    (h : Resolved plat passthrough drivers) (hne : passthrough ≠ []) :
    ∃ aliases table, Modules.modulesAlias plat = .ok aliases ∧
      plat.readAliases aliases = .ok table := by
  obtain ⟨aliases, haliases, hall⟩ := h
  obtain ⟨state, hstate⟩ := List.exists_mem_of_ne_nil passthrough hne
  obtain ⟨entry, _, _, hresolves⟩ := forall₂_of_mem_left hall hstate
  rcases (resolveModule_ok hresolves.named).1 with hnamed | ⟨_, ⟨table, htable⟩, _⟩
  · cases htable : plat.readAliases aliases with
    | ok table => exact ⟨aliases, table, haliases, htable⟩
    | error e =>
        obtain ⟨e', herror⟩ := hunread e state.vendor state.deviceId
        rw [htable, herror] at hnamed
        cases hnamed
  · exact ⟨aliases, table, haliases, htable⟩

/-- No coherently attached device reaches plain `vfio-pci`, and a run whose alias
table is missing or cannot be read fails. -/
theorem coherent_variant_only (hplain : PlainNames plat)
    (hunread : ∀ e vendor device, ∃ e', plat.pci.moduleFor (.error e) vendor device = .error e')
    (hnodup : (passthrough.map (·.address)).Nodup) (mode : Mode) (node : Node)
    (σ : List (Verdict Error Residue)) :
    (∀ drivers,
      (exec plat.machine (resolveDrivers plat passthrough) σ node).outcome = .done drivers →
      ∀ state ∈ passthrough, plat.pci.isC2c state.deviceId = true →
        ∃ driver, VariantOnly plat passthrough drivers state driver) ∧
    ((∀ aliases, Modules.modulesAlias plat = .ok aliases →
        ∃ e, plat.readAliases aliases = .error e) →
      (passthrough ≠ [] → ∀ drivers,
        (exec plat.machine (resolveDrivers plat passthrough) σ node).outcome ≠ .done drivers) ∧
      ∀ found, inScope plat.pci (plat.sysfs node) = .ok found → passthroughSet found mode ≠ [] →
        (exec plat.machine (apply plat mode) σ node).outcome ≠ .done () ∧
          ∀ e ∈ (exec plat.machine (apply plat mode) σ node).events, e.op.kind.Quiet) := by
  constructor
  · intro drivers hresolve state hstate hc2c
    have hresolved := resolveDrivers_done (exec_runs_done hresolve)
    obtain ⟨aliases, table, haliases, htable⟩ :=
      hresolved.table hunread (List.ne_nil_of_mem hstate)
    obtain ⟨aliases', haliases', hget⟩ := hresolved.get hnodup
    rw [haliases] at haliases'
    obtain rfl := Except.ok.inj haliases'
    obtain ⟨driver, hdriver, hresolves⟩ := hget state hstate
    obtain ⟨hfound, hvariant⟩ := resolveModule_ok hresolves.named
    have hneeds := hvariant hc2c
    have hnot : Modules.underscored driver.module ≠ "vfio_pci" := by
      simpa [Modules.needsDriverOverride] using hneeds
    refine ⟨driver, hdriver, hnot, ⟨aliases, table, haliases, htable, ?_⟩, fun σ' s hpersist => ?_⟩
    · rcases hfound with hnamed | ⟨_, _, hgeneric⟩
      · rwa [htable] at hnamed
      · exact absurd (by rw [hgeneric]; decide) hnot
    · have hdisk := (persist_done (exec_runs_done hpersist)).1
      obtain ⟨ids, rules, hback⟩ := hresolved.readsBack hplain hnodup
      have hclaim := mem_claims hstate hdriver
      have hrule := (hback.mem_rules _).mpr ⟨_, hclaim, hneeds, rfl⟩
      exact ⟨_, ids, rules, hdisk, hback.ids_read, hback.rules_read, hrule,
        hback.disjoint _ hrule⟩
  · intro hmissing
    have hnever : ∀ {states : List DeviceState} {drivers : Drivers}, states ≠ [] →
        ¬Resolved plat states drivers := by
      intro states drivers hne hresolved
      obtain ⟨aliases, table, haliases, htable⟩ := hresolved.table hunread hne
      obtain ⟨e, herror⟩ := hmissing aliases haliases
      cases htable.symm.trans herror
    constructor
    · intro hne drivers hresolve
      exact hnever hne (resolveDrivers_done (exec_runs_done hresolve))
    · intro found hscope hne
      refine refused_of_not_admits (fun found' drivers hadmits => ?_) σ
      have hscope' := hadmits.scope
      rw [hscope] at hscope'
      obtain rfl := Except.ok.inj hscope'
      exact hnever hne hadmits.drivers

/-- The coherently attached GPU of the mixed board. -/
theorem coherent_variant_only_mixed :
    ∃ driver, VariantOnly (Bench.platform Bench.mixed) (Bench.states Bench.mixed) mixedDrivers
      (discovered Bench.pci (Bench.gh200 "0000:66:00.0")) driver := by
  have hunread : ∀ e vendor device, ∃ e',
      (Bench.platform Bench.mixed).pci.moduleFor (.error e) vendor device = .error e' :=
    fun e _ _ => ⟨e, rfl⟩
  exact (coherent_variant_only (bench_plainNames Bench.mixed _) hunread (by decide) .off
    Bench.dirty []).1 mixedDrivers (by decide +kernel) _ (by decide) (by decide)

/-! ## Devices that are not the provisioner's -/

/-- Every device of the inventory that the boot configuration on disk claims is
in the passthrough set. -/
def Confined (plat : Platform) (mode : Mode) (node node' : Node) : Prop :=
  ∀ devs found config, plat.inventory = .ok devs →
    inScope plat.pci (plat.sysfs node) = .ok found →
    Modules.OnDisk plat.hostRoot config node' →
    ∀ dev ∈ devs, Modules.claimsAtBoot config dev.vendor dev.device = true →
      inSet (passthroughSet found mode) dev.address = true

/-- The boot configuration a run leaves claims only passthrough devices if and
only if no other device of the inventory has the ids of one. -/
theorem confined_iff (hplain : PlainNames plat) {σ : List (Verdict Error Residue)}
    (hdone : (exec plat.machine (apply plat mode) σ node).outcome = .done ()) :
    Confined plat mode node (exec plat.machine (apply plat mode) σ node).state ↔
      ∀ devs found, plat.inventory = .ok devs →
        inScope plat.pci (plat.sysfs node) = .ok found →
        ∀ dev ∈ devs, inSet (passthroughSet found mode) dev.address = false →
          ∀ state ∈ passthroughSet found mode,
            (state.vendor, state.deviceId) ≠ (dev.vendor, dev.device) := by
  obtain ⟨found, drivers, hpost⟩ := apply_done (exec_runs_done hdone)
  have hnodup : ((passthroughSet found mode).map (·.address)).Nodup :=
    passthrough_nodup (scope_nodup hpost.scope)
  obtain ⟨ids, rules, hback⟩ := hpost.resolved.readsBack hplain hnodup
  obtain ⟨aliases, _, hclaims⟩ := hpost.resolved.claims hnodup
  obtain ⟨_, _, hget⟩ := hpost.resolved.get hnodup
  -- The files claim the ids of the passthrough set.
  have hreach : ∀ vendor device, Modules.claimsAtBoot (Modules.render
      ((passthroughSet found mode).filterMap (claimOf drivers))) vendor device = true ↔
        ∃ state ∈ passthroughSet found mode,
          state.vendor = vendor ∧ state.deviceId = device := by
    intro vendor device
    rw [hback.claims_iff]
    constructor
    · intro ⟨claim, hclaim, hids⟩
      obtain ⟨state, hstate, driver, _, _, rfl⟩ := (hclaims claim).mp hclaim
      exact ⟨state, hstate, hids⟩
    · intro ⟨state, hstate, hids⟩
      obtain ⟨driver, hdriver, _⟩ := hget state hstate
      exact ⟨_, mem_claims hstate hdriver, hids⟩
  constructor
  · intro hconfined devs found' hinv hscope dev hdev hout state hstate hids
    rw [hpost.scope] at hscope
    obtain rfl := Except.ok.inj hscope
    obtain ⟨hvendor, hdevice⟩ := Prod.mk.inj hids
    have hin := hconfined devs found _ hinv hpost.scope hpost.onDisk dev hdev
      ((hreach _ _).mpr ⟨state, hstate, hvendor, hdevice⟩)
    rw [hout] at hin
    cases hin
  · intro hdistinct devs found' config hinv hscope hdisk dev hdev hclaimed
    have hscope' := hscope
    rw [hpost.scope] at hscope'
    obtain rfl := Except.ok.inj hscope'
    rw [hdisk.unique hpost.onDisk] at hclaimed
    obtain ⟨state, hstate, hvendor, hdevice⟩ := (hreach _ _).mp hclaimed
    by_contra hout
    exact hdistinct devs found hinv hscope dev hdev (Bool.eq_false_iff.mpr hout) state hstate
      (by rw [hvendor, hdevice])

/-- A node with one GPU, all of it the provisioner's. -/
theorem confined_single :
    Confined (Bench.platform Bench.singleGpu) .on Bench.dirty
      (exec (Bench.platform Bench.singleGpu).machine
        (apply (Bench.platform Bench.singleGpu) .on) [] Bench.dirty).state := by
  refine (confined_iff (bench_plainNames Bench.singleGpu _) (by decide +kernel)).mpr ?_
  intro devs found hinv hscope
  obtain rfl := Except.ok.inj hinv
  obtain rfl := Except.ok.inj hscope
  decide +kernel

/-- A display GPU with the ids of the GPU in scope has no row in the device table
and is claimed at boot. -/
theorem display_claimed :
    (exec (Bench.platform Bench.displayBeside).machine
      (apply (Bench.platform Bench.displayBeside) .on) [] Bench.dirty).outcome = .done () ∧
    rowFor 0x10de 0x030000 = none ∧
    ¬Confined (Bench.platform Bench.displayBeside) .on Bench.dirty
      (exec (Bench.platform Bench.displayBeside).machine
        (apply (Bench.platform Bench.displayBeside) .on) [] Bench.dirty).state := by
  refine ⟨by decide +kernel, by decide, fun h => ?_⟩
  have hclaimed := h Bench.displayBeside [discovered Bench.pci
    { Bench.h100 "0000:65:00.0" with driver := "vfio-pci" }]
    ⟨"vfio\nvfio_iommu_type1\nvfio_pci\n", "options vfio-pci ids=10de:2330\n", none⟩ rfl
    (by decide +kernel) ⟨by decide +kernel, by decide +kernel, by decide +kernel⟩
    (Bench.displayGpu "0000:01:00.0") (by decide) (by decide +kernel)
  exact absurd hclaimed (by decide)

end Main

end KataDeviceProvisioner.Ports
