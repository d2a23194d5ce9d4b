import KataDeviceProvisioner.Ports.Main
import KataDeviceProvisioner.Ports.NvidiaRuns
import Mathlib.Data.List.ReduceOption

/-!
# What is checked before the first change

Up to and including `verify_idle` a run only looks at the node, so the node is
as it was found when the checks have passed.  `Gates` lists what has passed by
then, `preflight_done` says that it has, and `preflight_absent` that nothing but
a mishap can stop a run whose gates would pass.
-/

namespace KataDeviceProvisioner.Ports.Main

open KataDeviceProvisioner.Verified

variable {plat : Platform} {A : Adversary} {node node' : Node} {t : List (Event Op Node)}
  {mode : Mode}

/-! ## Resolving drivers -/

/-- `driver` is what is found for a device: its module is the one the alias
table or the fallback names, the host's modprobe loads it, and it registers the
driver. -/
structure Resolves (plat : Platform) (aliases : Path) (state : DeviceState)
    (driver : VfioDriver) : Prop where
  named : resolveModule plat aliases state = .ok driver.module
  command : ∃ command, Modules.findModprobe plat = .ok command
  chroot : (plat.hostRoot.any fun name => name.toList.contains (Char.ofNat 0)) = false
  loads : ∃ output, plat.loadModule driver.module = .ok output ∧ output.success = true
  registers : plat.driverFor driver.module = .ok driver.driver

theorem modprobe_done {module : String}
    (h : Runs plat.machine A (Modules.modprobe plat module) node (.done ()) node' t) :
    (∃ command, Modules.findModprobe plat = .ok command) ∧
      (plat.hostRoot.any fun name => name.toList.contains (Char.ofNat 0)) = false ∧
      ∃ output, plat.loadModule module = .ok output ∧ output.success = true := by
  obtain ⟨command, s₁, t₁, u₁, hcommand, hrest₁, _⟩ := runs_bind_done.mp h
  obtain ⟨_, s₂, t₂, u₂, hchroot, hrest₂, _⟩ := runs_bind_done.mp hrest₁
  obtain ⟨output, s₃, t₃, u₃, hload, hexit, _⟩ := runs_bind_done.mp hrest₂
  obtain ⟨hfound, _⟩ := runs_ofExcept_done.mp hcommand
  obtain ⟨hclean, _⟩ := runs_ofExcept_done.mp hchroot
  obtain ⟨hanswer, _⟩ := runs_perform_done.mp (runs_mapError_done.mp hload)
  obtain ⟨hstatus, _⟩ := runs_ofExcept_done.mp hexit
  refine ⟨⟨command, hfound⟩, ?_, output, (Prod.mk.inj hanswer).1, ?_⟩
  · by_contra hnul
    rw [if_pos (by simpa using hnul)] at hclean
    cases hclean
  · by_contra hfailed
    rw [if_neg hfailed] at hstatus
    cases hstatus

theorem resolveDriver_done {aliases : Path} {state : DeviceState} {entry : String × VfioDriver}
    (h : Runs plat.machine A (resolveDriver plat aliases state) node (.done entry) node' t) :
    entry.1 = state.address ∧ Resolves plat aliases state entry.2 := by
  obtain ⟨module, s₁, t₁, u₁, hmodule, hrest₁, _⟩ := runs_bind_done.mp h
  obtain ⟨_, s₂, t₂, u₂, hload, hrest₂, _⟩ := runs_bind_done.mp hrest₁
  obtain ⟨driver, s₃, t₃, u₃, hdriver, hret, _⟩ := runs_bind_done.mp hrest₂
  obtain ⟨hnamed, _⟩ := runs_ofExcept_done.mp (runs_mapError_done.mp hmodule)
  obtain ⟨hcommand, hchroot, hloads⟩ := modprobe_done (runs_mapError_done.mp hload)
  obtain ⟨hanswer, _⟩ := runs_perform_done.mp (runs_mapError_done.mp hdriver)
  obtain rfl := Outcome.done.inj (runs_pure_iff.mp hret).1
  exact ⟨rfl, hnamed, hcommand, hchroot, hloads, (Prod.mk.inj hanswer).1⟩

/-- What `resolveDrivers` returns: one entry for each device, latest first. -/
def Resolved (plat : Platform) (states : List DeviceState) (drivers : Drivers) : Prop :=
  ∃ aliases, Modules.modulesAlias plat = .ok aliases ∧
    List.Forall₂ (fun state entry =>
      entry.1 = state.address ∧ Resolves plat aliases state entry.2) states drivers.reverse

theorem resolveDrivers_done {states : List DeviceState} {drivers : Drivers}
    (h : Runs plat.machine A (resolveDrivers plat states) node (.done drivers) node' t) :
    Resolved plat states drivers := by
  obtain ⟨aliases, s₁, t₁, u₁, haliases, hrest, _⟩ := runs_bind_done.mp h
  obtain ⟨found, s₂, t₂, u₂, hfound, hret, _⟩ := runs_bind_done.mp hrest
  obtain rfl := Outcome.done.inj (runs_pure_iff.mp hret).1
  refine ⟨aliases, (runs_ofExcept_done.mp haliases).1, ?_⟩
  rw [List.reverse_reverse]
  exact (runs_gather_done (I := fun _ => True) (Q := fun state entry =>
      entry.1 = state.address ∧ Resolves plat aliases state entry.2)
    (fun state _ s entry s' t _ hr => ⟨trivial, resolveDriver_done hr⟩) trivial hfound).2

/-- Among devices with distinct addresses the map holds what was found for
each. -/
theorem Resolved.get {states : List DeviceState} {drivers : Drivers}
    (h : Resolved plat states drivers) (hnodup : (states.map (·.address)).Nodup) :
    ∃ aliases, Modules.modulesAlias plat = .ok aliases ∧ ∀ state ∈ states,
      ∃ driver, drivers.get state.address = some driver ∧
        Resolves plat aliases state driver := by
  obtain ⟨aliases, haliases, hall⟩ := h
  refine ⟨aliases, haliases, fun state hstate => ?_⟩
  have hkeys : drivers.reverse.map (·.1) = states.map (·.address) := by
    clear hstate hnodup
    generalize drivers.reverse = entries at hall ⊢
    induction hall with
    | nil => rfl
    | cons hentry _ ih => rw [List.map_cons, List.map_cons, hentry.1, ih]
  have hnodup' : (drivers.map (·.1)).Nodup := by
    rw [← List.nodup_reverse, ← List.map_reverse, hkeys]
    exact hnodup
  obtain ⟨entry, hentry, haddress, hresolves⟩ := forall₂_of_mem_left hall hstate
  refine ⟨entry.2, ?_, hresolves⟩
  rw [← haddress]
  exact lookup_of_nodup hnodup' (List.mem_reverse.mp hentry)

/-! ## Probing -/

/-- The modes a probe that goes through finds. -/
def reading (plat : Platform) (node : Node) (state : DeviceState) :
    Option CcMode × Option PpcieMode :=
  match Handle.of state with
  | some handle => plat.view handle (node.board handle.address).knob
  | none => (none, none)

def withModes (state : DeviceState) (modes : Option CcMode × Option PpcieMode) : DeviceState :=
  { state with ccMode := modes.1, ppcieMode := modes.2 }

/-- What probing one device can come to: its modes are read, or it is named
among the unreadable ones. -/
def Probed (plat : Platform) (node : Node) (state : DeviceState)
    (probed : DeviceState × Option (String × String)) : Prop :=
  probed = (withModes state (reading plat node state), none) ∨
    ∃ reason, probed = (state, some (state.address, reason))

theorem probe_uses (state : DeviceState) :
    (Nvidia.probe plat state).Uses (Nvidia.ProbesAt state.address) := by
  unfold Nvidia.probe Handle.open
  split
  · split
    · refine ⟨⟨rfl, rfl⟩, fun r => ?_⟩
      cases r with
      | error e => trivial
      | ok a => exact Nvidia.current_uses (.gpu state.address)
    · trivial
  · refine ⟨⟨rfl, rfl⟩, fun r => ?_⟩
    cases r with
    | error e => trivial
    | ok a =>
        show (Handle.current plat (.switch state.address)).Uses _
        exact Nvidia.current_uses (.switch state.address)
  · trivial

theorem probe_done {state : DeviceState} {modes : Option CcMode × Option PpcieMode}
    (h : Runs plat.machine A (Nvidia.probe plat state) node (.done modes) node' t) :
    modes = reading plat node state := by
  obtain ⟨handle, s₁, t₁, u₁, hopen, hrest, _⟩ := runs_bind_done.mp h
  obtain ⟨rfl, _⟩ := Nvidia.node_eq_of_quiet hopen (Nvidia.open_uses state)
    fun _ => Nvidia.ProbesAt.quiet
  obtain rfl := Nvidia.open_done hopen
  unfold reading
  cases hof : Handle.of state with
  | none =>
      rw [hof] at hrest
      exact Outcome.done.inj (runs_pure_iff.mp hrest).1
  | some handle =>
      rw [hof] at hrest
      exact (Nvidia.current_done hrest).1

theorem probe_sure (state : DeviceState) : (Nvidia.probe plat state).Sure plat.machine := by
  refine sure_bind (Nvidia.open_sure state) fun handle => ?_
  cases handle with
  | none => exact sure_pure _
  | some handle => exact Nvidia.current_sure handle

/-- One round of `probeModes`. -/
def probeOne (plat : Platform) (state : DeviceState) :
    Provision (DeviceState × Option (String × String)) := do
  match ← (Nvidia.probe plat state).attempt with
  | .ok (cc, ppcie) => return ({ state with ccMode := cc, ppcieMode := ppcie }, none)
  | .error e => return (state, some (state.address, e.render))

theorem probeModes_eq (states : List DeviceState) :
    Nvidia.probeModes plat states = (do
      let probed ← Program.gather (probeOne plat) states
      return (probed.map (·.1), (probed.map (·.2)).reduceOption)) := rfl

theorem probeOne_uses (state : DeviceState) :
    (probeOne plat state).Uses (Nvidia.ProbesAt state.address) := by
  refine uses_bind (uses_attempt (probe_uses state)) fun r => ?_
  cases r with
  | ok modes => trivial
  | error e => trivial

theorem probeOne_done {state : DeviceState} {probed : DeviceState × Option (String × String)}
    (h : Runs plat.machine A (probeOne plat state) node (.done probed) node' t) :
    Probed plat node state probed := by
  obtain ⟨r, s₁, t₁, u₁, hprobe, hrest, _⟩ := runs_bind_done.mp h
  obtain ⟨out, hrun, hout⟩ := runs_attempt_iff.mp hprobe
  cases r with
  | error e => exact .inr ⟨_, Outcome.done.inj (runs_pure_iff.mp hrest).1⟩
  | ok modes =>
      have hdone : out = .done modes := by
        cases out with
        | done a => simpa [Outcome.attempted] using hout.symm
        | stopped why => cases why <;> simp [Outcome.attempted] at hout
      rw [hdone] at hrun
      obtain rfl := probe_done hrun
      exact .inl (Outcome.done.inj (runs_pure_iff.mp hrest).1)

/-- When nothing interferes every device is read. -/
theorem probeOne_absent {state : DeviceState}
    {out : Outcome Error (DeviceState × Option (String × String))}
    (h : Runs plat.machine .absent (probeOne plat state) node out node' t) :
    out = .done (withModes state (reading plat node state), none) := by
  obtain ⟨r, s₁, t₁, u₁, hprobe, hrest, _⟩ | ⟨why, rfl, hprobe⟩ := runs_bind_iff.mp h
  · obtain ⟨out₀, hrun, hout⟩ := runs_attempt_iff.mp hprobe
    obtain ⟨modes, rfl⟩ := probe_sure state _ _ _ _ hrun
    obtain rfl := Outcome.done.inj hout
    obtain rfl := probe_done hrun
    exact (runs_pure_iff.mp hrest).1
  · obtain ⟨out₀, hrun, hout⟩ := runs_attempt_iff.mp hprobe
    obtain ⟨modes, rfl⟩ := probe_sure state _ _ _ _ hrun
    cases hout

/-! ## The gates -/

/-- The addresses no mode could be read for, with the reason. -/
def unreadable (probed : List (DeviceState × Option (String × String))) :
    List (String × String) :=
  (probed.map (·.2)).reduceOption

/-- What has been checked once a run is cleared to change the node, with the
devices in scope and what probing them came to. -/
structure Gates (plat : Platform) (mode : Mode) (node : Node) (found : List DeviceState)
    (probed : List (DeviceState × Option (String × String))) (cleared : Cleared) : Prop where
  host : Host.check plat.pci (plat.sysfs node) = .ok ()
  scope : inScope plat.pci (plat.sysfs node) = .ok found
  nonempty : found ≠ []
  capable : verifyCapable plat.pci found mode = .ok ()
  passthrough : cleared.passthrough = passthroughSet found mode
  drivers : Resolved plat cleared.passthrough cleared.drivers
  probes : List.Forall₂ (Probed plat node) found probed
  states : cleared.states = probed.map (·.1)
  idle : verifyIdle plat (plat.sysfs node) (writable (plat.sysfs node) cleared.states
    cleared.passthrough cleared.drivers mode (unreadable probed)) = .ok ()

/-- Resolving a driver looks at no device. -/
theorem resolveDriver_uses (aliases : Path) (state : DeviceState) :
    (resolveDriver plat aliases state).Uses fun op => op.kind.Quiet ∧ op.device = none := by
  refine uses_bind (uses_mapError (uses_ofExcept _)) fun module => ?_
  refine uses_bind (uses_mapError ?_) fun _ => ?_
  · refine uses_bind (uses_ofExcept _) fun command => ?_
    refine uses_bind (uses_ofExcept _) fun _ => ?_
    exact uses_bind (uses_mapError (uses_perform ⟨.inr (.inr (.inl rfl)), rfl⟩))
      fun _ => uses_ofExcept _
  · exact uses_bind (uses_mapError (uses_perform ⟨.inr (.inl rfl), rfl⟩)) fun _ => trivial

theorem resolveDrivers_uses (states : List DeviceState) :
    (resolveDrivers plat states).Uses fun op => op.kind.Quiet ∧ op.device = none := by
  refine uses_bind (uses_ofExcept _) fun aliases => ?_
  exact uses_bind (uses_gather fun state _ => resolveDriver_uses aliases state) fun _ => trivial

theorem probeModes_uses (states : List DeviceState) :
    (Nvidia.probeModes plat states).Uses fun op => op.kind.Quiet := by
  rw [probeModes_eq]
  refine uses_bind (uses_gather fun state _ => ?_) fun _ => trivial
  exact (probeOne_uses state).mono fun op hop => hop.quiet

/-- The checks only look. -/
theorem preflight_uses : (preflight plat mode).Uses fun op => op.kind.Quiet := by
  refine uses_bind (uses_perform (.inr (.inl rfl))) fun sysfs => ?_
  refine uses_bind (uses_ofExcept _) fun _ => ?_
  refine uses_bind (uses_ofExcept _) fun found => ?_
  refine uses_bind (uses_ofExcept _) fun _ => ?_
  refine uses_bind (uses_ofExcept _) fun _ => ?_
  refine uses_bind ((resolveDrivers_uses _).mono fun _ hop => hop.1) fun drivers => ?_
  refine uses_bind (probeModes_uses _) fun probed => ?_
  refine uses_bind (uses_perform (.inr (.inl rfl))) fun sysfs => ?_
  exact uses_bind (uses_ofExcept _) fun _ => trivial

/-- The checks leave the node as it is, whatever becomes of them. -/
theorem preflight_quiet {out : Outcome Error Cleared}
    (h : Runs plat.machine A (preflight plat mode) node out node' t) :
    node' = node ∧ ∀ e ∈ t, e.op.kind.Quiet ∧ e.before = node := by
  obtain ⟨hnode, hbefore⟩ := Nvidia.node_eq_of_quiet h preflight_uses fun _ hop => hop
  exact ⟨hnode, fun e he => ⟨h.events_of_uses preflight_uses e he, hbefore e he⟩⟩

theorem probeModes_done {states : List DeviceState}
    {probed : List DeviceState × List (String × String)}
    (h : Runs plat.machine A (Nvidia.probeModes plat states) node (.done probed) node' t) :
    ∃ all, List.Forall₂ (Probed plat node) states all ∧
      probed = (all.map (·.1), unreadable all) := by
  rw [probeModes_eq] at h
  obtain ⟨all, s₁, t₁, u₁, hall, hret, _⟩ := runs_bind_done.mp h
  refine ⟨all, ?_, Outcome.done.inj (runs_pure_iff.mp hret).1⟩
  refine (runs_gather_done (I := fun s => s = node) (Q := Probed plat node)
    (fun state _ s probed s' t hs hr => ?_) rfl hall).2
  subst hs
  obtain ⟨hquiet, _⟩ := Nvidia.node_eq_of_quiet hr (probeOne_uses state)
    fun _ => Nvidia.ProbesAt.quiet
  exact ⟨hquiet, probeOne_done hr⟩

theorem runs_readSysfs {sysfs : Sysfs}
    (h : Runs plat.machine A (issue .readSysfs) node (.done sysfs) node' t) :
    sysfs = plat.sysfs node ∧ node' = node := by
  obtain ⟨hanswer, _⟩ := runs_perform_done.mp h
  obtain ⟨hsysfs, hnode⟩ := Prod.mk.inj hanswer
  exact ⟨(Except.ok.inj hsysfs).symm, hnode.symm⟩

/-- A run that is cleared to change the node has passed every gate. -/
theorem preflight_done {cleared : Cleared}
    (h : Runs plat.machine A (preflight plat mode) node (.done cleared) node' t) :
    ∃ found probed, Gates plat mode node found probed cleared := by
  obtain ⟨sysfs, s₁, t₁, u₁, hlook, hrest₁, _⟩ := runs_bind_done.mp h
  obtain ⟨_, s₂, t₂, u₂, hhost, hrest₂, _⟩ := runs_bind_done.mp hrest₁
  obtain ⟨found, s₃, t₃, u₃, hscope, hrest₃, _⟩ := runs_bind_done.mp hrest₂
  obtain ⟨_, s₄, t₄, u₄, hnonempty, hrest₄, _⟩ := runs_bind_done.mp hrest₃
  obtain ⟨_, s₅, t₅, u₅, hcapable, hrest₅, _⟩ := runs_bind_done.mp hrest₄
  obtain ⟨drivers, s₆, t₆, u₆, hdrivers, hrest₆, _⟩ := runs_bind_done.mp hrest₅
  obtain ⟨⟨states, unread⟩, s₇, t₇, u₇, hprobe, hrest₇, _⟩ := runs_bind_done.mp hrest₆
  obtain ⟨sysfs', s₈, t₈, u₈, hlook', hrest₈, _⟩ := runs_bind_done.mp hrest₇
  obtain ⟨_, s₉, t₉, u₉, hidle, hret, _⟩ := runs_bind_done.mp hrest₈
  -- The node is the same at every step.
  obtain ⟨rfl, rfl⟩ := runs_readSysfs hlook
  obtain ⟨hostOk, rfl, _⟩ := runs_ofExcept_done.mp hhost
  obtain ⟨scopeOk, rfl, _⟩ := runs_ofExcept_done.mp hscope
  obtain ⟨nonemptyOk, rfl, _⟩ := runs_ofExcept_done.mp hnonempty
  obtain ⟨capableOk, rfl, _⟩ := runs_ofExcept_done.mp hcapable
  obtain ⟨rfl, _⟩ := Nvidia.node_eq_of_quiet hdrivers (resolveDrivers_uses _) fun _ hop => hop.1
  obtain ⟨rfl, _⟩ := Nvidia.node_eq_of_quiet hprobe (probeModes_uses _) fun _ hop => hop
  obtain ⟨rfl, rfl⟩ := runs_readSysfs hlook'
  obtain ⟨idleOk, rfl, _⟩ := runs_ofExcept_done.mp hidle
  obtain ⟨probed, hprobes, heq⟩ := probeModes_done hprobe
  obtain ⟨rfl, rfl⟩ := Prod.mk.inj heq
  obtain rfl := Outcome.done.inj (runs_pure_iff.mp hret).1
  refine ⟨found, probed, ?_⟩
  exact
    { host := hostOk
      scope := scopeOk
      nonempty := by
        intro hnil
        rw [hnil] at nonemptyOk
        cases nonemptyOk
      capable := capableOk
      passthrough := rfl
      drivers := resolveDrivers_done hdrivers
      probes := hprobes
      states := rfl
      idle := idleOk }

/-! ## Checks nothing interferes with -/

theorem resolveDriver_absent {aliases : Path} {state : DeviceState} {driver : VfioDriver}
    (h : Resolves plat aliases state driver) :
    (resolveDriver plat aliases state).Yields plat.machine node (state.address, driver) := by
  obtain ⟨command, hcommand⟩ := h.command
  obtain ⟨output, hran, hsuccess⟩ := h.loads
  have hload : (Modules.modprobe plat driver.module).Yields plat.machine node () := by
    refine yields_bind (yields_ofExcept hcommand) ?_
    refine yields_bind (yields_ofExcept (a := ()) ?_) ?_
    · rw [h.chroot]
      rfl
    · refine yields_bind (yields_mapError (yields_perform (congrArg (·, node) hran))) ?_
      exact yields_ofExcept (if_pos hsuccess)
  refine yields_bind (yields_mapError (yields_ofExcept h.named)) ?_
  refine yields_bind (yields_mapError hload) ?_
  refine yields_bind (yields_mapError (yields_perform (congrArg (·, node) h.registers))) ?_
  exact yields_pure _

theorem resolveDrivers_absent {states : List DeviceState} {drivers : Drivers}
    (h : Resolved plat states drivers) :
    (resolveDrivers plat states).Yields plat.machine node drivers := by
  obtain ⟨aliases, haliases, hall⟩ := h
  have hfound : (Program.gather (resolveDriver plat aliases) states).Yields plat.machine node
      drivers.reverse := by
    refine yields_gather (hall.imp fun state entry hentry => ?_)
    obtain ⟨haddress, hresolves⟩ := hentry
    rw [← Prod.eta entry, haddress]
    exact resolveDriver_absent hresolves
  refine yields_bind (yields_ofExcept haliases) (yields_bind hfound ?_)
  have hret : (pure drivers.reverse.reverse : Provision Drivers).Yields plat.machine node
      drivers := by
    rw [List.reverse_reverse]
    exact yields_pure _
  exact hret

/-- Every device read, nothing unreadable: what probing comes to when nothing
interferes. -/
def readAll (plat : Platform) (node : Node) (found : List DeviceState) :
    List (DeviceState × Option (String × String)) :=
  found.map fun state => (withModes state (reading plat node state), none)

theorem probes_readAll (plat : Platform) (node : Node) (found : List DeviceState) :
    List.Forall₂ (Probed plat node) found (readAll plat node found) := by
  induction found with
  | nil => exact .nil
  | cons state found ih => exact .cons (.inl rfl) ih

theorem unreadable_readAll (plat : Platform) (node : Node) (found : List DeviceState) :
    unreadable (readAll plat node found) = [] := by
  unfold unreadable
  rw [List.eq_nil_iff_forall_not_mem]
  intro entry hentry
  rw [List.reduceOption_mem_iff] at hentry
  obtain ⟨probed, hprobed, hsome⟩ := List.mem_map.mp hentry
  obtain ⟨state, _, rfl⟩ := List.mem_map.mp hprobed
  cases hsome

theorem probeModes_absent (found : List DeviceState) :
    (Nvidia.probeModes plat found).Yields plat.machine node
      ((readAll plat node found).map (·.1), []) := by
  have hall : (Program.gather (probeOne plat) found).Yields plat.machine node
      (readAll plat node found) := by
    refine yields_gather ?_
    induction found with
    | nil => exact .nil
    | cons state found ih =>
        refine .cons (fun out s' t hrun => ?_) ih
        obtain ⟨hnode, _⟩ := Nvidia.node_eq_of_quiet hrun (probeOne_uses state)
          fun _ => Nvidia.ProbesAt.quiet
        exact ⟨probeOne_absent hrun, hnode⟩
  have hret : (pure ((readAll plat node found).map (·.1),
      unreadable (readAll plat node found)) : Provision _).Yields plat.machine node
        ((readAll plat node found).map (·.1), []) := by
    rw [unreadable_readAll]
    exact yields_pure _
  rw [probeModes_eq]
  exact yields_bind hall hret

/-- What the checks hand on when every device could be read. -/
def clearedFor (plat : Platform) (node : Node) (mode : Mode) (found : List DeviceState)
    (drivers : Drivers) : Cleared where
  states := (readAll plat node found).map (·.1)
  passthrough := passthroughSet found mode
  drivers := drivers

/-- Every gate passes on the node as it is, with every device readable. -/
def Admits (plat : Platform) (mode : Mode) (node : Node) (found : List DeviceState)
    (drivers : Drivers) : Prop :=
  Gates plat mode node found (readAll plat node found) (clearedFor plat node mode found drivers)

/-- A node whose gates pass is cleared when nothing interferes. -/
theorem preflight_absent {found : List DeviceState} {drivers : Drivers}
    (h : Admits plat mode node found drivers) :
    (preflight plat mode).Yields plat.machine node
      (clearedFor plat node mode found drivers) := by
  have hlook : (issue .readSysfs).Yields plat.machine node (plat.sysfs node) :=
    yields_perform rfl
  refine yields_bind hlook ?_
  refine yields_bind (yields_ofExcept h.host) ?_
  refine yields_bind (yields_ofExcept h.scope) ?_
  refine yields_bind (yields_ofExcept (a := ()) ?_) ?_
  · rw [if_neg (by simpa [List.isEmpty_iff] using h.nonempty)]
  refine yields_bind (yields_ofExcept h.capable) ?_
  refine yields_bind (resolveDrivers_absent h.drivers) ?_
  refine yields_bind (probeModes_absent found) ?_
  refine yields_bind hlook ?_
  have hidle := h.idle
  rw [unreadable_readAll] at hidle
  refine yields_bind (yields_ofExcept hidle) ?_
  exact yields_pure _

/-! ## Which devices are looked at -/

/-- Issues nothing on a device outside `found`. -/
def StaysIn (found : List DeviceState) (op : Op) : Prop :=
  ∀ address, op.device = some address → inSet found address = true

theorem staysIn_of_none {found : List DeviceState} {op : Op} (h : op.device = none) :
    StaysIn found op := by
  intro address hdevice
  rw [h] at hdevice
  cases hdevice

theorem probeOne_uses_board {found : List DeviceState} {state : DeviceState}
    (hstate : state ∈ found) : (probeOne plat state).Uses (Nvidia.ProbesBoard found) := by
  cases hof : Handle.of state with
  | some handle =>
      exact (probeOne_uses state).mono fun op hop => ⟨state, handle, ⟨hstate, hof⟩, hop⟩
  | none =>
      unfold probeOne Nvidia.probe
      rw [Nvidia.open_none hof]
      trivial

/-- The checks only open and read devices that are in scope. -/
theorem preflight_probes {out : Outcome Error Cleared}
    (h : Runs plat.machine A (preflight plat mode) node out node' t) :
    ∀ e ∈ t, e.op.device = none ∨
      ∃ found, inScope plat.pci (plat.sysfs node) = .ok found ∧
        Nvidia.ProbesBoard found e.op := by
  have hlookNone : ∀ {out : Outcome Error Sysfs} {s : Node} {t : List (Event Op Node)},
      Runs plat.machine A (issue .readSysfs) node out s t → ∀ e ∈ t, e.op.device = none :=
    fun hlook => hlook.events_of_uses (P := fun op => op.device = none) (uses_perform rfl)
  obtain ⟨sysfs, s₁, t₁, u₁, hlook, hrest₁, rfl⟩ | ⟨why, rfl, hlook⟩ := runs_bind_iff.mp h
  · obtain ⟨rfl, rfl⟩ := runs_readSysfs hlook
    intro e he
    rcases List.mem_append.mp he with he | he
    · exact .inl (hlookNone hlook e he)
    have hnothing : ∀ {α : Type} {x : Except Error α} {out : Outcome Error α} {s s' : Node}
        {t : List (Event Op Node)}, Runs plat.machine A (Program.ofExcept x) s out s' t →
        ∀ e ∈ t, False :=
      fun hpure => hpure.events_of_uses (P := fun _ => False) (uses_ofExcept _)
    obtain ⟨_, s₂, t₂, u₂, hhost, hrest₂, rfl⟩ | ⟨why, rfl, hhost⟩ := runs_bind_iff.mp hrest₁
    · rcases List.mem_append.mp he with he | he
      · exact (hnothing hhost e he).elim
      obtain ⟨found, s₃, t₃, u₃, hscope, hrest₃, rfl⟩ | ⟨why, rfl, hscope⟩ :=
        runs_bind_iff.mp hrest₂
      · rcases List.mem_append.mp he with he | he
        · exact (hnothing hscope e he).elim
        have hrest : ∀ e ∈ u₃, e.op.device = none ∨ Nvidia.ProbesBoard found e.op := by
          refine hrest₃.events_of_uses
            (P := fun op => op.device = none ∨ Nvidia.ProbesBoard found op) ?_
          refine uses_bind (uses_ofExcept _) fun _ => ?_
          refine uses_bind (uses_ofExcept _) fun _ => ?_
          refine uses_bind ((resolveDrivers_uses _).mono fun _ hop => .inl hop.2) fun drivers => ?_
          refine uses_bind ?_ fun probed => ?_
          · rw [probeModes_eq]
            refine uses_bind (uses_gather fun state hstate => ?_) fun _ => trivial
            exact (probeOne_uses_board hstate).mono fun _ hop => .inr hop
          refine uses_bind (uses_perform (.inl rfl)) fun sysfs => ?_
          exact uses_bind (uses_ofExcept _) fun _ => trivial
        exact (hrest e he).imp_right fun hprobe => ⟨found, (runs_ofExcept_done.mp hscope).1, hprobe⟩
      · exact (hnothing hscope e he).elim
    · exact (hnothing hhost e he).elim
  · intro e he
    exact .inl (hlookNone hlook e he)

theorem preflight_devices {out : Outcome Error Cleared}
    (h : Runs plat.machine A (preflight plat mode) node out node' t) :
    ∀ e ∈ t, e.op.device = none ∨
      ∃ found, inScope plat.pci (plat.sysfs node) = .ok found ∧ StaysIn found e.op := by
  intro e he
  refine (preflight_probes h e he).imp_right fun ⟨found, hscope, hprobe⟩ => ⟨found, hscope, ?_⟩
  obtain ⟨state, _, ⟨hstate, _⟩, _, hdevice⟩ := hprobe
  intro address haddress
  rw [hdevice] at haddress
  exact List.any_eq_true.mpr ⟨state, hstate, by simpa using haddress⟩

end KataDeviceProvisioner.Ports.Main
