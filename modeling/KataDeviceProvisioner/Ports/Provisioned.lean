import KataDeviceProvisioner.Ports.Lifecycle
import KataDeviceProvisioner.Ports.Ordering

/-!
# Nodes that stay provisioned

A provisioned node that reboots keeps its label and is not visited again, so it
has to come back by itself.  `stays_provisioned` says that it does, any number of
times, and `finished_by_reboot` that a run which was cut off after its first bind
is finished by a reboot.
-/

namespace KataDeviceProvisioner.Ports.Main

open KataDeviceProvisioner.Verified

variable {plat : Platform} {A : Adversary} {node node' : Node} {t : List (Event Op Node)}
  {mode : Mode}

/-! ## Staying provisioned -/

/-- The node is in the mode, bound for it and configured for it, and nothing on
it would have a run refused. -/
structure Provisioned (plat : Platform) (mode : Mode) (node : Node) : Prop where
  firmware : FirmwareAt plat mode node
  bound : OnDrivers plat (binding mode) node
  boot : Configured plat (binding mode) node
  host : Host.check plat.pci (plat.sysfs node) = .ok ()
  carries : ∃ found, inScope plat.pci (plat.sysfs node) = .ok found ∧ found ≠ [] ∧
    verifyCapable plat.pci found mode = .ok ()

/-- The deeds that leave a node provisioned: looking at it, running for its mode
again, unless that falls short and leaves a file half written, and a reboot of a
host that yields. -/
def Deed.Keeps (mode : Mode) : Deed → Prop
  | .status _ _ => True
  | .apply mode' out torn => mode' = mode ∧ (out = .done () ∨ torn = false)
  | .uninstall _ => False
  | .reboot pick => pick.Yields

/-- What a node can carry is decided by its devices. -/
theorem carries_on (h : ∃ found, inScope plat.pci (plat.sysfs node) = .ok found ∧ found ≠ [] ∧
      verifyCapable plat.pci found mode = .ok ()) (node' : Node) :
    ∃ found, inScope plat.pci (plat.sysfs node') = .ok found ∧ found ≠ [] ∧
      verifyCapable plat.pci found mode = .ok () := by
  obtain ⟨found, hscope, hne, hcapable⟩ := h
  refine ⟨found.map (rebound node'), scope_rebound node' hscope, by simpa using hne, ?_⟩
  refine verifyCapable_eq_ok_iff.mpr fun state hstate => ?_
  obtain ⟨device, hdevice, rfl⟩ := List.mem_map.mp hstate
  exact verifyCapable_eq_ok_iff.mp hcapable device hdevice

/-- Nor does it matter who has a device open. -/
theorem Provisioned.proc (h : Provisioned plat mode node) (proc : Idle.Proc) :
    Provisioned { plat with proc := proc } mode node where
  firmware := h.firmware
  bound := onDrivers_proc plat proc h.bound
  boot := configured_proc plat proc h.boot
  host := h.host
  carries := h.carries

theorem Provisioned.of_parts (h : Provisioned plat mode node)
    (hboard : node'.board = node.board) (hdriver : node'.driver = node.driver)
    (hfiles : node'.files = node.files) : Provisioned plat mode node' where
  firmware state handle hopen := by
    rw [hboard]
    exact h.firmware state handle hopen
  bound state hstate := by
    rw [hdriver]
    exact h.bound state hstate
  boot := h.boot.of_files hfiles
  host := hostCheck_mono h.host fun name _ address hname => by rwa [← hdriver]
  carries := carries_on h.carries node'

/-- What is found for a device is no host GPU driver. -/
theorem resolves_vfio (hvfio : VfioRegisters plat) {aliases : Path} {state : DeviceState}
    {target : VfioDriver} (h : Resolves plat aliases state target) :
    target.driver ∉ Host.conflictingDrivers := by
  refine hvfio target.module ?_ target.driver h.registers
  rcases (resolveModule_ok h.named).1 with hnamed | ⟨_, _, hgeneric⟩
  · exact .inr ⟨_, _, _, hnamed⟩
  · exact .inl hgeneric

/-- No host GPU driver comes to hold a device as a host that yields boots. -/
private theorem reboot_host (hsound : Sound plat) (hvfio : VfioRegisters plat) {pick : HostPick}
    (hpick : pick.Yields) (hconf : Configured plat (binding mode) node) :
    ∀ name ∈ Host.conflictingDrivers, ∀ address,
      (reboot plat pick node).driver address ≠ some name := by
  obtain ⟨drivers, hresolved, hdisk⟩ := configured_mode.mp hconf
  have hnodup : ((members plat (binding mode)).map (·.address)).Nodup := members_nodup _
  obtain ⟨ids, rules, hback⟩ :=
    Modules.render_readsBack (hresolved.consistent hsound.names hnodup)
  obtain ⟨aliases, _, hclaims⟩ := hresolved.claims hnodup
  intro name hname address hdriver
  rcases reboot_driver_from hdriver with hbound | hpicked
  · obtain ⟨dev, _, hbound⟩ := Option.bind_eq_some_iff.mp hbound
    rw [hdisk.atBoot] at hbound
    rcases hback.bound_driver hbound with rfl | ⟨claim, hclaim, rfl⟩
    · exact absurd hname (by decide)
    · obtain ⟨state, _, driver, _, hresolves, rfl⟩ := (hclaims claim).mp hclaim
      exact resolves_vfio hvfio hresolves hname
  · exact hpick.conflicting address name hname hpicked

/-- A run that completes leaves the node provisioned. -/
theorem provisioned_of_done (hvfio : VfioRegisters plat) {torn : Bool}
    (h : Step plat (.apply mode (.done ()) torn) node node') : Provisioned plat mode node' := by
  cases h with
  | apply proc h =>
      have hrun := runs_of_machineFor h
      obtain ⟨found, drivers, hpost⟩ := apply_done hrun
      have hregisters : VfioRegisters { plat with proc := proc } := hvfio
      obtain ⟨found', drivers', hconverged⟩ := apply_converged hregisters hrun plat.proc
      exact
        { firmware := hpost.firmwareAt
          bound := onDrivers_proc { plat with proc := proc } plat.proc hpost.onDrivers
          boot := configured_proc { plat with proc := proc } plat.proc hpost.configured
          host := hconverged.host
          carries := ⟨found', hconverged.scope, hconverged.nonempty, hconverged.capable⟩ }

/-- No deed of these takes that away. -/
theorem Provisioned.step (hsound : Sound plat) (hvfio : VfioRegisters plat) {deed : Deed}
    (hkeeps : deed.Keeps mode) (h : Provisioned plat mode node)
    (hstep : Step plat deed node node') : Provisioned plat mode node' := by
  cases hstep with
  | status hrun =>
      obtain ⟨rfl, _⟩ := Nvidia.node_eq_of_quiet hrun (status_uses _ _) fun _ hop => hop
      exact h
  | apply proc hrun =>
      obtain ⟨rfl, rfl | rfl⟩ := hkeeps
      · exact provisioned_of_done hvfio (.apply proc hrun)
      have hwhole := runs_of_machineFor hrun
      have hdriver := apply_driver hwhole (onDrivers_proc plat proc h.bound)
      have hfiles := apply_files hrun (configured_proc plat proc h.boot)
      exact h.of_parts (apply_board hwhole h.firmware) hdriver hfiles
  | uninstall hrun => exact hkeeps.elim
  | reboot pick =>
      have hhost := reboot_host hsound hvfio hkeeps h.boot
      exact
        { firmware := h.firmware
          bound := reboot_onDrivers hsound hkeeps.races h.boot
          boot := h.boot.of_files rfl
          host := hostCheck_mono h.host fun name hname address hdriver =>
            absurd hdriver (hhost name hname address)
          carries := carries_on h.carries _ }

/-- A provisioned node is one a run has nothing to do on. -/
theorem Provisioned.converged (h : Provisioned plat mode node) :
    ∃ found drivers, Converged plat mode node found drivers := by
  obtain ⟨found, hscope, hne, hcapable⟩ := h.carries
  obtain ⟨drivers, hresolved, hdisk⟩ := configured_mode.mp h.boot
  have hfound := scope_found hscope
  have hset : passthroughSet found mode = (members plat (binding mode)).map (rebound node) := by
    rw [hfound, passthrough_members]
  have hresolved' : Resolved plat (passthroughSet found mode) drivers := by
    rw [hset]
    exact resolved_rebound hresolved plat.proc
  refine ⟨found, drivers, ?_⟩
  exact
    { host := h.host
      scope := hscope
      nonempty := hne
      capable := hcapable
      resolved := hresolved'
      bound := by
        intro state hstate
        rw [hset] at hstate
        obtain ⟨member, hmember, rfl⟩ := List.mem_map.mp hstate
        obtain ⟨hin, hhas⟩ := mem_members.mp hmember
        obtain ⟨driver, hget, htarget⟩ := hresolved.target (members_nodup _) hmember
        obtain ⟨name, hname, hdriver⟩ := (h.bound member hin).1 hhas
        rw [hname.unique htarget] at hdriver
        exact ⟨driver, hget, hdriver⟩
      modes := by
        intro state handle ⟨hstate, hof⟩
        rw [hfound] at hstate
        obtain ⟨member, hmember, rfl⟩ := List.mem_map.mp hstate
        exact h.firmware member handle ⟨hmember, hof⟩
      released := by
        intro state hstate hout
        rw [hfound] at hstate
        obtain ⟨member, hmember, rfl⟩ := List.mem_map.mp hstate
        refine (h.bound member hmember).2 ?_
        rw [← Bool.not_eq_true]
        intro hhas
        rw [hset] at hout
        exact hout (List.mem_map_of_mem (mem_members.mpr ⟨hmember, hhas⟩))
      onDisk := by
        rw [hset, claims_rebound]
        exact hdisk }

/-- A node that was provisioned once stays so: after any number of reboots of a host
that yields, looks and further runs for its mode, there is nothing left to do on
it.  The runs can have failed or been killed anywhere, but those that did have left
no file half written. -/
theorem stays_provisioned (hsound : Sound plat) (hvfio : VfioRegisters plat) {torn : Bool}
    {log : List Deed} {node₁ : Node}
    (hdone : Step plat (.apply mode (.done ()) torn) node node₁)
    (hkeeps : ∀ deed ∈ log, deed.Keeps mode) (h : History (Step plat) log node₁ node')
    (proc : Idle.Proc) :
    NoOp node' (exec { plat with proc := proc }.machine (apply { plat with proc := proc } mode) []
      node') := by
  have hstays : Provisioned plat mode node' :=
    h.invariant (I := Provisioned plat mode)
      (fun deed hdeed _ _ hnode hstep => hnode.step hsound hvfio (hkeeps deed hdeed) hstep)
      (provisioned_of_done hvfio hdone)
  obtain ⟨found, drivers, hconverged⟩ := (hstays.proc proc).converged
  exact hconverged.noOp

theorem bench_vfioRegisters (plugged : List PciDevice)
    (distinct : (plugged.map (·.address)).Nodup) :
    VfioRegisters (Bench.platform plugged distinct) := by
  intro module _ driver hdriver
  rw [← Except.ok.inj hdriver]
  split <;> decide

/-- A baseboard taken into `on`, then a further run killed between two of the
boot files, then a reboot, and by the next run a VM. -/
theorem stays_provisioned_killed :
    ∃ node', History (Step (Bench.platform Bench.baseboard))
        [.apply .on (.done ()) false, .apply .on (.stopped .killed) false, .reboot bareHost]
        Bench.dirty node' ∧
      NoOp node' (exec { Bench.platform Bench.baseboard with proc := busyProc }.machine
        (apply { Bench.platform Bench.baseboard with proc := busyProc } .on) [] node') := by
  have hfirst := step_exec (Bench.platform Bench.baseboard) { entries := some [] } .on false []
    Bench.dirty
  have hsecond := step_exec (Bench.platform Bench.baseboard) { entries := some [] } .on false
    (List.replicate 19 .ok ++ [.kill]) (exec ((Bench.platform Bench.baseboard).machineFor false)
      (apply (Bench.platform Bench.baseboard) .on) [] Bench.dirty).state
  rw [show (exec _ _ _ _).outcome = .done () by decide +kernel] at hfirst
  rw [show (exec _ _ _ _).outcome = .stopped .killed by decide +kernel] at hsecond
  have hrest := History.cons hsecond (.cons (.reboot bareHost _) (.nil _))
  refine ⟨_, .cons hfirst hrest, stays_provisioned (bench_sound _ _ (by decide))
    (bench_vfioRegisters _ _) hfirst ?_ hrest busyProc⟩
  intro deed hdeed
  rcases List.mem_cons.mp hdeed with rfl | hdeed
  · exact ⟨rfl, .inr rfl⟩
  · rw [List.mem_singleton.mp hdeed]
    exact bareHost_yields

/-! ## A run cut off after its first bind -/

/-- A run that got as far as binding a device is finished by a reboot, whatever
became of it: the node comes back in the mode and configured for it, and bound for
it unless the host comes first. -/
theorem finished_by_reboot (hsound : Sound plat) (pick : HostPick) {out : Outcome Error Unit}
    (h : Runs plat.machine A (apply plat mode) node out node' t)
    (hbind : ∃ e ∈ t, e.op.kind = .bind) :
    Ledger.Holds plat
      ⟨some mode, true, if pick.races then none else some (binding mode), some (binding mode)⟩
      (reboot plat pick node') := by
  rw [apply_eq] at h
  obtain ⟨cleared, s₁, t₁, t₂, hchecks, hstages, rfl⟩ | ⟨why, rfl, hchecks⟩ :=
    runs_bind_iff.mp h
  · obtain ⟨rfl, hquiet⟩ := preflight_quiet hchecks
    obtain ⟨found, probed, hgates⟩ := preflight_done hchecks
    obtain ⟨e, he, hkind⟩ := hbind
    have hlate : e ∈ t₂ := by
      rcases List.mem_append.mp he with he | he
      · rcases (hquiet e he).1 with hk | hk | hk | hk <;> cases hkind.symm.trans hk
      · exact he
    obtain ⟨u₁, u₂, u₃, u₄, u₅, htrace, hstaged⟩ := (stages_stageRun hstages).staged
    have hmem : e ∈ u₃ := hstaged.mem_binding (htrace ▸ hlate) hkind
    obtain ⟨_, hdisk, _⟩ := hstaged.persisted (List.ne_nil_of_mem hmem)
    have hconf : Configured plat (binding mode) node' := by
      obtain ⟨hset, hresolved⟩ := hgates.resolved
      rw [bootConfig, hset, claims_rebound] at hdisk
      exact configured_mode.mpr ⟨cleared.drivers, hresolved, hdisk⟩
    have hat : FirmwareAt plat mode node' := by
      obtain ⟨out₀, s₂, t₃, hmode, hboard, hdone⟩ := stages_board hstages
      obtain ⟨outcomes, rfl⟩ := hdone (.inr ⟨e, hlate, hkind⟩)
      intro member handle hopen
      obtain ⟨state, hstate, haddress⟩ := openable_scope hgates hopen
      rw [hboard, ← haddress]
      exact mode_done hmode hstate
    have hbefore : Ledger.Holds plat ⟨some mode, false, none, some (binding mode)⟩ node' :=
      { firmware := fun mode' hmode => by
          obtain rfl := Option.some.inj hmode
          exact hat
        settled := fun hsettled => by cases hsettled
        bound := fun b hb => by cases hb
        boot := fun b hb => by
          obtain rfl := Option.some.inj hb
          exact hconf }
    exact step_holds hsound hbefore (.reboot pick node')
  · obtain ⟨e, he, hkind⟩ := hbind
    rcases ((preflight_quiet hchecks).2 e he).1 with hk | hk | hk | hk <;>
      cases hkind.symm.trans hk

/-- A baseboard taken into PPCIE by a run that is killed between its two
binds. -/
theorem finished_by_reboot_killed :
    (exec (Bench.platform Bench.baseboard).machine
      (apply (Bench.platform Bench.baseboard) .ppcie) (List.replicate 29 .ok ++ [.kill])
      Bench.dirty).outcome = .stopped .killed ∧
    Ledger.Holds (Bench.platform Bench.baseboard)
      ⟨some .ppcie, true, some .baseboard, some .baseboard⟩
      (reboot (Bench.platform Bench.baseboard) bareHost
        (exec (Bench.platform Bench.baseboard).machine
          (apply (Bench.platform Bench.baseboard) .ppcie) (List.replicate 29 .ok ++ [.kill])
          Bench.dirty).state) := by
  have hbinds : (exec (Bench.platform Bench.baseboard).machine
      (apply (Bench.platform Bench.baseboard) .ppcie) (List.replicate 29 .ok ++ [.kill])
      Bench.dirty).events.any (fun e => e.op.kind == .bind) = true := by decide +kernel
  obtain ⟨e, he, hkind⟩ := List.any_eq_true.mp hbinds
  have hrun := exec_runs_hostile (Bench.platform Bench.baseboard).machine
    (apply (Bench.platform Bench.baseboard) .ppcie) (List.replicate 29 .ok ++ [.kill]) Bench.dirty
  exact ⟨by decide +kernel, finished_by_reboot (bench_sound _ _ (by decide)) bareHost hrun
    ⟨e, he, by simpa using hkind⟩⟩

end KataDeviceProvisioner.Ports.Main
