import KataDeviceProvisioner.Ports.Steady
import KataDeviceProvisioner.Ports.NvidiaHistory
import KataDeviceProvisioner.Verified.History

/-!
# The life of a node

A node is provisioned, looked at, provisioned for another mode, uninstalled and
rebooted, in any order, and any of the runs can fail or be killed anywhere.
`Ledger` is what somebody who saw only how the runs ended, and what drivers the
host has of its own, would write down of it: the mode the firmware is at, whether
the devices run it, what is bound and what the boot files bind.  `ledger_holds`
says that whatever the ledger has an entry for is so.
-/

namespace KataDeviceProvisioner.Ports.Main

open KataDeviceProvisioner.Verified

variable {plat : Platform} {A : Adversary} {node node' : Node} {t : List (Event Op Node)}
  {mode : Mode} {found : List DeviceState} {drivers : Drivers}

/-! ## What happens to a node -/

/-- One thing that happens to a node. -/
inductive Deed where
  | status (probe all : Bool)
  /-- A run, how it ended, and whether it may have left a file half written. -/
  | apply (mode : Mode) (out : Outcome Error Unit) (torn : Bool)
  | uninstall (out : Outcome Error Unit)
  | reboot (pick : HostPick)

/-- What a deed can make of a node, with whatever processes there are on it by
then.  No module that is loaded takes a device by itself; `StepOn` is for nodes on
which one does. -/
inductive Step (plat : Platform) : Deed → Node → Node → Prop where
  | status {probe all : Bool} {out : Outcome Error (List DeviceState × List (String × String))}
      {node node' : Node} {t : List (Event Op Node)}
      (h : Runs plat.machine .hostile (status plat probe all) node out node' t) :
      Step plat (.status probe all) node node'
  | apply (proc : Idle.Proc) {mode : Mode} {out : Outcome Error Unit} {torn : Bool}
      {node node' : Node} {t : List (Event Op Node)}
      (h : Runs ({ plat with proc := proc }.machineFor torn) .hostile
        (apply { plat with proc := proc } mode) node out node' t) :
      Step plat (.apply mode out torn) node node'
  | uninstall {out : Outcome Error Unit} {node node' : Node} {t : List (Event Op Node)}
      (h : Runs plat.machine .hostile (uninstall plat) node out node' t) :
      Step plat (.uninstall out) node node'
  | reboot (pick : HostPick) (node : Node) : Step plat (.reboot pick) node (reboot plat pick node)

/-! ## The ledger -/

/-- What is known of a node; `none` is not known. -/
structure Ledger where
  /-- The mode the knobs of the whole board are at. -/
  firmware : Option Mode
  /-- Every device runs what its knobs hold. -/
  settled : Bool
  bound : Option Binding
  /-- What the boot files bind. -/
  boot : Option Binding
  deriving Repr, DecidableEq

def Ledger.unknown : Ledger := ⟨none, false, none, none⟩

/-- The ledger after a deed. -/
def Ledger.record (ledger : Ledger) : Deed → Ledger
  | .status _ _ => ledger
  | .apply mode (.done ()) _ =>
      { firmware := some mode
        settled := ledger.settled
        bound := some (binding mode)
        boot := some (binding mode) }
  -- What a run that fell short would have made anyway it has not undone, but for a file
  -- it may have torn.
  | .apply mode (.stopped _) torn =>
      { firmware := ledger.firmware.filter (· == mode)
        settled := ledger.settled && ledger.firmware == some mode
        bound := ledger.bound.filter (· == binding mode)
        boot := ledger.boot.filter fun b => b == binding mode && !torn }
  | .uninstall (.done ()) => { ledger with boot := some .host }
  | .uninstall (.stopped _) => { ledger with boot := ledger.boot.filter (· == .host) }
  -- A driver of the host's that comes first may have any of the devices.
  | .reboot pick =>
      { ledger with settled := true, bound := if pick.races then none else ledger.boot }

/-- What a ledger has an entry for is so. -/
structure Ledger.Holds (plat : Platform) (ledger : Ledger) (node : Node) : Prop where
  firmware : ∀ mode, ledger.firmware = some mode → FirmwareAt plat mode node
  settled : ledger.settled = true → Nvidia.Settled plat (scope plat) node
  bound : ∀ b, ledger.bound = some b → OnDrivers plat b node
  boot : ∀ b, ledger.boot = some b → Configured plat b node

theorem unknown_holds (plat : Platform) (node : Node) : Ledger.unknown.Holds plat node where
  firmware _ h := by cases h
  settled h := by cases h
  bound _ h := by cases h
  boot _ h := by cases h

/-- The entries are about the parts of a node they name. -/
theorem Ledger.Holds.of_parts {ledger : Ledger} (h : ledger.Holds plat node)
    (hboard : node'.board = node.board) (hdriver : node'.driver = node.driver)
    (hfiles : node'.files = node.files) : ledger.Holds plat node' where
  firmware mode hmode := by
    intro state handle hopen
    rw [hboard]
    exact h.firmware mode hmode state handle hopen
  settled hsettled := by
    intro state handle hopen
    rw [hboard]
    exact h.settled hsettled state handle hopen
  bound b hb := by
    intro state hstate
    rw [hdriver]
    exact h.bound b hb state hstate
  boot b hb := (h.boot b hb).of_files hfiles

/-! ## Processes come and go -/

/-- What is found for a device does not depend on who has it open. -/
theorem resolves_proc (proc : Idle.Proc) {aliases : Path} {state : DeviceState}
    {target : VfioDriver} (h : Resolves plat aliases state target) :
    Resolves { plat with proc := proc } aliases state target :=
  ⟨h.named, h.command, h.chroot, h.loads, h.registers⟩

theorem onDrivers_proc (plat : Platform) (proc : Idle.Proc) {b : Binding}
    (h : OnDrivers plat b node) : OnDrivers { plat with proc := proc } b node := by
  intro state hstate
  obtain ⟨hbound, hfree⟩ := h state hstate
  refine ⟨fun hhas => ?_, hfree⟩
  obtain ⟨driver, ⟨aliases, target, haliases, hresolves, htarget⟩, hdriver⟩ := hbound hhas
  exact ⟨driver, ⟨aliases, target, haliases, resolves_proc proc hresolves, htarget⟩, hdriver⟩

theorem resolved_proc (plat : Platform) (proc : Idle.Proc) {states : List DeviceState}
    {drivers : Drivers} (h : Resolved plat states drivers) :
    Resolved { plat with proc := proc } states drivers := by
  obtain ⟨aliases, haliases, hall⟩ := h
  refine ⟨aliases, haliases, hall.imp ?_⟩
  intro state entry ⟨haddress, hresolves⟩
  exact ⟨haddress, resolves_proc proc hresolves⟩

theorem configured_proc (plat : Platform) (proc : Idle.Proc) {b : Binding}
    (h : Configured plat b node) : Configured { plat with proc := proc } b node := by
  cases b with
  | host => exact h
  | gpus | baseboard =>
      obtain ⟨drivers, hresolved, hdisk⟩ := h
      exact ⟨drivers, resolved_proc plat proc hresolved, hdisk⟩

/-! ## A run that completed -/

theorem PostCondition.firmwareAt (h : PostCondition plat mode node found drivers node' t) :
    FirmwareAt plat mode node' := by
  intro member handle ⟨hmember, hof⟩
  have hfound : Nvidia.Openable found (rebound node member) handle := by
    rw [scope_found h.scope]
    exact ⟨List.mem_map_of_mem hmember, hof⟩
  exact h.modes (rebound node member) handle hfound

/-- The passthrough set is the members of the binding, as found on the node. -/
private theorem PostCondition.set (h : PostCondition plat mode node found drivers node' t) :
    passthroughSet found mode = (members plat (binding mode)).map (rebound node) := by
  rw [scope_found h.scope, passthrough_members]

private theorem PostCondition.members_resolved
    (h : PostCondition plat mode node found drivers node' t) :
    Resolved plat (members plat (binding mode)) drivers :=
  resolved_of_rebound (h.set ▸ h.resolved)

theorem PostCondition.onDrivers (h : PostCondition plat mode node found drivers node' t) :
    OnDrivers plat (binding mode) node' := by
  intro member hscope
  constructor
  · intro hhas
    have hmember : member ∈ members plat (binding mode) := mem_members.mpr ⟨hscope, hhas⟩
    have hset : rebound node member ∈ passthroughSet found mode := by
      rw [h.set]
      exact List.mem_map_of_mem hmember
    obtain ⟨driver, hget, hdriver⟩ := h.bound _ hset
    obtain ⟨driver', hget', htarget⟩ := h.members_resolved.target (members_nodup _) hmember
    obtain rfl : driver' = driver := Option.some.inj (hget'.symm.trans hget)
    exact ⟨driver'.driver, htarget, hdriver⟩
  · intro hhas
    have hfound : rebound node member ∈ found := by
      rw [scope_found h.scope]
      exact List.mem_map_of_mem hscope
    refine (h.released _ hfound fun hset => ?_).1
    rw [passthroughSet_eq, List.mem_filter] at hset
    have hsame : (binding mode).has (rebound node member) = (binding mode).has member :=
      Binding.has_congr rfl
    rw [hsame, hhas] at hset
    cases hset.2

theorem PostCondition.configured (h : PostCondition plat mode node found drivers node' t) :
    Configured plat (binding mode) node' := by
  have hdisk := h.onDisk
  rw [h.set, claims_rebound] at hdisk
  exact configured_mode.mpr ⟨drivers, h.members_resolved, hdisk⟩

/-- A settled board stays settled if the run completed, or had nothing to do to
the firmware. -/
theorem apply_settled {out : Outcome Error Unit}
    (h : Runs plat.machine A (apply plat mode) node out node' t)
    (hstart : Nvidia.Settled plat (scope plat) node)
    (hclean : out = .done () ∨ FirmwareAt plat mode node) :
    Nvidia.Settled plat (scope plat) node' := by
  rcases hclean with rfl | hat
  · rw [apply_eq] at h
    obtain ⟨cleared, s₁, t₁, t₂, hchecks, hstages, _⟩ := runs_bind_done.mp h
    obtain ⟨rfl, _⟩ := preflight_quiet hchecks
    obtain ⟨found, probed, hgates⟩ := preflight_done hchecks
    obtain ⟨out₀, s₂, t₃, hmode, hboard, hdone⟩ := stages_board hstages
    have hnodup : (cleared.states.map (·.address)).Nodup := by
      rw [hgates.states, List.map_map]
      have hsame : probed.map ((·.address) ∘ (·.1)) = found.map (·.address) := by
        have hprobes := hgates.probes
        clear hgates
        induction hprobes with
        | nil => rfl
        | cons hprobe _ ih =>
            rw [List.map_cons, List.map_cons, ih, Function.comp_apply, hprobe.same.1]
      rw [hsame]
      exact scope_nodup hgates.scope
    have hsettled : Nvidia.Settled plat cleared.states s₁ := by
      intro state handle hopen
      obtain ⟨member, hmember, haddress⟩ := openable_cleared hgates hopen
      rw [← haddress]
      exact hstart member handle hmember
    have hafter := Nvidia.run_settled hmode hnodup hsettled (.inl (hdone (.inl rfl)))
    intro member handle hopen
    obtain ⟨state, hstate, haddress⟩ := openable_scope hgates hopen
    rw [hboard, ← haddress]
    exact hafter state handle hstate
  · intro member handle hopen
    rw [apply_board h hat]
    exact hstart member handle hopen

/-! ## One deed -/

theorem status_uses (probe all : Bool) :
    (status plat probe all).Uses fun op => op.kind.Quiet := by
  refine uses_bind (uses_perform (.inr (.inl rfl))) fun sysfs => ?_
  refine uses_bind (uses_ofExcept _) fun states => ?_
  dsimp only
  split
  · trivial
  · split
    · exact uses_bind (uses_ofExcept _) fun _ => probeModes_uses _
    · trivial

/-- The ledger after a run, whatever became of it. -/
private theorem apply_holds {ledger : Ledger} {out : Outcome Error Unit} {torn : Bool}
    (h : Runs (plat.machineFor torn) .hostile (apply plat mode) node out node' t)
    (hold : ledger.Holds plat node) : (ledger.record (.apply mode out torn)).Holds plat node' := by
  have hrun := runs_of_machineFor h
  cases out with
  | done a =>
      obtain ⟨found, drivers, hpost⟩ := apply_done hrun
      exact
        { firmware := fun mode' hmode => by
            obtain rfl := Option.some.inj hmode
            exact hpost.firmwareAt
          settled := fun hsettled => apply_settled hrun (hold.settled hsettled) (.inl rfl)
          bound := fun b hb => by
            obtain rfl := Option.some.inj hb
            exact hpost.onDrivers
          boot := fun b hb => by
            obtain rfl := Option.some.inj hb
            exact hpost.configured }
  | stopped why =>
      refine
        { firmware := fun mode' hmode => ?_
          settled := fun hsettled => ?_
          bound := fun b hb => ?_
          boot := fun b hb => ?_ }
      · obtain ⟨hentry, hsame⟩ := Option.filter_eq_some_iff.mp hmode
        obtain rfl : mode' = mode := by simpa using hsame
        have hat := hold.firmware mode' hentry
        intro state handle hopen
        rw [apply_board hrun hat]
        exact hat state handle hopen
      · obtain ⟨hwas, hentry⟩ := (Bool.and_eq_true _ _).mp hsettled
        exact apply_settled hrun (hold.settled hwas)
          (.inr (hold.firmware mode (by simpa using hentry)))
      · obtain ⟨hentry, hsame⟩ := Option.filter_eq_some_iff.mp hb
        obtain rfl : b = binding mode := by simpa using hsame
        have hon := hold.bound _ hentry
        intro state hstate
        rw [apply_driver hrun hon]
        exact hon state hstate
      · obtain ⟨hentry, hsame⟩ := Option.filter_eq_some_iff.mp hb
        obtain ⟨rfl, rfl⟩ : b = binding mode ∧ torn = false := by simpa using hsame
        have hconf := hold.boot _ hentry
        exact hconf.of_files (apply_files h hconf)

private theorem uninstall_holds {ledger : Ledger} {out : Outcome Error Unit}
    (h : Runs plat.machine .hostile (uninstall plat) node out node' t)
    (hold : ledger.Holds plat node) : (ledger.record (.uninstall out)).Holds plat node' := by
  obtain ⟨hboard, hdriver⟩ := Modules.unpersist_keeps h
  have hfirmware : ∀ mode, ledger.firmware = some mode → FirmwareAt plat mode node' := by
    intro mode hmode state handle hopen
    rw [hboard]
    exact hold.firmware mode hmode state handle hopen
  have hsettled : ledger.settled = true → Nvidia.Settled plat (scope plat) node' := by
    intro hwas state handle hopen
    rw [hboard]
    exact hold.settled hwas state handle hopen
  have hbound : ∀ b, ledger.bound = some b → OnDrivers plat b node' := by
    intro b hb state hstate
    rw [hdriver]
    exact hold.bound b hb state hstate
  cases out with
  | done a =>
      refine ⟨hfirmware, hsettled, hbound, fun b hb => ?_⟩
      obtain rfl := Option.some.inj hb
      exact Modules.forall_bootFiles.mpr (Modules.unpersist_done h)
  | stopped why =>
      refine ⟨hfirmware, hsettled, hbound, fun b hb => ?_⟩
      obtain ⟨hentry, hsame⟩ := Option.filter_eq_some_iff.mp hb
      obtain rfl : b = .host := by simpa using hsame
      have hgone := hold.boot _ hentry
      exact hgone.of_files (Modules.unpersist_removed hgone h)

private theorem reboot_holds {ledger : Ledger} (hsound : Sound plat) (pick : HostPick)
    (hold : ledger.Holds plat node) :
    (ledger.record (.reboot pick)).Holds plat (reboot plat pick node) where
  firmware mode hmode := hold.firmware mode hmode
  settled _ := fun _ _ _ => rfl
  bound b hb := by
    obtain ⟨hraces, hboot⟩ : pick.races = false ∧ ledger.boot = some b := by
      simpa [Ledger.record] using hb
    exact reboot_onDrivers hsound hraces (hold.boot b hboot)
  boot b hb := (hold.boot b hb).of_files rfl

/-- No deed makes the ledger wrong. -/
theorem step_holds (hsound : Sound plat) {ledger : Ledger} {deed : Deed}
    (hold : ledger.Holds plat node) (h : Step plat deed node node') :
    (ledger.record deed).Holds plat node' := by
  cases h with
  | status h =>
      obtain ⟨rfl, _⟩ := Nvidia.node_eq_of_quiet h (status_uses _ _) fun _ hop => hop
      exact hold
  | apply proc h =>
      have hbefore : ledger.Holds { plat with proc := proc } node :=
        { firmware := hold.firmware
          settled := hold.settled
          bound := fun b hb => onDrivers_proc plat proc (hold.bound b hb)
          boot := fun b hb => configured_proc plat proc (hold.boot b hb) }
      have hafter := apply_holds h hbefore
      exact
        { firmware := hafter.firmware
          settled := hafter.settled
          bound := fun b hb =>
            onDrivers_proc { plat with proc := proc } plat.proc (hafter.bound b hb)
          boot := fun b hb =>
            configured_proc { plat with proc := proc } plat.proc (hafter.boot b hb) }
  | uninstall h => exact uninstall_holds h hold
  | reboot pick => exact reboot_holds hsound pick hold

/-! ## A life -/

/-- Whatever happened to a node, in whatever order, and wherever the runs were
cut off, what the ledger has an entry for is so. -/
theorem ledger_holds (hsound : Sound plat) {log : List Deed}
    (h : History (Step plat) log node node') :
    (log.foldl Ledger.record Ledger.unknown).Holds plat node' :=
  h.tracks (fun _ _ _ _ hold hstep => step_holds hsound hold hstep) (unknown_holds plat node)

/-- A computed run is a deed. -/
theorem step_exec (plat : Platform) (proc : Idle.Proc) (mode : Mode) (torn : Bool)
    (σ : List (Verdict Error Residue)) (node : Node) :
    Step plat (.apply mode (exec ({ plat with proc := proc }.machineFor torn)
        (apply { plat with proc := proc } mode) σ node).outcome torn) node
      (exec ({ plat with proc := proc }.machineFor torn) (apply { plat with proc := proc } mode) σ
        node).state :=
  .apply proc (exec_runs_hostile _ _ σ node)

theorem bench_sound (plugged : List PciDevice) (distinct : (plugged.map (·.address)).Nodup)
    (hapart : ∀ state ∈ scope (Bench.platform plugged distinct),
      ∀ other ∈ scope (Bench.platform plugged distinct), state.vendor = other.vendor →
        state.deviceId = other.deviceId → state.provisioning = other.provisioning) :
    Sound (Bench.platform plugged distinct) where
  names := bench_plainNames plugged distinct
  vfioPci module driver hmodule h := by
    rw [← Except.ok.inj h, if_neg]
    intro hgrace
    rw [hgrace] at hmodule
    exact absurd hmodule (by decide)
  apart := hapart

/-- A host that has no driver for anything. -/
def bareHost : HostPick where
  driver _ := none
  not_vfio _ := rfl
  races := false

theorem bareHost_yields : bareHost.Yields := ⟨rfl, fun _ _ _ hpicked => by cases hpicked⟩

/-- A baseboard taken into `on` by a run, and by one more that is killed between
two of the boot files, and rebooted. -/
theorem ledger_holds_killed :
    ∃ node', History (Step (Bench.platform Bench.baseboard))
        [.apply .on (.done ()) false, .apply .on (.stopped .killed) false, .reboot bareHost]
        Bench.dirty node' ∧
      Ledger.Holds (Bench.platform Bench.baseboard) ⟨some .on, true, some .gpus, some .gpus⟩
        node' := by
  have hfirst := step_exec (Bench.platform Bench.baseboard) { entries := some [] } .on false []
    Bench.dirty
  have hsecond := step_exec (Bench.platform Bench.baseboard) { entries := some [] } .on false
    (List.replicate 19 .ok ++ [.kill]) (exec ((Bench.platform Bench.baseboard).machineFor false)
      (apply (Bench.platform Bench.baseboard) .on) [] Bench.dirty).state
  rw [show (exec _ _ _ _).outcome = .done () by decide +kernel] at hfirst
  rw [show (exec _ _ _ _).outcome = .stopped .killed by decide +kernel] at hsecond
  have hlife := History.cons hfirst (.cons hsecond (.cons (.reboot bareHost _) (.nil _)))
  exact ⟨_, hlife, ledger_holds (bench_sound _ _ (by decide)) hlife⟩

end KataDeviceProvisioner.Ports.Main
