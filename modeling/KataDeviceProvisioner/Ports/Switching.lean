import KataDeviceProvisioner.Ports.Provisioned
import KataDeviceProvisioner.Ports.Undisturbed

/-!
# Going from mode to mode

A node that has been provisioned once is taken from mode to mode by further runs,
some of which fail.  What a run can make of a binding is little enough
(`step_driver`) that no history of runs gets a node into a state from which it
cannot be provisioned: `never_wedged` says what it takes for the next run to
complete, and the past is not part of it.
-/

namespace KataDeviceProvisioner.Ports.Main

open KataDeviceProvisioner.Verified

variable {plat : Platform} {A : Adversary} {node node' : Node} {t : List (Event Op Node)}
  {mode : Mode} {found : List DeviceState} {drivers : Drivers} {b : Binding}

/-! ## What becomes of a driver -/

/-- The device stays on the driver it is on, or comes to be on none, or on the
one found for it. -/
def Moves (plat : Platform) (node node' : Node) (address : String) : Prop :=
  node'.driver address = node.driver address ∨ node'.driver address = none ∨
    ∃ member ∈ scope plat, member.address = address ∧
      ∃ driver, Target plat member driver ∧ node'.driver address = some driver

/-- The operation leaves every driver alone, or takes its device off the one it
is on, or binds it to the one found for it. -/
def Binds.Found (plat : Platform) (op : Op) : Prop :=
  (op.kind ≠ .bind ∧ op.kind ≠ .unbind) ∨ (∃ address, op = .unbind address) ∨
    ∃ member ∈ scope plat, ∃ driver, Target plat member driver ∧
      op = .bind member.address driver

private theorem moves_of_found {s : Node} {op : Op} {r : Except Error op.Res}
    (hop : Binds.Found plat op) (hs : ∀ address, Moves plat node s address)
    (h : Responds plat.machine A s op r node') (address : String) :
    Moves plat node node' address := by
  have hsame : node'.driver address = s.driver address → Moves plat node node' address := by
    intro heq
    unfold Moves
    rw [heq]
    exact hs address
  by_cases hdevice : op.device = some address
  · rcases hop with ⟨hbind, hunbind⟩ | ⟨other, rfl⟩ | ⟨member, hmember, driver, htarget, rfl⟩
    · exact hsame (responds_driver address (.inr ⟨hbind, hunbind⟩) h)
    · obtain rfl : other = address := Option.some.inj hdevice
      obtain rfl | rfl | ⟨_, _, hfile, _⟩ := responds_state h
      · exact hs _
      · exact .inr (.inl (by simp [Machine.effect, Platform.machine, Platform.answer,
          Platform.setDriver]))
      · cases hfile
    · obtain rfl : member.address = address := Option.some.inj hdevice
      rcases responds_bind h with rfl | ⟨_, rfl⟩
      · exact hs _
      · refine .inr (.inr ⟨member, hmember, rfl, driver, htarget, ?_⟩)
        simp [Platform.setDriver]
  · exact hsame (responds_driver address (.inl hdevice) h)

/-- Every operation of a run is one of these. -/
private theorem apply_found {out : Outcome Error Unit}
    (h : Runs plat.machine A (apply plat mode) node out node' t) :
    ∀ e ∈ t, Binds.Found plat e.op := by
  have hother : ∀ {op : Op}, op.kind ≠ .bind → op.kind ≠ .unbind → Binds.Found plat op :=
    fun hbind hunbind => .inl ⟨hbind, hunbind⟩
  have hquiet : ∀ {op : Op}, op.kind.Quiet → Binds.Found plat op := by
    intro op hop
    rcases hop with hk | hk | hk | hk <;>
      exact hother (by rw [hk]; decide) (by rw [hk]; decide)
  rw [apply_eq] at h
  obtain ⟨cleared, s₁, t₁, t₂, hchecks, hstages, rfl⟩ | ⟨why, rfl, hchecks⟩ :=
    runs_bind_iff.mp h
  · obtain ⟨rfl, hchecked⟩ := preflight_quiet hchecks
    obtain ⟨found, probed, hgates⟩ := preflight_done hchecks
    obtain ⟨hset, hresolved⟩ := hgates.resolved
    refine List.forall_mem_append.mpr ⟨fun e he => hquiet (hchecked e he).1, ?_⟩
    refine stages_events hstages (fun hmode e he => ?_) (fun hpersist e he => ?_)
      (fun hbind e he => ?_) (fun hrelease e he => ?_) (fun hverify e he => ?_)
    · rcases (mode_events hmode e he).1 with hk | hk | hk <;>
        exact hother (by rw [hk]; decide) (by rw [hk]; decide)
    · have hk := (persist_keeps hpersist).1 e he
      exact hother (by rw [hk]; decide) (by rw [hk]; decide)
    · obtain ⟨state, hstate, driver, hget, hop⟩ := hbind.events_of_uses binds_uses e he
      rw [hset] at hstate
      obtain ⟨member, hmember, rfl⟩ := List.mem_map.mp hstate
      obtain ⟨driver', hget', htarget⟩ := hresolved.target (members_nodup _) hmember
      obtain rfl : driver' = driver := Option.some.inj (hget'.symm.trans hget)
      exact .inr (.inr ⟨member, (mem_members.mp hmember).1, driver'.driver, htarget, hop⟩)
    · rcases hrelease.events_of_uses release_uses e he with hop | ⟨state, _, _, hop⟩
      · rw [hop]
        exact hother (by decide) (by decide)
      · exact .inr (.inl ⟨state.address, hop⟩)
    · exact hquiet ((verify_keeps hverify).2 e he)
  · exact fun e he => hquiet ((preflight_quiet hchecks).2 e he).1

theorem target_proc (plat : Platform) (proc : Idle.Proc) {member : DeviceState} {driver : String}
    (h : Target plat member driver) : Target { plat with proc := proc } member driver := by
  obtain ⟨aliases, target, haliases, hresolves, htarget⟩ := h
  exact ⟨aliases, target, haliases, resolves_proc proc hresolves, htarget⟩

/-- What any deed but a reboot makes of a driver. -/
theorem step_moves {deed : Deed} (hno : ∀ pick, deed ≠ .reboot pick)
    (h : Step plat deed node node') (address : String) : Moves plat node node' address := by
  cases h with
  | status h =>
      obtain ⟨rfl, _⟩ := Nvidia.node_eq_of_quiet h (status_uses _ _) fun _ hop => hop
      exact .inl rfl
  | apply proc h =>
      have hrun := runs_of_machineFor h
      have hmoves := (hrun.keeps (I := fun s => ∀ address,
        Moves { plat with proc := proc } node s address)
        (fun e he s r s' hs hresp => moves_of_found (apply_found hrun e he) hs hresp)
        fun address => .inl rfl).1 address
      rcases hmoves with hsame | hnone | ⟨member, hmember, haddress, driver, htarget, hdriver⟩
      · exact .inl hsame
      · exact .inr (.inl hnone)
      · have hplat : Target plat member driver :=
          target_proc { plat with proc := proc } plat.proc htarget
        exact .inr (.inr ⟨member, hmember, haddress, driver, hplat, hdriver⟩)
  | uninstall h => exact .inl (by rw [(Modules.unpersist_keeps h).2])
  | reboot pick => exact absurd rfl (hno pick)

/-! ## Nodes that can be provisioned -/

/-- Nothing stands in the way of a run that binds no more than the binding, but
what the node can carry and who has its devices open. -/
structure Ready (plat : Platform) (b : Binding) (node : Node) : Prop where
  host : Host.check plat.pci (plat.sysfs node) = .ok ()
  devices : ∃ found, inScope plat.pci (plat.sysfs node) = .ok found ∧ found ≠ []
  resolved : ∃ drivers, Resolved plat (members plat b) drivers
  /-- A driver that has a device of the binding is the one found for it. -/
  free : ∀ member ∈ members plat b, ∀ current, node.driver member.address = some current →
    Target plat member current

theorem Provisioned.ready (h : Provisioned plat mode node) : Ready plat (binding mode) node where
  host := h.host
  devices := by
    obtain ⟨found, hscope, hne, _⟩ := h.carries
    exact ⟨found, hscope, hne⟩
  resolved := by
    obtain ⟨drivers, hresolved, _⟩ := configured_mode.mp h.boot
    exact ⟨drivers, hresolved⟩
  free := by
    intro member hmember current hcurrent
    obtain ⟨hscope, hhas⟩ := mem_members.mp hmember
    obtain ⟨driver, htarget, hdriver⟩ := (h.bound member hscope).1 hhas
    rw [hdriver] at hcurrent
    rwa [← Option.some.inj hcurrent]

/-- Runs keep it, in whatever mode they are and however they end. -/
theorem Ready.step (hvfio : VfioRegisters plat) {deed : Deed}
    (hno : ∀ pick, deed ≠ .reboot pick) (h : Ready plat b node)
    (hstep : Step plat deed node node') : Ready plat b node' where
  host := by
    refine hostCheck_mono h.host fun name hname address hdriver => ?_
    rcases step_moves hno hstep address with hsame | hnone | ⟨_, _, _, driver, htarget, hbound⟩
    · rwa [← hsame]
    · rw [hnone] at hdriver
      cases hdriver
    · obtain ⟨_, target, _, hresolves, rfl⟩ := htarget
      rw [hdriver] at hbound
      obtain rfl := Option.some.inj hbound
      exact absurd hname (resolves_vfio hvfio hresolves)
  devices := by
    obtain ⟨found, hscope, hne⟩ := h.devices
    exact ⟨_, scope_rebound node' hscope, by simpa using hne⟩
  resolved := h.resolved
  free := by
    intro member hmember current hcurrent
    rcases step_moves hno hstep member.address with
      hsame | hnone | ⟨other, hother, haddress, driver, htarget, hbound⟩
    · rw [hsame] at hcurrent
      exact h.free member hmember current hcurrent
    · rw [hnone] at hcurrent
      cases hcurrent
    · obtain rfl : other = member :=
        eq_of_address (nodup_scope plat) hother (mem_members.mp hmember).1 haddress
      rw [hbound] at hcurrent
      rwa [← Option.some.inj hcurrent]

/-- The devices of a smaller binding are found drivers for as well. -/
theorem resolved_members {b' : Binding} (hsub : ∀ member, b'.has member → b.has member)
    (h : Resolved plat (members plat b) drivers) :
    ∃ drivers', Resolved plat (members plat b') drivers' := by
  obtain ⟨aliases, haliases, hget⟩ := h.get (members_nodup b)
  have hentries : ∀ member ∈ members plat b', ∃ entry : String × VfioDriver,
      entry.1 = member.address ∧ Resolves plat aliases member entry.2 := by
    intro member hmember
    obtain ⟨hscope, hhas⟩ := mem_members.mp hmember
    obtain ⟨driver, _, hresolves⟩ := hget member (mem_members.mpr ⟨hscope, hsub member hhas⟩)
    exact ⟨(member.address, driver), rfl, hresolves⟩
  obtain ⟨entries, hall⟩ := exists_forall₂_of_mem hentries
  exact ⟨entries.reverse, aliases, haliases, by rwa [List.reverse_reverse]⟩

/-! ## The next run -/

/-- The run for the mode asks that nobody has the device open: it is to be bound
and has a plan or is not on its driver, or it is to be handed back. -/
def Asked (plat : Platform) (mode : Mode) (node : Node) (member : DeviceState) : Prop :=
  if (binding mode).has member = true then
    HasPlan plat node mode member ∨
      ∀ driver, Target plat member driver → node.driver member.address ≠ some driver
  else (node.driver member.address).any namesVfio = true

theorem inSet_members (hscope : inScope plat.pci (plat.sysfs node) = .ok found)
    {member : DeviceState} (hmember : member ∈ scope plat) :
    inSet (passthroughSet found mode) member.address = true ↔ (binding mode).has member = true := by
  have hfound : rebound node member ∈ found := by
    rw [scope_found hscope]
    exact List.mem_map_of_mem hmember
  have hsame : (binding mode).has (rebound node member) = (binding mode).has member :=
    Binding.has_congr rfl
  have hin : inSet (passthroughSet found mode) member.address = true ↔
      rebound node member ∈ passthroughSet found mode :=
    inSet_passthrough (scope_nodup hscope) hfound
  rw [passthroughSet_eq, List.mem_filter, hsame, and_iff_right hfound] at hin
  rw [passthroughSet_eq]
  exact hin

/-- What has to be idle is what the run asks for. -/
theorem idle_iff (hscope : inScope plat.pci (plat.sysfs node) = .ok found)
    (hresolved : Resolved plat (members plat (binding mode)) drivers) :
    verifyIdle plat (plat.sysfs node) (writable (plat.sysfs node)
        ((readAll plat node found).map (·.1)) (passthroughSet found mode) drivers mode []) =
      .ok () ↔
      ∀ member ∈ scope plat, Asked plat mode node member →
        Idle.holders plat.proc plat.devVfio (plat.sysfs node) member = [] := by
  have hasked : ∀ member ∈ scope plat,
      (withModes (rebound node member) (reading plat node member) ∈
        writable (plat.sysfs node) ((readAll plat node found).map (·.1))
          (passthroughSet found mode) drivers mode [] ↔ Asked plat mode node member) := by
    intro member hmember
    have hread : withModes (rebound node member) (reading plat node member) ∈
        (readAll plat node found).map (·.1) := by
      rw [scope_found hscope]
      exact List.mem_map_of_mem (List.mem_map_of_mem (List.mem_map_of_mem hmember))
    have hin : inSet (passthroughSet found mode)
        (withModes (rebound node member) (reading plat node member)).address = true ↔
        (binding mode).has member = true := inSet_members hscope hmember
    rw [mem_writable, and_iff_right hread]
    unfold Asked
    by_cases hhas : (binding mode).has member = true
    · rw [if_pos (hin.mpr hhas), if_pos hhas]
      obtain ⟨driver, hget, htarget⟩ :=
        hresolved.target (members_nodup _) (mem_members.mpr ⟨hmember, hhas⟩)
      have hplan : Nvidia.writesFor (reading plat node member).1 (reading plat node member).2 mode ≠
          [] ↔ HasPlan plat node mode member := hasPlan_iff.symm
      have hcurrent : (∀ driver, Target plat member driver →
          node.driver member.address ≠ some driver) ↔
          node.driver member.address ≠ some driver.driver := by
        constructor
        · exact fun hoff => hoff driver.driver htarget
        · intro hoff other hother
          rwa [hother.unique htarget]
      rw [hcurrent, ← hplan]
      constructor
      · intro hwhy
        by_cases hon : node.driver member.address = some driver.driver
        · rcases hwhy driver hget hon with hunread | hwrites
          · cases hunread
          · exact .inl hwrites
        · exact .inr hon
      · intro hwhy target htarget' hon
        obtain rfl : driver = target := Option.some.inj (hget.symm.trans htarget')
        rcases hwhy with hwrites | hoff
        · exact .inr hwrites
        · exact absurd hon hoff
    · rw [if_neg fun hset => hhas (hin.mp hset), if_neg hhas]
      exact Iff.rfl
  rw [verifyIdle_ok]
  constructor
  · intro hidle member hmember hask
    have hfree := hidle _ ((hasked member hmember).mpr hask)
    rw [← hfree]
    exact holders_congr rfl rfl
  · intro hidle state hstate
    obtain ⟨entry, hentry, rfl⟩ := List.mem_map.mp (mem_writable.mp hstate).1
    obtain ⟨device, hdevice, rfl⟩ := List.mem_map.mp hentry
    rw [scope_found hscope] at hdevice
    obtain ⟨member, hmember, rfl⟩ := List.mem_map.mp hdevice
    rw [← hidle member hmember ((hasked member hmember).mp hstate)]
    exact holders_congr rfl rfl

theorem capable_iff (hscope : inScope plat.pci (plat.sysfs node) = .ok found) :
    verifyCapable plat.pci found mode = .ok () ↔
      verifyCapable plat.pci (scope plat) mode = .ok () := by
  rw [verifyCapable_eq_ok_iff, verifyCapable_eq_ok_iff, scope_found hscope, List.forall_mem_map]
  refine forall₂_congr fun member _ => ?_
  cases mode <;> exact Iff.rfl

/-- On a node that is ready, a run completes if and only if the node can carry
the mode and what the run asks for is idle. -/
theorem Ready.completes_iff (h : Ready plat b node)
    (hsub : ∀ member, (binding mode).has member = true → b.has member = true) :
    (exec plat.machine (apply plat mode) [] node).outcome = .done () ↔
      verifyCapable plat.pci (scope plat) mode = .ok () ∧
        ∀ member ∈ scope plat, Asked plat mode node member →
          Idle.holders plat.proc plat.devVfio (plat.sysfs node) member = [] := by
  obtain ⟨found, hscope, hne⟩ := h.devices
  obtain ⟨_, hall⟩ := h.resolved
  obtain ⟨drivers, hresolved⟩ := resolved_members hsub hall
  have hset : passthroughSet found mode = (members plat (binding mode)).map (rebound node) := by
    rw [scope_found hscope, passthrough_members]
  rw [Main.completes_iff]
  constructor
  · rintro ⟨found', drivers', hadmits, _⟩
    obtain rfl : found = found' := Except.ok.inj (hscope.symm.trans hadmits.scope)
    have hidle := hadmits.idle
    rw [unreadable_readAll] at hidle
    have hdrivers : Resolved plat (passthroughSet found mode) drivers' := hadmits.drivers
    rw [hset] at hdrivers
    exact ⟨(capable_iff hscope).mp hadmits.capable,
      (idle_iff hscope (resolved_of_rebound hdrivers)).mp hidle⟩
  · rintro ⟨hcapable, hidle⟩
    have hdrivers : Resolved plat (passthroughSet found mode) drivers := by
      rw [hset]
      exact resolved_rebound hresolved plat.proc
    refine ⟨found, drivers, ?_, ?_⟩
    · exact
        { host := h.host
          scope := hscope
          nonempty := hne
          capable := (capable_iff hscope).mpr hcapable
          passthrough := rfl
          drivers := hdrivers
          probes := probes_readAll plat node found
          states := rfl
          idle := by
            rw [unreadable_readAll]
            exact (idle_iff hscope hresolved).mpr hidle }
    · rintro state hstate ⟨driver, current, hget, hcurrent, hne⟩
      rw [hset] at hstate
      obtain ⟨member, hmember, rfl⟩ := List.mem_map.mp hstate
      obtain ⟨hmem, hhas⟩ := mem_members.mp hmember
      obtain ⟨driver', hget', htarget⟩ := hresolved.target (members_nodup _) hmember
      obtain rfl : driver' = driver := Option.some.inj (hget'.symm.trans hget)
      have hfound := h.free member (mem_members.mpr ⟨hmem, hsub member hhas⟩) current hcurrent
      exact hne (hfound.unique htarget)

theorem asked_proc (plat : Platform) (proc : Idle.Proc) {member : DeviceState} :
    Asked { plat with proc := proc } mode node member ↔ Asked plat mode node member := by
  have htarget : ∀ driver, Target { plat with proc := proc } member driver ↔
      Target plat member driver := fun driver =>
    ⟨target_proc { plat with proc := proc } plat.proc, target_proc plat proc⟩
  unfold Asked
  simp only [htarget]
  exact Iff.rfl

theorem Ready.proc (h : Ready plat b node) (proc : Idle.Proc) :
    Ready { plat with proc := proc } b node where
  host := h.host
  devices := h.devices
  resolved := h.resolved.imp fun _ hresolved => resolved_proc plat proc hresolved
  free member hmember current hcurrent :=
    target_proc plat proc (h.free member hmember current hcurrent)

/-- Once a run has completed in a mode, every later one in a mode that binds no
further device completes if and only if the node can carry the mode and no
process has open what the run asks for: whatever runs there were in between, in
whatever modes, failed, killed or uninstalled. -/
theorem never_wedged (hvfio : VfioRegisters plat) {mode₀ : Mode} {torn : Bool} {log : List Deed}
    {node₁ : Node} (hdone : Step plat (.apply mode₀ (.done ()) torn) node node₁)
    (hno : ∀ deed ∈ log, ∀ pick, deed ≠ .reboot pick) (h : History (Step plat) log node₁ node')
    (hsub : ∀ member, (binding mode).has member = true → (binding mode₀).has member = true)
    (proc : Idle.Proc) :
    (exec { plat with proc := proc }.machine (apply { plat with proc := proc } mode) []
        node').outcome = .done () ↔
      verifyCapable plat.pci (scope plat) mode = .ok () ∧
        ∀ member ∈ scope plat, Asked plat mode node' member →
          Idle.holders proc plat.devVfio (plat.sysfs node') member = [] := by
  have hready : Ready plat (binding mode₀) node' :=
    h.invariant (I := Ready plat (binding mode₀))
      (fun deed hdeed _ _ hnode hstep => hnode.step hvfio (hno deed hdeed) hstep)
      (provisioned_of_done hvfio hdone).ready
  have hiff := (hready.proc proc).completes_iff hsub
  rw [hiff]
  refine and_congr_right fun _ => forall₂_congr fun member _ => ?_
  rw [asked_proc]
  exact Iff.rfl

/-- With no process about, no device is in use. -/
theorem holders_alone (devVfio : Path) (sysfs : Sysfs) (state : DeviceState) :
    Idle.holders { entries := some [] } devVfio sysfs state = [] := by
  simp [Idle.holders]

/-- A baseboard taken into PPCIE and, by a run that tears a boot file, towards
`on`: the way back into PPCIE is open. -/
theorem never_wedged_torn :
    ∃ out node', History (Step (Bench.platform Bench.baseboard))
        [.apply .ppcie (.done ()) false, .apply .on out true] Bench.dirty node' ∧
      out ≠ .done () ∧
      (exec { Bench.platform Bench.baseboard with proc := { entries := some [] } }.machine
        (apply { Bench.platform Bench.baseboard with proc := { entries := some [] } } .ppcie) []
          node').outcome = .done () := by
  have hfirst := step_exec (Bench.platform Bench.baseboard) { entries := some [] } .ppcie false []
    Bench.dirty
  have hsecond := step_exec (Bench.platform Bench.baseboard) { entries := some [] } .on true
    (List.replicate 24 .ok ++ [.fail (.msg "No space left on device") (.partly "options")])
    (exec ((Bench.platform Bench.baseboard).machineFor false)
      (apply (Bench.platform Bench.baseboard) .ppcie) [] Bench.dirty).state
  rw [show (exec _ _ _ _).outcome = .done () by decide +kernel] at hfirst
  have hrest := History.cons hsecond (.nil _)
  refine ⟨_, _, .cons hfirst hrest, by decide +kernel, (never_wedged (bench_vfioRegisters _ _)
    hfirst (fun deed hdeed pick heq => ?_) hrest (fun _ hhas => hhas)
    { entries := some [] }).mpr ⟨by decide, fun _ _ _ => holders_alone _ _ _⟩⟩
  rw [List.mem_singleton.mp hdeed] at heq
  cases heq

end KataDeviceProvisioner.Ports.Main
