import KataDeviceProvisioner.Ports.Coverage
import KataDeviceProvisioner.Ports.NvidiaConverge

/-!
# Devices another driver is driving

What keeps a run off a device that is not a vfio driver's is spread over the
host check, which knows two drivers by name, the tests of `writable` and
`release`, and the refusal of `vfio::bind`; the mode change itself looks at no
driver.  `handsOff_iff` says exactly on which nodes they add up.
-/

namespace KataDeviceProvisioner.Ports.Main

open KataDeviceProvisioner.Verified

variable {plat : Platform} {A : Adversary} {node node' : Node} {t : List (Event Op Node)}
  {mode : Mode} {drivers : Drivers} {found passthrough states : List DeviceState}
  {probed : List (DeviceState × Option (String × String))}

theorem namesVfio_eq (driver : String) : namesVfio driver = Text.contains "vfio" driver :=
  Text.contains_replaceChar (by decide) (by decide)

/-- A driver whose name has no `vfio` in it is driving the device. -/
def Foreign (node : Node) (state : DeviceState) : Prop :=
  ∃ driver, node.driver state.address = some driver ∧ Text.contains "vfio" driver = false

/-- Such a device is never released: it is changed only if it has a plan or is to
be bound. -/
theorem Foreign.willChange_iff {state : DeviceState} (h : Foreign node state) :
    WillChange plat node mode passthrough drivers state ↔
      HasPlan plat node mode state ∨ OffTarget node passthrough drivers state := by
  obtain ⟨driver, hdriver, hname⟩ := h
  constructor
  · intro hchange
    rcases hchange with hplan | hoff | ⟨_, hvfio⟩
    · exact .inl hplan
    · exact .inr hoff
    · rw [hdriver, Option.any_some, namesVfio_eq, hname] at hvfio
      cases hvfio
  · intro hchange
    rcases hchange with hplan | hoff
    · exact .inl hplan
    · exact .inr (.inl hoff)

/-! ## What is found when every device can be read -/

theorem Resolved.unique {drivers' : Drivers} (h : Resolved plat states drivers)
    (h' : Resolved plat states drivers') : drivers = drivers' := by
  obtain ⟨aliases, haliases, hall⟩ := h
  obtain ⟨aliases', haliases', hall'⟩ := h'
  rw [haliases] at haliases'
  obtain rfl := Except.ok.inj haliases'
  have hsame : drivers.reverse = drivers'.reverse := by
    generalize drivers.reverse = entries at hall ⊢
    generalize drivers'.reverse = entries' at hall' ⊢
    induction hall generalizing entries' with
    | nil =>
        cases hall'
        rfl
    | @cons state entry states entries hentry _ ih =>
        cases hall' with
        | @cons _ entry' _ entries' hentry' hrest' =>
            obtain ⟨haddress, hresolves⟩ := hentry
            obtain ⟨haddress', hresolves'⟩ := hentry'
            have hmodule : entry.2.module = entry'.2.module :=
              Except.ok.inj (hresolves.named.symm.trans hresolves'.named)
            have hdriver : entry.2.driver = entry'.2.driver := by
              have hregisters := hresolves.registers
              rw [hmodule, hresolves'.registers] at hregisters
              exact (Except.ok.inj hregisters).symm
            have hvalue : entry.2 = entry'.2 := by
              obtain ⟨_, module, driver⟩ := entry
              obtain ⟨_, module', driver'⟩ := entry'
              obtain rfl : module = module' := hmodule
              obtain rfl : driver = driver' := hdriver
              rfl
            rw [Prod.ext (haddress.trans haddress'.symm) hvalue, ih entries' hrest']
  simpa using congrArg List.reverse hsame

/-- Whether a device is in use is decided by its address and its group. -/
theorem holders_congr {sysfs : Sysfs} {state state' : DeviceState}
    (haddress : state.address = state'.address) (hgroup : state.iommuGroup = state'.iommuGroup) :
    Idle.holders plat.proc plat.devVfio sysfs state =
      Idle.holders plat.proc plat.devVfio sysfs state' := by
  unfold Idle.holders Idle.vfioNodes
  rw [haddress, hgroup]

/-- A device that is unreadable is checked all the same, so a device that would
be checked if every device were readable is checked. -/
theorem writable_readAll {sysfs : Sysfs}
    (hprobed : List.Forall₂ (Probed plat node) found probed) {state : DeviceState}
    (hstate : state ∈ writable sysfs ((readAll plat node found).map (·.1)) passthrough drivers
      mode []) :
    ∃ checked ∈ writable sysfs (probed.map (·.1)) passthrough drivers mode (unreadable probed),
      checked.address = state.address ∧ checked.iommuGroup = state.iommuGroup := by
  obtain ⟨hmem, hwhy⟩ := mem_writable.mp hstate
  obtain ⟨read, hread, rfl⟩ := List.mem_map.mp hmem
  obtain ⟨device, hdevice, rfl⟩ := List.mem_map.mp hread
  obtain ⟨entry, hentry, hprobe⟩ := forall₂_of_mem_left hprobed hdevice
  obtain ⟨haddress, hgroup, _⟩ := hprobe.same
  refine ⟨entry.1, mem_writable.mpr ⟨List.mem_map_of_mem hentry, ?_⟩, haddress, hgroup⟩
  have hsame : (withModes device (reading plat node device)).address = device.address := rfl
  by_cases hin : inSet passthrough device.address = true
  · rw [haddress, if_pos hin]
    rw [if_pos (hsame ▸ hin)] at hwhy
    intro target hget hcurrent
    rcases hwhy target hget hcurrent with hunread | hwrites
    · cases hunread
    · rcases hprobe.unread_or_planned (hasPlan_iff.mpr hwrites) with
        ⟨reason, hunread⟩ | hwrites'
      · rw [← haddress]
        exact .inl (mem_unreadable hentry hunread)
      · exact .inr hwrites'
  · rw [haddress, if_neg hin]
    rwa [if_neg (hsame ▸ hin)] at hwhy

/-- A run that is cleared would also be cleared with every device readable. -/
theorem Gates.admits {cleared : Cleared} (h : Gates plat mode node found probed cleared) :
    Admits plat mode node found cleared.drivers := by
  obtain ⟨states, passthrough, drivers⟩ := cleared
  obtain rfl : states = probed.map (·.1) := h.states
  obtain rfl : passthrough = passthroughSet found mode := h.passthrough
  have hidle : verifyIdle plat (plat.sysfs node) (writable (plat.sysfs node)
      ((readAll plat node found).map (·.1)) (passthroughSet found mode) drivers mode
      (unreadable (readAll plat node found))) = .ok () := by
    rw [verifyIdle_ok, unreadable_readAll]
    intro state hstate
    obtain ⟨checked, hchecked, haddress, hgroup⟩ := writable_readAll h.probes hstate
    rw [← holders_congr haddress hgroup]
    exact verifyIdle_ok.mp h.idle checked hchecked
  exact
    { host := h.host
      scope := h.scope
      nonempty := h.nonempty
      capable := h.capable
      passthrough := rfl
      drivers := h.drivers
      probes := probes_readAll plat node found
      states := rfl
      idle := hidle }

theorem Probed.willChange_iff {state : DeviceState}
    {entry : DeviceState × Option (String × String)} (h : Probed plat node state entry) :
    WillChange plat node mode passthrough drivers entry.1 ↔
      WillChange plat node mode passthrough drivers state := by
  unfold WillChange OffTarget ToRelease
  rw [h.hasPlan_iff, h.same.1]

/-! ## What a run that is cleared writes -/

/-- Writing a file issues something. -/
private theorem write_events {path : Path} {contents : String} {out : Outcome Error Unit}
    (h : Runs plat.machine .absent (Modules.write path contents) node out node' t) :
    ∃ e ∈ t, e.op.kind = .file := by
  have hissued : ∀ {op : Op} {f : Error → Error} {out : Outcome Error op.Res} {s s' : Node}
      {t : List (Event Op Node)},
      Runs plat.machine .absent ((issue op).mapError f) s out s' t → ∃ e, e ∈ t := by
    intro op f out s s' t hrun
    obtain ⟨out₀, hop, _⟩ := runs_mapError_iff.mp hrun
    obtain ⟨hkill, _⟩ | ⟨_, _, _, rfl⟩ | ⟨_, _, _, rfl⟩ := runs_perform_iff.mp hop
    · exact hkill.elim
    · exact ⟨_, List.mem_singleton_self _⟩
    · exact ⟨_, List.mem_singleton_self _⟩
  have hsome : ∃ e, e ∈ t := by
    have hrun := h
    unfold Modules.write at hrun
    split at hrun
    · obtain ⟨_, s₁, t₁, t₂, hcreate, _, rfl⟩ | ⟨_, _, hcreate⟩ := runs_bind_iff.mp hrun
      · obtain ⟨e, he⟩ := hissued hcreate
        exact ⟨e, List.mem_append_left _ he⟩
      · exact hissued hcreate
    · exact hissued hrun
  obtain ⟨e, he⟩ := hsome
  exact ⟨e, he, h.events_of_uses (Modules.write_uses path contents) e he⟩

/-- Once the drivers of the passthrough set are known, `persist` writes. -/
private theorem persist_events {out : Outcome Error Unit}
    (hget : ∀ state ∈ passthrough, ∃ driver, drivers.get state.address = some driver)
    (h : Runs plat.machine .absent (persist plat passthrough drivers) node out node' t) :
    ∃ e ∈ t, e.op.kind = .file := by
  have hclaims : ∃ claims, (Program.gather (claimFor drivers) passthrough).Yields plat.machine node
      claims := claims_absent hget
  obtain ⟨claims, hyields⟩ := hclaims
  obtain ⟨claims', s₁, t₁, t₂, hgather, hrest, rfl⟩ | ⟨_, _, hgather⟩ := runs_bind_iff.mp h
  · have hpersist : ∃ e ∈ t₂, e.op.kind = .file := by
      have hwrite : ∀ {out : Outcome Error (List String)} {s s' : Node}
          {t : List (Event Op Node)},
          Runs plat.machine .absent (Modules.persist plat.hostRoot claims') s out s' t →
          ∃ e ∈ t, e.op.kind = .file := by
        intro out s s' t hrun
        obtain ⟨_, s₂, u₁, u₂, hfirst, _, rfl⟩ | ⟨_, _, hfirst⟩ := runs_bind_iff.mp hrun
        · obtain ⟨e, he, hkind⟩ := write_events hfirst
          exact ⟨e, List.mem_append_left _ he, hkind⟩
        · exact write_events hfirst
      obtain ⟨_, s₂, u₁, u₂, hrun, _, rfl⟩ | ⟨_, _, hrun⟩ := runs_bind_iff.mp hrest
      · obtain ⟨e, he, hkind⟩ := hwrite hrun
        exact ⟨e, List.mem_append_left _ he, hkind⟩
      · exact hwrite hrun
    obtain ⟨e, he, hkind⟩ := hpersist
    exact ⟨e, List.mem_append_right _ he, hkind⟩
  · cases (hyields _ _ _ hgather).1

/-- A cleared run that nothing interferes with writes a boot file. -/
theorem stages_files {cleared : Cleared} {out : Outcome Error Unit}
    (hget : ∀ state ∈ cleared.passthrough, ∃ driver,
      cleared.drivers.get state.address = some driver)
    (h : Runs plat.machine .absent (stages plat mode cleared) node out node' t) :
    ∃ e ∈ t, e.op.kind = .file := by
  obtain ⟨_, s₁, t₁, u₁, _, hrest, rfl⟩ | ⟨why, rfl, hstage⟩ := runs_bind_iff.mp h
  · have hfile : ∃ e ∈ u₁, e.op.kind = .file := by
      obtain ⟨_, s₂, t₂, u₂, hpersist, _, rfl⟩ | ⟨_, _, hpersist⟩ := runs_bind_iff.mp hrest
      · obtain ⟨e, he, hkind⟩ := persist_events hget hpersist
        exact ⟨e, List.mem_append_left _ he, hkind⟩
      · exact persist_events hget hpersist
    obtain ⟨e, he, hkind⟩ := hfile
    exact ⟨e, List.mem_append_right _ he, hkind⟩
  · obtain ⟨out₀, hmode, hout⟩ := modeStage_iff.mp hstage
    obtain ⟨_, _, _, _, _, _, rfl, _⟩ := Nvidia.boardRun_absent (Nvidia.apply_boardRun hmode)
    cases hout

/-! ## Hands off -/

/-- No run writes to or resets a device that another driver was driving when it
started, and one that would have to change such a device is refused before it
changes anything. -/
structure HandsOff (plat : Platform) (mode : Mode) (node : Node) : Prop where
  untouched : ∀ σ : List (Verdict Error Residue),
    ∀ e ∈ (exec plat.machine (apply plat mode) σ node).events,
      (e.op.kind = .write ∨ e.op.kind = .reset) → ∀ address driver,
        e.op.device = some address → node.driver address = some driver →
        Text.contains "vfio" driver = true
  refused : ∀ found drivers, inScope plat.pci (plat.sysfs node) = .ok found →
    Resolved plat (passthroughSet found mode) drivers →
    (∃ state ∈ found, Foreign node state ∧
      WillChange plat node mode (passthroughSet found mode) drivers state) →
    ∀ σ : List (Verdict Error Residue),
      (exec plat.machine (apply plat mode) σ node).outcome ≠ .done () ∧
        ∀ e ∈ (exec plat.machine (apply plat mode) σ node).events,
          e.op.kind ≠ .write ∧ e.op.kind ≠ .reset ∧ e.op.kind ≠ .file

/-- A run that gets past the checks is one the node admits. -/
theorem apply_admits {out : Outcome Error Unit}
    (h : Runs plat.machine A (apply plat mode) node out node' t)
    (hpast : out = .done () ∨ ∃ e ∈ t, ¬e.op.kind.Quiet) :
    ∃ found probed cleared t₁ t₂, Gates plat mode node found probed cleared ∧
      Admits plat mode node found cleared.drivers ∧ t = t₁ ++ t₂ ∧
      (∀ e ∈ t₁, e.op.kind.Quiet) ∧
      Runs plat.machine A (stages plat mode cleared) node out node' t₂ := by
  rw [apply_eq] at h
  obtain ⟨cleared, s₁, t₁, t₂, hchecks, hstages, rfl⟩ | ⟨why, rfl, hchecks⟩ :=
    runs_bind_iff.mp h
  · obtain ⟨rfl, hquiet⟩ := preflight_quiet hchecks
    obtain ⟨found, probed, hgates⟩ := preflight_done hchecks
    exact ⟨found, probed, cleared, t₁, t₂, hgates, hgates.admits, rfl,
      fun e he => (hquiet e he).1, hstages⟩
  · rcases hpast with hdone | ⟨e, he, hloud⟩
    · cases hdone
    · exact absurd ((preflight_quiet hchecks).2 e he).1 hloud

/-- A node that is not admitted is refused by every run, with nothing changed. -/
theorem refused_of_not_admits (hnone : ∀ found drivers, ¬Admits plat mode node found drivers)
    (σ : List (Verdict Error Residue)) :
    (exec plat.machine (apply plat mode) σ node).outcome ≠ .done () ∧
      ∀ e ∈ (exec plat.machine (apply plat mode) σ node).events, e.op.kind.Quiet := by
  have hrun := exec_runs_hostile plat.machine (apply plat mode) σ node
  constructor
  · intro hdone
    obtain ⟨found, _, cleared, _, _, _, hadmits, _⟩ := apply_admits hrun (.inl hdone)
    exact hnone found cleared.drivers hadmits
  · intro e he
    by_contra hloud
    obtain ⟨found, _, cleared, _, _, _, hadmits, _⟩ := apply_admits hrun (.inr ⟨e, he, hloud⟩)
    exact hnone found cleared.drivers hadmits

/-- Left alone, a run on a node that is admitted gets as far as the boot files. -/
private theorem file_of_admits (h : Admits plat mode node found drivers) :
    ∃ e ∈ (exec plat.machine (apply plat mode) [] node).events, e.op.kind = .file := by
  obtain ⟨hcleared, hsame⟩ := preflight_absent h _ _ _
    (exec_runs_absent plat.machine (preflight plat mode) node)
  have hrun := exec_bind_done (stages plat mode) hcleared
  rw [exec_nil_rest, hsame] at hrun
  obtain ⟨_, _, hall⟩ := h.drivers.get (passthrough_nodup (scope_nodup h.scope))
  have hget : ∀ state ∈ (clearedFor plat node mode found drivers).passthrough, ∃ driver,
      (clearedFor plat node mode found drivers).drivers.get state.address = some driver := by
    intro state hstate
    obtain ⟨driver, hdriver, _⟩ := hall state hstate
    exact ⟨driver, hdriver⟩
  obtain ⟨e, he, hkind⟩ := stages_files hget (exec_runs_absent plat.machine
    (stages plat mode (clearedFor plat node mode found drivers)) node)
  refine ⟨e, ?_, hkind⟩
  rw [apply_eq, hrun]
  exact List.mem_append_right _ he

/-- A device a run writes to or resets is one it was going to change. -/
private theorem written_willChange {out : Outcome Error Unit} {cleared : Cleared}
    (hgates : Gates plat mode node found probed cleared)
    (h : Runs plat.machine A (stages plat mode cleared) node out node' t)
    {e : Event Op Node} (he : e ∈ t) (hkind : e.op.kind = .write ∨ e.op.kind = .reset) :
    ∃ state ∈ found, e.op.device = some state.address ∧
      WillChange plat node mode (passthroughSet found mode) cleared.drivers state := by
  obtain ⟨states, passthrough, drivers⟩ := cleared
  obtain rfl : states = probed.map (·.1) := hgates.states
  obtain rfl : passthrough = passthroughSet found mode := hgates.passthrough
  have hchanges : Changes e := by
    rcases hkind with hk | hk
    · exact .inl hk
    · exact .inr (.inl hk)
  obtain ⟨state', hstate', hdevice, hchange⟩ :=
    stages_changes (fun _ => passthrough_inSet hgates.probes) h he hchanges
  obtain ⟨entry, hentry, rfl⟩ := List.mem_map.mp hstate'
  obtain ⟨state, hstate, hprobe⟩ := forall₂_of_mem_right hgates.probes hentry
  exact ⟨state, hstate, by rw [hdevice, hprobe.same.1], hprobe.willChange_iff.mp hchange⟩

/-- A run keeps its hands off what other drivers drive if and only if the node
is not admitted, or no device in scope that another driver drives has a plan or
is to be bound.

A node is admitted (`Admits`) when the gates of `apply` before its first change
pass on it as it is, with every device readable: `host::check` on what sysfs shows;
a device in scope; `verify_capable` on all of these; `resolve_drivers` for the
passthrough set; and `verify_idle` on those that `writable` picks out. -/
theorem handsOff_iff (plat : Platform) (mode : Mode) (node : Node) :
    HandsOff plat mode node ↔
      ∀ found drivers, Admits plat mode node found drivers →
        ∀ state ∈ found, Foreign node state →
          ¬(HasPlan plat node mode state ∨
            OffTarget node (passthroughSet found mode) drivers state) := by
  constructor
  · intro h found drivers hadmits state hstate hforeign hchange
    obtain ⟨e, he, hkind⟩ := file_of_admits hadmits
    exact ((h.refused found drivers hadmits.scope hadmits.drivers
      ⟨state, hstate, hforeign, hforeign.willChange_iff.mpr hchange⟩ []).2 e he).2.2 hkind
  · intro hnone
    have hadmitted : ∀ found drivers, inScope plat.pci (plat.sysfs node) = .ok found →
        Resolved plat (passthroughSet found mode) drivers →
        (∃ state ∈ found, Foreign node state ∧
          WillChange plat node mode (passthroughSet found mode) drivers state) →
        ∀ found' drivers', ¬Admits plat mode node found' drivers' := by
      intro found drivers hscope hdrivers ⟨state, hstate, hforeign, hchange⟩ found' drivers'
        hadmits
      have hscope' := hadmits.scope
      rw [hscope] at hscope'
      obtain rfl := Except.ok.inj hscope'
      obtain rfl := hdrivers.unique hadmits.drivers
      exact hnone found drivers hadmits state hstate hforeign
        (hforeign.willChange_iff.mp hchange)
    constructor
    · intro σ e he hkind address driver hdevice hdriver
      have hloud : ¬e.op.kind.Quiet := by
        rcases hkind with hk | hk <;> rw [hk] <;> unfold OpKind.Quiet <;> decide
      obtain ⟨found, probed, cleared, t₁, t₂, hgates, hadmits, htrace, hquiet, hstages⟩ :=
        apply_admits (exec_runs_hostile plat.machine (apply plat mode) σ node)
          (.inr ⟨e, he, hloud⟩)
      rw [htrace] at he
      rcases List.mem_append.mp he with he | he
      · exact absurd (hquiet e he) hloud
      · obtain ⟨state, hstate, hdevice', hchange⟩ :=
          written_willChange hgates hstages he hkind
        obtain rfl : address = state.address :=
          Option.some.inj (hdevice.symm.trans hdevice')
        by_contra hnot
        have hforeign : Foreign node state := ⟨driver, hdriver, Bool.eq_false_iff.mpr hnot⟩
        exact hnone found cleared.drivers hadmits state hstate hforeign
          (hforeign.willChange_iff.mp hchange)
    · intro found drivers hscope hdrivers hforeign σ
      obtain ⟨hfails, hquiet⟩ :=
        refused_of_not_admits (hadmitted found drivers hscope hdrivers hforeign) σ
      refine ⟨hfails, fun e he => ?_⟩
      rcases hquiet e he with hk | hk | hk | hk <;> rw [hk] <;> decide

/-- A baseboard that is settled in CC off, its GPU bound and its switch on the
driver the host runs for switches, with PPCIE on at the switch. -/
private def hosted : Node :=
  Bench.node
    (fun address => Bench.settled .off (if address = "0000:06:00.0" then .on else .off))
    (fun address => some (if address = "0000:65:00.0" then "vfio-pci" else "nvidia-nvswitch"))

/-- Taking the baseboard to CC off writes to and resets the switch its host is
driving, and reports success. -/
theorem hosted_switch_reset :
    ¬HandsOff (Bench.platform Bench.baseboard) .off hosted ∧
    Op.reset (.switch "0000:06:00.0") ∈
      (exec (Bench.platform Bench.baseboard).machine
        (apply (Bench.platform Bench.baseboard) .off) [] hosted).events.map (·.op) ∧
    (exec (Bench.platform Bench.baseboard).machine
      (apply (Bench.platform Bench.baseboard) .off) [] hosted).outcome = .done () := by
  have hreset : Op.reset (.switch "0000:06:00.0") ∈
      (exec (Bench.platform Bench.baseboard).machine
        (apply (Bench.platform Bench.baseboard) .off) [] hosted).events.map (·.op) := by
    decide +kernel
  refine ⟨fun h => ?_, hreset, by decide +kernel⟩
  obtain ⟨e, he, hop⟩ := List.mem_map.mp hreset
  have hvfio := h.untouched [] e he (.inr (by rw [hop]; rfl)) "0000:06:00.0" "nvidia-nvswitch"
    (by rw [hop]; rfl) (by decide)
  exact absurd hvfio (by decide)

end KataDeviceProvisioner.Ports.Main
