import KataDeviceProvisioner.Ports.Bench
import KataDeviceProvisioner.Ports.Scope
import KataDeviceProvisioner.Ports.Stages

/-!
# What a completed run has established

A run works on two lists of devices, all that is in scope and the passthrough
set, through nine stages.  `PostCondition` says what holds when it returns,
whatever the node was like before.
-/

namespace KataDeviceProvisioner.Ports.Main

open KataDeviceProvisioner.Verified

variable {plat : Platform} {A : Adversary} {node node' : Node} {t : List (Event Op Node)}
  {mode : Mode} {found : List DeviceState}

/-! ## What the node can carry -/

/-- A GPU that can be put into `mode`. -/
def CanCarry (pci : Pcilibs) (state : DeviceState) : Mode → Prop
  | .off => True
  | .ppcie => state.carriesPpcie pci = true
  | .on | .devTools => state.ccCapable = true ∧ pci.isC2c state.deviceId = false

private theorem bail_unless {empty : Bool} {message : String} {rest : Except Error Unit} :
    (if (!empty) = true then (do bail message; rest) else rest) = .ok () ↔
      empty = true ∧ rest = .ok () := by
  cases empty with
  | true => simp
  | false => simp [bail, bind, Except.bind]

private theorem bail_unless_last {empty : Bool} {message : String} :
    (if (!empty) = true then bail message else pure () : Except Error Unit) = .ok () ↔
      empty = true := by
  cases empty with
  | true => simp [pure, Except.pure]
  | false => simp [bail]

private theorem none_lack {p : DeviceState → Bool} :
    ((found.filter fun state => state.provisioning == some .nvidiaInBandCc).filter p).isEmpty =
      true ↔ ∀ state ∈ found, state.provisioning = some .nvidiaInBandCc → p state = false := by
  rw [List.isEmpty_iff, List.filter_eq_nil_iff]
  constructor
  · intro h state hstate hgpu
    simpa using h state (List.mem_filter.mpr ⟨hstate, by simp [hgpu]⟩)
  · intro h state hmem
    obtain ⟨hstate, hgpu⟩ := List.mem_filter.mp hmem
    simpa using h state hstate (by simpa using hgpu)

/-- The gate passes exactly the nodes all of whose GPUs can carry the mode. -/
theorem verifyCapable_eq_ok_iff {pci : Pcilibs} :
    verifyCapable pci found mode = .ok () ↔
      ∀ state ∈ found, state.provisioning = some .nvidiaInBandCc →
        CanCarry pci state mode := by
  have hraised : (∀ state ∈ found, state.provisioning = some .nvidiaInBandCc →
        (!state.ccCapable) = false) ∧ (∀ state ∈ found,
        state.provisioning = some .nvidiaInBandCc → pci.isC2c state.deviceId = false) ↔
      ∀ state ∈ found, state.provisioning = some .nvidiaInBandCc →
        state.ccCapable = true ∧ pci.isC2c state.deviceId = false := by
    constructor
    · intro ⟨hcapable, hgrace⟩ state hstate hgpu
      exact ⟨by simpa using hcapable state hstate hgpu, hgrace state hstate hgpu⟩
    · intro h
      exact ⟨fun state hstate hgpu => by simp [(h state hstate hgpu).1],
        fun state hstate hgpu => (h state hstate hgpu).2⟩
  unfold verifyCapable
  cases mode with
  | off => simp [Mode.ccReady, CanCarry, pure, Except.pure]
  | on =>
      exact bail_unless.trans
        ((and_congr none_lack (bail_unless_last.trans none_lack)).trans hraised)
  | devTools =>
      exact bail_unless.trans
        ((and_congr none_lack (bail_unless_last.trans none_lack)).trans hraised)
  | ppcie =>
      -- No CC target to raise, so the coherently attached are not looked for.
      refine bail_unless.trans ((and_iff_left rfl).trans (none_lack.trans ?_))
      refine forall_congr' fun state => forall_congr' fun _ => forall_congr' fun _ => ?_
      show (!state.carriesPpcie pci) = false ↔ state.carriesPpcie pci = true
      simp

/-! ## The postcondition -/

/-- What a run that returned `Ok` has made of the node, for the devices `found`
in scope and the drivers that were found for the passthrough set. -/
structure PostCondition (plat : Platform) (mode : Mode) (node : Node)
    (found : List DeviceState) (drivers : Drivers) (node' : Node)
    (events : List (Event Op Node)) : Prop where
  scope : inScope plat.pci (plat.sysfs node) = .ok found
  resolved : Resolved plat (passthroughSet found mode) drivers
  bound : ∀ state ∈ passthroughSet found mode, ∃ driver,
    drivers.get state.address = some driver ∧
      node'.driver state.address = some driver.driver
  /-- Every GPU with a confidential computing mode and every switch reads back
  the mode. -/
  modes : ∀ state handle, Nvidia.Openable found state handle →
    Nvidia.AtTargets plat mode handle (node'.board state.address).knob
  capable : mode ≠ .off → ∀ state ∈ found, state.provisioning = some .nvidiaInBandCc →
    CanCarry plat.pci state mode
  /-- What the mode leaves on the host is on no vfio driver, and stays on the
  driver it was on if that was another. -/
  released : ∀ state ∈ found, state ∉ passthroughSet found mode →
    (node'.driver state.address).any namesVfio = false ∧
      ((node.driver state.address).any namesVfio = false →
        node'.driver state.address = node.driver state.address)
  /-- No device without a row has been touched. -/
  untouched : ∀ e ∈ events, ∀ devs, plat.inventory = .ok devs → ∀ dev ∈ devs,
    e.op.device = some dev.address → (rowFor dev.vendor dev.classCode).isSome
  onDisk : Modules.OnDisk plat.hostRoot
    (Modules.render ((passthroughSet found mode).filterMap (claimOf drivers))) node'

/-- A run that completed went through every stage. -/
theorem stages_done {cleared : Cleared}
    (h : Runs plat.machine A (stages plat mode cleared) node (.done ()) node' t) :
    ∃ outcomes s₁ s₂ s₃ t₁ t₂ t₃ t₄ t₅,
      Runs plat.machine A (Nvidia.apply plat cleared.states mode) node (.done outcomes) s₁ t₁ ∧
      Runs plat.machine A (persist plat cleared.passthrough cleared.drivers) s₁
        (.done ()) s₂ t₂ ∧
      Runs plat.machine A (Program.forEach (bindOne cleared.drivers) cleared.passthrough) s₂
        (.done ()) s₃ t₃ ∧
      Runs plat.machine A (release cleared.states cleared.passthrough) s₃ (.done ()) node' t₄ ∧
      Runs plat.machine A (verify plat mode cleared.passthrough cleared.drivers) node'
        (.done ()) node' t₅ ∧
      t = t₁ ++ (t₂ ++ (t₃ ++ (t₄ ++ t₅))) := by
  cases stages_stageRun h with
  | verifying hmode hpersist hbind hrelease hverify =>
      exact ⟨_, _, _, _, _, _, _, _, _, hmode, hpersist, hbind, hrelease, hverify, rfl⟩

/-- A mode change that completed leaves every openable device of the board in the
mode. -/
theorem mode_done {states : List DeviceState} {outcomes : List (String × Nvidia.Transition)}
    (h : Runs plat.machine A (Nvidia.apply plat states mode) node (.done outcomes) node' t)
    {state : DeviceState} {handle : Handle} (hopen : Nvidia.Openable states state handle) :
    Nvidia.AtTargets plat mode handle (node'.board state.address).knob := by
  have hboard := Nvidia.apply_boardRun h
  generalize hout : Outcome.done outcomes = out at hboard
  cases hboard with
  | planning | writing | resetting => cases hout
  | @verifying out s₁ s₂ t₀ t₁ t₂ t₃ hplan hwrite hreset hverify =>
      have hplanned : ∃ plan ∈ Nvidia.plansFor plat node.board mode states,
          plan.state = state ∧ plan.handle = handle := hopen.planned
      obtain ⟨plan, hmem, rfl, rfl⟩ := hplanned
      rw [Nvidia.AtTargets, (Nvidia.resetting_knob hreset).1, ← Handle.of_address hopen.2]
      exact Nvidia.writing_done hwrite plan hmem

/-- Every stage keeps to the devices in scope. -/
private theorem stages_devices {cleared : Cleared}
    (hstates : ∀ address, inSet cleared.states address = inSet found address)
    (hpass : ∀ state ∈ cleared.passthrough, inSet found state.address = true)
    (h : Runs plat.machine A (stages plat mode cleared) node (.done ()) node' t) :
    ∀ e ∈ t, StaysIn found e.op := by
  obtain ⟨outcomes, s₁, s₂, s₃, t₁, t₂, t₃, t₄, t₅, hmode, hpersist, hbind, hrelease, hverify,
    rfl⟩ := stages_done h
  intro e he
  rcases List.mem_append.mp he with he | he
  · obtain ⟨_, state, handle, hopen, hdevice⟩ := mode_events hmode e he
    intro address haddress
    rw [hdevice] at haddress
    obtain rfl := Option.some.inj haddress
    rw [← hstates]
    exact inSet_iff.mpr ⟨state, hopen.1, rfl⟩
  rcases List.mem_append.mp he with he | he
  · refine staysIn_of_none ?_
    have hkind := (persist_keeps hpersist).1 e he
    cases hop : e.op <;> rw [hop] at hkind <;> first | rfl | cases hkind
  rcases List.mem_append.mp he with he | he
  · obtain ⟨state, hstate, driver, _, hop⟩ := hbind.events_of_uses binds_uses e he
    intro address haddress
    rw [hop] at haddress
    obtain rfl := Option.some.inj haddress
    exact hpass state hstate
  rcases List.mem_append.mp he with he | he
  · rcases hrelease.events_of_uses release_uses e he with hop | ⟨state, hstate, _, hop⟩
    · exact staysIn_of_none (by rw [hop]; rfl)
    · intro address haddress
      rw [hop] at haddress
      obtain rfl := Option.some.inj haddress
      rw [← hstates]
      exact inSet_iff.mpr ⟨state, hstate, rfl⟩
  · have huses : (verify plat mode cleared.passthrough cleared.drivers).Uses
        (StaysIn found) := by
      refine uses_forEach fun state hstate => ?_
      refine (verifyOne_uses state).mono fun op hop address haddress => ?_
      rw [hop.2] at haddress
      obtain rfl := Option.some.inj haddress
      exact hpass state hstate
    exact hverify.events_of_uses huses e he

/-- The postcondition, on runs. -/
theorem apply_done (h : Runs plat.machine A (apply plat mode) node (.done ()) node' t) :
    ∃ found drivers, PostCondition plat mode node found drivers node' t := by
  rw [apply_eq] at h
  obtain ⟨cleared, s₀, t₀, u₀, hpre, hstages, rfl⟩ := runs_bind_done.mp h
  obtain ⟨rfl, _⟩ := preflight_quiet hpre
  obtain ⟨found, probed, hgates⟩ := preflight_done hpre
  have hnodup := scope_nodup hgates.scope
  have hin : ∀ address, inSet cleared.states address = inSet found address := by
    intro address
    rw [hgates.states]
    exact probes_inSet hgates.probes address
  have hsub : ∀ state ∈ cleared.passthrough, inSet found state.address = true := by
    intro state hstate
    rw [hgates.passthrough] at hstate
    exact inSet_iff.mpr ⟨state, passthrough_subset hstate, rfl⟩
  have hdevices := stages_devices hin hsub hstages
  obtain ⟨outcomes, s₁, s₂, s₃, t₁, t₂, t₃, t₄, t₅, hmode, hpersist, hbind, hrelease, hverify,
    rfl⟩ := stages_done hstages
  obtain ⟨hdriver₁, _⟩ := mode_keeps hmode
  obtain ⟨_, hboard₂, hdriver₂⟩ := persist_keeps hpersist
  obtain ⟨hboard₃, hfiles₃, _⟩ := binds_keeps hbind
  obtain ⟨hboard₄, hfiles₄, hdriver₄⟩ := release_keeps hrelease
  refine ⟨found, cleared.drivers, ?_⟩
  exact
    { scope := hgates.scope
      resolved := hgates.passthrough ▸ hgates.drivers
      bound := by
        rw [← hgates.passthrough]
        exact verify_done hverify
      modes := by
        intro state handle hopen
        obtain ⟨state', hopen', haddress⟩ := openable_of_probes hgates.probes hopen
        rw [← hgates.states] at hopen'
        rw [hboard₄, hboard₃, hboard₂, ← haddress]
        exact mode_done hmode hopen'
      capable := fun _ => verifyCapable_eq_ok_iff.mp hgates.capable
      released := by
        intro state hstate hout
        have hnot : inSet cleared.passthrough state.address = false := by
          rw [hgates.passthrough, ← Bool.not_eq_true, inSet_passthrough hnodup hstate]
          exact hout
        have hstate' : inSet cleared.states state.address = true := by
          rw [hin]
          exact inSet_iff.mpr ⟨state, hstate, rfl⟩
        have hbefore : s₃.driver state.address = s₀.driver state.address := by
          rw [binds_others hbind hnot, hdriver₂, hdriver₁]
        rw [release_done hrelease, if_pos ⟨hstate', hnot⟩, hbefore]
        refine ⟨released_not_vfio _, fun hforeign => ?_⟩
        rw [released, if_neg (by simpa using hforeign)]
      untouched := by
        intro e he devs hinv dev hdev hdevice
        refine row_of_inSet hgates.scope hinv hdev ?_
        rcases List.mem_append.mp he with he | he
        · rcases preflight_devices hpre e he with hnone | ⟨found', hscope, hstays⟩
          · rw [hnone] at hdevice
            cases hdevice
          · rw [hgates.scope] at hscope
            obtain rfl := Except.ok.inj hscope
            exact hstays dev.address hdevice
        · exact hdevices e he dev.address hdevice
      onDisk := by
        rw [← hgates.passthrough]
        exact (persist_done hpersist).1.of_files (hfiles₄.trans hfiles₃) }

/-- Whatever the node was like, and whatever else went wrong on the way, a run
that returns `Ok` has established the postcondition. -/
theorem provision_postcondition (plat : Platform) (mode : Mode) (node : Node)
    (σ : List (Verdict Error Residue))
    (hdone : (exec plat.machine (apply plat mode) σ node).outcome = .done ()) :
    ∃ found drivers, PostCondition plat mode node found drivers
      (exec plat.machine (apply plat mode) σ node).state
      (exec plat.machine (apply plat mode) σ node).events :=
  apply_done (exec_runs_done hdone)

/-- A baseboard whose switch is taken from the host for PPCIE, on a node with
files left over. -/
theorem provision_postcondition_baseboard :
    ∃ found drivers, PostCondition (Bench.platform Bench.baseboard) .ppcie Bench.dirty found
      drivers
      (exec (Bench.platform Bench.baseboard).machine
        (apply (Bench.platform Bench.baseboard) .ppcie) [] Bench.dirty).state
      (exec (Bench.platform Bench.baseboard).machine
        (apply (Bench.platform Bench.baseboard) .ppcie) [] Bench.dirty).events :=
  provision_postcondition _ _ _ _ (by decide +kernel)

end KataDeviceProvisioner.Ports.Main
