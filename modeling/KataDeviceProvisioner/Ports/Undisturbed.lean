import KataDeviceProvisioner.Ports.Lifecycle

/-!
# Runs that nothing interferes with

Which runs complete, and what the others leave.  A node is refused with nothing
changed, or it is admitted, and an admitted run can only be stopped by a device
that another driver has: it is found out when that device is bound, after the
firmware and the boot files.  A device that cannot be opened is found out before
anything is changed.

The modules a run loads are taken to bind nothing by themselves: either they were
loaded, or no `options` line has an id of a device that is on no driver.
-/

namespace KataDeviceProvisioner.Ports.Main

open KataDeviceProvisioner.Verified

variable {plat : Platform} {A : Adversary} {node node' : Node} {t : List (Event Op Node)}
  {mode : Mode} {found passthrough states : List DeviceState} {drivers : Drivers}
  {cleared : Cleared}

/-- A driver has the device, and not the one found for it. -/
def Held (node : Node) (drivers : Drivers) (state : DeviceState) : Prop :=
  ∃ driver current, drivers.get state.address = some driver ∧
    node.driver state.address = some current ∧ current ≠ driver.driver

/-- No device is held. -/
def Free (node : Node) (passthrough : List DeviceState) (drivers : Drivers) : Prop :=
  ∀ state ∈ passthrough, ¬Held node drivers state

theorem Held.of_driver {state : DeviceState} (h : Held node drivers state)
    (hdriver : node'.driver state.address = node.driver state.address) :
    Held node' drivers state := by
  obtain ⟨driver, current, hget, hcurrent, hne⟩ := h
  exact ⟨driver, current, hget, hdriver.trans hcurrent, hne⟩

/-! ## Binding -/

/-- What keeps a device from being bound is the driver that has it. -/
private theorem bindOne_absent {state : DeviceState} {why : Stop Error}
    (hget : ∃ driver, drivers.get state.address = some driver)
    (h : Runs plat.machine .absent (bindOne drivers state) node (.stopped why) node' t) :
    Held node drivers state ∧ (∃ e, why = .error e) ∧ node' = node := by
  obtain ⟨driver, hget⟩ := hget
  obtain ⟨driver', s₁, t₁, t₂, hindex, hrest, _⟩ | ⟨why', _, hindex⟩ := runs_bind_iff.mp h
  · obtain ⟨hsame, rfl⟩ := index_absent hget _ _ _ hindex
    obtain rfl := Outcome.done.inj hsame
    obtain ⟨_, _, _, _, _, hret, _⟩ | ⟨why', hwhy, hbind⟩ := runs_bind_iff.mp hrest
    · cases (runs_pure_iff.mp hret).1
    · obtain ⟨hout, rfl⟩ := runs_perform_absent hbind
      obtain rfl := Outcome.stopped.inj hwhy
      simp only [Platform.machine, Platform.answer] at hout ⊢
      cases hdriver : s₁.driver state.address with
      | none =>
          rw [hdriver] at hout
          cases hout
      | some current =>
          simp only [hdriver] at hout ⊢
          by_cases hsame : current = driver'.driver
          · rw [if_pos hsame] at hout
            cases hout
          · rw [if_neg hsame] at hout ⊢
            exact ⟨⟨driver', current, hget, hdriver, hsame⟩, ⟨_, Outcome.stopped.inj hout⟩, rfl⟩
  · cases (index_absent hget _ _ _ hindex).1

/-- What was bound had been free. -/
private theorem binds_free
    (h : Runs plat.machine A (Program.forEach (bindOne drivers) passthrough) node (.done ())
      node' t) : Free node passthrough drivers := by
  rintro state hstate ⟨driver, current, hget, hcurrent, hne⟩
  obtain ⟨driver', hget', hbound⟩ := binds_done h state hstate
  have hkept := (binds_keep h hcurrent).1
  rw [hget] at hget'
  obtain rfl := Option.some.inj hget'
  rw [hkept] at hbound
  exact hne (Option.some.inj hbound)

/-- Where a run has stopped at a device that is held: those before it have been
bound, and nothing else has been. -/
def StoppedAtHeld (node : Node) (passthrough : List DeviceState) (drivers : Drivers)
    (node' : Node) : Prop :=
  ∃ before state after, passthrough = before ++ state :: after ∧
    Free node before drivers ∧ Held node drivers state ∧
    (∀ bound ∈ before, ∃ driver, drivers.get bound.address = some driver ∧
      node'.driver bound.address = some driver.driver) ∧
    ∀ address, inSet before address = false → node'.driver address = node.driver address

private theorem StoppedAtHeld.of_driver {s : Node} (hdriver : s.driver = node.driver)
    (h : StoppedAtHeld s passthrough drivers node') :
    StoppedAtHeld node passthrough drivers node' := by
  obtain ⟨before, state, after, hsplit, hfree, hheld, hbound, hothers⟩ := h
  refine ⟨before, state, after, hsplit, fun other hother hheld => ?_, ?_, hbound, ?_⟩
  · exact hfree other hother (hheld.of_driver (by rw [hdriver]))
  · exact hheld.of_driver (by rw [hdriver])
  · rw [← hdriver]
    exact hothers

private theorem binds_stopped {why : Stop Error}
    (hnodup : (passthrough.map (·.address)).Nodup)
    (hget : ∀ state ∈ passthrough, ∃ driver, drivers.get state.address = some driver)
    (h : Runs plat.machine .absent (Program.forEach (bindOne drivers) passthrough) node
      (.stopped why) node' t) :
    (∃ e, why = .error e) ∧ StoppedAtHeld node passthrough drivers node' := by
  obtain ⟨before, state, after, s₁, t₁, t₂, rfl, hbefore, hstate, _⟩ := runs_forEach_stopped h
  obtain ⟨hheld, hwhy, rfl⟩ := bindOne_absent (hget state (by simp)) hstate
  have hout : inSet before state.address = false := by
    rw [← Bool.not_eq_true, inSet_iff]
    rintro ⟨other, hother, haddress⟩
    rw [List.map_append, List.map_cons, List.nodup_append] at hnodup
    exact hnodup.2.2 _ (List.mem_map_of_mem hother) _ List.mem_cons_self haddress
  have hothers : ∀ address, inSet before address = false →
      node'.driver address = node.driver address := fun address => binds_others hbefore
  exact ⟨hwhy, before, state, after, rfl, binds_free hbefore,
    hheld.of_driver (hothers state.address hout).symm, binds_done hbefore, hothers⟩

/-! ## The other stages -/

/-- Handing back is never refused. -/
private theorem release_sure : (release states passthrough).Sure plat.machine := by
  refine sure_forEach fun state _ => ?_
  unfold releaseOne
  by_cases hin : inSet passthrough state.address = true
  · rw [if_pos hin]
    exact sure_pure ()
  · rw [if_neg hin]
    refine sure_bind (sure_perform fun s => ⟨_, rfl⟩) fun sysfs => ?_
    cases (sysfs.currentDriver state.address).filter namesVfio with
    | none => exact sure_pure ()
    | some driver => exact sure_mapError (sure_perform fun s => ⟨(), rfl⟩)

/-- What was bound and put into the mode verifies. -/
private theorem verify_yields
    (hbound : ∀ state ∈ passthrough, ∃ driver, drivers.get state.address = some driver ∧
      node.driver state.address = some driver.driver)
    (hat : ∀ state ∈ passthrough, ∀ handle, Handle.of state = some handle →
      Nvidia.AtTargets plat mode handle (node.board handle.address).knob) :
    (verify plat mode passthrough drivers).Yields plat.machine node () := by
  refine yields_forEach fun state hstate => ?_
  obtain ⟨driver, hget, hdriver⟩ := hbound state hstate
  refine yields_bind (index_absent hget) (yields_bind (a := ()) (yields_perform ?_) ?_)
  · simp only [Platform.machine, Platform.answer, hdriver, if_true]
  · exact verifyMode_absent (hat state hstate)

/-- What a run leaves that is stopped by a device another driver has: firmware
and boot files are those of the mode. -/
structure Halted (plat : Platform) (mode : Mode) (node : Node)
    (passthrough : List DeviceState) (drivers : Drivers) (node' : Node) : Prop where
  firmware : FirmwareAt plat mode node'
  boot : Configured plat (binding mode) node'
  stopped : StoppedAtHeld node passthrough drivers node'

/-- A cleared run completes, or is halted. -/
private theorem stages_undisturbed {out : Outcome Error Unit}
    (h : Runs plat.machine .absent (stages plat mode (clearedFor plat node mode found drivers))
      node out node' t) (hadmits : Admits plat mode node found drivers) :
    out = .done () ∧ Free node (passthroughSet found mode) drivers ∨
      (∃ e, out = .stopped (.error e)) ∧
        Halted plat mode node (passthroughSet found mode) drivers node' := by
  have hnodup : ((passthroughSet found mode).map (·.address)).Nodup :=
    passthrough_nodup (scope_nodup hadmits.scope)
  have hget : ∀ state ∈ passthroughSet found mode, ∃ driver,
      drivers.get state.address = some driver := by
    obtain ⟨_, _, hall⟩ := hadmits.drivers.get hnodup
    intro state hstate
    obtain ⟨driver, hdriver, _⟩ := hall state hstate
    exact ⟨driver, hdriver⟩
  have hgates : Gates plat mode node found (readAll plat node found)
      (clearedFor plat node mode found drivers) := hadmits
  have hat : ∀ {outcomes s t}, Runs plat.machine .absent
      (Nvidia.apply plat (clearedFor plat node mode found drivers).states mode) node
      (.done outcomes) s t → FirmwareAt plat mode s := by
    intro outcomes s t hmode member handle hopen
    obtain ⟨state, hstate, haddress⟩ := openable_scope hgates hopen
    rw [← haddress]
    exact mode_done hmode hstate
  cases stages_stageRun h with
  | changing hmode =>
      obtain ⟨_, _, _, _, _, _, hout, _⟩ := Nvidia.boardRun_absent (Nvidia.apply_boardRun hmode)
      cases hout
  | persisting hmode hpersist => cases persist_absent hget hpersist
  | binding hmode hpersist hbind =>
      obtain ⟨hwhy, hstopped⟩ := binds_stopped hnodup hget hbind
      have hdriver : _ = node.driver := (persist_keeps hpersist).2.2.trans (mode_keeps hmode).1
      refine .inr ⟨hwhy.imp fun e he => congrArg Outcome.stopped he, ?_⟩
      exact
        { firmware := fun member handle hopen => by
            rw [(binds_keeps hbind).1, (persist_keeps hpersist).2.1]
            exact hat hmode member handle hopen
          boot := by
            have hdisk := (persist_done hpersist).1.of_files (binds_keeps hbind).2.1
            obtain ⟨hset, hresolved⟩ := hgates.resolved
            rw [hset, claims_rebound] at hdisk
            exact configured_mode.mpr ⟨drivers, hresolved, hdisk⟩
          stopped := hstopped.of_driver hdriver }
  | releasing hmode hpersist hbind hrelease =>
      obtain ⟨_, hdone⟩ := release_sure _ _ _ _ hrelease
      cases hdone
  | verifying hmode hpersist hbind hrelease hverify =>
      have hdriver : _ = node.driver := (persist_keeps hpersist).2.2.trans (mode_keeps hmode).1
      have hbound : ∀ state ∈ passthroughSet found mode, ∃ driver,
          drivers.get state.address = some driver ∧
            node'.driver state.address = some driver.driver := by
        intro state hstate
        obtain ⟨driver, hdriver, hon⟩ := binds_done hbind state hstate
        have hkept := ((release_keeps hrelease).2.2 state.address
          (inSet_iff.mpr ⟨state, hstate, rfl⟩)).1
        exact ⟨driver, hdriver, hkept.trans hon⟩
      have hmodes : ∀ state ∈ passthroughSet found mode, ∀ handle, Handle.of state = some handle →
          Nvidia.AtTargets plat mode handle (node'.board handle.address).knob := by
        intro state hstate handle hof
        have hscope := passthrough_subset hstate
        rw [scope_found hadmits.scope] at hscope
        obtain ⟨member, hmember, rfl⟩ := List.mem_map.mp hscope
        have hmoded := hat hmode member handle ⟨hmember, hof⟩
        have haddress : handle.address = member.address := Handle.of_address hof
        rw [(release_keeps hrelease).1, (binds_keeps hbind).1, (persist_keeps hpersist).2.1,
          haddress]
        exact hmoded
      refine .inl ⟨(verify_yields hbound hmodes _ _ _ hverify).1, fun state hstate hheld => ?_⟩
      exact binds_free hbind state hstate (hheld.of_driver (by rw [hdriver]))

/-! ## The run -/

/-- An admitted run completes, or is halted. -/
private theorem admitted_run (h : Admits plat mode node found drivers) :
    (exec plat.machine (apply plat mode) [] node).outcome = .done () ∧
        Free node (passthroughSet found mode) drivers ∨
      (∃ e, (exec plat.machine (apply plat mode) [] node).outcome = .stopped (.error e)) ∧
        Halted plat mode node (passthroughSet found mode) drivers
          (exec plat.machine (apply plat mode) [] node).state := by
  have hrun := exec_runs_absent plat.machine (apply plat mode) node
  generalize exec plat.machine (apply plat mode) [] node = run at hrun ⊢
  rw [apply_eq] at hrun
  obtain ⟨cleared, s₁, t₁, t₂, hchecks, hstages, _⟩ | ⟨why, _, hchecks⟩ :=
    runs_bind_iff.mp hrun
  · obtain ⟨hcleared, rfl⟩ := preflight_absent h _ _ _ hchecks
    obtain rfl := Outcome.done.inj hcleared
    exact stages_undisturbed hstages h
  · cases (preflight_absent h _ _ _ hchecks).1

/-- A run that is not admitted leaves the node as it was. -/
private theorem refused_run (hnone : ¬∃ found drivers, Admits plat mode node found drivers) :
    (exec plat.machine (apply plat mode) [] node).outcome ≠ .done () ∧
      (exec plat.machine (apply plat mode) [] node).state = node := by
  have hrun := exec_runs_absent plat.machine (apply plat mode) node
  generalize exec plat.machine (apply plat mode) [] node = run at hrun ⊢
  rw [apply_eq] at hrun
  obtain ⟨cleared, s₁, t₁, t₂, hchecks, _, _⟩ | ⟨why, hwhy, hchecks⟩ := runs_bind_iff.mp hrun
  · obtain ⟨rfl, _⟩ := preflight_quiet hchecks
    obtain ⟨found, probed, hgates⟩ := preflight_done hchecks
    exact absurd ⟨found, cleared.drivers, hgates.admits⟩ hnone
  · rw [hwhy]
    exact ⟨fun hdone => (by cases hdone), (preflight_quiet hchecks).1⟩

theorem completes_iff (plat : Platform) (mode : Mode) (node : Node) :
    (exec plat.machine (apply plat mode) [] node).outcome = .done () ↔
      ∃ found drivers, Admits plat mode node found drivers ∧
        Free node (passthroughSet found mode) drivers := by
  constructor
  · intro hdone
    by_cases hadmits : ∃ found drivers, Admits plat mode node found drivers
    · obtain ⟨found, drivers, hadmits⟩ := hadmits
      rcases admitted_run hadmits with ⟨_, hfree⟩ | ⟨⟨e, hstopped⟩, _⟩
      · exact ⟨found, drivers, hadmits, hfree⟩
      · rw [hdone] at hstopped
        cases hstopped
    · exact absurd hdone (refused_run hadmits).1
  · rintro ⟨found, drivers, hadmits, hfree⟩
    rcases admitted_run hadmits with ⟨hdone, _⟩ | ⟨_, hhalted⟩
    · exact hdone
    · obtain ⟨before, state, after, hsplit, _, hheld, _⟩ := hhalted.stopped
      exact absurd hheld (hfree state (by simp [hsplit]))

/-! ## Devices that refuse -/

/-- Every device in scope that has a mode can be opened. -/
def Opens (plat : Platform) (c : Conduct) : Prop :=
  ∀ member handle, Nvidia.Openable (scope plat) member handle → c.refuses member.address = none

theorem verifyMode_uses_board {state : DeviceState} (hstate : state ∈ states) :
    (Nvidia.verifyMode plat state mode).Uses (Nvidia.ProbesBoard states) := by
  cases hof : Handle.of state with
  | some handle =>
      exact (verifyMode_uses state).mono fun op hop => ⟨state, handle, ⟨hstate, hof⟩, hop⟩
  | none =>
      unfold Nvidia.verifyMode
      rw [Nvidia.open_none hof]
      trivial

/-- What a conduct can have a say in: a module is loaded on the node that the run
started on, and what is opened or read is a device in scope that has a mode. -/
structure Exposed (plat : Platform) (node : Node) (e : Event Op Node) : Prop where
  load : e.op.kind = .load → e.before = node
  probe : e.op.kind = .probe → ∃ member handle, Nvidia.Openable (scope plat) member handle ∧
    e.op.device = some member.address

theorem Exposed.of_kind {e : Event Op Node} (hload : e.op.kind ≠ .load)
    (hprobe : e.op.kind ≠ .probe) : Exposed plat node e where
  load hkind := absurd hkind hload
  probe hkind := absurd hkind hprobe

/-- A device that a run found on the node is one in scope. -/
theorem probes_scope {op : Op} (hscope : inScope plat.pci (plat.sysfs node) = .ok found)
    (h : Nvidia.ProbesBoard found op) : ∃ member handle,
      Nvidia.Openable (scope plat) member handle ∧ op.device = some member.address := by
  obtain ⟨state, handle, ⟨hstate, hof⟩, _, hdevice⟩ := h
  rw [scope_found hscope] at hstate
  obtain ⟨member, hmember, rfl⟩ := List.mem_map.mp hstate
  exact ⟨member, handle, ⟨hmember, hof⟩, hdevice⟩

private theorem preflight_exposed {out : Outcome Error Cleared}
    (h : Runs plat.machine A (preflight plat mode) node out node' t) :
    ∀ e ∈ t, Exposed plat node e := by
  intro e he
  refine ⟨fun _ => ((preflight_quiet h).2 e he).2, fun hkind => ?_⟩
  rcases preflight_probes h e he with hnone | ⟨found, hscope, hprobe⟩
  · revert hkind hnone
    cases e.op <;> simp [Op.kind, Op.device]
  · exact probes_scope hscope hprobe

/-- A run loads modules before it changes anything, and opens and reads nothing
but devices in scope that have a mode. -/
theorem apply_exposed {out : Outcome Error Unit}
    (h : Runs plat.machine A (apply plat mode) node out node' t) :
    ∀ e ∈ t, Exposed plat node e := by
  rw [apply_eq] at h
  obtain ⟨cleared, s₁, t₁, t₂, hchecks, hstages, rfl⟩ | ⟨why, rfl, hchecks⟩ :=
    runs_bind_iff.mp h
  · refine List.forall_mem_append.mpr ⟨preflight_exposed hchecks, ?_⟩
    obtain ⟨found, probed, hgates⟩ := preflight_done hchecks
    refine stages_events hstages (fun hmode e he => ?_) (fun hpersist e he => ?_)
      (fun hbind e he => ?_) (fun hrelease e he => ?_) (fun hverify e he => ?_)
    · obtain ⟨hkind, state, handle, hopen, hdevice⟩ := mode_events hmode e he
      refine ⟨fun hload => ?_, fun _ => ?_⟩
      · rcases hkind with hk | hk | hk <;> cases hload.symm.trans hk
      · obtain ⟨member, hmember, haddress⟩ := openable_cleared hgates hopen
        exact ⟨member, handle, hmember, by rw [hdevice, haddress]⟩
    · have hkind := (persist_keeps hpersist).1 e he
      exact .of_kind (by rw [hkind]; decide) (by rw [hkind]; decide)
    · obtain ⟨state, _, driver, _, hop⟩ := hbind.events_of_uses binds_uses e he
      exact .of_kind (by simp [hop, Op.kind]) (by simp [hop, Op.kind])
    · rcases hrelease.events_of_uses release_uses e he with hop | ⟨state, _, _, hop⟩ <;>
        exact .of_kind (by simp [hop, Op.kind]) (by simp [hop, Op.kind])
    · have huses : (verify plat mode cleared.passthrough cleared.drivers).Uses fun op =>
          op.kind = .check ∨ Nvidia.ProbesBoard found op := by
        refine uses_forEach fun state hstate => uses_bind (index_uses _ _ _) fun driver => ?_
        refine uses_bind (uses_perform (.inl rfl)) fun _ => ?_
        rw [hgates.passthrough] at hstate
        exact (verifyMode_uses_board (passthrough_subset hstate)).mono fun _ hop => .inr hop
      rcases hverify.events_of_uses huses e he with hkind | hprobe
      · exact .of_kind (by rw [hkind]; decide) (by rw [hkind]; decide)
      · refine ⟨fun hload => ?_, fun _ => probes_scope hgates.scope hprobe⟩
        cases hload.symm.trans hprobe.kind
  · exact preflight_exposed hchecks

section Conduct

variable {c : Conduct} (hload : ∀ module, c.load module node = node)

include hload

/-- Where nothing that would be opened refuses and no module takes a device, a run
goes as it does on a calm node. -/
private theorem exec_opens (hopens : Opens plat c) :
    exec (c.on plat.machine) (apply plat mode) [] node =
      exec plat.machine (apply plat mode) [] node := by
  refine exec_congr fun e he => ?_
  obtain ⟨hbefore, hprobe⟩ :=
    apply_exposed (exec_runs_absent plat.machine (apply plat mode) node) e he
  have hrefusal : c.refusal e.op = none := by
    cases hop : e.op with
    | gpuOpen address | switchOpen address =>
        obtain ⟨member, handle, hopen, haddress⟩ := hprobe (by rw [hop]; rfl)
        rw [hop] at haddress
        obtain rfl := Option.some.inj haddress
        exact hopens member handle hopen
    | _ => rfl
  have hafter : c.after (plat.machine.answer e.before e.op).2 e.op =
      (plat.machine.answer e.before e.op).2 := by
    cases hop : e.op with
    | runModprobe command module =>
        rw [hbefore (by rw [hop]; rfl)]
        exact hload module
    | _ => rfl
  simp only [Conduct.on, hrefusal, hafter]

/-- A program that only looks runs as it may where operations fail. -/
private theorem runs_hostile {α : Type} {p : Provision α} {out : Outcome Error α}
    (h : Runs (c.on plat.machine) .absent p node out node' t)
    (hp : p.Uses fun op => op.kind.Quiet) : Runs plat.machine .hostile p node out node' t := by
  have hbefore := (h.invariant (I := fun s => s = node) hp (fun op s r s' hop hs hresp => by
    subst hs
    exact responds_quiet hop (Conduct.responds_hostile hload hresp)) rfl).2
  refine h.transfer False.elim fun e he r s₁ hresp => ?_
  refine Conduct.responds_hostile (fun module => ?_) hresp
  rw [hbefore e he]
  exact hload module

omit hload in
/-- What was opened had not refused. -/
private theorem open_accepted {state : DeviceState} {handle : Handle} {o : Option Handle}
    (hof : Handle.of state = some handle)
    (h : Runs (c.on plat.machine) A (Handle.open state) node (.done o) node' t) :
    c.refuses state.address = none := by
  obtain ⟨op, next, heq, hop⟩ : ∃ op next, Handle.open state = issue op >>= next ∧
      c.refusal op = c.refuses state.address := by
    unfold Handle.of at hof
    unfold Handle.open
    cases hprov : state.provisioning with
    | none =>
        rw [hprov] at hof
        cases hof
    | some kind =>
        rw [hprov] at hof
        cases kind with
        | nvidiaInBandCc =>
            dsimp only at hof ⊢
            by_cases hcap : state.ccCapable = true
            · rw [if_pos hcap]
              exact ⟨.gpuOpen state.address, _, rfl, rfl⟩
            · rw [if_neg hcap] at hof
              cases hof
        | nvidiaInBandPpcie => exact ⟨.switchOpen state.address, _, rfl, rfl⟩
  rw [heq] at h
  obtain ⟨a, s₁, t₁, t₂, hopen, _, _⟩ := runs_bind_done.mp h
  obtain ⟨hanswer, _⟩ := runs_perform_done.mp hopen
  rw [← hop]
  cases hrefused : c.refusal op with
  | none => rfl
  | some e =>
      simp only [Conduct.on, hrefused] at hanswer
      cases (Prod.mk.inj hanswer).1

/-- A mode change stops at a device that refuses, before it has changed
anything. -/
private theorem mode_refused {out : Outcome Error (List (String × Nvidia.Transition))}
    {state : DeviceState} {handle : Handle} (hopen : Nvidia.Openable states state handle)
    (hrefuses : c.refuses state.address ≠ none)
    (h : Runs (c.on plat.machine) .absent (Nvidia.apply plat states mode) node out node' t) :
    (∃ why, out = .stopped why) ∧ node' = node := by
  obtain ⟨plans, s₁, t₁, t₂, hplan, _, _⟩ | ⟨why, rfl, hplan⟩ := runs_bind_iff.mp h
  · obtain ⟨opened, s₂, t₃, t₄, hopened, _, _⟩ := runs_bind_done.mp hplan
    have hall := (runs_gather_done (I := fun _ => True)
      (Q := fun state _ => ∀ handle, Handle.of state = some handle → c.refuses state.address = none)
      (fun state _ s o s' t _ hr => by
        obtain ⟨o', s₃, t₅, t₆, hr, _, _⟩ := runs_bind_done.mp hr
        exact ⟨trivial, fun handle hof => open_accepted hof (runs_mapError_done.mp hr)⟩)
      trivial hopened).2
    obtain ⟨_, _, haccepted⟩ := forall₂_of_mem_left hall hopen.1
    exact absurd (haccepted handle hopen.2) hrefuses
  · have hquiet : (Nvidia.planBoard plat states mode).Uses fun op => op.kind.Quiet :=
      (Nvidia.planBoard_uses states mode).mono fun _ hop => .inl hop
    exact ⟨⟨why, rfl⟩, (Nvidia.node_eq_of_quiet (runs_hostile hload hplan hquiet) hquiet
      fun _ hop => hop).1⟩

/-- A run on a node with a device that refuses leaves the node as it was. -/
private theorem refusing_run (mode : Mode) (hrefuses : ¬Opens plat c) :
    (exec (c.on plat.machine) (apply plat mode) [] node).outcome ≠ .done () ∧
      (exec (c.on plat.machine) (apply plat mode) [] node).state = node := by
  have hrun := exec_runs_absent (c.on plat.machine) (apply plat mode) node
  generalize exec (c.on plat.machine) (apply plat mode) [] node = run at hrun ⊢
  rw [apply_eq] at hrun
  obtain ⟨cleared, s₁, t₁, t₂, hchecks, hstages, _⟩ | ⟨why, hwhy, hchecks⟩ := runs_bind_iff.mp hrun
  · have hcalm := runs_hostile hload hchecks preflight_uses
    obtain ⟨rfl, _⟩ := preflight_quiet hcalm
    obtain ⟨found, probed, hgates⟩ := preflight_done hcalm
    obtain ⟨member, handle, hopen, hno⟩ : ∃ member handle,
        Nvidia.Openable (scope plat) member handle ∧ c.refuses member.address ≠ none := by
      simpa [Opens] using hrefuses
    obtain ⟨state, hstate, haddress⟩ := openable_scope hgates hopen
    rw [← haddress] at hno
    have hstop : ∀ {out : Outcome Error Unit} {s : Node} {t : List (Event Op Node)},
        Runs (c.on plat.machine) .absent (modeStage plat cleared.states mode) s₁ out s t →
        (∃ why, out = .stopped why) ∧ s = s₁ := by
      intro out s t hmode
      obtain ⟨outcomes, s₂, t₃, t₄, happly, _, _⟩ | ⟨why, rfl, happly⟩ := runs_bind_iff.mp hmode
      · obtain ⟨⟨why, hwhy⟩, _⟩ := mode_refused hload hstate hno happly
        cases hwhy
      · exact ⟨⟨why, rfl⟩, (mode_refused hload hstate hno happly).2⟩
    obtain ⟨_, s₂, t₃, t₄, hmode, _, _⟩ | ⟨why, hwhy, hmode⟩ := runs_bind_iff.mp hstages
    · obtain ⟨⟨why, hwhy⟩, _⟩ := hstop hmode
      cases hwhy
    · rw [hwhy]
      exact ⟨fun hdone => (by cases hdone), (hstop hmode).2⟩
  · rw [hwhy]
    exact ⟨fun hdone => (by cases hdone),
      (preflight_quiet (runs_hostile hload hchecks preflight_uses)).1⟩

/-- Left alone, a run completes if and only if every device it opens can be opened,
the node passes every check and no device to be bound is held by another driver.
A node with a device that refuses, or that fails a check, is left as it was; one
that only has a device held is left in the mode and configured for it, and bound up
to that device. -/
theorem undisturbed (mode : Mode) :
    ((exec (c.on plat.machine) (apply plat mode) [] node).outcome = .done () ↔
      Opens plat c ∧ ∃ found drivers, Admits plat mode node found drivers ∧
        Free node (passthroughSet found mode) drivers) ∧
    (¬(Opens plat c ∧ ∃ found drivers, Admits plat mode node found drivers) →
      (exec (c.on plat.machine) (apply plat mode) [] node).state = node) ∧
    (Opens plat c → ∀ found drivers, Admits plat mode node found drivers →
      ¬Free node (passthroughSet found mode) drivers →
      Halted plat mode node (passthroughSet found mode) drivers
        (exec (c.on plat.machine) (apply plat mode) [] node).state) := by
  by_cases hopens : Opens plat c
  · rw [exec_opens hload hopens, completes_iff]
    refine ⟨(and_iff_right hopens).symm, fun hnone => ?_, fun _ found drivers hadmits hheld => ?_⟩
    · exact (refused_run fun hadmits => hnone ⟨hopens, hadmits⟩).2
    · rcases admitted_run hadmits with ⟨_, hfree⟩ | ⟨_, hhalted⟩
      · exact absurd hfree hheld
      · exact hhalted
  · obtain ⟨hstopped, hsame⟩ := refusing_run hload mode hopens
    exact ⟨⟨fun hdone => absurd hdone hstopped, fun h => absurd h.1 hopens⟩, fun _ => hsame,
      fun h => absurd h hopens⟩

/-- So a run that nothing interferes with changes nothing, or leaves a node that a
reboot brings up in the mode and configured for it, and bound for it unless the
host comes first. -/
theorem reboot_finishes (hsound : Sound plat) (mode : Mode) (pick : HostPick) :
    (exec (c.on plat.machine) (apply plat mode) [] node).state = node ∨
      Ledger.Holds plat
        ⟨some mode, true, if pick.races then none else some (binding mode), some (binding mode)⟩
        (reboot plat pick (exec (c.on plat.machine) (apply plat mode) [] node).state) := by
  by_cases hopens : Opens plat c
  · rw [exec_opens hload hopens]
    by_cases hadmits : ∃ found drivers, Admits plat mode node found drivers
    · right
      obtain ⟨found, drivers, hadmits⟩ := hadmits
      have hfirmware : FirmwareAt plat mode
          (exec plat.machine (apply plat mode) [] node).state ∧ Configured plat (binding mode)
            (exec plat.machine (apply plat mode) [] node).state := by
        rcases admitted_run hadmits with ⟨hdone, _⟩ | ⟨_, hhalted⟩
        · obtain ⟨found', drivers', hpost⟩ := apply_done (exec_runs_done hdone)
          exact ⟨hpost.firmwareAt, hpost.configured⟩
        · exact ⟨hhalted.firmware, hhalted.boot⟩
      have hbefore : Ledger.Holds plat ⟨some mode, false, none, some (binding mode)⟩
          (exec plat.machine (apply plat mode) [] node).state :=
        { firmware := fun mode' hmode => by
            obtain rfl := Option.some.inj hmode
            exact hfirmware.1
          settled := fun hsettled => by cases hsettled
          bound := fun b hb => by cases hb
          boot := fun b hb => by
            obtain rfl := Option.some.inj hb
            exact hfirmware.2 }
      exact step_holds hsound hbefore (.reboot pick _)
    · exact .inl (refused_run hadmits).2
  · exact .inl (refusing_run hload mode hopens).2

end Conduct

/-! ### A switch that is in the way -/

/-- A baseboard as the host brings it up, its own driver on the switch. -/
private def switchHosted : Node :=
  Bench.node (fun _ => Bench.settled .off .off) fun address =>
    if address = "0000:06:00.0" then some "nvidia-nvswitch" else none

/-- The switch is of a generation without PPCIE. -/
private def olderSwitch : Conduct where
  refuses address :=
    if address = "0000:06:00.0" then some (.msg "NVSwitch does not support PPCIE") else none
  takes _ _ _ := none

/-- With a switch that refuses, no run gets as far as to change the GPU. -/
theorem undisturbed_older :
    ¬Opens (Bench.platform Bench.baseboard) olderSwitch ∧
      (exec (olderSwitch.on (Bench.platform Bench.baseboard).machine)
        (apply (Bench.platform Bench.baseboard) .on) [] switchHosted).outcome ≠ .done () ∧
      (exec (olderSwitch.on (Bench.platform Bench.baseboard).machine)
        (apply (Bench.platform Bench.baseboard) .on) [] switchHosted).state = switchHosted := by
  have hrefuses : ¬Opens (Bench.platform Bench.baseboard) olderSwitch := by
    intro hopens
    have hnone := hopens (discovered Bench.pci (Bench.nvswitch "0000:06:00.0"))
      (.switch "0000:06:00.0") ⟨by decide, by decide⟩
    cases hnone
  have hload : ∀ module, olderSwitch.load module switchHosted = switchHosted :=
    fun module => by simp [Conduct.load, olderSwitch]
  obtain ⟨hiff, hsame, _⟩ := undisturbed hload .on
  exact ⟨hrefuses, fun hdone => hrefuses (hiff.mp hdone).1, hsame fun h => hrefuses h.1⟩

/-- The run into PPCIE stops at the switch, and a boot that does not give the
switch to that driver finishes it. -/
theorem reboot_finishes_switch :
    (exec (Conduct.calm.on (Bench.platform Bench.baseboard).machine)
      (apply (Bench.platform Bench.baseboard) .ppcie) [] switchHosted).outcome ≠ .done () ∧
    Ledger.Holds (Bench.platform Bench.baseboard)
      ⟨some .ppcie, true, some .baseboard, some .baseboard⟩
      (reboot (Bench.platform Bench.baseboard) bareHost
        (exec (Conduct.calm.on (Bench.platform Bench.baseboard).machine)
          (apply (Bench.platform Bench.baseboard) .ppcie) [] switchHosted).state) := by
  have hsound : Sound (Bench.platform Bench.baseboard) := bench_sound _ _ (by decide)
  have hholds := reboot_finishes (fun module => Conduct.load_calm module switchHosted) hsound
    .ppcie bareHost
  refine ⟨by decide +kernel, hholds.resolve_left fun hsame => ?_⟩
  have hdriver : (exec (Conduct.calm.on (Bench.platform Bench.baseboard).machine)
      (apply (Bench.platform Bench.baseboard) .ppcie) [] switchHosted).state.driver
        "0000:65:00.0" = some "vfio-pci" := by decide +kernel
  rw [hsame] at hdriver
  exact absurd hdriver (by decide)

end KataDeviceProvisioner.Ports.Main
