import KataDeviceProvisioner.Ports.IdleScan
import KataDeviceProvisioner.Ports.Scope
import KataDeviceProvisioner.Ports.Stages
import Mathlib.Data.List.ReduceOption

/-!
# What is checked for being in use

`writable` decides before the first change which devices a run is going to
change, and `verifyIdle` refuses the run if one of them is in use.  What is
changed is decided later and elsewhere: by the planner, for every device in
scope; by the loop that binds the passthrough set; and by the loop that releases
the rest.  `coverage_iff` says exactly when the first list covers the others.
-/

namespace KataDeviceProvisioner.Ports.Main

open KataDeviceProvisioner.Verified

variable {plat : Platform} {A : Adversary} {node node' : Node} {t : List (Event Op Node)}
  {mode : Mode} {drivers : Drivers} {found passthrough states : List DeviceState}
  {probed : List (DeviceState × Option (String × String))}

/-! ## What a run changes -/

/-- The planner has writes for the device, and so a reset. -/
def HasPlan (plat : Platform) (node : Node) (mode : Mode) (state : DeviceState) : Prop :=
  ∃ plan, Nvidia.planOf plat node.board mode state = some plan ∧ plan.writes ≠ []

/-- The device is to be passed through and is not on the driver found for it. -/
def OffTarget (node : Node) (passthrough : List DeviceState) (drivers : Drivers)
    (state : DeviceState) : Prop :=
  inSet passthrough state.address = true ∧
    ∃ target, drivers.get state.address = some target ∧
      node.driver state.address ≠ some target.driver

/-- The device is not to be passed through and vfio has it. -/
def ToRelease (node : Node) (passthrough : List DeviceState) (state : DeviceState) : Prop :=
  inSet passthrough state.address = false ∧
    (node.driver state.address).any namesVfio = true

/-- The stages after the checks are going to change the device. -/
def WillChange (plat : Platform) (node : Node) (mode : Mode) (passthrough : List DeviceState)
    (drivers : Drivers) (state : DeviceState) : Prop :=
  HasPlan plat node mode state ∨ OffTarget node passthrough drivers state ∨
    ToRelease node passthrough state

/-- An event that changes a device: a bind that finds its device on the driver
already does not. -/
def Changes (e : Event Op Node) : Prop :=
  e.op.kind = .write ∨ e.op.kind = .reset ∨ e.op.kind = .unbind ∨
    ∃ address driver, e.op = .bind address driver ∧ e.before.driver address ≠ some driver

theorem hasPlan_iff {state : DeviceState} :
    HasPlan plat node mode state ↔
      Nvidia.writesFor (reading plat node state).1 (reading plat node state).2 mode ≠ [] := by
  unfold HasPlan Nvidia.planOf reading
  cases hof : Handle.of state with
  | none => simp [Nvidia.writesFor]
  | some handle => simp [Handle.of_address hof]

/-- The mode change writes and resets only what has a plan. -/
theorem mode_changes {out : Outcome Error (List (String × Nvidia.Transition))}
    (h : Runs plat.machine A (Nvidia.apply plat states mode) node out node' t)
    {e : Event Op Node} (he : e ∈ t) (hkind : e.op.kind = .write ∨ e.op.kind = .reset) :
    ∃ state ∈ states, e.op.device = some state.address ∧ HasPlan plat node mode state := by
  obtain ⟨t₀, t₁, t₂, t₃, rfl, hphased⟩ := (Nvidia.apply_boardRun h).phased
  have hplanned : ∀ plan ∈ Nvidia.plansFor plat node.board mode states, plan.writes ≠ [] →
      e.op.device = some plan.handle.address →
      ∃ state ∈ states, e.op.device = some state.address ∧ HasPlan plat node mode state := by
    intro plan hplan hwrites hdevice
    obtain ⟨state, hstate, hof⟩ := List.mem_filterMap.mp hplan
    obtain ⟨hopen, _⟩ := Nvidia.mem_plansFor.mp hplan
    have hsame : plan.state = state := by
      unfold Nvidia.planOf at hof
      cases hhandle : Handle.of state with
      | none => simp [hhandle] at hof
      | some handle =>
          rw [hhandle] at hof
          rw [← Option.some.inj hof]
    rw [Handle.of_address hopen.2, hsame] at hdevice
    exact ⟨state, hstate, hdevice, plan, hof, hwrites⟩
  rcases hkind with hkind | hkind
  · obtain ⟨plan, hplan, w, hw, hop, _⟩ := Nvidia.mem_writeOps
      (hphased.writing.subset (List.mem_map_of_mem (hphased.mem_writing he hkind)))
    refine hplanned plan hplan (List.ne_nil_of_mem hw) ?_
    rw [hop, Handle.writeOp_device]
  · obtain ⟨plan, hplan, hwrites, hop⟩ := Nvidia.mem_resetOps
      (hphased.resetting.subset (List.mem_map_of_mem (hphased.mem_resetting he hkind)))
    refine hplanned plan hplan hwrites ?_
    rw [hop, Handle.reset_device]

/-- Binding changes only what is off its target. -/
theorem binds_changes {out : Outcome Error Unit}
    (h : Runs plat.machine A (Program.forEach (bindOne drivers) passthrough) node out node' t)
    {e : Event Op Node} (he : e ∈ t) (hchanges : Changes e) :
    ∃ state ∈ passthrough, e.op.device = some state.address ∧
      OffTarget node passthrough drivers state := by
  obtain ⟨state, hstate, target, hget, hop⟩ := h.events_of_uses binds_uses e he
  refine ⟨state, hstate, by rw [hop]; rfl, inSet_iff.mpr ⟨state, hstate, rfl⟩, target, hget, ?_⟩
  -- A device on its target stays there, so this bind would have found it there.
  intro hbound
  have hbefore := (binds_keep h hbound).2 e he
  unfold Changes at hchanges
  rw [hop] at hchanges
  rcases hchanges with hkind | hkind | hkind | ⟨address, driver, heq, hoff⟩
  · cases hkind
  · cases hkind
  · cases hkind
  · obtain ⟨rfl, rfl⟩ := Op.bind.inj heq
    exact hoff hbefore

/-- Releasing one device unbinds it only if vfio has it. -/
private theorem releaseOne_run {state : DeviceState} {out : Outcome Error Unit}
    (h : Runs plat.machine A (releaseOne passthrough state) node out node' t) :
    (∀ address, node'.driver address = node.driver address ∨ node'.driver address = none) ∧
      ∀ e ∈ t, ∀ address, e.op = .unbind address →
        (node.driver address).any namesVfio = true := by
  unfold releaseOne at h
  by_cases hin : inSet passthrough state.address = true
  · rw [if_pos hin] at h
    obtain ⟨_, rfl, rfl⟩ := runs_pure_iff.mp h
    exact ⟨fun _ => .inl rfl, by simp⟩
  · rw [if_neg hin] at h
    have hlooks : ∀ {out : Outcome Error Sysfs} {s : Node} {t : List (Event Op Node)},
        Runs plat.machine A (issue .readSysfs) node out s t →
        s = node ∧ ∀ e ∈ t, e.op = .readSysfs := by
      intro out s t hlook
      have hop := hlook.events_of_uses (P := fun op => op = .readSysfs) (uses_perform rfl)
      exact ⟨(Nvidia.node_eq_of_quiet hlook (uses_perform (.inr (.inl rfl)))
        fun _ hquiet => hquiet).1, hop⟩
    obtain ⟨sysfs, s₁, t₁, t₂, hlook, hrest, rfl⟩ | ⟨why, _, hlook⟩ := runs_bind_iff.mp h
    · obtain ⟨rfl, hops⟩ := hlooks hlook
      obtain ⟨rfl, _⟩ := runs_readSysfs hlook
      dsimp only [Platform.sysfs] at hrest
      cases hdriver : (s₁.driver state.address).filter namesVfio with
      | none =>
          rw [hdriver] at hrest
          obtain ⟨_, rfl, rfl⟩ := runs_pure_iff.mp hrest
          refine ⟨fun _ => .inl rfl, fun e he address heq => ?_⟩
          rw [List.append_nil] at he
          rw [hops e he] at heq
          cases heq
      | some driver =>
          rw [hdriver] at hrest
          obtain ⟨hsome, hvfio⟩ := Option.filter_eq_some_iff.mp hdriver
          obtain ⟨out₀, hunbind, _⟩ := runs_mapError_iff.mp hrest
          have hop := hunbind.events_of_uses (P := fun op => op = .unbind state.address)
            (uses_perform rfl)
          refine ⟨fun address => ?_, fun e he address heq => ?_⟩
          · refine (hunbind.invariant (P := fun op => op = .unbind state.address)
              (I := fun s => s.driver address = s₁.driver address ∨ s.driver address = none)
              (uses_perform rfl) (fun op s r s' hop hs hresp => ?_) (.inl rfl)).1
            subst hop
            obtain rfl | rfl | ⟨_, _, hfile, _⟩ := responds_state hresp
            · exact hs
            · by_cases ha : address = state.address
              · exact .inr (by
                  simp [Machine.effect, Platform.machine, Platform.answer,
                    Platform.setDriver, ha])
              · have hkeep : (plat.machine.effect s (.unbind state.address)).driver address =
                    s.driver address :=
                  effect_change.driver_eq (.inl fun heq => ha (Option.some.inj heq).symm)
                rwa [hkeep]
            · cases hfile
          · rcases List.mem_append.mp he with he | he
            · rw [hops e he] at heq
              cases heq
            · rw [hop e he] at heq
              obtain rfl := Op.unbind.inj heq
              rw [hsome, Option.any_some]
              exact hvfio
    · obtain ⟨rfl, hops⟩ := hlooks hlook
      refine ⟨fun _ => .inl rfl, fun e he address heq => ?_⟩
      rw [hops e he] at heq
      cases heq

/-- Releasing unbinds only what vfio has. -/
private theorem release_unbinds {out : Outcome Error Unit}
    (h : Runs plat.machine A (release states passthrough) node out node' t) :
    ∀ e ∈ t, ∀ address, e.op = .unbind address →
      (node.driver address).any namesVfio = true := by
  unfold release at h
  induction states generalizing node t with
  | nil =>
      obtain ⟨_, _, rfl⟩ := runs_pure_iff.mp h
      simp
  | cons first rest ih =>
      obtain ⟨_, s₁, t₁, t₂, hfirst, hrest, rfl⟩ | ⟨why, _, hfirst⟩ := runs_bind_iff.mp h
      · obtain ⟨hdriver, hops⟩ := releaseOne_run hfirst
        intro e he address heq
        rcases List.mem_append.mp he with he | he
        · exact hops e he address heq
        · have hvfio := ih hrest e he address heq
          rcases hdriver address with hkeep | hnone
          · rwa [hkeep] at hvfio
          · rw [hnone] at hvfio
            cases hvfio
      · exact (releaseOne_run hfirst).2

/-- Releasing changes only what vfio has and the mode does not pass through. -/
theorem release_changes {out : Outcome Error Unit}
    (h : Runs plat.machine A (release states passthrough) node out node' t)
    {e : Event Op Node} (he : e ∈ t) (hchanges : Changes e) :
    ∃ state ∈ states, e.op.device = some state.address ∧ ToRelease node passthrough state := by
  rcases h.events_of_uses release_uses e he with hop | ⟨state, hstate, hout, hop⟩
  · unfold Changes at hchanges
    rw [hop] at hchanges
    rcases hchanges with hkind | hkind | hkind | ⟨_, _, heq, _⟩
    · cases hkind
    · cases hkind
    · cases hkind
    · cases heq
  · exact ⟨state, hstate, by rw [hop]; rfl, hout, release_unbinds h e he _ hop⟩

theorem quiet_not_changes {e : Event Op Node} (h : e.op.kind.Quiet) : ¬Changes e := by
  have hkinds : e.op.kind ≠ .write ∧ e.op.kind ≠ .reset ∧ e.op.kind ≠ .unbind ∧
      e.op.kind ≠ .bind := by
    rcases h with h | h | h | h <;> rw [h] <;> decide
  intro hchanges
  rcases hchanges with hkind | hkind | hkind | ⟨_, _, heq, _⟩
  · exact hkinds.1 hkind
  · exact hkinds.2.1 hkind
  · exact hkinds.2.2.1 hkind
  · exact hkinds.2.2.2 (by rw [heq]; rfl)

theorem file_not_changes {e : Event Op Node} (h : e.op.kind = .file) : ¬Changes e := by
  intro hchanges
  rcases hchanges with hkind | hkind | hkind | ⟨_, _, heq, _⟩
  · cases h.symm.trans hkind
  · cases h.symm.trans hkind
  · cases h.symm.trans hkind
  · rw [heq] at h
    cases h

/-- Whatever fails, and wherever the process is killed, the stages after the
checks change only what they were going to change from the start. -/
theorem stages_changes {cleared : Cleared} {out : Outcome Error Unit}
    (hsub : ∀ state ∈ cleared.passthrough, inSet cleared.states state.address = true)
    (h : Runs plat.machine A (stages plat mode cleared) node out node' t)
    {e : Event Op Node} (he : e ∈ t) (hchanges : Changes e) :
    ∃ state ∈ cleared.states, e.op.device = some state.address ∧
      WillChange plat node mode cleared.passthrough cleared.drivers state := by
  have hmoding : ∀ {out : Outcome Error (List (String × Nvidia.Transition))} {s : Node}
      {t : List (Event Op Node)},
      Runs plat.machine A (Nvidia.apply plat cleared.states mode) node out s t → e ∈ t →
      ∃ state ∈ cleared.states, e.op.device = some state.address ∧
        WillChange plat node mode cleared.passthrough cleared.drivers state := by
    intro out s t hmode he
    have hkind : e.op.kind = .write ∨ e.op.kind = .reset := by
      rcases (mode_events hmode e he).1 with hk | hk | hk
      · exact absurd hchanges (quiet_not_changes (.inl hk))
      · exact .inl hk
      · exact .inr hk
    obtain ⟨state, hstate, hdevice, hplan⟩ := mode_changes hmode he hkind
    exact ⟨state, hstate, hdevice, .inl hplan⟩
  have hbinding : ∀ {out : Outcome Error Unit} {s s' : Node} {t : List (Event Op Node)},
      s.driver = node.driver →
      Runs plat.machine A (Program.forEach (bindOne cleared.drivers) cleared.passthrough) s out
        s' t → e ∈ t →
      ∃ state ∈ cleared.states, e.op.device = some state.address ∧
        WillChange plat node mode cleared.passthrough cleared.drivers state := by
    intro out s s' t hdriver hbind he
    obtain ⟨state, hstate, hdevice, hin, target, hget, hoff⟩ :=
      binds_changes hbind he hchanges
    obtain ⟨kept, hkept, haddress⟩ := inSet_iff.mp (hsub state hstate)
    rw [hdriver] at hoff
    refine ⟨kept, hkept, by rw [hdevice, haddress], .inr (.inl ⟨?_, target, ?_, ?_⟩)⟩
    · rw [haddress]
      exact hin
    · rw [haddress]
      exact hget
    · rw [haddress]
      exact hoff
  have hreleasing : ∀ {out : Outcome Error Unit} {s s' : Node} {t : List (Event Op Node)},
      (∀ address, inSet cleared.passthrough address = false →
        s.driver address = node.driver address) →
      Runs plat.machine A (release cleared.states cleared.passthrough) s out s' t → e ∈ t →
      ∃ state ∈ cleared.states, e.op.device = some state.address ∧
        WillChange plat node mode cleared.passthrough cleared.drivers state := by
    intro out s s' t hdriver hrelease he
    obtain ⟨state, hstate, hdevice, hout, hvfio⟩ := release_changes hrelease he hchanges
    rw [hdriver _ hout] at hvfio
    exact ⟨state, hstate, hdevice, .inr (.inr ⟨hout, hvfio⟩)⟩
  have hpersisting : ∀ {out : Outcome Error Unit} {s s' : Node} {t : List (Event Op Node)},
      Runs plat.machine A (persist plat cleared.passthrough cleared.drivers) s out s' t →
      e ∉ t :=
    fun hpersist he => file_not_changes ((persist_keeps hpersist).1 e he) hchanges
  cases stages_stageRun h with
  | changing hmode => exact hmoding hmode he
  | persisting hmode hpersist =>
      rcases List.mem_append.mp he with he | he
      · exact hmoding hmode he
      · exact absurd he (hpersisting hpersist)
  | binding hmode hpersist hbind =>
      have hdriver := (persist_keeps hpersist).2.2.trans (mode_keeps hmode).1
      rcases List.mem_append.mp he with he | he
      · exact hmoding hmode he
      rcases List.mem_append.mp he with he | he
      · exact absurd he (hpersisting hpersist)
      · exact hbinding hdriver hbind he
  | releasing hmode hpersist hbind hrelease =>
      have hdriver := (persist_keeps hpersist).2.2.trans (mode_keeps hmode).1
      rcases List.mem_append.mp he with he | he
      · exact hmoding hmode he
      rcases List.mem_append.mp he with he | he
      · exact absurd he (hpersisting hpersist)
      rcases List.mem_append.mp he with he | he
      · exact hbinding hdriver hbind he
      · exact hreleasing (fun address hout => by rw [binds_others hbind hout, hdriver])
          hrelease he
  | verifying hmode hpersist hbind hrelease hverify =>
      have hdriver := (persist_keeps hpersist).2.2.trans (mode_keeps hmode).1
      rcases List.mem_append.mp he with he | he
      · exact hmoding hmode he
      rcases List.mem_append.mp he with he | he
      · exact absurd he (hpersisting hpersist)
      rcases List.mem_append.mp he with he | he
      · exact hbinding hdriver hbind he
      rcases List.mem_append.mp he with he | he
      · exact hreleasing (fun address hout => by rw [binds_others hbind hout, hdriver])
          hrelease he
      · exact absurd hchanges (quiet_not_changes ((verify_keeps hverify).2 e he))

/-! ## What is on the list -/

theorem mem_writable {sysfs : Sysfs} {unread : List (String × String)} {state : DeviceState} :
    state ∈ writable sysfs states passthrough drivers mode unread ↔
      state ∈ states ∧
        if inSet passthrough state.address = true then
          ∀ target, drivers.get state.address = some target →
            sysfs.currentDriver state.address = some target.driver →
            (unread.lookup state.address).isSome = true ∨
              Nvidia.writesFor state.ccMode state.ppcieMode mode ≠ []
        else (sysfs.currentDriver state.address).any namesVfio = true := by
  unfold writable
  rw [List.mem_filter]
  refine and_congr_right fun _ => ?_
  by_cases hin : inSet passthrough state.address = true
  · simp only [hin, Bool.not_true, Bool.false_eq_true, if_false, if_true]
    cases hget : drivers.get state.address with
    | none => simp
    | some target =>
        by_cases hcurrent : sysfs.currentDriver state.address = some target.driver
        · simp [hcurrent]
        · simp [hcurrent]
  · simp [hin]

theorem mem_unreadable {entry : DeviceState × Option (String × String)} {reason : String}
    (hentry : entry ∈ probed) (h : entry.2 = some (entry.1.address, reason)) :
    ((unreadable probed).lookup entry.1.address).isSome = true := by
  have hmem : (entry.1.address, reason) ∈ unreadable probed := by
    rw [unreadable, List.reduceOption_mem_iff]
    exact List.mem_map.mpr ⟨entry, hentry, h⟩
  rw [Option.isSome_iff_ne_none]
  intro hnone
  have hne := List.lookup_eq_none_iff.mp hnone _ hmem
  simp at hne

/-- A probed state has the plan of the device it stands for. -/
theorem Probed.hasPlan_iff {state : DeviceState}
    {entry : DeviceState × Option (String × String)} (h : Probed plat node state entry) :
    HasPlan plat node mode entry.1 ↔ HasPlan plat node mode state := by
  have hreading : reading plat node entry.1 = reading plat node state := by
    unfold reading
    rw [h.same.2.2]
  rw [Main.hasPlan_iff, Main.hasPlan_iff, hreading]

/-- A plan for a device whose modes could be read is on the record. -/
theorem Probed.unread_or_planned {state : DeviceState}
    {entry : DeviceState × Option (String × String)} (h : Probed plat node state entry)
    (hplan : HasPlan plat node mode state) :
    (∃ reason, entry.2 = some (entry.1.address, reason)) ∨
      Nvidia.writesFor entry.1.ccMode entry.1.ppcieMode mode ≠ [] := by
  rcases h with rfl | ⟨reason, rfl⟩
  · exact .inr (Main.hasPlan_iff.mp hplan)
  · exact .inl ⟨reason, rfl⟩

/-! ## Coverage -/

/-- A switch the mode leaves on the host, on no vfio driver, with PPCIE on: it
is not in the passthrough set and not to be released, but the planner has a
write for it. -/
def Overlooked (node : Node) (mode : Mode) (state : DeviceState) : Prop :=
  mode ≠ .ppcie ∧ state.provisioning = some .nvidiaInBandPpcie ∧
    (node.driver state.address).any namesVfio = false ∧
    (node.board state.address).knob.ppcie = .on

/-- The planner has a write for a switch outside PPCIE mode exactly when PPCIE is
on at it. -/
theorem hasPlan_outside {state : DeviceState} (hmode : mode ≠ .ppcie)
    (hswitch : state.provisioning = some .nvidiaInBandPpcie) :
    HasPlan plat node mode state ↔ (node.board state.address).knob.ppcie = .on := by
  have hof : Handle.of state = some (.switch state.address) := by
    unfold Handle.of
    rw [hswitch]
  have htarget : mode.ppcieTarget = .off := by
    cases mode with
    | ppcie => exact absurd rfl hmode
    | off | on | devTools => rfl
  rw [hasPlan_iff, reading, hof]
  show Nvidia.writesFor none (some (node.board state.address).knob.ppcie) mode ≠ [] ↔ _
  unfold Nvidia.writesFor
  rw [htarget]
  cases (node.board state.address).knob.ppcie <;> simp

/-- The devices the stages after the checks are going to change are on the
list, and so what they do change, whatever fails, has been found idle. -/
structure Covered (plat : Platform) (node : Node) (mode : Mode)
    (passthrough : List DeviceState) (drivers : Drivers)
    (probed : List (DeviceState × Option (String × String))) : Prop where
  listed : ∀ state ∈ probed.map (·.1), WillChange plat node mode passthrough drivers state →
    state ∈ writable (plat.sysfs node) (probed.map (·.1)) passthrough drivers mode
      (unreadable probed)
  checked : ∀ (A : Adversary) (out : Outcome Error Unit) (node' : Node)
    (t : List (Event Op Node)),
    Runs plat.machine A (stages plat mode ⟨probed.map (·.1), passthrough, drivers⟩) node out
      node' t →
    ∀ e ∈ t, Changes e →
      ∃ state ∈ writable (plat.sysfs node) (probed.map (·.1)) passthrough drivers mode
        (unreadable probed), e.op.device = some state.address

/-- A board on which no switch is overlooked is covered. -/
theorem covered_of_none (hnodup : (found.map (·.address)).Nodup)
    (hprobed : List.Forall₂ (Probed plat node) found probed)
    (hnone : ∀ state ∈ found, ¬Overlooked node mode state) :
    Covered plat node mode (passthroughSet found mode) drivers probed := by
  have hlisted : ∀ state ∈ probed.map (·.1),
      WillChange plat node mode (passthroughSet found mode) drivers state →
      state ∈ writable (plat.sysfs node) (probed.map (·.1)) (passthroughSet found mode)
        drivers mode (unreadable probed) := by
    intro state' hstate' hchange
    obtain ⟨entry, hentry, rfl⟩ := List.mem_map.mp hstate'
    obtain ⟨state, hstate, hprobe⟩ := forall₂_of_mem_right hprobed hentry
    refine mem_writable.mpr ⟨hstate', ?_⟩
    by_cases hin : inSet (passthroughSet found mode) entry.1.address = true
    · rw [if_pos hin]
      intro target hget hcurrent
      rcases hchange with hplan | ⟨_, target', hget', hoff⟩ | ⟨hout, _⟩
      · rcases hprobe.unread_or_planned (hprobe.hasPlan_iff.mp hplan) with
          ⟨reason, hunread⟩ | hwrites
        · exact .inl (mem_unreadable hentry hunread)
        · exact .inr hwrites
      · rw [hget] at hget'
        obtain rfl := Option.some.inj hget'
        exact absurd hcurrent hoff
      · rw [hin] at hout
        cases hout
    · rw [if_neg hin]
      rcases hchange with hplan | ⟨hin', _⟩ | ⟨_, hvfio⟩
      · rw [hprobe.same.1, inSet_passthrough hnodup hstate] at hin
        obtain ⟨hmode, hswitch⟩ := (not_mem_passthrough hstate).mp hin
        have hknob := (hasPlan_outside hmode hswitch).mp (hprobe.hasPlan_iff.mp hplan)
        by_contra hvfio
        refine hnone state hstate ⟨hmode, hswitch, ?_, hknob⟩
        rw [← hprobe.same.1]
        exact Bool.eq_false_iff.mpr hvfio
      · exact absurd hin' hin
      · exact hvfio
  refine ⟨hlisted, fun A out node' t h e he hchanges => ?_⟩
  obtain ⟨state, hstate, hdevice, hchange⟩ :=
    stages_changes (fun _ => passthrough_inSet hprobed) h he hchanges
  exact ⟨state, hlisted state hstate hchange, hdevice⟩

/-- The list covers what is changed if and only if no switch is overlooked. -/
theorem coverage_iff (hnodup : (found.map (·.address)).Nodup)
    (hprobed : List.Forall₂ (Probed plat node) found probed) :
    Covered plat node mode (passthroughSet found mode) drivers probed ↔
      ∀ state ∈ found, ¬Overlooked node mode state := by
  constructor
  · intro hcovered state hstate ⟨hmode, hswitch, hdriver, hknob⟩
    obtain ⟨entry, hentry, hprobe⟩ := forall₂_of_mem_left hprobed hstate
    have hplan : HasPlan plat node mode entry.1 :=
      hprobe.hasPlan_iff.mpr ((hasPlan_outside hmode hswitch).mpr hknob)
    have hlisted := hcovered.listed entry.1 (List.mem_map_of_mem hentry) (.inl hplan)
    have hout : ¬inSet (passthroughSet found mode) state.address = true := by
      rw [inSet_passthrough hnodup hstate]
      exact (not_mem_passthrough hstate).mpr ⟨hmode, hswitch⟩
    obtain ⟨_, hwhy⟩ := mem_writable.mp hlisted
    rw [hprobe.same.1, if_neg hout] at hwhy
    exact Bool.false_ne_true (hdriver.symm.trans hwhy)
  · exact covered_of_none hnodup hprobed

/-- In every run on a node where no switch is overlooked, whatever is changed
was found idle before the first change. -/
theorem apply_idle {out : Outcome Error Unit}
    (hnone : ∀ found, inScope plat.pci (plat.sysfs node) = .ok found →
      ∀ state ∈ found, ¬Overlooked node mode state)
    (h : Runs plat.machine A (apply plat mode) node out node' t) :
    ∀ e ∈ t, Changes e → ∃ state, e.op.device = some state.address ∧
      Idle.holders plat.proc plat.devVfio (plat.sysfs node) state = [] := by
  rw [apply_eq] at h
  obtain ⟨cleared, s₁, t₁, t₂, hchecks, hstages, rfl⟩ | ⟨why, _, hchecks⟩ := runs_bind_iff.mp h
  · obtain ⟨rfl, hquiet⟩ := preflight_quiet hchecks
    intro e he hchanges
    rcases List.mem_append.mp he with he | he
    · exact absurd hchanges (quiet_not_changes (hquiet e he).1)
    · obtain ⟨found, probed, hgates⟩ := preflight_done hchecks
      obtain ⟨states, passthrough, drivers⟩ := cleared
      obtain rfl : states = probed.map (·.1) := hgates.states
      obtain rfl : passthrough = passthroughSet found mode := hgates.passthrough
      have hcovered : Covered plat s₁ mode (passthroughSet found mode) drivers probed :=
        covered_of_none (scope_nodup hgates.scope) hgates.probes (hnone found hgates.scope)
      obtain ⟨state, hlisted, hdevice⟩ := hcovered.checked A out node' t₂ hstages e he hchanges
      exact ⟨state, hdevice, verifyIdle_ok.mp hgates.idle state hlisted⟩
  · intro e he hchanges
    exact absurd hchanges (quiet_not_changes ((preflight_quiet hchecks).2 e he).1)

/-- A baseboard that is settled in CC off, its GPU bound and its switch on no
driver, with PPCIE on at the switch. -/
private def stranded : Node :=
  Bench.node
    (fun address => Bench.settled .off (if address = "0000:06:00.0" then .on else .off))
    (fun address => if address = "0000:65:00.0" then some "vfio-pci" else none)

private def strandedDrivers : Drivers := [("0000:65:00.0", ⟨"vfio_pci", "vfio-pci"⟩)]

/-- In PPCIE mode the same baseboard is covered: its switch is bound. -/
theorem coverage_iff_ppcie :
    Covered (Bench.platform Bench.baseboard) stranded .ppcie
      (passthroughSet (Bench.states Bench.baseboard) .ppcie) strandedDrivers
      (readAll (Bench.platform Bench.baseboard) stranded (Bench.states Bench.baseboard)) :=
  (coverage_iff (by decide) (probes_readAll _ _ _)).mpr fun _ _ h => h.1 rfl

/-- Taking the baseboard to CC off resets a switch that was not on the list. -/
theorem switch_overlooked :
    ¬Covered (Bench.platform Bench.baseboard) stranded .off
      (passthroughSet (Bench.states Bench.baseboard) .off) strandedDrivers
      (readAll (Bench.platform Bench.baseboard) stranded (Bench.states Bench.baseboard)) ∧
    Op.reset (.switch "0000:06:00.0") ∈
      (exec (Bench.platform Bench.baseboard).machine
        (apply (Bench.platform Bench.baseboard) .off) [] stranded).events.map (·.op) := by
  refine ⟨fun hcovered => ?_, by decide +kernel⟩
  have hswitch : discovered Bench.pci (Bench.nvswitch "0000:06:00.0") ∈
      Bench.states Bench.baseboard := by decide
  have hplan : HasPlan (Bench.platform Bench.baseboard) stranded .off
      (discovered Bench.pci (Bench.nvswitch "0000:06:00.0")) :=
    (hasPlan_outside (by decide) (by decide)).mpr (by decide)
  obtain ⟨entry, hentry, hprobe⟩ := forall₂_of_mem_left (probes_readAll
    (Bench.platform Bench.baseboard) stranded (Bench.states Bench.baseboard)) hswitch
  obtain ⟨_, hwhy⟩ := mem_writable.mp (hcovered.listed entry.1 (List.mem_map_of_mem hentry)
    (.inl (hprobe.hasPlan_iff.mpr hplan)))
  rw [hprobe.same.1, if_neg (by decide)] at hwhy
  exact absurd hwhy (by decide)

end KataDeviceProvisioner.Ports.Main
