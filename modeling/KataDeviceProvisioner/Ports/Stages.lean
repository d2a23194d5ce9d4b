import KataDeviceProvisioner.Ports.BootFiles
import KataDeviceProvisioner.Ports.NvidiaDiscipline
import KataDeviceProvisioner.Ports.Preflight

/-!
# The stages of a provisioning run

What each stage after the checks issues and leaves behind, and the runs of
`Main.apply` by the stage they ended in (`StageRun`).
-/

namespace KataDeviceProvisioner.Ports.Main

open KataDeviceProvisioner.Verified

variable {plat : Platform} {A : Adversary} {node node' : Node} {t : List (Event Op Node)}
  {mode : Mode} {drivers : Drivers} {passthrough states : List DeviceState}

/-! ## Binding -/

/-- An operation that binds a device of `passthrough` to the driver found for
it. -/
def Binds (drivers : Drivers) (passthrough : List DeviceState) (op : Op) : Prop :=
  ∃ state ∈ passthrough, ∃ driver, drivers.get state.address = some driver ∧
    op = .bind state.address driver.driver

theorem bindOne_uses {state : DeviceState} (hstate : state ∈ passthrough) :
    (bindOne drivers state).Uses (Binds drivers passthrough) := by
  unfold bindOne Drivers.index
  cases hget : drivers.get state.address with
  | none => trivial
  | some driver =>
      have hbind : (issue (.bind state.address driver.driver)).Uses
          (Binds drivers passthrough) :=
        uses_perform ⟨state, hstate, driver, hget, rfl⟩
      have hrest : (issue (.bind state.address driver.driver) >>= fun _ => pure ()).Uses
          (Binds drivers passthrough) :=
        uses_bind hbind fun _ => trivial
      exact hrest

theorem binds_uses :
    (Program.forEach (bindOne drivers) passthrough).Uses (Binds drivers passthrough) :=
  uses_forEach fun _ hstate => bindOne_uses hstate

theorem Binds.kind {op : Op} (h : Binds drivers passthrough op) : op.kind = .bind := by
  obtain ⟨_, _, _, _, rfl⟩ := h
  rfl

/-- A bind leaves its device on the driver, or as it was. -/
theorem responds_bind {s s' : Node} {address driver : String}
    {r : Except Error (Op.bind address driver).Res}
    (h : Responds plat.machine A s (.bind address driver) r s') :
    s' = s ∨ (s.driver address = none ∧ s' = Platform.setDriver s address (some driver)) := by
  obtain h | h | ⟨_, _, hfile, _⟩ := responds_state h
  · exact .inl h
  · rw [h]
    simp only [Machine.effect, Platform.machine, Platform.answer]
    cases hdriver : s.driver address with
    | none => exact .inr ⟨rfl, rfl⟩
    | some current =>
        refine .inl ?_
        dsimp only
        split <;> rfl
  · cases hfile

/-- A device that is on the driver found for it stays there while the
passthrough set is bound. -/
theorem binds_keep {out : Outcome Error Unit} {address driver : String}
    (h : Runs plat.machine A (Program.forEach (bindOne drivers) passthrough) node out node' t)
    (hbound : node.driver address = some driver) :
    node'.driver address = some driver ∧ ∀ e ∈ t, e.before.driver address = some driver := by
  refine h.invariant (I := fun s => s.driver address = some driver) binds_uses ?_ hbound
  intro op s r s' hop hs hresp
  obtain ⟨state, _, target, _, rfl⟩ := hop
  rcases responds_bind hresp with rfl | ⟨hnone, rfl⟩
  · exact hs
  · by_cases ha : address = state.address
    · rw [ha, hnone] at hs
      cases hs
    · simpa [Platform.setDriver, Function.update_of_ne ha] using hs

/-- Binding that completes leaves the whole passthrough set on its drivers. -/
theorem binds_done
    (h : Runs plat.machine A (Program.forEach (bindOne drivers) passthrough) node
      (.done ()) node' t) :
    ∀ state ∈ passthrough, ∃ driver, drivers.get state.address = some driver ∧
      node'.driver state.address = some driver.driver := by
  induction passthrough generalizing node t with
  | nil => simp
  | cons first rest ih =>
      obtain ⟨_, s₁, t₁, t₂, hfirst, hrest, _⟩ := runs_bind_done.mp h
      obtain ⟨driver, s₂, t₃, t₄, hindex, hbind, _⟩ := runs_bind_done.mp hfirst
      obtain ⟨hget, rfl⟩ := index_done hindex
      obtain ⟨bound, s₃, t₅, t₆, hissue, hret, _⟩ := runs_bind_done.mp hbind
      obtain ⟨_, rfl, _⟩ := runs_pure_iff.mp hret
      obtain ⟨hanswer, _⟩ := runs_perform_done.mp hissue
      have hbound : s₁.driver first.address = some driver.driver := by
        simp only [Platform.machine, Platform.answer] at hanswer
        cases hdriver : s₂.driver first.address with
        | none =>
            rw [hdriver] at hanswer
            rw [← (Prod.mk.inj hanswer).2]
            simp [Platform.setDriver]
        | some current =>
            rw [hdriver] at hanswer
            dsimp only at hanswer
            by_cases hcurrent : current = driver.driver
            · rw [if_pos hcurrent] at hanswer
              rw [← (Prod.mk.inj hanswer).2, hdriver, hcurrent]
            · rw [if_neg hcurrent] at hanswer
              cases hanswer
      intro state hstate
      rcases List.mem_cons.mp hstate with rfl | hstate
      · exact ⟨driver, hget, (binds_keep hrest hbound).1⟩
      · exact ih hrest state hstate

/-! ## Releasing -/

/-- Looking at sysfs, or unbinding a device that is not in the passthrough
set. -/
def Releases (passthrough states : List DeviceState) (op : Op) : Prop :=
  op = .readSysfs ∨
    ∃ state ∈ states, inSet passthrough state.address = false ∧ op = .unbind state.address

theorem releaseOne_uses {state : DeviceState} (hstate : state ∈ states) :
    (releaseOne passthrough state).Uses (Releases passthrough states) := by
  unfold releaseOne
  by_cases hin : inSet passthrough state.address = true
  · rw [if_pos hin]
    trivial
  · rw [if_neg hin]
    refine uses_bind (uses_perform (.inl rfl)) fun sysfs => ?_
    split
    · trivial
    · exact uses_mapError (uses_perform
        (.inr ⟨state, hstate, by simpa using hin, rfl⟩))

theorem release_uses :
    (release states passthrough).Uses (Releases passthrough states) :=
  uses_forEach fun _ hstate => releaseOne_uses hstate

/-- What releasing leaves a device outside the passthrough set on. -/
def released (driver : Option String) : Option String :=
  if driver.any namesVfio then none else driver

@[simp] theorem released_released (driver : Option String) :
    released (released driver) = released driver := by
  unfold released
  split <;> simp_all

theorem released_not_vfio (driver : Option String) :
    (released driver).any namesVfio = false := by
  unfold released
  by_cases h : driver.any namesVfio = true
  · rw [if_pos h]
    rfl
  · rw [if_neg h]
    simpa using h

theorem releaseOne_done {state : DeviceState}
    (h : Runs plat.machine A (releaseOne passthrough state) node (.done ()) node' t) :
    node'.driver = if inSet passthrough state.address then node.driver
      else Function.update node.driver state.address
        (released (node.driver state.address)) := by
  unfold releaseOne at h
  by_cases hin : inSet passthrough state.address = true
  · rw [if_pos hin] at h
    rw [if_pos hin, (runs_pure_iff.mp h).2.1]
  · rw [if_neg hin] at h
    rw [if_neg hin]
    obtain ⟨sysfs, s₁, t₁, t₂, hlook, hrest, _⟩ := runs_bind_done.mp h
    obtain ⟨rfl, rfl⟩ := runs_readSysfs hlook
    dsimp only [Platform.sysfs] at hrest
    unfold released
    cases hdriver : s₁.driver state.address with
    | none =>
        rw [hdriver] at hrest
        rw [(runs_pure_iff.mp hrest).2.1]
        simp [← hdriver]
    | some driver =>
        rw [hdriver] at hrest
        by_cases hvfio : namesVfio driver = true
        · rw [Option.filter_some_pos hvfio] at hrest
          obtain ⟨hanswer, _⟩ := runs_perform_done.mp (runs_mapError_done.mp hrest)
          rw [← (Prod.mk.inj hanswer).2]
          simp [Platform.setDriver, hvfio]
        · rw [Option.filter_some_neg (by simpa using hvfio)] at hrest
          rw [(runs_pure_iff.mp hrest).2.1, Option.any_some, if_neg hvfio, ← hdriver,
            Function.update_eq_self]

/-- Releasing that completes takes every device outside the passthrough set off
vfio, and leaves all other bindings alone. -/
theorem release_done
    (h : Runs plat.machine A (release states passthrough) node (.done ()) node' t)
    (address : String) :
    node'.driver address =
      if inSet states address ∧ inSet passthrough address = false then
        released (node.driver address)
      else node.driver address := by
  unfold release at h
  induction states generalizing node t with
  | nil =>
      rw [(runs_pure_iff.mp h).2.1]
      simp [inSet]
  | cons first rest ih =>
      obtain ⟨_, s₁, t₁, t₂, hfirst, hrest, _⟩ := runs_bind_done.mp h
      have hdriver := releaseOne_done hfirst
      rw [ih hrest, hdriver]
      have hmem : inSet (first :: rest) address =
          (first.address == address || inSet rest address) := rfl
      rw [hmem]
      by_cases ha : address = first.address
      · subst ha
        by_cases hin : inSet passthrough first.address = true
        · simp [hin]
        · simp [hin]
      · have hne : (first.address == address) = false := by simpa using Ne.symm ha
        rw [hne, Bool.false_or]
        by_cases hin : inSet passthrough first.address = true
        · simp [hin]
        · simp [hin, Function.update_of_ne ha]

/-! ## Verifying -/

theorem verifyMode_uses (state : DeviceState) :
    (Nvidia.verifyMode plat state mode).Uses (Nvidia.ProbesAt state.address) := by
  unfold Nvidia.verifyMode Handle.open
  split
  · split
    · refine ⟨⟨rfl, rfl⟩, fun r => ?_⟩
      cases r with
      | error e => trivial
      | ok a => exact Nvidia.verify_uses (.gpu state.address) state
    · trivial
  · refine ⟨⟨rfl, rfl⟩, fun r => ?_⟩
    cases r with
    | error e => trivial
    | ok a => exact Nvidia.verify_uses (.switch state.address) state
  · trivial

/-- Verifying a device of the passthrough set only looks at that device. -/
theorem verifyOne_uses (state : DeviceState) :
    (verifyOne plat mode drivers state).Uses fun op =>
      op.kind.Quiet ∧ op.device = some state.address := by
  refine uses_bind (index_uses drivers state.address _) fun driver => ?_
  refine uses_bind (uses_perform ⟨.inr (.inr (.inr rfl)), rfl⟩) fun _ => ?_
  exact (verifyMode_uses state).mono fun op hop => ⟨hop.quiet, hop.2⟩

theorem verify_uses (passthrough : List DeviceState) :
    (verify plat mode passthrough drivers).Uses fun op => op.kind.Quiet := by
  refine uses_forEach fun state _ => ?_
  exact (verifyOne_uses state).mono fun op hop => hop.1

/-- The last stage reports what is true: it goes through only if every device of
the passthrough set is on the driver found for it. -/
theorem verify_done
    (h : Runs plat.machine A (verify plat mode passthrough drivers) node (.done ()) node' t) :
    ∀ state ∈ passthrough, ∃ driver, drivers.get state.address = some driver ∧
      node.driver state.address = some driver.driver := by
  refine (runs_forEach_done (I := fun s => s = node) (Q := fun state =>
      ∃ driver, drivers.get state.address = some driver ∧
        node.driver state.address = some driver.driver)
    (fun state _ s s' t hs hr => ?_) rfl h).2
  subst hs
  obtain ⟨hquiet, _⟩ := Nvidia.node_eq_of_quiet hr (verifyOne_uses state) fun _ hop => hop.1
  refine ⟨hquiet, ?_⟩
  obtain ⟨driver, s₁, t₁, t₂, hindex, hrest, _⟩ := runs_bind_done.mp hr
  obtain ⟨hget, rfl⟩ := index_done hindex
  obtain ⟨_, s₂, t₃, t₄, hbound, _, _⟩ := runs_bind_done.mp hrest
  obtain ⟨hanswer, _⟩ := runs_perform_done.mp hbound
  refine ⟨driver, hget, ?_⟩
  simp only [Platform.machine, Platform.answer] at hanswer
  by_contra hnot
  rw [if_neg hnot] at hanswer
  cases hanswer

/-! ## The run -/

/-- `apply`, from the first change on. -/
def stages (plat : Platform) (mode : Mode) (cleared : Cleared) : Provision Unit := do
  modeStage plat cleared.states mode
  persist plat cleared.passthrough cleared.drivers
  Program.forEach (bindOne cleared.drivers) cleared.passthrough
  release cleared.states cleared.passthrough
  verify plat mode cleared.passthrough cleared.drivers

theorem apply_eq (plat : Platform) (mode : Mode) :
    apply plat mode = preflight plat mode >>= stages plat mode := rfl

/-- The runs from the first change on, by the stage they ended in. -/
inductive StageRun (plat : Platform) (A : Adversary) (mode : Mode) (cleared : Cleared)
    (node : Node) : Outcome Error Unit → Node → List (Event Op Node) → Prop where
  | changing {why : Stop Error} {s₁ : Node} {t₁ : List (Event Op Node)}
      (hmode : Runs plat.machine A (Nvidia.apply plat cleared.states mode) node
        (.stopped why) s₁ t₁) :
      StageRun plat A mode cleared node (.stopped why) s₁ t₁
  | persisting {why : Stop Error} {outcomes : List (String × Nvidia.Transition)}
      {s₁ s₂ : Node} {t₁ t₂ : List (Event Op Node)}
      (hmode : Runs plat.machine A (Nvidia.apply plat cleared.states mode) node
        (.done outcomes) s₁ t₁)
      (hpersist : Runs plat.machine A (persist plat cleared.passthrough cleared.drivers) s₁
        (.stopped why) s₂ t₂) :
      StageRun plat A mode cleared node (.stopped why) s₂ (t₁ ++ t₂)
  | binding {why : Stop Error} {outcomes : List (String × Nvidia.Transition)}
      {s₁ s₂ s₃ : Node} {t₁ t₂ t₃ : List (Event Op Node)}
      (hmode : Runs plat.machine A (Nvidia.apply plat cleared.states mode) node
        (.done outcomes) s₁ t₁)
      (hpersist : Runs plat.machine A (persist plat cleared.passthrough cleared.drivers) s₁
        (.done ()) s₂ t₂)
      (hbind : Runs plat.machine A (Program.forEach (bindOne cleared.drivers)
        cleared.passthrough) s₂ (.stopped why) s₃ t₃) :
      StageRun plat A mode cleared node (.stopped why) s₃ (t₁ ++ (t₂ ++ t₃))
  | releasing {why : Stop Error} {outcomes : List (String × Nvidia.Transition)}
      {s₁ s₂ s₃ s₄ : Node} {t₁ t₂ t₃ t₄ : List (Event Op Node)}
      (hmode : Runs plat.machine A (Nvidia.apply plat cleared.states mode) node
        (.done outcomes) s₁ t₁)
      (hpersist : Runs plat.machine A (persist plat cleared.passthrough cleared.drivers) s₁
        (.done ()) s₂ t₂)
      (hbind : Runs plat.machine A (Program.forEach (bindOne cleared.drivers)
        cleared.passthrough) s₂ (.done ()) s₃ t₃)
      (hrelease : Runs plat.machine A (release cleared.states cleared.passthrough) s₃
        (.stopped why) s₄ t₄) :
      StageRun plat A mode cleared node (.stopped why) s₄ (t₁ ++ (t₂ ++ (t₃ ++ t₄)))
  | verifying {out : Outcome Error Unit} {outcomes : List (String × Nvidia.Transition)}
      {s₁ s₂ s₃ s₄ : Node} {t₁ t₂ t₃ t₄ t₅ : List (Event Op Node)}
      (hmode : Runs plat.machine A (Nvidia.apply plat cleared.states mode) node
        (.done outcomes) s₁ t₁)
      (hpersist : Runs plat.machine A (persist plat cleared.passthrough cleared.drivers) s₁
        (.done ()) s₂ t₂)
      (hbind : Runs plat.machine A (Program.forEach (bindOne cleared.drivers)
        cleared.passthrough) s₂ (.done ()) s₃ t₃)
      (hrelease : Runs plat.machine A (release cleared.states cleared.passthrough) s₃
        (.done ()) s₄ t₄)
      (hverify : Runs plat.machine A (verify plat mode cleared.passthrough cleared.drivers) s₄
        out s₄ t₅) :
      StageRun plat A mode cleared node out s₄ (t₁ ++ (t₂ ++ (t₃ ++ (t₄ ++ t₅))))

/-- The mode stage is a mode change whose outcome list is dropped. -/
theorem modeStage_iff {out : Outcome Error Unit} :
    Runs plat.machine A (modeStage plat states mode) node out node' t ↔
      ∃ out₀, Runs plat.machine A (Nvidia.apply plat states mode) node out₀ node' t ∧
        out = out₀.forget := by
  unfold modeStage
  rw [runs_bind_iff]
  constructor
  · rintro (⟨outcomes, s₁, t₁, t₂, hmode, hret, rfl⟩ | ⟨why, rfl, hmode⟩)
    · obtain ⟨rfl, rfl, rfl⟩ := runs_pure_iff.mp hret
      rw [List.append_nil]
      exact ⟨_, hmode, rfl⟩
    · exact ⟨_, hmode, rfl⟩
  · rintro ⟨out₀, hmode, rfl⟩
    cases out₀ with
    | done outcomes =>
        exact .inl ⟨outcomes, node', t, [], hmode, .pure _ _, (List.append_nil t).symm⟩
    | stopped why => exact .inr ⟨why, rfl, hmode⟩

/-- Every run ends in one of its stages. -/
theorem stages_stageRun {cleared : Cleared} {out : Outcome Error Unit}
    (h : Runs plat.machine A (stages plat mode cleared) node out node' t) :
    StageRun plat A mode cleared node out node' t := by
  obtain ⟨_, s₁, t₁, u₁, hstage, hrest₁, rfl⟩ | ⟨why, rfl, hstage⟩ := runs_bind_iff.mp h
  · obtain ⟨out₀, hmode, hout⟩ := modeStage_iff.mp hstage
    cases out₀ with
    | stopped why => cases hout
    | done outcomes =>
        obtain ⟨_, s₂, t₂, u₂, hpersist, hrest₂, rfl⟩ | ⟨why, rfl, hpersist⟩ :=
          runs_bind_iff.mp hrest₁
        · obtain ⟨_, s₃, t₃, u₃, hbind, hrest₃, rfl⟩ | ⟨why, rfl, hbind⟩ :=
            runs_bind_iff.mp hrest₂
          · obtain ⟨_, s₄, t₄, u₄, hrelease, hverify, rfl⟩ | ⟨why, rfl, hrelease⟩ :=
              runs_bind_iff.mp hrest₃
            · obtain ⟨rfl, _⟩ := Nvidia.node_eq_of_quiet hverify (verify_uses _)
                fun _ hop => hop
              exact .verifying hmode hpersist hbind hrelease hverify
            · exact .releasing hmode hpersist hbind hrelease
          · exact .binding hmode hpersist hbind
        · exact .persisting hmode hpersist
  · obtain ⟨out₀, hmode, hout⟩ := modeStage_iff.mp hstage
    cases out₀ with
    | done outcomes => cases hout
    | stopped why' =>
        obtain rfl := Outcome.stopped.inj hout
        exact .changing hmode

/-! ## What a stage leaves alone -/

/-- A mode change only touches devices of the board that can be opened. -/
theorem mode_events {out : Outcome Error (List (String × Nvidia.Transition))}
    (h : Runs plat.machine A (Nvidia.apply plat states mode) node out node' t) :
    ∀ e ∈ t, (e.op.kind = .probe ∨ e.op.kind = .write ∨ e.op.kind = .reset) ∧
      ∃ state handle, Nvidia.Openable states state handle ∧
        e.op.device = some state.address := by
  obtain ⟨t₀, t₁, t₂, t₃, htrace, hphased⟩ := (Nvidia.apply_boardRun h).phased
  have hprobe : ∀ e : Event Op Node, Nvidia.ProbesBoard states e.op →
      (e.op.kind = .probe ∨ e.op.kind = .write ∨ e.op.kind = .reset) ∧
        ∃ state handle, Nvidia.Openable states state handle ∧
          e.op.device = some state.address := by
    intro e he
    obtain ⟨state, handle, hopen, hkind, hdevice⟩ := he
    exact ⟨.inl hkind, state, handle, hopen, hdevice⟩
  intro e he
  rw [htrace] at he
  rcases List.mem_append.mp he with he | he
  · exact hprobe e (hphased.probing e he)
  rcases List.mem_append.mp he with he | he
  · obtain ⟨hkind, hdevice⟩ := hphased.write_op e he
    exact ⟨.inr (.inl hkind), hdevice⟩
  rcases List.mem_append.mp he with he | he
  · obtain ⟨hkind, hdevice⟩ := hphased.reset_op e he
    exact ⟨.inr (.inr hkind), hdevice⟩
  · exact hprobe e (hphased.verifying e he)

/-- A mode change leaves bindings and files alone. -/
theorem mode_keeps {out : Outcome Error (List (String × Nvidia.Transition))}
    (h : Runs plat.machine A (Nvidia.apply plat states mode) node out node' t) :
    node'.driver = node.driver ∧ node'.files = node.files := by
  have hkind : ∀ e ∈ t, e.op.kind = .probe ∨ e.op.kind = .write ∨ e.op.kind = .reset :=
    fun e he => (mode_events h e he).1
  constructor
  · refine (runs_driver h fun e he => ?_).1
    rcases hkind e he with hk | hk | hk <;> rw [hk] <;> exact ⟨by decide, by decide⟩
  · refine (runs_files h fun e he => ?_).1
    rcases hkind e he with hk | hk | hk <;> rw [hk] <;> decide

/-- Writing the boot configuration leaves firmware and bindings alone. -/
theorem persist_keeps {out : Outcome Error Unit}
    (h : Runs plat.machine A (persist plat passthrough drivers) node out node' t) :
    (∀ e ∈ t, e.op.kind = .file) ∧ node'.board = node.board ∧ node'.driver = node.driver := by
  have hkind := h.events_of_uses (persist_uses passthrough drivers)
  refine ⟨hkind, (runs_board h fun e he => ?_).1, (runs_driver h fun e he => ?_).1⟩
  · rw [hkind e he]
    exact ⟨by decide, by decide⟩
  · rw [hkind e he]
    exact ⟨by decide, by decide⟩

/-- Binding leaves firmware and files alone. -/
theorem binds_keeps {out : Outcome Error Unit}
    (h : Runs plat.machine A (Program.forEach (bindOne drivers) passthrough) node out node' t) :
    node'.board = node.board ∧ node'.files = node.files ∧
      ∀ e ∈ t, e.before.files = node.files := by
  have hkind : ∀ e ∈ t, e.op.kind = .bind :=
    fun e he => (h.events_of_uses binds_uses e he).kind
  have hboard := runs_board h fun e he => by
    rw [hkind e he]
    exact ⟨by decide, by decide⟩
  have hfiles := runs_files h fun e he => by
    rw [hkind e he]
    decide
  exact ⟨hboard.1, hfiles.1, hfiles.2⟩

/-- Binding leaves the devices outside the passthrough set alone. -/
theorem binds_others {out : Outcome Error Unit} {address : String}
    (h : Runs plat.machine A (Program.forEach (bindOne drivers) passthrough) node out node' t)
    (hout : inSet passthrough address = false) :
    node'.driver address = node.driver address := by
  refine (h.invariant (I := fun s => s.driver address = node.driver address) binds_uses
    (fun op s r s' hop hs hresp => ?_) rfl).1
  obtain ⟨state, hstate, driver, _, rfl⟩ := hop
  rw [← hs]
  refine responds_driver address (.inl ?_) hresp
  intro heq
  obtain rfl := Option.some.inj heq
  have hin : inSet passthrough state.address = true :=
    List.any_eq_true.mpr ⟨state, hstate, by simp⟩
  rw [hout] at hin
  cases hin

theorem Releases.kind {op : Op} (h : Releases passthrough states op) :
    op.kind = .look ∨ op.kind = .unbind := by
  rcases h with rfl | ⟨_, _, _, rfl⟩
  · exact .inl rfl
  · exact .inr rfl

/-- Releasing leaves firmware, files and the passthrough set alone. -/
theorem release_keeps {out : Outcome Error Unit}
    (h : Runs plat.machine A (release states passthrough) node out node' t) :
    node'.board = node.board ∧ node'.files = node.files ∧
      (∀ address, inSet passthrough address = true →
        node'.driver address = node.driver address ∧
          ∀ e ∈ t, e.before.driver address = node.driver address) := by
  have hops : ∀ e ∈ t, Releases passthrough states e.op := h.events_of_uses release_uses
  have hboard := runs_board h fun e he => by
    rcases (hops e he).kind with hk | hk <;> rw [hk] <;> exact ⟨by decide, by decide⟩
  have hfiles := runs_files h fun e he => by
    rcases (hops e he).kind with hk | hk <;> rw [hk] <;> decide
  refine ⟨hboard.1, hfiles.1, fun address hin => ?_⟩
  refine h.keeps (I := fun s => s.driver address = node.driver address)
    (fun e he s r s' hs hresp => ?_) rfl
  rw [← hs]
  refine responds_driver address ?_ hresp
  rcases hops e he with hop | ⟨state, _, hout, hop⟩
  · rw [hop]
    exact .inr ⟨by decide, by decide⟩
  · refine .inl ?_
    rw [hop]
    intro heq
    obtain rfl := Option.some.inj heq
    rw [hin] at hout
    cases hout

theorem verify_keeps {out : Outcome Error Unit}
    (h : Runs plat.machine A (verify plat mode passthrough drivers) node out node' t) :
    node' = node ∧ ∀ e ∈ t, e.op.kind.Quiet :=
  ⟨(Nvidia.node_eq_of_quiet h (verify_uses _) fun _ hop => hop).1,
    h.events_of_uses (verify_uses passthrough)⟩

end KataDeviceProvisioner.Ports.Main
