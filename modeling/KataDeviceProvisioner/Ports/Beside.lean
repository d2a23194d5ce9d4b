import KataDeviceProvisioner.Ports.InPlace

/-!
# A mode change beside others

A board that is read while others write to it need not be read as it is at any
one time, so the plans made of such a reading are not the plans for any node.
They work all the same: a knob found where the mode wants it stays there, and a
knob found elsewhere has a write planned for it that no other run for the mode
undoes (`mode_cooperates`).

`Cooperates` is what is said of each part of a run: beside others that do not
undo what is done for the mode it undoes nothing either, and, provided the run
is `Calm`, it does not give up.
-/

namespace KataDeviceProvisioner.Ports

open KataDeviceProvisioner.Verified
open Main (VfioRegisters InPlace Advances)

variable {plat : Platform} {A : Adversary} {node s s' : Node} {mode : Mode} {Calm : Prop}
  {α β : Type}

/-- Beside runs for the mode the program undoes nothing that is done for it, `Q`
holds once it returns, and it gives up only if it is not calm. -/
abbrev Cooperates (plat : Platform) (A : Adversary) (mode : Mode) (Calm : Prop) (p : Provision α)
    (Q : α → Node → Prop) (s : Node) : Prop :=
  p.Guarantees plat.whole A (InPlace plat mode) Q (fun _ _ => ¬Calm) s

/-- What is so as long as no part is moved out of its place. -/
abbrev Stays (plat : Platform) (mode : Mode) (I : Node → Prop) : Prop :=
  Lasting (InPlace plat mode) I

/-! ## One operation -/

section Operations

variable (hvfio : VfioRegisters plat) (hcalm : Calm → A = .absent)

include hvfio hcalm

/-- An operation the run may issue, with what it leaves when it goes through. -/
theorem cooperates_perform {op : Op} {Q : op.Res → Node → Prop}
    (hop : Advances plat mode op)
    (hok : ∀ s₁ a s₂, Keeps (InPlace plat mode) s s₁ → plat.answer s₁ op = (.ok a, s₂) →
      ∀ s₃, Keeps (InPlace plat mode) s₂ s₃ → Q a s₃)
    (hsure : Calm → ∀ s₁, Keeps (InPlace plat mode) s s₁ → ∃ a, (plat.answer s₁ op).1 = .ok a) :
    Cooperates plat A mode Calm (issue op) Q s := by
  refine guarantees_perform (fun s₁ r s₂ hresp => Main.responds_keeps hvfio hop hresp)
    (fun s₁ a s₂ hs₁ hresp => hok s₁ a s₂ hs₁ hresp.ok) fun s₁ e s₂ hs₁ hresp s₃ _ hc => ?_
  obtain ⟨a, ha⟩ := hsure hc s₁ hs₁
  rw [hcalm hc] at hresp
  cases ha.symm.trans (responds_absent hresp).1.symm

/-- An operation that only looks and is always answered. -/
theorem cooperates_look {op : Op} {Q : op.Res → Node → Prop} (hop : op.kind.Quiet)
    {answer : Node → op.Res} (hanswer : ∀ s, plat.answer s op = (.ok (answer s), s))
    (hQ : ∀ s₁, Keeps (InPlace plat mode) s s₁ → ∀ s₂, Keeps (InPlace plat mode) s₁ s₂ →
      Q (answer s₁) s₂) :
    Cooperates plat A mode Calm (issue op) Q s := by
  refine cooperates_perform hvfio hcalm (.quiet hop) (fun s₁ a s₂ hs₁ hok s₃ hs₃ => ?_)
    fun _ s₁ _ => ⟨answer s₁, by rw [hanswer]⟩
  obtain ⟨ha, rfl⟩ := Prod.mk.inj ((hanswer s₁).symm.trans hok)
  rw [← Except.ok.inj ha]
  exact hQ s₁ hs₁ s₃ hs₃

/-- A snapshot of sysfs is one of some moment. -/
theorem readSysfs_cooperates :
    Cooperates plat A mode Calm (issue .readSysfs) (fun sysfs s' => ∃ seen,
      Keeps (InPlace plat mode) s seen ∧ Keeps (InPlace plat mode) seen s' ∧
        sysfs = plat.sysfs seen) s :=
  cooperates_look hvfio hcalm (.inr (.inl rfl)) (fun _ => rfl)
    fun s₁ hs₁ _ hs₂ => ⟨s₁, hs₁, hs₂, rfl⟩

end Operations

/-- A check on what is at hand. -/
theorem cooperates_check {x : Except Error α} (hsure : Calm → ∃ a, x = .ok a) :
    Cooperates plat A mode Calm (Program.ofExcept x) (fun a _ => x = .ok a) s := by
  refine guarantees_ofExcept (fun a ha _ _ => ha) fun e he _ _ hc => ?_
  obtain ⟨a, ha⟩ := hsure hc
  rw [ha] at he
  cases he

/-! ## Operations answered alike on every node -/

/-- Opening a device, loading a module and asking for its driver. -/
def Op.Steady : Op → Prop
  | .gpuOpen _ | .switchOpen _ | .runModprobe _ _ | .driverFor _ => True
  | _ => False

theorem Op.Steady.quiet {op : Op} (h : op.Steady) : op.kind.Quiet := by
  cases op with
  | gpuOpen | switchOpen => exact .inl rfl
  | driverFor => exact .inr (.inl rfl)
  | runModprobe => exact .inr (.inr (.inl rfl))
  | _ => exact h.elim

/-- A program of these returns what a run by itself returns. -/
theorem cooperates_steady {p : Provision α} (hp : p.Uses Op.Steady) (node : Node)
    (hsure : Calm → ∀ e t, ¬Runs plat.whole A p node (.stopped (.error e)) node t) :
    Cooperates plat A mode Calm p
      (fun a _ => ∃ t, Runs plat.whole A p node (.done a) node t) s := by
  refine (guarantees_of_steady hp (fun op hop s r s₁ hresp => ?_)
    (fun op hop s s₂ r s₁ hresp => ?_) node s).mono (fun _ _ _ h => h) ?_
  · exact responds_quiet hop.quiet (hresp.weaken plat.whole_within)
  · refine hresp.alike .nothing ?_ rfl
    cases op with
    | gpuOpen | switchOpen | driverFor | runModprobe => rfl
    | _ => exact hop.elim
  · rintro e _ _ ⟨t, hrun⟩ hc
    exact hsure hc e t hrun

/-! ## What is read -/

namespace Nvidia

/-- What is read of one knob over a time that began in `s`: if it was at its target
in `s` it is read there, and if it is read there it stays there. -/
def Read (plat : Platform) (mode : Mode) (part : Main.Part) (s : Node) (there : Prop)
    (s' : Node) : Prop :=
  (InPlace plat mode part s → there) ∧ (there → InPlace plat mode part s')

theorem stays_read {part : Main.Part} {there : Prop} :
    Stays plat mode (Read plat mode part node there) :=
  fun _ _ hkeeps h => ⟨h.1, fun hthere => hkeeps part (h.2 hthere)⟩

/-- What is read later is read in the longer time too. -/
theorem Read.since {part : Main.Part} {there : Prop} (h : Read plat mode part s there s')
    (hkeeps : Keeps (InPlace plat mode) node s) : Read plat mode part node there s' :=
  ⟨fun hin => h.1 (hkeeps part hin), h.2⟩

/-- What is read of a device: each of its knobs, as it was at some moment. -/
structure Glimpse (plat : Platform) (mode : Mode) (handle : Handle) (s : Node)
    (knobs : Option CcMode × Option PpcieMode) (s' : Node) : Prop where
  shape : ∃ held, knobs = plat.view handle held
  cc : ∀ cc, knobs.1 = some cc →
    Read plat mode (.cc handle.address) s (cc = mode.ccTarget) s'
  ppcie : ∀ ppcie, knobs.2 = some ppcie →
    Read plat mode (.ppcie handle.address) s (ppcie = mode.ppcieTarget) s'

variable {handle : Handle} {knobs : Option CcMode × Option PpcieMode}

theorem stays_glimpse : Stays plat mode (Glimpse plat mode handle node knobs) :=
  fun s s' hkeeps h =>
    { shape := h.shape
      cc := fun cc hcc => stays_read s s' hkeeps (h.cc cc hcc)
      ppcie := fun ppcie hppcie => stays_read s s' hkeeps (h.ppcie ppcie hppcie) }

theorem Glimpse.since (h : Glimpse plat mode handle s knobs s')
    (hkeeps : Keeps (InPlace plat mode) node s) : Glimpse plat mode handle node knobs s' where
  shape := h.shape
  cc cc hcc := (h.cc cc hcc).since hkeeps
  ppcie ppcie hppcie := (h.ppcie ppcie hppcie).since hkeeps

/-- Which knobs a device has is not for its knobs to say. -/
private theorem view_isSome (plat : Platform) (handle : Handle) (held held' : Knobs) :
    (plat.view handle held').1.isSome = (plat.view handle held).1.isSome ∧
      (plat.view handle held').2.isSome = (plat.view handle held).2.isSome := by
  unfold Platform.view
  cases handle with
  | gpu address =>
      simp only [Handle.view, Option.isSome_some, true_and]
      split <;> rfl
  | switch address => exact ⟨rfl, rfl⟩

/-- A device that was in the mode is read in it. -/
theorem Glimpse.knobsMatch (h : Glimpse plat mode handle s knobs s')
    (hat : AtTargets plat mode handle (s.board handle.address).knob) : KnobsMatch mode knobs := by
  obtain ⟨hcc, hppcie⟩ := Main.atTargets_iff.mp hat
  obtain ⟨held, rfl⟩ := h.shape
  obtain ⟨hcc', hppcie'⟩ := view_isSome plat handle held mode.targets
  constructor
  · intro cc heq
    refine (h.cc cc heq).1 (hcc ?_)
    rw [hcc', heq]
    rfl
  · intro ppcie heq
    refine (h.ppcie ppcie heq).1 (hppcie ?_)
    rw [hppcie', heq]
    rfl

/-- Only a device that was not in the mode is read as having something to change. -/
theorem Glimpse.planned (h : Glimpse plat mode handle s knobs s')
    (hwrites : writesFor knobs.1 knobs.2 mode ≠ []) :
    ¬AtTargets plat mode handle (s.board handle.address).knob := by
  intro hat
  have hmatch := h.knobsMatch hat
  obtain ⟨held, rfl⟩ := h.shape
  exact hwrites ((writesFor_eq_nil_iff _ _ _ _).mpr (knobsMatch_view.mp hmatch))

/-- The plan for a device is one for something read of it. -/
structure PlannedFor (plat : Platform) (mode : Mode) (device : DeviceState × Handle)
    (plan : Planned) (s : Node) : Prop where
  state : plan.state = device.1
  handle : plan.handle = device.2
  read : ∃ since knobs, Glimpse plat mode device.2 since knobs s ∧
    plan.writes = writesFor knobs.1 knobs.2 mode

theorem stays_plannedFor (device : DeviceState × Handle) (plan : Planned) :
    Stays plat mode (PlannedFor plat mode device plan) := by
  intro s s' hkeeps h
  obtain ⟨since, knobs, hread, hwrites⟩ := h.read
  exact ⟨h.state, h.handle, since, knobs, stays_glimpse s s' hkeeps hread, hwrites⟩

/-! ## What is written -/

/-- What a write leaves behind for good: a knob it brings to its target from
wherever that was. -/
def Wrote (plat : Platform) (mode : Mode) (address : String) (w : Write) (s : Node) : Prop :=
  ((∀ knobs : Knobs, (knobs.write w).cc = mode.ccTarget) → InPlace plat mode (.cc address) s) ∧
    ((∀ knobs : Knobs, (knobs.write w).ppcie = mode.ppcieTarget) →
      InPlace plat mode (.ppcie address) s)

theorem stays_wrote (address : String) (w : Write) : Stays plat mode (Wrote plat mode address w) :=
  (lasting_fact (Main.Part.cc address)).imp.and (lasting_fact (Main.Part.ppcie address)).imp

/-- Each knob a plan was made for is where the mode wants it, or is brought there
by one of the writes from wherever it is by then. -/
theorem writesFor_covers (supports : String → Bool) (handle : Handle) (held : Knobs)
    (mode : Mode) :
    (∀ cc, (handle.view supports held).1 = some cc → cc = mode.ccTarget ∨
      ∃ w ∈ writesFor (handle.view supports held).1 (handle.view supports held).2 mode,
        ∀ knobs : Knobs, (knobs.write w).cc = mode.ccTarget) ∧
    (∀ ppcie, (handle.view supports held).2 = some ppcie → ppcie = mode.ppcieTarget ∨
      ∃ w ∈ writesFor (handle.view supports held).1 (handle.view supports held).2 mode,
        ∀ knobs : Knobs, (knobs.write w).ppcie = mode.ppcieTarget) := by
  obtain ⟨cc, ppcie⟩ := held
  cases handle with
  | gpu address =>
      by_cases hs : supports address = true
      · simp only [Handle.view, hs, if_true]
        cases cc <;> cases ppcie <;> cases mode <;>
          simp [writesFor, Mode.ccTarget, Mode.ppcieTarget, Knobs.setCc, Knobs.setPpcie]
      · simp only [Handle.view, hs]
        cases cc <;> cases mode <;> simp [writesFor, Mode.ccTarget, Mode.ppcieTarget]
  | switch address =>
      simp only [Handle.view]
      cases ppcie <;> cases mode <;> simp [writesFor, Mode.ccTarget, Mode.ppcieTarget]

/-! ## Opening, reading and planning -/

theorem open_steady (state : DeviceState) : (Handle.open state).Uses Op.Steady := by
  unfold Handle.open
  split
  · split
    · exact uses_bind (uses_perform trivial) fun _ => trivial
    · trivial
  · exact uses_bind (uses_perform trivial) fun _ => trivial
  · trivial

section Reading

variable (hvfio : VfioRegisters plat) (hcalm : Calm → A = .absent)

include hcalm

theorem open_cooperates (state : DeviceState) :
    Cooperates plat A mode Calm (Handle.open state) (fun opened _ => opened = Handle.of state)
      s := by
  refine (cooperates_steady (open_steady state) s fun hc e t hrun => ?_).mono
    (fun opened s' _ hopened => ?_) fun _ _ _ hE => hE
  · rw [hcalm hc] at hrun
    obtain ⟨_, hdone⟩ := open_sure state _ _ _ _ (hrun.weaken plat.whole_within)
    cases hdone
  · obtain ⟨t, hrun⟩ := hopened
    exact open_done (hrun.weaken plat.whole_within)

include hvfio

private theorem queryCc_cooperates (address : String) :
    Cooperates plat A mode Calm (issue (.queryCc address))
      (fun cc => Read plat mode (.cc address) s (cc = mode.ccTarget)) s := by
  refine cooperates_look hvfio hcalm (.inl rfl) (fun _ => rfl) fun s₁ hs₁ s₂ hs₂ => ?_
  exact ⟨fun hin => hs₁ (.cc address) hin, fun hat => hs₂ (.cc address) hat⟩

private theorem queryPpcie_cooperates (handle : Handle) :
    Cooperates plat A mode Calm (issue (.queryPpcie handle))
      (fun ppcie => Read plat mode (.ppcie handle.address) s (ppcie = mode.ppcieTarget)) s := by
  refine cooperates_look hvfio hcalm (.inl rfl) (fun _ => rfl) fun s₁ hs₁ s₂ hs₂ => ?_
  exact ⟨fun hin => hs₁ (.ppcie handle.address) hin,
    fun hat => hs₂ (.ppcie handle.address) hat⟩

theorem current_cooperates (handle : Handle) :
    Cooperates plat A mode Calm (handle.current plat) (Glimpse plat mode handle s) s := by
  unfold Handle.current
  cases handle with
  | switch address =>
      refine guarantees_seq (queryPpcie_cooperates hvfio hcalm (.switch address))
        fun ppcie s₁ _ hread => guarantees_pure fun s' hs' => ?_
      exact
        { shape := ⟨⟨.off, ppcie⟩, rfl⟩
          cc := fun _ hcc => by cases hcc
          ppcie := fun _ heq => by
            obtain rfl := Option.some.inj heq
            exact stays_read s₁ s' hs' hread }
  | gpu address =>
      by_cases hs : plat.gpuSupportsPpcie address = true
      · dsimp only
        rw [if_pos hs]
        -- A query that failed is only reported after the other one.
        have hppcie : Cooperates plat A mode Calm (issue (.queryPpcie (.gpu address))).attempt
            (fun read s' => match read with
              | .ok ppcie => Read plat mode (.ppcie address) s (ppcie = mode.ppcieTarget) s'
              | .error _ => ¬Calm) s :=
          guarantees_attempt (queryPpcie_cooperates hvfio hcalm (.gpu address))
        refine guarantees_seq hppcie fun read s₁ hs₁ hread => ?_
        refine guarantees_seq (queryCc_cooperates hvfio hcalm address)
          fun cc s₂ hs₂ hcc => ?_
        cases read with
        | error e => exact guarantees_throw fun _ _ => hread
        | ok ppcie =>
            refine guarantees_pure fun s' hs' => ?_
            exact
              { shape := ⟨⟨cc, ppcie⟩, by simp [Platform.view, Handle.view, hs]⟩
                cc := fun _ heq => by
                  obtain rfl := Option.some.inj heq
                  exact stays_read s₂ s' hs' (hcc.since hs₁)
                ppcie := fun _ heq => by
                  obtain rfl := Option.some.inj heq
                  exact stays_read s₁ s' (hs₂.trans hs') hread }
      · dsimp only
        rw [if_neg hs]
        refine guarantees_seq (queryCc_cooperates hvfio hcalm address)
          fun cc s₁ _ hread => guarantees_pure fun s' hs' => ?_
        exact
          { shape := ⟨⟨cc, .off⟩, by simp [Platform.view, Handle.view, hs]⟩
            cc := fun _ heq => by
              obtain rfl := Option.some.inj heq
              exact stays_read s₁ s' hs' hread
            ppcie := fun _ hppcie => by cases hppcie }

private theorem planFor_cooperates (device : DeviceState × Handle) :
    Cooperates plat A mode Calm (planFor plat mode device) (PlannedFor plat mode device) s := by
  refine guarantees_seq (guarantees_mapError (current_cooperates hvfio hcalm device.2))
    fun knobs s₁ _ hread => guarantees_pure fun s' hs' => ?_
  exact ⟨rfl, rfl, s, knobs, stays_glimpse s₁ s' hs' hread, rfl⟩

/-- Every device that can be opened is planned for, and nothing else. -/
theorem planBoard_cooperates (states : List DeviceState) :
    Cooperates plat A mode Calm (planBoard plat states mode) (fun plans s' =>
      (∀ plan ∈ plans, ∃ device, PlannedFor plat mode device plan s') ∧
        ∀ state handle, Openable states state handle →
          ∃ plan ∈ plans, PlannedFor plat mode (state, handle) plan s') s := by
  have hopens : Cooperates plat A mode Calm (Program.gather openFor states) (fun opened _ =>
      List.Forall₂ (fun state r => r = (Handle.of state).map fun handle => (state, handle))
        states opened) s := by
    refine guarantees_gather (fun _ _ => lasting_const _) fun state _ s' _ => ?_
    refine guarantees_seq (guarantees_mapError (open_cooperates hcalm state))
      fun opened _ _ hof => ?_
    subst hof
    exact guarantees_pure fun _ _ => rfl
  refine guarantees_seq hopens fun opened s₁ _ hopened => ?_
  rw [forall₂_map hopened]
  refine (guarantees_gather (fun device plan => stays_plannedFor device plan)
    fun device _ s' _ => planFor_cooperates hvfio hcalm device).mono (fun plans s' _ hall => ?_)
    fun _ _ _ hE => hE
  constructor
  · intro plan hplan
    obtain ⟨device, _, hfor⟩ := forall₂_of_mem_right hall hplan
    exact ⟨device, hfor⟩
  · intro state handle hopen
    have hdevice := (@mem_openable states (state, handle)).mpr hopen
    obtain ⟨plan, hplan, hfor⟩ := forall₂_of_mem_left hall hdevice
    exact ⟨plan, hplan, hfor⟩

/-! ## Writing -/

private theorem write_cooperates {handle : Handle} {w : Write} (haims : mode.Aims w)
    (haccepts : handle.Accepts plat.gpuSupportsPpcie w) :
    Cooperates plat A mode Calm (handle.write w) (fun _ => Wrote plat mode handle.address w) s := by
  have hwrote : ∀ s₁ s₂ : Node, s₂ = Platform.writeKnob s₁ handle.address w →
      ∀ s₃, Keeps (InPlace plat mode) s₂ s₃ → Wrote plat mode handle.address w s₃ := by
    rintro s₁ s₂ rfl s₃ hs₃
    have hknob : ((Platform.writeKnob s₁ handle.address w).board handle.address).knob =
        (s₁.board handle.address).knob.write w := by
      simp [Platform.writeKnob]
    refine stays_wrote handle.address w _ s₃ hs₃ ⟨fun hall => ?_, fun hall => ?_⟩
    · exact (congrArg Knobs.cc hknob).trans (hall _)
    · exact (congrArg Knobs.ppcie hknob).trans (hall _)
  have hop : Advances plat mode (handle.writeOp w) := .write handle haims
  cases handle with
  | gpu address =>
      cases w with
      | cc m =>
          exact cooperates_perform hvfio hcalm hop
            (fun s₁ a s₂ _ hanswer => hwrote s₁ s₂ (Prod.mk.inj hanswer).2.symm)
            fun _ _ _ => ⟨(), rfl⟩
      | ppcie m =>
          exact cooperates_perform hvfio hcalm hop
            (fun s₁ a s₂ _ hanswer => hwrote s₁ s₂ (Prod.mk.inj hanswer).2.symm)
            fun _ _ _ => ⟨(), rfl⟩
  | switch address =>
      cases w with
      | cc m => exact haccepts.elim
      | ppcie m =>
          exact cooperates_perform hvfio hcalm hop
            (fun s₁ a s₂ _ hanswer => hwrote s₁ s₂ (Prod.mk.inj hanswer).2.symm)
            fun _ _ _ => ⟨(), rfl⟩

/-! ## The mode change -/

private theorem reset_cooperates (plan : Planned) :
    Cooperates plat A mode Calm (resetFor mode plan) (fun _ _ => True) s :=
  guarantees_mapError (cooperates_perform hvfio hcalm (.reset plan.handle)
    (fun _ _ _ _ _ _ _ => trivial) fun _ _ _ => ⟨(), rfl⟩)

/-- Where a device is in the mode, a run that is calm finds it there. -/
theorem verify_cooperates {handle : Handle} {state : DeviceState}
    (hat : Calm → AtTargets plat mode handle (s.board handle.address).knob) :
    Cooperates plat A mode Calm (verify plat handle state mode) (fun _ _ => True) s := by
  obtain ⟨check, heq, hcheck⟩ := verify_eq plat mode handle state
  rw [heq]
  refine guarantees_seq (guarantees_mapError (current_cooperates hvfio hcalm handle))
    fun knobs s₁ _ hread => ?_
  refine guarantees_ofExcept (fun _ _ _ _ => trivial) fun e herror _ _ hc => ?_
  rw [(hcheck knobs).mpr (hread.knobsMatch (hat hc))] at herror
  cases herror

/-- A mode change brings every device it can open to the mode, whatever the runs
beside it have written by then. -/
theorem mode_cooperates (states : List DeviceState) :
    Cooperates plat A mode Calm (apply plat states mode) (fun _ s' =>
      ∀ state handle, Openable states state handle →
        AtTargets plat mode handle (s'.board handle.address).knob) s := by
  refine guarantees_seq (planBoard_cooperates hvfio hcalm states) fun plans s₁ hs₁ hplans => ?_
  obtain ⟨hplanned, hall⟩ := hplans
  -- What a plan is short of, its writes make up for.
  have hwrites : Cooperates plat A mode Calm
      (Program.forEach (fun plan =>
        Program.forEach (fun w => writeFor mode (plan, w)) plan.writes) (pending plans))
      (fun _ s' => ∀ plan ∈ pending plans, ∀ w ∈ plan.writes,
        Wrote plat mode plan.handle.address w s') s₁ := by
    refine guarantees_forEach (fun plan => ?_) fun plan hplan s₂ hs₂ => ?_
    · exact Lasting.all fun w => (stays_wrote plan.handle.address w).imp
    refine guarantees_forEach (fun w => stays_wrote plan.handle.address w) fun w hw s₃ _ => ?_
    obtain ⟨device, hfor⟩ := hplanned plan (mem_pending.mp hplan).1
    obtain ⟨since, knobs, hread, hplan⟩ := hfor.read
    rw [hplan] at hw
    obtain ⟨held, rfl⟩ := hread.shape
    refine guarantees_mapError (write_cooperates hvfio hcalm (aims_of_mem_writesFor hw) ?_)
    rw [hfor.handle]
    exact accepts_of_mem_writesFor _ _ _ hw
  refine guarantees_seq hwrites fun _ s₂ hs₂ hwritten => ?_
  have hat : ∀ plan ∈ plans, AtTargets plat mode plan.handle
      (s₂.board plan.handle.address).knob := by
    intro plan hplan
    obtain ⟨device, hfor⟩ := hplanned plan hplan
    obtain ⟨since, knobs, hread, hwrites⟩ := (stays_plannedFor device plan s₁ s₂ hs₂ hfor).read
    obtain ⟨held, rfl⟩ := hread.shape
    obtain ⟨hcc, hppcie⟩ := view_isSome plat device.2 held mode.targets
    obtain ⟨hcovered, hcovered'⟩ :=
      writesFor_covers plat.gpuSupportsPpcie device.2 held mode
    have hdone : ∀ w ∈ plan.writes, Wrote plat mode plan.handle.address w s₂ := fun w hw =>
      hwritten plan (mem_pending.mpr ⟨hplan, List.ne_nil_of_mem hw⟩) w hw
    rw [hwrites, hfor.handle] at hdone
    rw [hfor.handle]
    refine Main.atTargets_iff.mpr ⟨fun hsome => ?_, fun hsome => ?_⟩
    · rw [hcc] at hsome
      obtain ⟨cc, heq⟩ := Option.isSome_iff_exists.mp hsome
      rcases hcovered cc heq with hat | ⟨w, hw, hbrings⟩
      · exact (hread.cc cc heq).2 hat
      · exact (hdone w hw).1 hbrings
    · rw [hppcie] at hsome
      obtain ⟨ppcie, heq⟩ := Option.isSome_iff_exists.mp hsome
      rcases hcovered' ppcie heq with hat | ⟨w, hw, hbrings⟩
      · exact (hread.ppcie ppcie heq).2 hat
      · exact (hdone w hw).2 hbrings
  have hresets : Cooperates plat A mode Calm (Program.forEach (resetFor mode) (pending plans))
      (fun _ s' => ∀ plan ∈ pending plans, True) s₂ :=
    guarantees_forEach (fun _ => lasting_const True) fun plan _ s' _ =>
      reset_cooperates hvfio hcalm plan
  refine guarantees_seq hresets fun _ s₃ hs₃ _ => ?_
  have hverifies : Cooperates plat A mode Calm
      (Program.forEach (fun plan => verify plat plan.handle plan.state mode) plans)
      (fun _ s' => ∀ plan ∈ plans, True) s₃ := by
    refine guarantees_forEach (fun _ => lasting_const True) fun plan hplan s₄ hs₄ => ?_
    exact verify_cooperates hvfio hcalm fun _ =>
      Main.lasting_atTargets plan.handle s₂ s₄ (hs₃.trans hs₄) (hat plan hplan)
  refine guarantees_seq hverifies fun _ s₄ hs₄ _ => guarantees_pure fun s' hs' => ?_
  intro state handle hopen
  obtain ⟨plan, hplan, hfor⟩ := hall state handle hopen
  have hstays := Main.lasting_atTargets plan.handle s₂ s' (hs₃.trans (hs₄.trans hs'))
    (hat plan hplan)
  rwa [hfor.handle] at hstays

end Reading

end Nvidia

end KataDeviceProvisioner.Ports
