import KataDeviceProvisioner.Ports.NvidiaPlan
import KataDeviceProvisioner.Verified.Lists

/-!
# Reading a board

Opening a device, reading its knobs, and planning a whole board from them: what
such a run issues, that it leaves the node as it is, and what it returns when
it completes.
-/

namespace KataDeviceProvisioner.Ports.Nvidia

open KataDeviceProvisioner.Verified

variable {plat : Platform} {A : Adversary} {node node' : Node} {t : List (Event Op Node)}

/-! ## Opening and reading one device -/

/-- An operation that opens or reads the device at `address`. -/
def ProbesAt (address : String) (op : Op) : Prop :=
  op.kind = .probe ∧ op.device = some address

theorem open_uses (state : DeviceState) :
    (Handle.open state).Uses (ProbesAt state.address) := by
  unfold Handle.open
  split
  · split
    · exact uses_bind (uses_perform ⟨rfl, rfl⟩) fun _ => trivial
    · trivial
  · exact uses_bind (uses_perform ⟨rfl, rfl⟩) fun _ => trivial
  · trivial

theorem open_sure (state : DeviceState) : (Handle.open state).Sure plat.machine := by
  unfold Handle.open
  split
  · split
    · exact sure_bind (sure_perform fun s => ⟨(), rfl⟩) fun _ => sure_pure _
    · exact sure_pure _
  · exact sure_bind (sure_perform fun s => ⟨(), rfl⟩) fun _ => sure_pure _
  · exact sure_pure _

theorem open_strict (state : DeviceState) : (Handle.open state).Strict plat.machine A := by
  unfold Handle.open
  split
  · split
    · exact strict_bind (strict_perform _) fun _ => strict_pure _
    · exact strict_pure _
  · exact strict_bind (strict_perform _) fun _ => strict_pure _
  · exact strict_pure _

theorem open_done {state : DeviceState} {handle : Option Handle}
    (h : Runs plat.machine A (Handle.open state) node (.done handle) node' t) :
    handle = Handle.of state := by
  unfold Handle.open at h
  unfold Handle.of
  cases hprov : state.provisioning with
  | none =>
      rw [hprov] at h
      exact Outcome.done.inj (runs_pure_iff.mp h).1
  | some kind =>
      rw [hprov] at h
      cases kind with
      | nvidiaInBandCc =>
          dsimp only at h ⊢
          by_cases hcap : state.ccCapable = true
          · rw [if_pos hcap] at h ⊢
            obtain ⟨_, _, _, _, _, hret, _⟩ := runs_bind_done.mp h
            exact Outcome.done.inj (runs_pure_iff.mp hret).1
          · rw [if_neg hcap] at h ⊢
            exact Outcome.done.inj (runs_pure_iff.mp h).1
      | nvidiaInBandPpcie =>
          obtain ⟨_, _, _, _, _, hret, _⟩ := runs_bind_done.mp h
          exact Outcome.done.inj (runs_pure_iff.mp hret).1

theorem current_uses (handle : Handle) :
    (handle.current plat).Uses (ProbesAt handle.address) := by
  unfold Handle.current
  split
  · split
    · refine uses_bind (uses_attempt (uses_perform ⟨rfl, rfl⟩)) fun ppcie => ?_
      refine uses_bind (uses_perform ⟨rfl, rfl⟩) fun _ => ?_
      exact uses_bind (uses_ofExcept ppcie) fun _ => trivial
    · exact uses_bind (uses_perform ⟨rfl, rfl⟩) fun _ => trivial
  · exact uses_bind (uses_perform ⟨rfl, rfl⟩) fun _ => trivial

/-- What a completed read says about the device: the values of its knobs, and
that no query failed. -/
theorem current_done {handle : Handle} {knobs : Option CcMode × Option PpcieMode}
    (h : Runs plat.machine A (handle.current plat) node (.done knobs) node' t) :
    knobs = plat.view handle (node.board handle.address).knob ∧ ∀ e ∈ t, e.ok = true := by
  unfold Handle.current at h
  split at h
  case h_1 address =>
      split at h
      case isTrue hs =>
          obtain ⟨ppcie, s₁, t₁, t₂, hppcie, hrest₁, rfl⟩ := runs_bind_done.mp h
          obtain ⟨cc, s₂, t₃, t₄, hcc, hrest₂, rfl⟩ := runs_bind_done.mp hrest₁
          obtain ⟨p, s₃, t₅, t₆, hp, hret, ht₄⟩ := runs_bind_done.mp hrest₂
          obtain ⟨hknobs, _, ht₆⟩ := runs_pure_iff.mp hret
          obtain ⟨rfl, _, ht₅⟩ := runs_ofExcept_done.mp hp
          rw [ht₅, ht₆, List.append_nil] at ht₄
          subst ht₄
          obtain ⟨out₀, hquery, hout⟩ := runs_attempt_iff.mp hppcie
          have hdone : out₀ = .done p := by
            cases out₀ with
            | done a => simpa [Outcome.attempted] using hout.symm
            | stopped why => cases why <;> simp [Outcome.attempted] at hout
          rw [hdone] at hquery
          obtain ⟨hanswer, rfl⟩ := runs_perform_done.mp hquery
          obtain ⟨hccanswer, rfl⟩ := runs_perform_done.mp hcc
          obtain ⟨hppcieAnswer, rfl⟩ := Prod.mk.inj hanswer
          obtain ⟨hccAnswer, rfl⟩ := Prod.mk.inj hccanswer
          obtain rfl := Except.ok.inj hppcieAnswer
          obtain rfl := Except.ok.inj hccAnswer
          obtain rfl := Outcome.done.inj hknobs
          exact ⟨by simp [Platform.view, Handle.view, hs, Handle.address], by simp⟩
      case isFalse hs =>
          obtain ⟨cc, s₁, t₁, t₂, hcc, hret, rfl⟩ := runs_bind_done.mp h
          obtain ⟨hknobs, _, rfl⟩ := runs_pure_iff.mp hret
          obtain ⟨hanswer, rfl⟩ := runs_perform_done.mp hcc
          obtain ⟨hc, _⟩ := Prod.mk.inj hanswer
          obtain rfl := Except.ok.inj hc
          obtain rfl := Outcome.done.inj hknobs
          exact ⟨by simp [Platform.view, Handle.view, hs, Handle.address], by simp⟩
  case h_2 address =>
      obtain ⟨ppcie, s₁, t₁, t₂, hppcie, hret, rfl⟩ := runs_bind_done.mp h
      obtain ⟨hknobs, _, rfl⟩ := runs_pure_iff.mp hret
      obtain ⟨hanswer, rfl⟩ := runs_perform_done.mp hppcie
      obtain ⟨hp, _⟩ := Prod.mk.inj hanswer
      obtain rfl := Except.ok.inj hp
      obtain rfl := Outcome.done.inj hknobs
      exact ⟨by simp [Platform.view, Handle.view, Handle.address], by simp⟩

theorem current_strict (handle : Handle) : (handle.current plat).Strict plat.machine A :=
  fun _ _ _ _ h => (current_done h).2

theorem current_sure (handle : Handle) : (handle.current plat).Sure plat.machine := by
  unfold Handle.current
  split
  · split
    · intro s out s' t h
      obtain ⟨r, s₁, t₁, t₂, hq, hrest, rfl⟩ | ⟨why, rfl, hq⟩ := runs_bind_iff.mp h
      · obtain ⟨out₀, hquery, hout⟩ := runs_attempt_iff.mp hq
        obtain ⟨p, rfl⟩ := sure_perform (fun s => ⟨_, rfl⟩) _ _ _ _ hquery
        obtain rfl := Outcome.done.inj hout
        refine sure_bind (sure_perform fun s => ⟨_, rfl⟩) (fun cc => ?_) s₁ out s' t₂ hrest
        exact sure_bind (sure_pure p) fun _ => sure_pure _
      · obtain ⟨out₀, hquery, hout⟩ := runs_attempt_iff.mp hq
        obtain ⟨p, rfl⟩ := sure_perform (fun s => ⟨_, rfl⟩) _ _ _ _ hquery
        cases hout
    · exact sure_bind (sure_perform fun s => ⟨_, rfl⟩) fun _ => sure_pure _
  · exact sure_bind (sure_perform fun s => ⟨_, rfl⟩) fun _ => sure_pure _

/-- A program that only probes leaves the node as it is. -/
theorem node_eq_of_quiet {α : Type} {p : Provision α} {out : Outcome Error α} {P : Op → Prop}
    (h : Runs plat.machine A p node out node' t) (hp : p.Uses P)
    (hquiet : ∀ op, P op → op.kind.Quiet) : node' = node ∧ ∀ e ∈ t, e.before = node := by
  refine h.invariant (I := fun s => s = node) hp ?_ rfl
  intro op s r s' hop hs hresp
  rw [responds_quiet (hquiet op hop) hresp, hs]

theorem ProbesAt.quiet {address : String} {op : Op} (h : ProbesAt address op) :
    op.kind.Quiet := .inl h.1

/-! ## Planning the board -/

/-- The plan for one device, from the firmware it is found with. -/
def planOf (plat : Platform) (board : String → Firmware) (mode : Mode)
    (state : DeviceState) : Option Planned :=
  (Handle.of state).map fun handle =>
    { state := state
      handle := handle
      writes := writesFor (plat.view handle (board state.address).knob).1
        (plat.view handle (board state.address).knob).2 mode }

/-- The plans for the board. -/
def plansFor (plat : Platform) (board : String → Firmware) (mode : Mode)
    (states : List DeviceState) : List Planned :=
  states.filterMap (planOf plat board mode)

/-- A device of the board that can be opened. -/
def Openable (states : List DeviceState) (state : DeviceState) (handle : Handle) : Prop :=
  state ∈ states ∧ Handle.of state = some handle

theorem mem_plansFor {board : String → Firmware} {mode : Mode} {states : List DeviceState}
    {plan : Planned} :
    plan ∈ plansFor plat board mode states ↔
      Openable states plan.state plan.handle ∧
        plan.writes = writesFor (plat.view plan.handle (board plan.handle.address).knob).1
          (plat.view plan.handle (board plan.handle.address).knob).2 mode := by
  simp only [plansFor, List.mem_filterMap, planOf, Option.map_eq_some_iff, Openable]
  constructor
  · rintro ⟨state, hstate, handle, hof, rfl⟩
    exact ⟨⟨hstate, hof⟩, by rw [Handle.of_address hof]⟩
  · rintro ⟨⟨hstate, hof⟩, hwrites⟩
    refine ⟨plan.state, hstate, plan.handle, hof, ?_⟩
    rw [← Handle.of_address hof, ← hwrites]

/-- An operation that opens or reads a device of the board. -/
def ProbesBoard (states : List DeviceState) (op : Op) : Prop :=
  ∃ state handle, Openable states state handle ∧ ProbesAt state.address op

theorem ProbesBoard.kind {states : List DeviceState} {op : Op} (h : ProbesBoard states op) :
    op.kind = .probe := by
  obtain ⟨_, _, _, hkind, _⟩ := h
  exact hkind

theorem ProbesBoard.quiet {states : List DeviceState} {op : Op}
    (h : ProbesBoard states op) : op.kind.Quiet := by
  obtain ⟨_, _, _, hat⟩ := h
  exact hat.quiet

/-- Nothing is issued for a device that has no mode. -/
theorem open_none {state : DeviceState} (hof : Handle.of state = none) :
    Handle.open state = pure none := by
  unfold Handle.of at hof
  unfold Handle.open
  cases hprov : state.provisioning with
  | none => rfl
  | some kind =>
      rw [hprov] at hof
      cases kind with
      | nvidiaInBandCc =>
          dsimp only at hof ⊢
          by_cases hcap : state.ccCapable = true
          · rw [if_pos hcap] at hof
            cases hof
          · rw [if_neg hcap]
      | nvidiaInBandPpcie => cases hof

theorem open_uses_board {states : List DeviceState} {state : DeviceState}
    (hstate : state ∈ states) : (Handle.open state).Uses (ProbesBoard states) := by
  cases hof : Handle.of state with
  | some handle =>
      exact (open_uses state).mono fun op hop => ⟨state, handle, ⟨hstate, hof⟩, hop⟩
  | none =>
      rw [open_none hof]
      trivial

theorem openFor_uses {states : List DeviceState} {state : DeviceState}
    (hstate : state ∈ states) : (openFor state).Uses (ProbesBoard states) :=
  uses_bind (uses_mapError (open_uses_board hstate)) fun _ => trivial

theorem current_uses_board {states : List DeviceState} {state : DeviceState} {handle : Handle}
    (h : Openable states state handle) :
    (handle.current plat).Uses (ProbesBoard states) := by
  refine (current_uses handle).mono fun op hop => ⟨state, handle, h, ?_⟩
  rw [← Handle.of_address h.2]
  exact hop

theorem openFor_done {state : DeviceState} {r : Option (DeviceState × Handle)}
    (h : Runs plat.machine A (openFor state) node (.done r) node' t) :
    r = (Handle.of state).map fun handle => (state, handle) := by
  obtain ⟨handle, s₁, t₁, t₂, hopen, hret, rfl⟩ := runs_bind_done.mp h
  rw [← open_done (runs_mapError_done.mp hopen)]
  exact Outcome.done.inj (runs_pure_iff.mp hret).1

theorem planFor_done {mode : Mode} {device : DeviceState × Handle} {plan : Planned}
    (h : Runs plat.machine A (planFor plat mode device) node (.done plan) node' t) :
    plan = { state := device.1
             handle := device.2
             writes := writesFor (plat.view device.2 (node.board device.2.address).knob).1
               (plat.view device.2 (node.board device.2.address).knob).2 mode } := by
  obtain ⟨knobs, s₁, t₁, t₂, hcurrent, hret, rfl⟩ := runs_bind_done.mp h
  obtain ⟨rfl, _⟩ := current_done (runs_mapError_done.mp hcurrent)
  exact Outcome.done.inj (runs_pure_iff.mp hret).1

/-- What opening the whole board returns. -/
theorem opened_eq {states : List DeviceState} {opened : List (Option (DeviceState × Handle))}
    (h : Runs plat.machine A (Program.gather openFor states) node (.done opened) node' t) :
    opened = states.map fun state => (Handle.of state).map fun handle => (state, handle) := by
  have hall : List.Forall₂
      (fun state r => r = (Handle.of state).map fun handle => (state, handle)) states opened :=
    (runs_gather_done (I := fun _ => True)
      (Q := fun state r => r = (Handle.of state).map fun handle => (state, handle))
      (fun state _ s r s' t _ hr => ⟨trivial, openFor_done hr⟩) trivial h).2
  exact forall₂_map hall

theorem reduceOption_openable (states : List DeviceState) :
    (states.map fun state => (Handle.of state).map fun handle => (state, handle)).reduceOption =
      states.filterMap fun state => (Handle.of state).map fun handle => (state, handle) := by
  show (states.map fun state => (Handle.of state).map fun handle => (state, handle)).filterMap
    id = _
  rw [List.filterMap_map]
  rfl

theorem mem_openable {states : List DeviceState} {device : DeviceState × Handle} :
    device ∈ (states.map fun state =>
        (Handle.of state).map fun handle => (state, handle)).reduceOption ↔
      Openable states device.1 device.2 := by
  rw [reduceOption_openable]
  simp only [List.mem_filterMap, Option.map_eq_some_iff, Openable]
  constructor
  · rintro ⟨state, hstate, handle, hof, rfl⟩
    exact ⟨hstate, hof⟩
  · rintro ⟨hstate, hof⟩
    exact ⟨device.1, hstate, device.2, hof, rfl⟩

theorem planBoard_uses (states : List DeviceState) (mode : Mode) :
    (planBoard plat states mode).Uses fun op => op.kind = .probe := by
  refine uses_bind (uses_gather fun state _ => ?_) fun opened => uses_gather fun device _ => ?_
  · exact uses_bind (uses_mapError ((open_uses state).mono fun _ hop => hop.1)) fun _ => trivial
  · exact uses_bind (uses_mapError ((current_uses device.2).mono fun _ hop => hop.1))
      fun _ => trivial

/-- Planning only opens and reads devices of the board. -/
theorem planBoard_probes {states : List DeviceState} {mode : Mode}
    {out : Outcome Error (List Planned)}
    (h : Runs plat.machine A (planBoard plat states mode) node out node' t) :
    node' = node ∧ ∀ e ∈ t, ProbesBoard states e.op ∧ e.before = node := by
  -- The first loop has to complete before the second one's devices are known.
  have hopens : (Program.gather openFor states).Uses (ProbesBoard states) :=
    uses_gather fun state hstate => openFor_uses hstate
  obtain ⟨opened, s₁, t₁, t₂, h₁, h₂, rfl⟩ | ⟨why, rfl, h₁⟩ := runs_bind_iff.mp h
  · obtain ⟨rfl, hbefore₁⟩ := node_eq_of_quiet h₁ hopens fun _ => ProbesBoard.quiet
    obtain rfl := opened_eq h₁
    have hreads : (Program.gather (planFor plat mode)
        (states.map fun state =>
          (Handle.of state).map fun handle => (state, handle)).reduceOption).Uses
        (ProbesBoard states) := by
      refine uses_gather fun device hdevice => ?_
      exact uses_bind (uses_mapError (current_uses_board (mem_openable.mp hdevice)))
        fun _ => trivial
    obtain ⟨rfl, hbefore₂⟩ := node_eq_of_quiet h₂ hreads fun _ => ProbesBoard.quiet
    refine ⟨rfl, fun e he => ?_⟩
    rcases List.mem_append.mp he with he | he
    · exact ⟨h₁.events_of_uses hopens e he, hbefore₁ e he⟩
    · exact ⟨h₂.events_of_uses hreads e he, hbefore₂ e he⟩
  · obtain ⟨rfl, hbefore⟩ := node_eq_of_quiet h₁ hopens fun _ => ProbesBoard.quiet
    exact ⟨rfl, fun e he => ⟨h₁.events_of_uses hopens e he, hbefore e he⟩⟩

/-- Planning that completes has planned every openable device from the knobs it
was found with. -/
theorem planBoard_done {states : List DeviceState} {mode : Mode} {plans : List Planned}
    (h : Runs plat.machine A (planBoard plat states mode) node (.done plans) node' t) :
    plans = plansFor plat node.board mode states := by
  obtain ⟨opened, s₁, t₁, t₂, h₁, h₂, rfl⟩ := runs_bind_done.mp h
  have hopens : (Program.gather openFor states).Uses (ProbesBoard states) :=
    uses_gather fun state hstate => openFor_uses hstate
  obtain ⟨rfl, _⟩ := node_eq_of_quiet h₁ hopens fun _ => ProbesBoard.quiet
  obtain rfl := opened_eq h₁
  have hplans := (runs_gather_done (I := fun s => s = s₁) (Q := fun device plan =>
      plan = ({ state := device.1
                handle := device.2
                writes := writesFor (plat.view device.2 (s₁.board device.2.address).knob).1
                  (plat.view device.2 (s₁.board device.2.address).knob).2 mode } : Planned))
    (fun device _ s plan s' t hs hr => by
      have huses : (planFor plat mode device).Uses (ProbesAt device.2.address) :=
        uses_bind (uses_mapError (current_uses device.2)) fun _ => trivial
      obtain ⟨rfl, _⟩ := node_eq_of_quiet hr huses fun _ => ProbesAt.quiet
      subst hs
      exact ⟨rfl, planFor_done hr⟩) rfl h₂).2
  rw [forall₂_map hplans, reduceOption_openable, plansFor, List.map_filterMap]
  refine List.filterMap_congr fun state _ => ?_
  cases hof : Handle.of state with
  | none => simp [planOf, hof]
  | some handle => simp [planOf, hof, Handle.of_address hof]

theorem planBoard_sure (states : List DeviceState) (mode : Mode) :
    (planBoard plat states mode).Sure plat.machine := by
  refine sure_bind (sure_gather fun state _ => ?_) fun opened => sure_gather fun device _ => ?_
  · exact sure_bind (sure_mapError (open_sure state)) fun _ => sure_pure _
  · exact sure_bind (sure_mapError (current_sure device.2)) fun _ => sure_pure _

theorem planBoard_strict (states : List DeviceState) (mode : Mode) :
    (planBoard plat states mode).Strict plat.machine A := by
  refine strict_bind (strict_gather fun state _ => ?_) fun opened =>
    strict_gather fun device _ => ?_
  · exact strict_bind (strict_mapError (open_strict state)) fun _ => strict_pure _
  · exact strict_bind (strict_mapError (current_strict device.2)) fun _ => strict_pure _

end KataDeviceProvisioner.Ports.Nvidia
