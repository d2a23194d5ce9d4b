import KataDeviceProvisioner.Ports.Provisioned

/-!
# What is not the provisioner's

What a run does to a node is on devices in scope and on the boot files, whatever
becomes of the run and whatever the node does meanwhile.  What else is bound is
the kernel's doing: a module that a run has loaded can take a device that is on
no driver, as `vfio-pci` takes those of an `options` line it finds.  `StepOn` is a
deed on a node with such a conduct, and `others_untouched` says what a history of
deeds leaves alone.
-/

namespace KataDeviceProvisioner.Ports

open KataDeviceProvisioner.Verified

variable {plat : Platform} {c : Conduct} {A : Adversary} {node node' : Node}
  {t : List (Event Op Node)} {mode : Mode} {states : List DeviceState} {torn : Bool}

/-! ## What a program operates on, whatever it is answered -/

namespace Nvidia

theorem open_returns (state : DeviceState) : (Handle.open state).Returns fun handle =>
    ∀ h, handle = some h → h.address = state.address := by
  unfold Handle.open
  split
  · split
    · refine returns_bind (returns_true _) fun _ _ h heq => ?_
      rw [← Option.some.inj heq]
      rfl
    · exact fun h heq => by cases heq
  · refine returns_bind (returns_true _) fun _ _ h heq => ?_
    rw [← Option.some.inj heq]
    rfl
  · exact fun h heq => by cases heq

/-- What is planned for is a device of the list. -/
theorem planBoard_returns (states : List DeviceState) (mode : Mode) :
    (planBoard plat states mode).Returns fun plans =>
      ∀ plan ∈ plans, ∃ state ∈ states, plan.handle.address = state.address := by
  have hopen : ∀ state : DeviceState, (openFor state).Returns fun opened =>
      ∀ device, opened = some device → device.2.address = state.address := by
    intro state
    refine returns_bind (returns_mapError (open_returns state)) fun handle hhandle device heq => ?_
    obtain ⟨h, rfl, rfl⟩ := Option.map_eq_some_iff.mp heq
    exact hhandle h rfl
  have hplan : ∀ device : DeviceState × Handle, (planFor plat mode device).Returns fun plan =>
      plan.handle = device.2 :=
    fun device => returns_bind (returns_true _) fun _ _ => rfl
  refine returns_bind (returns_gather fun state _ => hopen state) fun opened hopened => ?_
  refine (returns_gather fun device _ => hplan device).mono fun plans hplans plan hmem => ?_
  obtain ⟨device, hdevice, hhandle⟩ := forall₂_of_mem_right hplans hmem
  obtain ⟨state, hstate, hof⟩ :=
    forall₂_of_mem_right hopened (List.reduceOption_mem_iff.mp hdevice)
  exact ⟨state, hstate, by rw [hhandle, hof device rfl]⟩

end Nvidia

namespace Main

/-- An operation that only looks, or is on a device in scope or a boot file. -/
def Confines (plat : Platform) (op : Op) : Prop :=
  op.kind.Quiet ∨ (StaysIn (scope plat) op ∧
    (op.kind = .file → Modules.OnBootFiles plat.hostRoot op))

theorem Confines.of_device {op : Op} {address : String}
    (hin : inSet (scope plat) address = true) (hdevice : op.device = some address) :
    Confines plat op := by
  refine .inr ⟨fun other hother => ?_, fun hfile => ?_⟩
  · rw [hdevice] at hother
    rwa [← Option.some.inj hother]
  · revert hdevice hfile
    cases op <;> simp [Op.kind, Op.device]

theorem Confines.of_file {op : Op} (h : Modules.OnBootFiles plat.hostRoot op) :
    Confines plat op := by
  refine .inr ⟨staysIn_of_none ?_, fun _ => h⟩
  cases op <;> first | rfl | exact h.elim

theorem inSet_found {found : List DeviceState} (h : inScope plat.pci (plat.sysfs node) = .ok found)
    (address : String) : inSet found address = inSet (scope plat) address := by
  rw [scope_found h, inSet, List.any_map]
  rfl

/-- Devices in scope are all the stages operate on. -/
theorem stages_confined {cleared : Cleared}
    (hstates : ∀ state ∈ cleared.states, inSet (scope plat) state.address = true)
    (hpass : ∀ state ∈ cleared.passthrough, inSet (scope plat) state.address = true) :
    (stages plat mode cleared).Uses (Confines plat) := by
  have hquiet : ∀ op : Op, op.kind.Quiet → Confines plat op := fun _ hop => .inl hop
  have hmode : (Nvidia.apply plat cleared.states mode).Uses (Confines plat) := by
    refine uses_bind_returns ((Nvidia.planBoard_uses _ _).mono fun op hop => hquiet op (.inl hop))
      (Nvidia.planBoard_returns _ _) fun plans hplans => ?_
    have hplanned : ∀ plan ∈ plans, inSet (scope plat) plan.handle.address = true := by
      intro plan hplan
      obtain ⟨state, hstate, haddress⟩ := hplans plan hplan
      rw [haddress]
      exact hstates state hstate
    have hpending : ∀ plan ∈ Nvidia.pending plans,
        inSet (scope plat) plan.handle.address = true :=
      fun plan hplan => hplanned plan (List.mem_filter.mp hplan).1
    refine uses_bind (uses_forEach fun plan hplan => uses_forEach fun w _ => ?_) fun _ => ?_
    · exact uses_mapError ((Nvidia.write_uses plan.handle w).mono
        fun op hop => .of_device (hpending plan hplan) hop)
    refine uses_bind (uses_forEach fun plan hplan => uses_mapError (uses_perform ?_)) fun _ => ?_
    · exact .of_device (hpending plan hplan) rfl
    refine uses_bind (uses_forEach fun plan _ => ?_) fun _ => trivial
    exact (Nvidia.verify_uses plan.handle plan.state).mono fun op hop => hquiet op hop.quiet
  refine uses_bind (uses_bind hmode fun _ => trivial) fun _ => ?_
  refine uses_bind ?_ fun _ => ?_
  · refine uses_bind (uses_gather fun state _ => ?_) fun claims => ?_
    · exact uses_bind (index_uses cleared.drivers state.address _) fun _ => trivial
    · have hfiles := Modules.program_onBootFiles plat.hostRoot (.persist claims)
      exact hfiles.mono fun _ hop => Confines.of_file hop
  refine uses_bind (binds_uses.mono fun op hop => ?_) fun _ => ?_
  · obtain ⟨state, hstate, driver, _, rfl⟩ := hop
    exact .of_device (hpass state hstate) rfl
  refine uses_bind (release_uses.mono fun op hop => ?_) fun _ => ?_
  · rcases hop with rfl | ⟨state, hstate, _, rfl⟩
    · exact hquiet _ (.inr (.inl rfl))
    · exact .of_device (hstates state hstate) rfl
  · exact (verify_uses cleared.passthrough).mono hquiet

theorem probeModes_returns (found : List DeviceState) :
    (Nvidia.probeModes plat found).Returns fun probed =>
      ∀ state ∈ probed.1, inSet found state.address = true := by
  have hone : ∀ state : DeviceState, (probeOne plat state).Returns fun probed =>
      probed.1.address = state.address := by
    intro state
    refine returns_bind (returns_true _) fun r _ => ?_
    cases r <;> exact rfl
  rw [probeModes_eq]
  refine returns_bind (returns_gather fun state _ => hone state) fun all hall state hstate => ?_
  obtain ⟨entry, hentry, rfl⟩ := List.mem_map.mp hstate
  obtain ⟨device, hdevice, haddress⟩ := forall₂_of_mem_right hall hentry
  exact inSet_iff.mpr ⟨device, hdevice, haddress.symm⟩

/-- What the checks hand on are devices in scope: they are those the node shows,
whatever drivers they come to be on meanwhile. -/
private theorem preflight_scope {cleared : Cleared}
    (h : Runs (c.on (plat.machineFor torn)) A (preflight plat mode) node (.done cleared) node' t) :
    (∀ state ∈ cleared.states, inSet (scope plat) state.address = true) ∧
      ∀ state ∈ cleared.passthrough, inSet (scope plat) state.address = true := by
  obtain ⟨sysfs, s₁, t₁, t₂, hlook, hrest, _⟩ := runs_bind_done.mp h
  obtain ⟨hanswer, _⟩ := runs_perform_done.mp hlook
  have hshown : sysfs = plat.sysfs node := by
    cases torn <;> exact (Except.ok.inj (Prod.mk.inj hanswer).1).symm
  refine hrest.returned (R := fun cleared =>
    (∀ state ∈ cleared.states, inSet (scope plat) state.address = true) ∧
      ∀ state ∈ cleared.passthrough, inSet (scope plat) state.address = true) ?_
  refine returns_bind (returns_true _) fun _ _ => ?_
  refine returns_bind (returns_ofExcept _) fun found hscope => ?_
  rw [hshown] at hscope
  refine returns_bind (returns_true _) fun _ _ => returns_bind (returns_true _) fun _ _ => ?_
  refine returns_bind (returns_true _) fun drivers _ => ?_
  refine returns_bind (probeModes_returns found) fun probed hprobed => ?_
  refine returns_bind (returns_true _) fun _ _ => returns_bind (returns_true _) fun _ _ => ?_
  refine ⟨fun state hstate => ?_, fun state hstate => ?_⟩
  · rw [← inSet_found hscope]
    exact hprobed state hstate
  · rw [← inSet_found hscope]
    exact inSet_iff.mpr ⟨state, passthrough_subset hstate, rfl⟩

/-- Every operation of a run is one of these. -/
theorem apply_confined {out : Outcome Error Unit}
    (h : Runs (c.on (plat.machineFor torn)) A (apply plat mode) node out node' t) :
    ∀ e ∈ t, Confines plat e.op := by
  rw [apply_eq] at h
  obtain ⟨cleared, s₁, t₁, t₂, hchecks, hstages, rfl⟩ | ⟨why, rfl, hchecks⟩ :=
    runs_bind_iff.mp h
  · obtain ⟨hstates, hpass⟩ := preflight_scope hchecks
    refine List.forall_mem_append.mpr ⟨fun e he => ?_, ?_⟩
    · exact .inl (hchecks.events_of_uses preflight_uses e he)
    · exact hstages.events_of_uses (stages_confined hstates hpass)
  · exact fun e he => .inl (hchecks.events_of_uses preflight_uses e he)

/-! ## What is left alone -/

/-- The device stays on the driver it is on, or was on none and a module has taken
it. -/
def Stays (c : Conduct) (s s' : Node) (address : String) : Prop :=
  s'.driver address = s.driver address ∨
    s.driver address = none ∧ ∃ seen module, s'.driver address = c.takes seen module address

/-- The two differ only in devices in scope, in the boot files, and in devices that
modules have taken. -/
structure Untouched (plat : Platform) (c : Conduct) (s s' : Node) : Prop where
  board : ∀ address, inSet (scope plat) address = false → s'.board address = s.board address
  driver : ∀ address, inSet (scope plat) address = false → Stays c s s' address
  confined : Modules.Confined plat.hostRoot s s'

theorem Stays.trans {s₁ s₂ s₃ : Node} {address : String} (h : Stays c s₁ s₂ address)
    (h' : Stays c s₂ s₃ address) : Stays c s₁ s₃ address := by
  rcases h' with hsame | ⟨hnone, htaken⟩
  · unfold Stays
    rwa [hsame]
  · rcases h with hsame | ⟨hfirst, _⟩
    · exact .inr ⟨hsame ▸ hnone, htaken⟩
    · exact .inr ⟨hfirst, htaken⟩

theorem Untouched.trans {s₁ s₂ s₃ : Node} (h : Untouched plat c s₁ s₂)
    (h' : Untouched plat c s₂ s₃) : Untouched plat c s₁ s₃ where
  board address hout := (h'.board address hout).trans (h.board address hout)
  driver address hout := (h.driver address hout).trans (h'.driver address hout)
  confined := h.confined.trans h'.confined

theorem Untouched.refl (plat : Platform) (c : Conduct) (s : Node) : Untouched plat c s s :=
  ⟨fun _ _ => rfl, fun _ _ => .inl rfl, .refl plat.hostRoot s⟩

theorem untouched_load (plat : Platform) (c : Conduct) (module : String) (s : Node) :
    Untouched plat c s (c.load module s) where
  board _ _ := rfl
  driver address _ := by
    cases hdriver : s.driver address with
    | none => exact .inr ⟨hdriver, s, module, by simp [Conduct.load, hdriver]⟩
    | some driver => exact .inl (by simp [Conduct.load, hdriver])
  confined := ⟨fun _ _ => rfl, fun _ => .inl rfl⟩

/-- What is not an operation on a file leaves the files and the directories. -/
private theorem confined_of_not_file {hostRoot : Path} {s s' : Node} {op : Op}
    {r : Except Error op.Res} (hop : op.kind ≠ .file) (h : Responds plat.machine A s op r s') :
    Modules.Confined hostRoot s s' := by
  obtain rfl | rfl | ⟨_, _, hfile, _⟩ := responds_state h
  · exact .refl hostRoot _
  · have hdirs : (plat.machine.effect s op).dirs = s.dirs :=
      effect_change.dirs_eq fun path heq => hop (by rw [heq]; rfl)
    exact ⟨fun path _ => by rw [effect_change.files_eq hop], fun dir => .inl (by rw [hdirs])⟩
  · exact absurd hfile hop

/-- Such an operation leaves the rest of the node alone. -/
private theorem responds_untouched {s s' : Node} {op : Op} {r : Except Error op.Res}
    (hop : Confines plat op) (h : Responds (c.on plat.machine) A s op r s') :
    Untouched plat c s s' := by
  obtain ⟨s₁, hresp, rfl | ⟨_, module, rfl, rfl⟩⟩ := Conduct.responds h
  · have hoff : ∀ address, inSet (scope plat) address = false →
        op.device ≠ some address ∨ op.kind.Quiet := by
      intro address hout
      rcases hop with hquiet | ⟨hstays, _⟩
      · exact .inr hquiet
      · refine .inl fun hdevice => ?_
        rw [hstays address hdevice] at hout
        cases hout
    constructor
    · intro address hout
      refine responds_board address ((hoff address hout).imp_right fun hquiet => ?_) hresp
      rcases hquiet with hk | hk | hk | hk <;> rw [hk] <;> exact ⟨by decide, by decide⟩
    · intro address hout
      refine .inl (responds_driver address ((hoff address hout).imp_right fun hquiet => ?_) hresp)
      rcases hquiet with hk | hk | hk | hk <;> rw [hk] <;> exact ⟨by decide, by decide⟩
    · by_cases hfile : op.kind = .file
      · rcases hop with hquiet | ⟨_, hboot⟩
        · rcases hquiet with hk | hk | hk | hk <;> cases hfile.symm.trans hk
        · exact Modules.responds_confined (hboot hfile) hresp
      · exact confined_of_not_file hfile hresp
  · exact untouched_load plat c module s

/-- So a program of these leaves it alone. -/
theorem runs_untouched {α : Type} {p : Provision α} {out : Outcome Error α}
    (h : Runs (c.on plat.machine) A p node out node' t) (hops : ∀ e ∈ t, Confines plat e.op) :
    Untouched plat c node node' :=
  (h.keeps (I := Untouched plat c node)
    (fun e he _ _ _ hs hresp => hs.trans (responds_untouched (hops e he) hresp))
    (.refl plat c node)).1

/-! ## Deeds -/

/-- A deed on a node with some conduct. -/
inductive StepOn (plat : Platform) (c : Conduct) : Deed → Node → Node → Prop where
  | status {probe all : Bool} {out : Outcome Error (List DeviceState × List (String × String))}
      {node node' : Node} {t : List (Event Op Node)}
      (h : Runs (c.on plat.machine) .hostile (status plat probe all) node out node' t) :
      StepOn plat c (.status probe all) node node'
  | apply (proc : Idle.Proc) {mode : Mode} {out : Outcome Error Unit} {torn : Bool}
      {node node' : Node} {t : List (Event Op Node)}
      (h : Runs (c.on ({ plat with proc := proc }.machineFor torn)) .hostile
        (apply { plat with proc := proc } mode) node out node' t) :
      StepOn plat c (.apply mode out torn) node node'
  | uninstall {out : Outcome Error Unit} {node node' : Node} {t : List (Event Op Node)}
      (h : Runs (c.on plat.machine) .hostile (uninstall plat) node out node' t) :
      StepOn plat c (.uninstall out) node node'
  | reboot (pick : HostPick) (node : Node) :
      StepOn plat c (.reboot pick) node (reboot plat pick node)

/-- On a calm node that is what a deed was. -/
theorem stepOn_calm {deed : Deed} :
    StepOn plat .calm deed node node' ↔ Step plat deed node node' := by
  constructor
  · intro h
    cases h with
    | status h => exact .status (by rwa [Conduct.on_calm] at h)
    | apply proc h => exact .apply proc (by rwa [Conduct.on_calm] at h)
    | uninstall h => exact .uninstall (by rwa [Conduct.on_calm] at h)
    | reboot pick => exact .reboot pick node
  · intro h
    cases h with
    | status h => exact .status (by rwa [Conduct.on_calm])
    | apply proc h => exact .apply proc (by rwa [Conduct.on_calm])
    | uninstall h => exact .uninstall (by rwa [Conduct.on_calm])
    | reboot pick => exact .reboot pick node

private theorem on_within (plat : Platform) (c : Conduct) (torn : Bool) :
    (c.on (plat.machineFor torn)).Within (c.on plat.machine) where
  answer := by cases torn <;> rfl
  fallible _ _ hop := by cases torn <;> exact hop
  residual s op residue := by
    cases torn with
    | true => exact ⟨residue, rfl⟩
    | false => cases residue with
      | nothing | partly contents => exact ⟨.nothing, rfl⟩
      | applied => exact ⟨.applied, rfl⟩

/-- Every deed but a reboot. -/
theorem StepOn.untouched {deed : Deed} (hno : ∀ pick, deed ≠ .reboot pick)
    (h : StepOn plat c deed node node') : Untouched plat c node node' := by
  cases h with
  | status h => exact runs_untouched h fun e he => .inl (h.events_of_uses (status_uses _ _) e he)
  | apply proc h =>
      have hrest := runs_untouched (h.weaken (on_within _ c _)) (apply_confined h)
      exact ⟨hrest.board, hrest.driver, hrest.confined⟩
  | uninstall h =>
      refine runs_untouched h fun e he => Confines.of_file ?_
      exact h.events_of_uses (Modules.program_onBootFiles plat.hostRoot .unpersist) e he
  | reboot pick => exact absurd rfl (hno pick)

end Main

end KataDeviceProvisioner.Ports
