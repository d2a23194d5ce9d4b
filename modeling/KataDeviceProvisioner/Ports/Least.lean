import KataDeviceProvisioner.Ports.NvidiaHistory
import KataDeviceProvisioner.Verified.Potential

/-!
# No mode change does with less

A write takes a moment and a reset takes the device away from whoever has it, so
a mode change should come with as few of either as there can be.  `apply_least`
says that no program, reading what it likes in whatever order, brings a settled
board into a mode with fewer writes or fewer resets than `apply` does.
-/

namespace KataDeviceProvisioner.Ports.Nvidia

open KataDeviceProvisioner.Verified

variable {plat : Platform} {A : Adversary} {node node' : Node} {t : List (Event Op Node)}
  {states : List DeviceState} {mode : Mode}

/-! ## What is left to do -/

/-- One write brings a device no more than one write nearer to the mode. -/
theorem writesFor_write_le (supports : String → Bool) (handle : Handle) (knobs : Knobs)
    (mode : Mode) (w : Write) :
    (writesFor (handle.view supports knobs).1 (handle.view supports knobs).2 mode).length ≤
      (writesFor (handle.view supports (knobs.write w)).1
        (handle.view supports (knobs.write w)).2 mode).length + 1 := by
  obtain ⟨cc, ppcie⟩ := knobs
  cases handle with
  | gpu address =>
      by_cases hs : supports address = true
      · simp only [Handle.view, hs, if_true]
        cases cc <;> cases ppcie <;> cases mode <;> rcases w with m | m <;> cases m <;> decide
      · simp only [Handle.view, hs]
        cases cc <;> cases ppcie <;> cases mode <;> rcases w with m | m <;> cases m <;> decide
  | switch address =>
      simp only [Handle.view]
      cases cc <;> cases ppcie <;> cases mode <;> rcases w with m | m <;> cases m <;> decide

/-- The writes a device is short of the mode. -/
def writesDue (plat : Platform) (mode : Mode) (node : Node) (state : DeviceState) : Nat :=
  match Handle.of state with
  | none => 0
  | some handle =>
      (writesFor (plat.view handle (node.board state.address).knob).1
        (plat.view handle (node.board state.address).knob).2 mode).length

/-- The resets a device is short of running the mode. -/
def resetsDue (plat : Platform) (mode : Mode) (node : Node) (state : DeviceState) : Nat :=
  match Handle.of state with
  | none => 0
  | some handle =>
      if plat.view handle (node.board state.address).active = plat.view handle mode.targets then 0
      else 1

/-- What an operation can make of the firmware of a device. -/
theorem responds_firmware {s s' : Node} {op : Op} {r : Except Error op.Res} (address : String)
    (h : Responds plat.machine A s op r s') :
    s'.board address = s.board address ∨ op.device = some address ∧
      ((op.kind = .write ∧ ∃ w, s'.board address = (s.board address).write w) ∨
        (op.kind = .reset ∧ s'.board address = (s.board address).reset)) := by
  by_cases hop : op.device = some address
  · cases op with
    | setCc a mode =>
        obtain rfl : a = address := Option.some.inj hop
        have hset : Responds plat.machine A s ((Handle.gpu a).writeOp (.cc mode)) r s' := h
        obtain rfl | rfl := responds_write hset
        · exact .inl rfl
        · exact .inr ⟨hop, .inl ⟨rfl, .cc mode, by simp [Platform.writeKnob, Handle.address]⟩⟩
    | setPpcie handle mode =>
        obtain rfl : handle.address = address := Option.some.inj hop
        have hset : Responds plat.machine A s (handle.writeOp (.ppcie mode)) r s' := h
        obtain rfl | rfl := responds_write hset
        · exact .inl rfl
        · exact .inr ⟨hop, .inl ⟨rfl, .ppcie mode, by simp [Platform.writeKnob]⟩⟩
    | reset handle =>
        obtain rfl : handle.address = address := Option.some.inj hop
        obtain rfl | rfl := responds_reset h
        · exact .inl rfl
        · exact .inr ⟨hop, .inr ⟨rfl, by simp [Platform.resetDevice]⟩⟩
    | _ => exact .inl (responds_board address (.inr ⟨by simp [Op.kind], by simp [Op.kind]⟩) h)
  · exact .inl (responds_board address (.inl hop) h)

/-- A sum over the devices that only operations of one kind lower, each that of
its own device and by one. -/
private theorem sum_step (hnodup : (states.map (·.address)).Nodup) {op : Op} {kind : OpKind}
    {f g : DeviceState → Nat} (hkind : op.kind ≠ kind → ∀ state, f state = g state)
    (hdevice : ∀ state, op.device ≠ some state.address → f state = g state)
    (hone : ∀ state, f state ≤ g state + 1) :
    (states.map f).sum ≤ (states.map g).sum + if op.kind == kind then 1 else 0 := by
  by_cases h : op.kind = kind
  · rw [if_pos (by simp [h])]
    cases hop : op.device with
    | none =>
        rw [List.map_congr_left fun state _ => hdevice state (by simp [hop])]
        omega
    | some address =>
        refine sum_map_le (k := address) hnodup (fun state _ hne => ?_) fun state _ _ => hone state
        refine hdevice state fun hsame => hne ?_
        rw [hop] at hsame
        exact (Option.some.inj hsame).symm
  · rw [List.map_congr_left fun state _ => hkind h state]
    omega

/-- Only a write brings the board nearer to the mode, and by one. -/
private theorem writesDue_step (hnodup : (states.map (·.address)).Nodup) {op : Op} {s s' : Node}
    {r : Except Error op.Res} (h : Responds plat.machine A s op r s') :
    (states.map (writesDue plat mode s)).sum ≤
      (states.map (writesDue plat mode s')).sum + if op.kind == .write then 1 else 0 := by
  have hsame : ∀ state : DeviceState,
      (s'.board state.address).knob = (s.board state.address).knob →
      writesDue plat mode s state = writesDue plat mode s' state := by
    intro state hknob
    unfold writesDue
    rw [hknob]
  refine sum_step hnodup (fun hkind state => hsame state ?_) (fun state hop => hsame state ?_)
    fun state => ?_
  · rcases responds_firmware state.address h with hboard | ⟨_, ⟨hwrite, _⟩ | ⟨_, hboard⟩⟩
    · rw [hboard]
    · exact absurd hwrite hkind
    · rw [hboard, Firmware.reset_knob]
  · rcases responds_firmware state.address h with hboard | ⟨hdevice, _⟩
    · rw [hboard]
    · exact absurd hdevice hop
  · rcases responds_firmware state.address h with hboard | ⟨_, ⟨_, w, hboard⟩ | ⟨_, hboard⟩⟩
    · rw [hsame state (by rw [hboard])]
      omega
    · unfold writesDue
      cases Handle.of state with
      | none => exact Nat.zero_le _
      | some handle =>
          rw [hboard]
          exact writesFor_write_le _ _ _ _ w
    · rw [hsame state (by rw [hboard, Firmware.reset_knob])]
      omega

/-- Only a reset brings the board nearer to running the mode, and by one. -/
private theorem resetsDue_step (hnodup : (states.map (·.address)).Nodup) {op : Op} {s s' : Node}
    {r : Except Error op.Res} (h : Responds plat.machine A s op r s') :
    (states.map (resetsDue plat mode s)).sum ≤
      (states.map (resetsDue plat mode s')).sum + if op.kind == .reset then 1 else 0 := by
  have hsame : ∀ state : DeviceState,
      (s'.board state.address).active = (s.board state.address).active →
      resetsDue plat mode s state = resetsDue plat mode s' state := by
    intro state hactive
    unfold resetsDue
    rw [hactive]
  refine sum_step hnodup (fun hkind state => hsame state ?_) (fun state hop => hsame state ?_)
    fun state => ?_
  · rcases responds_firmware state.address h with hboard | ⟨_, ⟨_, w, hboard⟩ | ⟨hreset, _⟩⟩
    · rw [hboard]
    · rw [hboard, Firmware.write_active]
    · exact absurd hreset hkind
  · rcases responds_firmware state.address h with hboard | ⟨hdevice, _⟩
    · rw [hboard]
    · exact absurd hdevice hop
  · have hle : resetsDue plat mode s state ≤ 1 := by
      unfold resetsDue
      split
      · exact Nat.zero_le 1
      · split <;> omega
    omega

/-! ## What the planner plans -/

theorem length_writeOps (node : Node) :
    (writeOps (plansFor plat node.board mode states)).length =
      (states.map (writesDue plat mode node)).sum := by
  induction states with
  | nil => rfl
  | cons state states ih =>
      rw [List.map_cons, List.sum_cons, ← ih]
      unfold plansFor writesDue
      cases hof : Handle.of state with
      | none =>
          rw [List.filterMap_cons_none (by simp [planOf, hof]), Nat.zero_add]
      | some handle =>
          rw [List.filterMap_cons_some (by rw [planOf, hof]; rfl), writeOps, List.flatMap_cons,
            List.length_append, List.length_map]
          rfl

/-- On a settled board the devices that are reset are those that do not run the
mode. -/
theorem length_resetOps (hsettled : Settled plat states node) :
    (resetOps (plansFor plat node.board mode states)).length =
      (states.map (resetsDue plat mode node)).sum := by
  induction states with
  | nil => rfl
  | cons state states ih =>
      have hrest : Settled plat states node := fun other handle ⟨hother, hof⟩ =>
        hsettled other handle ⟨List.mem_cons_of_mem state hother, hof⟩
      rw [List.map_cons, List.sum_cons, ← ih hrest]
      unfold plansFor resetsDue
      cases hof : Handle.of state with
      | none => rw [List.filterMap_cons_none (by simp [planOf, hof]), Nat.zero_add]
      | some handle =>
          have hactive := hsettled state handle ⟨List.mem_cons_self, hof⟩
          have hnil : writesFor (plat.view handle (node.board state.address).knob).1
              (plat.view handle (node.board state.address).knob).2 mode = [] ↔ _ :=
            writesFor_eq_nil_iff _ _ _ _
          rw [List.filterMap_cons_some (by rw [planOf, hof]; rfl), resetOps, List.length_map,
            pending, List.filter_cons]
          dsimp only
          rw [hactive]
          by_cases hat : plat.view handle (node.board state.address).knob =
              plat.view handle mode.targets
          · rw [if_pos hat, if_neg (by simpa using hnil.mpr hat), Nat.zero_add]
            simp [resetOps, pending]
          · rw [if_neg hat, if_pos (by simpa using fun h => hat (hnil.mp h))]
            simp [resetOps, pending, Nat.add_comm]

/-- In the mode, nothing is left to do. -/
theorem due_inMode (h : InMode plat states mode node) :
    (states.map (writesDue plat mode node)).sum = 0 ∧
      (states.map (resetsDue plat mode node)).sum = 0 := by
  constructor
  · refine List.sum_eq_zero_iff_forall_eq_nat.mpr (List.forall_mem_map.mpr fun state hstate => ?_)
    unfold writesDue
    cases hof : Handle.of state with
    | none => rfl
    | some handle =>
        have hnil := (writesFor_eq_nil_iff plat.gpuSupportsPpcie handle
          (node.board state.address).knob mode).mpr (h state handle ⟨hstate, hof⟩).1
        exact List.length_eq_zero_iff.mpr hnil
  · refine List.sum_eq_zero_iff_forall_eq_nat.mpr (List.forall_mem_map.mpr fun state hstate => ?_)
    unfold resetsDue
    cases hof : Handle.of state with
    | none => rfl
    | some handle => exact if_pos (h state handle ⟨hstate, hof⟩).2

/-! ## The run -/

/-- How many operations of a kind there are in a trace. -/
def issued (kind : OpKind) (t : List (Event Op Node)) : Nat :=
  t.countP fun e => e.op.kind == kind

theorem issued_append (kind : OpKind) (t t' : List (Event Op Node)) :
    issued kind (t ++ t') = issued kind t + issued kind t' := List.countP_append

theorem issued_none {kind : OpKind} (h : ∀ e ∈ t, e.op.kind ≠ kind) : issued kind t = 0 :=
  List.countP_eq_zero.mpr (by simpa using h)

/-- A script of operations of one kind. -/
theorem issued_script {kind : OpKind} {ops : List Op} (hops : t.map (·.op) = ops)
    (h : ∀ op ∈ ops, op.kind = kind) : issued kind t = ops.length := by
  have hall : ∀ e ∈ t, e.op.kind = kind := fun e he => h e.op (hops ▸ List.mem_map_of_mem he)
  rw [← hops, List.length_map]
  exact List.countP_eq_length.mpr (by simpa using hall)

/-- What an undisturbed run issues is what was planned. -/
theorem issued_absent (plat : Platform) (states : List DeviceState) (mode : Mode) (node : Node) :
    issued .write (exec plat.machine (apply plat states mode) [] node).events =
        (writeOps (plansFor plat node.board mode states)).length ∧
      issued .reset (exec plat.machine (apply plat states mode) [] node).events =
        (resetOps (plansFor plat node.board mode states)).length := by
  obtain ⟨s₁, t₀, t₁, t₂, t₃, htrace, _, hprobe, hwrite, hreset, hverify⟩ :=
    boardRun_absent (apply_boardRun (exec_runs_absent plat.machine (apply plat states mode) node))
  obtain ⟨hwrites, _⟩ := hwrite.complete rfl
  obtain ⟨hresets, _⟩ := hreset.complete rfl
  have hwriteOps : ∀ op ∈ writeOps (plansFor plat node.board mode states),
      op.kind = .write := by
    intro op hop
    obtain ⟨plan, _, w, _, rfl, _⟩ := mem_writeOps hop
    exact Handle.writeOp_kind _ _
  have hresetOps : ∀ op ∈ resetOps (plansFor plat node.board mode states),
      op.kind = .reset := by
    intro op hop
    obtain ⟨plan, _, _, rfl⟩ := mem_resetOps hop
    exact Handle.reset_kind _
  have hprobes : ∀ {kind : OpKind} {t : List (Event Op Node)}, kind ≠ .probe →
      (∀ e ∈ t, ProbesBoard states e.op) → issued kind t = 0 := by
    intro kind t hkind hall
    refine issued_none fun e he heq => hkind ?_
    obtain ⟨_, _, _, hprobing, _⟩ := hall e he
    rw [← heq, hprobing]
  have hother : ∀ {kind kind' : OpKind} {t : List (Event Op Node)} {ops : List Op}, kind ≠ kind' →
      t.map (·.op) = ops → (∀ op ∈ ops, op.kind = kind) → issued kind' t = 0 := by
    intro kind kind' t ops hne hops hall
    refine issued_none fun e he heq => hne ?_
    rw [← heq, hall e.op (hops ▸ List.mem_map_of_mem he)]
  rw [htrace]
  simp only [issued_append]
  constructor
  · rw [hprobes (by decide) hprobe, hprobes (by decide) fun e he => (hverify e he).1,
      issued_script hwrites hwriteOps, hother (by decide) hresets hresetOps]
    omega
  · rw [hprobes (by decide) hprobe, hprobes (by decide) fun e he => (hverify e he).1,
      issued_script hresets hresetOps, hother (by decide) hwrites hwriteOps]
    omega

/-- A board that runs what its knobs hold is brought into a mode, and no program
brings it there with fewer writes or with fewer resets, whatever it does and
whatever fails on the way. -/
theorem apply_least (hnodup : (states.map (·.address)).Nodup)
    (hsettled : Settled plat states node) (mode : Mode) :
    InMode plat states mode (exec plat.machine (apply plat states mode) [] node).state ∧
      ∀ {α : Type} {p : Provision α} {A : Adversary} {out : Outcome Error α} {node' : Node}
        {t : List (Event Op Node)}, Runs plat.machine A p node out node' t →
        InMode plat states mode node' →
        issued .write (exec plat.machine (apply plat states mode) [] node).events ≤
            issued .write t ∧
          issued .reset (exec plat.machine (apply plat states mode) [] node).events ≤
            issued .reset t := by
  constructor
  · have hboard := apply_boardRun (exec_runs_absent plat.machine (apply plat states mode) node)
    obtain ⟨_, _, _, _, _, _, hdone, _⟩ := boardRun_absent hboard
    rw [hdone] at hboard
    refine (hboard.inMode_iff hnodup).mpr fun state handle hopen hknob => ?_
    rw [AtTargets, hsettled state handle hopen]
    exact hknob
  · intro α p A out node' t h hmode
    obtain ⟨hwrites, hresets⟩ := issued_absent plat states mode node
    obtain ⟨hwritten, hreset⟩ := due_inMode hmode
    have hwriting : (states.map (writesDue plat mode node)).sum ≤
        (states.map (writesDue plat mode node')).sum + issued .write t :=
      h.potential (fun s => (states.map (writesDue plat mode s)).sum)
        (fun op => op.kind == .write) fun _ _ _ _ => writesDue_step hnodup
    have hresetting : (states.map (resetsDue plat mode node)).sum ≤
        (states.map (resetsDue plat mode node')).sum + issued .reset t :=
      h.potential (fun s => (states.map (resetsDue plat mode s)).sum)
        (fun op => op.kind == .reset) fun _ _ _ _ => resetsDue_step hnodup
    constructor
    · rw [hwrites, length_writeOps]
      omega
    · rw [hresets, length_resetOps hsettled]
      omega

/-- A whole baseboard, against a program that goes there, back and there again. -/
theorem apply_least_baseboard :
    let plat := Bench.platform Bench.baseboard
    let states := Bench.states Bench.baseboard
    let node := Bench.node (fun _ => Bench.settled .off .off) fun _ => none
    let again := do
      let _ ← apply plat states .on
      let _ ← apply plat states .off
      apply plat states .on
    InMode plat states .on (exec plat.machine (apply plat states .on) [] node).state ∧
      issued .write (exec plat.machine (apply plat states .on) [] node).events ≤
        issued .write (exec plat.machine again [] node).events ∧
      issued .reset (exec plat.machine (apply plat states .on) [] node).events ≤
        issued .reset (exec plat.machine again [] node).events := by
  intro plat states node again
  have hsettled : Settled plat states node := fun _ _ _ => rfl
  have hall : ∀ state ∈ states, ∀ handle, Handle.of state = some handle →
      plat.view handle ((exec plat.machine again [] node).state.board state.address).knob =
          plat.view handle (Mode.on).targets ∧
        plat.view handle ((exec plat.machine again [] node).state.board state.address).active =
          plat.view handle (Mode.on).targets := by
    intro state hstate handle hof
    obtain rfl | rfl : state = discovered Bench.pci (Bench.h100 "0000:65:00.0") ∨
        state = discovered Bench.pci (Bench.nvswitch "0000:06:00.0") := by
      simpa [states, Bench.states, Bench.baseboard] using hstate
    · obtain rfl : Handle.gpu "0000:65:00.0" = handle := Option.some.inj hof
      decide +kernel
    · obtain rfl : Handle.switch "0000:06:00.0" = handle := Option.some.inj hof
      decide +kernel
  obtain ⟨hmode, hleast⟩ := apply_least (by decide) hsettled .on
  exact ⟨hmode, hleast (exec_runs_absent plat.machine again node)
    fun state handle hopen => hall state hopen.1 handle hopen.2⟩

end KataDeviceProvisioner.Ports.Nvidia
