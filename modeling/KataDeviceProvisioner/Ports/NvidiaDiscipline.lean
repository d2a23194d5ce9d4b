import KataDeviceProvisioner.Ports.Bench
import KataDeviceProvisioner.Ports.NvidiaBoard

/-!
# The order a board is changed in

PPCIE only works if no device is reset before every device of the board carries
the knob.  `Discipline` says what the trace of a mode change looks like however
the run ends, and `apply_discipline` that every run keeps to it.
-/

namespace KataDeviceProvisioner.Ports

open KataDeviceProvisioner.Verified

/-- Neither a knob write nor a reset. -/
def Op.Silent (op : Op) : Prop := op.kind ≠ .write ∧ op.kind ≠ .reset

/-- The operations of one kind that were issued on one device, in order. -/
def issuedOn (kind : OpKind) (address : String) (t : List (Event Op Node)) : List Op :=
  (t.map (·.op)).filter fun op => op.kind = kind ∧ op.device = some address

namespace Nvidia

variable {plat : Platform} {A : Adversary} {node node' : Node} {t : List (Event Op Node)}
  {states : List DeviceState} {mode : Mode}

theorem ProbesBoard.silent {op : Op} (h : ProbesBoard states op) : op.Silent := by
  obtain ⟨_, _, _, hkind, _⟩ := h
  unfold Op.Silent
  rw [hkind]
  exact ⟨by decide, by decide⟩

/-! ## The trace, cut at the phases -/

/-- The trace of a mode change: it probes, writes, resets and probes again, and
gets to a phase only after the phase before it was completed. -/
structure Phased (plat : Platform) (states : List DeviceState) (mode : Mode) (node : Node)
    (completed : Prop) (t₀ t₁ t₂ t₃ : List (Event Op Node)) : Prop where
  probing : ∀ e ∈ t₀, ProbesBoard states e.op
  probed : t₁ ++ (t₂ ++ t₃) ≠ [] → ∀ e ∈ t₀, e.ok = true
  writing : t₁.map (·.op) <+: writeOps (plansFor plat node.board mode states)
  writing_ok : t₁.Pairwise fun e _ => e.ok = true
  written : t₂ ++ t₃ ≠ [] ∨ completed →
    t₁.map (·.op) = writeOps (plansFor plat node.board mode states) ∧ ∀ e ∈ t₁, e.ok = true
  resetting : t₂.map (·.op) <+: resetOps (plansFor plat node.board mode states)
  resetting_ok : t₂.Pairwise fun e _ => e.ok = true
  resetting_at : ∀ e ∈ t₂,
    AllAtTargets plat mode (plansFor plat node.board mode states) e.before
  wasReset : t₃ ≠ [] ∨ completed →
    t₂.map (·.op) = resetOps (plansFor plat node.board mode states) ∧ ∀ e ∈ t₂, e.ok = true
  verifying : ∀ e ∈ t₃, ProbesBoard states e.op

/-- Every run of a mode change has such a trace. -/
theorem BoardRun.phased {out : Outcome Error (List (String × Transition))}
    (h : BoardRun plat A states mode node out node' t) :
    ∃ t₀ t₁ t₂ t₃, t = t₀ ++ (t₁ ++ (t₂ ++ t₃)) ∧
      Phased plat states mode node (∃ outcomes, out = .done outcomes) t₀ t₁ t₂ t₃ := by
  have hprobe : ∀ {out : Outcome Error (List Planned)} {t₀ : List (Event Op Node)} {s : Node},
      Runs plat.machine A (planBoard plat states mode) node out s t₀ →
      ∀ e ∈ t₀, ProbesBoard states e.op :=
    fun hplan e he => ((planBoard_probes hplan).2 e he).1
  have hat : ∀ {s₁ s₂ : Node} {t₁ t₂ : List (Event Op Node)} {out : Outcome Error Unit},
      Scripted plat.machine A (writeOps (plansFor plat node.board mode states)) node
        (.done ()) s₁ t₁ →
      Scripted plat.machine A (resetOps (plansFor plat node.board mode states)) s₁ out s₂ t₂ →
      ∀ e ∈ t₂, AllAtTargets plat mode (plansFor plat node.board mode states) e.before := by
    intro s₁ s₂ t₁ t₂ out hwrite hreset e he plan hplan
    rw [AtTargets, (resetting_knob hreset).2 e he]
    exact writing_done hwrite plan hplan
  cases h with
  | @planning why t₀ hplan =>
      refine ⟨t, [], [], [], by simp, ?_⟩
      exact
        { probing := hprobe hplan
          probed := by simp
          writing := List.nil_prefix
          writing_ok := .nil
          written := by simp
          resetting := List.nil_prefix
          resetting_ok := .nil
          resetting_at := by simp
          wasReset := by simp
          verifying := by simp }
  | @writing why s₁ t₀ t₁ hplan hwrite =>
      refine ⟨t₀, t₁, [], [], by simp, ?_⟩
      exact
        { probing := hprobe hplan
          probed := fun _ => planBoard_strict states mode _ _ _ _ hplan
          writing := hwrite.ops_isPrefix
          writing_ok := hwrite.pairwise_ok
          written := by simp
          resetting := List.nil_prefix
          resetting_ok := .nil
          resetting_at := by simp
          wasReset := by simp
          verifying := by simp }
  | @resetting why s₁ s₂ t₀ t₁ t₂ hplan hwrite hreset =>
      obtain ⟨hops, hok, _⟩ := hwrite.complete rfl
      refine ⟨t₀, t₁, t₂, [], by simp, ?_⟩
      exact
        { probing := hprobe hplan
          probed := fun _ => planBoard_strict states mode _ _ _ _ hplan
          writing := hwrite.ops_isPrefix
          writing_ok := hwrite.pairwise_ok
          written := fun _ => ⟨hops, hok⟩
          resetting := hreset.ops_isPrefix
          resetting_ok := hreset.pairwise_ok
          resetting_at := hat hwrite hreset
          wasReset := by simp
          verifying := by simp }
  | @verifying out s₁ s₂ t₀ t₁ t₂ t₃ hplan hwrite hreset hverify =>
      obtain ⟨hops, hok, _⟩ := hwrite.complete rfl
      obtain ⟨hresetOps, hresetOk, _⟩ := hreset.complete rfl
      refine ⟨t₀, t₁, t₂, t₃, rfl, ?_⟩
      exact
        { probing := hprobe hplan
          probed := fun _ => planBoard_strict states mode _ _ _ _ hplan
          writing := hwrite.ops_isPrefix
          writing_ok := hwrite.pairwise_ok
          written := fun _ => ⟨hops, hok⟩
          resetting := hreset.ops_isPrefix
          resetting_ok := hreset.pairwise_ok
          resetting_at := hat hwrite hreset
          wasReset := fun _ => ⟨hresetOps, hresetOk⟩
          verifying := fun e he => ((verifies_run hverify).2.1 e he).1 }

/-! ## What one device gets -/

theorem issuedOn_append (kind : OpKind) (address : String) (t t' : List (Event Op Node)) :
    issuedOn kind address (t ++ t') = issuedOn kind address t ++ issuedOn kind address t' := by
  simp [issuedOn]

theorem issuedOn_eq_nil {kind : OpKind} {address : String}
    (h : ∀ e ∈ t, e.op.kind ≠ kind) : issuedOn kind address t = [] := by
  unfold issuedOn
  rw [List.filter_eq_nil_iff]
  intro op hop
  obtain ⟨e, he, rfl⟩ := List.mem_map.mp hop
  simp [h e he]

theorem silent_of_issuedOn {address : String} (hwrite : issuedOn .write address t = [])
    (hreset : issuedOn .reset address t = []) {e : Event Op Node} (he : e ∈ t)
    (hdevice : e.op.device = some address) : e.op.Silent := by
  unfold issuedOn at hwrite hreset
  rw [List.filter_eq_nil_iff] at hwrite hreset
  have hmem : e.op ∈ t.map (·.op) := List.mem_map_of_mem he
  constructor
  · intro hkind
    exact hwrite _ hmem (by simp [hkind, hdevice])
  · intro hkind
    exact hreset _ hmem (by simp [hkind, hdevice])

theorem Openable.planned {board : String → Firmware} {state : DeviceState} {handle : Handle}
    (h : Openable states state handle) :
    ∃ plan ∈ plansFor plat board mode states, plan.state = state ∧ plan.handle = handle := by
  have hmem : ∀ writes : List Write,
      writes = writesFor (plat.view handle (board handle.address).knob).1
        (plat.view handle (board handle.address).knob).2 mode →
      ({ state := state, handle := handle, writes := writes } : Planned) ∈
        plansFor plat board mode states :=
    fun writes hwrites => mem_plansFor.mpr ⟨h, hwrites⟩
  exact ⟨_, hmem _ rfl, rfl, rfl⟩

/-- The planned devices have distinct addresses if the board's have. -/
theorem nodup_plansFor {board : String → Firmware} (h : (states.map (·.address)).Nodup) :
    ((plansFor plat board mode states).map fun plan => some plan.handle.address).Nodup := by
  have hsub : List.Sublist ((plansFor plat board mode states).map fun plan =>
      some plan.handle.address) (states.map fun state => some state.address) := by
    clear h
    induction states with
    | nil => exact .slnil
    | cons state states ih =>
        cases hof : Handle.of state with
        | none =>
            have hplan : planOf plat board mode state = none := by simp [planOf, hof]
            rw [plansFor, List.filterMap_cons_none hplan, List.map_cons]
            exact ih.cons _
        | some handle =>
            have haddress : handle.address = state.address := Handle.of_address hof
            rw [plansFor, List.filterMap_cons_some
              (show planOf plat board mode state = some _ by rw [planOf, hof]; rfl),
              List.map_cons, List.map_cons, haddress]
            exact ih.cons_cons _
  refine List.Nodup.sublist hsub ?_
  have hmap : (states.map fun state => some state.address) =
      (states.map (·.address)).map some := by rw [List.map_map]; rfl
  rw [hmap]
  exact h.map (Option.some_injective String)

/-- The writes a device gets are the ones planned for it. -/
theorem writeOps_on {plans : List Planned}
    (hnodup : (plans.map fun plan => some plan.handle.address).Nodup) {plan : Planned}
    (hplan : plan ∈ plans) :
    (writeOps plans).filter (fun op => op.kind = .write ∧ op.device = some plan.handle.address) =
      plan.writes.map plan.handle.writeOp := by
  have hkind : ∀ op ∈ writeOps plans, op.kind = .write := by
    intro op hop
    obtain ⟨plan', _, hmem⟩ := List.mem_flatMap.mp hop
    obtain ⟨w, _, rfl⟩ := List.mem_map.mp hmem
    exact Handle.writeOp_kind _ _
  have hcongr : (writeOps plans).filter
      (fun op => op.kind = .write ∧ op.device = some plan.handle.address) =
      (writeOps plans).filter (fun op => op.device = some plan.handle.address) := by
    refine List.filter_congr fun op hop => ?_
    simp [hkind op hop]
  rw [hcongr]
  refine filter_flatMap_of_nodup (fun plan => some plan.handle.address) hnodup
    (fun plan' _ op hop => ?_) hplan
  obtain ⟨w, _, rfl⟩ := List.mem_map.mp hop
  exact Handle.writeOp_device _ _

/-- A device is reset if anything was planned for it. -/
theorem resetOps_on {plans : List Planned}
    (hnodup : (plans.map fun plan => some plan.handle.address).Nodup) {plan : Planned}
    (hplan : plan ∈ plans) :
    (resetOps plans).filter (fun op => op.kind = .reset ∧ op.device = some plan.handle.address) =
      if plan.writes = [] then [] else [.reset plan.handle] := by
  have hflat : resetOps plans =
      plans.flatMap fun plan => if plan.writes = [] then [] else [Op.reset plan.handle] := by
    have hnone : ∀ plan ∈ plans, (!plan.writes.isEmpty) = false →
        (if plan.writes = [] then [] else [Op.reset plan.handle]) = [] := by
      intro plan _ hempty
      have hnil : plan.writes = [] := by simpa using hempty
      rw [if_pos hnil]
    rw [← flatMap_filter_of_eq_nil hnone, resetOps, List.map_eq_flatMap]
    refine List.flatMap_congr fun plan hpending => ?_
    rw [if_neg (mem_pending.mp hpending).2]
  have hkind : ∀ op ∈ resetOps plans, op.kind = .reset := by
    intro op hop
    obtain ⟨plan', _, _, rfl⟩ := mem_resetOps hop
    rfl
  have hcongr : (resetOps plans).filter
      (fun op => op.kind = .reset ∧ op.device = some plan.handle.address) =
      (resetOps plans).filter (fun op => op.device = some plan.handle.address) := by
    refine List.filter_congr fun op hop => ?_
    simp [hkind op hop]
  rw [hcongr, hflat]
  refine filter_flatMap_of_nodup (fun plan => some plan.handle.address)
    (f := fun plan => if plan.writes = [] then [] else [Op.reset plan.handle]) hnodup
    (fun plan' _ op hop => ?_) hplan
  by_cases hnil : plan'.writes = []
  · simp [hnil] at hop
  · rw [if_neg hnil, List.mem_singleton] at hop
    rw [hop]
    rfl

namespace Phased

variable {completed : Prop} {t₀ t₁ t₂ t₃ : List (Event Op Node)}

theorem write_op (h : Phased plat states mode node completed t₀ t₁ t₂ t₃) :
    ∀ e ∈ t₁, e.op.kind = .write ∧
      ∃ state handle, Openable states state handle ∧ e.op.device = some state.address := by
  intro e he
  obtain ⟨plan, hplan, w, _, hop, _⟩ :=
    mem_writeOps (h.writing.subset (List.mem_map_of_mem he))
  obtain ⟨hopen, _⟩ := mem_plansFor.mp hplan
  rw [hop, Handle.writeOp_kind, Handle.writeOp_device]
  exact ⟨rfl, plan.state, plan.handle, hopen, by rw [Handle.of_address hopen.2]⟩

theorem reset_op (h : Phased plat states mode node completed t₀ t₁ t₂ t₃) :
    ∀ e ∈ t₂, e.op.kind = .reset ∧
      ∃ state handle, Openable states state handle ∧ e.op.device = some state.address := by
  intro e he
  obtain ⟨plan, hplan, _, hop⟩ := mem_resetOps (h.resetting.subset (List.mem_map_of_mem he))
  obtain ⟨hopen, _⟩ := mem_plansFor.mp hplan
  rw [hop, Handle.reset_device]
  exact ⟨rfl, plan.state, plan.handle, hopen, by rw [Handle.of_address hopen.2]⟩

/-- Where an event of a mode change stands, by what it is. -/
theorem mem_writing (h : Phased plat states mode node completed t₀ t₁ t₂ t₃)
    {e : Event Op Node} (he : e ∈ t₀ ++ (t₁ ++ (t₂ ++ t₃))) (hkind : e.op.kind = .write) :
    e ∈ t₁ := by
  rcases List.mem_append.mp he with he | he
  · exact absurd hkind (h.probing e he).silent.1
  rcases List.mem_append.mp he with he | he
  · exact he
  rcases List.mem_append.mp he with he | he
  · rw [(h.reset_op e he).1] at hkind
    cases hkind
  · exact absurd hkind (h.verifying e he).silent.1

theorem mem_resetting (h : Phased plat states mode node completed t₀ t₁ t₂ t₃)
    {e : Event Op Node} (he : e ∈ t₀ ++ (t₁ ++ (t₂ ++ t₃))) (hkind : e.op.kind = .reset) :
    e ∈ t₂ := by
  rcases List.mem_append.mp he with he | he
  · exact absurd hkind (h.probing e he).silent.2
  rcases List.mem_append.mp he with he | he
  · rw [(h.write_op e he).1] at hkind
    cases hkind
  rcases List.mem_append.mp he with he | he
  · exact he
  · exact absurd hkind (h.verifying e he).silent.2

theorem issued_writes (h : Phased plat states mode node completed t₀ t₁ t₂ t₃)
    (address : String) :
    issuedOn .write address (t₀ ++ (t₁ ++ (t₂ ++ t₃))) = issuedOn .write address t₁ := by
  have hreset : ∀ e ∈ t₂, e.op.kind ≠ .write := by
    intro e he
    rw [(h.reset_op e he).1]
    decide
  rw [issuedOn_append, issuedOn_append, issuedOn_append,
    issuedOn_eq_nil fun e he => (h.probing e he).silent.1, issuedOn_eq_nil hreset,
    issuedOn_eq_nil fun e he => (h.verifying e he).silent.1]
  simp

theorem issued_resets (h : Phased plat states mode node completed t₀ t₁ t₂ t₃)
    (address : String) :
    issuedOn .reset address (t₀ ++ (t₁ ++ (t₂ ++ t₃))) = issuedOn .reset address t₂ := by
  have hwrite : ∀ e ∈ t₁, e.op.kind ≠ .reset := by
    intro e he
    rw [(h.write_op e he).1]
    decide
  rw [issuedOn_append, issuedOn_append, issuedOn_append,
    issuedOn_eq_nil fun e he => (h.probing e he).silent.2, issuedOn_eq_nil hwrite,
    issuedOn_eq_nil fun e he => (h.verifying e he).silent.2]
  simp

theorem only_openable (h : Phased plat states mode node completed t₀ t₁ t₂ t₃)
    {e : Event Op Node} (he : e ∈ t₀ ++ (t₁ ++ (t₂ ++ t₃))) (hloud : ¬e.op.Silent) :
    ∃ state handle, Openable states state handle ∧ e.op.device = some state.address := by
  by_cases hkind : e.op.kind = .write
  · exact (h.write_op e (h.mem_writing he hkind)).2
  · have hreset : e.op.kind = .reset := by
      by_contra hnot
      exact hloud ⟨hkind, hnot⟩
    exact (h.reset_op e (h.mem_resetting he hreset)).2

/-- A failed write ends the run before the first reset. -/
theorem no_reset (h : Phased plat states mode node completed t₀ t₁ t₂ t₃)
    {e : Event Op Node} (he : e ∈ t₁) (hfail : e.ok = false) : t₂ = [] := by
  by_contra hne
  have hok := (h.written (.inl (List.append_ne_nil_of_left_ne_nil hne t₃))).2 e he
  rw [hfail] at hok
  cases hok

/-- At a reset every openable device already reads back the mode. -/
theorem targets_at_reset (h : Phased plat states mode node completed t₀ t₁ t₂ t₃)
    {e : Event Op Node} (he : e ∈ t₂) {state : DeviceState} {handle : Handle}
    (hopen : Openable states state handle) :
    AtTargets plat mode handle (e.before.board state.address).knob := by
  have hplanned : ∃ plan ∈ plansFor plat node.board mode states,
      plan.state = state ∧ plan.handle = handle := hopen.planned
  obtain ⟨plan, hplan, rfl, rfl⟩ := hplanned
  rw [← Handle.of_address hopen.2]
  exact h.resetting_at e he plan hplan

/-- Nothing is written or reset after a failure. -/
theorem failure_stops (h : Phased plat states mode node completed t₀ t₁ t₂ t₃) :
    (t₀ ++ (t₁ ++ (t₂ ++ t₃))).Pairwise fun e e' => e.ok = false → e'.op.Silent := by
  have hok : ∀ {e : Event Op Node}, e.ok = true → ¬e.ok = false := by
    intro e he hfail
    rw [he] at hfail
    cases hfail
  rw [List.pairwise_append, List.pairwise_append, List.pairwise_append]
  refine ⟨List.pairwise_of_forall_mem_list fun e _ e' he' _ => (h.probing e' he').silent,
    ⟨h.writing_ok.imp fun he hfail => absurd hfail (hok he),
      ⟨h.resetting_ok.imp fun he hfail => absurd hfail (hok he),
        List.pairwise_of_forall_mem_list fun e _ e' he' _ => (h.verifying e' he').silent,
        fun e _ e' he' _ => (h.verifying e' he').silent⟩, ?_⟩, ?_⟩
  · intro e he e' he' hfail
    have hne : t₂ ++ t₃ ≠ [] := List.ne_nil_of_mem he'
    exact absurd hfail (hok ((h.written (.inl hne)).2 e he))
  · intro e he e' he' hfail
    have hne : t₁ ++ (t₂ ++ t₃) ≠ [] := List.ne_nil_of_mem he'
    exact absurd hfail (hok (h.probed hne e he))

/-- No write follows a reset. -/
theorem write_before_reset (h : Phased plat states mode node completed t₀ t₁ t₂ t₃) :
    (t₀ ++ (t₁ ++ (t₂ ++ t₃))).Pairwise fun e e' =>
      e.op.kind = .reset → e'.op.kind ≠ .write := by
  have hwrite : ∀ e ∈ t₁, e.op.kind ≠ .reset := by
    intro e he
    rw [(h.write_op e he).1]
    decide
  have hreset : ∀ e ∈ t₂, e.op.kind ≠ .write := by
    intro e he
    rw [(h.reset_op e he).1]
    decide
  rw [List.pairwise_append, List.pairwise_append, List.pairwise_append]
  refine ⟨List.pairwise_of_forall_mem_list fun e _ e' he' _ => (h.probing e' he').silent.1,
    ⟨List.pairwise_of_forall_mem_list fun e he _ _ hkind => absurd hkind (hwrite e he),
      ⟨List.pairwise_of_forall_mem_list fun e _ e' he' _ => hreset e' he',
        List.pairwise_of_forall_mem_list fun e _ e' he' _ => (h.verifying e' he').silent.1,
        fun e _ e' he' _ => (h.verifying e' he').silent.1⟩, ?_⟩, ?_⟩
  · intro e he e' _ hkind
    exact absurd hkind (hwrite e he)
  · intro e he e' _ hkind
    exact absurd hkind (h.probing e he).silent.2

end Phased

/-! ## The discipline -/

/-- What a run of a mode change does to a board, and in which order.  `planning`
is the trace of its opens and first reads. -/
structure Discipline (plat : Platform) (states : List DeviceState) (mode : Mode) (node : Node)
    (planning : List (Event Op Node))
    (run : Run Op Error Residue Node (List (String × Transition))) : Prop where
  planning_first : planning <+: run.events
  /-- If any open or first read fails, nothing is written or reset. -/
  planning_failure : (∃ e ∈ planning, e.ok = false) → ∀ e ∈ run.events, e.op.Silent
  /-- If any write fails, nothing is reset. -/
  write_failure : (∃ e ∈ run.events, e.op.kind = .write ∧ e.ok = false) →
    ∀ e ∈ run.events, e.op.kind ≠ .reset
  /-- After the first failure nothing is written or reset. -/
  failure_stops : run.events.Pairwise fun e e' => e.ok = false → e'.op.Silent
  write_before_reset : run.events.Pairwise fun e e' =>
    e.op.kind = .reset → e'.op.kind ≠ .write
  /-- At every reset the whole board already reads back the mode. -/
  targets_at_reset : ∀ e ∈ run.events, e.op.kind = .reset → ∀ state handle,
    Openable states state handle →
      AtTargets plat mode handle (e.before.board state.address).knob
  only_openable : ∀ e ∈ run.events, ¬e.op.Silent →
    ∃ state handle, Openable states state handle ∧ e.op.device = some state.address
  /-- A device whose plan is empty is never written and never reset. -/
  untouched : ∀ plan ∈ plansFor plat node.board mode states, plan.writes = [] →
    ∀ e ∈ run.events, e.op.device = some plan.state.address → e.op.Silent
  /-- A device gets its planned writes in order. -/
  writes_planned : ∀ plan ∈ plansFor plat node.board mode states,
    issuedOn .write plan.state.address run.events <+: plan.writes.map plan.handle.writeOp
  /-- It gets all of them before anything is reset, and when the run completes. -/
  writes_complete : ((∃ outcomes, run.outcome = .done outcomes) ∨
      ∃ e ∈ run.events, e.op.kind = .reset) →
    ∀ plan ∈ plansFor plat node.board mode states,
      issuedOn .write plan.state.address run.events = plan.writes.map plan.handle.writeOp
  reset_at_most_once : ∀ plan ∈ plansFor plat node.board mode states,
    (issuedOn .reset plan.state.address run.events).length ≤ 1
  /-- It is reset exactly once when the run completes. -/
  reset_once : (∃ outcomes, run.outcome = .done outcomes) →
    ∀ plan ∈ plansFor plat node.board mode states, plan.writes ≠ [] →
      issuedOn .reset plan.state.address run.events = [.reset plan.handle]

/-- The planning of a run is the beginning of its trace, and all of it unless
the planning went through. -/
private theorem planning_events (plat : Platform) (states : List DeviceState) (mode : Mode)
    (node : Node) (σ : List (Verdict Error Residue)) :
    let planning := exec plat.machine (planBoard plat states mode) σ node
    let run := exec plat.machine (apply plat states mode) σ node
    planning.events <+: run.events ∧
      ((∀ e ∈ planning.events, e.ok = true) ∨ run.events = planning.events) := by
  intro planning run
  refine ⟨exec_bind_first _, ?_⟩
  have hruns := exec_runs_hostile plat.machine (planBoard plat states mode) σ node
  cases hout : planning.outcome with
  | done plans =>
      rw [show (exec plat.machine (planBoard plat states mode) σ node).outcome = .done plans
        from hout] at hruns
      exact .inl (planBoard_strict states mode _ _ _ _ hruns)
  | stopped why =>
      have hrun : run = ⟨.stopped why, planning.state, planning.events, planning.rest⟩ :=
        exec_bind_stopped _ hout
      exact .inr (by rw [hrun])

private theorem planning_probes (σ : List (Verdict Error Residue)) :
    ∀ e ∈ (exec plat.machine (planBoard plat states mode) σ node).events, e.op.Silent :=
  fun e he =>
    ((planBoard_probes (exec_runs_hostile plat.machine _ σ node)).2 e he).1.silent

/-- Every run of a mode change keeps to the discipline: whatever fails, and
wherever the process is killed. -/
theorem apply_discipline (plat : Platform) (states : List DeviceState) (mode : Mode)
    (node : Node) (σ : List (Verdict Error Residue))
    (hnodup : (states.map (·.address)).Nodup) :
    Discipline plat states mode node
      (exec plat.machine (planBoard plat states mode) σ node).events
      (exec plat.machine (apply plat states mode) σ node) := by
  obtain ⟨hfirst, hplanning⟩ := planning_events plat states mode node σ
  have hboard := apply_boardRun (exec_runs_hostile plat.machine (apply plat states mode) σ node)
  obtain ⟨t₀, t₁, t₂, t₃, htrace, h⟩ := hboard.phased
  have hplans : ((plansFor plat node.board mode states).map fun plan =>
      some plan.handle.address).Nodup := nodup_plansFor hnodup
  have haddress : ∀ plan ∈ plansFor plat node.board mode states,
      plan.handle.address = plan.state.address :=
    fun plan hplan => Handle.of_address (mem_plansFor.mp hplan).1.2
  -- A reset in the trace means the writes before it all went through.
  have hreset : ∀ e ∈ t₀ ++ (t₁ ++ (t₂ ++ t₃)), e.op.kind = .reset → t₂ ++ t₃ ≠ [] :=
    fun e he hkind => List.ne_nil_of_mem (List.mem_append_left t₃ (h.mem_resetting he hkind))
  have hwrites : ∀ plan ∈ plansFor plat node.board mode states,
      issuedOn .write plan.state.address (t₀ ++ (t₁ ++ (t₂ ++ t₃))) <+:
        plan.writes.map plan.handle.writeOp := by
    intro plan hplan
    rw [h.issued_writes, ← writeOps_on hplans hplan, haddress plan hplan]
    exact h.writing.filter _
  have hresets : ∀ plan ∈ plansFor plat node.board mode states,
      issuedOn .reset plan.state.address (t₀ ++ (t₁ ++ (t₂ ++ t₃))) <+:
        if plan.writes = [] then [] else [.reset plan.handle] := by
    intro plan hplan
    rw [h.issued_resets, ← resetOps_on hplans hplan, haddress plan hplan]
    exact h.resetting.filter _
  rw [← htrace] at hreset hwrites hresets
  exact
    { planning_first := hfirst
      planning_failure := by
        intro hfail
        rcases hplanning with hok | heq
        · obtain ⟨e, he, hbad⟩ := hfail
          rw [hok e he] at hbad
          cases hbad
        · rw [heq]
          exact planning_probes σ
      write_failure := by
        intro ⟨e, he, hkind, hfail⟩ e' he' hreset'
        rw [htrace] at he he'
        have hnone := h.no_reset (h.mem_writing he hkind) hfail
        have hmem := h.mem_resetting he' hreset'
        rw [hnone] at hmem
        cases hmem
      failure_stops := by
        rw [htrace]
        exact h.failure_stops
      write_before_reset := by
        rw [htrace]
        exact h.write_before_reset
      targets_at_reset := by
        intro e he hkind state handle hopen
        rw [htrace] at he
        exact h.targets_at_reset (h.mem_resetting he hkind) hopen
      only_openable := by
        intro e he hloud
        rw [htrace] at he
        exact h.only_openable he hloud
      untouched := by
        intro plan hplan hnil e he hdevice
        have hwrite := hwrites plan hplan
        have hreset' := hresets plan hplan
        rw [hnil, List.map_nil, List.prefix_nil] at hwrite
        rw [if_pos hnil, List.prefix_nil] at hreset'
        exact silent_of_issuedOn hwrite hreset' he hdevice
      writes_planned := hwrites
      writes_complete := by
        intro hall plan hplan
        have hwritten := h.written (hall.symm.imp (fun ⟨e, he, hkind⟩ => hreset e he hkind) id)
        rw [htrace, h.issued_writes, issuedOn, hwritten.1, ← haddress plan hplan]
        exact writeOps_on hplans hplan
      reset_at_most_once := by
        intro plan hplan
        have hle := (hresets plan hplan).length_le
        refine hle.trans ?_
        split <;> simp
      reset_once := by
        intro hdone plan hplan hne
        rw [htrace, h.issued_resets, issuedOn, (h.wasReset (.inr hdone)).1,
          ← haddress plan hplan, resetOps_on hplans hplan, if_neg hne] }

/-- A GPU and a switch, killed between the two planned writes. -/
theorem apply_discipline_killed :
    Discipline (Bench.platform Bench.baseboard) (Bench.states Bench.baseboard) .ppcie
      (Bench.node (fun _ => Bench.settled .on .off) fun _ => none)
      (exec (Bench.platform Bench.baseboard).machine
        (planBoard (Bench.platform Bench.baseboard) (Bench.states Bench.baseboard) .ppcie)
        [.ok, .ok, .ok, .ok, .ok, .ok, .kill]
        (Bench.node (fun _ => Bench.settled .on .off) fun _ => none)).events
      (exec (Bench.platform Bench.baseboard).machine
        (apply (Bench.platform Bench.baseboard) (Bench.states Bench.baseboard) .ppcie)
        [.ok, .ok, .ok, .ok, .ok, .ok, .kill]
        (Bench.node (fun _ => Bench.settled .on .off) fun _ => none)) :=
  apply_discipline _ _ _ _ _ (by decide)

end Nvidia

end KataDeviceProvisioner.Ports
