import KataDeviceProvisioner.Ports.BootConfig
import KataDeviceProvisioner.Ports.Stages

/-!
# The order of a run

A run refuses whole, before the first change, and persists before it binds, so
that a crash leaves a node that comes back bound.  Both are about every prefix
of the trace; since a run can be killed after any operation, they are stated of
every run, however it ends.
-/

namespace KataDeviceProvisioner.Ports.Main

open KataDeviceProvisioner.Verified

variable {plat : Platform} {A : Adversary} {node node' : Node} {t : List (Event Op Node)}
  {mode : Mode} {cleared : Cleared}

/-- The boot configuration for the whole passthrough set of a run. -/
def bootConfig (cleared : Cleared) : Modules.BootConfig :=
  Modules.render (cleared.passthrough.filterMap (claimOf cleared.drivers))

/-- Every device of the passthrough set is on the driver found for it. -/
def AllBound (cleared : Cleared) (node : Node) : Prop :=
  ∀ state ∈ cleared.passthrough, ∃ driver,
    cleared.drivers.get state.address = some driver ∧
      node.driver state.address = some driver.driver

/-! ## The trace, cut at the stages -/

/-- The trace of a run from the first change on. -/
structure Staged (plat : Platform) (cleared : Cleared) (node' : Node)
    (t₁ t₂ t₃ t₄ t₅ : List (Event Op Node)) : Prop where
  changing : ∀ e ∈ t₁, e.op.kind = .probe ∨ e.op.kind = .write ∨ e.op.kind = .reset
  persisting : ∀ e ∈ t₂, e.op.kind = .file
  binding : ∀ e ∈ t₃, e.op.kind = .bind
  /-- What is rendered for the whole set is on disk at every bind, and stays
  there. -/
  persisted : t₃ ≠ [] → (∀ e ∈ t₃, Modules.OnDisk plat.hostRoot (bootConfig cleared) e.before) ∧
    Modules.OnDisk plat.hostRoot (bootConfig cleared) node' ∧
    ∀ state ∈ cleared.passthrough, (claimOf cleared.drivers state).isSome
  releasing : ∀ e ∈ t₄, e.op.kind = .look ∨ e.op.kind = .unbind
  bound : ∀ e ∈ t₄, AllBound cleared e.before
  verifying : ∀ e ∈ t₅, e.op.kind.Quiet

/-- While devices are released the passthrough set stays bound. -/
private theorem release_bound {out : Outcome Error Unit}
    (h : Runs plat.machine A (release cleared.states cleared.passthrough) node out node' t)
    (hbound : AllBound cleared node) : ∀ e ∈ t, AllBound cleared e.before := by
  intro e he state hstate
  obtain ⟨driver, hget, hdriver⟩ := hbound state hstate
  have hin : inSet cleared.passthrough state.address = true :=
    List.any_eq_true.mpr ⟨state, hstate, by simp⟩
  obtain ⟨_, _, hkeep⟩ := release_keeps h
  exact ⟨driver, hget, ((hkeep state.address hin).2 e he).trans hdriver⟩

/-- Every run from the first change on has such a trace. -/
theorem StageRun.staged {out : Outcome Error Unit}
    (h : StageRun plat A mode cleared node out node' t) :
    ∃ t₁ t₂ t₃ t₄ t₅, t = t₁ ++ (t₂ ++ (t₃ ++ (t₄ ++ t₅))) ∧
      Staged plat cleared node' t₁ t₂ t₃ t₄ t₅ := by
  have hchanging : ∀ {out : Outcome Error (List (String × Nvidia.Transition))} {s₁ : Node}
      {t₁ : List (Event Op Node)},
      Runs plat.machine A (Nvidia.apply plat cleared.states mode) node out s₁ t₁ →
      ∀ e ∈ t₁, e.op.kind = .probe ∨ e.op.kind = .write ∨ e.op.kind = .reset :=
    fun hmode e he => (mode_events hmode e he).1
  have hbinding : ∀ {out : Outcome Error Unit} {s₂ s₃ : Node} {t₃ : List (Event Op Node)},
      Runs plat.machine A (Program.forEach (bindOne cleared.drivers) cleared.passthrough) s₂
        out s₃ t₃ → ∀ e ∈ t₃, e.op.kind = .bind :=
    fun hbind e he => (hbind.events_of_uses binds_uses e he).kind
  have hreleasing : ∀ {out : Outcome Error Unit} {s₃ s₄ : Node} {t₄ : List (Event Op Node)},
      Runs plat.machine A (release cleared.states cleared.passthrough) s₃ out s₄ t₄ →
      ∀ e ∈ t₄, e.op.kind = .look ∨ e.op.kind = .unbind :=
    fun hrelease e he => (hrelease.events_of_uses release_uses e he).kind
  cases h with
  | changing hmode =>
      refine ⟨t, [], [], [], [], by simp, ?_⟩
      exact
        { changing := hchanging hmode
          persisting := by simp
          binding := by simp
          persisted := by simp
          releasing := by simp
          bound := by simp
          verifying := by simp }
  | @persisting why outcomes s₁ s₂ t₁ t₂ hmode hpersist =>
      refine ⟨t₁, t₂, [], [], [], by simp, ?_⟩
      exact
        { changing := hchanging hmode
          persisting := (persist_keeps hpersist).1
          binding := by simp
          persisted := by simp
          releasing := by simp
          bound := by simp
          verifying := by simp }
  | @binding why outcomes s₁ s₂ s₃ t₁ t₂ t₃ hmode hpersist hbind =>
      obtain ⟨hdisk, hclaims⟩ := persist_done hpersist
      obtain ⟨_, hfiles, hbefore⟩ := binds_keeps hbind
      refine ⟨t₁, t₂, t₃, [], [], by simp, ?_⟩
      exact
        { changing := hchanging hmode
          persisting := (persist_keeps hpersist).1
          binding := hbinding hbind
          persisted := fun _ =>
            ⟨fun e he => hdisk.of_files (hbefore e he), hdisk.of_files hfiles, hclaims⟩
          releasing := by simp
          bound := by simp
          verifying := by simp }
  | @releasing why outcomes s₁ s₂ s₃ s₄ t₁ t₂ t₃ t₄ hmode hpersist hbind hrelease =>
      obtain ⟨hdisk, hclaims⟩ := persist_done hpersist
      obtain ⟨_, hfiles, hbefore⟩ := binds_keeps hbind
      obtain ⟨_, hfiles', _⟩ := release_keeps hrelease
      refine ⟨t₁, t₂, t₃, t₄, [], by simp, ?_⟩
      exact
        { changing := hchanging hmode
          persisting := (persist_keeps hpersist).1
          binding := hbinding hbind
          persisted := fun _ =>
            ⟨fun e he => hdisk.of_files (hbefore e he), hdisk.of_files (hfiles'.trans hfiles),
              hclaims⟩
          releasing := hreleasing hrelease
          bound := release_bound hrelease (binds_done hbind)
          verifying := by simp }
  | @verifying out outcomes s₁ s₂ s₃ s₄ t₁ t₂ t₃ t₄ t₅ hmode hpersist hbind hrelease hverify =>
      obtain ⟨hdisk, hclaims⟩ := persist_done hpersist
      obtain ⟨_, hfiles, hbefore⟩ := binds_keeps hbind
      obtain ⟨_, hfiles', _⟩ := release_keeps hrelease
      refine ⟨t₁, t₂, t₃, t₄, t₅, rfl, ?_⟩
      exact
        { changing := hchanging hmode
          persisting := (persist_keeps hpersist).1
          binding := hbinding hbind
          persisted := fun _ =>
            ⟨fun e he => hdisk.of_files (hbefore e he), hdisk.of_files (hfiles'.trans hfiles),
              hclaims⟩
          releasing := hreleasing hrelease
          bound := release_bound hrelease (binds_done hbind)
          verifying := (verify_keeps hverify).2 }

section Staged

variable {t₁ t₂ t₃ t₄ t₅ : List (Event Op Node)}

/-- A bind stands where the passthrough set is bound. -/
theorem Staged.mem_binding (h : Staged plat cleared node' t₁ t₂ t₃ t₄ t₅)
    {e : Event Op Node} (he : e ∈ t₁ ++ (t₂ ++ (t₃ ++ (t₄ ++ t₅))))
    (hkind : e.op.kind = .bind) : e ∈ t₃ := by
  rcases List.mem_append.mp he with he | he
  · rcases h.changing e he with hk | hk | hk <;> rw [hkind] at hk <;> cases hk
  rcases List.mem_append.mp he with he | he
  · have hk := h.persisting e he
    rw [hkind] at hk
    cases hk
  rcases List.mem_append.mp he with he | he
  · exact he
  rcases List.mem_append.mp he with he | he
  · rcases h.releasing e he with hk | hk <;> rw [hkind] at hk <;> cases hk
  · rcases h.verifying e he with hk | hk | hk | hk <;> rw [hkind] at hk <;> cases hk

/-- An unbind stands where the rest is released. -/
theorem Staged.mem_releasing (h : Staged plat cleared node' t₁ t₂ t₃ t₄ t₅)
    {e : Event Op Node} (he : e ∈ t₁ ++ (t₂ ++ (t₃ ++ (t₄ ++ t₅))))
    (hkind : e.op.kind = .unbind) : e ∈ t₄ := by
  rcases List.mem_append.mp he with he | he
  · rcases h.changing e he with hk | hk | hk <;> rw [hkind] at hk <;> cases hk
  rcases List.mem_append.mp he with he | he
  · have hk := h.persisting e he
    rw [hkind] at hk
    cases hk
  rcases List.mem_append.mp he with he | he
  · have hk := h.binding e he
    rw [hkind] at hk
    cases hk
  rcases List.mem_append.mp he with he | he
  · exact he
  · rcases h.verifying e he with hk | hk | hk | hk <;> rw [hkind] at hk <;> cases hk

end Staged

/-! ## The order -/

/-- Writes the boot configuration or changes a binding. -/
def Persists (op : Op) : Prop := op.kind = .file ∨ op.kind = .bind ∨ op.kind = .unbind

/-- The order a run does things in.  `checks` is the run of the checks it begins
with. -/
structure Ordered (plat : Platform) (mode : Mode) (node : Node)
    (checks : Run Op Error Residue Node Cleared) (run : Run Op Error Residue Node Unit) :
    Prop where
  checks_first : checks.events <+: run.events
  checks_quiet : ∀ e ∈ checks.events, e.op.kind.Quiet
  /-- Nothing is changed unless the checks went through, and then every gate was
  passed. -/
  gates : (∃ e ∈ run.events, ¬e.op.kind.Quiet) →
    ∃ cleared found probed, checks.outcome = .done cleared ∧
      Gates plat mode node found probed cleared
  /-- The mode change comes next, and no file or binding is touched unless it
  returned `Ok` for the whole board. -/
  mode_first : ∀ cleared, checks.outcome = .done cleared →
    let change := exec plat.machine (Nvidia.apply plat cleared.states mode) checks.rest
      checks.state
    checks.events ++ change.events <+: run.events ∧
      (∀ e ∈ change.events, ¬Persists e.op) ∧
      ((∃ e ∈ run.events, Persists e.op) → ∃ outcomes, change.outcome = .done outcomes)
  /-- At every bind all three files are as rendered for the whole set. -/
  persisted_first : ∀ cleared, checks.outcome = .done cleared →
    ∀ e ∈ run.events, e.op.kind = .bind →
      Modules.OnDisk plat.hostRoot (bootConfig cleared) e.before
  /-- At every unbind the whole passthrough set is bound. -/
  bound_first : ∀ cleared, checks.outcome = .done cleared →
    ∀ e ∈ run.events, e.op.kind = .unbind → AllBound cleared e.before
  /-- Wherever the run ends after a bind, the boot configuration on disk covers
  the whole passthrough set. -/
  covered : ∀ cleared, checks.outcome = .done cleared →
    (∃ e ∈ run.events, e.op.kind = .bind) →
      Modules.OnDisk plat.hostRoot (bootConfig cleared) run.state ∧
        ∀ state ∈ cleared.passthrough, ∃ claim,
          claimOf cleared.drivers state = some claim ∧ Modules.Covers (bootConfig cleared) claim

theorem quiet_not_persists {op : Op} (h : op.kind.Quiet) : ¬Persists op := by
  unfold Persists
  rcases h with h | h | h | h <;> rw [h] <;> decide

/-- The mode change of a run, and what it being cut off means for the run. -/
private theorem stages_exec (plat : Platform) (mode : Mode) (cleared : Cleared)
    (σ : List (Verdict Error Residue)) (node : Node) :
    let change := exec plat.machine (Nvidia.apply plat cleared.states mode) σ node
    let run := exec plat.machine (stages plat mode cleared) σ node
    change.events <+: run.events ∧
      ((∃ outcomes, change.outcome = .done outcomes) ∨ run.events = change.events) := by
  intro change run
  have hstage : change.events <+:
      (exec plat.machine (modeStage plat cleared.states mode) σ node).events :=
    exec_bind_first _
  refine ⟨hstage.trans (exec_bind_first _), ?_⟩
  cases hout : change.outcome with
  | done outcomes => exact .inl ⟨outcomes, rfl⟩
  | stopped why =>
      have hmode : exec plat.machine (modeStage plat cleared.states mode) σ node =
          ⟨.stopped why, change.state, change.events, change.rest⟩ :=
        exec_bind_stopped _ hout
      have hrun : run = ⟨.stopped why,
          (exec plat.machine (modeStage plat cleared.states mode) σ node).state,
          (exec plat.machine (modeStage plat cleared.states mode) σ node).events,
          (exec plat.machine (modeStage plat cleared.states mode) σ node).rest⟩ :=
        exec_bind_stopped _ (by rw [hmode])
      refine .inr ?_
      rw [hrun, hmode]

/-- A run that was refused keeps to the order: it is its checks. -/
private theorem refused_ordered {checks : Run Op Error Residue Node Cleared}
    {why : Stop Error} (hout : checks.outcome = .stopped why)
    (hquiet : ∀ e ∈ checks.events, e.op.kind.Quiet) :
    Ordered plat mode node checks
      ⟨.stopped why, checks.state, checks.events, checks.rest⟩ := by
  have hnone : ∀ cleared, checks.outcome ≠ .done cleared := by
    intro cleared heq
    rw [hout] at heq
    cases heq
  exact
    { checks_first := List.prefix_rfl
      checks_quiet := hquiet
      gates := fun ⟨e, he, hloud⟩ => absurd (hquiet e he) hloud
      mode_first := fun cleared h => absurd h (hnone cleared)
      persisted_first := fun cleared h => absurd h (hnone cleared)
      bound_first := fun cleared h => absurd h (hnone cleared)
      covered := fun cleared h => absurd h (hnone cleared) }

/-- A run that was cleared keeps to the order. -/
private theorem cleared_ordered {checks : Run Op Error Residue Node Cleared}
    {found : List DeviceState} {probed : List (DeviceState × Option (String × String))}
    (hout : checks.outcome = .done cleared) (hquiet : ∀ e ∈ checks.events, e.op.kind.Quiet)
    (hgates : Gates plat mode node found probed cleared) :
    Ordered plat mode node checks
      { exec plat.machine (stages plat mode cleared) checks.rest checks.state with
        events := checks.events ++
          (exec plat.machine (stages plat mode cleared) checks.rest checks.state).events } := by
  have hcleared : ∀ other, checks.outcome = .done other → other = cleared := by
    intro other heq
    rw [hout] at heq
    exact (Outcome.done.inj heq).symm
  obtain ⟨hfirst, hchange⟩ := stages_exec plat mode cleared checks.rest checks.state
  have hstages := exec_runs_hostile plat.machine (stages plat mode cleared) checks.rest
    checks.state
  obtain ⟨t₁, t₂, t₃, t₄, t₅, htrace, hstaged⟩ := (stages_stageRun hstages).staged
  have hchangeKinds : ∀ e ∈ (exec plat.machine (Nvidia.apply plat cleared.states mode)
      checks.rest checks.state).events, ¬Persists e.op := by
    intro e he
    have hk := (mode_events (exec_runs_hostile plat.machine
      (Nvidia.apply plat cleared.states mode) checks.rest checks.state) e he).1
    unfold Persists
    rcases hk with hk | hk | hk <;> rw [hk] <;> decide
  -- What touches a file or a binding comes after the checks.
  have hlater : ∀ e, e ∈ checks.events ++
      (exec plat.machine (stages plat mode cleared) checks.rest checks.state).events →
      Persists e.op → e ∈ t₁ ++ (t₂ ++ (t₃ ++ (t₄ ++ t₅))) := by
    intro e he hpersists
    rcases List.mem_append.mp he with he | he
    · exact absurd hpersists (quiet_not_persists (hquiet e he))
    · rwa [← htrace]
  exact
    { checks_first := List.prefix_append _ _
      checks_quiet := hquiet
      gates := fun _ => ⟨cleared, found, probed, hout, hgates⟩
      mode_first := by
        intro other heq
        rw [hcleared other heq]
        refine ⟨(List.prefix_append_right_inj _).mpr hfirst, hchangeKinds, ?_⟩
        intro ⟨e, he, hpersists⟩
        rcases hchange with hdone | hcut
        · exact hdone
        · rcases List.mem_append.mp he with he | he
          · exact absurd hpersists (quiet_not_persists (hquiet e he))
          · rw [hcut] at he
            exact absurd hpersists (hchangeKinds e he)
      persisted_first := by
        intro other heq e he hkind
        rw [hcleared other heq]
        have hmem := hstaged.mem_binding (hlater e he (.inr (.inl hkind))) hkind
        exact (hstaged.persisted (List.ne_nil_of_mem hmem)).1 e hmem
      bound_first := by
        intro other heq e he hkind
        rw [hcleared other heq]
        exact hstaged.bound e
          (hstaged.mem_releasing (hlater e he (.inr (.inr hkind))) hkind)
      covered := by
        intro other heq ⟨e, he, hkind⟩
        rw [hcleared other heq]
        have hmem := hstaged.mem_binding (hlater e he (.inr (.inl hkind))) hkind
        obtain ⟨_, hdisk, hclaims⟩ := hstaged.persisted (List.ne_nil_of_mem hmem)
        refine ⟨hdisk, fun state hstate => ?_⟩
        obtain ⟨claim, hclaim⟩ := Option.isSome_iff_exists.mp (hclaims state hstate)
        exact ⟨claim, hclaim, Modules.render_covers
          (List.mem_filterMap.mpr ⟨state, hstate, hclaim⟩)⟩ }

/-- Every run keeps to the order: whatever fails, and wherever the process is
killed. -/
theorem apply_ordered (plat : Platform) (mode : Mode) (node : Node)
    (σ : List (Verdict Error Residue)) :
    Ordered plat mode node (exec plat.machine (preflight plat mode) σ node)
      (exec plat.machine (apply plat mode) σ node) := by
  have hpre := exec_runs_hostile plat.machine (preflight plat mode) σ node
  have hquiet := fun e he => ((preflight_quiet hpre).2 e he).1
  cases hout : (exec plat.machine (preflight plat mode) σ node).outcome with
  | stopped why =>
      have hrun : exec plat.machine (apply plat mode) σ node = _ :=
        exec_bind_stopped (stages plat mode) hout
      rw [hrun]
      exact refused_ordered hout hquiet
  | done cleared =>
      have hrun : exec plat.machine (apply plat mode) σ node = _ :=
        exec_bind_done (stages plat mode) hout
      obtain ⟨found, probed, hgates⟩ := preflight_done (hout ▸ hpre)
      rw [hrun]
      exact cleared_ordered hout hquiet hgates

end KataDeviceProvisioner.Ports.Main
