import KataDeviceProvisioner.Ports.Main
import KataDeviceProvisioner.Verified.Lists

/-!
# Writing the boot configuration

Each of the three files is either written whole or removed, so a `persist` that
completes leaves the boot configuration as `render` has it, whatever was there
before (`persist_done`).
-/

namespace KataDeviceProvisioner.Ports

open KataDeviceProvisioner.Verified

variable {plat : Platform} {A : Adversary} {node node' : Node} {t : List (Event Op Node)}

namespace Modules

/-- The boot configuration a node has on disk is `config`. -/
structure OnDisk (hostRoot : Path) (config : BootConfig) (node : Node) : Prop where
  modulesLoad : node.files (hostRoot ++ modulesLoad) = some config.modulesLoad
  modprobe : node.files (hostRoot ++ modprobeConf) = some config.modprobe
  udevRules : node.files (hostRoot ++ udevRules) = config.udevRules

/-- The boot configuration depends on the three files only. -/
theorem OnDisk.of_files {hostRoot : Path} {config : BootConfig} {s s' : Node}
    (h : OnDisk hostRoot config s) (hfiles : s'.files = s.files) :
    OnDisk hostRoot config s' where
  modulesLoad := by rw [hfiles]; exact h.modulesLoad
  modprobe := by rw [hfiles]; exact h.modprobe
  udevRules := by rw [hfiles]; exact h.udevRules

theorem write_uses (path : Path) (contents : String) :
    (write path contents).Uses fun op => op.kind = .file := by
  unfold write
  split
  · exact uses_bind (uses_mapError (uses_perform rfl)) fun _ =>
      uses_mapError (uses_perform rfl)
  · exact uses_mapError (uses_perform rfl)

theorem remove_uses (path : Path) : (remove path).Uses fun op => op.kind = .file := by
  refine uses_bind (uses_attempt (uses_perform rfl)) fun r => ?_
  cases r with
  | ok a => trivial
  | error e =>
      dsimp only
      split <;> trivial

theorem persist_uses (hostRoot : Path) (claims : List Claim) :
    (persist hostRoot claims).Uses fun op => op.kind = .file := by
  unfold persist
  refine uses_bind (write_uses _ _) fun _ => uses_bind (write_uses _ _) fun _ => ?_
  split
  · exact uses_bind (remove_uses _) fun _ => trivial
  · exact uses_bind (write_uses _ _) fun _ => trivial

private theorem writeFile_done {path : Path} {contents : String}
    (h : Runs plat.machine A (issue (.writeFile path contents)) node (.done ()) node' t) :
    node' = Platform.setFile node path (some contents) := by
  obtain ⟨hanswer, _⟩ := runs_perform_done.mp h
  simp only [Platform.machine, Platform.answer] at hanswer
  by_cases hparent : Platform.hasParent node path = true
  · rw [if_pos hparent] at hanswer
    exact (Prod.mk.inj hanswer).2.symm
  · rw [if_neg hparent] at hanswer
    cases hanswer

/-- A write that goes through leaves the contents, and the other files alone. -/
theorem write_done {path : Path} {contents : String}
    (h : Runs plat.machine A (write path contents) node (.done ()) node' t) :
    node'.files = Function.update node.files path (some contents) := by
  unfold write at h
  split at h
  · obtain ⟨_, s₁, t₁, t₂, hcreate, hwrite, _⟩ := runs_bind_done.mp h
    obtain ⟨hanswer, _⟩ := runs_perform_done.mp (runs_mapError_done.mp hcreate)
    have hfiles : s₁.files = node.files := by
      rw [← (Prod.mk.inj hanswer).2]
    rw [writeFile_done (runs_mapError_done.mp hwrite), ← hfiles]
    rfl
  · rw [writeFile_done (runs_mapError_done.mp h)]
    rfl

/-- A removal goes through only if the file is gone after it. -/
theorem remove_done {path : Path}
    (h : Runs plat.machine A (remove path) node (.done ()) node' t) :
    node'.files = Function.update node.files path none := by
  obtain ⟨r, s₁, t₁, t₂, hremove, hrest, _⟩ := runs_bind_done.mp h
  obtain ⟨out, hrun, hout⟩ := runs_attempt_iff.mp hremove
  obtain ⟨_, rfl, _, _⟩ | ⟨a, hresp, rfl, _⟩ | ⟨e, hresp, rfl, _⟩ := runs_perform_iff.mp hrun
  · cases hout
  · -- The file was there, and is removed.
    obtain rfl := Outcome.done.inj hout
    obtain ⟨_, rfl, _⟩ := runs_pure_iff.mp hrest
    have hanswer := hresp.ok
    simp only [Platform.machine, Platform.answer] at hanswer
    cases hfile : node.files path with
    | none =>
        rw [hfile] at hanswer
        cases hanswer
    | some contents =>
        rw [hfile] at hanswer
        rw [← (Prod.mk.inj hanswer).2]
        rfl
  · -- A failure that is passed over is the file not being there.
    obtain rfl := Outcome.done.inj hout
    dsimp only at hrest
    by_cases hkind : e.kind = some .notFound
    · rw [if_pos hkind] at hrest
      obtain ⟨_, rfl, _⟩ := runs_pure_iff.mp hrest
      rcases hresp.error with hanswer | ⟨_, hop, _⟩
      · simp only [Platform.machine, Platform.answer] at hanswer
        cases hfile : node.files path with
        | none =>
            rw [hfile] at hanswer
            rw [← (Prod.mk.inj hanswer).2, ← hfile, Function.update_eq_self]
        | some contents =>
            rw [hfile] at hanswer
            cases hanswer
      · simp [Platform.machine, Platform.fallible, hkind] at hop
    · rw [if_neg hkind] at hrest
      obtain ⟨hdone, _⟩ := runs_throw_iff.mp hrest
      cases hdone

/-- A `persist` that completes leaves the boot configuration as `render` has it,
whatever was on disk before. -/
theorem persist_done {hostRoot : Path} {claims : List Claim} {overridden : List String}
    (h : Runs plat.machine A (persist hostRoot claims) node (.done overridden) node' t) :
    OnDisk hostRoot (render claims) node' := by
  have hne : ∀ {a b : Path}, a ≠ b → hostRoot ++ a ≠ hostRoot ++ b :=
    fun hab heq => hab (List.append_cancel_left heq)
  have hload : modprobeConf ≠ modulesLoad := by decide
  have hrules : udevRules ≠ modulesLoad := by decide
  have hrules' : udevRules ≠ modprobeConf := by decide
  obtain ⟨_, s₁, t₁, u₁, h₁, hrest₁, _⟩ := runs_bind_done.mp h
  obtain ⟨_, s₂, t₂, u₂, h₂, hrest₂, _⟩ := runs_bind_done.mp hrest₁
  have hfinal : node'.files =
      Function.update s₂.files (hostRoot ++ udevRules) (render claims).udevRules := by
    dsimp only at hrest₂
    cases hr : (render claims).udevRules with
    | none =>
        rw [hr] at hrest₂
        obtain ⟨_, s₃, t₃, u₃, h₃, hret, _⟩ := runs_bind_done.mp hrest₂
        obtain ⟨_, rfl, _⟩ := runs_pure_iff.mp hret
        exact remove_done h₃
    | some rules =>
        rw [hr] at hrest₂
        obtain ⟨_, s₃, t₃, u₃, h₃, hret, _⟩ := runs_bind_done.mp hrest₂
        obtain ⟨_, rfl, _⟩ := runs_pure_iff.mp hret
        exact write_done h₃
  rw [write_done h₂, write_done h₁] at hfinal
  exact
    { modulesLoad := by
        rw [hfinal, Function.update_of_ne (hne hrules.symm), Function.update_of_ne (hne hload.symm),
          Function.update_self]
      modprobe := by
        rw [hfinal, Function.update_of_ne (hne hrules'.symm), Function.update_self]
      udevRules := by rw [hfinal, Function.update_self] }

/-- And it returns the devices the rules carry. -/
theorem persist_returns {hostRoot : Path} {claims : List Claim} {overridden : List String}
    (h : Runs plat.machine A (persist hostRoot claims) node (.done overridden) node' t) :
    overridden = (draftOf claims).overridden := by
  obtain ⟨_, s₁, t₁, u₁, _, hrest₁, _⟩ := runs_bind_done.mp h
  obtain ⟨_, s₂, t₂, u₂, _, hrest₂, _⟩ := runs_bind_done.mp hrest₁
  dsimp only at hrest₂
  cases hrules : (render claims).udevRules with
  | none =>
      rw [hrules] at hrest₂
      obtain ⟨_, s₃, t₃, u₃, _, hret, _⟩ := runs_bind_done.mp hrest₂
      exact Outcome.done.inj (runs_pure_iff.mp hret).1
  | some rules =>
      rw [hrules] at hrest₂
      obtain ⟨_, s₃, t₃, u₃, _, hret, _⟩ := runs_bind_done.mp hrest₂
      exact Outcome.done.inj (runs_pure_iff.mp hret).1

/-- An `unpersist` that completes leaves none of the files. -/
theorem unpersist_done {hostRoot : Path}
    (h : Runs plat.machine A (unpersist hostRoot) node (.done ()) node' t) :
    node'.files (hostRoot ++ modulesLoad) = none ∧ node'.files (hostRoot ++ modprobeConf) = none ∧
      node'.files (hostRoot ++ udevRules) = none := by
  obtain ⟨_, s₁, t₁, u₁, h₁, hrest₁, _⟩ := runs_bind_done.mp h
  obtain ⟨_, s₂, t₂, u₂, h₂, hrest₂, _⟩ := runs_bind_done.mp hrest₁
  obtain ⟨_, s₃, t₃, u₃, h₃, hrest₃, _⟩ := runs_bind_done.mp hrest₂
  obtain ⟨_, rfl, _⟩ := runs_pure_iff.mp hrest₃
  have hgone : ∀ {s : Node} {path other : Path}, s.files path = none →
      Function.update s.files other none path = none := by
    intro s path other hnone
    by_cases heq : path = other
    · rw [heq, Function.update_self]
    · rw [Function.update_of_ne heq, hnone]
  rw [remove_done h₃]
  refine ⟨hgone ?_, hgone ?_, Function.update_self _ _ _⟩
  · rw [remove_done h₂]
    refine hgone ?_
    rw [remove_done h₁, Function.update_self]
  · rw [remove_done h₂, Function.update_self]

/-! ## When nothing interferes -/

theorem write_absent {path : Path} {contents : String} {out : Outcome Error Unit}
    (h : Runs plat.machine .absent (write path contents) node out node' t) : out = .done () := by
  have hwrites : ∀ {s s' : Node} {out : Outcome Error Unit} {t : List (Event Op Node)},
      Platform.hasParent s path = true →
      Runs plat.machine .absent ((issue (.writeFile path contents)).mapError
        (Error.context ("write " ++ path.display))) s out s' t → out = .done () := by
    intro s s' out t hparent hrun
    obtain ⟨out₀, hwrite, rfl⟩ := runs_mapError_iff.mp hrun
    obtain ⟨rfl, _⟩ := runs_perform_absent hwrite
    simp only [Platform.machine, Platform.answer, if_pos hparent]
    rfl
  unfold write at h
  split at h
  case h_1 parent hparent =>
      obtain ⟨_, s₁, t₁, t₂, hcreate, hrest, _⟩ | ⟨why, _, hcreate⟩ := runs_bind_iff.mp h
      · obtain ⟨hanswer, _⟩ := runs_perform_done.mp (runs_mapError_done.mp hcreate)
        refine hwrites ?_ hrest
        have hcreated : s₁.dirs parent = true := by
          have hdirs : (plat.machine.effect node (.createDirAll parent)).dirs parent = true := by
            rw [effect_createDirAll]
            simp
          rwa [← (Prod.mk.inj hanswer).2]
        rw [Platform.hasParent, hparent]
        exact hcreated
      · obtain ⟨out₀, hrun, hout⟩ := runs_mapError_iff.mp hcreate
        obtain ⟨rfl, _⟩ := runs_perform_absent hrun
        cases hout
  case h_2 hparent =>
      refine hwrites ?_ h
      rw [Platform.hasParent, hparent]
      rfl

theorem remove_absent {path : Path} {out : Outcome Error Unit}
    (h : Runs plat.machine .absent (remove path) node out node' t) : out = .done () := by
  obtain ⟨r, s₁, t₁, t₂, hremove, hrest, _⟩ | ⟨why, _, hremove⟩ := runs_bind_iff.mp h
  · obtain ⟨out₀, hrun, hout⟩ := runs_attempt_iff.mp hremove
    obtain ⟨rfl, _⟩ := runs_perform_absent hrun
    -- The only failure left is the file not being there.
    cases hfile : node.files path with
    | none =>
        simp only [Platform.machine, Platform.answer, hfile] at hout
        obtain rfl := Outcome.done.inj hout
        exact (runs_pure_iff.mp hrest).1
    | some contents =>
        simp only [Platform.machine, Platform.answer, hfile] at hout
        obtain rfl := Outcome.done.inj hout
        exact (runs_pure_iff.mp hrest).1
  · obtain ⟨out₀, hrun, hout⟩ := runs_attempt_iff.mp hremove
    obtain ⟨rfl, _⟩ := runs_perform_absent hrun
    cases hanswer : (plat.machine.answer node (.removeFile path)).1 with
    | ok a =>
        rw [hanswer] at hout
        cases hout
    | error e =>
        rw [hanswer] at hout
        cases hout

/-- A sequence completes when its parts do. -/
private theorem done_of_bind {α β : Type} {p : Provision α} {f : α → Provision β}
    {out : Outcome Error β}
    (hp : ∀ out s t, Runs plat.machine .absent p node out s t → ∃ a, out = .done a)
    (hf : ∀ a s s' t, Runs plat.machine .absent (f a) s out s' t → ∃ b, out = .done b)
    (h : Runs plat.machine .absent (p >>= f) node out node' t) : ∃ b, out = .done b := by
  obtain ⟨a, s₁, t₁, t₂, _, h₂, _⟩ | ⟨why, rfl, h₁⟩ := runs_bind_iff.mp h
  · exact hf a s₁ node' t₂ h₂
  · obtain ⟨a, hdone⟩ := hp _ _ _ h₁
    cases hdone

theorem persist_absent {hostRoot : Path} {claims : List Claim}
    {out : Outcome Error (List String)}
    (h : Runs plat.machine .absent (persist hostRoot claims) node out node' t) :
    ∃ overridden, out = .done overridden := by
  refine done_of_bind (fun _ _ _ h₁ => ⟨(), write_absent h₁⟩) (fun _ s₁ s' t₁ hrest => ?_) h
  refine done_of_bind (fun _ _ _ h₂ => ⟨(), write_absent h₂⟩) (fun _ s₂ s' t₂ hrest₂ => ?_) hrest
  cases hrules : (render claims).udevRules with
  | none =>
      rw [hrules] at hrest₂
      exact done_of_bind (fun _ _ _ h₃ => ⟨(), remove_absent h₃⟩)
        (fun _ _ _ _ hret => ⟨_, (runs_pure_iff.mp hret).1⟩) hrest₂
  | some rules =>
      rw [hrules] at hrest₂
      exact done_of_bind (fun _ _ _ h₃ => ⟨(), write_absent h₃⟩)
        (fun _ _ _ _ hret => ⟨_, (runs_pure_iff.mp hret).1⟩) hrest₂

theorem unpersist_absent {hostRoot : Path} {out : Outcome Error Unit}
    (h : Runs plat.machine .absent (unpersist hostRoot) node out node' t) :
    ∃ done, out = .done done := by
  refine done_of_bind (fun _ _ _ h₁ => ⟨(), remove_absent h₁⟩) (fun _ s₁ s' t₁ hrest => ?_) h
  refine done_of_bind (fun _ _ _ h₂ => ⟨(), remove_absent h₂⟩) (fun _ s₂ s' t₂ hrest₂ => ?_) hrest
  exact done_of_bind (fun _ _ _ h₃ => ⟨(), remove_absent h₃⟩)
    (fun _ _ _ _ hret => ⟨_, (runs_pure_iff.mp hret).1⟩) hrest₂

end Modules

namespace Main

/-- The claim `persist` makes of a device. -/
def claimOf (drivers : Drivers) (state : DeviceState) : Option Modules.Claim :=
  (drivers.get state.address).map fun driver =>
    { address := state.address
      vendor := state.vendor
      device := state.deviceId
      module := driver.module
      driver := driver.driver }

theorem index_done {drivers : Drivers} {address : String} {driver : VfioDriver}
    (h : Runs plat.machine A (drivers.index address) node (.done driver) node' t) :
    drivers.get address = some driver ∧ node' = node := by
  unfold Drivers.index at h
  cases hget : drivers.get address with
  | none =>
      rw [hget] at h
      cases (runs_throw_iff.mp h).1
  | some found =>
      rw [hget] at h
      obtain ⟨hdone, hnode, _⟩ := runs_pure_iff.mp h
      exact ⟨congrArg some (Outcome.done.inj hdone).symm, hnode⟩

theorem index_uses (drivers : Drivers) (address : String) (P : Op → Prop) :
    (drivers.index address).Uses P := by
  unfold Drivers.index
  split <;> trivial

theorem persist_uses (states : List DeviceState) (drivers : Drivers) :
    (persist plat states drivers).Uses fun op => op.kind = .file := by
  refine uses_bind (uses_gather fun state _ => ?_) fun claims => ?_
  · exact uses_bind (index_uses drivers state.address _) fun _ => trivial
  · exact uses_bind (Modules.persist_uses plat.hostRoot claims) fun _ => trivial

theorem claims_done {states : List DeviceState} {drivers : Drivers}
    {claims : List Modules.Claim}
    (h : Runs plat.machine A (Program.gather (claimFor drivers) states) node (.done claims)
      node' t) :
    List.Forall₂ (fun state claim => claimOf drivers state = some claim) states claims := by
  refine (runs_gather_done (I := fun _ => True)
    (Q := fun state claim => claimOf drivers state = some claim)
    (fun state _ s claim s' t _ hr => ⟨trivial, ?_⟩) trivial h).2
  obtain ⟨driver, s₁, t₁, t₂, hindex, hret, _⟩ := runs_bind_done.mp hr
  rw [claimOf, (index_done hindex).1, Outcome.done.inj (runs_pure_iff.mp hret).1]
  rfl

theorem index_absent {drivers : Drivers} {address : String} {driver : VfioDriver}
    (h : drivers.get address = some driver) :
    (drivers.index address).Yields plat.machine node driver := by
  unfold Drivers.index
  rw [h]
  exact yields_pure _

theorem claims_absent {states : List DeviceState} {drivers : Drivers}
    (hget : ∀ state ∈ states, ∃ driver, drivers.get state.address = some driver) :
    ∃ claims, (Program.gather (claimFor drivers) states).Yields plat.machine node claims := by
  refine ⟨states.map fun state => ((claimOf drivers state).getD
    ⟨state.address, state.vendor, state.deviceId, "", ""⟩), yields_gather ?_⟩
  rw [List.forall₂_map_right_iff, List.forall₂_same]
  intro state hstate
  obtain ⟨driver, hdriver⟩ := hget state hstate
  unfold claimOf
  rw [hdriver]
  exact yields_bind (index_absent hdriver) (yields_pure _)

/-- Once the drivers are known nothing but a mishap can stop `persist`. -/
theorem persist_absent {states : List DeviceState} {drivers : Drivers}
    {out : Outcome Error Unit}
    (hget : ∀ state ∈ states, ∃ driver, drivers.get state.address = some driver)
    (h : Runs plat.machine .absent (persist plat states drivers) node out node' t) :
    out = .done () := by
  have hclaims : ∃ claims, (Program.gather (claimFor drivers) states).Yields plat.machine node
      claims := claims_absent hget
  obtain ⟨claims, hyields⟩ := hclaims
  obtain ⟨claims', s₁, t₁, t₂, _, hrest, _⟩ | ⟨why, _, hclaims⟩ := runs_bind_iff.mp h
  · obtain ⟨overridden, s₂, t₃, t₄, _, hret, _⟩ | ⟨why, rfl, hpersist⟩ := runs_bind_iff.mp hrest
    · exact (runs_pure_iff.mp hret).1
    · obtain ⟨overridden, hdone⟩ := Modules.persist_absent hpersist
      cases hdone
  · cases (hyields _ _ _ hclaims).1

/-- Once `persist` completes the boot configuration on disk is what is rendered
for the whole passthrough set. -/
theorem persist_done {states : List DeviceState} {drivers : Drivers}
    (h : Runs plat.machine A (persist plat states drivers) node (.done ()) node' t) :
    Modules.OnDisk plat.hostRoot (Modules.render (states.filterMap (claimOf drivers))) node' ∧
      ∀ state ∈ states, (claimOf drivers state).isSome := by
  obtain ⟨claims, s₁, t₁, u₁, hclaims, hrest, _⟩ := runs_bind_done.mp h
  obtain ⟨overridden, s₂, t₂, u₂, hpersist, hret, _⟩ := runs_bind_done.mp hrest
  obtain ⟨_, rfl, _⟩ := runs_pure_iff.mp hret
  have hall := claims_done hclaims
  have heq : states.filterMap (claimOf drivers) = claims := by
    clear hclaims h hrest hpersist
    induction hall with
    | nil => rfl
    | cons hclaim _ ih => rw [List.filterMap_cons_some hclaim, ih]
  constructor
  · rw [heq]
    exact Modules.persist_done hpersist
  · intro state hstate
    obtain ⟨claim, _, hclaim⟩ := forall₂_of_mem_left hall hstate
    rw [hclaim]
    rfl

end Main

end KataDeviceProvisioner.Ports
