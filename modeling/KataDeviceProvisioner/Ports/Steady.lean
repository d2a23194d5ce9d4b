import KataDeviceProvisioner.Ports.Boot

/-!
# Runs that find nothing to change

Firmware that has its knobs at a mode, bindings that are those of the mode, and
boot files that are those of the mode are each left as they are by a run in the
mode, wherever the run fails or is killed.  Only the files ask for more: that no
write is cut off half way, which `Platform.whole` is the machine for.
-/

namespace KataDeviceProvisioner.Ports

open KataDeviceProvisioner.Verified

/-! ## Files are written whole or not at all -/

namespace Platform

/-- What a failure leaves when it leaves no file half written. -/
def wholeResidue : Residue → Residue
  | .partly _ => .nothing
  | residue => residue

/-- The machine, when no file it fails to write is left half written. -/
def whole (plat : Platform) : Machine Op Op.Res Error Residue Node :=
  { plat.machine with
    residual := fun node op residue => plat.residual node op (wholeResidue residue) }

/-- The machine of a run that may tear a file, or may not. -/
def machineFor (plat : Platform) (torn : Bool) : Machine Op Op.Res Error Residue Node :=
  if torn then plat.machine else plat.whole

theorem whole_within (plat : Platform) : plat.whole.Within plat.machine where
  answer := rfl
  fallible _ _ hop := hop
  residual _ _ residue := ⟨wholeResidue residue, rfl⟩

end Platform

variable {plat : Platform} {A : Adversary} {node node' : Node} {t : List (Event Op Node)}
  {mode : Mode}

theorem runs_of_machineFor {α : Type} {torn : Bool} {p : Provision α} {out : Outcome Error α}
    (h : Runs (plat.machineFor torn) A p node out node' t) :
    Runs plat.machine A p node out node' t := by
  cases torn with
  | true => exact h
  | false => exact h.weaken plat.whole_within

namespace Modules

/-- The operation leaves the files a node has as they are: it writes what a file
holds, or removes one that is not there. -/
def Rewrites (s : Node) : Op → Prop
  | .createDirAll _ => True
  | .writeFile path contents => s.files path = some contents
  | .removeFile path => s.files path = none
  | _ => False

theorem Rewrites.of_files {s s' : Node} (hfiles : s'.files = s.files) {op : Op}
    (h : Rewrites s op) : Rewrites s' op := by
  unfold Rewrites at h ⊢
  cases op <;> simp_all

theorem effect_rewrites {s : Node} {op : Op} (hop : Rewrites s op) :
    (plat.machine.effect s op).files = s.files := by
  cases op with
  | createDirAll path => rfl
  | writeFile path contents =>
      have hheld : s.files path = some contents := hop
      simp only [Machine.effect, Platform.machine, Platform.answer]
      split
      · simp [Platform.setFile, ← hheld]
      · rfl
  | removeFile path =>
      have hgone : s.files path = none := hop
      simp only [Machine.effect, Platform.machine, Platform.answer, hgone]
  | _ => exact hop.elim

/-- Whatever becomes of it, if it is not cut off half way. -/
theorem responds_rewrites {s s' : Node} {op : Op} {r : Except Error op.Res}
    (hop : Rewrites s op) (h : Responds plat.whole A s op r s') : s'.files = s.files := by
  cases h with
  | answered => exact effect_rewrites hop
  | failed e residue =>
      cases residue with
      | nothing | partly contents => rfl
      | applied => exact effect_rewrites hop

/-- Removing a file cannot be cut off half way. -/
theorem responds_remove {s s' : Node} {path : Path}
    {r : Except Error (Op.removeFile path).Res} (hgone : s.files path = none)
    (h : Responds plat.machine A s (.removeFile path) r s') : s'.files = s.files := by
  have hop : Rewrites s (.removeFile path) := hgone
  cases h with
  | answered => exact effect_rewrites hop
  | failed e residue =>
      cases residue with
      | nothing | partly contents => rfl
      | applied => exact effect_rewrites hop

private theorem write_rewrites {s : Node} {path : Path} {contents : String}
    (h : s.files path = some contents) : (write path contents).Uses (Rewrites s) := by
  unfold write
  split
  · exact uses_bind (uses_mapError (uses_perform trivial)) fun _ =>
      uses_mapError (uses_perform h)
  · exact uses_mapError (uses_perform h)

private theorem remove_rewrites {P : Op → Prop} {path : Path} (h : P (.removeFile path)) :
    (remove path).Uses P := by
  refine uses_bind (uses_attempt (uses_perform h)) fun r => ?_
  cases r with
  | ok a => trivial
  | error e =>
      dsimp only
      split <;> trivial

/-- Writing the boot configuration that is on disk. -/
theorem persist_rewrites {hostRoot : Path} {claims : List Claim} {s : Node}
    (h : OnDisk hostRoot (render claims) s) : (persist hostRoot claims).Uses (Rewrites s) := by
  have hrules := h.udevRules
  unfold persist
  refine uses_bind (write_rewrites h.modulesLoad) fun _ => ?_
  refine uses_bind (write_rewrites h.modprobe) fun _ => ?_
  cases hconfig : (render claims).udevRules with
  | none =>
      rw [hconfig] at hrules
      exact uses_bind (remove_rewrites hrules) fun _ => trivial
  | some rules =>
      rw [hconfig] at hrules
      exact uses_bind (write_rewrites hrules) fun _ => trivial

/-- Removing boot files that are not there changes nothing, wherever it stops. -/
theorem unpersist_removed {hostRoot : Path} {out : Outcome Error Unit}
    (hgone : ∀ path ∈ bootFiles hostRoot, node.files path = none)
    (h : Runs plat.machine A (unpersist hostRoot) node out node' t) :
    node'.files = node.files := by
  have huses : (unpersist hostRoot).Uses fun op =>
      ∃ path ∈ bootFiles hostRoot, op = .removeFile path := by
    refine uses_forEach fun path hpath => remove_rewrites ?_
    exact ⟨hostRoot ++ path, List.mem_map_of_mem hpath, rfl⟩
  refine (h.invariant (I := fun s => s.files = node.files) huses
    (fun op s r s' hop hs hresp => ?_) rfl).1
  obtain ⟨path, hpath, rfl⟩ := hop
  rw [← hs] at hgone
  rw [responds_remove (hgone path hpath) hresp, hs]

theorem unpersist_keeps {hostRoot : Path} {out : Outcome Error Unit}
    (h : Runs plat.machine A (unpersist hostRoot) node out node' t) :
    node'.board = node.board ∧ node'.driver = node.driver := by
  have huses : (unpersist hostRoot).Uses fun op => op.kind = .file :=
    uses_forEach fun path _ => remove_rewrites rfl
  have hkind := h.events_of_uses huses
  constructor
  · refine (runs_board h fun e he => ?_).1
    rw [hkind e he]
    exact ⟨by decide, by decide⟩
  · refine (runs_driver h fun e he => ?_).1
    rw [hkind e he]
    exact ⟨by decide, by decide⟩

end Modules

namespace Main

variable {drivers : Drivers} {found passthrough states : List DeviceState} {cleared : Cleared}

/-! ## Stage by stage -/

/-- What holds of the events of every stage holds of the events of a run. -/
theorem stages_events {P : Event Op Node → Prop} {out : Outcome Error Unit}
    (h : Runs plat.machine A (stages plat mode cleared) node out node' t)
    (hmode : ∀ {out s s' t}, Runs plat.machine A (Nvidia.apply plat cleared.states mode) s out
      s' t → ∀ e ∈ t, P e)
    (hpersist : ∀ {out s s' t}, Runs plat.machine A
      (persist plat cleared.passthrough cleared.drivers) s out s' t → ∀ e ∈ t, P e)
    (hbind : ∀ {out s s' t}, Runs plat.machine A
      (Program.forEach (bindOne cleared.drivers) cleared.passthrough) s out s' t → ∀ e ∈ t, P e)
    (hrelease : ∀ {out s s' t}, Runs plat.machine A
      (release cleared.states cleared.passthrough) s out s' t → ∀ e ∈ t, P e)
    (hverify : ∀ {out s s' t}, Runs plat.machine A
      (verify plat mode cleared.passthrough cleared.drivers) s out s' t → ∀ e ∈ t, P e) :
    ∀ e ∈ t, P e := by
  cases stages_stageRun h with
  | changing h₁ => exact hmode h₁
  | persisting h₁ h₂ => exact List.forall_mem_append.mpr ⟨hmode h₁, hpersist h₂⟩
  | binding h₁ h₂ h₃ =>
      exact List.forall_mem_append.mpr ⟨hmode h₁,
        List.forall_mem_append.mpr ⟨hpersist h₂, hbind h₃⟩⟩
  | releasing h₁ h₂ h₃ h₄ =>
      exact List.forall_mem_append.mpr ⟨hmode h₁, List.forall_mem_append.mpr ⟨hpersist h₂,
        List.forall_mem_append.mpr ⟨hbind h₃, hrelease h₄⟩⟩⟩
  | verifying h₁ h₂ h₃ h₄ h₅ =>
      exact List.forall_mem_append.mpr ⟨hmode h₁, List.forall_mem_append.mpr ⟨hpersist h₂,
        List.forall_mem_append.mpr ⟨hbind h₃,
          List.forall_mem_append.mpr ⟨hrelease h₄, hverify h₅⟩⟩⟩⟩

/-! ## Firmware -/

/-- Every device in scope that has a mode has its knobs at those of `mode`. -/
def FirmwareAt (plat : Platform) (mode : Mode) (node : Node) : Prop :=
  ∀ state handle, Nvidia.Openable (scope plat) state handle →
    Nvidia.AtTargets plat mode handle (node.board state.address).knob

/-- What is done to the firmware is done by the mode change, and a run that got as
far as its first bind completed it. -/
theorem stages_board {out : Outcome Error Unit}
    (h : Runs plat.machine A (stages plat mode cleared) node out node' t) :
    ∃ out₀ s₁ t₁, Runs plat.machine A (Nvidia.apply plat cleared.states mode) node out₀ s₁ t₁ ∧
      node'.board = s₁.board ∧
      ((out = .done () ∨ ∃ e ∈ t, e.op.kind = .bind) → ∃ outcomes, out₀ = .done outcomes) := by
  cases stages_stageRun h with
  | changing hmode =>
      refine ⟨_, _, _, hmode, rfl, fun hpast => ?_⟩
      rcases hpast with hdone | ⟨e, he, hkind⟩
      · cases hdone
      · rcases (mode_events hmode e he).1 with hk | hk | hk <;> cases hkind.symm.trans hk
  | persisting hmode hpersist =>
      exact ⟨_, _, _, hmode, (persist_keeps hpersist).2.1, fun _ => ⟨_, rfl⟩⟩
  | binding hmode hpersist hbind =>
      have hboard := (binds_keeps hbind).1.trans (persist_keeps hpersist).2.1
      exact ⟨_, _, _, hmode, hboard, fun _ => ⟨_, rfl⟩⟩
  | releasing hmode hpersist hbind hrelease =>
      have hboard := (binds_keeps hbind).1.trans (persist_keeps hpersist).2.1
      exact ⟨_, _, _, hmode, (release_keeps hrelease).1.trans hboard, fun _ => ⟨_, rfl⟩⟩
  | verifying hmode hpersist hbind hrelease hverify =>
      have hboard := (binds_keeps hbind).1.trans (persist_keeps hpersist).2.1
      exact ⟨_, _, _, hmode, (release_keeps hrelease).1.trans hboard, fun _ => ⟨_, rfl⟩⟩

/-- The devices a run opens are those of the scope, under the same handles. -/
theorem openable_cleared {probed : List (DeviceState × Option (String × String))}
    (h : Gates plat mode node found probed cleared) {state : DeviceState} {handle : Handle}
    (hopen : Nvidia.Openable cleared.states state handle) :
    ∃ member, Nvidia.Openable (scope plat) member handle ∧ member.address = state.address := by
  obtain ⟨hmem, hof⟩ := hopen
  rw [h.states] at hmem
  obtain ⟨entry, hentry, rfl⟩ := List.mem_map.mp hmem
  obtain ⟨device, hdevice, hprobe⟩ := forall₂_of_mem_right h.probes hentry
  obtain ⟨haddress, _, hsame⟩ := hprobe.same
  rw [scope_found h.scope] at hdevice
  obtain ⟨member, hmember, rfl⟩ := List.mem_map.mp hdevice
  exact ⟨member, ⟨hmember, hsame.symm.trans hof⟩, haddress.symm⟩

theorem openable_scope {probed : List (DeviceState × Option (String × String))}
    (h : Gates plat mode node found probed cleared) {member : DeviceState} {handle : Handle}
    (hopen : Nvidia.Openable (scope plat) member handle) :
    ∃ state, Nvidia.Openable cleared.states state handle ∧ state.address = member.address := by
  have hfound : Nvidia.Openable found (rebound node member) handle := by
    rw [scope_found h.scope]
    exact ⟨List.mem_map_of_mem hopen.1, hopen.2⟩
  obtain ⟨state, hstate, haddress⟩ := openable_of_probes h.probes hfound
  rw [← h.states] at hstate
  exact ⟨state, hstate, haddress⟩

/-- A device at its targets has no plan. -/
theorem not_hasPlan {state : DeviceState}
    (hat : ∀ handle, Handle.of state = some handle →
      Nvidia.AtTargets plat mode handle (node.board state.address).knob) :
    ¬HasPlan plat node mode state := by
  rw [hasPlan_iff]
  unfold reading
  cases hof : Handle.of state with
  | none => simp [Nvidia.writesFor]
  | some handle =>
      intro hne
      refine hne ((Nvidia.writesFor_eq_nil_iff _ _ _ _).mpr ?_)
      rw [Handle.of_address hof]
      exact hat handle hof

/-- A run in the mode the firmware is at writes and resets nothing. -/
theorem apply_board {out : Outcome Error Unit}
    (h : Runs plat.machine A (apply plat mode) node out node' t)
    (hat : FirmwareAt plat mode node) : node'.board = node.board := by
  rw [apply_eq] at h
  obtain ⟨cleared, s₁, t₁, t₂, hchecks, hstages, _⟩ | ⟨why, _, hchecks⟩ := runs_bind_iff.mp h
  · obtain ⟨rfl, _⟩ := preflight_quiet hchecks
    obtain ⟨found, probed, hgates⟩ := preflight_done hchecks
    obtain ⟨out₀, s₂, t₃, hmode, hboard, _⟩ := stages_board hstages
    rw [hboard]
    refine (runs_board hmode fun e he => ?_).1
    have hsilent : ¬(e.op.kind = .write ∨ e.op.kind = .reset) := by
      intro hkind
      obtain ⟨state, hstate, _, hplan⟩ := mode_changes hmode he hkind
      refine not_hasPlan (fun handle hof => ?_) hplan
      obtain ⟨member, hmember, haddress⟩ := openable_cleared hgates ⟨hstate, hof⟩
      rw [← haddress]
      exact hat member handle hmember
    exact ⟨fun hkind => hsilent (.inl hkind), fun hkind => hsilent (.inr hkind)⟩
  · rw [(preflight_quiet hchecks).1]

/-! ## Bindings -/

/-- Binding what is on its drivers already. -/
private theorem binds_still {out : Outcome Error Unit}
    (hall : ∀ state ∈ passthrough, ∀ driver, drivers.get state.address = some driver →
      node.driver state.address = some driver.driver)
    (h : Runs plat.machine A (Program.forEach (bindOne drivers) passthrough) node out node' t) :
    node'.driver = node.driver := by
  refine (h.invariant (I := fun s => s.driver = node.driver) binds_uses
    (fun op s r s' hop hs hresp => ?_) rfl).1
  obtain ⟨state, hstate, driver, hget, rfl⟩ := hop
  rcases responds_bind hresp with rfl | ⟨hnone, _⟩
  · exact hs
  · rw [hs, hall state hstate driver hget] at hnone
    cases hnone

/-- Releasing what vfio does not have. -/
private theorem release_still {out : Outcome Error Unit}
    (hall : ∀ state ∈ states, inSet passthrough state.address = false →
      (node.driver state.address).any namesVfio = false)
    (h : Runs plat.machine A (release states passthrough) node out node' t) :
    node'.driver = node.driver := by
  refine (runs_driver h fun e he => ?_).1
  have hnever : e.op.kind ≠ .unbind := by
    intro hkind
    obtain ⟨state, hstate, _, hout, hvfio⟩ :=
      release_changes h he (.inr (.inr (.inl hkind)))
    rw [hall state hstate hout] at hvfio
    cases hvfio
  rcases (h.events_of_uses release_uses e he).kind with hkind | hkind
  · exact ⟨by rw [hkind]; decide, hnever⟩
  · exact absurd hkind hnever

/-- The stages on a node where they would change no binding. -/
private theorem stages_driver {out : Outcome Error Unit}
    (hbound : ∀ state ∈ cleared.passthrough, ∀ driver,
      cleared.drivers.get state.address = some driver →
      node.driver state.address = some driver.driver)
    (hfree : ∀ state ∈ cleared.states, inSet cleared.passthrough state.address = false →
      (node.driver state.address).any namesVfio = false)
    (h : Runs plat.machine A (stages plat mode cleared) node out node' t) :
    node'.driver = node.driver := by
  have hbinding : ∀ {out : Outcome Error Unit} {s s' : Node} {t : List (Event Op Node)},
      s.driver = node.driver → Runs plat.machine A
        (Program.forEach (bindOne cleared.drivers) cleared.passthrough) s out s' t →
      s'.driver = node.driver := by
    intro out s s' t hs hbind
    rw [binds_still (fun state hstate driver hget => ?_) hbind, hs]
    rw [hs]
    exact hbound state hstate driver hget
  have hreleasing : ∀ {out : Outcome Error Unit} {s s' : Node} {t : List (Event Op Node)},
      s.driver = node.driver → Runs plat.machine A
        (release cleared.states cleared.passthrough) s out s' t → s'.driver = node.driver := by
    intro out s s' t hs hrelease
    rw [release_still (fun state hstate hout => ?_) hrelease, hs]
    rw [hs]
    exact hfree state hstate hout
  cases stages_stageRun h with
  | changing hmode => exact (mode_keeps hmode).1
  | persisting hmode hpersist =>
      rw [(persist_keeps hpersist).2.2, (mode_keeps hmode).1]
  | binding hmode hpersist hbind =>
      refine hbinding ?_ hbind
      rw [(persist_keeps hpersist).2.2, (mode_keeps hmode).1]
  | releasing hmode hpersist hbind hrelease =>
      refine hreleasing (hbinding ?_ hbind) hrelease
      rw [(persist_keeps hpersist).2.2, (mode_keeps hmode).1]
  | verifying hmode hpersist hbind hrelease hverify =>
      refine hreleasing (hbinding ?_ hbind) hrelease
      rw [(persist_keeps hpersist).2.2, (mode_keeps hmode).1]

/-- The drivers a run finds for its passthrough set are those of the binding. -/
theorem Gates.resolved {probed : List (DeviceState × Option (String × String))}
    (h : Gates plat mode node found probed cleared) :
    cleared.passthrough = (members plat (binding mode)).map (rebound node) ∧
      Resolved plat (members plat (binding mode)) cleared.drivers := by
  have hset : cleared.passthrough = (members plat (binding mode)).map (rebound node) := by
    rw [h.passthrough, scope_found h.scope, passthrough_members]
  exact ⟨hset, resolved_of_rebound (hset ▸ h.drivers)⟩

theorem members_nodup (b : Binding) : ((members plat b).map (·.address)).Nodup :=
  (nodup_scope plat).sublist (List.filter_sublist.map _)

/-- A run in a mode changes no binding of a node that is bound for it. -/
theorem apply_driver {out : Outcome Error Unit}
    (h : Runs plat.machine A (apply plat mode) node out node' t)
    (hon : OnDrivers plat (binding mode) node) : node'.driver = node.driver := by
  rw [apply_eq] at h
  obtain ⟨cleared, s₁, t₁, t₂, hchecks, hstages, _⟩ | ⟨why, _, hchecks⟩ := runs_bind_iff.mp h
  · obtain ⟨rfl, _⟩ := preflight_quiet hchecks
    obtain ⟨found, probed, hgates⟩ := preflight_done hchecks
    obtain ⟨hset, hresolved⟩ := hgates.resolved
    refine stages_driver (fun state hstate driver hget => ?_) (fun state hstate hout => ?_) hstages
    · rw [hset] at hstate
      obtain ⟨member, hmember, rfl⟩ := List.mem_map.mp hstate
      obtain ⟨hscope, hhas⟩ := mem_members.mp hmember
      obtain ⟨driver', hget', htarget⟩ := hresolved.target (members_nodup _) hmember
      obtain rfl : driver' = driver := Option.some.inj (hget'.symm.trans hget)
      obtain ⟨name, hname, hdriver⟩ := (hon member hscope).1 hhas
      rw [hname.unique htarget] at hdriver
      exact hdriver
    · have hin : inSet found state.address = true := by
        rw [← probes_inSet hgates.probes, ← hgates.states]
        exact inSet_iff.mpr ⟨state, hstate, rfl⟩
      obtain ⟨device, hdevice, haddress⟩ := inSet_iff.mp hin
      rw [scope_found hgates.scope] at hdevice
      obtain ⟨member, hmember, rfl⟩ := List.mem_map.mp hdevice
      have hhas : (binding mode).has member = false := by
        rw [← Bool.not_eq_true]
        intro hhas
        have hmem : rebound s₁ member ∈ cleared.passthrough := by
          rw [hset]
          exact List.mem_map_of_mem (mem_members.mpr ⟨hmember, hhas⟩)
        rw [← haddress, inSet_iff.mpr ⟨_, hmem, rfl⟩] at hout
        cases hout
      rw [← haddress]
      exact (hon member hmember).2 hhas
  · rw [(preflight_quiet hchecks).1]

/-! ## Files -/

/-- The claims `persist` makes are those of the passthrough set. -/
private theorem claims_eq {claims : List Modules.Claim}
    (h : Runs plat.machine A (Program.gather (claimFor drivers) passthrough) node (.done claims)
      node' t) : passthrough.filterMap (claimOf drivers) = claims := by
  have hall := claims_done h
  clear h
  induction hall with
  | nil => rfl
  | cons hclaim _ ih => rw [List.filterMap_cons_some hclaim, ih]

/-- Writing the boot configuration of the passthrough set where it is on disk. -/
private theorem persist_rewrites {s : Node} {out : Outcome Error Unit}
    (hdisk : Modules.OnDisk plat.hostRoot
      (Modules.render (passthrough.filterMap (claimOf drivers))) s)
    (h : Runs plat.machine A (persist plat passthrough drivers) node out node' t) :
    ∀ e ∈ t, Modules.Rewrites s e.op := by
  have hnone : (Program.gather (claimFor drivers) passthrough).Uses (Modules.Rewrites s) :=
    uses_gather fun state _ => uses_bind (index_uses drivers state.address _) fun _ => trivial
  obtain ⟨claims, s₁, t₁, t₂, hclaims, hrest, rfl⟩ | ⟨why, _, hclaims⟩ := runs_bind_iff.mp h
  · rw [claims_eq hclaims] at hdisk
    intro e he
    rcases List.mem_append.mp he with he | he
    · exact hclaims.events_of_uses hnone e he
    · exact hrest.events_of_uses
        (uses_bind (Modules.persist_rewrites hdisk) fun _ => trivial) e he
  · exact hclaims.events_of_uses hnone

/-- So do the stages, which touch no other file. -/
private theorem stages_rewrites {s : Node} {out : Outcome Error Unit}
    (hdisk : Modules.OnDisk plat.hostRoot
      (Modules.render (cleared.passthrough.filterMap (claimOf cleared.drivers))) s)
    (h : Runs plat.machine A (stages plat mode cleared) node out node' t) :
    ∀ e ∈ t, e.op.kind = .file → Modules.Rewrites s e.op := by
  refine stages_events h (fun hmode e he hfile => ?_) (fun hpersist e he _ => ?_)
    (fun hbind e he hfile => ?_) (fun hrelease e he hfile => ?_) (fun hverify e he hfile => ?_)
  · rcases (mode_events hmode e he).1 with hkind | hkind | hkind <;> cases hfile.symm.trans hkind
  · exact persist_rewrites hdisk hpersist e he
  · cases hfile.symm.trans (hbind.events_of_uses binds_uses e he).kind
  · rcases (hrelease.events_of_uses release_uses e he).kind with hkind | hkind <;>
      cases hfile.symm.trans hkind
  · rcases (verify_keeps hverify).2 e he with hkind | hkind | hkind | hkind <;>
      cases hfile.symm.trans hkind

theorem configured_mode :
    Configured plat (binding mode) node ↔ ∃ drivers,
      Resolved plat (members plat (binding mode)) drivers ∧
        Modules.OnDisk plat.hostRoot (Modules.render
          ((members plat (binding mode)).filterMap (claimOf drivers))) node := by
  cases mode <;> exact Iff.rfl

theorem claims_rebound (node : Node) (states : List DeviceState) :
    (states.map (rebound node)).filterMap (claimOf drivers) =
      states.filterMap (claimOf drivers) := by
  rw [List.filterMap_map]
  rfl

/-- A run in a mode changes no boot file of a node that is configured for it, if
no write is cut off half way. -/
theorem apply_files {out : Outcome Error Unit}
    (h : Runs plat.whole A (apply plat mode) node out node' t)
    (hconf : Configured plat (binding mode) node) : node'.files = node.files := by
  obtain ⟨drivers, hresolved, hdisk⟩ := configured_mode.mp hconf
  have hrun := h.weaken plat.whole_within
  have hops : ∀ e ∈ t, e.op.kind = .file → Modules.Rewrites node e.op := by
    rw [apply_eq] at hrun
    obtain ⟨cleared, s₁, t₁, t₂, hchecks, hstages, rfl⟩ | ⟨why, _, hchecks⟩ :=
      runs_bind_iff.mp hrun
    · obtain ⟨rfl, hquiet⟩ := preflight_quiet hchecks
      obtain ⟨found, probed, hgates⟩ := preflight_done hchecks
      obtain ⟨hset, hfound⟩ := hgates.resolved
      rw [hresolved.unique hfound, ← claims_rebound s₁, ← hset] at hdisk
      intro e he hfile
      rcases List.mem_append.mp he with he | he
      · rcases (hquiet e he).1 with hkind | hkind | hkind | hkind <;>
          rw [hkind] at hfile <;> cases hfile
      · exact stages_rewrites hdisk hstages e he hfile
    · intro e he hfile
      rcases ((preflight_quiet hchecks).2 e he).1 with hkind | hkind | hkind | hkind <;>
        rw [hkind] at hfile <;> cases hfile
  refine (h.keeps (I := fun s => s.files = node.files) (fun e he s r s' hs hresp => ?_) rfl).1
  by_cases hfile : e.op.kind = .file
  · rw [Modules.responds_rewrites ((hops e he hfile).of_files hs) hresp, hs]
  · rw [responds_files hfile (hresp.weaken plat.whole_within), hs]

end Main

end KataDeviceProvisioner.Ports
