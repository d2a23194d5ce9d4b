import KataDeviceProvisioner.Ports.Concurrent
import KataDeviceProvisioner.Ports.Least

/-!
# Resets that are owed

A device runs what its knobs hold only from its next reset on, and a run resets
what it has written and nothing else.  A run that completes beside another can so
leave a device running the old mode, that it found written by the other one.
What `concurrent_settled` says is that this does not last: whatever modes the
runs are for, once all of them have completed every device runs what its knobs
hold.
-/

namespace KataDeviceProvisioner.Ports

open KataDeviceProvisioner.Verified

variable {plat : Platform} {A : Adversary} {node s s' : Node} {mode : Mode}
  {states : List DeviceState} {handle : Handle} {D : Handle → Prop}

namespace Nvidia

/-- The device does not run what its knobs hold. -/
def Due (plat : Platform) (states : List DeviceState) (handle : Handle) (s : Node) : Prop :=
  (∃ state, Openable states state handle) ∧
    plat.view handle (s.board handle.address).active ≠
      plat.view handle (s.board handle.address).knob

theorem settled_iff : Settled plat states s ↔ ∀ handle, ¬Due plat states handle s := by
  constructor
  · rintro hsettled handle ⟨⟨state, hopen⟩, hne⟩
    rw [Handle.of_address hopen.2] at hne
    exact hne (hsettled state handle hopen)
  · intro hnone state handle hopen
    by_contra hne
    rw [← Handle.of_address hopen.2] at hne
    exact hnone handle ⟨⟨state, hopen⟩, hne⟩

/-- Only a write to the device brings it about. -/
theorem Due.before {op : Op} {r : Except Error op.Res} (h : Responds plat.machine A s op r s')
    (hdue : Due plat states handle s') :
    Due plat states handle s ∨ op.kind = .write ∧ op.device = some handle.address := by
  obtain ⟨hopen, hne⟩ := hdue
  rcases responds_firmware handle.address h with
    hboard | ⟨hdevice, ⟨hwrite, _⟩ | ⟨_, hboard⟩⟩
  · rw [hboard] at hne
    exact .inl ⟨hopen, hne⟩
  · exact .inr ⟨hwrite, hdevice⟩
  · rw [hboard, Firmware.reset_active, Firmware.reset_knob] at hne
    exact absurd rfl hne

/-- A program that writes no knob brings nothing about. -/
theorem honest_of_no_write {α : Type} {p : Provision α} (hp : p.Uses fun op => op.kind ≠ .write) :
    p.Honest plat.machine A (Due plat states) D :=
  honest_of_uses hp fun _ hop _ _ _ _ hresp hdue =>
    (hdue.before hresp).imp_right fun hwrite => absurd hwrite.1 hop

/-- A reset that goes through ends it. -/
private theorem reset_owes {plan : Planned} (hplan : plan.handle.address = handle.address) :
    (resetFor mode plan).Owes plat.machine A (Due plat states handle) := by
  refine owes_mapError (owes_perform fun s a s' hresp hdue => ?_)
  have hreset : s' = Platform.resetDevice s plan.handle.address := (Prod.mk.inj hresp.ok).2.symm
  refine hdue.2 ?_
  rw [hreset, hplan]
  simp [Platform.resetDevice]

private theorem ProbesAt.no_write {address : String} {op : Op} (h : ProbesAt address op) :
    op.kind ≠ .write := by
  rw [h.1]
  exact nofun

/-- What a mode change writes it resets. -/
theorem apply_honest (found : List DeviceState) :
    (apply plat found mode).Honest plat.machine A (Due plat states) fun _ => False := by
  refine honest_seq (honest_of_no_write ((planBoard_uses found mode).mono
    fun _ hop => by rw [hop]; exact nofun)) fun plans => ?_
  have hwrites : (Program.forEach (fun plan =>
      Program.forEach (fun w => writeFor mode (plan, w)) plan.writes) (pending plans)).Honest
      plat.machine A (Due plat states)
      fun handle => False ∨ ∃ plan ∈ pending plans, plan.handle.address = handle.address := by
    refine honest_of_uses (P := fun op => ∃ plan ∈ pending plans,
      op.device = some plan.handle.address) (uses_forEach fun plan hplan => ?_)
      fun op hop handle s r s' hresp hdue => ?_
    · exact uses_forEach fun w _ => uses_mapError
        ((write_uses plan.handle w).mono fun _ hop => ⟨plan, hplan, hop⟩)
    · obtain ⟨plan, hplan, hdevice⟩ := hop
      refine (hdue.before hresp).imp_right fun hwrite => .inr ⟨plan, hplan, ?_⟩
      exact Option.some.inj (hdevice.symm.trans hwrite.2)
  refine honest_bind hwrites (fun _ => honest_of_no_write ?_) fun handle howed _ => ?_
  · refine uses_bind (uses_forEach fun plan _ => uses_mapError (uses_perform ?_)) fun _ => ?_
    · rw [Handle.reset_kind]
      exact nofun
    · refine uses_bind (uses_forEach fun plan _ => ?_) fun _ => trivial
      exact (verify_uses plan.handle plan.state).mono fun _ hop => hop.no_write
  · obtain ⟨plan, hplan, haddress⟩ := howed
    exact owes_bind_left (owes_forEach hplan (reset_owes haddress))

end Nvidia

namespace Main

theorem apply_honest :
    (apply plat mode).Honest plat.machine A (Nvidia.Due plat states) fun _ => False := by
  refine honest_seq (Nvidia.honest_of_no_write (preflight_uses.mono fun op hop => ?_))
    fun cleared => ?_
  · rcases hop with hop | hop | hop | hop <;> rw [hop] <;> exact nofun
  refine honest_seq (honest_seq (Nvidia.apply_honest cleared.states) fun _ => trivial)
    fun _ => Nvidia.honest_of_no_write ?_
  refine uses_bind ((persist_uses cleared.passthrough cleared.drivers).mono fun op hop => ?_)
    fun _ => ?_
  · rw [hop]
    exact nofun
  refine uses_bind (binds_uses.mono fun op hop => ?_) fun _ => ?_
  · rw [hop.kind]
    exact nofun
  refine uses_bind (release_uses.mono fun op hop => ?_) fun _ => ?_
  · rcases hop.kind with hop | hop <;> rw [hop] <;> exact nofun
  refine uses_forEach fun state _ => uses_bind (index_uses _ _ _) fun driver => ?_
  refine uses_bind (uses_perform nofun) fun _ => ?_
  exact (verifyMode_uses state).mono fun _ hop => Nvidia.ProbesAt.no_write hop

theorem Errand.honest (errand : Errand) :
    (errand.program plat).Honest plat.machine A (Nvidia.Due plat states) fun _ => False := by
  cases errand with
  | apply mode proc =>
      have happly : (Main.apply { plat with proc := proc } mode).Honest
          { plat with proc := proc }.machine A (Nvidia.Due { plat with proc := proc } states)
          fun _ => False := apply_honest
      exact happly
  | status probe all =>
      refine Nvidia.honest_of_no_write (uses_bind ((status_uses probe all).mono fun op hop => ?_)
        fun _ => trivial)
      rcases hop with hop | hop | hop | hop <;> rw [hop] <;> exact nofun
  | uninstall =>
      refine Nvidia.honest_of_no_write ((Modules.program_onBootFiles plat.hostRoot .unpersist).mono
        fun op hop => ?_)
      cases op <;> first | exact hop.elim | exact nofun

variable {ι : Type} [DecidableEq ι] {errands : ι → Errand} {pool : ι → Provision Unit}

/-- However the operations of several processes interleave, whatever modes they
are for: when all have completed every device runs what its knobs hold. -/
theorem concurrent_settled (hsettled : Nvidia.Settled plat (scope plat) node)
    (h : Interleaves plat.machine .hostile (fun i => (errands i).program plat) node pool s)
    (hdone : ∀ i, pool i = .pure ()) : Nvidia.Settled plat (scope plat) s := by
  rw [Nvidia.settled_iff] at hsettled ⊢
  exact h.settled (fun i => (errands i).honest) hsettled fun i => ⟨(), hdone i⟩

/-- The retry completes while the run has yet to reset what it has written, and then
so does the run. -/
theorem concurrent_settled_retried :
    ∃ pool s, Interleaves baseboard.machine .hostile (fun i => (retried i).program baseboard)
        untouched pool s ∧
      (∀ i, pool i = .pure ()) ∧ Nvidia.Settled baseboard (scope baseboard) s := by
  have hfirst := Interleaves.advance (M := baseboard.machine) (A := .hostile) false 15
    (fun i => (retried i).program baseboard) untouched
  have hretry := exec_runs_hostile baseboard.machine ((retried true).program baseboard) []
    (ahead baseboard.machine 15).2
  rw [show (exec _ _ _ _).outcome = .done () by decide +kernel] at hretry
  have hrun := exec_runs_hostile baseboard.machine (ahead baseboard.machine 15).1 []
    (exec baseboard.machine ((retried true).program baseboard) []
      (ahead baseboard.machine 15).2).state
  rw [show (exec _ _ _ _).outcome = .done () by decide +kernel] at hrun
  have hall := (hfirst.trans (Interleaves.of_runs true hretry rfl)).trans
    (Interleaves.of_runs false hrun rfl)
  have hdone : ∀ (pool : Bool → Provision Unit) (i : Bool),
      Function.update (Function.update pool true (.pure ())) false (.pure ()) i = .pure () :=
    fun _ i => by cases i <;> rfl
  exact ⟨_, _, hall, hdone _, concurrent_settled (fun _ _ _ => rfl) hall (hdone _)⟩

end Main

end KataDeviceProvisioner.Ports
