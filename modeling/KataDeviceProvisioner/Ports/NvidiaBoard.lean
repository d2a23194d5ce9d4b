import KataDeviceProvisioner.Ports.NvidiaPhases

/-!
# What a mode change does to the firmware

The two scripts of a mode change act on one device at a time.  A write that
aims for the mode keeps every knob that is there already (`Toward.write`), so
the writing phase brings the whole board to the mode whatever order the devices
come in (`writing_done`); a reset makes its device run what its knobs hold, and
the resets after it leave that alone (`resetting_done`).
-/

namespace KataDeviceProvisioner.Ports.Nvidia

open KataDeviceProvisioner.Verified

variable {plat : Platform} {A : Adversary} {node node' : Node} {t : List (Event Op Node)}
  {states : List DeviceState} {mode : Mode}

/-! ## One operation -/

theorem effect_writeOp (s : Node) (handle : Handle) (w : Write) :
    plat.machine.effect s (handle.writeOp w) = Platform.writeKnob s handle.address w := by
  cases w <;> rfl

theorem effect_reset (s : Node) (handle : Handle) :
    plat.machine.effect s (.reset handle) = Platform.resetDevice s handle.address := rfl

/-- A write changes the knobs of its device, or nothing. -/
theorem responds_write {s s' : Node} {handle : Handle} {w : Write}
    {r : Except Error (handle.writeOp w).Res}
    (h : Responds plat.machine A s (handle.writeOp w) r s') :
    s' = s ∨ s' = Platform.writeKnob s handle.address w := by
  obtain h | h | ⟨_, _, hfile, _⟩ := responds_state h
  · exact .inl h
  · exact .inr (h.trans (effect_writeOp s handle w))
  · simp at hfile

/-- A reset makes its device run what its knobs hold, or changes nothing. -/
theorem responds_reset {s s' : Node} {handle : Handle} {r : Except Error (Op.reset handle).Res}
    (h : Responds plat.machine A s (.reset handle) r s') :
    s' = s ∨ s' = Platform.resetDevice s handle.address := by
  obtain h | h | ⟨_, _, hfile, _⟩ := responds_state h
  · exact .inl h
  · exact .inr (h.trans (effect_reset s handle))
  · simp at hfile

/-- A property of one device's firmware that a write aiming for the mode keeps
is kept by the writes to every device. -/
theorem responds_write_keeps {P : Firmware → Prop} {s s' : Node} {handle : Handle} {w : Write}
    {r : Except Error (handle.writeOp w).Res} (address : String)
    (hP : ∀ device, P device → P (device.write w)) (hs : P (s.board address))
    (h : Responds plat.machine A s (handle.writeOp w) r s') : P (s'.board address) := by
  rcases responds_write h with rfl | rfl
  · exact hs
  · by_cases ha : address = handle.address
    · subst ha
      simpa [Platform.writeKnob] using hP _ hs
    · simpa [Platform.writeKnob, Function.update_of_ne ha] using hs

theorem responds_reset_keeps {P : Firmware → Prop} {s s' : Node} {handle : Handle}
    {r : Except Error (Op.reset handle).Res} (address : String)
    (hP : ∀ device, P device → P device.reset) (hs : P (s.board address))
    (h : Responds plat.machine A s (.reset handle) r s') : P (s'.board address) := by
  rcases responds_reset h with rfl | rfl
  · exact hs
  · by_cases ha : address = handle.address
    · subst ha
      simpa [Platform.resetDevice] using hP _ hs
    · simpa [Platform.resetDevice, Function.update_of_ne ha] using hs

/-! ## The writing phase -/

/-- Every knob of `was` that is where the mode wants it still is in `now`. -/
def Toward (mode : Mode) (was now : Knobs) : Prop :=
  (was.cc = mode.ccTarget → now.cc = mode.ccTarget) ∧
    (was.ppcie = mode.ppcieTarget → now.ppcie = mode.ppcieTarget)

theorem Toward.write {was now : Knobs} {w : Write} (hw : mode.Aims w)
    (h : Toward mode was now) : Toward mode was (now.write w) :=
  ⟨fun hcc => hw.cc_stays (h.1 hcc), fun hppcie => hw.ppcie_stays (h.2 hppcie)⟩

/-- A device in the mode stays in it under every write that aims for it. -/
theorem AtTargets.write {handle : Handle} {knobs : Knobs} {w : Write} (hw : mode.Aims w)
    (h : AtTargets plat mode handle knobs) : AtTargets plat mode handle (knobs.write w) := by
  rw [← knobsMatch_view] at h ⊢
  unfold KnobsMatch Platform.view at h ⊢
  cases handle with
  | gpu address =>
      by_cases hs : plat.gpuSupportsPpcie address = true
      · simp only [Handle.view, hs, if_true, Option.some.injEq, forall_eq'] at h ⊢
        exact ⟨hw.cc_stays h.1, hw.ppcie_stays h.2⟩
      · simp only [Handle.view, hs, Option.some.injEq, forall_eq'] at h ⊢
        exact ⟨hw.cc_stays h.1, by simp⟩
  | switch address =>
      simp only [Handle.view, Option.some.injEq, forall_eq'] at h ⊢
      exact ⟨by simp, hw.ppcie_stays h.2⟩

/-- The writes planned for one device, one after the other. -/
private theorem foldl_effect_writes (handle : Handle) (ws : List Write) (s : Node) :
    (((ws.map handle.writeOp).foldl plat.machine.effect s).board handle.address).knob =
      ws.foldl Knobs.write (s.board handle.address).knob := by
  induction ws generalizing s with
  | nil => rfl
  | cons w ws ih =>
      rw [List.map_cons, List.foldl_cons, ih, effect_writeOp]
      simp [Platform.writeKnob]

/-- A property that each operation of a list keeps is kept by all of them. -/
private theorem foldl_effect_keeps {I : Node → Prop} {ops : List Op} {s : Node}
    (hstep : ∀ op ∈ ops, ∀ s, I s → I (plat.machine.effect s op)) (hs : I s) :
    I (ops.foldl plat.machine.effect s) :=
  List.foldlRecOn ops plat.machine.effect hs fun s hs op hop => hstep op hop s hs

/-- Once every planned write went through, the whole board reads back the mode. -/
theorem writing_done {s₁ : Node}
    (h : Scripted plat.machine A (writeOps (plansFor plat node.board mode states)) node
      (.done ()) s₁ t) :
    AllAtTargets plat mode (plansFor plat node.board mode states) s₁ := by
  obtain ⟨_, _, rfl⟩ := h.complete rfl
  intro plan hplan
  have hwrite : ∀ op ∈ writeOps (plansFor plat node.board mode states),
      ∃ (handle : Handle) (w : Write), op = handle.writeOp w ∧ mode.Aims w := by
    intro op hop
    obtain ⟨plan', _, w, _, hop', haims⟩ := mem_writeOps hop
    exact ⟨plan'.handle, w, hop', haims⟩
  obtain ⟨l₁, l₂, hsplit⟩ := List.append_of_mem hplan
  have hops : writeOps (plansFor plat node.board mode states) =
      writeOps l₁ ++ (plan.writes.map plan.handle.writeOp ++ writeOps l₂) := by
    rw [hsplit]
    simp [writeOps]
  rw [hops] at hwrite ⊢
  rw [List.foldl_append, List.foldl_append]
  -- The writes before this device's may only have moved it towards the mode.
  have hbefore : Toward mode (node.board plan.handle.address).knob
      (((writeOps l₁).foldl plat.machine.effect node).board plan.handle.address).knob := by
    refine foldl_effect_keeps (I := fun s => Toward mode (node.board plan.handle.address).knob
      (s.board plan.handle.address).knob) (fun op hop s hs => ?_) ⟨id, id⟩
    obtain ⟨handle, w, rfl, haims⟩ := hwrite op (List.mem_append_left _ hop)
    exact responds_write_keeps (P := fun device =>
        Toward mode (node.board plan.handle.address).knob device.knob)
      plan.handle.address (fun device hdevice => hdevice.write haims) hs
      (A := .absent) Responds.answered
  -- Its own writes bring it there, and those after leave it there.
  refine foldl_effect_keeps (I := fun s =>
    AtTargets plat mode plan.handle (s.board plan.handle.address).knob)
    (fun op hop s hs => ?_) ?_
  · obtain ⟨handle, w, rfl, haims⟩ := hwrite op
      (List.mem_append_right _ (List.mem_append_right _ hop))
    exact responds_write_keeps (P := fun device =>
        AtTargets plat mode plan.handle device.knob)
      plan.handle.address (fun device hdevice => hdevice.write haims) hs
      (A := .absent) Responds.answered
  · rw [foldl_effect_writes, (mem_plansFor.mp hplan).2]
    exact view_write_writesFor _ _ _ _ mode hbefore.1 hbefore.2

/-! ## The resetting phase -/

/-- Resets leave every knob as it is. -/
theorem resetting_knob {plans : List Planned} {out : Outcome Error Unit} {s₁ s₂ : Node}
    (h : Scripted plat.machine A (resetOps plans) s₁ out s₂ t) :
    (∀ address, (s₂.board address).knob = (s₁.board address).knob) ∧
      ∀ e ∈ t, ∀ address, (e.before.board address).knob = (s₁.board address).knob := by
  refine h.invariant
    (I := fun s => ∀ address, (s.board address).knob = (s₁.board address).knob)
    (fun op hop s r s' hs hresp address => ?_) fun _ => rfl
  obtain ⟨plan, _, _, rfl⟩ := mem_resetOps hop
  exact responds_reset_keeps
    (P := fun device => device.knob = (s₁.board address).knob) address
    (fun device hdevice => hdevice) (hs address) hresp

/-- Once every reset went through, the devices that were reset run what their
knobs hold. -/
theorem resetting_done {plans : List Planned} {s₁ s₂ : Node}
    (h : Scripted plat.machine A (resetOps plans) s₁ (.done ()) s₂ t) :
    ∀ plan ∈ plans, plan.writes ≠ [] →
      (s₂.board plan.handle.address).active = (s₂.board plan.handle.address).knob := by
  intro plan hplan hne
  have hall := (h.established (I := fun op s => ∀ handle, op = .reset handle →
      (s.board handle.address).active = (s.board handle.address).knob)
    (fun op hop s handle hop' => by
      subst hop'
      rw [effect_reset]
      simp [Platform.resetDevice])
    (fun op op' hop' s r s' hs hresp handle hop => by
      obtain ⟨plan', _, _, rfl⟩ := mem_resetOps hop'
      exact responds_reset_keeps (P := fun device => device.active = device.knob)
        handle.address (fun device _ => rfl) (hs handle hop) hresp)).2 rfl
  exact hall _ (List.mem_map_of_mem (mem_pending.mpr ⟨hplan, hne⟩)) plan.handle rfl

end KataDeviceProvisioner.Ports.Nvidia
