import KataDeviceProvisioner.Ports.Nvidia

/-!
# What a plan does to the knobs

The planner is written against a side effect of the firmware: each enable
silently clears the other knob.  Three facts about it carry everything that is
proved about a board.  Every planned write aims for the mode
(`aims_of_mem_writesFor`), and such a write never moves a knob away from it;
every planned write is one the device has a knob for
(`accepts_of_mem_writesFor`); and the whole plan brings a device there
(`view_write_writesFor`), even when writes that aim for the same mode came in
between.
-/

namespace KataDeviceProvisioner.Ports

open KataDeviceProvisioner.Verified

/-- What `Handle::open` returns when it goes through. -/
def Handle.of (state : DeviceState) : Option Handle :=
  match state.provisioning with
  | some .nvidiaInBandCc => if state.ccCapable then some (.gpu state.address) else none
  | some .nvidiaInBandPpcie => some (.switch state.address)
  | none => none

theorem Handle.of_address {state : DeviceState} {handle : Handle}
    (h : Handle.of state = some handle) : handle.address = state.address := by
  unfold Handle.of at h
  split at h
  · split at h
    · obtain rfl := Option.some.inj h
      rfl
    · cases h
  · obtain rfl := Option.some.inj h
    rfl
  · cases h

namespace Nvidia

/-! ## One device -/

theorem aims_of_mem_writesFor {cc : Option CcMode} {ppcie : Option PpcieMode} {mode : Mode}
    {w : Write} (h : w ∈ writesFor cc ppcie mode) : mode.Aims w := by
  unfold Mode.Aims
  rcases cc with _ | cc <;> rcases ppcie with _ | ppcie
  · simp [writesFor] at h
  · simp only [writesFor, List.nil_append] at h
    split at h <;> simp_all
  · simp only [writesFor, List.append_nil] at h
    split at h <;> simp_all
  · have hone : ∀ (c : Prop) [Decidable c] (v : Write), w ∈ (if c then [] else [v]) → w = v := by
      intro c _ v hw
      split at hw <;> simp_all
    cases mode with
    | off =>
        have happend : w ∈ (if ppcie = .on then [Write.ppcie .off] else []) ++
            (if cc ≠ .off then [Write.cc .off] else []) := h
        rcases List.mem_append.mp happend with h | h
        · right
          split at h <;> simp_all [Mode.ppcieTarget]
        · left
          split at h <;> simp_all [Mode.ccTarget]
    | on => exact .inl (hone _ _ h)
    | devTools => exact .inl (hone _ _ h)
    | ppcie => exact .inr (hone _ _ h)

/-- A device is only asked for what it has a knob for: a switch is never sent a
CC mode, and a GPU without PPCIE never a PPCIE mode. -/
theorem accepts_of_mem_writesFor (supports : String → Bool) (handle : Handle) (knobs : Knobs)
    {mode : Mode} {w : Write}
    (h : w ∈ writesFor (handle.view supports knobs).1 (handle.view supports knobs).2 mode) :
    handle.Accepts supports w := by
  have haims := aims_of_mem_writesFor h
  cases handle with
  | gpu address =>
      cases w with
      | cc => trivial
      | ppcie m =>
          by_cases hs : supports address = true
          · exact hs
          · simp only [Handle.view, hs, Bool.false_eq_true, if_false, writesFor,
              List.append_nil] at h
            split at h <;> simp at h
  | switch address =>
      cases w with
      | cc m =>
          simp only [Handle.view, writesFor, List.nil_append] at h
          split at h <;> simp at h
      | ppcie => trivial

/-- A plan is empty exactly when the device already is in the mode. -/
theorem writesFor_eq_nil_iff (supports : String → Bool) (handle : Handle) (knobs : Knobs)
    (mode : Mode) :
    writesFor (handle.view supports knobs).1 (handle.view supports knobs).2 mode = [] ↔
      handle.view supports knobs = handle.view supports mode.targets := by
  cases handle with
  | gpu address =>
      by_cases hs : supports address = true
      · cases mode <;>
          simp only [Handle.view, hs, if_true, writesFor, Mode.ppcieTarget, Mode.ccTarget,
            Mode.targets, Prod.mk.injEq, Option.some.injEq] <;>
          cases knobs.cc <;> cases knobs.ppcie <;> simp
      · simp only [Handle.view, hs, Bool.false_eq_true, if_false, writesFor, Mode.targets,
          List.append_nil, Prod.mk.injEq, Option.some.injEq, and_true]
        split <;> simp_all
  | switch address =>
      simp only [Handle.view, writesFor, Mode.targets, List.nil_append, Prod.mk.injEq,
        Option.some.injEq, true_and]
      split <;> simp_all

/-- Running a plan made from `knobs` brings the device to the mode from every
`now` that writes aiming for the mode may have led to. -/
theorem view_write_writesFor (supports : String → Bool) (handle : Handle)
    (knobs now : Knobs) (mode : Mode)
    (hcc : knobs.cc = mode.ccTarget → now.cc = mode.ccTarget)
    (hppcie : knobs.ppcie = mode.ppcieTarget → now.ppcie = mode.ppcieTarget) :
    handle.view supports
        ((writesFor (handle.view supports knobs).1 (handle.view supports knobs).2 mode).foldl
          Knobs.write now) =
      handle.view supports mode.targets := by
  obtain ⟨cc, ppcie⟩ := knobs
  obtain ⟨ccNow, ppcieNow⟩ := now
  cases handle with
  | gpu address =>
      by_cases hs : supports address = true
      · cases mode <;>
          simp only [Handle.view, hs, if_true, writesFor, Mode.ppcieTarget, Mode.ccTarget,
            Mode.targets] at hcc hppcie ⊢ <;>
          cases cc <;> cases ppcie <;> simp_all [Knobs.setCc, Knobs.setPpcie]
      · simp only [Handle.view, hs, Bool.false_eq_true, if_false, writesFor, Mode.targets,
          List.append_nil] at hcc ⊢
        split <;> simp_all
  | switch address =>
      simp only [Handle.view, writesFor, Mode.targets, List.nil_append] at hppcie ⊢
      split <;> simp_all

end Nvidia

end KataDeviceProvisioner.Ports
