import KataDeviceProvisioner.Ports.Postcondition

/-!
# Which boards a mode is for

The gate of `verify_capable` against the rule it stands for, that a mode other
than `off` wants GPUs that support it and a CPU that does.  The part about the
CPU is only checked for the modes that raise the CC knob, so PPCIE passes a
coherently attached GPU that supports it (`verifyCapable_exact_iff`).

And what the fallback to `vfio-pci` makes of a board that mode `off` accepts: a
GPU that is in no row of the chip table is refused when its driver is looked up
(`ordinary_board_iff`).
-/

namespace KataDeviceProvisioner.Ports.Main

variable {plat : Platform} {pci : Pcilibs} {mode : Mode} {states : List DeviceState}

/-! ## The capability gate -/

/-- A GPU supports a mode other than `off`. -/
def supportsMode (pci : Pcilibs) (mode : Mode) (state : DeviceState) : Bool :=
  match mode with
  | .ppcie => state.carriesPpcie pci
  | _ => state.ccCapable

/-- The gate goes by the GPUs and by nothing else: unless the mode is `off`
every GPU has to support it, with a CPU that does. -/
structure ExactGate (pci : Pcilibs) (states : List DeviceState) (mode : Mode) : Prop where
  exact : verifyCapable pci states mode = .ok () ↔
    mode = .off ∨ ∀ state ∈ states, state.provisioning = some .nvidiaInBandCc →
      supportsMode pci mode state = true ∧ pci.isC2c state.deviceId = false
  /-- A switch more or less makes no difference. -/
  switches : verifyCapable pci states mode = .ok () ↔
    verifyCapable pci
      (states.filter fun state => state.provisioning != some .nvidiaInBandPpcie) mode = .ok ()

/-- A PPCIE run on a board where every GPU carries PPCIE and some GPU is
coherently attached. -/
def CoherentPpcie (pci : Pcilibs) (states : List DeviceState) (mode : Mode) : Prop :=
  mode = .ppcie ∧
    (∀ state ∈ states, state.provisioning = some .nvidiaInBandCc →
      state.carriesPpcie pci = true) ∧
    ∃ state ∈ states, state.provisioning = some .nvidiaInBandCc ∧
      pci.isC2c state.deviceId = true

theorem verifyCapable_switches :
    verifyCapable pci states mode = .ok () ↔
      verifyCapable pci
        (states.filter fun state => state.provisioning != some .nvidiaInBandPpcie) mode =
          .ok () := by
  rw [verifyCapable_eq_ok_iff, verifyCapable_eq_ok_iff]
  constructor
  · intro h state hmem
    exact h state (List.mem_filter.mp hmem).1
  · intro h state hstate hgpu
    exact h state (List.mem_filter.mpr ⟨hstate, by simp [hgpu]⟩) hgpu

/-- Under every mode but PPCIE the gate is the rule. -/
private theorem exact_of_ne_ppcie (hmode : mode ≠ .ppcie) :
    verifyCapable pci states mode = .ok () ↔
      mode = .off ∨ ∀ state ∈ states, state.provisioning = some .nvidiaInBandCc →
        supportsMode pci mode state = true ∧ pci.isC2c state.deviceId = false := by
  rw [verifyCapable_eq_ok_iff]
  cases mode with
  | off => simp [CanCarry]
  | on => simp [CanCarry, supportsMode]
  | devTools => simp [CanCarry, supportsMode]
  | ppcie => exact absurd rfl hmode

/-- The gate is the rule except on coherently attached GPUs that carry PPCIE. -/
theorem verifyCapable_exact_iff (pci : Pcilibs) (states : List DeviceState) (mode : Mode) :
    ExactGate pci states mode ↔ ¬CoherentPpcie pci states mode := by
  constructor
  · rintro ⟨hexact, _⟩ ⟨rfl, hcarries, state, hstate, hgpu, hc2c⟩
    have hpasses : verifyCapable pci states .ppcie = .ok () :=
      verifyCapable_eq_ok_iff.mpr hcarries
    rcases hexact.mp hpasses with hoff | hall
    · cases hoff
    · rw [(hall state hstate hgpu).2] at hc2c
      cases hc2c
  · intro hnot
    refine ⟨?_, verifyCapable_switches⟩
    by_cases hmode : mode = .ppcie
    · subst hmode
      rw [verifyCapable_eq_ok_iff]
      constructor
      · intro hcarries
        refine .inr fun state hstate hgpu => ⟨hcarries state hstate hgpu, ?_⟩
        by_contra hc2c
        exact hnot ⟨rfl, hcarries, state, hstate, hgpu, by simpa using hc2c⟩
      · rintro (hoff | hall) state hstate hgpu
        · cases hoff
        · exact (hall state hstate hgpu).1
    · exact exact_of_ne_ppcie hmode

/-- A GH200 is a Hopper part, so PPCIE is let through on a Grace CPU. -/
theorem verifyCapable_gh200 :
    ¬ExactGate Bench.pci (Bench.states [Bench.gh200 "0009:01:00.0"]) .ppcie := by
  intro hgate
  have hpasses : verifyCapable Bench.pci (Bench.states [Bench.gh200 "0009:01:00.0"]) .ppcie =
      .ok () := rfl
  rcases hgate.exact.mp hpasses with hoff | hall
  · cases hoff
  · have hc2c := (hall (discovered Bench.pci (Bench.gh200 "0009:01:00.0")) (by decide) rfl).2
    exact absurd hc2c (by decide)

/-! ## The fallback -/

/-- A board of devices in scope that are not coherently attached and that only
the catch-all alias matches. -/
structure Ordinary (plat : Platform) (aliases : Path) (states : List DeviceState) : Prop where
  inScope : ∀ state ∈ states, state.inScope = true
  apart : ∀ state ∈ states, plat.pci.isC2c state.deviceId = false
  noAlias : ∀ state ∈ states, ∃ err, err.kind = some .notFound ∧
    plat.pci.moduleFor (plat.readAliases aliases) state.vendor state.deviceId = .error err
  readable : ∃ table, plat.readAliases aliases = .ok table

/-- What is passed through under `off` are the GPUs. -/
theorem mem_passthrough_off {state : DeviceState} :
    state ∈ passthroughSet states .off ↔
      state ∈ states ∧ state.provisioning ≠ some .nvidiaInBandPpcie := by
  simp [passthroughSet]

/-- The module of a device without an alias is the fallback, if the device may
fall back. -/
theorem vfioModule_noAlias {aliases : Path} {vendor device : UInt16} {generic : Bool}
    {err : Error} {table : String} (hkind : err.kind = some .notFound)
    (herr : plat.pci.moduleFor (plat.readAliases aliases) vendor device = .error err)
    (htable : plat.readAliases aliases = .ok table) :
    Modules.vfioModule plat aliases vendor device generic =
      if generic then .ok "vfio_pci" else .error err := by
  unfold Modules.vfioModule
  rw [herr]
  cases generic with
  | true => simp [hkind, htable]
  | false => simp

/-- On an ordinary board a GPU resolves to `vfio_pci` when it has a chip. -/
theorem Ordinary.resolves_iff {aliases : Path} (h : Ordinary plat aliases states)
    {state : DeviceState} (hstate : state ∈ states)
    (hgpu : state.provisioning = some .nvidiaInBandCc) :
    resolveModule plat aliases state = .ok "vfio_pci" ↔ state.ccChip.isSome = true := by
  obtain ⟨err, hkind, herr⟩ := h.noAlias state hstate
  obtain ⟨table, htable⟩ := h.readable
  have hgeneric : Nvidia.genericVfioSupported plat.pci state = state.ccChip.isSome := by
    simp [Nvidia.genericVfioSupported, hgpu, DeviceState.ccCapable, h.apart state hstate]
  unfold resolveModule
  rw [hgeneric, vfioModule_noAlias hkind herr htable]
  cases hchip : state.ccChip.isSome with
  | false => simp [bind, Except.bind]
  | true =>
      have havailable : verifyVariantAvailable plat.pci state "vfio_pci" = .ok () := by
        simp [verifyVariantAvailable, h.apart state hstate]
      simp [bind, Except.bind, havailable, pure, Except.pure]

/-- A board that mode `off` accepts has a driver for all it passes through
exactly when each of its GPUs has a row in the chip table. -/
theorem ordinary_board_iff {aliases : Path} (h : Ordinary plat aliases states) :
    (verifyCapable plat.pci states .off = .ok () →
        ∀ state ∈ passthroughSet states .off,
          resolveModule plat aliases state = .ok "vfio_pci") ↔
      ∀ state ∈ states, state.provisioning = some .nvidiaInBandCc →
        state.ccChip.isSome = true := by
  have haccepts : verifyCapable plat.pci states .off = .ok () := rfl
  constructor
  · intro hall state hstate hgpu
    have hmem : state ∈ passthroughSet states .off :=
      mem_passthrough_off.mpr ⟨hstate, by simp [hgpu]⟩
    exact (h.resolves_iff hstate hgpu).mp (hall haccepts state hmem)
  · intro hchip _ state hmem
    obtain ⟨hstate, hswitch⟩ := mem_passthrough_off.mp hmem
    have hgpu : state.provisioning = some .nvidiaInBandCc := by
      have hscope := h.inScope state hstate
      unfold DeviceState.inScope at hscope
      obtain ⟨row, hrow⟩ := Option.isSome_iff_exists.mp hscope
      unfold DeviceState.provisioning at hswitch ⊢
      rw [hrow] at hswitch ⊢
      cases hprov : row.provisioning with
      | nvidiaInBandCc => simp [hprov]
      | nvidiaInBandPpcie => simp [hprov] at hswitch
    exact (h.resolves_iff hstate hgpu).mpr (hchip state hstate hgpu)

/-- An H100 beside an A100. -/
def older : List PciDevice := [Bench.h100 "0000:65:00.0", Bench.a100 "0000:66:00.0"]

theorem older_ordinary :
    Ordinary (Bench.platform older) ["modules.alias"] (Bench.states older) where
  inScope := by decide
  apart := by decide
  noAlias state hstate := by
    refine ⟨⟨some .notFound, ["no alias"]⟩, rfl, ?_⟩
    rcases List.mem_cons.mp hstate with rfl | hstate
    · rfl
    · rw [List.mem_singleton.mp hstate]
      rfl
  readable := ⟨Bench.aliases, rfl⟩

theorem ordinary_board_older :
    (verifyCapable Bench.pci (Bench.states older) .off = .ok () →
        ∀ state ∈ passthroughSet (Bench.states older) .off,
          resolveModule (Bench.platform older) ["modules.alias"] state = .ok "vfio_pci") ↔
      ∀ state ∈ Bench.states older, state.provisioning = some .nvidiaInBandCc →
        state.ccChip.isSome = true :=
  ordinary_board_iff older_ordinary

/-- The A100 has no chip, so the board is refused. -/
theorem older_refused :
    ¬(verifyCapable Bench.pci (Bench.states older) .off = .ok () →
        ∀ state ∈ passthroughSet (Bench.states older) .off,
          resolveModule (Bench.platform older) ["modules.alias"] state = .ok "vfio_pci") := by
  intro hall
  have hmodule := hall rfl (discovered Bench.pci (Bench.a100 "0000:66:00.0")) (by decide)
  have herr : resolveModule (Bench.platform older) ["modules.alias"]
      (discovered Bench.pci (Bench.a100 "0000:66:00.0")) =
        .error ⟨some .notFound, ["no alias"]⟩ := rfl
  rw [herr] at hmodule
  cases hmodule

end KataDeviceProvisioner.Ports.Main
