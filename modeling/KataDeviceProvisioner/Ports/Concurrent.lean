import KataDeviceProvisioner.Ports.Beside

/-!
# Runs that overlap

Nothing in the program keeps two of its processes from running at a time: a Job
is retried with a new pod, and a process stuck in the kernel outlives its own.
`concurrent_provisioned` says that processes for one mode do no harm to each
other, however their operations interleave and whatever befalls them: whenever
one of them has completed, the node is provisioned.
-/

namespace KataDeviceProvisioner.Ports.Main

open KataDeviceProvisioner.Verified
open Nvidia (Glimpse Openable AtTargets)

variable {plat : Platform} {A : Adversary} {node s s' : Node} {mode : Mode} {Calm : Prop}
  {found : List DeviceState} {drivers : Drivers}

/-! ## What the checks hand on -/

/-- The device is this member of the scope, whatever is known of it by now. -/
def StandsFor (state member : DeviceState) : Prop :=
  state.address = member.address ∧ state.iommuGroup = member.iommuGroup ∧
    Handle.of state = Handle.of member

/-- What the checks hand to the stages is about the devices of the node. -/
structure Fits (plat : Platform) (mode : Mode) (cleared : Cleared) : Prop where
  states : List.Forall₂ StandsFor cleared.states (scope plat)
  passthrough : ∃ seen, cleared.passthrough = (members plat (binding mode)).map (rebound seen)
  drivers : Resolved plat (members plat (binding mode)) cleared.drivers

/-- A device to be bound, as it was found, and the driver found for it. -/
theorem Fits.target {cleared : Cleared} (h : Fits plat mode cleared) {state : DeviceState}
    (hstate : state ∈ cleared.passthrough) :
    ∃ member ∈ members plat (binding mode), state.address = member.address ∧
      Handle.of state = Handle.of member ∧
      ∃ driver, cleared.drivers.get state.address = some driver ∧
        Target plat member driver.driver := by
  obtain ⟨seen, hset⟩ := h.passthrough
  rw [hset] at hstate
  obtain ⟨member, hmember, rfl⟩ := List.mem_map.mp hstate
  exact ⟨member, hmember, rfl, rfl, h.drivers.target (members_nodup _) hmember⟩

/-- Only the devices to be bound are in the passthrough set. -/
theorem Fits.inSet_iff {cleared : Cleared} (h : Fits plat mode cleared) {member : DeviceState}
    (hmember : member ∈ scope plat) :
    inSet cleared.passthrough member.address = true ↔ (binding mode).has member = true := by
  rw [Main.inSet_iff]
  constructor
  · rintro ⟨state, hstate, haddress⟩
    obtain ⟨other, hother, hsame, _⟩ := h.target hstate
    obtain rfl := scope_inj hmember (member_scope hother) (haddress.symm.trans hsame)
    exact (mem_members.mp hother).2
  · intro hhas
    obtain ⟨seen, hset⟩ := h.passthrough
    rw [hset]
    exact ⟨rebound seen member, List.mem_map_of_mem (mem_members.mpr ⟨hmember, hhas⟩), rfl⟩

/-- What probing a device comes to beside others: a plan for what was read is one
the device had needed at the start, and a device that is not read is a mishap. -/
def Probing (plat : Platform) (mode : Mode) (Calm : Prop) (s : Node) (state : DeviceState)
    (probed : DeviceState × Option (String × String)) : Prop :=
  (∃ modes, probed = (withModes state modes, none) ∧
    (Nvidia.writesFor modes.1 modes.2 mode ≠ [] → HasPlan plat s mode state)) ∨
  (∃ reason, probed = (state, some (state.address, reason))) ∧ ¬Calm

/-- What has a plan had one before: no run for the mode takes a device out of it. -/
theorem HasPlan.before {state : DeviceState} (h : HasPlan plat s' mode state)
    (hkeeps : Keeps (InPlace plat mode) s s') : HasPlan plat s mode state := by
  rw [hasPlan_iff] at h ⊢
  unfold reading at h ⊢
  cases hof : Handle.of state with
  | none =>
      rw [hof] at h
      exact absurd rfl h
  | some handle =>
      rw [hof] at h
      intro hnil
      have hat := (Nvidia.writesFor_eq_nil_iff _ _ _ _).mp hnil
      exact h ((Nvidia.writesFor_eq_nil_iff _ _ _ _).mpr
        (lasting_atTargets handle s s' hkeeps hat))

theorem Probing.since {state : DeviceState} {probed : DeviceState × Option (String × String)}
    (h : Probing plat mode Calm s' state probed) (hkeeps : Keeps (InPlace plat mode) s s') :
    Probing plat mode Calm s state probed := by
  refine h.imp_left fun hread => ?_
  obtain ⟨modes, hprobed, hplan⟩ := hread
  exact ⟨modes, hprobed, fun hwrites => (hplan hwrites).before hkeeps⟩

theorem Probing.standsFor {state : DeviceState} {probed : DeviceState × Option (String × String)}
    (h : Probing plat mode Calm s state probed) : StandsFor probed.1 state := by
  rcases h with ⟨modes, rfl, _⟩ | ⟨⟨reason, rfl⟩, _⟩
  · exact ⟨rfl, rfl, rfl⟩
  · exact ⟨rfl, rfl, rfl⟩

/-- What is found on a node that can be provisioned is found on every node. -/
theorem Admits.members_resolved (h : Admits plat mode node found drivers) :
    Resolved plat (members plat (binding mode)) drivers := by
  have hdrivers : Resolved plat (passthroughSet found mode) drivers := h.drivers
  rw [scope_found h.scope, passthrough_members] at hdrivers
  exact resolved_of_rebound hdrivers

/-- A calm run reads every device. -/
private theorem unreadable_calm {all : List (DeviceState × Option (String × String))}
    (hall : List.Forall₂ (Probing plat mode Calm s) found all) (hc : Calm) :
    unreadable all = [] := by
  unfold unreadable
  rw [List.eq_nil_iff_forall_not_mem]
  intro entry hentry
  rw [List.reduceOption_mem_iff] at hentry
  obtain ⟨probed, hprobed, hsome⟩ := List.mem_map.mp hentry
  obtain ⟨device, _, ⟨modes, rfl, _⟩ | ⟨_, hnot⟩⟩ := forall₂_of_mem_right hall hprobed
  · cases hsome
  · exact hnot hc

/-- A calm run asks for no more to be idle than one that had the node for itself
would have at the start. -/
private theorem verifyIdle_calm {seen later : Node} {found' : List DeviceState}
    {drivers' : Drivers} {all : List (DeviceState × Option (String × String))}
    (hadmits : Admits plat mode s found' drivers') (hlater : Keeps (InPlace plat mode) s later)
    (hscope : inScope plat.pci (plat.sysfs seen) = .ok found)
    (hresolved : Resolved plat (members plat (binding mode)) drivers)
    (hall : List.Forall₂ (Probing plat mode Calm s) found all) (hc : Calm) :
    verifyIdle plat (plat.sysfs later) (writable (plat.sysfs later) (all.map (·.1))
      (passthroughSet found mode) drivers mode (unreadable all)) = .ok () := by
  have hidle := hadmits.idle
  rw [unreadable_readAll] at hidle
  have hfree := (idle_iff hadmits.scope hadmits.members_resolved).mp hidle
  rw [unreadable_calm hall hc, verifyIdle_ok]
  intro state hstate
  obtain ⟨hmem, hwhy⟩ := mem_writable.mp hstate
  obtain ⟨entry, hentry, rfl⟩ := List.mem_map.mp hmem
  obtain ⟨device, hdevice, ⟨modes, rfl, hplan⟩ | ⟨_, hnot⟩⟩ := forall₂_of_mem_right hall hentry
  case inr => exact absurd hc hnot
  rw [scope_found hscope] at hdevice
  obtain ⟨member, hmember, rfl⟩ := List.mem_map.mp hdevice
  have hin : inSet (passthroughSet found mode) (withModes (rebound seen member) modes).address =
      true ↔ (binding mode).has member = true := inSet_members hscope hmember
  have hasked : Asked plat mode s member := by
    unfold Asked
    by_cases hhas : (binding mode).has member = true
    · rw [if_pos hhas]
      rw [if_pos (hin.mpr hhas)] at hwhy
      by_cases hneeds : HasPlan plat s mode member
      · exact .inl hneeds
      · refine .inr fun driver htarget hon => ?_
        obtain ⟨target, hget, htarget'⟩ :=
          hresolved.target (members_nodup _) (mem_members.mpr ⟨hmember, hhas⟩)
        obtain ⟨_, driver', htarget'', hon'⟩ := hlater (.bound member)
          ⟨mem_members.mpr ⟨hmember, hhas⟩, driver, htarget, hon⟩
        rw [htarget''.unique htarget'] at hon'
        rcases hwhy target hget hon' with hunread | hwrites
        · cases hunread
        · have hread := hasPlan_iff.mp (hplan hwrites)
          exact hneeds (hasPlan_iff.mpr hread)
    · rw [if_neg hhas]
      rw [if_neg fun hset => hhas (hin.mp hset)] at hwhy
      by_contra hnone
      have hreleased := (hlater (.released member)
        ⟨hmember, by simpa using hhas, by simpa using hnone⟩).2.2
      exact Bool.false_ne_true (hreleased.symm.trans hwhy)
  rw [← hfree member hmember hasked]
  exact holders_congr rfl rfl

section Checks

variable (hvfio : VfioRegisters plat) (hcalm : Calm → A = .absent)

include hvfio hcalm

private theorem probe_cooperates (state : DeviceState) :
    Cooperates plat A mode Calm (Nvidia.probe plat state) (fun modes _ =>
      Nvidia.writesFor modes.1 modes.2 mode ≠ [] → HasPlan plat s mode state) s := by
  refine guarantees_seq (Nvidia.open_cooperates hcalm state) fun opened s₁ hs₁ hopened => ?_
  subst hopened
  cases hof : Handle.of state with
  | none => exact guarantees_pure fun _ _ hwrites => absurd rfl hwrites
  | some handle =>
      refine (Nvidia.current_cooperates hvfio hcalm handle).mono
        (fun modes s' _ hread hwrites => ?_) fun _ _ _ hE => hE
      rw [hasPlan_iff, reading, hof]
      intro hnil
      exact (hread.since hs₁).planned hwrites ((Nvidia.writesFor_eq_nil_iff _ _ _ _).mp hnil)

private theorem probeOne_cooperates (state : DeviceState) :
    Cooperates plat A mode Calm (probeOne plat state)
      (fun probed _ => Probing plat mode Calm s state probed) s := by
  have hprobe : Cooperates plat A mode Calm (Nvidia.probe plat state).attempt
      (fun read _ => match read with
        | .ok modes => Nvidia.writesFor modes.1 modes.2 mode ≠ [] → HasPlan plat s mode state
        | .error _ => ¬Calm) s :=
    guarantees_attempt (probe_cooperates hvfio hcalm state)
  refine guarantees_seq hprobe fun read s₁ _ hread => ?_
  cases read with
  | ok modes => exact guarantees_pure fun _ _ => .inl ⟨modes, rfl, hread⟩
  | error e => exact guarantees_pure fun _ _ => .inr ⟨⟨e.render, rfl⟩, hread⟩

private theorem probeModes_cooperates (states : List DeviceState) :
    Cooperates plat A mode Calm (Nvidia.probeModes plat states) (fun read _ => ∃ all,
      List.Forall₂ (Probing plat mode Calm s) states all ∧
        read = (all.map (·.1), unreadable all)) s := by
  rw [probeModes_eq]
  have hall : Cooperates plat A mode Calm (Program.gather (probeOne plat) states)
      (fun all _ => List.Forall₂ (Probing plat mode Calm s) states all) s := by
    refine guarantees_gather (fun _ _ => lasting_const _) fun state _ s' hs' => ?_
    exact (probeOne_cooperates hvfio hcalm state).mono
      (fun _ _ _ hprobed => hprobed.since hs') fun _ _ _ hE => hE
  exact guarantees_seq hall fun all _ _ hall => guarantees_pure fun _ _ => ⟨all, hall, rfl⟩

omit hvfio in
private theorem resolveDrivers_cooperates (states : List DeviceState)
    (hresolved : Calm → ∃ drivers, Resolved plat states drivers) :
    Cooperates plat A mode Calm (resolveDrivers plat states)
      (fun drivers _ => Resolved plat states drivers) s := by
  have hsteady : (resolveDrivers plat states).Uses Op.Steady := by
    refine uses_bind (uses_ofExcept _) fun aliases => ?_
    refine uses_bind (uses_gather fun state _ => ?_) fun _ => trivial
    refine uses_bind (uses_mapError (uses_ofExcept _)) fun module => ?_
    refine uses_bind (uses_mapError ?_) fun _ => ?_
    · refine uses_bind (uses_ofExcept _) fun command => ?_
      refine uses_bind (uses_ofExcept _) fun _ => ?_
      exact uses_bind (uses_mapError (uses_perform trivial)) fun _ => uses_ofExcept _
    · exact uses_bind (uses_mapError (uses_perform trivial)) fun _ => trivial
  refine (cooperates_steady hsteady s fun hc e t hrun => ?_).mono
    (fun drivers s' _ hreturned => ?_) fun _ _ _ hE => hE
  · rw [hcalm hc] at hrun
    obtain ⟨drivers, hresolved⟩ := hresolved hc
    cases (resolveDrivers_absent hresolved _ _ _ (hrun.weaken plat.whole_within)).1
  · obtain ⟨t, hrun⟩ := hreturned
    exact resolveDrivers_done (hrun.weaken plat.whole_within)

/-- What the checks clear fits the node, and a calm run is cleared if it would be
with the node for itself. -/
theorem preflight_cooperates
    (hadmits : Calm → ∃ found drivers, Admits plat mode s found drivers) :
    Cooperates plat A mode Calm (preflight plat mode) (fun cleared s' =>
      Fits plat mode cleared ∧ Host.check plat.pci (plat.sysfs s') = .ok () ∧
        ∃ found, inScope plat.pci (plat.sysfs s') = .ok found ∧ found ≠ [] ∧
          verifyCapable plat.pci found mode = .ok ()) s := by
  refine guarantees_seq (readSysfs_cooperates hvfio hcalm) fun sysfs s₁ _ hlook => ?_
  obtain ⟨seen, hseen, hs₁, rfl⟩ := hlook
  have hcarries : Calm → ∃ found, inScope plat.pci (plat.sysfs seen) = .ok found ∧ found ≠ [] ∧
      verifyCapable plat.pci found mode = .ok () := by
    intro hc
    obtain ⟨found, drivers, hadmits⟩ := hadmits hc
    exact carries_on ⟨found, hadmits.scope, hadmits.nonempty, hadmits.capable⟩ seen
  refine guarantees_seq (cooperates_check fun hc => ⟨(), ?_⟩) fun _ s₂ hs₂ hhost => ?_
  · obtain ⟨found, drivers, hadmits⟩ := hadmits hc
    exact lasting_hostCheck s seen hseen hadmits.host
  refine guarantees_seq (cooperates_check fun hc => ?_) fun found s₃ hs₃ hscope => ?_
  · obtain ⟨found, hscope, _⟩ := hcarries hc
    exact ⟨found, hscope⟩
  have hfound : ∀ found', inScope plat.pci (plat.sysfs seen) = .ok found' → found' = found :=
    fun found' hfound' => Except.ok.inj (hfound'.symm.trans hscope)
  refine guarantees_seq (cooperates_check fun hc => ⟨(), ?_⟩) fun _ s₄ hs₄ hnonempty => ?_
  · obtain ⟨found', hscope', hne, _⟩ := hcarries hc
    rw [hfound found' hscope'] at hne
    rw [if_neg (by simpa [List.isEmpty_iff] using hne)]
  refine guarantees_seq (cooperates_check fun hc => ⟨(), ?_⟩) fun _ s₅ hs₅ hcapable => ?_
  · obtain ⟨found', hscope', _, hcapable⟩ := hcarries hc
    rwa [hfound found' hscope'] at hcapable
  have hset : passthroughSet found mode = (members plat (binding mode)).map (rebound seen) := by
    rw [scope_found hscope, passthrough_members]
  dsimp only
  refine guarantees_seq (resolveDrivers_cooperates hcalm (passthroughSet found mode)
    fun hc => ?_) fun drivers s₆ hs₆ hresolved => ?_
  · obtain ⟨found', drivers, hadmits⟩ := hadmits hc
    rw [hset]
    exact ⟨drivers, resolved_rebound hadmits.members_resolved plat.proc⟩
  rw [hset] at hresolved
  replace hresolved := resolved_of_rebound hresolved
  refine guarantees_seq (probeModes_cooperates hvfio hcalm found) fun read s₇ hs₇ hread => ?_
  obtain ⟨all, hall, rfl⟩ := hread
  refine guarantees_seq (readSysfs_cooperates hvfio hcalm) fun sysfs s₈ hs₈ hlook => ?_
  obtain ⟨later, hlater, hs₈', rfl⟩ := hlook
  have hprobing : Keeps (InPlace plat mode) seen s₆ :=
    hs₁.trans (hs₂.trans (hs₃.trans (hs₄.trans (hs₅.trans hs₆))))
  refine guarantees_seq (cooperates_check fun hc => ⟨(), ?_⟩) fun _ s₉ hs₉ _ => ?_
  · obtain ⟨found', drivers', hadmits⟩ := hadmits hc
    have hstart : Keeps (InPlace plat mode) s s₆ := hseen.trans hprobing
    exact verifyIdle_calm hadmits (hstart.trans (hs₇.trans hlater)) hscope hresolved
      (hall.imp fun _ _ hprobed => hprobed.since hstart) hc
  refine guarantees_pure fun s' hs' => ⟨?_, ?_, ?_⟩
  · exact
      { states := by
          have hstands : List.Forall₂ (fun device probed => StandsFor probed.1 device) found all :=
            hall.imp fun _ _ hprobed => hprobed.standsFor
          rw [scope_found hscope, List.forall₂_map_left_iff] at hstands
          exact List.forall₂_map_left_iff.mpr hstands.flip
        passthrough := ⟨seen, hset⟩
        drivers := hresolved }
  · have hend : Keeps (InPlace plat mode) seen s' :=
      hprobing.trans (hs₇.trans (hs₈.trans (hs₉.trans hs')))
    exact lasting_hostCheck seen s' hend hhost
  · refine carries_on ⟨found, hscope, ?_, hcapable⟩ s'
    intro hnil
    rw [hnil] at hnonempty
    cases hnonempty

/-! ## The boot files -/

private theorem write_cooperates {path : Path} {contents : String}
    (hentry : BootEntry plat mode path (some contents)) :
    Cooperates plat A mode Calm (Modules.write (plat.hostRoot ++ path) contents)
      (fun _ => InPlace plat mode (.file path)) s := by
  have hwrite : ∀ s₁, (Calm → ∀ s₂, Keeps (InPlace plat mode) s₁ s₂ →
      Platform.hasParent s₂ (plat.hostRoot ++ path) = true) →
      Cooperates plat A mode Calm ((issue (.writeFile (plat.hostRoot ++ path) contents)).mapError
        (Error.context ("write " ++ (plat.hostRoot ++ path).display)))
        (fun _ => InPlace plat mode (.file path)) s₁ := by
    intro s₁ hparent
    refine guarantees_mapError (cooperates_perform hvfio hcalm (.writeFile hentry)
      (fun s₂ a s₃ _ hanswer s₄ hs₄ => hs₄ _ ⟨some contents, hentry, ?_⟩) fun hc s₂ hs₂ => ?_)
    · simp only [Platform.answer] at hanswer
      split at hanswer
      · rw [← (Prod.mk.inj hanswer).2]
        exact Function.update_self _ _ _
      · cases (Prod.mk.inj hanswer).1
    · refine ⟨(), ?_⟩
      simp only [Platform.answer, if_pos (hparent hc s₂ hs₂)]
  unfold Modules.write
  split
  case h_1 parent hparent =>
      have hcreate : Cooperates plat A mode Calm ((issue (.createDirAll parent)).mapError
          (Error.context ("create " ++ parent.display)))
          (fun _ => InPlace plat mode (.dir parent)) s := by
        refine guarantees_mapError (cooperates_perform hvfio hcalm (.createDirAll parent)
          (fun s₁ a s₂ _ hanswer s₃ hs₃ => hs₃ (.dir parent) ?_) fun _ _ _ => ⟨(), rfl⟩)
        have hdirs : (plat.machine.effect s₁ (.createDirAll parent)).dirs parent = true := by
          rw [effect_createDirAll]
          simp
        rw [← (Prod.mk.inj hanswer).2]
        exact hdirs
      refine guarantees_seq hcreate fun _ s₁ _ hdir => hwrite s₁ fun _ s₂ hs₂ => ?_
      rw [Platform.hasParent, hparent]
      exact hs₂ (.dir parent) hdir
  case h_2 hparent =>
      refine hwrite s fun _ s₁ _ => ?_
      rw [Platform.hasParent, hparent]
      rfl

private theorem remove_cooperates {path : Path} (hentry : BootEntry plat mode path none) :
    Cooperates plat A mode Calm (Modules.remove (plat.hostRoot ++ path))
      (fun _ => InPlace plat mode (.file path)) s := by
  have hgone : ∀ s₁ : Node, s₁.files (plat.hostRoot ++ path) = none →
      InPlace plat mode (.file path) s₁ := fun s₁ hnone => ⟨none, hentry, hnone⟩
  have hremove : Cooperates plat A mode Calm (issue (.removeFile (plat.hostRoot ++ path))).attempt
      (fun removed s' => match removed with
        | .ok () => InPlace plat mode (.file path) s'
        | .error e => if e.kind = some .notFound then InPlace plat mode (.file path) s'
            else ¬Calm) s := by
    refine guarantees_attempt (guarantees_perform
      (fun s₁ r s₂ hresp => responds_keeps hvfio (.removeFile hentry) hresp)
      (fun s₁ a s₂ _ hresp s₃ hs₃ => ?_) fun s₁ e s₂ _ hresp s₃ hs₃ => ?_)
    · have hanswer : plat.answer s₁ (.removeFile (plat.hostRoot ++ path)) = (.ok a, s₂) := hresp.ok
      refine hs₃ _ (hgone s₂ ?_)
      simp only [Platform.answer] at hanswer
      split at hanswer
      · rw [← (Prod.mk.inj hanswer).2]
        exact Function.update_self _ _ _
      · cases (Prod.mk.inj hanswer).1
    · rcases hresp.error with hanswer | ⟨hmay, hop, _⟩
      · -- The file is reported missing, and nobody puts it back.
        have hmissing : plat.answer s₁ (.removeFile (plat.hostRoot ++ path)) = (.error e, s₂) :=
          hanswer
        simp only [Platform.answer] at hmissing
        split at hmissing
        · cases (Prod.mk.inj hmissing).1
        case h_2 hnone =>
            obtain ⟨he, rfl⟩ := Prod.mk.inj hmissing
            rw [← Except.error.inj he]
            exact hs₃ _ (hgone s₁ hnone)
      · have hfallible : (e.kind != some .notFound) = true := hop
        have hkind : e.kind ≠ some .notFound := by simpa using hfallible
        dsimp only
        rw [if_neg hkind]
        intro hc
        rw [hcalm hc] at hmay
        exact hmay
  unfold Modules.remove
  refine guarantees_seq hremove fun removed s₁ _ hremoved => ?_
  cases removed with
  | ok _ => exact guarantees_pure fun s' hs' => hs' _ hremoved
  | error e =>
      by_cases hkind : e.kind = some .notFound
      · dsimp only at hremoved ⊢
        rw [if_pos hkind] at hremoved ⊢
        exact guarantees_pure fun s' hs' => hs' _ hremoved
      · dsimp only at hremoved ⊢
        rw [if_neg hkind] at hremoved ⊢
        exact guarantees_throw fun _ _ => hremoved

private theorem files_cooperates {claims : List Modules.Claim}
    (hentries : ∀ entry ∈ Modules.bootEntries (Modules.render claims),
      BootEntry plat mode entry.1 entry.2) :
    Cooperates plat A mode Calm (Modules.persist plat.hostRoot claims) (fun _ s' =>
      ∀ entry ∈ Modules.bootEntries (Modules.render claims), InPlace plat mode (.file entry.1) s')
      s := by
  simp only [Modules.bootEntries, List.forall_mem_cons, List.not_mem_nil, false_imp_iff,
    implies_true, and_true] at hentries ⊢
  obtain ⟨hload, hconf, hrules⟩ := hentries
  unfold Modules.persist
  dsimp only
  refine guarantees_seq (write_cooperates hvfio hcalm hload) fun _ s₁ _ hloaded => ?_
  refine guarantees_seq (write_cooperates hvfio hcalm hconf) fun _ s₂ hs₂ hconfed => ?_
  have hdone : ∀ s₃, Keeps (InPlace plat mode) s₂ s₃ →
      InPlace plat mode (.file Modules.udevRules) s₃ →
      Cooperates plat A mode Calm (pure (Modules.draftOf claims).overridden) (fun _ s' =>
        InPlace plat mode (.file Modules.modulesLoad) s' ∧
          InPlace plat mode (.file Modules.modprobeConf) s' ∧
          InPlace plat mode (.file Modules.udevRules) s') s₃ := by
    intro s₃ hs₃ hruled
    refine guarantees_pure fun s' hs' => ⟨?_, ?_, hs' _ hruled⟩
    · exact (hs₂.trans (hs₃.trans hs')) _ hloaded
    · exact (hs₃.trans hs') _ hconfed
  cases hcontents : (Modules.render claims).udevRules with
  | none =>
      rw [hcontents] at hrules
      exact guarantees_seq (remove_cooperates hvfio hcalm hrules) fun _ s₃ hs₃ => hdone s₃ hs₃
  | some rules =>
      rw [hcontents] at hrules
      exact guarantees_seq (write_cooperates hvfio hcalm hrules) fun _ s₃ hs₃ => hdone s₃ hs₃

omit hvfio hcalm in
private theorem index_eq {drivers : Drivers} {address : String} {driver : VfioDriver}
    (h : drivers.get address = some driver) : drivers.index address = pure driver := by
  unfold Drivers.index
  rw [h]

omit hvfio hcalm in
private theorem gather_claimFor {states : List DeviceState}
    (h : ∀ state ∈ states, ∃ driver, drivers.get state.address = some driver) :
    Program.gather (claimFor drivers) states = pure (states.filterMap (claimOf drivers)) := by
  induction states with
  | nil => rfl
  | cons state states ih =>
      obtain ⟨driver, hget⟩ := h state List.mem_cons_self
      have hclaim : claimOf drivers state = some _ := congrArg (Option.map _) hget
      rw [Program.gather, ih fun other hother => h other (List.mem_cons_of_mem state hother),
        claimFor, index_eq hget, List.filterMap_cons_some hclaim]
      rfl

private theorem persist_cooperates {cleared : Cleared} (hfits : Fits plat mode cleared) :
    Cooperates plat A mode Calm (persist plat cleared.passthrough cleared.drivers) (fun _ s' =>
      ∀ entry ∈ Modules.bootEntries (Modules.render
          ((members plat (binding mode)).filterMap (claimOf cleared.drivers))),
        InPlace plat mode (.file entry.1) s') s := by
  have hclaims := gather_claimFor fun state hstate => by
    obtain ⟨_, _, _, _, driver, hget, _⟩ := hfits.target hstate
    exact ⟨driver, hget⟩
  obtain ⟨seen, hset⟩ := hfits.passthrough
  rw [persist, hclaims, pure_bind, hset, claims_rebound]
  refine guarantees_seq (files_cooperates hvfio hcalm fun entry hentry => ?_)
    fun _ s₁ _ hfiles => guarantees_pure fun s' hs' entry hentry => hs' _ (hfiles entry hentry)
  exact ⟨cleared.drivers, hfits.drivers, hentry⟩

/-! ## The devices -/

/-- Binding a device that is free leaves it bound. -/
private theorem bindOne_cooperates {cleared : Cleared} (hfits : Fits plat mode cleared)
    {state : DeviceState} (hstate : state ∈ cleared.passthrough)
    (hfree : Calm → ∀ member ∈ members plat (binding mode), InPlace plat mode (.free member) s) :
    Cooperates plat A mode Calm (bindOne cleared.drivers state) (fun _ s' =>
      ∀ member ∈ members plat (binding mode), member.address = state.address →
        InPlace plat mode (.bound member) s') s := by
  obtain ⟨member, hmember, haddress, _, driver, hget, htarget⟩ := hfits.target hstate
  have hbind : Cooperates plat A mode Calm (issue (.bind member.address driver.driver))
      (fun _ => InPlace plat mode (.bound member)) s := by
    refine cooperates_perform hvfio hcalm (.bind hmember htarget)
      (fun s₁ a s₂ _ hanswer s₃ hs₃ => hs₃ _ ⟨hmember, driver.driver, htarget, ?_⟩)
      fun hc s₁ hs₁ => ?_
    · simp only [Platform.answer] at hanswer
      split at hanswer
      · rw [← (Prod.mk.inj hanswer).2]
        exact Function.update_self _ _ _
      · split at hanswer
        case isTrue hcurrent hsame =>
            rw [← (Prod.mk.inj hanswer).2]
            rw [hcurrent, hsame]
        case isFalse => cases (Prod.mk.inj hanswer).1
    · rcases (hs₁ _ (hfree hc member hmember)).2 driver.driver htarget with hnone | hon
      · exact ⟨.now, by simp only [Platform.answer, hnone]⟩
      · exact ⟨.already, by simp only [Platform.answer, hon, if_true]⟩
  rw [bindOne, index_eq hget, pure_bind, haddress]
  refine guarantees_seq hbind fun _ s₁ _ hbound => ?_
  refine guarantees_pure fun s' hs' other hother hsame => ?_
  obtain rfl := scope_inj (member_scope hother) (member_scope hmember) hsame
  exact hs' _ hbound

/-- A device the mode leaves to the host is on no vfio driver from then on. -/
private theorem releaseOne_cooperates {cleared : Cleared} (hfits : Fits plat mode cleared)
    {state member : DeviceState} (hmember : member ∈ scope plat)
    (hstands : StandsFor state member) :
    Cooperates plat A mode Calm (releaseOne cleared.passthrough state) (fun _ s' =>
      (binding mode).has member = false → InPlace plat mode (.released member) s') s := by
  unfold releaseOne
  rw [hstands.1]
  by_cases hhas : (binding mode).has member = true
  · rw [if_pos ((hfits.inSet_iff hmember).mpr hhas)]
    refine guarantees_pure fun _ _ hnot => ?_
    rw [hhas] at hnot
    cases hnot
  · rw [if_neg fun hin => hhas ((hfits.inSet_iff hmember).mp hin)]
    have hleft : (binding mode).has member = false := by simpa using hhas
    refine guarantees_seq (readSysfs_cooperates hvfio hcalm) fun sysfs s₁ _ hlook => ?_
    obtain ⟨seen, _, hs₁, rfl⟩ := hlook
    have hcurrent : (plat.sysfs seen).currentDriver member.address =
        seen.driver member.address := rfl
    rw [hcurrent]
    cases hheld : (seen.driver member.address).filter namesVfio with
    | none =>
        refine guarantees_pure fun s' hs' _ => (hs₁.trans hs') (.released member)
          ⟨hmember, hleft, ?_⟩
        cases hdriver : seen.driver member.address with
        | none => rfl
        | some driver => simpa [hdriver] using hheld
    | some driver =>
        refine guarantees_mapError (cooperates_perform hvfio hcalm (.unbind hmember hleft)
          (fun s₂ a s₃ _ hanswer s₄ hs₄ _ => hs₄ (.released member) ⟨hmember, hleft, ?_⟩)
          fun _ _ _ => ⟨(), rfl⟩)
        have hnone : s₃.driver member.address = none := by
          rw [← (Prod.mk.inj hanswer).2]
          exact Function.update_self _ _ _
        rw [hnone]
        rfl

/-- Of what is bound and in the mode a calm run complains of nothing. -/
private theorem verifyOne_cooperates {cleared : Cleared} (hfits : Fits plat mode cleared)
    {state : DeviceState} (hstate : state ∈ cleared.passthrough)
    (hbound : ∀ member ∈ members plat (binding mode), InPlace plat mode (.bound member) s)
    (hat : ∀ member handle, Openable (scope plat) member handle →
      AtTargets plat mode handle (s.board handle.address).knob) :
    Cooperates plat A mode Calm (verifyOne plat mode cleared.drivers state) (fun _ _ => True)
      s := by
  obtain ⟨member, hmember, haddress, hof, driver, hget, htarget⟩ := hfits.target hstate
  rw [verifyOne, index_eq hget, pure_bind, haddress]
  have hcheck : Cooperates plat A mode Calm (issue (.verifyBound member.address driver.driver))
      (fun _ _ => True) s := by
    refine cooperates_perform hvfio hcalm (.quiet (.inr (.inr (.inr rfl))))
      (fun _ _ _ _ _ _ _ => trivial) fun _ s₁ hs₁ => ⟨(), ?_⟩
    obtain ⟨_, driver', htarget', hon⟩ := hs₁ _ (hbound member hmember)
    rw [htarget'.unique htarget] at hon
    simp only [Platform.answer, hon, if_true]
  refine guarantees_seq hcheck fun _ s₁ hs₁ _ => ?_
  unfold Nvidia.verifyMode
  refine guarantees_seq (guarantees_mapError (Nvidia.open_cooperates hcalm state))
    fun opened s₂ hs₂ hopened => ?_
  subst hopened
  cases hopen : Handle.of state with
  | none => exact guarantees_pure fun _ _ => trivial
  | some handle =>
      refine Nvidia.verify_cooperates hvfio hcalm fun _ => ?_
      exact lasting_atTargets handle s s₂ (hs₁.trans hs₂)
        (hat member handle ⟨member_scope hmember, hof.symm.trans hopen⟩)

/-! ## A whole run -/

/-- Every device in scope that can be opened is in the mode. -/
def Moded (plat : Platform) (mode : Mode) (s : Node) : Prop :=
  ∀ member handle, Openable (scope plat) member handle →
    AtTargets plat mode handle (s.board handle.address).knob

omit hvfio hcalm in
private theorem stays_moded : Stays plat mode (Moded plat mode) :=
  Lasting.all fun _ => Lasting.all fun handle => (lasting_atTargets handle).imp

private theorem modeStage_cooperates {cleared : Cleared} (hfits : Fits plat mode cleared) :
    Cooperates plat A mode Calm (modeStage plat cleared.states mode) (fun _ => Moded plat mode)
      s := by
  refine guarantees_seq (Nvidia.mode_cooperates hvfio hcalm cleared.states)
    fun _ s₁ _ hat => guarantees_pure fun s' hs' => stays_moded s₁ s' hs' ?_
  intro member handle hopen
  obtain ⟨state, hstate, _, _, hof⟩ := forall₂_of_mem_right hfits.states hopen.1
  exact hat state handle ⟨hstate, hof.trans hopen.2⟩

private theorem binds_cooperate {cleared : Cleared} (hfits : Fits plat mode cleared)
    (hfree : Calm → ∀ member ∈ members plat (binding mode), InPlace plat mode (.free member) s) :
    Cooperates plat A mode Calm (Program.forEach (bindOne cleared.drivers) cleared.passthrough)
      (fun _ s' => ∀ member ∈ members plat (binding mode), InPlace plat mode (.bound member) s')
      s := by
  have hall : Cooperates plat A mode Calm
      (Program.forEach (bindOne cleared.drivers) cleared.passthrough)
      (fun _ s' => ∀ state ∈ cleared.passthrough, ∀ member ∈ members plat (binding mode),
        member.address = state.address → InPlace plat mode (.bound member) s') s := by
    refine guarantees_forEach (fun state => ?_) fun state hstate s' hs' => ?_
    · exact Lasting.all fun member => Lasting.imp (Lasting.imp (lasting_fact (Part.bound member)))
    · exact bindOne_cooperates hvfio hcalm hfits hstate
        fun hc member hmember => hs' _ (hfree hc member hmember)
  refine hall.mono (fun _ s' _ hbound member hmember => ?_) fun _ _ _ hE => hE
  have hin := (hfits.inSet_iff (member_scope hmember)).mpr (mem_members.mp hmember).2
  obtain ⟨state, hstate, haddress⟩ := inSet_iff.mp hin
  exact hbound state hstate member hmember haddress.symm

private theorem release_cooperates {cleared : Cleared} (hfits : Fits plat mode cleared) :
    Cooperates plat A mode Calm (release cleared.states cleared.passthrough) (fun _ s' =>
      ∀ member ∈ scope plat, (binding mode).has member = false →
        InPlace plat mode (.released member) s') s := by
  have hall : Cooperates plat A mode Calm (release cleared.states cleared.passthrough)
      (fun _ s' => ∀ state ∈ cleared.states, ∀ member, StandsFor state member →
        member ∈ scope plat → (binding mode).has member = false →
          InPlace plat mode (.released member) s') s := by
    refine guarantees_forEach (fun state => ?_) fun state hstate s' _ => ?_
    · exact Lasting.all fun member =>
        Lasting.imp (Lasting.imp (Lasting.imp (lasting_fact (Part.released member))))
    · obtain ⟨member, hmember, hstands⟩ := forall₂_of_mem_left hfits.states hstate
      refine (releaseOne_cooperates hvfio hcalm hfits hmember hstands).mono
        (fun _ s'' _ hreleased other hother hin => ?_) fun _ _ _ hE => hE
      obtain rfl := scope_inj hmember hin (hstands.1.symm.trans hother.1)
      exact hreleased
  refine hall.mono (fun _ s' _ hreleased member hmember => ?_) fun _ _ _ hE => hE
  obtain ⟨state, hstate, hstands⟩ := forall₂_of_mem_right hfits.states hmember
  exact hreleased state hstate member hstands hmember

/-- Beside runs for its mode a run undoes nothing they have done; once it has
completed the node is provisioned; and a calm run on a node that it could
provision by itself completes. -/
theorem apply_cooperates
    (hready : Calm → ∃ found drivers, Admits plat mode s found drivers ∧
      Free s (passthroughSet found mode) drivers) :
    Cooperates plat A mode Calm (apply plat mode) (fun _ => Provisioned plat mode) s := by
  have hfree : Calm → ∀ member ∈ members plat (binding mode),
      InPlace plat mode (.free member) s := by
    intro hc member hmember
    obtain ⟨found, drivers, hadmits, hfree⟩ := hready hc
    refine ⟨hmember, fun driver htarget => ?_⟩
    obtain ⟨target, hget, htarget'⟩ := hadmits.members_resolved.target (members_nodup _) hmember
    have hset : rebound s member ∈ passthroughSet found mode := by
      rw [scope_found hadmits.scope, passthrough_members]
      exact List.mem_map_of_mem hmember
    cases hcurrent : s.driver member.address with
    | none => exact .inl rfl
    | some current =>
        refine .inr (congrArg some ?_)
        by_contra hne
        rw [htarget.unique htarget'] at hne
        exact hfree _ hset ⟨target, current, hget, hcurrent, hne⟩
  refine guarantees_seq (preflight_cooperates hvfio hcalm fun hc => ?_)
    fun cleared s₁ hs₁ hcleared => ?_
  · obtain ⟨found, drivers, hadmits, _⟩ := hready hc
    exact ⟨found, drivers, hadmits⟩
  obtain ⟨hfits, hhost, hcarries⟩ := hcleared
  refine guarantees_seq (modeStage_cooperates hvfio hcalm hfits) fun _ s₂ hs₂ hmoded => ?_
  refine guarantees_seq (persist_cooperates hvfio hcalm hfits) fun _ s₃ hs₃ hfiles => ?_
  refine guarantees_seq (binds_cooperate hvfio hcalm hfits fun hc member hmember =>
    (hs₁.trans (hs₂.trans hs₃)) _ (hfree hc member hmember)) fun _ s₄ hs₄ hbound => ?_
  refine guarantees_seq (release_cooperates hvfio hcalm hfits) fun _ s₅ hs₅ hreleased => ?_
  have hverify : Cooperates plat A mode Calm (verify plat mode cleared.passthrough cleared.drivers)
      (fun _ _ => ∀ state ∈ cleared.passthrough, True) s₅ := by
    refine guarantees_forEach (fun _ => lasting_const True) fun state hstate s' hs' => ?_
    refine verifyOne_cooperates hvfio hcalm hfits hstate
      (fun member hmember => (hs₅.trans hs') _ (hbound member hmember)) ?_
    exact stays_moded s₂ s' (hs₃.trans (hs₄.trans (hs₅.trans hs'))) hmoded
  refine hverify.mono (fun _ s' hs' _ => ?_) fun _ _ _ hE => hE
  have hend : Keeps (InPlace plat mode) s₃ s' := hs₄.trans (hs₅.trans hs')
  refine provisioned_of_parts (stays_moded s₂ s' (hs₃.trans hend) hmoded)
    (fun state hstate => (hs₅.trans hs') _ (hbound state hstate))
    (fun state hstate hhas => hs' _ (hreleased state hstate hhas)) hfits.drivers
    (fun entry hentry => hend _ (hfiles entry hentry)) ?_ (carries_on hcarries s')
  exact lasting_hostCheck s₁ s' (hs₂.trans (hs₃.trans hend)) hhost

end Checks

/-! ## Several at a time -/

/-- What a process is there for, with the processes an idle check of it finds. -/
inductive Errand where
  | apply (mode : Mode) (proc : Idle.Proc)
  | status (probe all : Bool)
  | uninstall

def Errand.program (plat : Platform) : Errand → Provision Unit
  | .apply mode proc => Main.apply { plat with proc := proc } mode
  | .status probe all => do let _ ← Main.status plat probe all
  | .uninstall => Main.uninstall plat

/-- It is a run for the mode, or only looks. -/
def Errand.Suits (mode : Mode) : Errand → Prop
  | .apply mode' _ => mode' = mode
  | .status _ _ => True
  | .uninstall => False

def Errand.Applies : Errand → Prop
  | .apply _ _ => True
  | .status _ _ | .uninstall => False

/-- Started on `node` with nobody about, the errand completes. -/
def Errand.Completes (plat : Platform) (node : Node) (errand : Errand) : Prop :=
  (exec plat.machine (errand.program plat) [] node).outcome = .done ()

variable (Calm) in
theorem Errand.cooperates (hvfio : VfioRegisters plat) (hcalm : Calm → A = .absent)
    {errand : Errand} (hsuits : errand.Suits mode)
    (hready : Calm → errand.Applies → errand.Completes plat s) :
    Cooperates plat A mode (Calm ∧ errand.Applies) (errand.program plat)
      (fun _ s' => errand.Applies → Provisioned plat mode s') s := by
  cases errand with
  | apply mode' proc =>
      obtain rfl := hsuits
      have happly : Cooperates { plat with proc := proc } A mode' (Calm ∧ True)
          (Main.apply { plat with proc := proc } mode')
          (fun _ => Provisioned { plat with proc := proc } mode') s :=
        apply_cooperates hvfio (fun hc => hcalm hc.1) fun hc =>
          (completes_iff { plat with proc := proc } mode' s).mp (hready hc.1 trivial)
      refine (happly.congr (inPlace_proc plat mode' proc)).mono (fun _ s' _ hdone _ => ?_)
        fun _ _ _ hE => hE
      exact hdone.proc plat.proc
  | status probe all =>
      have huses : (Errand.program plat (.status probe all)).Uses fun op => op.kind.Quiet :=
        uses_bind (status_uses probe all) fun _ => trivial
      refine (guarantees_of_uses huses (fun op hop s₁ r s₂ hresp =>
        responds_keeps hvfio (.quiet hop) hresp) s).mono (fun _ _ _ _ h => h.elim)
        fun _ _ _ _ hc => hc.2
  | uninstall => exact hsuits.elim

variable {ι : Type} [DecidableEq ι] {errands : ι → Errand} {pool : ι → Provision Unit}

/-- However the operations of processes for one mode interleave, whatever fails
in them and whichever are killed: whenever a run among them has completed, the
node is provisioned. -/
theorem concurrent_provisioned (hvfio : VfioRegisters plat)
    (hsuits : ∀ i, (errands i).Suits mode)
    (h : Interleaves plat.whole .hostile (fun i => (errands i).program plat) node pool s)
    {i : ι} (happlies : (errands i).Applies) (hdone : pool i = .pure ()) :
    Provisioned plat mode s := by
  have hpost := h.returned (fun i => Errand.cooperates False hvfio False.elim (hsuits i)
    False.elim) hdone
  exact hpost happlies

/-! ### A run and its retry -/

/-- A baseboard that nobody uses. -/
def baseboard : Platform := Bench.platform Bench.baseboard

/-- The baseboard before anything has been done to it. -/
def untouched : Node := Bench.node (fun _ => Bench.settled .off .off) fun _ => none

def retried (_ : Bool) : Errand := .apply .on { entries := some [] }

theorem retried_suits (i : Bool) : (retried i).Suits .on := rfl

/-- What the run has yet to do after so many operations, and what it has made of
the node. -/
def ahead (M : Machine Op Op.Res Error Residue Node) (n : Nat) : Provision Unit × Node :=
  ((retried false).program baseboard).advance M n untouched

/-- The run gets as far as its plans, and its retry completes. -/
theorem concurrent_provisioned_retried :
    ∃ pool s, Interleaves baseboard.whole .hostile (fun i => (retried i).program baseboard)
        untouched pool s ∧
      pool true = .pure () ∧ Provisioned baseboard .on s := by
  have hfirst := Interleaves.advance (M := baseboard.whole) (A := .hostile) false 14
    (fun i => (retried i).program baseboard) untouched
  have hretry := exec_runs_hostile baseboard.whole ((retried true).program baseboard) []
    (ahead baseboard.whole 14).2
  rw [show (exec _ _ _ _).outcome = .done () by decide +kernel] at hretry
  have hboth := hfirst.trans (Interleaves.of_runs true hretry rfl)
  exact ⟨_, _, hboth, Function.update_self _ _ _, concurrent_provisioned (bench_vfioRegisters _ _)
    retried_suits hboth trivial (Function.update_self _ _ _)⟩

/-- Runs for one mode that would each have completed by themselves do not keep
each other from it: wherever their operations have got to, each of them completes
from there if it is let. -/
theorem concurrent_completes (hvfio : VfioRegisters plat)
    (hsuits : ∀ i, (errands i).Suits mode)
    (hcompletes : ∀ i, (errands i).Applies → (errands i).Completes plat node)
    (h : Interleaves plat.whole .absent (fun i => (errands i).program plat) node pool s)
    {i : ι} (happlies : (errands i).Applies) :
    (exec plat.machine (pool i) [] s).outcome = .done () := by
  have hall := (h.guarantees fun i => Errand.cooperates True hvfio
    (fun _ => rfl) (hsuits i) fun _ => hcompletes i).2 i
  have hsure := hall.mono (fun _ _ _ h => h) fun _ _ _ hnot => hnot ⟨trivial, happlies⟩
  obtain ⟨_, hdone⟩ := hsure.completes
  rwa [exec_whole] at hdone

/-- Each of the two, from where the run has its plans and the retry has written what
the run has planned. -/
theorem concurrent_completes_retried :
    ∃ pool s, Interleaves baseboard.whole .absent (fun i => (retried i).program baseboard)
        untouched pool s ∧
      ∀ i, (exec baseboard.machine (pool i) [] s).outcome = .done () := by
  have hfirst := Interleaves.advance (M := baseboard.whole) (A := .absent) false 14
    (fun i => (retried i).program baseboard) untouched
  have hboth := hfirst.trans (Interleaves.advance true 15 _ _)
  have hcompletes : (retried false).Completes baseboard untouched := by
    unfold Errand.Completes
    decide +kernel
  exact ⟨_, _, hboth, fun i => concurrent_completes (bench_vfioRegisters _ _) retried_suits
    (fun _ _ => hcompletes) hboth trivial⟩

end KataDeviceProvisioner.Ports.Main
