import KataDeviceProvisioner.Ports.Bench
import KataDeviceProvisioner.Ports.BootConfig
import KataDeviceProvisioner.Ports.BootFiles

/-!
# What the boot files depend on

Not on what was done before: after a call that completes they are what that call
alone leaves on an empty root, whatever calls came before it and wherever those
died (`boot_history`).  And not on where the cards are: claims on the same cards
leave the same configuration, in whatever order and as often as they come
(`boot_files_by_card`).
-/

namespace KataDeviceProvisioner.Ports.Modules

open KataDeviceProvisioner.Verified

variable {plat : Platform} {A : Adversary} {hostRoot : Path} {node node' s s' : Node}
  {t : List (Event Op Node)} {claims claims' : List Claim}

/-! ## The three files and their directories -/

def bootFiles (hostRoot : Path) : List Path :=
  [modulesLoad, modprobeConf, udevRules].map fun path => hostRoot ++ path

theorem forall_bootFiles {P : Path → Prop} :
    (∀ path ∈ bootFiles hostRoot, P path) ↔
      P (hostRoot ++ modulesLoad) ∧ P (hostRoot ++ modprobeConf) ∧ P (hostRoot ++ udevRules) := by
  simp [bootFiles]

/-- An operation on one of the files or on the directory it is in. -/
def OnBootFiles (hostRoot : Path) : Op → Prop
  | .createDirAll dir => ∃ path ∈ bootFiles hostRoot, path.parent = some dir
  | .writeFile path _ => path ∈ bootFiles hostRoot
  | .removeFile path => path ∈ bootFiles hostRoot
  | _ => False

/-- Nothing differs but the three files, and directories they are in that were
not there before. -/
structure Confined (hostRoot : Path) (s s' : Node) : Prop where
  files : ∀ path ∉ bootFiles hostRoot, s'.files path = s.files path
  dirs : ∀ dir, s'.dirs dir = s.dirs dir ∨
    (s'.dirs dir = true ∧ ∃ path ∈ bootFiles hostRoot, ∃ parent,
      path.parent = some parent ∧ dir <+: parent)

theorem Confined.refl (hostRoot : Path) (s : Node) : Confined hostRoot s s :=
  ⟨fun _ _ => rfl, fun _ => .inl rfl⟩

theorem Confined.trans {s₁ s₂ s₃ : Node} (h : Confined hostRoot s₁ s₂)
    (h' : Confined hostRoot s₂ s₃) : Confined hostRoot s₁ s₃ := by
  refine ⟨fun path hpath => (h'.files path hpath).trans (h.files path hpath), fun dir => ?_⟩
  rcases h'.dirs dir with hsame | hcreated
  · rw [hsame]
    exact h.dirs dir
  · exact .inr hcreated

theorem effect_confined {op : Op} (hop : OnBootFiles hostRoot op) :
    Confined hostRoot s (plat.machine.effect s op) := by
  constructor
  · intro path hpath
    refine effect_change.file_eq (fun contents heq => ?_) (fun heq => ?_)
    · rw [heq] at hop
      exact hpath hop
    · rw [heq] at hop
      exact hpath hop
  · intro dir
    by_cases hcreate : ∃ path, op = .createDirAll path
    · obtain ⟨parent, rfl⟩ := hcreate
      obtain ⟨path, hpath, hparent⟩ := hop
      by_cases hin : dir <+: parent
      · refine .inr ⟨?_, path, hpath, parent, hparent, hin⟩
        rw [effect_createDirAll]
        simp [hin]
      · refine .inl ?_
        rw [effect_createDirAll]
        simp [hin]
    · rw [effect_change.dirs_eq fun path heq => hcreate ⟨path, heq⟩]
      exact .inl rfl

/-- Whatever becomes of an operation on the files, it stays with them. -/
theorem responds_confined {op : Op} {r : Except Error op.Res} (hop : OnBootFiles hostRoot op)
    (h : Responds plat.machine A s op r s') : Confined hostRoot s s' := by
  cases h with
  | answered => exact effect_confined hop
  | failed e residue =>
      cases residue with
      | nothing => exact .refl hostRoot s
      | applied => exact effect_confined hop
      | partly contents =>
          cases op with
          | writeFile path written =>
              simp only [Platform.machine, Platform.residual]
              split
              · refine ⟨fun other hother => Function.update_of_ne ?_ _ _, fun _ => .inl rfl⟩
                intro heq
                rw [heq] at hother
                exact hother hop
              · exact .refl hostRoot s
          | _ => exact .refl hostRoot s

private theorem write_onBootFiles {path : Path} {contents : String}
    (hpath : path ∈ bootFiles hostRoot) :
    (write path contents).Uses (OnBootFiles hostRoot) := by
  unfold write
  split
  case h_1 parent hparent =>
      exact uses_bind (uses_mapError (uses_perform ⟨path, hpath, hparent⟩)) fun _ =>
        uses_mapError (uses_perform hpath)
  case h_2 => exact uses_mapError (uses_perform hpath)

private theorem remove_onBootFiles {path : Path} (hpath : path ∈ bootFiles hostRoot) :
    (remove path).Uses (OnBootFiles hostRoot) := by
  refine uses_bind (uses_attempt (uses_perform hpath)) fun r => ?_
  cases r with
  | ok a => trivial
  | error e =>
      dsimp only
      split <;> trivial

/-! ## Calls and histories -/

/-- The two ways the boot configuration is changed. -/
inductive BootCall where
  | persist (claims : List Claim)
  | unpersist

def BootCall.program (hostRoot : Path) : BootCall → Provision Unit
  | .persist claims => do
      let _ ← Modules.persist hostRoot claims
      return ()
  | .unpersist => Modules.unpersist hostRoot

theorem program_onBootFiles (hostRoot : Path) (call : BootCall) :
    (call.program hostRoot).Uses (OnBootFiles hostRoot) := by
  have hload : hostRoot ++ modulesLoad ∈ bootFiles hostRoot := by simp [bootFiles]
  have hconf : hostRoot ++ modprobeConf ∈ bootFiles hostRoot := by simp [bootFiles]
  have hrules : hostRoot ++ udevRules ∈ bootFiles hostRoot := by simp [bootFiles]
  cases call with
  | persist claims =>
      refine uses_bind ?_ fun _ => trivial
      refine uses_bind (write_onBootFiles hload) fun _ => ?_
      refine uses_bind (write_onBootFiles hconf) fun _ => ?_
      cases (render claims).udevRules with
      | none => exact uses_bind (remove_onBootFiles hrules) fun _ => trivial
      | some rules => exact uses_bind (write_onBootFiles hrules) fun _ => trivial
  | unpersist =>
      refine uses_forEach fun path hpath => remove_onBootFiles ?_
      exact List.mem_map_of_mem hpath

/-- One call, and what befalls it. -/
structure BootRun where
  call : BootCall
  verdicts : List (Verdict Error Residue)

/-- What one call comes to. -/
def BootRun.run (plat : Platform) (hostRoot : Path) (attempt : BootRun) (node : Node) :
    Run Op Error Residue Node Unit :=
  exec plat.machine (attempt.call.program hostRoot) attempt.verdicts node

/-- The node after a history of calls. -/
def bootAfter (plat : Platform) (hostRoot : Path) (history : List BootRun) (node : Node) : Node :=
  history.foldl (fun node attempt => (attempt.run plat hostRoot node).state) node

/-- The nodes every operation of a history was issued on. -/
def bootEvents (plat : Platform) (hostRoot : Path) : List BootRun → Node → List (Event Op Node)
  | [], _ => []
  | attempt :: history, node =>
      (attempt.run plat hostRoot node).events ++
        bootEvents plat hostRoot history (attempt.run plat hostRoot node).state

/-- One call, wherever it dies, stays with the three files. -/
theorem run_confined (plat : Platform) (hostRoot : Path) (attempt : BootRun) (node : Node) :
    Confined hostRoot node (attempt.run plat hostRoot node).state ∧
      ∀ e ∈ (attempt.run plat hostRoot node).events, Confined hostRoot node e.before :=
  (exec_runs_hostile plat.machine _ attempt.verdicts node).invariant
    (I := Confined hostRoot node) (program_onBootFiles hostRoot attempt.call)
    (fun _ _ _ _ hop hs hresp => hs.trans (responds_confined hop hresp)) (.refl hostRoot node)

/-- And so does every history. -/
theorem history_confined (plat : Platform) (hostRoot : Path) (history : List BootRun)
    (node : Node) :
    Confined hostRoot node (bootAfter plat hostRoot history node) ∧
      ∀ e ∈ bootEvents plat hostRoot history node, Confined hostRoot node e.before := by
  induction history generalizing node with
  | nil => exact ⟨.refl hostRoot node, fun e he => by cases he⟩
  | cons attempt history ih =>
      obtain ⟨hrun, hevents⟩ := run_confined plat hostRoot attempt node
      obtain ⟨hrest, hlater⟩ := ih (attempt.run plat hostRoot node).state
      refine ⟨hrun.trans hrest, fun e he => ?_⟩
      rcases List.mem_append.mp he with he | he
      · exact hevents e he
      · exact hrun.trans (hlater e he)

/-! ## What a call that completes leaves -/

/-- What the call is for: the configuration of its claims, or none. -/
def BootCall.Leaves (hostRoot : Path) (node : Node) : BootCall → Prop
  | .persist claims => OnDisk hostRoot (render claims) node ∧
      ((node.files (hostRoot ++ udevRules)).isSome = true ↔
        ∃ claim ∈ claims, needsDriverOverride claim.module = true)
  | .unpersist => ∀ path ∈ bootFiles hostRoot, node.files path = none

theorem render_rules_isSome :
    (render claims).udevRules.isSome = true ↔
      ∃ claim ∈ claims, needsDriverOverride claim.module = true := by
  have hrender : (render claims).udevRules =
      if (sortDedup (draftOf claims).rules).isEmpty then none
      else some (concat (sortDedup (draftOf claims).rules)) := rfl
  have hmem : (∃ rule, rule ∈ sortDedup (draftOf claims).rules) ↔
      ∃ claim ∈ claims, needsDriverOverride claim.module = true := by
    simp only [mem_sortDedup, draftOf_rules, List.mem_map, List.mem_filter]
    constructor
    · rintro ⟨_, claim, ⟨hclaim, hneeds⟩, _⟩
      exact ⟨claim, hclaim, hneeds⟩
    · rintro ⟨claim, hclaim, hneeds⟩
      exact ⟨ruleOf claim, claim, ⟨hclaim, hneeds⟩, rfl⟩
  rw [← hmem, hrender]
  cases sortDedup (draftOf claims).rules with
  | nil => simp
  | cons rule rules => simp

theorem call_done {call : BootCall}
    (h : Runs plat.machine A (call.program hostRoot) node (.done ()) node' t) :
    call.Leaves hostRoot node' := by
  cases call with
  | persist claims =>
      obtain ⟨overridden, s₁, t₁, t₂, hpersist, hret, _⟩ := runs_bind_done.mp h
      obtain ⟨_, rfl, _⟩ := runs_pure_iff.mp hret
      have hdisk := persist_done hpersist
      refine ⟨hdisk, ?_⟩
      rw [hdisk.udevRules]
      exact render_rules_isSome
  | unpersist =>
      exact forall_bootFiles.mpr (unpersist_done h)

/-- What a call is for settles the three files. -/
theorem BootCall.Leaves.unique {call : BootCall} (h : call.Leaves hostRoot s)
    (h' : call.Leaves hostRoot s') : ∀ path ∈ bootFiles hostRoot, s.files path = s'.files path := by
  cases call with
  | persist claims =>
      obtain ⟨hdisk, _⟩ := h
      obtain ⟨hdisk', _⟩ := h'
      refine forall_bootFiles.mpr ⟨?_, ?_, ?_⟩
      · rw [hdisk.modulesLoad, hdisk'.modulesLoad]
      · rw [hdisk.modprobe, hdisk'.modprobe]
      · rw [hdisk.udevRules, hdisk'.udevRules]
  | unpersist =>
      intro path hpath
      rw [h path hpath, h' path hpath]

/-- Nothing but a mishap can stop a call. -/
theorem call_absent {call : BootCall} {out : Outcome Error Unit}
    (h : Runs plat.machine .absent (call.program hostRoot) node out node' t) :
    out = .done () := by
  cases call with
  | persist claims =>
      obtain ⟨overridden, s₁, t₁, t₂, _, hret, _⟩ | ⟨why, rfl, hpersist⟩ := runs_bind_iff.mp h
      · exact (runs_pure_iff.mp hret).1
      · obtain ⟨overridden, hdone⟩ := persist_absent hpersist
        cases hdone
  | unpersist =>
      obtain ⟨_, hdone⟩ := unpersist_absent h
      exact hdone

/-! ## Histories -/

/-- What holds of a history of calls whatever befell them: it stays with the
three files, and if its last call completes they are what that call leaves on a
root without files. -/
structure BootHistory (plat : Platform) (hostRoot : Path) (node : Node) (history : List BootRun)
    (last : BootRun) : Prop where
  confined : ∀ e ∈ bootEvents plat hostRoot (history ++ [last]) node,
    Confined hostRoot node e.before
  confinedEnd : Confined hostRoot node (bootAfter plat hostRoot (history ++ [last]) node)
  alone : (last.run plat hostRoot (bootAfter plat hostRoot history node)).outcome = .done () →
    ∀ empty : Node, (∀ path, empty.files path = none) →
      (exec plat.machine (last.call.program hostRoot) [] empty).outcome = .done () ∧
      ∀ path ∈ bootFiles hostRoot,
        (bootAfter plat hostRoot (history ++ [last]) node).files path =
          (exec plat.machine (last.call.program hostRoot) [] empty).state.files path
  leaves : (last.run plat hostRoot (bootAfter plat hostRoot history node)).outcome = .done () →
    last.call.Leaves hostRoot (bootAfter plat hostRoot (history ++ [last]) node)

theorem bootAfter_append (history : List BootRun) (last : BootRun) (node : Node) :
    bootAfter plat hostRoot (history ++ [last]) node =
      (last.run plat hostRoot (bootAfter plat hostRoot history node)).state := by
  unfold bootAfter
  rw [List.foldl_append, List.foldl_cons, List.foldl_nil]

/-- The boot files do not depend on what was done before. -/
theorem boot_history (plat : Platform) (hostRoot : Path) (node : Node) (history : List BootRun)
    (last : BootRun) : BootHistory plat hostRoot node history last := by
  have hleaves : (last.run plat hostRoot (bootAfter plat hostRoot history node)).outcome =
      .done () →
        last.call.Leaves hostRoot (bootAfter plat hostRoot (history ++ [last]) node) := by
    intro hdone
    rw [bootAfter_append]
    exact call_done (exec_runs_done hdone)
  obtain ⟨hend, hevents⟩ := history_confined plat hostRoot (history ++ [last]) node
  refine ⟨hevents, hend, fun hdone empty _ => ?_, hleaves⟩
  have halone := exec_runs_absent plat.machine (last.call.program hostRoot) empty
  have hcompletes := call_absent halone
  refine ⟨hcompletes, (hleaves hdone).unique ?_⟩
  exact call_done (exec_runs_done hcompletes)

/-- A GH200 that is bound by a rule. -/
def graceAt (address : String) : Claim where
  address := address
  vendor := 0x10de
  device := 0x2342
  module := "nvgrace_gpu_vfio_pci"
  driver := "nvgrace-gpu-vfio-pci"

/-- An H100 that is bound by its id. -/
def hopperAt (address : String) : Claim where
  address := address
  vendor := 0x10de
  device := 0x2330
  module := "vfio_pci"
  driver := "vfio-pci"

/-- A `persist` that dies with its second file half written, on a node with files
left over, and an `unpersist` after it. -/
theorem boot_history_interrupted :
    BootHistory (Bench.platform Bench.singleGpu) ["host"] Bench.dirty
        [⟨.persist [graceAt "0009:01:00.0"],
          [.ok, .ok, .ok, .fail (.msg "No space left on device") (.partly "options")]⟩]
        ⟨.unpersist, []⟩ ∧
      ((⟨.unpersist, []⟩ : BootRun).run (Bench.platform Bench.singleGpu) ["host"]
        (bootAfter (Bench.platform Bench.singleGpu) ["host"]
          [⟨.persist [graceAt "0009:01:00.0"],
            [.ok, .ok, .ok, .fail (.msg "No space left on device") (.partly "options")]⟩]
          Bench.dirty)).outcome = .done () :=
  ⟨boot_history _ _ _ _ _, by decide +kernel⟩

/-! ## What the claims are on -/

/-- What decides how a card is bound: all of a claim but where the card is. -/
def Claim.card (claim : Claim) : UInt16 × UInt16 × String × String :=
  (claim.vendor, claim.device, claim.module, claim.driver)

/-- Two lists of claims on the same cards. -/
def SameCards (claims claims' : List Claim) : Prop :=
  ∀ card, card ∈ claims.map Claim.card ↔ card ∈ claims'.map Claim.card

/-- What is gathered from the cards of some claims is the same for both lists. -/
private theorem SameCards.mem_map_filter {β : Type} (h : SameCards claims claims')
    {p : Claim → Bool} {f : Claim → β}
    (hp : ∀ a b : Claim, a.card = b.card → p a = p b)
    (hf : ∀ a b : Claim, a.card = b.card → f a = f b) (x : β) :
    x ∈ (claims.filter p).map f ↔ x ∈ (claims'.filter p).map f := by
  have hone : ∀ {xs ys : List Claim}, (∀ card ∈ xs.map Claim.card, card ∈ ys.map Claim.card) →
      x ∈ (xs.filter p).map f → x ∈ (ys.filter p).map f := by
    intro xs ys hsub hx
    obtain ⟨a, ha, rfl⟩ := List.mem_map.mp hx
    obtain ⟨hmem, hpa⟩ := List.mem_filter.mp ha
    obtain ⟨b, hb, hcard⟩ := List.mem_map.mp (hsub a.card (List.mem_map_of_mem hmem))
    rw [← hf b a hcard]
    exact List.mem_map_of_mem (List.mem_filter.mpr ⟨hb, by rw [hp b a hcard, hpa]⟩)
  exact ⟨hone fun card hcard => (h card).mp hcard, hone fun card hcard => (h card).mpr hcard⟩

private theorem card_eq {a b : Claim} (h : a.card = b.card) :
    a.vendor = b.vendor ∧ a.device = b.device ∧ a.module = b.module ∧ a.driver = b.driver := by
  simpa [Claim.card] using h

theorem SameCards.ids (h : SameCards claims claims') :
    sortDedup (draftOf claims).ids = sortDedup (draftOf claims').ids := by
  rw [draftOf_ids, draftOf_ids]
  refine sortDedup_congr (h.mem_map_filter (fun a b hab => ?_) fun a b hab => ?_)
  · rw [(card_eq hab).2.2.1]
  · obtain ⟨hvendor, hdevice, _, _⟩ := card_eq hab
    rw [hvendor, hdevice]

theorem SameCards.rules (h : SameCards claims claims') :
    sortDedup (draftOf claims).rules = sortDedup (draftOf claims').rules := by
  rw [draftOf_rules, draftOf_rules]
  refine sortDedup_congr (h.mem_map_filter (fun a b hab => ?_) fun a b hab => ?_)
  · rw [(card_eq hab).2.2.1]
  · obtain ⟨hvendor, hdevice, hmodule, hdriver⟩ := card_eq hab
    rw [ruleOf, ruleOf, hvendor, hdevice, hmodule, hdriver]

/-- Up to punctuation the modules are those of the stack and of the claims. -/
theorem mem_modules (claims : List Claim) (name : String) :
    name ∈ (draftOf claims).modules.map underscored ↔
      name ∈ vfioStack.map underscored ∨ ∃ claim ∈ claims, underscored claim.module = name := by
  have hlists := draftOf_modules claims
  rw [List.mem_map]
  constructor
  · rintro ⟨line, hline, rfl⟩
    rcases hlists.claimed line hline with hstack | ⟨claim, hclaim, rfl⟩
    · exact .inl (List.mem_map_of_mem hstack)
    · exact .inr ⟨claim, hclaim, rfl⟩
  · rintro (hstack | ⟨claim, hclaim, rfl⟩)
    · obtain ⟨line, hline, rfl⟩ := List.mem_map.mp hstack
      exact ⟨line, hlists.stack.subset hline, rfl⟩
    · exact hlists.complete claim hclaim

theorem SameCards.modules (h : SameCards claims claims') (name : String) :
    name ∈ (draftOf claims).modules.map underscored ↔
      name ∈ (draftOf claims').modules.map underscored := by
  have hclaimed : ∀ claims : List Claim, (∃ claim ∈ claims, underscored claim.module = name) ↔
      name ∈ (claims.filter fun _ => true).map fun claim => underscored claim.module := by
    intro claims
    simp
  rw [mem_modules, mem_modules, hclaimed, hclaimed]
  refine or_congr Iff.rfl (h.mem_map_filter (fun _ _ _ => rfl) (fun a b hab => ?_) name)
  rw [(card_eq hab).2.2.1]

theorem foldl_add_overridden (claims : List Claim) (draft : Draft) :
    (claims.foldl Draft.add draft).overridden = draft.overridden ++
      (claims.filter fun claim => needsDriverOverride claim.module).map (·.address) := by
  refine foldl_adds (fun draft claim => ?_) claims draft
  by_cases hneeds : needsDriverOverride claim.module = true
  · simp [Draft.add, hneeds]
  · simp [Draft.add, hneeds]

/-- Two nodes whose boot files do the same. -/
structure SameBoot (hostRoot : Path) (claims claims' : List Claim) (s s' : Node) : Prop where
  modprobe : s.files (hostRoot ++ modprobeConf) = s'.files (hostRoot ++ modprobeConf)
  rules : s.files (hostRoot ++ udevRules) = s'.files (hostRoot ++ udevRules)
  loads : s.files (hostRoot ++ modulesLoad) =
    some ("\n".intercalate (draftOf claims).modules ++ "\n")
  loads' : s'.files (hostRoot ++ modulesLoad) =
    some ("\n".intercalate (draftOf claims').modules ++ "\n")
  modules : ∀ name, name ∈ (draftOf claims).modules.map underscored ↔
    name ∈ (draftOf claims').modules.map underscored

/-- The boot files depend on which cards there are, and what is returned is
where those are whose module is not `vfio_pci`. -/
theorem boot_files_by_card (plat : Platform) (hostRoot : Path) (claims claims' : List Claim)
    (hsame : SameCards claims claims') (node node' : Node) (σ σ' : List (Verdict Error Residue))
    (overridden overridden' : List String)
    (hdone : (exec plat.machine (persist hostRoot claims) σ node).outcome = .done overridden)
    (hdone' : (exec plat.machine (persist hostRoot claims') σ' node').outcome =
      .done overridden') :
    SameBoot hostRoot claims claims' (exec plat.machine (persist hostRoot claims) σ node).state
        (exec plat.machine (persist hostRoot claims') σ' node').state ∧
      overridden =
        (claims.filter fun claim => underscored claim.module != "vfio_pci").map (·.address) ∧
      overridden' =
        (claims'.filter fun claim => underscored claim.module != "vfio_pci").map (·.address) := by
  have hdisk := persist_done (exec_runs_done hdone)
  have hdisk' := persist_done (exec_runs_done hdone')
  refine ⟨?_, ?_, ?_⟩
  · exact
      { modprobe := by
          rw [hdisk.modprobe, hdisk'.modprobe]
          show some (if (sortDedup (draftOf claims).ids).isEmpty then "" else _) = _
          rw [hsame.ids]
          rfl
        rules := by
          rw [hdisk.udevRules, hdisk'.udevRules]
          show (if (sortDedup (draftOf claims).rules).isEmpty then none else _) = _
          rw [hsame.rules]
          rfl
        loads := hdisk.modulesLoad
        loads' := hdisk'.modulesLoad
        modules := hsame.modules }
  · rw [persist_returns (exec_runs_done hdone), draftOf, foldl_add_overridden]
    rfl
  · rw [persist_returns (exec_runs_done hdone'), draftOf, foldl_add_overridden]
    rfl

/-- Two cards in three slots, against the same cards in two others. -/
theorem boot_files_by_card_moved :
    SameBoot ["host"]
        [graceAt "0009:01:00.0", hopperAt "0000:65:00.0", hopperAt "0000:66:00.0"]
        [hopperAt "0000:81:00.0", graceAt "0029:01:00.0"]
        (exec (Bench.platform Bench.singleGpu).machine (persist ["host"]
          [graceAt "0009:01:00.0", hopperAt "0000:65:00.0", hopperAt "0000:66:00.0"])
          [] Bench.dirty).state
        (exec (Bench.platform Bench.singleGpu).machine (persist ["host"]
          [hopperAt "0000:81:00.0", graceAt "0029:01:00.0"]) [] Bench.dirty).state ∧
      ["0009:01:00.0"] = (List.filter
        (fun claim => underscored claim.module != "vfio_pci")
        [graceAt "0009:01:00.0", hopperAt "0000:65:00.0", hopperAt "0000:66:00.0"]).map (·.address) ∧
      ["0029:01:00.0"] = (List.filter (fun claim => underscored claim.module != "vfio_pci")
        [hopperAt "0000:81:00.0", graceAt "0029:01:00.0"]).map (·.address) :=
  boot_files_by_card _ _ _ _
    (by
      intro card
      simp [Claim.card, graceAt, hopperAt]
      tauto)
    _ _ _ _ _ _ (by decide +kernel) (by decide +kernel)

end KataDeviceProvisioner.Ports.Modules
