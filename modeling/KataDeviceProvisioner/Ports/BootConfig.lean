import KataDeviceProvisioner.Ports.BootFiles

/-!
# What the boot configuration is made of

`persist` splits each claim over three outputs in one loop.  This module says
what each output is made of in the end: the ids of the plain claims, the rules
of the others, and the modules of all of them, each once up to punctuation.
-/

namespace KataDeviceProvisioner.Ports.Modules

open KataDeviceProvisioner.Verified

/-! ## The loop -/

/-- The rule a claim puts in the rules file. -/
def ruleOf (claim : Claim) : String :=
  udevRule claim.vendor claim.device claim.module claim.driver

/-- The loop adds the ids of the claims that `vfio_pci` itself serves. -/
theorem foldl_add_ids (claims : List Claim) (draft : Draft) :
    (claims.foldl Draft.add draft).ids = draft.ids ++
      (claims.filter fun claim => !needsDriverOverride claim.module).map fun claim =>
        idOf claim.vendor claim.device := by
  refine foldl_adds (fun draft claim => ?_) claims draft
  by_cases hneeds : needsDriverOverride claim.module = true
  · simp [Draft.add, hneeds]
  · simp [Draft.add, hneeds]

/-- The loop adds the rules of the claims that need `driver_override`. -/
theorem foldl_add_rules (claims : List Claim) (draft : Draft) :
    (claims.foldl Draft.add draft).rules = draft.rules ++
      (claims.filter fun claim => needsDriverOverride claim.module).map ruleOf := by
  refine foldl_adds (fun draft claim => ?_) claims draft
  by_cases hneeds : needsDriverOverride claim.module = true
  · simp [Draft.add, hneeds, ruleOf]
  · simp [Draft.add, hneeds]

theorem draftOf_ids (claims : List Claim) :
    (draftOf claims).ids =
      (claims.filter fun claim => !needsDriverOverride claim.module).map fun claim =>
        idOf claim.vendor claim.device := by
  rw [draftOf, foldl_add_ids]
  rfl

theorem draftOf_rules (claims : List Claim) :
    (draftOf claims).rules =
      (claims.filter fun claim => needsDriverOverride claim.module).map ruleOf := by
  rw [draftOf, foldl_add_rules]
  rfl

/-- The modules of a draft that has taken in `claims`: the stack first, then one
spelling of each claimed module. -/
structure Lists (claims : List Claim) (modules : List String) : Prop where
  stack : vfioStack <+: modules
  distinct : (modules.map underscored).Nodup
  claimed : ∀ line ∈ modules, line ∈ vfioStack ∨ ∃ claim ∈ claims, claim.module = line
  complete : ∀ claim ∈ claims, ∃ line ∈ modules, underscored line = underscored claim.module

/-- One round of the loop keeps the list of modules in order. -/
theorem Lists.add {claims : List Claim} {draft : Draft} (h : Lists claims draft.modules)
    (claim : Claim) : Lists (claims ++ [claim]) (draft.add claim).modules := by
  have hmodules : (draft.add claim).modules =
      if draft.modules.any fun held => underscored held == underscored claim.module then
        draft.modules
      else draft.modules ++ [claim.module] := by
    unfold Draft.add
    by_cases hneeds : needsDriverOverride claim.module = true
    · simp only [if_pos hneeds]
    · simp only [if_neg hneeds]
  rw [hmodules]
  by_cases hany : (draft.modules.any fun held =>
      underscored held == underscored claim.module) = true
  · rw [if_pos hany]
    obtain ⟨held, hheld, heq⟩ := List.any_eq_true.mp hany
    refine ⟨h.stack, h.distinct, fun line hline => ?_, fun other hother => ?_⟩
    · rcases h.claimed line hline with hstack | ⟨other, hother, hmodule⟩
      · exact .inl hstack
      · exact .inr ⟨other, List.mem_append_left _ hother, hmodule⟩
    · rcases List.mem_append.mp hother with hother | hother
      · exact h.complete other hother
      · rw [List.mem_singleton.mp hother]
        exact ⟨held, hheld, by simpa using heq⟩
  · rw [if_neg hany]
    have hnew : underscored claim.module ∉ draft.modules.map underscored := by
      intro hmem
      obtain ⟨held, hheld, heq⟩ := List.mem_map.mp hmem
      exact hany (List.any_eq_true.mpr ⟨held, hheld, by simpa using heq⟩)
    refine ⟨h.stack.trans (List.prefix_append _ _), ?_, fun line hline => ?_,
      fun other hother => ?_⟩
    · rw [List.map_append, List.nodup_append]
      refine ⟨h.distinct, by simp, fun a ha b hb => ?_⟩
      rw [List.map_singleton, List.mem_singleton] at hb
      intro heq
      rw [heq, hb] at ha
      exact hnew ha
    · rcases List.mem_append.mp hline with hline | hline
      · rcases h.claimed line hline with hstack | ⟨other, hother, hmodule⟩
        · exact .inl hstack
        · exact .inr ⟨other, List.mem_append_left _ hother, hmodule⟩
      · exact .inr ⟨claim, by simp, (List.mem_singleton.mp hline).symm⟩
    · rcases List.mem_append.mp hother with hother | hother
      · obtain ⟨line, hline, heq⟩ := h.complete other hother
        exact ⟨line, List.mem_append_left _ hline, heq⟩
      · rw [List.mem_singleton.mp hother]
        exact ⟨claim.module, by simp, rfl⟩

theorem draftOf_modules (claims : List Claim) : Lists claims (draftOf claims).modules := by
  have hfold : ∀ (rest taken : List Claim) (draft : Draft), Lists taken draft.modules →
      Lists (taken ++ rest) (rest.foldl Draft.add draft).modules := by
    intro rest
    induction rest with
    | nil =>
        intro taken draft h
        rw [List.append_nil]
        exact h
    | cons claim rest ih =>
        intro taken draft h
        rw [List.foldl_cons, List.append_cons]
        exact ih (taken ++ [claim]) (draft.add claim) (h.add claim)
  refine hfold claims [] Draft.init ?_
  exact ⟨List.prefix_rfl, by decide, fun line hline => .inl hline, by simp⟩

/-! ## Coverage -/

/-- The boot configuration has what a device of a claim is bound by at boot: its
module is loaded, and its id is one of the ids or its rule one of the rules. -/
structure Covers (config : BootConfig) (claim : Claim) : Prop where
  loaded : ∃ lines, config.modulesLoad = "\n".intercalate lines ++ "\n" ∧
    ∃ line ∈ lines, underscored line = underscored claim.module
  matched :
    (needsDriverOverride claim.module = true ∧
      ∃ rules, config.udevRules = some (concat rules) ∧ ruleOf claim ∈ rules) ∨
    (needsDriverOverride claim.module = false ∧
      ∃ ids, config.modprobe =
        "options " ++ driverVfioPciType ++ " ids=" ++ ",".intercalate ids ++ "\n" ∧
        idOf claim.vendor claim.device ∈ ids)

/-- What is rendered for a list of claims covers each of them. -/
theorem render_covers {claims : List Claim} {claim : Claim} (hclaim : claim ∈ claims) :
    Covers (render claims) claim := by
  refine ⟨⟨_, rfl, (draftOf_modules claims).complete claim hclaim⟩, ?_⟩
  by_cases hneeds : needsDriverOverride claim.module = true
  · refine .inl ⟨hneeds, sortDedup (draftOf claims).rules, ?_, ?_⟩
    · have hmem : ruleOf claim ∈ sortDedup (draftOf claims).rules := by
        rw [mem_sortDedup, draftOf_rules]
        exact List.mem_map_of_mem (List.mem_filter.mpr ⟨hclaim, hneeds⟩)
      have hne : (sortDedup (draftOf claims).rules).isEmpty = false := by
        simpa [List.isEmpty_iff] using List.ne_nil_of_mem hmem
      show (if (sortDedup (draftOf claims).rules).isEmpty = true then none
        else some (concat (sortDedup (draftOf claims).rules))) = _
      rw [hne]
      rfl
    · rw [mem_sortDedup, draftOf_rules]
      exact List.mem_map_of_mem (List.mem_filter.mpr ⟨hclaim, hneeds⟩)
  · rw [Bool.not_eq_true] at hneeds
    have hmem : idOf claim.vendor claim.device ∈ sortDedup (draftOf claims).ids := by
      rw [mem_sortDedup, draftOf_ids]
      exact List.mem_map.mpr ⟨claim, List.mem_filter.mpr ⟨hclaim, by simp [hneeds]⟩, rfl⟩
    refine .inr ⟨hneeds, sortDedup (draftOf claims).ids, ?_, hmem⟩
    have hne : (sortDedup (draftOf claims).ids).isEmpty = false := by
      simpa [List.isEmpty_iff] using List.ne_nil_of_mem hmem
    show (if (sortDedup (draftOf claims).ids).isEmpty = true then ""
      else _) = _
    rw [hne]
    rfl

end KataDeviceProvisioner.Ports.Modules
