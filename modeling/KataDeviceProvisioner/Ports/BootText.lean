import KataDeviceProvisioner.Ports.BootConfig

/-!
# Reading the boot configuration back

The three files as the programs that read them at boot take them apart: the
`ids=` list of the options line, the rules, and the modules to load.  What
`render` writes reads back as what it was made of, as long as no name has a
quote or a line break in it.
-/

namespace KataDeviceProvisioner.Ports.Modules

open KataDeviceProvisioner.Verified

/-! ## Readers -/

/-- `"` -/
def quote : Char := Char.ofNat 34

/-- One entry of the `ids=` list. -/
def readId (cs : List Char) : Option (UInt16 × UInt16) := do
  let (vendor, rest) ← Text.readHex4 cs
  let rest ← Text.stripText ":" rest
  let (device, rest) ← Text.readHex4 rest
  if rest.isEmpty then some (vendor, device) else none

/-- What an options line says before the ids. -/
def idsHead : String := "options " ++ driverVfioPciType ++ " ids="

/-- The ids of a file that is empty or one options line. -/
def readIds (conf : String) : Option (List (UInt16 × UInt16)) :=
  match Text.lines conf with
  | [] => some []
  | [line] => do
      let rest ← Text.stripText idsHead line.toList
      (rest.splitOn ',').mapM readId
  | _ => none

/-- What a rule matches and what it does to what it matches. -/
structure Rule where
  vendor : UInt16
  device : UInt16
  driver : String
  module : String
  deriving Repr, DecidableEq

def readRule (line : String) : Option Rule := do
  let rest ← Text.stripText ruleHead line.toList
  let (vendor, rest) ← Text.readHex4 rest
  let rest ← Text.stripText ruleDevice rest
  let (device, rest) ← Text.readHex4 rest
  let rest ← Text.stripText ruleDriver rest
  let driver := String.ofList (rest.takeWhile (· ≠ quote))
  let rest ← Text.stripText ruleModule (rest.dropWhile (· ≠ quote))
  let module := String.ofList (rest.takeWhile (· ≠ quote))
  let rest ← Text.stripText ruleTail (rest.dropWhile (· ≠ quote))
  if rest.isEmpty then
    some { vendor := vendor, device := device, driver := driver, module := module }
  else none

/-- The rules of a file that may not be there. -/
def readRules : Option String → Option (List Rule)
  | none => some []
  | some text => (Text.lines text).mapM readRule

def readModules (text : String) : List String := Text.lines text

/-! ## One entry -/

theorem readId_idOf (vendor device : UInt16) :
    readId (idOf vendor device).toList = some (vendor, device) := by
  have hlast : Text.readHex4 (Text.hex4Chars device) = some (device, []) := by
    have h := Text.readHex4_hex4 device []
    rwa [List.append_nil] at h
  simp only [readId, idOf, Text.hex4, String.toList_append, String.toList_ofList,
    List.append_assoc, Text.readHex4_hex4, Option.bind_eq_bind, Option.bind_some,
    Text.stripText_append, hlast]
  rfl

/-- A name that keeps to one field of one line. -/
def Plain (name : String) : Prop := quote ∉ name.toList ∧ '\n' ∉ name.toList

/-- A rule without its line break. -/
def ruleLine (rule : Rule) : String :=
  ruleHead ++ Text.hex4 rule.vendor ++ ruleDevice ++ Text.hex4 rule.device ++ ruleDriver ++
    rule.driver ++ ruleModule ++ rule.module ++ ruleTail

theorem readRule_ruleLine {rule : Rule} (hdriver : Plain rule.driver)
    (hmodule : Plain rule.module) : readRule (ruleLine rule) = some rule := by
  have hquoteModule : ruleModule.toList = quote :: ruleModule.toList.tail := by decide
  have hquoteTail : ruleTail.toList = quote :: ruleTail.toList.tail := by decide
  have hafterDriver : ∀ rest : List Char,
      (rule.driver.toList ++ (ruleModule.toList ++ rest)).takeWhile (· ≠ quote) =
          rule.driver.toList ∧
        (rule.driver.toList ++ (ruleModule.toList ++ rest)).dropWhile (· ≠ quote) =
          ruleModule.toList ++ rest := by
    intro rest
    rw [hquoteModule, List.cons_append]
    exact Text.takeWhile_quoted hdriver.1 _
  have hafterModule :
      (rule.module.toList ++ ruleTail.toList).takeWhile (· ≠ quote) = rule.module.toList ∧
        (rule.module.toList ++ ruleTail.toList).dropWhile (· ≠ quote) = ruleTail.toList := by
    rw [hquoteTail]
    exact Text.takeWhile_quoted hmodule.1 _
  have htail : Text.stripText ruleTail ruleTail.toList = some [] := by
    have h := Text.stripText_append ruleTail []
    rwa [List.append_nil] at h
  simp only [readRule, ruleLine, Text.hex4, String.toList_append, String.toList_ofList,
    List.append_assoc, Text.stripText_append, Text.readHex4_hex4, Option.bind_eq_bind,
    Option.bind_some, hafterDriver, hafterModule, htail, String.ofList_toList]
  rfl

/-- A rule is one line. -/
theorem ruleLine_oneLine {rule : Rule} (hdriver : Plain rule.driver)
    (hmodule : Plain rule.module) : '\n' ∉ (ruleLine rule).toList := by
  have hhead : '\n' ∉ ruleHead.toList := by decide
  have hdevice : '\n' ∉ ruleDevice.toList := by decide
  have hruleDriver : '\n' ∉ ruleDriver.toList := by decide
  have hruleModule : '\n' ∉ ruleModule.toList := by decide
  have htail : '\n' ∉ ruleTail.toList := by decide
  have hhex : ∀ n : UInt16, '\n' ∉ (Text.hex4 n).toList := Text.not_mem_hex4 (by decide)
  simp only [ruleLine, String.toList_append, List.mem_append, not_or]
  exact ⟨⟨⟨⟨⟨⟨⟨⟨hhead, hhex _⟩, hdevice⟩, hhex _⟩, hruleDriver⟩, hdriver.2⟩, hruleModule⟩,
    hmodule.2⟩, htail⟩

theorem not_mem_idOf {c : Char} (hhex : Text.hexValue c = none) (hcolon : c ≠ ':')
    (vendor device : UInt16) : c ∉ (idOf vendor device).toList := by
  have hmid : c ∉ ":".toList := by simpa using hcolon
  simp only [idOf, String.toList_append, List.mem_append, not_or]
  exact ⟨⟨Text.not_mem_hex4 hhex vendor, hmid⟩, Text.not_mem_hex4 hhex device⟩

/-! ## Whole files -/

/-- The rule a claim asks for. -/
def ruleFor (claim : Claim) : Rule where
  vendor := claim.vendor
  device := claim.device
  driver := claim.driver
  module := claim.module

theorem idOf_injective {p q : UInt16 × UInt16} (h : idOf p.1 p.2 = idOf q.1 q.2) : p = q := by
  have hp := readId_idOf p.1 p.2
  rw [h, readId_idOf] at hp
  exact (Option.some.inj hp).symm

/-- The ids of the claims that `vfio_pci` itself serves. -/
def plainIds (claims : List Claim) : List (UInt16 × UInt16) :=
  (claims.filter fun claim => !needsDriverOverride claim.module).map fun claim =>
    (claim.vendor, claim.device)

theorem mem_plainIds {claims : List Claim} {vendor device : UInt16} :
    (vendor, device) ∈ plainIds claims ↔ ∃ claim ∈ claims,
      needsDriverOverride claim.module = false ∧ claim.vendor = vendor ∧
        claim.device = device := by
  simp [plainIds, and_assoc]

/-- The rules of the others. -/
def askedRules (claims : List Claim) : List Rule :=
  (claims.filter fun claim => needsDriverOverride claim.module).map ruleFor

theorem mem_askedRules {claims : List Claim} {rule : Rule} :
    rule ∈ askedRules claims ↔ ∃ claim ∈ claims,
      needsDriverOverride claim.module = true ∧ ruleFor claim = rule := by
  simp [askedRules, and_assoc]

/-- A line of ids reads back as the ids. -/
theorem readIds_line {ids : List (UInt16 × UInt16)} (hne : ids ≠ []) :
    readIds (idsHead ++ ",".intercalate (ids.map fun p => idOf p.1 p.2) ++ "\n") = some ids := by
  have htexts : ∀ c, Text.hexValue c = none → c ≠ ':' →
      ∀ text ∈ ids.map fun p => idOf p.1 p.2, c ∉ text.toList := by
    intro c hhex hcolon text htext
    obtain ⟨p, _, rfl⟩ := List.mem_map.mp htext
    exact not_mem_idOf hhex hcolon p.1 p.2
  have hline : '\n' ∉ (idsHead ++ ",".intercalate (ids.map fun p => idOf p.1 p.2)).toList := by
    have hhead : '\n' ∉ idsHead.toList := by decide
    have hcomma : '\n' ∉ ",".toList := by decide
    have hlist := Text.not_mem_intercalate hcomma (htexts '\n' (by decide) (by decide))
    rw [String.toList_append, List.mem_append, not_or]
    exact ⟨hhead, hlist⟩
  have hlines := Text.lines_append "" hline
  rw [String.append_empty, Text.lines_empty] at hlines
  have hsplit : (",".intercalate (ids.map fun p => idOf p.1 p.2)).toList.splitOn ',' =
      (ids.map fun p => idOf p.1 p.2).map String.toList :=
    Text.splitOn_intercalate (htexts ',' (by decide) (by decide)) (by simpa using hne)
  have hread : ((ids.map fun p => idOf p.1 p.2).map String.toList).mapM readId = some ids := by
    rw [List.map_map]
    exact Text.mapM_map_of_read fun p _ => readId_idOf p.1 p.2
  rw [readIds, hlines]
  simp only [String.toList_append, Text.stripText_append, Option.bind_eq_bind,
    Option.bind_some]
  rw [hsplit, hread]

/-- The options line reads back as the ids of the plain claims, each once. -/
theorem readIds_render (claims : List Claim) :
    ∃ ids, readIds (render claims).modprobe = some ids ∧ ids.Nodup ∧
      ∀ p, p ∈ ids ↔ p ∈ plainIds claims := by
  have hdraft : (draftOf claims).ids = (plainIds claims).map fun p => idOf p.1 p.2 := by
    rw [draftOf_ids, plainIds, List.map_map]
    rfl
  have hinj : ∀ p ∈ plainIds claims, ∀ q ∈ plainIds claims,
      idOf p.1 p.2 = idOf q.1 q.2 → p = q :=
    fun p _ q _ heq => idOf_injective heq
  obtain ⟨ids, hids, honce, hmem⟩ := exists_map_eq_sortDedup _ _ hinj
  rw [← hdraft] at hids
  refine ⟨ids, ?_, honce, hmem⟩
  show readIds (if (sortDedup (draftOf claims).ids).isEmpty = true then ""
    else idsHead ++ ",".intercalate (sortDedup (draftOf claims).ids) ++ "\n") = some ids
  rw [← hids]
  by_cases hempty : ids = []
  · rw [hempty]
    rfl
  · rw [if_neg (by simpa using hempty), readIds_line hempty]

theorem lines_concat {rules : List Rule} (h : ∀ rule ∈ rules, '\n' ∉ (ruleLine rule).toList) :
    Text.lines (concat (rules.map fun rule => ruleLine rule ++ "\n")) = rules.map ruleLine := by
  induction rules with
  | nil => rfl
  | cons rule rules ih =>
      rw [List.map_cons, List.map_cons, concat, Text.lines_append _ (h rule List.mem_cons_self),
        ih fun rule' hrule' => h rule' (List.mem_cons_of_mem rule hrule')]

/-- Lines of rules read back as the rules. -/
theorem readRules_concat {rules : List Rule}
    (hplain : ∀ rule ∈ rules, Plain rule.driver ∧ Plain rule.module) :
    readRules (some (concat (rules.map fun rule => ruleLine rule ++ "\n"))) = some rules := by
  have hread : (rules.map ruleLine).mapM readRule = some rules :=
    Text.mapM_map_of_read fun rule hrule =>
      readRule_ruleLine (hplain rule hrule).1 (hplain rule hrule).2
  rw [readRules, lines_concat, hread]
  exact fun rule hrule => ruleLine_oneLine (hplain rule hrule).1 (hplain rule hrule).2

/-- The rules file reads back as the rules of the other claims, each once. -/
theorem readRules_render {claims : List Claim}
    (hplain : ∀ claim ∈ claims, Plain claim.module ∧ Plain claim.driver) :
    ∃ rules, readRules (render claims).udevRules = some rules ∧ rules.Nodup ∧
      ∀ rule, rule ∈ rules ↔ rule ∈ askedRules claims := by
  have hdraft : (draftOf claims).rules =
      (askedRules claims).map fun rule => ruleLine rule ++ "\n" := by
    rw [draftOf_rules, askedRules, List.map_map]
    rfl
  have hasked : ∀ rule ∈ askedRules claims, Plain rule.driver ∧ Plain rule.module := by
    intro rule hrule
    obtain ⟨claim, hclaim, _, rfl⟩ := mem_askedRules.mp hrule
    exact (hplain claim hclaim).symm
  have hinj : ∀ rule ∈ askedRules claims, ∀ other ∈ askedRules claims,
      ruleLine rule ++ "\n" = ruleLine other ++ "\n" → rule = other := by
    intro rule hrule other hother heq
    have hline : ruleLine rule = ruleLine other := String.append_left_inj _ |>.mp heq
    have hread := readRule_ruleLine (hasked rule hrule).1 (hasked rule hrule).2
    rw [hline, readRule_ruleLine (hasked other hother).1 (hasked other hother).2] at hread
    exact (Option.some.inj hread).symm
  obtain ⟨rules, hrules, honce, hmem⟩ := exists_map_eq_sortDedup _ _ hinj
  rw [← hdraft] at hrules
  refine ⟨rules, ?_, honce, hmem⟩
  show readRules (if (sortDedup (draftOf claims).rules).isEmpty = true then none
    else some (concat (sortDedup (draftOf claims).rules))) = some rules
  rw [← hrules]
  by_cases hempty : rules = []
  · rw [hempty]
    rfl
  · rw [if_neg (by simpa using hempty),
      readRules_concat fun rule hrule => hasked rule ((hmem rule).mp hrule)]

/-- The modules file reads back as the stack and one spelling of each claimed
module. -/
theorem readModules_render {claims : List Claim}
    (hplain : ∀ claim ∈ claims, Plain claim.module) :
    Lists claims (readModules (render claims).modulesLoad) := by
  have hlists := draftOf_modules claims
  have hlines : ∀ line ∈ (draftOf claims).modules, '\n' ∉ line.toList := by
    intro line hline
    rcases hlists.claimed line hline with hstack | ⟨claim, hclaim, rfl⟩
    · have hplainStack : ∀ line ∈ vfioStack, '\n' ∉ line.toList := by decide
      exact hplainStack line hstack
    · exact (hplain claim hclaim).2
  have hne : (draftOf claims).modules ≠ [] := by
    intro hnil
    have hstack := hlists.stack
    rw [hnil] at hstack
    exact absurd hstack (by decide)
  show Lists claims (Text.lines ("\n".intercalate (draftOf claims).modules ++ "\n"))
  rwa [Text.lines_intercalate hlines hne]

end KataDeviceProvisioner.Ports.Modules
