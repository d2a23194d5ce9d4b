import KataDeviceProvisioner.Ports.Chart
import KataDeviceProvisioner.Ports.Device
import KataDeviceProvisioner.Verified.Lists
import KataDeviceProvisioner.Verified.Regexp
import KataDeviceProvisioner.Verified.Selector
import Mathlib.Data.List.Flatten

/-!
# The labels nodes are selected by

`templates/node-feature-rule.yaml`, and what node-feature-discovery makes of it:
a rule gives a node its labels when one of the node's PCI devices meets all of
its expressions.  A rule for a generation of chips looks for device ids by
regular expression; `Generation.ids` are the numbers those come to.
-/

namespace KataDeviceProvisioner.Ports.Chart

open KataDeviceProvisioner.Verified
open KataDeviceProvisioner.Verified.Selector

/-! ## Rules -/

inductive MatchOp where
  | isIn
  | inRegexp
  deriving Repr, DecidableEq

structure MatchExpression where
  op : MatchOp
  value : List String
  deriving Repr, DecidableEq

/-- Whether the value of an attribute, if there is one, is what is looked for. -/
def MatchExpression.holds (expression : MatchExpression) : Option String → Bool
  | none => false
  | some found =>
      match expression.op with
      | .isIn => expression.value.contains found
      | .inRegexp => expression.value.any fun pattern => Regexp.matchString pattern found

/-- The attributes of an instance of a feature. -/
abbrev Attributes : Type := String → Option String

/-- A rule on the feature `pci.device`. -/
structure Rule where
  name : String
  labels : List (String × String)
  matchExpressions : List (String × MatchExpression)
  deriving Repr, DecidableEq

def Rule.matched (rule : Rule) (attributes : Attributes) : Bool :=
  rule.matchExpressions.all fun entry => entry.2.holds (attributes entry.1)

/-- Base class and subclass. -/
def classPrefix (dev : PciDevice) : UInt16 := (dev.classCode >>> 8).toUInt16

/-- What is discovered of a PCI device, as far as the rules ask. -/
def pciAttributes (dev : PciDevice) : Attributes
  | "vendor" => some (Text.hex4 dev.vendor)
  | "class" => some (Text.hex4 (classPrefix dev))
  | "device" => some (Text.hex4 dev.device)
  | _ => none

def Rule.applies (rule : Rule) (devices : List PciDevice) : Bool :=
  devices.any fun dev => rule.matched (pciAttributes dev)

/-- A rule for devices of one vendor and class, which may ask for more. -/
def pciRule (name label vendor pciClass : String) (more : List (String × MatchExpression)) :
    Rule where
  name := name
  labels := [(label, "true")]
  matchExpressions := [("vendor", ⟨.isIn, [vendor]⟩), ("class", ⟨.isIn, [pciClass]⟩)] ++ more

def gpuRule : Rule :=
  pciRule "nvidia.gpu" "kata.feature.node.kubernetes.io/nvidia-gpu" "10de" "0302" []

def nvswitchRule : Rule :=
  pciRule "nvidia.nvswitch" "kata.feature.node.kubernetes.io/nvidia-nvswitch" "10de" "0680" []

def hopperRule : Rule :=
  pciRule "nvidia.hopper" "kata.feature.node.kubernetes.io/nvidia-hopper" "10de" "0302"
    [("device", ⟨.inRegexp, ["^22f[0-9a-f]$", "^23[0-3][0-9a-f]$", "^23[5-7][0-9a-f]$"]⟩)]

def blackwellRule : Rule :=
  pciRule "nvidia.blackwell" "kata.feature.node.kubernetes.io/nvidia-blackwell" "10de" "0302"
    [("device", ⟨.inRegexp,
      ["^29[0-3][0-9a-f]$", "^2940$", "^31[89ab][0-9a-f]$", "^31[def][0-9a-f]$"]⟩)]

/-- Coherently attached, of whichever generation. -/
def c2cRule : Rule :=
  pciRule "nvidia.c2c" "kata.feature.node.kubernetes.io/nvidia-c2c" "10de" "0302"
    [("device", ⟨.isIn, ["2342", "2343", "2345", "2348", "2941", "297e", "29bc", "31c2"]⟩)]

def graceBlackwellRule : Rule :=
  pciRule "nvidia.grace-blackwell" "kata.feature.node.kubernetes.io/nvidia-grace-blackwell" "10de"
    "0302" [("device", ⟨.isIn, ["2941", "297e", "29bc", "31c2"]⟩)]

def rules : List Rule :=
  [gpuRule, nvswitchRule, hopperRule, blackwellRule, c2cRule, graceBlackwellRule]

/-! ## Labels -/

/-- The labels the rules give a node with these devices. -/
def featureLabels (devices : List PciDevice) : Labels := fun key =>
  ((rules.filter fun rule => rule.applies devices).flatMap (·.labels)).lookup key

/-- Labels of a node as discovery keeps them: it decides about those its rules
are for and leaves the others alone. -/
def Labelled (devices : List PciDevice) (labels : Labels) : Prop :=
  ∀ rule ∈ rules, ∀ entry ∈ rule.labels, labels entry.1 = featureLabels devices entry.1

/-! ## Vendor and class -/

variable {dev : PciDevice} {devices : List PciDevice} {labels : Labels}

/-- Of vendor and class a rule says what their numbers say. -/
theorem pciRule_matched {name label vendor pciClass : String}
    {more : List (String × MatchExpression)} {v c : UInt16} (hv : Text.hex4 v = vendor)
    (hc : Text.hex4 c = pciClass) :
    (pciRule name label vendor pciClass more).matched (pciAttributes dev) = true ↔
      (dev.vendor = v ∧ classPrefix dev = c) ∧
        ∀ entry ∈ more, entry.2.holds (pciAttributes dev entry.1) = true := by
  subst hv hc
  have hvendor : (MatchExpression.mk .isIn [Text.hex4 v]).holds
      (pciAttributes dev "vendor") = true ↔ dev.vendor = v := by
    simp [MatchExpression.holds, pciAttributes, Text.hex4_injective.eq_iff]
  have hclass : (MatchExpression.mk .isIn [Text.hex4 c]).holds
      (pciAttributes dev "class") = true ↔ classPrefix dev = c := by
    simp [MatchExpression.holds, pciAttributes, Text.hex4_injective.eq_iff]
  simp only [Rule.matched, pciRule, List.cons_append, List.nil_append, List.all_cons,
    Bool.and_eq_true, hvendor, hclass, List.all_eq_true, and_assoc]

def isGpu (dev : PciDevice) : Bool :=
  (rowFor dev.vendor dev.classCode).any fun row => row.provisioning = .nvidiaInBandCc

def isNvSwitch (dev : PciDevice) : Bool :=
  (rowFor dev.vendor dev.classCode).any fun row => row.provisioning = .nvidiaInBandPpcie

theorem rowFor_any {provisioning : Provisioning} :
    ((rowFor dev.vendor dev.classCode).any fun row => row.provisioning = provisioning) = true ↔
      ∃ row ∈ Ports.devices, (row.vendor = dev.vendor ∧ row.classPrefix = classPrefix dev) ∧
        row.provisioning = provisioning := by
  have hclasses : ∀ row ∈ Ports.devices, ∀ other ∈ Ports.devices,
      row.classPrefix = other.classPrefix → row = other := by
    decide
  show (List.find? (fun row : DeviceRow =>
      row.vendor == dev.vendor && row.classPrefix == classPrefix dev) _).any _ = true ↔ _
  rw [any_find?]
  · simp
  · intro row hrow other hother h h'
    simp only [Bool.and_eq_true, beq_iff_eq] at h h'
    exact hclasses row hrow other hother (h.2.trans h'.2.symm)

theorem isGpu_iff : isGpu dev = true ↔ dev.vendor = 0x10de ∧ classPrefix dev = 0x0302 := by
  rw [isGpu, rowFor_any]
  simp [Ports.devices, eq_comm]

theorem isNvSwitch_iff :
    isNvSwitch dev = true ↔ dev.vendor = 0x10de ∧ classPrefix dev = 0x0680 := by
  rw [isNvSwitch, rowFor_any]
  simp [Ports.devices, eq_comm]

theorem gpuRule_matched : gpuRule.matched (pciAttributes dev) = true ↔ isGpu dev = true := by
  rw [isGpu_iff, gpuRule, pciRule_matched (v := 0x10de) (c := 0x0302) (by decide) (by decide)]
  exact and_iff_left fun _ h => absurd h List.not_mem_nil

theorem nvswitchRule_matched :
    nvswitchRule.matched (pciAttributes dev) = true ↔ isNvSwitch dev = true := by
  rw [isNvSwitch_iff, nvswitchRule,
    pciRule_matched (v := 0x10de) (c := 0x0680) (by decide) (by decide)]
  exact and_iff_left fun _ h => absurd h List.not_mem_nil

/-- A rule that looks at the ids of GPUs. -/
theorem deviceRule_matched {name label : String} {expression : MatchExpression} :
    (pciRule name label "10de" "0302" [("device", expression)]).matched (pciAttributes dev) = true ↔
      isGpu dev = true ∧ expression.holds (some (Text.hex4 dev.device)) = true := by
  have hdevice : pciAttributes dev "device" = some (Text.hex4 dev.device) := rfl
  rw [isGpu_iff, pciRule_matched (v := 0x10de) (c := 0x0302) (by decide) (by decide),
    List.forall_mem_singleton, hdevice]

/-! ## Generations -/

/-- The generations of chips there are profiles for. -/
inductive Generation where
  | hopper
  | blackwell
  | graceBlackwell
  deriving Repr, DecidableEq

/-- The device ids of a generation, first and last of each range. -/
def Generation.ids : Generation → List (UInt16 × UInt16)
  | .hopper => [(0x22f0, 0x233f), (0x2350, 0x237f)]
  | .blackwell => [(0x2900, 0x2940), (0x3180, 0x31bf), (0x31d0, 0x31ff)]
  | .graceBlackwell => [(0x2941, 0x2941), (0x297e, 0x297e), (0x29bc, 0x29bc), (0x31c2, 0x31c2)]

def Generation.has (generation : Generation) (id : UInt16) : Bool :=
  generation.ids.any fun range => decide (range.1 ≤ id) && decide (id ≤ range.2)

/-- A GPU of the generation. -/
def Generation.isOf (generation : Generation) (dev : PciDevice) : Bool :=
  isGpu dev && generation.has dev.device

theorem Generation.has_iff {generation : Generation} {id : UInt16} :
    generation.has id = true ↔
      ∃ range ∈ generation.ids, range.1.toNat ≤ id.toNat ∧ id.toNat ≤ range.2.toNat := by
  simp [Generation.has, UInt16.le_iff_toNat_le]

/-- A device is of one generation. -/
theorem Generation.isOf_unique {g g' : Generation} (h : g.isOf dev = true)
    (h' : g'.isOf dev = true) : g = g' := by
  have hid := Generation.has_iff.mp (Bool.and_eq_true_iff.mp h).2
  have hid' := Generation.has_iff.mp (Bool.and_eq_true_iff.mp h').2
  cases g <;> cases g' <;> simp [Generation.ids] at hid hid' ⊢ <;> omega

def Generation.label : Generation → String
  | .hopper => "kata.feature.node.kubernetes.io/nvidia-hopper"
  | .blackwell => "kata.feature.node.kubernetes.io/nvidia-blackwell"
  | .graceBlackwell => "kata.feature.node.kubernetes.io/nvidia-grace-blackwell"

def Generation.rule : Generation → Rule
  | .hopper => hopperRule
  | .blackwell => blackwellRule
  | .graceBlackwell => graceBlackwellRule

theorem hopperDevice_holds {id : UInt16} :
    (MatchExpression.mk .inRegexp
        ["^22f[0-9a-f]$", "^23[0-3][0-9a-f]$", "^23[5-7][0-9a-f]$"]).holds
      (some (Text.hex4 id)) = true ↔ Generation.hopper.has id = true := by
  have hid : id.toNat < 65536 := id.toNat_lt
  have h22f : Regexp.matchString "^22f[0-9a-f]$" (Text.hex4 id) = true ↔ _ :=
    Regexp.matchString_hex4 [(2, 2)] [(2, 2)] [(15, 15)] [(0, 9), (10, 15)] (by decide) id
  have h230 : Regexp.matchString "^23[0-3][0-9a-f]$" (Text.hex4 id) = true ↔ _ :=
    Regexp.matchString_hex4 [(2, 2)] [(3, 3)] [(0, 3)] [(0, 9), (10, 15)] (by decide) id
  have h235 : Regexp.matchString "^23[5-7][0-9a-f]$" (Text.hex4 id) = true ↔ _ :=
    Regexp.matchString_hex4 [(2, 2)] [(3, 3)] [(5, 7)] [(0, 9), (10, 15)] (by decide) id
  rw [Generation.has_iff]
  simp only [MatchExpression.holds, List.any_cons, List.any_nil, Bool.or_false, Bool.or_eq_true,
    h22f, h230, h235]
  simp [Regexp.Within, Generation.ids]
  omega

theorem blackwellDevice_holds {id : UInt16} :
    (MatchExpression.mk .inRegexp
        ["^29[0-3][0-9a-f]$", "^2940$", "^31[89ab][0-9a-f]$", "^31[def][0-9a-f]$"]).holds
      (some (Text.hex4 id)) = true ↔ Generation.blackwell.has id = true := by
  have hid : id.toNat < 65536 := id.toNat_lt
  have h290 : Regexp.matchString "^29[0-3][0-9a-f]$" (Text.hex4 id) = true ↔ _ :=
    Regexp.matchString_hex4 [(2, 2)] [(9, 9)] [(0, 3)] [(0, 9), (10, 15)] (by decide) id
  have h2940 : Regexp.matchString "^2940$" (Text.hex4 id) = true ↔ _ :=
    Regexp.matchString_hex4 [(2, 2)] [(9, 9)] [(4, 4)] [(0, 0)] (by decide) id
  have h318 : Regexp.matchString "^31[89ab][0-9a-f]$" (Text.hex4 id) = true ↔ _ :=
    Regexp.matchString_hex4 [(3, 3)] [(1, 1)] [(8, 8), (9, 9), (10, 10), (11, 11)]
      [(0, 9), (10, 15)] (by decide) id
  have h31d : Regexp.matchString "^31[def][0-9a-f]$" (Text.hex4 id) = true ↔ _ :=
    Regexp.matchString_hex4 [(3, 3)] [(1, 1)] [(13, 13), (14, 14), (15, 15)]
      [(0, 9), (10, 15)] (by decide) id
  rw [Generation.has_iff]
  simp only [MatchExpression.holds, List.any_cons, List.any_nil, Bool.or_false, Bool.or_eq_true,
    h290, h2940, h318, h31d]
  simp [Regexp.Within, Generation.ids]
  omega

theorem graceBlackwellDevice_holds {id : UInt16} :
    (MatchExpression.mk .isIn ["2941", "297e", "29bc", "31c2"]).holds (some (Text.hex4 id)) =
      true ↔ Generation.graceBlackwell.has id = true := by
  have hids : ["2941", "297e", "29bc", "31c2"] =
      [0x2941, 0x297e, 0x29bc, 0x31c2].map Text.hex4 := by
    decide
  rw [Generation.has_iff, hids]
  simp only [MatchExpression.holds, List.contains_iff_mem,
    List.mem_map_of_injective Text.hex4_injective]
  simp [Generation.ids, ← UInt16.toNat_inj]
  omega

/-- The rule of a generation finds its GPUs by their device ids. -/
theorem Generation.rule_matched {g : Generation} :
    g.rule.matched (pciAttributes dev) = true ↔ g.isOf dev = true := by
  rw [Generation.isOf, Bool.and_eq_true]
  cases g with
  | hopper => rw [Generation.rule, hopperRule, deviceRule_matched, hopperDevice_holds]
  | blackwell => rw [Generation.rule, blackwellRule, deviceRule_matched, blackwellDevice_holds]
  | graceBlackwell =>
      rw [Generation.rule, graceBlackwellRule, deviceRule_matched, graceBlackwellDevice_holds]

/-- What is a Grace superchip is coherently attached. -/
theorem c2cRule_matched (h : graceBlackwellRule.matched (pciAttributes dev) = true) :
    c2cRule.matched (pciAttributes dev) = true := by
  rw [graceBlackwellRule, deviceRule_matched] at h
  rw [c2cRule, deviceRule_matched]
  have hids : ["2941", "297e", "29bc", "31c2"] ⊆
      ["2342", "2343", "2345", "2348", "2941", "297e", "29bc", "31c2"] := by
    decide
  exact ⟨h.1, List.contains_iff_mem.mpr (hids (List.contains_iff_mem.mp h.2))⟩

/-! ## What a label says -/

/-- No label is given by two rules. -/
theorem rules_labels_nodup : ((rules.flatMap (·.labels)).map (·.1)).Nodup := by
  decide +kernel

theorem rule_of_label {rule other : Rule} (hrule : rule ∈ rules) (hother : other ∈ rules)
    {key value value' : String} (h : (key, value) ∈ rule.labels)
    (h' : (key, value') ∈ other.labels) : rule = other := by
  have hone : ∀ rule ∈ rules, ∀ other ∈ rules, ∀ entry ∈ rule.labels, ∀ entry' ∈ other.labels,
      entry.1 = entry'.1 → rule = other := by
    decide +kernel
  exact hone rule hrule other hother _ h _ h' rfl

section Rule

variable {rule : Rule} (hrule : rule ∈ rules) {key value : String}
  (hlabel : (key, value) ∈ rule.labels)

include hrule hlabel

theorem featureLabels_of_mem :
    featureLabels devices key = if rule.applies devices then some value else none := by
  by_cases happlies : rule.applies devices = true
  · rw [if_pos happlies]
    refine lookup_of_nodup ?_ (List.mem_flatMap.mpr
      ⟨rule, List.mem_filter.mpr ⟨hrule, happlies⟩, hlabel⟩)
    refine rules_labels_nodup.sublist (List.Sublist.map _ ?_)
    exact List.filter_sublist.flatMap _
  · rw [if_neg happlies]
    refine List.lookup_eq_none_iff.mpr fun entry hentry => ?_
    obtain ⟨other, hother, hmem⟩ := List.mem_flatMap.mp hentry
    obtain ⟨hrules, happly⟩ := List.mem_filter.mp hother
    rw [bne_iff_ne]
    rintro rfl
    rw [rule_of_label hrule hrules hlabel hmem] at happlies
    exact happlies happly

variable (h : Labelled devices labels)

include h

/-- A label is there when some device is what its rule looks for. -/
theorem label_eq_some_iff :
    labels key = some value ↔ ∃ dev ∈ devices, rule.matched (pciAttributes dev) = true := by
  rw [h rule hrule _ hlabel, featureLabels_of_mem hrule hlabel, ← List.any_eq_true]
  simp [Rule.applies]

theorem label_eq_none_iff :
    labels key = none ↔ ∀ dev ∈ devices, ¬rule.matched (pciAttributes dev) = true := by
  rw [h rule hrule _ hlabel, featureLabels_of_mem hrule hlabel]
  simp [Rule.applies]

end Rule

section Labelled

variable (h : Labelled devices labels)

include h

theorem gpu_label : labels "kata.feature.node.kubernetes.io/nvidia-gpu" = some "true" ↔
    ∃ dev ∈ devices, isGpu dev = true := by
  have hrule : gpuRule ∈ rules := by decide
  rw [label_eq_some_iff hrule List.mem_cons_self h]
  simp only [gpuRule_matched]

theorem nvswitch_label : labels "kata.feature.node.kubernetes.io/nvidia-nvswitch" = some "true" ↔
    ∃ dev ∈ devices, isNvSwitch dev = true := by
  have hrule : nvswitchRule ∈ rules := by decide
  rw [label_eq_some_iff hrule List.mem_cons_self h]
  simp only [nvswitchRule_matched]

theorem no_nvswitch_label : labels "kata.feature.node.kubernetes.io/nvidia-nvswitch" = none ↔
    ∀ dev ∈ devices, ¬isNvSwitch dev = true := by
  have hrule : nvswitchRule ∈ rules := by decide
  rw [label_eq_none_iff hrule List.mem_cons_self h]
  simp only [nvswitchRule_matched]

theorem no_c2c_label : labels "kata.feature.node.kubernetes.io/nvidia-c2c" = none ↔
    ∀ dev ∈ devices, ¬c2cRule.matched (pciAttributes dev) = true := by
  have hrule : c2cRule ∈ rules := by decide
  exact label_eq_none_iff hrule List.mem_cons_self h

theorem generation_label (g : Generation) :
    labels g.label = some "true" ↔ ∃ dev ∈ devices, g.isOf dev = true := by
  have hrule : g.rule ∈ rules := by cases g <;> decide
  have hlabel : (g.label, "true") ∈ g.rule.labels := by cases g <;> exact List.mem_cons_self
  rw [label_eq_some_iff hrule hlabel h]
  simp only [Generation.rule_matched]

end Labelled

end KataDeviceProvisioner.Ports.Chart
