import KataDeviceProvisioner.Ports.Bench
import KataDeviceProvisioner.Ports.ChartRuns
import KataDeviceProvisioner.Ports.NodeFeatures

/-!
# The profiles that come with the chart

`profiles/*.values.yaml`, by the class of hardware they are for, and which nodes
their dispatchers take once `node-feature-rule.yaml` has labelled them.  Every
profile of a class selects the same nodes.  Two classes select one node only
where an NVSwitch sits beside GPUs of two generations: a label says that some
device of a generation is there, not that no other is.
-/

namespace KataDeviceProvisioner.Ports.Chart

open KataDeviceProvisioner.Verified KataDeviceProvisioner.Verified.Selector
open KataDeviceProvisioner.Verified.Sprig

/-! ## Profiles -/

/-- The families of `catalog.json`. -/
inductive Hardware where
  | hgxHx00
  | hgxBx00
  | pcieGpu
  | gbx00
  deriving Repr, DecidableEq

/-- A values file, as far as it decides about nodes and modes. -/
structure Profile where
  name : String
  hardware : Hardware
  ccMode : Scalar
  nodeSelector : List (String × Scalar)
  nodeSelectorExpressions : List Scalar
  parallelism : Int
  deriving Repr, DecidableEq

def hgxHx00 : Profile where
  name := "HGX-Hx00"
  hardware := .hgxHx00
  ccMode := .string "off"
  nodeSelector :=
    [ ("kata.feature.node.kubernetes.io/nvidia-hopper", .string "true")
    , ("kata.feature.node.kubernetes.io/nvidia-nvswitch", .string "true") ]
  nodeSelectorExpressions := []
  parallelism := 2

def hgxHx00Ppcie : Profile where
  name := "HGX-Hx00-PPCIE"
  hardware := .hgxHx00
  ccMode := .string "ppcie"
  nodeSelector :=
    [ ("kata.feature.node.kubernetes.io/nvidia-hopper", .string "true")
    , ("kata.feature.node.kubernetes.io/nvidia-nvswitch", .string "true") ]
  nodeSelectorExpressions := []
  parallelism := 2

def hgxBx00 : Profile where
  name := "HGX-Bx00"
  hardware := .hgxBx00
  ccMode := .string "off"
  nodeSelector :=
    [ ("kata.feature.node.kubernetes.io/nvidia-blackwell", .string "true")
    , ("kata.feature.node.kubernetes.io/nvidia-nvswitch", .string "true") ]
  nodeSelectorExpressions := []
  parallelism := 2

def hgxBx00Cc : Profile where
  name := "HGX-Bx00-CC"
  hardware := .hgxBx00
  ccMode := .string "on"
  nodeSelector :=
    [ ("kata.feature.node.kubernetes.io/nvidia-blackwell", .string "true")
    , ("kata.feature.node.kubernetes.io/nvidia-nvswitch", .string "true") ]
  nodeSelectorExpressions := []
  parallelism := 2

def pcieGpu : Profile where
  name := "PCIE-GPU"
  hardware := .pcieGpu
  ccMode := .string "off"
  nodeSelector := [("kata.feature.node.kubernetes.io/nvidia-gpu", .string "true")]
  nodeSelectorExpressions :=
    [ .string "!kata.feature.node.kubernetes.io/nvidia-nvswitch"
    , .string "!kata.feature.node.kubernetes.io/nvidia-c2c" ]
  parallelism := 10

def pcieGpuCc : Profile where
  name := "PCIE-GPU-CC"
  hardware := .pcieGpu
  ccMode := .string "on"
  nodeSelector := [("kata.feature.node.kubernetes.io/nvidia-gpu", .string "true")]
  nodeSelectorExpressions :=
    [ .string "!kata.feature.node.kubernetes.io/nvidia-nvswitch"
    , .string "!kata.feature.node.kubernetes.io/nvidia-c2c" ]
  parallelism := 10

def gbx00 : Profile where
  name := "GBx00"
  hardware := .gbx00
  ccMode := .string "off"
  nodeSelector := [("kata.feature.node.kubernetes.io/nvidia-grace-blackwell", .string "true")]
  nodeSelectorExpressions := []
  parallelism := 2

def profiles : List Profile :=
  [hgxHx00, hgxHx00Ppcie, hgxBx00, hgxBx00Cc, pcieGpu, pcieGpuCc, gbx00]

/-- What `renderProfiles` hands on: the file over the chart's `values.yaml`. -/
def Profile.root (profile : Profile) (lib : Library) : Root where
  profileName := profile.name
  values :=
    { ccMode := profile.ccMode
      ccModeOverrides := []
      ccModeLabel := "nvidia.com/cc.mode"
      ccModeStateLabel := defaultStateLabel lib profile.name
      ccModeReadyLabel := "nvidia.com/cc.ready.state"
      nodeSelector := profile.nodeSelector
      nodeSelectorExpressions := profile.nodeSelectorExpressions
      image :=
        { reference := "ghcr.io/kata-containers/kata-device-provisioner"
          tag := .string "" }
      job :=
        { nodes := []
          ttlSecondsAfterFinished := 300
          parallelism := profile.parallelism
          waitForNodesSeconds := 300
          nodeSettleSeconds := 15
          waitNodeReadySeconds := 300
          dispatcherImage :=
            { reference := "ghcr.io/kata-containers/k8s-job-dispatcher"
              tag := .string "0.4.0" } } }

/-- Whether a dispatcher of the profile works on a node. -/
def Profile.Takes (profile : Profile) (lib : Library) (read : String → Option (List Requirement))
    (node : NodeObject) : Prop :=
  ∃ ds, dispatchersForProfile lib (profile.root lib) = .ok ds ∧
    ∃ d ∈ ds, d.takes read node = true

/-- At most one class of hardware takes the node. -/
def Uncontended (lib : Library) (read : String → Option (List Requirement)) (node : NodeObject) :
    Prop :=
  ∀ p ∈ profiles, ∀ q ∈ profiles, p.Takes lib read node → q.Takes lib read node →
    p.hardware = q.hardware

/-! ## What a profile takes -/

variable {lib : Library} {read : String → Option (List Requirement)} {node : NodeObject}
  {devices : List PciDevice} {p q : Profile}

theorem profile_renderable (hp : p ∈ profiles) : Renderable (p.root lib).values where
  mode := by
    have hmodes : ∀ p ∈ profiles, spelledMode p.ccMode ∈ modes := by decide
    exact hmodes p hp
  overrides := fun _ h => absurd h List.not_mem_nil
  named := .inl rfl
  ttl := by
    show (60 : Int) ≤ 300
    decide
  image := by
    show Tagged ⟨"ghcr.io/kata-containers/kata-device-provisioner", .string ""⟩ appVersion
    exact .inr (by decide)
  dispatcherImage := by
    show Tagged ⟨"ghcr.io/kata-containers/k8s-job-dispatcher", .string "0.4.0"⟩ ""
    exact .inr (by decide)

theorem expression_of_mem (hp : p ∈ profiles) {expression : Scalar}
    (h : expression ∈ p.nodeSelectorExpressions) :
    ∃ key, validKey key = true ∧ expression.toString = "!" ++ key := by
  have hkeys : ∀ p ∈ profiles, ∀ expression ∈ p.nodeSelectorExpressions,
      ∃ key ∈ ["kata.feature.node.kubernetes.io/nvidia-nvswitch",
        "kata.feature.node.kubernetes.io/nvidia-c2c"],
        validKey key = true ∧ expression.toString = "!" ++ key := by
    decide +kernel
  obtain ⟨key, _, hkey⟩ := hkeys p hp expression h
  exact ⟨key, hkey⟩

theorem profile_wellFormed (hread : Reads read) (hp : p ∈ profiles) :
    WellFormed read (p.root lib).values where
  label := by
    show validKey "nvidia.com/cc.mode" = true
    decide +kernel
  selector := by
    have hentries : ∀ p ∈ profiles, ∀ entry ∈ p.nodeSelector,
        validKey entry.1 = true ∧ validValue entry.2.toString = true := by
      decide +kernel
    exact hentries p hp
  expressions := by
    intro expression h
    obtain ⟨key, hkey, htext⟩ := expression_of_mem hp h
    rw [htext]
    exact ⟨_, hread.absent key hkey, List.cons_ne_nil _ _⟩
  nodes := fun _ h => absurd h List.not_mem_nil

/-- The one run of a profile goes by the selection of its file. -/
theorem takes_iff (hread : Reads read) (hp : p ∈ profiles) :
    p.Takes lib read node ↔ BaseMatches read (p.root lib).values node.labels := by
  have hwf : WellFormed read (p.root lib).values := profile_wellFormed hread hp
  have hruns : ∀ ds, dispatchersForProfile lib (p.root lib) = .ok ds →
      ∃ image run, ds = [dispatcher lib (p.root lib) image run] ∧ run.extra = "" := by
    intro ds hds
    obtain ⟨mode, overrides, _, image, _, hmodes, _, _, rfl⟩ := dispatchers_ok hds
    obtain rfl : [] = overrides := Except.ok.inj hmodes
    exact ⟨image, _, rfl, rfl⟩
  constructor
  · intro ⟨ds, hds, d, hd, htakes⟩
    obtain ⟨image, run, rfl, hextra⟩ := hruns ds hds
    rw [List.mem_singleton.mp hd, dispatcher_takes hread hwf rfl (.inl hextra)] at htakes
    exact htakes.1
  · intro hbase
    obtain ⟨ds, hds⟩ := rendered_of_renderable (profile_renderable hp)
    obtain ⟨image, run, rfl, hextra⟩ := hruns ds hds
    refine ⟨_, hds, _, List.mem_singleton_self _, ?_⟩
    exact (dispatcher_takes hread hwf rfl (.inl hextra)).mpr ⟨hbase, .inl hextra⟩

/-! ## Which nodes those are -/

/-- The profile of a class that leaves confidential computing off. -/
def Hardware.profile : Hardware → Profile
  | .hgxHx00 => Chart.hgxHx00
  | .hgxBx00 => Chart.hgxBx00
  | .pcieGpu => Chart.pcieGpu
  | .gbx00 => Chart.gbx00

/-- Profiles of one class select the same nodes and differ in their mode. -/
theorem same_selection (hp : p ∈ profiles) :
    p.nodeSelector = p.hardware.profile.nodeSelector ∧
      p.nodeSelectorExpressions = p.hardware.profile.nodeSelectorExpressions := by
  have hall : ∀ p ∈ profiles, p.nodeSelector = p.hardware.profile.nodeSelector ∧
      p.nodeSelectorExpressions = p.hardware.profile.nodeSelectorExpressions := by
    decide +kernel
  exact hall p hp

theorem hardware_profile_mem (hardware : Hardware) :
    hardware.profile ∈ profiles ∧ hardware.profile.hardware = hardware := by
  cases hardware <;> decide

/-- The devices a class of hardware is recognized by. -/
def Hardware.Present (devices : List PciDevice) : Hardware → Prop
  | .hgxHx00 =>
      (∃ dev ∈ devices, Generation.hopper.isOf dev = true) ∧
        ∃ dev ∈ devices, isNvSwitch dev = true
  | .hgxBx00 =>
      (∃ dev ∈ devices, Generation.blackwell.isOf dev = true) ∧
        ∃ dev ∈ devices, isNvSwitch dev = true
  | .pcieGpu =>
      (∃ dev ∈ devices, isGpu dev = true) ∧ (∀ dev ∈ devices, ¬isNvSwitch dev = true) ∧
        ∀ dev ∈ devices, ¬c2cRule.matched (pciAttributes dev) = true
  | .gbx00 => ∃ dev ∈ devices, Generation.graceBlackwell.isOf dev = true

theorem selects_absent (hread : Reads read) {key : String} (hkey : validKey key = true)
    {labels : Labels} : selects read ("!" ++ key) labels = true ↔ labels key = none := by
  rw [selects_iff (hread.absent key hkey), meets_singleton, holds_absent]

/-- The selection of a baseboard asks for its generation and a switch. -/
theorem baseboard_selected (hlabels : Labelled devices node.labels) (g : Generation) :
    (∀ entry ∈ [(g.label, Scalar.string "true"),
        ("kata.feature.node.kubernetes.io/nvidia-nvswitch", .string "true")],
      node.labels entry.1 = some entry.2.toString) ↔
      (∃ dev ∈ devices, g.isOf dev = true) ∧ ∃ dev ∈ devices, isNvSwitch dev = true := by
  rw [List.forall_mem_cons, List.forall_mem_singleton]
  exact and_congr (generation_label hlabels g) (nvswitch_label hlabels)

/-- The selection of discrete cards keeps switches and superchips out. -/
theorem cards_selected (hread : Reads read) (hlabels : Labelled devices node.labels) :
    (∀ expression ∈ Chart.pcieGpu.nodeSelectorExpressions,
      selects read expression.toString node.labels = true) ↔
      (∀ dev ∈ devices, ¬isNvSwitch dev = true) ∧
        ∀ dev ∈ devices, ¬c2cRule.matched (pciAttributes dev) = true := by
  have hnoSwitch : selects read "!kata.feature.node.kubernetes.io/nvidia-nvswitch" node.labels =
      true ↔ ∀ dev ∈ devices, ¬isNvSwitch dev = true :=
    (selects_absent hread (by decide +kernel)).trans (no_nvswitch_label hlabels)
  have hnoC2c : selects read "!kata.feature.node.kubernetes.io/nvidia-c2c" node.labels = true ↔
      ∀ dev ∈ devices, ¬c2cRule.matched (pciAttributes dev) = true :=
    (selects_absent hread (by decide +kernel)).trans (no_c2c_label hlabels)
  refine List.forall_mem_cons.trans (and_congr hnoSwitch ?_)
  exact List.forall_mem_singleton.trans hnoC2c

/-- With the labels of its devices, a node is taken by the profiles of the
hardware it has. -/
theorem takes_iff_present (hread : Reads read) (hlabels : Labelled devices node.labels)
    (hp : p ∈ profiles) : p.Takes lib read node ↔ p.hardware.Present devices := by
  obtain ⟨hselector, hexpressions⟩ := same_selection hp
  rw [takes_iff hread hp]
  show (∀ entry ∈ p.nodeSelector, node.labels entry.1 = some entry.2.toString) ∧
    (∀ expression ∈ p.nodeSelectorExpressions,
      selects read expression.toString node.labels = true) ↔ _
  rw [hselector, hexpressions]
  have hnone : ∀ expression ∈ ([] : List Scalar),
      selects read expression.toString node.labels = true :=
    fun _ h => absurd h List.not_mem_nil
  cases p.hardware with
  | hgxHx00 => exact (and_iff_left hnone).trans (baseboard_selected hlabels .hopper)
  | hgxBx00 => exact (and_iff_left hnone).trans (baseboard_selected hlabels .blackwell)
  | pcieGpu =>
      exact and_congr (List.forall_mem_singleton.trans (gpu_label hlabels))
        (cards_selected hread hlabels)
  | gbx00 =>
      exact (and_iff_left hnone).trans
        (List.forall_mem_singleton.trans (generation_label hlabels .graceBlackwell))

/-! ## When classes contend -/

/-- The profiles a generation has of its own. -/
def Generation.hardware : Generation → Hardware
  | .hopper => .hgxHx00
  | .blackwell => .hgxBx00
  | .graceBlackwell => .gbx00

theorem generation_hardware_injective : Function.Injective Generation.hardware := by
  intro g g' h
  cases g <;> cases g' <;> first | rfl | cases h

/-- GPUs of one generation at most, among those there are profiles for. -/
def OneGeneration (devices : List PciDevice) : Prop :=
  ∀ dev ∈ devices, ∀ other ∈ devices, ∀ g g' : Generation,
    g.isOf dev = true → g'.isOf other = true → g = g'

/-- Beside an NVSwitch, the profiles of every generation there is select. -/
theorem present_of_generation {g : Generation} {switch dev : PciDevice}
    (hswitch : switch ∈ devices) (hnv : isNvSwitch switch = true) (hdev : dev ∈ devices)
    (hof : g.isOf dev = true) : g.hardware.Present devices := by
  cases g with
  | hopper => exact ⟨⟨dev, hdev, hof⟩, switch, hswitch, hnv⟩
  | blackwell => exact ⟨⟨dev, hdev, hof⟩, switch, hswitch, hnv⟩
  | graceBlackwell => exact ⟨dev, hdev, hof⟩

/-- The node has a GPU of the generation, and a switch unless it is a superchip. -/
def Generation.Shows (g : Generation) (devices : List PciDevice) : Prop :=
  (∃ dev ∈ devices, g.isOf dev = true) ∧
    (g = .graceBlackwell ∨ ∃ dev ∈ devices, isNvSwitch dev = true)

/-- A node of discrete cards has neither switch nor superchip, any other shows
the generation it is selected for. -/
theorem generation_of_present {hardware : Hardware} (h : hardware.Present devices) :
    (hardware = .pcieGpu ∧ ∀ g : Generation, ¬g.Shows devices) ∨
      ∃ g : Generation, hardware = g.hardware ∧ g.Shows devices := by
  cases hardware with
  | hgxHx00 => exact .inr ⟨.hopper, rfl, h.1, .inr h.2⟩
  | hgxBx00 => exact .inr ⟨.blackwell, rfl, h.1, .inr h.2⟩
  | gbx00 => exact .inr ⟨.graceBlackwell, rfl, h, .inl rfl⟩
  | pcieGpu =>
      obtain ⟨_, hnoSwitch, hnoC2c⟩ := h
      refine .inl ⟨rfl, fun g ⟨⟨dev, hdev, hof⟩, hg⟩ => ?_⟩
      rcases hg with rfl | ⟨switch, hswitch, hnv⟩
      · exact hnoC2c dev hdev (c2cRule_matched (Generation.rule_matched.mpr hof))
      · exact hnoSwitch switch hswitch hnv

theorem shows_unique {g g' : Generation}
    (hdevices : (∀ dev ∈ devices, isNvSwitch dev = false) ∨ OneGeneration devices)
    (h : g.Shows devices) (h' : g'.Shows devices) : g = g' := by
  obtain ⟨⟨dev, hdev, hof⟩, hg⟩ := h
  obtain ⟨⟨other, hother, hof'⟩, hg'⟩ := h'
  rcases hdevices with hnoSwitch | hone
  · have hnone : ¬∃ dev ∈ devices, isNvSwitch dev = true := by
      intro ⟨switch, hswitch, hnv⟩
      rw [hnoSwitch switch hswitch] at hnv
      cases hnv
    rw [hg.resolve_right hnone, hg'.resolve_right hnone]
  · exact hone dev hdev other hother g g' hof hof'

theorem present_unique {hardware other : Hardware}
    (hdevices : (∀ dev ∈ devices, isNvSwitch dev = false) ∨ OneGeneration devices)
    (h : hardware.Present devices) (h' : other.Present devices) : hardware = other := by
  rcases generation_of_present h with ⟨rfl, hnone⟩ | ⟨g, rfl, hg⟩
  · rcases generation_of_present h' with ⟨rfl, _⟩ | ⟨g', _, hg'⟩
    · rfl
    · exact absurd hg' (hnone g')
  · rcases generation_of_present h' with ⟨_, hnone⟩ | ⟨g', rfl, hg'⟩
    · exact absurd hg (hnone g)
    · rw [shows_unique hdevices hg hg']

theorem uncontended_iff_present (hread : Reads read) (hlabels : Labelled devices node.labels) :
    Uncontended lib read node ↔ ∀ hardware other : Hardware,
      hardware.Present devices → other.Present devices → hardware = other := by
  constructor
  · intro h hardware other hpresent hpresent'
    obtain ⟨hmem, heq⟩ := hardware_profile_mem hardware
    obtain ⟨hmem', heq'⟩ := hardware_profile_mem other
    have hsame := h _ hmem _ hmem'
    rw [takes_iff_present hread hlabels hmem, takes_iff_present hread hlabels hmem', heq, heq']
      at hsame
    exact hsame hpresent hpresent'
  · intro h p hp q hq htakes htakes'
    exact h _ _ ((takes_iff_present hread hlabels hp).mp htakes)
      ((takes_iff_present hread hlabels hq).mp htakes')

/-- The profiles of different hardware contend for a node only where it has an
NVSwitch beside GPUs of two generations. -/
theorem uncontended_iff (lib : Library) {read : String → Option (List Requirement)}
    (hread : Reads read) (devices : List PciDevice) (node : NodeObject)
    (hlabels : Labelled devices node.labels) :
    Uncontended lib read node ↔
      (∀ dev ∈ devices, isNvSwitch dev = false) ∨ OneGeneration devices := by
  rw [uncontended_iff_present hread hlabels]
  constructor
  · intro h
    by_cases hnoSwitch : ∀ dev ∈ devices, isNvSwitch dev = false
    · exact .inl hnoSwitch
    · obtain ⟨switch, hswitch, hnv⟩ : ∃ switch ∈ devices, isNvSwitch switch = true := by
        simpa using hnoSwitch
      refine .inr fun dev hdev other hother g g' hof hof' => ?_
      exact generation_hardware_injective (h _ _ (present_of_generation hswitch hnv hdev hof)
        (present_of_generation hswitch hnv hother hof'))
  · intro hdevices hardware other h h'
    exact present_unique hdevices h h'

/-- The smallest baseboard is taken by one class. -/
theorem uncontended_iff_baseboard :
    Uncontended fooLibrary Selector.read ⟨"node-a", featureLabels Bench.baseboard⟩ := by
  have hlabels : Labelled Bench.baseboard (featureLabels Bench.baseboard) := fun _ _ _ _ => rfl
  refine (uncontended_iff fooLibrary read_reads Bench.baseboard
    ⟨"node-a", featureLabels Bench.baseboard⟩ hlabels).mpr
    (.inr fun dev hdev other hother g g' hof hof' => ?_)
  have hgpu : ∀ dev ∈ Bench.baseboard, isGpu dev = true → dev = Bench.h100 "0000:65:00.0" := by
    decide
  rw [hgpu dev hdev (Bool.and_eq_true_iff.mp hof).1] at hof
  rw [hgpu other hother (Bool.and_eq_true_iff.mp hof').1] at hof'
  exact Generation.isOf_unique hof hof'

/-- A Blackwell baseboard with a discrete Hopper card added to it. -/
def mixedGenerations : List PciDevice :=
  [ Bench.device "0000:1b:00.0" 0x2901 0x030200 "B200"
  , Bench.device "0000:c1:00.0" 0x2331 0x030200 "H100 PCIe"
  , Bench.nvswitch "0000:06:00.0" ]

/-- The profiles of both generations take it. -/
theorem mixedGenerations_contended :
    Labelled mixedGenerations (featureLabels mixedGenerations) ∧
      ¬Uncontended fooLibrary Selector.read ⟨"node-a", featureLabels mixedGenerations⟩ := by
  have hlabels : Labelled mixedGenerations (featureLabels mixedGenerations) :=
    fun _ _ _ _ => rfl
  have hhopper : Hardware.Present mixedGenerations .hgxHx00 := by
    refine ⟨⟨_, .tail _ (.head _), ?_⟩, _, .tail _ (.tail _ (.head _)), ?_⟩ <;> decide
  have hblackwell : Hardware.Present mixedGenerations .hgxBx00 := by
    refine ⟨⟨_, .head _, ?_⟩, _, .tail _ (.tail _ (.head _)), ?_⟩ <;> decide
  refine ⟨hlabels, fun h => ?_⟩
  have hsame := (uncontended_iff_present read_reads hlabels).mp h _ _ hhopper hblackwell
  cases hsame

end KataDeviceProvisioner.Ports.Chart
