import KataDeviceProvisioner.Ports.Chart
import KataDeviceProvisioner.Verified.Lists
import KataDeviceProvisioner.Verified.Selector

/-!
# Which run provisions a node

The runs of a profile are made from its override modes on one way through the
templates, the per-node Jobs they name on another.  Both come to the same list
of modes, so every run finds the Job it names, and the selectors of the runs
share out the nodes the profile selects (`provisioning_partition`).

How the API server reads a selector is a parameter, of which `Selector.Reads` is
all that is asked.
-/

namespace KataDeviceProvisioner.Ports.Chart

open KataDeviceProvisioner.Verified KataDeviceProvisioner.Verified.Sprig
open KataDeviceProvisioner.Verified.Selector

variable {lib : Library} {root : Root} {values : Values}

/-! ## Modes through text -/

theorem normalizeMode_ok {mode : Scalar} {field s : String}
    (h : normalizeMode mode field = .ok s) : s ∈ modes := by
  unfold normalizeMode at h
  by_cases hmem : spelledMode mode ∈ modes
  · rw [if_pos hmem] at h
    rw [← Except.ok.inj h]
    exact hmem
  · rw [if_neg hmem] at h
    cases h

/-- A mode comes through a comma-joined list, and is a label's value. -/
theorem mode_text {s : String} (h : s ∈ modes) :
    s ≠ "" ∧ ',' ∉ s.toList ∧ validValue s = true := by
  have hall : ∀ s ∈ modes, s ≠ "" ∧ ',' ∉ s.toList ∧ validValue s = true := by
    decide +kernel
  exact hall s h

theorem compact_splitList_modes {xs : List String} (h : ∀ x ∈ xs, x ∈ modes) :
    compact (splitList ',' (join "," xs)) = xs :=
  compact_splitList_join (fun x hx => (mode_text (h x hx)).2.1) fun x hx => (mode_text (h x hx)).1

/-- The override modes, as they are spelled after normalising. -/
def Normalized (values : Values) (overrides : List String) : Prop :=
  (values.ccModeOverrides.mapM fun mode => normalizeMode mode "ccModeOverrides") = .ok overrides

theorem Normalized.modes {overrides : List String} (h : Normalized values overrides) :
    ∀ mode ∈ overrides, mode ∈ Chart.modes := by
  intro mode hmode
  obtain ⟨given, _, hgiven⟩ := forall₂_of_mem_right (mapM_eq_ok_iff.mp h) hmode
  exact normalizeMode_ok hgiven

theorem overrideModes_ok {s : String} (h : overrideModes values = .ok s) :
    ∃ overrides, Normalized values overrides ∧ (overrides = [] ∨ values.job.nodes = []) ∧
      s = join "," (uniq overrides) := by
  obtain ⟨overrides, hmodes, hrest⟩ := bind_eq_ok_iff.mp h
  refine ⟨overrides, hmodes, ?_⟩
  by_cases hboth : (!overrides.isEmpty && !values.job.nodes.isEmpty) = true
  · rw [if_pos hboth] at hrest
    cases hrest
  · rw [if_neg hboth] at hrest
    refine ⟨?_, (Except.ok.inj hrest).symm⟩
    simpa [imp_iff_not_or] using hboth

theorem overrideModes_eq {overrides : List String} (hmodes : Normalized values overrides)
    (hor : overrides = [] ∨ values.job.nodes = []) :
    overrideModes values = .ok (join "," (uniq overrides)) := by
  refine bind_eq_ok_iff.mpr ⟨overrides, hmodes, ?_⟩
  rw [if_neg]
  · rfl
  · rcases hor with rfl | hnodes
    · simp
    · simp [hnodes]

theorem ccMode_ok {mode : String} (h : ccMode values = .ok mode) : mode ∈ modes :=
  normalizeMode_ok h

/-- The runs of a profile: one for the rest, and one for each override. -/
def runList (values : Values) (mode : String) (overrides : List String) : List Run :=
  defaultRun values mode (uniq overrides) :: (uniq overrides).map (overrideRun values)

theorem runs_ok {rs : List Run} (h : runs values = .ok rs) :
    ∃ mode overrides, ccMode values = .ok mode ∧ Normalized values overrides ∧
      (overrides = [] ∨ values.job.nodes = []) ∧ rs = runList values mode overrides := by
  obtain ⟨s, hs, hrest⟩ := bind_eq_ok_iff.mp h
  obtain ⟨overrides, hmodes, hor, rfl⟩ := overrideModes_ok hs
  obtain ⟨mode, hmode, hret⟩ := bind_eq_ok_iff.mp hrest
  rw [compact_splitList_modes fun m hm => hmodes.modes m (mem_uniq.mp hm)] at hret
  exact ⟨mode, overrides, hmode, hmodes, hor, (Except.ok.inj hret).symm⟩

theorem runs_eq {mode : String} {overrides : List String} (hmode : ccMode values = .ok mode)
    (hmodes : Normalized values overrides) (hor : overrides = [] ∨ values.job.nodes = []) :
    runs values = .ok (runList values mode overrides) := by
  refine bind_eq_ok_iff.mpr ⟨_, overrideModes_eq hmodes hor,
    bind_eq_ok_iff.mpr ⟨mode, hmode, ?_⟩⟩
  rw [compact_splitList_modes fun m hm => hmodes.modes m (mem_uniq.mp hm)]
  rfl

/-- Every mode there is a Job for. -/
def jobModes (mode : String) (overrides : List String) : List String :=
  uniq (mode :: uniq overrides)

theorem allModes_eq {mode : String} {overrides : List String} (hmode : ccMode values = .ok mode)
    (hmodes : Normalized values overrides) (hor : overrides = [] ∨ values.job.nodes = []) :
    allModes values = .ok (join "," (jobModes mode overrides)) := by
  refine bind_eq_ok_iff.mpr ⟨mode, hmode,
    bind_eq_ok_iff.mpr ⟨_, overrideModes_eq hmodes hor, ?_⟩⟩
  rw [compact_splitList_modes fun m hm => hmodes.modes m (mem_uniq.mp hm)]
  rfl

/-! ## The templates -/

/-- The Job of a mode is told the mode. -/
theorem perNodeJob_ok {stage : Stage} {job : PerNodeJob} (h : perNodeJob values stage = .ok job) :
    job.command = ["/kata-device-provisioner"] ++ stage.arguments ++ ["--host-root=/host"] := by
  unfold perNodeJob at h
  by_cases httl : values.job.ttlSecondsAfterFinished < 60
  · rw [if_pos httl] at h
    cases h
  · rw [if_neg httl] at h
    obtain ⟨image, _, hret⟩ := bind_eq_ok_iff.mp h
    rw [← Except.ok.inj hret]

theorem provisionJobKey_injective : Function.Injective provisionJobKey := by
  intro a b h
  unfold provisionJobKey at h
  refine append_between_inj "provision-job-" ".yaml" ?_
  simpa only [String.append_assoc] using h

theorem unprovision_ne_provisionJobKey (mode : String) :
    "unprovision-job.yaml" ≠ provisionJobKey mode := by
  intro h
  unfold provisionJobKey at h
  have hhead := congrArg (fun s : String => s.toList.head?) h
  simp at hhead

/-- A Job for each mode, under keys that are all different. -/
theorem jobTemplates_ok {templates : ConfigMap} {mode : String} {overrides : List String}
    (hmode : ccMode root.values = .ok mode) (hmodes : Normalized root.values overrides)
    (hor : overrides = [] ∨ root.values.job.nodes = [])
    (h : jobTemplatesForProfile lib root = .ok templates) :
    templates.name = profileResourceName lib root.profileName "job-templates" ∧
      (templates.data.map (·.1)).Nodup ∧
      ∀ m ∈ jobModes mode overrides, ∃ job, (provisionJobKey m, job) ∈ templates.data ∧
        perNodeJob root.values (.provision m) = .ok job := by
  obtain ⟨all, hall, hrest⟩ := bind_eq_ok_iff.mp h
  rw [allModes_eq hmode hmodes hor] at hall
  obtain rfl := Except.ok.inj hall
  obtain ⟨provision, hprovision, hrest'⟩ := bind_eq_ok_iff.mp hrest
  obtain ⟨unprovision, _, hret⟩ := bind_eq_ok_iff.mp hrest'
  have hjobModes : ∀ m ∈ jobModes mode overrides, m ∈ modes := by
    intro m hm
    rcases List.mem_cons.mp (mem_uniq.mp hm) with rfl | hm
    · exact ccMode_ok hmode
    · exact hmodes.modes m (mem_uniq.mp hm)
  rw [compact_splitList_modes hjobModes, mapM_eq_ok_iff] at hprovision
  have hentry : List.Forall₂ (fun m entry => entry.1 = provisionJobKey m ∧
      perNodeJob root.values (.provision m) = .ok entry.2) (jobModes mode overrides) provision := by
    refine hprovision.imp fun m entry hm => ?_
    obtain ⟨job, hjob, hpair⟩ := bind_eq_ok_iff.mp hm
    rw [← Except.ok.inj hpair]
    exact ⟨rfl, hjob⟩
  have hdata : templates.data = provision ++ [("unprovision-job.yaml", unprovision)] := by
    rw [← Except.ok.inj hret]
  have hname : templates.name = profileResourceName lib root.profileName "job-templates" := by
    rw [← Except.ok.inj hret]
  have hfront : provision.map (·.1) = (jobModes mode overrides).map provisionJobKey :=
    forall₂_map (List.forall₂_map_right_iff.mpr (hentry.imp fun _ _ h => h.1))
  have hkeys : templates.data.map (·.1) =
      (jobModes mode overrides).map provisionJobKey ++ ["unprovision-job.yaml"] := by
    rw [hdata, List.map_append, hfront]
    rfl
  refine ⟨hname, ?_, fun m hm => ?_⟩
  · rw [hkeys, List.nodup_append]
    refine ⟨(nodup_uniq _).map provisionJobKey_injective, List.nodup_singleton _, ?_⟩
    intro key hkey other hother heq
    obtain ⟨m, _, rfl⟩ := List.mem_map.mp hkey
    rw [List.mem_singleton.mp hother] at heq
    exact unprovision_ne_provisionJobKey m heq.symm
  · obtain ⟨entry, hmem, hkey, hjob⟩ := forall₂_of_mem_left hentry hm
    refine ⟨entry.2, ?_, hjob⟩
    rw [hdata, ← hkey]
    exact List.mem_append_left _ hmem

/-! ## Selection -/

structure NodeObject where
  name : String
  labels : Labels

/-- Whether a dispatcher works on a node: one it was named, or one its selector
takes, or any. -/
def Dispatcher.takes (read : String → Option (List Requirement)) (d : Dispatcher)
    (node : NodeObject) : Bool :=
  match d.nodes, d.nodeSelector with
  | some names, _ => decide (node.name ∈ splitList ',' names)
  | none, some selector => selects read selector node.labels
  | none, none => true

/-- Values the API server accepts as what they are: labels and their values,
selector expressions, node names. -/
structure WellFormed (read : String → Option (List Requirement)) (values : Values) : Prop where
  label : validKey values.ccModeLabel = true
  selector : ∀ entry ∈ values.nodeSelector,
    validKey entry.1 = true ∧ validValue entry.2.toString = true
  expressions : ∀ expression ∈ values.nodeSelectorExpressions,
    ∃ rs, read expression.toString = some rs ∧ rs ≠ []
  nodes : ∀ name ∈ values.job.nodes, validPrefix name.toList = true

/-- A node the profile selects, whatever its mode. -/
def BaseMatches (read : String → Option (List Requirement)) (values : Values)
    (labels : Labels) : Prop :=
  (∀ entry ∈ values.nodeSelector, labels entry.1 = some entry.2.toString) ∧
    ∀ expression ∈ values.nodeSelectorExpressions,
      selects read expression.toString labels = true

section Takes

variable {read : String → Option (List Requirement)} (hread : Reads read)
  (hwf : WellFormed read root.values) {image : String} {node : NodeObject}

include hread hwf

theorem nodeSelector_selects {extra : String}
    (hextra : extra = "" ∨ ∃ rs, read extra = some rs ∧ rs ≠ []) :
    selects read (nodeSelector root.values extra) node.labels = true ↔
      BaseMatches read root.values node.labels ∧
        (extra = "" ∨ selects read extra node.labels = true) := by
  have hequal : ∀ entry ∈ root.values.nodeSelector,
      read (entry.1 ++ "=" ++ entry.2.toString) = some [⟨entry.1, .isIn, [entry.2.toString]⟩] := by
    intro entry hentry
    obtain ⟨hkey, hvalue⟩ := hwf.selector entry hentry
    exact hread.equal _ _ hkey hvalue
  have hextras : ∀ term ∈ (if extra = "" then [] else [extra]),
      ∃ rs, read term = some rs ∧ rs ≠ [] := by
    intro term hterm
    by_cases hempty : extra = ""
    · rw [if_pos hempty] at hterm
      cases hterm
    · rw [if_neg hempty] at hterm
      rw [List.mem_singleton.mp hterm]
      exact hextra.resolve_left hempty
  have hterms : ∀ term ∈ (root.values.nodeSelector.map fun entry =>
      entry.1 ++ "=" ++ entry.2.toString) ++
        root.values.nodeSelectorExpressions.map Scalar.toString ++
          (if extra = "" then [] else [extra]), ∃ rs, read term = some rs ∧ rs ≠ [] := by
    rw [List.forall_mem_append, List.forall_mem_append, List.forall_mem_map, List.forall_mem_map]
    refine ⟨⟨fun entry hentry => ?_, hwf.expressions⟩, hextras⟩
    exact ⟨_, hequal entry hentry, List.cons_ne_nil _ _⟩
  unfold nodeSelector join
  rw [hread.selects_intercalate hterms, List.forall_mem_append, List.forall_mem_append,
    List.forall_mem_map, List.forall_mem_map]
  refine and_congr (and_congr ?_ Iff.rfl) ?_
  · refine forall₂_congr fun entry hentry => ?_
    rw [selects_iff (hequal entry hentry), meets_singleton, holds_isIn]
  · by_cases hempty : extra = ""
    · simp [hempty]
    · simp [hempty]

/-- Without named nodes a dispatcher goes by the profile's selection and what its
run adds to it. -/
theorem dispatcher_takes {run : Run} (hnodes : root.values.job.nodes = [])
    (hextra : run.extra = "" ∨ ∃ rs, read run.extra = some rs ∧ rs ≠ []) :
    (dispatcher lib root image run).takes read node = true ↔
      BaseMatches read root.values node.labels ∧
        (run.extra = "" ∨ selects read run.extra node.labels = true) := by
  rw [← nodeSelector_selects hread hwf hextra]
  have hnamed : (dispatcher lib root image run).nodes = none := by
    simp [dispatcher, hnodes]
  unfold Dispatcher.takes
  rw [hnamed]
  by_cases hempty : nodeSelector root.values run.extra = ""
  · have hselector : (dispatcher lib root image run).nodeSelector = none := by
      simp [dispatcher, hempty]
    rw [hselector, hempty, selects_iff hread.empty]
    simp
  · have hselector : (dispatcher lib root image run).nodeSelector =
        some (nodeSelector root.values run.extra) := by
      simp [dispatcher, hempty, hnodes]
    rw [hselector]

variable {mode : String} {overrides : List String} (hmodes : Normalized root.values overrides)
  (hnodes : root.values.job.nodes = [])

include hmodes hnodes

/-- The run for the rest takes what asks for none of the override modes. -/
theorem defaultRun_takes :
    (dispatcher lib root image (defaultRun root.values mode (uniq overrides))).takes read node =
        true ↔
      BaseMatches read root.values node.labels ∧
        ∀ m ∈ overrides, node.labels root.values.ccModeLabel ≠ some m := by
  by_cases hempty : overrides = []
  · subst hempty
    rw [dispatcher_takes hread hwf hnodes (.inl rfl)]
    refine and_congr_right fun _ => ?_
    simp [defaultRun, uniq]
  · have hne : uniq overrides ≠ [] := by
      obtain ⟨m, hm⟩ := List.exists_mem_of_ne_nil overrides hempty
      exact List.ne_nil_of_mem (mem_uniq.mpr hm)
    have hreads : read (defaultRun root.values mode (uniq overrides)).extra =
        some [⟨root.values.ccModeLabel, .notIn, uniq overrides⟩] := by
      have hextra : (defaultRun root.values mode (uniq overrides)).extra =
          root.values.ccModeLabel ++ " notin (" ++ join "," (uniq overrides) ++ ")" := by
        simp [defaultRun, hne]
      rw [hextra]
      refine hread.notIn _ _ hwf.label hne fun m hm => ?_
      obtain ⟨hmne, _, hvalid⟩ := mode_text (hmodes.modes m (mem_uniq.mp hm))
      exact ⟨hvalid, hmne⟩
    have hextra : (defaultRun root.values mode (uniq overrides)).extra ≠ "" := by
      intro h
      rw [h, hread.empty] at hreads
      cases hreads
    rw [dispatcher_takes hread hwf hnodes (.inr ⟨_, hreads, List.cons_ne_nil _ _⟩),
      selects_iff hreads, meets_singleton, holds_notIn, or_iff_right hextra]
    simp only [mem_uniq]

/-- The run of an override mode takes what asks for it. -/
theorem overrideRun_takes {m : String} (hm : m ∈ overrides) :
    (dispatcher lib root image (overrideRun root.values m)).takes read node = true ↔
      BaseMatches read root.values node.labels ∧
        node.labels root.values.ccModeLabel = some m := by
  have hreads : read (overrideRun root.values m).extra =
      some [⟨root.values.ccModeLabel, .isIn, [m]⟩] :=
    hread.equal _ _ hwf.label (mode_text (hmodes.modes m hm)).2.2
  have hextra : (overrideRun root.values m).extra ≠ "" := by
    intro h
    rw [h, hread.empty] at hreads
    cases hreads
  rw [dispatcher_takes hread hwf hnodes (.inr ⟨_, hreads, List.cons_ne_nil _ _⟩),
    selects_iff hreads, meets_singleton, holds_isIn, or_iff_right hextra]

/-- The mode a node is to be put into: what its label asks for, where that is an
override mode. -/
def requested (values : Values) (mode : String) (overrides : List String) (labels : Labels) :
    String :=
  match labels values.ccModeLabel with
  | some value => if value ∈ overrides then value else mode
  | none => mode

/-- One run takes a node the profile selects, and it is the run of the mode the
node is to be put into. -/
theorem takes_exactly_one (hbase : BaseMatches read root.values node.labels) :
    ∃ run, (runList root.values mode overrides).filter (fun run =>
        (dispatcher lib root image run).takes read node) = [run] ∧
      run.ccMode = requested root.values mode overrides node.labels := by
  by_cases hasked : ∃ value ∈ overrides, node.labels root.values.ccModeLabel = some value
  · obtain ⟨value, hvalue, hlabel⟩ := hasked
    refine ⟨overrideRun root.values value, ?_, ?_⟩
    · have hdefault : ¬(dispatcher lib root image
          (defaultRun root.values mode (uniq overrides))).takes read node = true := by
        rw [defaultRun_takes hread hwf hmodes hnodes]
        exact fun h => h.2 value hvalue hlabel
      have hone : (uniq overrides).filter (fun m =>
          (dispatcher lib root image (overrideRun root.values m)).takes read node) = [value] := by
        refine filter_eq_singleton (nodup_uniq _) (mem_uniq.mpr hvalue) fun m hm => ?_
        rw [overrideRun_takes hread hwf hmodes hnodes (mem_uniq.mp hm), hlabel]
        exact ⟨fun h => (Option.some.inj h.2).symm, fun h => ⟨hbase, by rw [h]⟩⟩
      rw [runList, List.filter_cons_of_neg
        (p := fun run => (dispatcher lib root image run).takes read node) hdefault, List.filter_map]
      exact congrArg (List.map (overrideRun root.values)) hone
    · simp [requested, hlabel, hvalue, overrideRun]
  · have hother : ∀ m ∈ overrides, node.labels root.values.ccModeLabel ≠ some m :=
      fun m hm hlabel => hasked ⟨m, hm, hlabel⟩
    refine ⟨defaultRun root.values mode (uniq overrides), ?_, ?_⟩
    · have hdefault : (dispatcher lib root image
          (defaultRun root.values mode (uniq overrides))).takes read node = true :=
        (defaultRun_takes hread hwf hmodes hnodes).mpr ⟨hbase, hother⟩
      rw [runList, List.filter_cons_of_pos
        (p := fun run => (dispatcher lib root image run).takes read node) hdefault,
        List.filter_eq_nil_iff.mpr]
      intro run hrun
      obtain ⟨m, hm, rfl⟩ := List.mem_map.mp hrun
      rw [overrideRun_takes hread hwf hmodes hnodes (mem_uniq.mp hm)]
      exact fun h => hother m (mem_uniq.mp hm) h.2
    · unfold requested
      cases hlabel : node.labels root.values.ccModeLabel with
      | none => rfl
      | some value =>
          have hnot : value ∉ overrides := fun hvalue => hother value hvalue hlabel
          simp [hnot, defaultRun]

/-- No run takes any other node. -/
theorem takes_none (hbase : ¬BaseMatches read root.values node.labels) :
    (runList root.values mode overrides).filter (fun run =>
      (dispatcher lib root image run).takes read node) = [] := by
  rw [List.filter_eq_nil_iff]
  intro run hrun htakes
  rcases List.mem_cons.mp hrun with rfl | hrun
  · exact hbase ((defaultRun_takes hread hwf hmodes hnodes).mp htakes).1
  · obtain ⟨m, hm, rfl⟩ := List.mem_map.mp hrun
    exact hbase ((overrideRun_takes hread hwf hmodes hnodes (mem_uniq.mp hm)).mp htakes).1

end Takes

/-- A dispatcher that was named its nodes takes those. -/
theorem named_takes {read : String → Option (List Requirement)} (hwf : WellFormed read root.values)
    {image : String} {run : Run} (hnodes : root.values.job.nodes ≠ []) (node : NodeObject) :
    (dispatcher lib root image run).takes read node = true ↔
      node.name ∈ root.values.job.nodes := by
  have hcomma : ∀ name ∈ root.values.job.nodes, ',' ∉ name.toList := by
    intro name hname hmem
    exact validPrefix_spec (hwf.nodes name hname) ',' hmem (by decide)
  have hnamed : (dispatcher lib root image run).nodes =
      some (join "," root.values.job.nodes) := by
    simp [dispatcher, hnodes]
  unfold Dispatcher.takes
  rw [hnamed]
  show decide (node.name ∈ splitList ',' (join "," root.values.job.nodes)) = true ↔ _
  rw [splitList_join hcomma hnodes, decide_eq_true_iff]

/-! ## Rendering -/

theorem dispatchers_ok {ds : List Dispatcher} (h : dispatchersForProfile lib root = .ok ds) :
    ∃ mode overrides templates image, ccMode root.values = .ok mode ∧
      Normalized root.values overrides ∧ (overrides = [] ∨ root.values.job.nodes = []) ∧
      jobTemplatesForProfile lib root = .ok templates ∧
      ds = (runList root.values mode overrides).map (dispatcher lib root image) := by
  obtain ⟨rs, hrs, hmap⟩ := bind_eq_ok_iff.mp h
  obtain ⟨mode, overrides, hmode, hmodes, hor, rfl⟩ := runs_ok hrs
  have hall := mapM_eq_ok_iff.mp hmap
  have hrun : ∀ {run : Run} {d : Dispatcher}, dispatcherFor lib root run = .ok d →
      ∃ templates image, jobTemplatesForProfile lib root = .ok templates ∧
        dispatcherImage root.values = .ok image ∧ d = dispatcher lib root image run := by
    intro run d hd
    obtain ⟨templates, htemplates, hrest⟩ := bind_eq_ok_iff.mp hd
    obtain ⟨image, himage, hret⟩ := bind_eq_ok_iff.mp hrest
    exact ⟨templates, image, htemplates, himage, (Except.ok.inj hret).symm⟩
  obtain ⟨first, _, hfirst⟩ := forall₂_of_mem_left hall List.mem_cons_self
  obtain ⟨templates, image, htemplates, himage, _⟩ := hrun hfirst
  refine ⟨mode, overrides, templates, image, hmode, hmodes, hor, htemplates, ?_⟩
  refine forall₂_map (hall.imp fun run d hd => ?_)
  obtain ⟨_, image', _, himage', rfl⟩ := hrun hd
  rw [himage] at himage'
  rw [Except.ok.inj himage']

/-- An image that is pinned by a digest or comes with a tag. -/
def Tagged (image : Image) (default : String) : Prop :=
  '@' ∈ image.reference.toList ∨ orDefault image.tag default ≠ ""

theorem imageRef_total {image : Image} {key default : String} (h : Tagged image default) :
    ∃ ref, imageRef image key default = .ok ref := by
  unfold imageRef
  by_cases hdigest : '@' ∈ image.reference.toList
  · rw [if_pos hdigest]
    exact ⟨_, rfl⟩
  · rw [if_neg hdigest, if_neg (h.resolve_left hdigest)]
    exact ⟨_, rfl⟩

/-- What has to be right for a profile's runs to be rendered. -/
structure Renderable (values : Values) : Prop where
  mode : spelledMode values.ccMode ∈ modes
  overrides : ∀ mode ∈ values.ccModeOverrides, spelledMode mode ∈ modes
  named : values.ccModeOverrides = [] ∨ values.job.nodes = []
  ttl : 60 ≤ values.job.ttlSecondsAfterFinished
  image : Tagged values.image appVersion
  dispatcherImage : Tagged values.job.dispatcherImage ""

theorem normalizeMode_total {mode : Scalar} {field : String} (h : spelledMode mode ∈ modes) :
    normalizeMode mode field = .ok (spelledMode mode) :=
  if_pos h

theorem perNodeJob_total (h : Renderable values) (stage : Stage) :
    ∃ job, perNodeJob values stage = .ok job := by
  have hlong := h.ttl
  obtain ⟨ref, himage⟩ : ∃ ref, image values = .ok ref := imageRef_total h.image
  unfold perNodeJob
  rw [if_neg (by omega), himage]
  exact ⟨_, rfl⟩

/-- Nothing else keeps the runs of a profile from being rendered. -/
theorem rendered_of_renderable (h : Renderable root.values) :
    ∃ ds, dispatchersForProfile lib root = .ok ds := by
  have hmodes : Normalized root.values (root.values.ccModeOverrides.map spelledMode) := by
    refine mapM_eq_ok_iff.mpr (List.forall₂_map_right_iff.mpr (List.forall₂_same.mpr ?_))
    exact fun mode hmode => normalizeMode_total (h.overrides mode hmode)
  have hor : root.values.ccModeOverrides.map spelledMode = [] ∨ root.values.job.nodes = [] :=
    h.named.imp_left fun hnil => by rw [hnil]; rfl
  have hmode : ccMode root.values = .ok (spelledMode root.values.ccMode) :=
    normalizeMode_total h.mode
  have htemplates : ∃ templates, jobTemplatesForProfile lib root = .ok templates := by
    obtain ⟨unprovision, hunprovision⟩ := perNodeJob_total h .unprovision
    obtain ⟨provision, hprovision⟩ := mapM_total
      (fun m => do return (provisionJobKey m, ← perNodeJob root.values (.provision m)))
      (compact (splitList ',' (join "," (jobModes (spelledMode root.values.ccMode)
        (root.values.ccModeOverrides.map spelledMode)))))
      fun m _ => by
        obtain ⟨job, hjob⟩ := perNodeJob_total h (.provision m)
        exact ⟨_, bind_eq_ok_iff.mpr ⟨job, hjob, rfl⟩⟩
    exact ⟨_, bind_eq_ok_iff.mpr ⟨_, allModes_eq hmode hmodes hor, bind_eq_ok_iff.mpr
      ⟨provision, hprovision, bind_eq_ok_iff.mpr ⟨unprovision, hunprovision, rfl⟩⟩⟩⟩
  obtain ⟨templates, htemplates⟩ := htemplates
  obtain ⟨ref, himage⟩ : ∃ ref, dispatcherImage root.values = .ok ref :=
    imageRef_total h.dispatcherImage
  obtain ⟨ds, hds⟩ := mapM_total (dispatcherFor lib root)
    (runList root.values (spelledMode root.values.ccMode)
      (root.values.ccModeOverrides.map spelledMode))
    fun run _ => ⟨dispatcher lib root ref run,
      bind_eq_ok_iff.mpr ⟨templates, htemplates, bind_eq_ok_iff.mpr ⟨ref, himage, rfl⟩⟩⟩
  exact ⟨ds, bind_eq_ok_iff.mpr ⟨_, runs_eq hmode hmodes hor, hds⟩⟩

/-! ## The runs of a profile -/

/-- What the rendered runs of a profile do, with the mode and the override modes
its values come to and the Jobs rendered beside them. -/
structure Provisioned (read : String → Option (List Requirement)) (values : Values)
    (mode : String) (overrides : List String) (templates : ConfigMap)
    (ds : List Dispatcher) : Prop where
  suffixes : (ds.map fun d => d.run.suffix).Nodup
  /-- A run names a Job by a key that is there once, and that Job is told the
  mode of the run. -/
  templates : ∀ d ∈ ds, d.jobTemplates = templates.name ∧
    ∃ job, (templates.data.filter fun entry =>
        jobTemplateDir ++ entry.1 == d.jobTemplate) = [(provisionJobKey d.run.ccMode, job)] ∧
      job.command = ["/kata-device-provisioner", "apply", "--mode=" ++ d.run.ccMode,
        "--host-root=/host"]
  selected : values.job.nodes = [] → ∀ node, BaseMatches read values node.labels →
    ∃ d, ds.filter (fun d => d.takes read node) = [d] ∧
      d.run.ccMode = requested values mode overrides node.labels
  others : values.job.nodes = [] → ∀ node, ¬BaseMatches read values node.labels →
    ds.filter (fun d => d.takes read node) = []
  named : values.job.nodes ≠ [] →
    ∃ d, ds = [d] ∧ ∀ node, d.takes read node = true ↔ node.name ∈ values.job.nodes

section Fields

variable (lib : Library) (root : Root) (image : String) (run : Run)

@[simp] theorem dispatcher_run : (dispatcher lib root image run).run = run := rfl

@[simp] theorem dispatcher_jobTemplates : (dispatcher lib root image run).jobTemplates =
    profileResourceName lib root.profileName "job-templates" := by
  simp only [dispatcher]

@[simp] theorem dispatcher_jobTemplate : (dispatcher lib root image run).jobTemplate =
    jobTemplateDir ++ provisionJobKey run.ccMode := by
  simp only [dispatcher]

@[simp] theorem dispatcher_nodeLabel : (dispatcher lib root image run).nodeLabel =
    run.ccMode := rfl

@[simp] theorem dispatcher_extraNodeLabel : (dispatcher lib root image run).extraNodeLabel =
    root.values.ccModeReadyLabel ++ "=" ++ (if run.ccMode ≠ "off" then "true" else "false") := by
  simp only [dispatcher]

end Fields

/-- A key is there once, and is the one its path names. -/
theorem filter_key {data : List (String × PerNodeJob)} {key : String} {job : PerNodeJob}
    (hkeys : (data.map (·.1)).Nodup) (hmem : (key, job) ∈ data) :
    data.filter (fun entry => jobTemplateDir ++ entry.1 == jobTemplateDir ++ key) =
      [(key, job)] := by
  refine filter_eq_singleton hkeys.of_map hmem fun entry hentry => ?_
  rw [beq_iff_eq]
  constructor
  · intro heq
    have hkey : entry.1 = key := append_between_inj jobTemplateDir "" (by simpa using heq)
    exact List.inj_on_of_nodup_map hkeys hentry hmem hkey
  · intro heq
    rw [heq]

theorem suffixes_nodup (values : Values) (mode : String) (overrides : List String) :
    ((runList values mode overrides).map (·.suffix)).Nodup := by
  rw [runList, List.map_cons, List.map_map, List.nodup_cons]
  constructor
  · intro hmem
    obtain ⟨m, _, hm⟩ := List.mem_map.mp hmem
    have hlength := congrArg String.length hm
    simp [overrideRun, defaultRun] at hlength
  · refine (nodup_uniq overrides).map fun a b hab => ?_
    exact append_between_inj "-" "" (by simpa [overrideRun] using hab)

theorem runList_jobModes {mode : String} {overrides : List String} {run : Run}
    (h : run ∈ runList values mode overrides) : run.ccMode ∈ jobModes mode overrides := by
  rw [jobModes, mem_uniq]
  rcases List.mem_cons.mp h with rfl | h
  · exact List.mem_cons_self
  · obtain ⟨m, hm, rfl⟩ := List.mem_map.mp h
    exact List.mem_cons_of_mem _ hm

/-- The runs of a profile share out the nodes it selects, or take the nodes it
names. -/
theorem provisioning_partition (lib : Library) (root : Root)
    {read : String → Option (List Requirement)} (hread : Reads read)
    (hwf : WellFormed read root.values) :
    (∀ ds, dispatchersForProfile lib root = .ok ds → ∃ mode overrides templates,
      ccMode root.values = .ok mode ∧ Normalized root.values overrides ∧
      jobTemplatesForProfile lib root = .ok templates ∧
      Provisioned read root.values mode overrides templates ds) ∧
    (Renderable root.values → ∃ ds, dispatchersForProfile lib root = .ok ds) := by
  refine ⟨fun ds hds => ?_, rendered_of_renderable⟩
  obtain ⟨mode, overrides, templates, image, hmode, hmodes, hor, htemplates, rfl⟩ :=
    dispatchers_ok hds
  refine ⟨mode, overrides, templates, hmode, hmodes, htemplates, ?_⟩
  obtain ⟨hname, hkeys, hjobs⟩ := jobTemplates_ok hmode hmodes hor htemplates
  exact
    { suffixes := by
        rw [List.map_map]
        exact suffixes_nodup root.values mode overrides
      templates := by
        intro d hd
        obtain ⟨run, hrun, rfl⟩ := List.mem_map.mp hd
        obtain ⟨job, hmem, hjob⟩ := hjobs run.ccMode (runList_jobModes hrun)
        rw [dispatcher_run, dispatcher_jobTemplates, dispatcher_jobTemplate]
        exact ⟨hname.symm, job, filter_key hkeys hmem, perNodeJob_ok hjob⟩
      selected := by
        intro hnodes node hbase
        obtain ⟨run, hone, hrun⟩ : ∃ run, (runList root.values mode overrides).filter (fun run =>
            (dispatcher lib root image run).takes read node) = [run] ∧
              run.ccMode = requested root.values mode overrides node.labels :=
          takes_exactly_one hread hwf hmodes hnodes hbase
        refine ⟨dispatcher lib root image run, ?_, hrun⟩
        rw [List.filter_map]
        exact congrArg (List.map (dispatcher lib root image)) hone
      others := by
        intro hnodes node hbase
        rw [List.filter_map]
        exact congrArg (List.map (dispatcher lib root image))
          (takes_none hread hwf hmodes hnodes hbase)
      named := by
        intro hnodes
        obtain rfl := hor.resolve_right hnodes
        exact ⟨_, rfl, named_takes hwf hnodes⟩ }

/-- Discrete cards with confidential computing on, except where a node's label
asks for it to be off or left to developers. -/
def fleet : Root where
  profileName := "foo-1cbec737"
  values :=
    { ccMode := .bool true
      ccModeOverrides := [.bool false, .string "devtools", .string "off"]
      ccModeLabel := "nvidia.com/cc.mode"
      ccModeStateLabel := "nvidia.com/cc.mode.state"
      ccModeReadyLabel := "nvidia.com/cc.ready.state"
      nodeSelector := [("kata.feature.node.kubernetes.io/nvidia-gpu", .string "true")]
      nodeSelectorExpressions := [.string "!kata.feature.node.kubernetes.io/nvidia-nvswitch"]
      image :=
        { reference := "ghcr.io/kata-containers/kata-device-provisioner"
          tag := .string "" }
      job :=
        { nodes := []
          ttlSecondsAfterFinished := 300
          parallelism := 10
          waitForNodesSeconds := 300
          nodeSettleSeconds := 15
          waitNodeReadySeconds := 300
          dispatcherImage :=
            { reference := "ghcr.io/kata-containers/k8s-job-dispatcher"
              tag := .string "0.4.0" } } }

theorem fleet_wellFormed : WellFormed read fleet.values where
  label := by decide +kernel
  selector := by decide +kernel
  expressions := by
    intro expression hexpression
    rw [List.mem_singleton.mp hexpression]
    exact ⟨_, read_absent "kata.feature.node.kubernetes.io/nvidia-nvswitch" (by decide +kernel),
      List.cons_ne_nil _ _⟩
  nodes := by
    intro name hname
    cases hname

theorem fleet_renderable : Renderable fleet.values where
  mode := by decide
  overrides := by decide
  named := .inr rfl
  ttl := by decide
  image := .inr (by decide)
  dispatcherImage := .inr (by decide)

theorem provisioning_partition_fleet :
    ∃ ds mode overrides templates, dispatchersForProfile fooLibrary fleet = .ok ds ∧
      ccMode fleet.values = .ok mode ∧ Normalized fleet.values overrides ∧
      jobTemplatesForProfile fooLibrary fleet = .ok templates ∧
      Provisioned read fleet.values mode overrides templates ds := by
  obtain ⟨hpartition, hrendered⟩ := provisioning_partition fooLibrary fleet read_reads
    fleet_wellFormed
  obtain ⟨ds, hds⟩ := hrendered fleet_renderable
  obtain ⟨mode, overrides, templates, hrest⟩ := hpartition ds hds
  exact ⟨ds, mode, overrides, templates, hds, hrest⟩

end KataDeviceProvisioner.Ports.Chart
