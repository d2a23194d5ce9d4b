import KataDeviceProvisioner.Ports.LegalNames
import Mathlib.Data.List.ReduceOption

/-!
# The profiles of a release

`renderProfiles` in `templates/_helpers.tpl`, which renders a template once for
each enabled profile, and `templates/cleanup-dispatcher-job.yaml`, which it is
handed beside `dispatcher-job.yaml`.  The dispatcher runs of a release are those
of all its profiles, in the stage that provisions and in the one that cleans up.
-/

namespace KataDeviceProvisioner.Ports.Chart

open KataDeviceProvisioner.Verified KataDeviceProvisioner.Verified.Sprig

/-! ## Profiles -/

/-- Whether a template's `if` takes a value. -/
def truthy (value : Scalar) : Bool :=
  match value with
  | .null | .bool false | .int 0 | .string "" => false
  | _ => true

/-- A profile as it is configured. -/
structure ProfileEntry where
  /-- The fields of its own map. -/
  fields : List String
  enabled : Scalar
  /-- What `mergeOverwrite` comes to: the chart's values, the profile defaults
  and then its own fields. -/
  merged : Values
  deriving Repr, DecidableEq

/-- `.Values.profiles`, in the order `range` goes through it. -/
structure ProfileMap where
  entries : List (String × ProfileEntry)
  nodup : (entries.map (·.1)).Nodup

/-- What a profile cannot have, for its key is its identity. -/
def metadataFields : List String := ["profile", "cpuTee", "values"]

/-- `$profileRoot` -/
def profileRoot (lib : Library) (name : String) (profile : ProfileEntry) : Root where
  profileName := name
  values :=
    if "ccModeStateLabel" ∈ profile.fields then profile.merged
    else { profile.merged with ccModeStateLabel := defaultStateLabel lib name }

section Render

variable {α : Type} (lib : Library) (renderer : Root → Except String α)

/-- One round of the loop. -/
def renderProfile (entry : String × ProfileEntry) : Except String (Option α) := do
  let (name, profile) := entry
  if metadataFields.any fun field => profile.fields.contains field then
    fail ("profiles." ++ name ++ ": profile, cpuTee, and values metadata fields are not " ++
      "supported; the map key is the identity and operational fields belong directly in the " ++
      "profile")
  else if truthy profile.enabled then return some (← renderer (profileRoot lib name profile))
  else return none

def renderProfiles (profiles : ProfileMap) : Except String (List α) := do
  let rendered ← profiles.entries.mapM (renderProfile lib renderer)
  return rendered.reduceOption

end Render

/-! ## Cleaning up -/

/-- The dispatcher Job that cleans up after a profile, by its flags. -/
structure CleanupDispatcher where
  /-- Its name, and `--owner-job-name`. -/
  name : String
  image : String
  jobTemplates : String
  jobTemplate : String
  namePrefix : String
  parallelism : Int
  trackingLabelPrefix : String
  instanceLabelPrefix : String
  multiInstallSuffix : String
  nodeLabelKey : String
  removeNodeLabel : Bool
  extraNodeLabel : String
  /-- A bare key selects on presence. -/
  nodeSelector : String
  ignoreNodeTaints : Bool
  deriving Repr, DecidableEq

def cleanupDispatcherForProfile (lib : Library) (root : Root) :
    Except String CleanupDispatcher := do
  let values := root.values
  let image ← dispatcherImage values
  return { name := profileResourceName lib root.profileName "unprovision-dispatcher"
           image := image
           jobTemplates := profileResourceName lib root.profileName "job-templates"
           jobTemplate := jobTemplateDir ++ "unprovision-job.yaml"
           namePrefix := profileJobPrefix lib "ku" root.profileName
           parallelism := values.job.parallelism
           trackingLabelPrefix := "kata-device-provisioner-dispatcher"
           instanceLabelPrefix := "kata-device-provisioner.katacontainers.io"
           multiInstallSuffix := multiInstallSuffix lib root.profileName
           nodeLabelKey := values.ccModeStateLabel
           removeNodeLabel := true
           extraNodeLabel := values.ccModeReadyLabel ++ "=false"
           nodeSelector := values.ccModeStateLabel
           ignoreNodeTaints := true }

/-! ## Runs of a release -/

/-- The stages a release has dispatchers for. -/
inductive ReleaseStage where
  | provision
  | unprovision
  deriving Repr, DecidableEq

/-- `profilePrefix` -/
def ReleaseStage.profilePrefix : ReleaseStage → String
  | .provision => "kp"
  | .unprovision => "ku"

/-- A run, by the profile it is for and how it names its per-node Jobs. -/
@[ext] structure ReleaseRun where
  profile : String
  suffix : String
  namePrefix : String
  deriving Repr, DecidableEq

/-- The runs a profile has in a stage. -/
def profileRuns (lib : Library) (stage : ReleaseStage) (root : Root) :
    Except String (List ReleaseRun) := do
  match stage with
  | .provision =>
      let ds ← dispatchersForProfile lib root
      return ds.map fun d => ⟨root.profileName, d.run.suffix, d.namePrefix⟩
  | .unprovision =>
      let d ← cleanupDispatcherForProfile lib root
      return [⟨root.profileName, "", d.namePrefix⟩]

/-- All runs of a stage. -/
def releaseRuns (lib : Library) (stage : ReleaseStage) (profiles : ProfileMap) :
    Except String (List ReleaseRun) := do
  let runs ← renderProfiles lib (profileRuns lib stage) profiles
  return runs.flatten

/-! ## What is rendered -/

/-- A profile whose own map has no field that only names it. -/
def ProfileEntry.Plain (profile : ProfileEntry) : Prop :=
  ∀ field ∈ metadataFields, field ∉ profile.fields

def ProfileMap.enabled (profiles : ProfileMap) : List (String × ProfileEntry) :=
  profiles.entries.filter fun entry => truthy entry.2.enabled

section Rendered

variable {α : Type} {lib : Library} {renderer : Root → Except String α}

theorem renderProfile_ok_iff {entry : String × ProfileEntry} {rendered : Option α} :
    renderProfile lib renderer entry = .ok rendered ↔ entry.2.Plain ∧
      if truthy entry.2.enabled then
        ∃ a, renderer (profileRoot lib entry.1 entry.2) = .ok a ∧ rendered = some a
      else rendered = none := by
  obtain ⟨name, profile⟩ := entry
  have hplain : profile.Plain ↔
      ¬(metadataFields.any fun field => profile.fields.contains field) = true := by
    simp [ProfileEntry.Plain, List.any_eq_true]
  unfold renderProfile
  dsimp only
  rw [hplain]
  by_cases hmetadata : (metadataFields.any fun field => profile.fields.contains field) = true
  · rw [if_pos hmetadata]
    exact ⟨fun h => (by cases h), fun h => absurd hmetadata h.1⟩
  · rw [if_neg hmetadata, and_iff_right hmetadata]
    by_cases henabled : truthy profile.enabled = true
    · rw [if_pos henabled, if_pos henabled, bind_eq_ok_iff]
      refine exists_congr fun a => and_congr_right fun _ => ?_
      exact ⟨fun h => (Except.ok.inj h).symm, fun h => by rw [h]; rfl⟩
    · rw [if_neg henabled, if_neg henabled]
      exact ⟨fun h => (Except.ok.inj h).symm, fun h => by rw [h]; rfl⟩

theorem renderProfiles_ok {profiles : ProfileMap} {rendered : List α}
    (h : renderProfiles lib renderer profiles = .ok rendered) :
    List.Forall₂ (fun entry a => renderer (profileRoot lib entry.1 entry.2) = .ok a)
      profiles.enabled rendered := by
  obtain ⟨texts, htexts, hret⟩ := bind_eq_ok_iff.mp h
  rw [← Except.ok.inj hret]
  have hall := mapM_eq_ok_iff.mp htexts
  unfold ProfileMap.enabled
  clear hret htexts h
  generalize profiles.entries = entries at hall
  induction hall with
  | nil => exact .nil
  | @cons entry text _ texts htext _ ih =>
      obtain ⟨_, hround⟩ := renderProfile_ok_iff.mp htext
      by_cases henabled : truthy entry.2.enabled = true
      · rw [if_pos henabled] at hround
        obtain ⟨a, ha, rfl⟩ := hround
        rw [List.filter_cons, if_pos henabled, List.reduceOption_cons_of_some]
        exact .cons ha ih
      · rw [if_neg henabled] at hround
        rw [hround, List.filter_cons, if_neg henabled, List.reduceOption_cons_of_none]
        exact ih

/-- A release is rendered when its profiles are. -/
theorem renderProfiles_total {profiles : ProfileMap}
    (hplain : ∀ entry ∈ profiles.entries, entry.2.Plain)
    (hrenders : ∀ entry ∈ profiles.enabled,
      ∃ a, renderer (profileRoot lib entry.1 entry.2) = .ok a) :
    ∃ rendered, renderProfiles lib renderer profiles = .ok rendered := by
  obtain ⟨texts, htexts⟩ := mapM_total (renderProfile lib renderer) profiles.entries
    fun entry hentry => by
      by_cases henabled : truthy entry.2.enabled = true
      · obtain ⟨a, ha⟩ := hrenders entry (List.mem_filter.mpr ⟨hentry, henabled⟩)
        refine ⟨some a, renderProfile_ok_iff.mpr ⟨hplain entry hentry, ?_⟩⟩
        rw [if_pos henabled]
        exact ⟨a, ha, rfl⟩
      · refine ⟨none, renderProfile_ok_iff.mpr ⟨hplain entry hentry, ?_⟩⟩
        rw [if_neg henabled]
  exact ⟨_, bind_eq_ok_iff.mpr ⟨texts, htexts, rfl⟩⟩

end Rendered

/-! ## Runs of a stage -/

variable {lib : Library} {stage : ReleaseStage} {profiles : ProfileMap} {rs : List ReleaseRun}

/-- How a run names its per-node Jobs. -/
structure ReleaseRun.Named (lib : Library) (stage : ReleaseStage) (run : ReleaseRun) : Prop where
  suffix : run.suffix ∈ runSuffixes
  namePrefix : run.namePrefix = profileJobPrefix lib stage.profilePrefix run.profile ++ run.suffix

/-- A provisioning run of a profile, as `dispatchersForProfile` has it. -/
def provisionRun (lib : Library) (root : Root) (run : Run) : ReleaseRun where
  profile := root.profileName
  suffix := run.suffix
  namePrefix := profileJobPrefix lib "kp" root.profileName ++ run.suffix

theorem provisionRuns_ok {root : Root} (h : profileRuns lib .provision root = .ok rs) :
    ∃ mode overrides, Normalized root.values overrides ∧
      rs = (runList root.values mode overrides).map (provisionRun lib root) := by
  obtain ⟨ds, hds, hret⟩ := bind_eq_ok_iff.mp h
  obtain ⟨mode, overrides, _, image, _, hmodes, _, _, rfl⟩ := dispatchers_ok hds
  refine ⟨mode, overrides, hmodes, ?_⟩
  rw [← Except.ok.inj hret, List.map_map]
  rfl

theorem cleanupRuns_ok {root : Root} (h : profileRuns lib .unprovision root = .ok rs) :
    rs = [⟨root.profileName, "", profileJobPrefix lib "ku" root.profileName⟩] := by
  obtain ⟨d, hd, hret⟩ := bind_eq_ok_iff.mp h
  obtain ⟨image, _, hret'⟩ := bind_eq_ok_iff.mp hd
  rw [← Except.ok.inj hret, ← Except.ok.inj hret']

theorem profileRuns_ok {root : Root} (h : profileRuns lib stage root = .ok rs) :
    rs.Nodup ∧ ∀ run ∈ rs, run.profile = root.profileName ∧ run.Named lib stage := by
  cases stage with
  | provision =>
      obtain ⟨mode, overrides, hmodes, rfl⟩ := provisionRuns_ok h
      constructor
      · refine List.Nodup.of_map ReleaseRun.suffix ?_
        rw [List.map_map]
        exact suffixes_nodup root.values mode overrides
      · intro run hrun
        obtain ⟨given, hgiven, rfl⟩ := List.mem_map.mp hrun
        exact ⟨rfl, (run_suffixes hmodes hgiven).1, rfl⟩
  | unprovision =>
      rw [cleanupRuns_ok h]
      refine ⟨List.nodup_singleton _, fun run hrun => ?_⟩
      rw [List.mem_singleton.mp hrun]
      exact ⟨rfl, List.mem_cons_self, String.append_empty.symm⟩

theorem mem_releaseRuns (h : releaseRuns lib stage profiles = .ok rs) {run : ReleaseRun}
    (hrun : run ∈ rs) : ∃ entry ∈ profiles.enabled, ∃ own,
      profileRuns lib stage (profileRoot lib entry.1 entry.2) = .ok own ∧ run ∈ own := by
  obtain ⟨rendered, hrendered, hret⟩ := bind_eq_ok_iff.mp h
  rw [← Except.ok.inj hret] at hrun
  obtain ⟨own, hown, hmem⟩ := List.mem_flatten.mp hrun
  obtain ⟨entry, hentry, hruns⟩ := forall₂_of_mem_right (renderProfiles_ok hrendered) hown
  exact ⟨entry, hentry, own, hruns, hmem⟩

theorem releaseRuns_named (h : releaseRuns lib stage profiles = .ok rs) :
    ∀ run ∈ rs, run.profile ∈ profiles.entries.map (·.1) ∧ run.Named lib stage := by
  intro run hrun
  obtain ⟨entry, hentry, own, hown, hmem⟩ := mem_releaseRuns h hrun
  obtain ⟨hprofile, hnamed⟩ := (profileRuns_ok hown).2 run hmem
  rw [hprofile]
  exact ⟨List.mem_map_of_mem (List.mem_filter.mp hentry).1, hnamed⟩

/-- No run of a stage is there twice. -/
theorem releaseRuns_nodup (h : releaseRuns lib stage profiles = .ok rs) : rs.Nodup := by
  obtain ⟨rendered, hrendered, hret⟩ := bind_eq_ok_iff.mp h
  rw [← Except.ok.inj hret]
  have hall := renderProfiles_ok hrendered
  clear hret hrendered h
  have hnames : (profiles.enabled.map (·.1)).Nodup :=
    profiles.nodup.sublist (List.filter_sublist.map _)
  generalize profiles.enabled = enabled at hall hnames
  induction hall with
  | nil => exact List.nodup_nil
  | @cons entry own enabled rest hown hrest ih =>
      obtain ⟨hfirst, hothers⟩ := List.nodup_cons.mp hnames
      obtain ⟨hnodup, hprofile⟩ := profileRuns_ok hown
      rw [List.flatten_cons, List.nodup_append]
      refine ⟨hnodup, ih hothers, fun run hrun run' hrun' heq => hfirst ?_⟩
      obtain ⟨own', hown', hmem'⟩ := List.mem_flatten.mp hrun'
      obtain ⟨entry', hentry', hruns'⟩ := forall₂_of_mem_right hrest hown'
      have hname : entry'.1 = entry.1 :=
        ((profileRuns_ok hruns').2 run' hmem').1.symm.trans (heq ▸ (hprofile run hrun).1)
      exact List.mem_map.mpr ⟨entry', hentry', hname⟩

theorem exists_profileRuns (h : releaseRuns lib stage profiles = .ok rs)
    {entry : String × ProfileEntry} (hentry : entry ∈ profiles.enabled) :
    ∃ own, profileRuns lib stage (profileRoot lib entry.1 entry.2) = .ok own ∧
      ∀ run ∈ own, run ∈ rs := by
  obtain ⟨rendered, hrendered, hret⟩ := bind_eq_ok_iff.mp h
  obtain ⟨own, hown, hruns⟩ := forall₂_of_mem_left (renderProfiles_ok hrendered) hentry
  refine ⟨own, hruns, fun run hrun => ?_⟩
  rw [← Except.ok.inj hret]
  exact List.mem_flatten.mpr ⟨own, hown, hrun⟩

/-! ## Overrides -/

/-- No profile that is rendered has a mode for some of its nodes. -/
def ProfileMap.NoOverrides (profiles : ProfileMap) : Prop :=
  ∀ entry ∈ profiles.enabled, entry.2.merged.ccModeOverrides = []

theorem profileRoot_overrides (lib : Library) (name : String) (profile : ProfileEntry) :
    (profileRoot lib name profile).values.ccModeOverrides = profile.merged.ccModeOverrides := by
  unfold profileRoot
  by_cases hlabel : "ccModeStateLabel" ∈ profile.fields
  · rw [if_pos hlabel]
  · rw [if_neg hlabel]

theorem Normalized.nil_iff {values : Values} {overrides : List String}
    (h : Normalized values overrides) : values.ccModeOverrides = [] ↔ overrides = [] := by
  have hlength := (mapM_eq_ok_iff.mp h).length_eq
  rw [← List.length_eq_zero_iff, hlength, List.length_eq_zero_iff]

/-- Only the runs of override modes have suffixes. -/
theorem suffix_empty_iff (h : releaseRuns lib stage profiles = .ok rs) :
    (stage = .unprovision ∨ profiles.NoOverrides) ↔ ∀ run ∈ rs, run.suffix = "" := by
  constructor
  · intro hnone run hrun
    obtain ⟨entry, hentry, own, hown, hmem⟩ := mem_releaseRuns h hrun
    rcases hnone with rfl | hnone
    · rw [cleanupRuns_ok hown] at hmem
      rw [List.mem_singleton.mp hmem]
    · cases stage with
      | provision =>
          obtain ⟨mode, overrides, hmodes, rfl⟩ := provisionRuns_ok hown
          have hempty := profileRoot_overrides lib entry.1 entry.2
          rw [hnone entry hentry] at hempty
          obtain rfl := hmodes.nil_iff.mp hempty
          obtain ⟨given, hgiven, rfl⟩ := List.mem_map.mp hmem
          rw [List.mem_singleton.mp hgiven]
          rfl
      | unprovision =>
          rw [cleanupRuns_ok hown] at hmem
          rw [List.mem_singleton.mp hmem]
  · intro hempty
    cases stage with
    | unprovision => exact .inl rfl
    | provision =>
        refine .inr fun entry hentry => ?_
        obtain ⟨own, hown, hrs⟩ := exists_profileRuns h hentry
        obtain ⟨mode, overrides, hmodes, rfl⟩ := provisionRuns_ok hown
        rw [← profileRoot_overrides lib entry.1 entry.2, hmodes.nil_iff]
        by_contra hne
        obtain ⟨m, hm⟩ := List.exists_mem_of_ne_nil overrides hne
        have hsuffix := hempty _ (hrs _ (List.mem_map_of_mem (List.mem_cons_of_mem _
          (List.mem_map_of_mem (mem_uniq.mpr hm)))))
        have hhead := congrArg (fun s : String => s.toList.head?) hsuffix
        simp [provisionRun, overrideRun] at hhead

/-- The run for the rest of a profile is there beside any other. -/
theorem exists_default (h : releaseRuns lib stage profiles = .ok rs) {run : ReleaseRun}
    (hrun : run ∈ rs) : ∃ other ∈ rs, other.profile = run.profile ∧ other.suffix = "" := by
  obtain ⟨entry, hentry, own, hown, hmem⟩ := mem_releaseRuns h hrun
  obtain ⟨own', hown', hrs⟩ := exists_profileRuns h hentry
  obtain rfl := Except.ok.inj (hown.symm.trans hown')
  have hprofile := ((profileRuns_ok hown).2 run hmem).1
  cases stage with
  | provision =>
      obtain ⟨mode, overrides, _, rfl⟩ := provisionRuns_ok hown
      exact ⟨_, hrs _ (List.mem_map_of_mem List.mem_cons_self), hprofile.symm, rfl⟩
  | unprovision =>
      rw [cleanupRuns_ok hown] at hrs
      exact ⟨_, hrs _ List.mem_cons_self, hprofile.symm, rfl⟩

end KataDeviceProvisioner.Ports.Chart
