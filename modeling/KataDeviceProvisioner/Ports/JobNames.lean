import KataDeviceProvisioner.Ports.Release
import KataDeviceProvisioner.Verified.Fields

/-!
# Per-node Jobs are told apart by name

The dispatcher is handed `--name-prefix` and appends the name of a node.  The
cut slug in it may contain dashes, and node names do, so it is not plain that a
name can be taken apart again.  The hash behind the slug settles the profile.
What is behind the hash is a run's suffix and the node, and there the run for
the rest of a profile, which has no suffix, meets the run of an override mode:
one on a node `off-a`, the other, in the mode `off`, on a node `a`
(`job_names_clash`).
-/

namespace KataDeviceProvisioner.Ports.Chart

open KataDeviceProvisioner.Verified KataDeviceProvisioner.Verified.Sprig
open KataDeviceProvisioner.Verified.Selector

/-- What the dispatcher calls the Job of a node: the name of the node is appended
to the prefix. -/
def jobName (namePrefix node : String) : String := namePrefix ++ "-" ++ node

/-! ## Behind the hash -/

/-- A node whose name starts with the mode of an override run, taken without a
suffix, is named like another node taken with that mode's. -/
def Overlaps (suffix node otherSuffix otherNode : String) : Prop :=
  suffix = "" ∧ ∃ mode ∈ modes, otherSuffix = "-" ++ mode ∧ node = mode ++ "-" ++ otherNode

theorem runSuffix_cases {suffix : String} (h : suffix ∈ runSuffixes) :
    suffix = "" ∨ ∃ mode ∈ modes, suffix = "-" ++ mode := by
  rcases List.mem_cons.mp h with rfl | h
  · exact .inl rfl
  · obtain ⟨mode, hmode, rfl⟩ := List.mem_map.mp h
    exact .inr ⟨mode, hmode, rfl⟩

theorem dash_not_mem_mode {mode : String} (h : mode ∈ modes) : '-' ∉ mode.toList := by
  have hall : ∀ mode ∈ modes, '-' ∉ mode.toList := by decide
  exact hall mode h

section Suffixed

variable {suffix other node otherNode : String}

theorem suffixed_of_overlaps (h : Overlaps suffix node other otherNode) :
    suffix ++ "-" ++ node = other ++ "-" ++ otherNode := by
  obtain ⟨rfl, mode, _, rfl, rfl⟩ := h
  rw [String.empty_append, String.append_assoc, String.append_assoc, String.append_assoc]

/-- The suffix of a run is told from the node behind it, but for the overlap. -/
theorem suffixed_eq_iff (hsuffix : suffix ∈ runSuffixes) (hother : other ∈ runSuffixes) :
    suffix ++ "-" ++ node = other ++ "-" ++ otherNode ↔
      (suffix = other ∧ node = otherNode) ∨ Overlaps suffix node other otherNode ∨
        Overlaps other otherNode suffix node := by
  constructor
  · intro h
    have hnodes : ∀ {a b : String}, "-" ++ a = "-" ++ b → a = b :=
      fun heq => append_between_inj "-" "" (by simpa using heq)
    rcases runSuffix_cases hsuffix with rfl | ⟨mode, hmode, rfl⟩
    · rw [String.empty_append] at h
      rcases runSuffix_cases hother with rfl | ⟨mode, hmode, rfl⟩
      · rw [String.empty_append] at h
        exact .inl ⟨rfl, hnodes h⟩
      · rw [String.append_assoc, String.append_assoc] at h
        refine .inr (.inl ⟨rfl, mode, hmode, rfl, ?_⟩)
        rw [hnodes h, String.append_assoc]
    · rcases runSuffix_cases hother with rfl | ⟨mode', hmode', rfl⟩
      · rw [String.empty_append, String.append_assoc, String.append_assoc] at h
        refine .inr (.inr ⟨rfl, mode, hmode, rfl, ?_⟩)
        rw [← hnodes h, String.append_assoc]
      · rw [String.append_assoc, String.append_assoc, String.append_assoc,
          String.append_assoc] at h
        have hlist := congrArg String.toList (hnodes h)
        simp only [String.toList_append] at hlist
        obtain ⟨hmodes, hnode⟩ :=
          free_field_inj (dash_not_mem_mode hmode) (dash_not_mem_mode hmode') hlist
        exact .inl ⟨by rw [String.toList_inj.mp hmodes], String.toList_inj.mp hnode⟩
  · intro h
    rcases h with ⟨rfl, rfl⟩ | hoverlap | hoverlap
    · rfl
    · exact suffixed_of_overlaps hoverlap
    · exact (suffixed_of_overlaps hoverlap).symm

end Suffixed

/-! ## Names of Jobs -/

/-- No two profiles are marked by the same six digits. -/
def DigestsApart (lib : Library) (profiles : ProfileMap) : Prop :=
  ∀ key ∈ profiles.entries.map (·.1), ∀ other ∈ profiles.entries.map (·.1),
    trunc 6 (lib.sha256sum key) = trunc 6 (lib.sha256sum other) → key = other

/-- Two runs of one profile that overlap on these nodes. -/
def Clash (run : ReleaseRun) (node : String) (other : ReleaseRun) (otherNode : String) : Prop :=
  run.profile = other.profile ∧ Overlaps run.suffix node other.suffix otherNode

/-- What a profile's slug is cut to in the names of its Jobs. -/
def jobSlug (lib : Library) (key : String) : String :=
  trimSuffix "-" (trunc 6 (profileSlug lib key))

variable {lib : Library} {stage : ReleaseStage} {profiles : ProfileMap} {rs : List ReleaseRun}

theorem jobSlug_length (hlib : lib.Documented) (key : String) :
    1 ≤ (jobSlug lib key).toList.length ∧ (jobSlug lib key).toList.length ≤ 6 := by
  have hstart : IsLabelStart (jobSlug lib key) :=
    ((profileSlug_isLabel hlib key).start.cut (by decide)).trim
  have htrim := length_trimSuffix_le "-" (trunc 6 (profileSlug lib key))
  have hcut := length_trunc_le 6 (profileSlug lib key)
  refine ⟨List.length_pos_iff.mpr (toList_ne_nil hstart.nonempty), ?_⟩
  unfold jobSlug
  omega

theorem jobName_toList {run : ReleaseRun} (hrun : run.Named lib stage) (node : String) :
    (jobName run.namePrefix node).toList = (stage.profilePrefix ++ "-").toList ++
      ((jobSlug lib run.profile).toList ++ '-' ::
        ((trunc 6 (lib.sha256sum run.profile)).toList ++
          (run.suffix ++ "-" ++ node).toList)) := by
  have hdash : "-".toList = ['-'] := rfl
  rw [jobName, hrun.namePrefix, profileJobPrefix, ← jobSlug]
  simp only [String.toList_append, hdash, List.append_assoc, List.cons_append, List.nil_append]

/-- Two Jobs of a stage have one name when they are one, or where their runs
overlap. -/
theorem jobName_eq_iff (hlib : lib.Documented) (hdigest : DigestsApart lib profiles)
    (h : releaseRuns lib stage profiles = .ok rs) {run other : ReleaseRun} (hrun : run ∈ rs)
    (hother : other ∈ rs) (node otherNode : String) :
    jobName run.namePrefix node = jobName other.namePrefix otherNode ↔
      (run = other ∧ node = otherNode) ∨ Clash run node other otherNode ∨
        Clash other otherNode run node := by
  obtain ⟨hkey, hnamed⟩ := releaseRuns_named h run hrun
  obtain ⟨hotherKey, hotherNamed⟩ := releaseRuns_named h other hother
  have hbehind : jobName run.namePrefix node = jobName other.namePrefix otherNode ↔
      run.profile = other.profile ∧
        run.suffix ++ "-" ++ node = other.suffix ++ "-" ++ otherNode := by
    constructor
    · intro heq
      have hlist := congrArg String.toList heq
      rw [jobName_toList hnamed, jobName_toList hotherNamed] at hlist
      have hfields := List.append_cancel_left hlist
      have hlength := jobSlug_length hlib run.profile
      have hotherLength := jobSlug_length hlib other.profile
      have hmark := length_digest hlib run.profile (n := 6) (by decide)
      have hotherMark := length_digest hlib other.profile (n := 6) (by decide)
      obtain ⟨_, hmarks, hrest⟩ := marked_field_inj
        (fun hmem => (digest_chars hlib run.profile '-' hmem).2 rfl)
        (fun hmem => (digest_chars hlib other.profile '-' hmem).2 rfl)
        (hmark.trans hotherMark.symm) (by omega) (by omega) hfields
      exact ⟨hdigest _ hkey _ hotherKey (String.toList_inj.mp hmarks),
        String.toList_inj.mp hrest⟩
    · rintro ⟨hprofile, hrest⟩
      refine String.toList_inj.mp ?_
      rw [jobName_toList hnamed, jobName_toList hotherNamed, hprofile, hrest]
  have hsame : run.profile = other.profile → run.suffix = other.suffix → run = other := by
    intro hprofile hsuffix
    have hfront : run.namePrefix = other.namePrefix := by
      rw [hnamed.namePrefix, hotherNamed.namePrefix, hprofile, hsuffix]
    exact ReleaseRun.ext hprofile hsuffix hfront
  rw [hbehind, suffixed_eq_iff hnamed.suffix hotherNamed.suffix]
  constructor
  · rintro ⟨hprofile, ⟨hsuffix, hnode⟩ | hoverlap | hoverlap⟩
    · exact .inl ⟨hsame hprofile hsuffix, hnode⟩
    · exact .inr (.inl ⟨hprofile, hoverlap⟩)
    · exact .inr (.inr ⟨hprofile.symm, hoverlap⟩)
  · rintro (⟨rfl, hnode⟩ | ⟨hprofile, hoverlap⟩ | ⟨hprofile, hoverlap⟩)
    · exact ⟨rfl, .inl ⟨rfl, hnode⟩⟩
    · exact ⟨hprofile, .inr (.inl hoverlap)⟩
    · exact ⟨hprofile.symm, .inr (.inr hoverlap)⟩

/-! ## A stage of a release -/

/-- Legal node names and the runs of a stage make no name twice. -/
def Unambiguous (rs : List ReleaseRun) : Prop :=
  ∀ run ∈ rs, ∀ other ∈ rs, ∀ node otherNode, validPrefix node.toList = true →
    validPrefix otherNode.toList = true → (run, node) ≠ (other, otherNode) →
      jobName run.namePrefix node ≠ jobName other.namePrefix otherNode

theorem jobName_ne_iff (hlib : lib.Documented) (hdigest : DigestsApart lib profiles)
    (h : releaseRuns lib stage profiles = .ok rs) {run other : ReleaseRun} (hrun : run ∈ rs)
    (hother : other ∈ rs) {node otherNode : String} (hne : (run, node) ≠ (other, otherNode)) :
    jobName run.namePrefix node ≠ jobName other.namePrefix otherNode ↔
      ¬Clash run node other otherNode ∧ ¬Clash other otherNode run node := by
  have hpair : ¬(run = other ∧ node = otherNode) := fun hsame =>
    hne (by rw [hsame.1, hsame.2])
  rw [Ne, jobName_eq_iff hlib hdigest h hrun hother, or_iff_right hpair, not_or]

theorem not_overlaps {suffix node otherNode : String} : ¬Overlaps suffix node "" otherNode := by
  rintro ⟨_, mode, _, hsuffix, _⟩
  have hhead := congrArg (fun s : String => s.toList.head?) hsuffix
  simp at hhead

/-- Only overrides make runs overlap, and every override does. -/
theorem unambiguous_iff (hlib : lib.Documented) (hdigest : DigestsApart lib profiles)
    (h : releaseRuns lib stage profiles = .ok rs) :
    Unambiguous rs ↔ stage = .unprovision ∨ profiles.NoOverrides := by
  rw [suffix_empty_iff h]
  constructor
  · intro hunambiguous run hrun
    by_contra hne
    obtain ⟨mode, hmode, hsuffix⟩ :=
      (runSuffix_cases (releaseRuns_named h run hrun).2.suffix).resolve_left hne
    obtain ⟨other, hother, hprofile, hempty⟩ := exists_default h hrun
    have hlegal : ∀ mode ∈ modes, validPrefix (mode ++ "-" ++ "a").toList = true := by
      decide +kernel
    have hdistinct : (other, mode ++ "-" ++ "a") ≠ (run, "a") := by
      intro heq
      have hsame : other = run := (Prod.mk.inj heq).1
      exact hne (hsame ▸ hempty)
    refine hunambiguous other hother run hrun (mode ++ "-" ++ "a") "a" (hlegal mode hmode)
      (by decide +kernel) hdistinct ?_
    rw [jobName_eq_iff hlib hdigest h hother hrun]
    exact .inr (.inl ⟨hprofile, hempty, mode, hmode, hsuffix, rfl⟩)
  · intro hempty run hrun other hother node otherNode _ _ hne
    rw [jobName_ne_iff hlib hdigest h hrun hother hne]
    constructor
    · rintro ⟨_, hoverlap⟩
      rw [hempty other hother] at hoverlap
      exact not_overlaps hoverlap
    · rintro ⟨_, hoverlap⟩
      rw [hempty run hrun] at hoverlap
      exact not_overlaps hoverlap

/-- The runs of a stage are all different, and two pairs of a run and a node are
told apart by the names of their Jobs unless they clash.  So names are
unambiguous when a release cleans up, and when it provisions without overrides. -/
theorem job_names_apart_iff (hlib : lib.Documented) (hdigest : DigestsApart lib profiles)
    (h : releaseRuns lib stage profiles = .ok rs) :
    rs.Nodup ∧
      (∀ run ∈ rs, ∀ other ∈ rs, ∀ node otherNode, (run, node) ≠ (other, otherNode) →
        (jobName run.namePrefix node ≠ jobName other.namePrefix otherNode ↔
          ¬Clash run node other otherNode ∧ ¬Clash other otherNode run node)) ∧
      (Unambiguous rs ↔ stage = .unprovision ∨ profiles.NoOverrides) :=
  ⟨releaseRuns_nodup h,
    fun _ hrun _ hother _ _ hne => jobName_ne_iff hlib hdigest h hrun hother hne,
    unambiguous_iff hlib hdigest h⟩

/-! ## A fleet with overrides -/

/-- The profile of `fleet`, alone in its release. -/
def fleetProfiles : ProfileMap where
  entries :=
    [ ("foo-1cbec737",
        { fields := ["enabled", "ccMode", "ccModeOverrides", "ccModeStateLabel", "nodeSelector",
            "nodeSelectorExpressions"]
          enabled := .bool true
          merged := fleet.values }) ]
  nodup := List.nodup_singleton _

/-- The three runs of the fleet. -/
def fleetRuns : List ReleaseRun :=
  [ ⟨"foo-1cbec737", "", "kp-foo-1c-0807de"⟩
  , ⟨"foo-1cbec737", "-off", "kp-foo-1c-0807de-off"⟩
  , ⟨"foo-1cbec737", "-devtools", "kp-foo-1c-0807de-devtools"⟩ ]

theorem fleet_runs : releaseRuns fooLibrary .provision fleetProfiles = .ok fleetRuns := by
  decide +kernel

theorem fleet_digests : DigestsApart fooLibrary fleetProfiles := by
  intro key hkey other hother _
  rw [List.mem_singleton.mp hkey, List.mem_singleton.mp hother]

theorem job_names_apart_iff_fleet :
    fleetRuns.Nodup ∧
      (∀ run ∈ fleetRuns, ∀ other ∈ fleetRuns, ∀ node otherNode,
        (run, node) ≠ (other, otherNode) →
        (jobName run.namePrefix node ≠ jobName other.namePrefix otherNode ↔
          ¬Clash run node other otherNode ∧ ¬Clash other otherNode run node)) ∧
      (Unambiguous fleetRuns ↔
        ReleaseStage.provision = .unprovision ∨ fleetProfiles.NoOverrides) :=
  job_names_apart_iff fooLibrary_documented fleet_digests fleet_runs

/-- The run for the rest of the fleet on a node `off-a`, and the run that puts
nodes into `off` on a node `a`. -/
theorem job_names_clash :
    fooLibrary.Documented ∧ DigestsApart fooLibrary fleetProfiles ∧
    releaseRuns fooLibrary .provision fleetProfiles = .ok fleetRuns ∧
    (∃ run ∈ fleetRuns, ∃ other ∈ fleetRuns,
      validPrefix "off-a".toList = true ∧ validPrefix "a".toList = true ∧
      (run, "off-a") ≠ (other, "a") ∧
      jobName run.namePrefix "off-a" = "kp-foo-1c-0807de-off-a" ∧
      jobName other.namePrefix "a" = "kp-foo-1c-0807de-off-a") ∧
    ¬Unambiguous fleetRuns := by
  have hnames : jobName "kp-foo-1c-0807de" "off-a" = "kp-foo-1c-0807de-off-a" ∧
      jobName "kp-foo-1c-0807de-off" "a" = "kp-foo-1c-0807de-off-a" := by
    decide
  have hlegal : validPrefix "off-a".toList = true ∧ validPrefix "a".toList = true := by
    decide +kernel
  have hdefault : ⟨"foo-1cbec737", "", "kp-foo-1c-0807de"⟩ ∈ fleetRuns := by
    decide
  have hoff : ⟨"foo-1cbec737", "-off", "kp-foo-1c-0807de-off"⟩ ∈ fleetRuns := by
    decide
  refine ⟨fooLibrary_documented, fleet_digests, fleet_runs,
    ⟨_, hdefault, _, hoff, hlegal.1, hlegal.2, by simp, hnames.1, hnames.2⟩, fun h => ?_⟩
  exact h _ hdefault _ hoff "off-a" "a" hlegal.1 hlegal.2 (by simp)
    (hnames.1.trans hnames.2.symm)

end KataDeviceProvisioner.Ports.Chart
