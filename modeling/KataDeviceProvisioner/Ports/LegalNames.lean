import KataDeviceProvisioner.Ports.ChartRuns

/-!
# Names the API server accepts

Whatever a profile is called, the names the chart makes from its key are legal.
A cut can fall inside a run of dashes, of which one is trimmed, so what is cut
to may still end in a dash: it only has to start a label (`IsLabelStart`), and
the hash behind it ends one.
-/

namespace KataDeviceProvisioner.Ports.Chart

open KataDeviceProvisioner.Verified KataDeviceProvisioner.Verified.Sprig
open KataDeviceProvisioner.Verified.Selector

/-! ## The start of a label -/

/-- What a label can start with. -/
structure IsLabelStart (s : String) : Prop where
  nonempty : s ≠ ""
  chars : ∀ c ∈ s.toList, slugChar c = true
  first : s.toList.head? ≠ some '-'

theorem IsLabel.start {s : String} (h : IsLabel s) : IsLabelStart s :=
  ⟨h.nonempty, h.chars, h.first⟩

theorem toList_ne_nil {s : String} (h : s ≠ "") : s.toList ≠ [] :=
  fun hnil => h (String.toList_eq_nil_iff.mp hnil)

section Start

variable {s t : String}

theorem IsLabelStart.append (hs : IsLabelStart s) (hchars : ∀ c ∈ t.toList, slugChar c = true) :
    IsLabelStart (s ++ t) where
  nonempty := by
    intro hempty
    have hlist := congrArg String.toList hempty
    rw [String.toList_append] at hlist
    exact toList_ne_nil hs.nonempty (List.append_eq_nil_iff.mp hlist).1
  chars := by
    rw [String.toList_append, List.forall_mem_append]
    exact ⟨hs.chars, hchars⟩
  first := by
    rw [String.toList_append, List.head?_append_of_ne_nil _ (toList_ne_nil hs.nonempty)]
    exact hs.first

/-- A start that goes on and ends in a letter or digit is a label. -/
theorem IsLabelStart.label (hs : IsLabelStart s) (hchars : ∀ c ∈ t.toList, slugChar c = true)
    (hne : t ≠ "") (hlast : t.toList.getLast? ≠ some '-')
    (hshort : s.toList.length + t.toList.length ≤ 63) : IsLabel (s ++ t) where
  nonempty := (hs.append hchars).nonempty
  chars := (hs.append hchars).chars
  first := (hs.append hchars).first
  last := by
    rw [String.toList_append, List.getLast?_append_of_ne_nil _ (toList_ne_nil hne)]
    exact hlast
  short := by
    rw [String.toList_append, List.length_append]
    exact hshort

theorem IsLabelStart.cut {n : Nat} (hs : IsLabelStart s) (hn : 0 < n) :
    IsLabelStart (trunc n s) := by
  obtain ⟨m, rfl⟩ : ∃ m, n = m + 1 := ⟨n - 1, by omega⟩
  cases hlist : s.toList with
  | nil => exact absurd hlist (toList_ne_nil hs.nonempty)
  | cons c cs =>
      have hcut : (trunc (m + 1) s).toList = c :: cs.take m := by
        rw [trunc, String.toList_ofList, hlist, List.take_succ_cons]
      refine ⟨fun hempty => ?_, fun d hd => hs.chars d (mem_trunc hd), ?_⟩
      · rw [hempty] at hcut
        cases hcut
      · rw [hcut]
        have hfirst := hs.first
        rw [hlist] at hfirst
        exact hfirst

/-- One dash goes, and it is not all there is. -/
theorem IsLabelStart.trim (hs : IsLabelStart s) : IsLabelStart (trimSuffix "-" s) := by
  unfold trimSuffix
  by_cases hsuffix : "-".toList <:+ s.toList
  · rw [if_pos hsuffix]
    obtain ⟨front, hfront⟩ := hsuffix
    have hne : front ≠ [] := by
      rintro rfl
      exact hs.first (by rw [← hfront]; rfl)
    have htrim : s.toList.take (s.toList.length - "-".toList.length) = front := by
      rw [← hfront, List.length_append, Nat.add_sub_cancel, List.take_left]
    rw [htrim]
    refine ⟨fun hempty => hne ?_, fun c hc => hs.chars c ?_, ?_⟩
    · rw [← String.toList_ofList (l := front), hempty]
      rfl
    · rw [String.toList_ofList] at hc
      rw [← hfront]
      exact List.mem_append_left _ hc
    · have hfirst := hs.first
      rw [← hfront, List.head?_append_of_ne_nil _ hne] at hfirst
      rw [String.toList_ofList]
      exact hfirst
  · rw [if_neg hsuffix]
    exact hs

end Start

/-! ## Keys of labels -/

theorem slugChar_alphanum {c : Char} (h : slugChar c = true) (hdash : c ≠ '-') :
    c.isAlphanum = true := by
  simp only [slugChar, Bool.or_eq_true, Bool.and_eq_true, decide_eq_true_eq, beq_iff_eq] at h
  have halphanum : ((c.isUpper || c.isLower) || c.isDigit) = true := by
    rcases h with (hlower | hdigit) | hc
    · have hisLower : c.isLower = true := by
        show (decide ('a'.val ≤ c.val) && decide (c.val ≤ 'z'.val)) = true
        rw [Bool.and_eq_true, decide_eq_true_eq, decide_eq_true_eq]
        exact hlower
      rw [hisLower, Bool.or_true, Bool.true_or]
    · have hisDigit : c.isDigit = true := by
        show (decide ('0'.val ≤ c.val) && decide (c.val ≤ '9'.val)) = true
        rw [Bool.and_eq_true, decide_eq_true_eq, decide_eq_true_eq]
        exact hdigit
      rw [hisDigit, Bool.or_true]
    · exact absurd hc hdash
  exact halphanum

/-- A DNS label is a label's name, too. -/
theorem IsLabel.validName {s : String} (h : IsLabel s) : validName s.toList = true := by
  have hends : ∀ c, c ∈ s.toList → c ≠ '-' → c.isAlphanum = true :=
    fun c hc hdash => slugChar_alphanum (h.chars c hc) hdash
  have hname : s.toList.all nameChar = true := by
    refine List.all_eq_true.mpr fun c hc => ?_
    unfold nameChar
    by_cases hdash : c = '-'
    · simp [hdash]
    · rw [hends c hc hdash]
      rfl
  have hfirst : s.toList.head?.all Char.isAlphanum = true := by
    refine (Option.all_eq_true _ _).mpr fun c hc => ?_
    refine hends c (List.mem_of_head? hc) fun hdash => h.first ?_
    rw [hc, hdash]
  have hlast : s.toList.getLast?.all Char.isAlphanum = true := by
    refine (Option.all_eq_true _ _).mpr fun c hc => ?_
    refine hends c (List.mem_of_getLast? hc) fun hdash => h.last ?_
    rw [hc, hdash]
  have hne : (!s.toList.isEmpty) = true := by
    simpa using h.nonempty
  unfold Selector.validName
  rw [hne, hname, hfirst, hlast, decide_eq_true h.short]
  rfl

/-- The domain the provisioner's own labels are in. -/
def labelDomain : String := "kata-device-provisioner.katacontainers.io"

/-- A key is told apart from its domain by the slash. -/
theorem validKey_append {domain name : String} (hdomain : validPrefix domain.toList = true)
    (hname : Selector.validName name.toList = true) (hslash : '/' ∉ domain.toList)
    (hslash' : '/' ∉ name.toList) : validKey (domain ++ "/" ++ name) = true := by
  have hparts : ∀ part ∈ [domain, name], '/' ∉ part.toList := by
    intro part hpart
    rcases List.mem_cons.mp hpart with rfl | hpart
    · exact hslash
    · rw [List.mem_singleton.mp hpart]
      exact hslash'
  have hjoined : (String.singleton '/').intercalate [domain, name] = domain ++ "/" ++ name := by
    rw [String.intercalate_cons_cons, String.intercalate_singleton]
    rfl
  have hsplit := Text.splitOn_intercalate hparts (List.cons_ne_nil _ _)
  rw [hjoined, List.map_cons, List.map_singleton] at hsplit
  unfold validKey
  rw [hsplit]
  show (validPrefix domain.toList && Selector.validName name.toList) = true
  rw [hdomain, hname]
  rfl

theorem validKey_of_isLabel {segment : String} (h : IsLabel segment) :
    validKey (labelDomain ++ "/" ++ segment) = true := by
  have hdomain : validPrefix labelDomain.toList = true := by decide +kernel
  have hslash : '/' ∉ labelDomain.toList := by decide
  have hslash' : '/' ∉ segment.toList := fun hmem => absurd (h.chars '/' hmem) (by decide)
  exact validKey_append hdomain h.validName hslash hslash'

/-! ## Names -/

variable {lib : Library}

theorem folded_start (key : String) : IsLabelStart (folded lib key) := by
  obtain ⟨hnonempty, hchars, hfirst, _⟩ := folded_label lib key
  exact ⟨hnonempty, hchars, hfirst⟩

theorem slugChar_of_isHexChar {c : Char} (h : Text.IsHexChar c) : slugChar c = true ∧ c ≠ '-' := by
  have hdash : c ≠ '-' := by
    rintro rfl
    cases h
  refine ⟨?_, hdash⟩
  simp only [slugChar, Bool.or_eq_true, Bool.and_eq_true, decide_eq_true_eq, beq_iff_eq]
  unfold Text.IsHexChar Text.hexValue at h
  by_cases hdigit : '0'.toNat ≤ c.toNat ∧ c.toNat ≤ '9'.toNat
  · exact .inl (.inr hdigit)
  · rw [if_neg hdigit] at h
    by_cases hletter : 'a'.toNat ≤ c.toNat ∧ c.toNat ≤ 'f'.toNat
    · exact .inl (.inl ⟨hletter.1, hletter.2.trans (by decide)⟩)
    · rw [if_neg hletter] at h
      cases h

section Hash

variable (hlib : lib.Documented) {n : Nat} (s : String)

include hlib

theorem digest_chars : ∀ c ∈ (trunc n (lib.sha256sum s)).toList, slugChar c = true ∧ c ≠ '-' :=
  fun c hc => slugChar_of_isHexChar (hlib.digest_hex s c (mem_trunc hc))

theorem length_digest (hn : n ≤ 64) : (trunc n (lib.sha256sum s)).toList.length = n := by
  refine length_trunc ?_
  rw [hlib.digest_length]
  exact hn

/-- A start, a dash and digits of a hash are a label. -/
theorem IsLabelStart.hash {start : String} (hstart : IsLabelStart start) (hpos : 0 < n)
    (hn : n ≤ 64) (hshort : start.toList.length + 1 + n ≤ 63) :
    IsLabel (start ++ "-" ++ trunc n (lib.sha256sum s)) := by
  have hlength := length_digest hlib s hn
  have hdash : IsLabelStart (start ++ "-") :=
    hstart.append (List.all_eq_true.mp (by decide))
  refine hdash.label (fun c hc => (digest_chars hlib s c hc).1) ?_ ?_ ?_
  · intro hempty
    rw [hempty] at hlength
    have : 0 = n := hlength
    omega
  · intro hlast
    exact (digest_chars hlib s '-' (List.mem_of_getLast? hlast)).2 rfl
  · rw [String.toList_append, List.length_append, hlength]
    exact hshort

theorem length_cutAndHash_le {m : Nat} (text : String) :
    (cutAndHash lib m text s).toList.length ≤ m + 9 := by
  have htrim := length_trimSuffix_le "-" (trunc m text)
  have hcut := length_trunc_le m text
  rw [cutAndHash_toList, List.length_append, length_hash hlib, String.toList_append,
    List.length_append]
  have hdash : "-".toList.length = 1 := rfl
  omega

theorem cutAndHash_isLabel {m : Nat} {text : String} (htext : IsLabelStart text) (hpos : 0 < m)
    (hm : m ≤ 54) : IsLabel (cutAndHash lib m text s) := by
  have htrim := length_trimSuffix_le "-" (trunc m text)
  have hcut := length_trunc_le m text
  exact (htext.cut hpos).trim.hash hlib s (by decide) (by decide) (by omega)

end Hash

theorem resourceSuffixes_chars {suffix : String} (hsuffix : suffix ∈ resourceSuffixes) :
    suffix ≠ "" ∧ (∀ c ∈ suffix.toList, slugChar c = true) ∧
      suffix.toList.getLast? ≠ some '-' := by
  have hall : ∀ suffix ∈ resourceSuffixes, suffix ≠ "" ∧ suffix.toList.all slugChar = true ∧
      suffix.toList.getLast? ≠ some '-' := by
    decide
  obtain ⟨hne, hchars, hlast⟩ := hall suffix hsuffix
  exact ⟨hne, List.all_eq_true.mp hchars, hlast⟩

section Legal

variable (hlib : lib.Documented) (key : String)

include hlib

theorem profileSlug_isLabel : IsLabel (profileSlug lib key) := by
  by_cases hkey : IsLabel key
  · rw [profileSlug_of_isLabel hlib hkey]
    exact hkey
  · rw [profileSlug_of_not_isLabel hkey]
    exact cutAndHash_isLabel hlib key (folded_start key) (by decide) (by decide)

theorem fullName_start {suffix : String} (hsuffix : ∀ c ∈ suffix.toList, slugChar c = true) :
    IsLabelStart (fullName lib key suffix) := by
  have hchart : IsLabelStart (chartName ++ "-") :=
    ⟨by decide, List.all_eq_true.mp (by decide), by decide⟩
  unfold fullName
  refine (hchart.append (profileSlug_isLabel hlib key).chars).append ?_
  rw [String.toList_append, List.forall_mem_append]
  exact ⟨List.all_eq_true.mp (by decide), hsuffix⟩

theorem profileResourceName_isLabel {suffix : String} (hsuffix : suffix ∈ resourceSuffixes) :
    IsLabel (profileResourceName lib key suffix) := by
  obtain ⟨hne, hchars, hlast⟩ := resourceSuffixes_chars hsuffix
  have hstart := fullName_start hlib key hchars
  unfold profileResourceName
  by_cases hlong : (fullName lib key suffix).toList.length > 63
  · rw [if_pos hlong]
    exact cutAndHash_isLabel hlib _ hstart (by decide) (by decide)
  · rw [if_neg hlong]
    refine ⟨hstart.nonempty, hstart.chars, hstart.first, ?_, by omega⟩
    rw [fullName_toList, String.toList_append (s := "-"), ← List.append_assoc,
      List.getLast?_append_of_ne_nil _ (toList_ne_nil hne)]
    exact hlast

theorem stateSegment_isLabel :
    IsLabel (cutAndHash lib 47 (profileSlug lib key) key ++ "-state") := by
  have hlabel := cutAndHash_isLabel hlib key (m := 47) (profileSlug_isLabel hlib key).start
    (by decide) (by decide)
  have hlength := length_cutAndHash_le hlib key (m := 47) (profileSlug lib key)
  have hstate : "-state".toList.length = 6 := rfl
  exact hlabel.start.label (List.all_eq_true.mp (by decide)) (by decide) (by decide) (by omega)

theorem length_profileJobPrefix_le (profilePrefix : String) :
    (profileJobPrefix lib profilePrefix key).toList.length ≤
      profilePrefix.toList.length + 14 := by
  have htrim := length_trimSuffix_le "-" (trunc 6 (profileSlug lib key))
  have hcut := length_trunc_le 6 (profileSlug lib key)
  have hdigest := length_digest hlib key (n := 6) (by decide)
  have hdash : "-".toList.length = 1 := rfl
  unfold profileJobPrefix
  simp only [String.toList_append, List.length_append]
  omega

theorem profileJobPrefix_start {profilePrefix : String} (hfront : IsLabelStart profilePrefix) :
    IsLabelStart (profileJobPrefix lib profilePrefix key) := by
  have hslug := ((profileSlug_isLabel hlib key).start.cut (n := 6) (by decide)).trim
  unfold profileJobPrefix
  refine (((hfront.append ?_).append hslug.chars).append ?_).append ?_
  · exact List.all_eq_true.mp (by decide)
  · exact List.all_eq_true.mp (by decide)
  · exact fun c hc => (digest_chars hlib key c hc).1

end Legal

/-! ## Every name of a profile -/

/-- What `profileJobPrefix` starts with: to provision, and to clean up. -/
def jobPrefixes : List String := ["kp", "ku"]

/-- What a run can append to it. -/
def runSuffixes : List String := "" :: modes.map fun mode => "-" ++ mode

theorem jobPrefixes_start {p : String} (hp : p ∈ jobPrefixes) :
    IsLabelStart p ∧ p.toList.length = 2 := by
  have hall : ∀ p ∈ jobPrefixes, p ≠ "" ∧ p.toList.all slugChar = true ∧
      p.toList.head? ≠ some '-' ∧ p.toList.length = 2 := by
    decide
  obtain ⟨hne, hchars, hfirst, hlength⟩ := hall p hp
  exact ⟨⟨hne, List.all_eq_true.mp hchars, hfirst⟩, hlength⟩

theorem runSuffixes_chars {suffix : String} (hsuffix : suffix ∈ runSuffixes) :
    (∀ c ∈ suffix.toList, slugChar c = true) ∧ suffix.toList.length ≤ 9 := by
  have hall : ∀ suffix ∈ runSuffixes, suffix.toList.all slugChar = true ∧
      suffix.toList.length ≤ 9 := by
    decide
  obtain ⟨hchars, hlength⟩ := hall suffix hsuffix
  exact ⟨List.all_eq_true.mp hchars, hlength⟩

/-- What the names made from a profile's key come to. -/
structure LegalNames (lib : Library) (key : String) : Prop where
  slug : IsLabel (profileSlug lib key)
  resource : ∀ suffix ∈ resourceSuffixes, IsLabel (profileResourceName lib key suffix)
  state : ∃ segment, defaultStateLabel lib key = labelDomain ++ "/" ++ segment ∧
    IsLabel segment ∧ validName segment.toList = true
  stateKey : validKey (defaultStateLabel lib key) = true
  jobPrefix : ∀ p ∈ jobPrefixes, ∀ suffix ∈ runSuffixes,
    IsLabelStart (profileJobPrefix lib p key ++ suffix) ∧
      (profileJobPrefix lib p key ++ suffix).toList.length ≤ 25
  /-- So a node's name of up to 37 characters fits behind it. -/
  job : ∀ p ∈ jobPrefixes, ∀ suffix ∈ runSuffixes, ∀ node, IsLabel node →
    node.toList.length ≤ 37 → IsLabel (profileJobPrefix lib p key ++ suffix ++ "-" ++ node)

theorem defaultStateLabel_eq (lib : Library) (key : String) : defaultStateLabel lib key =
    labelDomain ++ "/" ++ (cutAndHash lib 47 (profileSlug lib key) key ++ "-state") := by
  have hdomain : labelDomain ++ "/" = "kata-device-provisioner.katacontainers.io/" := by decide
  rw [hdomain]
  rfl

section Prefix

variable (hlib : lib.Documented) (key : String) {p suffix : String} (hp : p ∈ jobPrefixes)
  (hsuffix : suffix ∈ runSuffixes)

include hlib hp hsuffix

theorem jobPrefix_legal : IsLabelStart (profileJobPrefix lib p key ++ suffix) ∧
    (profileJobPrefix lib p key ++ suffix).toList.length ≤ 25 := by
  obtain ⟨hstart, hlength⟩ := jobPrefixes_start hp
  obtain ⟨hchars, hshort⟩ := runSuffixes_chars hsuffix
  have hfront := length_profileJobPrefix_le hlib key p
  refine ⟨(profileJobPrefix_start hlib key hstart).append hchars, ?_⟩
  rw [String.toList_append, List.length_append]
  omega

theorem job_isLabel {node : String} (hnode : IsLabel node) (hshort : node.toList.length ≤ 37) :
    IsLabel (profileJobPrefix lib p key ++ suffix ++ "-" ++ node) := by
  obtain ⟨hstart, hlength⟩ := jobPrefix_legal hlib key hp hsuffix
  have hdash : "-".toList.length = 1 := rfl
  refine (hstart.append (List.all_eq_true.mp (by decide))).label hnode.chars hnode.nonempty
    hnode.last ?_
  rw [String.toList_append, List.length_append]
  omega

end Prefix

/-- Every key makes legal names. -/
theorem names_legal (hlib : lib.Documented) (key : String) : LegalNames lib key where
  slug := profileSlug_isLabel hlib key
  resource := fun _ hsuffix => profileResourceName_isLabel hlib key hsuffix
  state := by
    have hlabel := stateSegment_isLabel hlib key
    exact ⟨_, defaultStateLabel_eq lib key, hlabel, hlabel.validName⟩
  stateKey := by
    rw [defaultStateLabel_eq]
    exact validKey_of_isLabel (stateSegment_isLabel hlib key)
  jobPrefix := fun _ hp _ hsuffix => jobPrefix_legal hlib key hp hsuffix
  job := fun _ hp _ hsuffix _ hnode hshort => job_isLabel hlib key hp hsuffix hnode hshort

theorem names_legal_foo : LegalNames fooLibrary "Foo" := names_legal fooLibrary_documented "Foo"

/-! ## What is rendered -/

theorem run_suffixes {root : Root} {mode : String} {overrides : List String} {run : Run}
    (hmodes : Normalized root.values overrides) (h : run ∈ runList root.values mode overrides) :
    run.suffix ∈ runSuffixes ∧ "provision" ++ run.suffix ++ "-dispatcher" ∈ resourceSuffixes := by
  have hall : ∀ suffix ∈ runSuffixes,
      "provision" ++ suffix ++ "-dispatcher" ∈ resourceSuffixes := by
    decide +kernel
  have hmem : run.suffix ∈ runSuffixes := by
    rcases List.mem_cons.mp h with rfl | h
    · exact List.mem_cons_self
    · obtain ⟨m, hm, rfl⟩ := List.mem_map.mp h
      exact List.mem_cons_of_mem _ (List.mem_map_of_mem (hmodes.modes m (mem_uniq.mp hm)))
  exact ⟨hmem, hall _ hmem⟩

/-- Whatever is rendered for a profile has legal names, and room for those of its
per-node Jobs. -/
theorem dispatchers_legal (hlib : lib.Documented) {root : Root} {ds : List Dispatcher}
    (h : dispatchersForProfile lib root = .ok ds) :
    ∀ d ∈ ds, IsLabel d.name ∧ IsLabel d.jobTemplates ∧ IsLabel d.multiInstallSuffix ∧
      IsLabelStart d.namePrefix ∧ d.namePrefix.toList.length ≤ 25 := by
  obtain ⟨mode, overrides, _, image, _, hmodes, _, _, rfl⟩ := dispatchers_ok h
  intro d hd
  obtain ⟨run, hrun, rfl⟩ := List.mem_map.mp hd
  obtain ⟨hsuffix, hresource⟩ := run_suffixes hmodes hrun
  simp only [dispatcher]
  exact ⟨profileResourceName_isLabel hlib _ hresource,
    profileResourceName_isLabel hlib _ (by decide), profileSlug_isLabel hlib _,
    jobPrefix_legal hlib _ (by decide) hsuffix⟩

end KataDeviceProvisioner.Ports.Chart
