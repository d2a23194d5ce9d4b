import KataDeviceProvisioner.Ports.IndexCheck

/-!
# Which directories have an index

The checks on the way to the output are all there is to having one: a directory
whose catalog and values files pass them (`Publishable`) has its index, which
depends on nothing else (`output_yields`).  So the program accepts those
directories and no others, and an index that was generated passes a later check
as long as what it records has not changed.
-/

namespace KataDeviceProvisioner.Ports.ProfileIndex

open KataDeviceProvisioner.Verified

/-! ## What the loops checked -/

/-- What the outer loop asks of a family. -/
def Family.Headed (family : Family) : Prop :=
  family.id ≠ "" ∧ family.displayName ≠ "" ∧ family.profiles ≠ []

/-- What the inner loop asks of a name. -/
def Spelled (name : String) : Prop := name ≠ "" ∧ validName name = true

/-- The directory has this index. -/
structure Publishable (lib : Library) (dir : Directory) (index : Index) : Prop extends
    Catalogued lib dir index where
  headed : ∀ family ∈ index.families, family.Headed
  spelled : ∀ name ∈ index.profileNames, Spelled name

/-- The text that `index.json` has to be. -/
def Publishes (lib : Library) (dir : Directory) (text : String) : Prop :=
  ∃ index pretty, Publishable lib dir index ∧ lib.toStringPretty index = .ok pretty ∧
    text = pretty ++ "\n"

section Checked

variable {lib : Library} {A : Adversary} {dir dir' : Directory} {t : List (Event Op Directory)}

theorem new_name_iff {name : String} {names : List String} :
    ¬(name = "" ∨ !validName name ∨ name ∈ names) ↔ Spelled name ∧ name ∉ names := by
  simp [Spelled, and_assoc]

theorem profileEntries_spelled {rest names : List String} {entries : List Profile × List String}
    (h : Runs machine A (profileEntries lib rest names) dir (.done entries) dir' t) :
    ∀ name ∈ rest, Spelled name := by
  induction rest generalizing names dir dir' entries t with
  | nil =>
      intro name hname
      cases hname
  | cons name rest ih =>
      obtain ⟨hnew, hloop⟩ := runs_guard_done.mp h
      obtain ⟨_, s₁, _, _, _, hrest, _⟩ := runs_bind_done.mp hloop
      obtain ⟨_, s₂, _, _, hothers, _⟩ := runs_bind_done.mp hrest
      exact List.forall_mem_cons.mpr ⟨(new_name_iff.mp hnew).1, ih hothers⟩

theorem familyEntries_checked {sources : List FamilySource} {ids names : List String}
    {families : List Family × List String}
    (h : Runs machine A (familyEntries lib sources ids names) dir (.done families) dir' t) :
    ∀ source ∈ sources, (source.id ≠ "" ∧ source.displayName ≠ "" ∧ source.profiles ≠ []) ∧
      ∀ name ∈ source.profiles, Spelled name := by
  induction sources generalizing ids names dir dir' families t with
  | nil =>
      intro source hsource
      cases hsource
  | cons source rest ih =>
      obtain ⟨hnew, hchecked⟩ := runs_guard_done.mp h
      obtain ⟨hheaded, hloop⟩ := runs_guard_done.mp hchecked
      obtain ⟨_, s₁, _, _, hentries, hrest, _⟩ := runs_bind_done.mp hloop
      obtain ⟨_, s₂, _, _, hothers, _⟩ := runs_bind_done.mp hrest
      have hid : source.id ≠ "" := fun hempty => hnew (.inl hempty)
      have hhead := not_or.mp hheaded
      exact List.forall_mem_cons.mpr ⟨⟨⟨hid, hhead⟩, profileEntries_spelled hentries⟩, ih hothers⟩

/-- Text that went all the way is what the directory publishes. -/
theorem output_publishes {text : String}
    (h : Runs machine A (output lib) dir (.done text) dir' t) : Publishes lib dir text := by
  obtain ⟨index, pretty, hindex, hpretty, rfl⟩ := output_done h
  obtain ⟨catalog, s₁, _, _, hcatalog, hrest, _⟩ := runs_bind_done.mp h
  obtain ⟨catalogText, hread, hparse, _, rfl⟩ := readCatalog_done hcatalog
  obtain ⟨families, s₂, _, _, hfamilies, _⟩ := runs_bind_done.mp hrest
  have hchecked := familyEntries_checked hfamilies
  obtain ⟨catalogText', catalog', hread', hparse', _, hsources⟩ := hindex.order
  obtain rfl := Except.ok.inj (hread.symm.trans hread')
  obtain rfl := Except.ok.inj (hparse.symm.trans hparse')
  rw [← hsources] at hchecked
  have hfamily : ∀ family ∈ index.families, family.Headed ∧
      ∀ name ∈ family.profiles.map (·.name), Spelled name := by
    intro family hmem
    obtain ⟨⟨hid, hdisplay, hprofiles⟩, hspelled⟩ :=
      hchecked family.source (List.mem_map_of_mem hmem)
    refine ⟨⟨hid, hdisplay, fun hnone => hprofiles ?_⟩, hspelled⟩
    show family.profiles.map (·.name) = []
    rw [hnone, List.map_nil]
  refine ⟨index, pretty, { hindex with headed := fun family hmem => (hfamily family hmem).1
                                       spelled := fun name hname => ?_ }, hpretty, rfl⟩
  obtain ⟨family, hmem, hname⟩ := List.mem_flatMap.mp hname
  exact (hfamily family hmem).2 name hname

end Checked

/-! ## What passes them goes through -/

section Through

variable {lib : Library} {dir : Directory}

theorem yields_read {name : FileName} {f : Error → Error} {text : String}
    (h : dir.read name = .ok text) :
    ((issue (.readToString name)).mapError f).Yields machine dir text :=
  yields_mapError (yields_perform (congrArg (·, dir) h))

theorem readCatalog_yields {text : String} {catalog : Catalog}
    (hread : dir.read catalogFile = .ok text) (hparse : lib.parseCatalog text = .ok catalog)
    (hschema : catalog.schemaVersion = 1) : (readCatalog lib).Yields machine dir catalog := by
  refine yields_bind (yields_read hread) ?_
  refine yields_bind (yields_mapError (yields_ofExcept hparse)) ?_
  exact yields_guard (not_not.mpr hschema) (yields_pure catalog)

/-- What the values file says of a profile is what the inner loop finds. -/
theorem profileEntry_yields {profile : Profile} (h : Described lib dir profile) :
    (profileEntry lib profile.name).Yields machine dir profile := by
  obtain ⟨text, values, json, bytes, hread, hparse, hone, hjson, henabled, hmode, hmem, hbytes,
    hfile, hdigest⟩ := h
  refine yields_bind (yields_read hread) ?_
  refine yields_bind (yields_mapError (yields_ofExcept hparse)) ?_
  refine yields_guard (not_not.mpr hone) ?_
  rw [hjson]
  have hgood : ¬((json.get "enabled").bind Json.asBool ≠ some true ∨
      !(((json.get "ccMode").bind Json.asStr).any fun mode => modes.contains mode)) := by
    simp [henabled, hmode, hmem]
  refine yields_guard hgood ?_
  refine yields_bind (yields_ofExcept hbytes) ?_
  rw [hmode]
  have hprofile : profile =
      { name := profile.name
        ccMode := profile.ccMode
        valuesFile := "profiles/" ++ profile.name ++ ".values.yaml"
        valuesSha256 := lib.sha256 bytes } := by
    rw [← hfile, ← hdigest]
  rw [hprofile]
  exact yields_pure _

/-- The inner loop finds the profiles in the order of their names. -/
theorem profileEntries_yields {profiles : List Profile} {names : List String}
    (hdescribed : ∀ profile ∈ profiles, Described lib dir profile)
    (hspelled : ∀ name ∈ profiles.map (·.name), Spelled name)
    (hnodup : ((profiles.map (·.name)).reverse ++ names).Nodup) :
    (profileEntries lib (profiles.map (·.name)) names).Yields machine dir
      (profiles, (profiles.map (·.name)).reverse ++ names) := by
  induction profiles generalizing names with
  | nil => exact yields_pure _
  | cons profile rest ih =>
      rw [List.map_cons] at hspelled hnodup ⊢
      obtain ⟨hname, hrest⟩ := List.forall_mem_cons.mp hspelled
      rw [List.reverse_cons, List.append_assoc, List.singleton_append] at hnodup ⊢
      have hnew : profile.name ∉ names := (List.nodup_cons.mp hnodup.of_append_right).1
      refine yields_guard (new_name_iff.mpr ⟨hname, hnew⟩) ?_
      refine yields_bind (profileEntry_yields (hdescribed profile List.mem_cons_self)) ?_
      refine yields_bind (ih (fun p hp => hdescribed p (List.mem_cons_of_mem _ hp)) hrest hnodup) ?_
      exact yields_pure _

/-- The outer loop finds the families in the order of the catalog. -/
theorem familyEntries_yields {families : List Family} {ids names : List String}
    (hdescribed : ∀ family ∈ families, ∀ profile ∈ family.profiles, Described lib dir profile)
    (hheaded : ∀ family ∈ families, family.Headed)
    (hspelled : ∀ family ∈ families, ∀ name ∈ family.profiles.map (·.name), Spelled name)
    (hids : ((families.map (·.id)).reverse ++ ids).Nodup)
    (hnames : ((families.flatMap fun family => family.profiles.map (·.name)).reverse ++
      names).Nodup) :
    (familyEntries lib (families.map Family.source) ids names).Yields machine dir
      (families, (families.flatMap fun family => family.profiles.map (·.name)).reverse ++
        names) := by
  induction families generalizing ids names with
  | nil => exact yields_pure _
  | cons family rest ih =>
      rw [List.map_cons] at hids
      rw [List.map_cons]
      rw [List.flatMap_cons, List.reverse_append, List.append_assoc] at hnames
      rw [List.flatMap_cons, List.reverse_append, List.append_assoc]
      rw [List.reverse_cons, List.append_assoc, List.singleton_append] at hids
      obtain ⟨hdescribed, hdescribedRest⟩ := List.forall_mem_cons.mp hdescribed
      obtain ⟨⟨hid, hdisplay, hprofiles⟩, hheadedRest⟩ := List.forall_mem_cons.mp hheaded
      obtain ⟨hspelled, hspelledRest⟩ := List.forall_mem_cons.mp hspelled
      have hnew : family.id ∉ ids := (List.nodup_cons.mp hids.of_append_right).1
      have hnone : family.profiles.map (·.name) ≠ [] := by simpa using hprofiles
      refine yields_guard (not_or.mpr ⟨hid, hnew⟩) ?_
      refine yields_guard (not_or.mpr ⟨hdisplay, hnone⟩) ?_
      refine yields_bind (profileEntries_yields hdescribed hspelled hnames.of_append_right) ?_
      refine yields_bind (ih hdescribedRest hheadedRest hspelledRest hids hnames) ?_
      exact yields_pure _

/-- The loops find the families of the index, and its names. -/
theorem families_yield {index : Index} (h : Publishable lib dir index) :
    (familyEntries lib (index.families.map Family.source) [] []).Yields machine dir
      (index.families, index.profileNames.reverse ++ []) := by
  have hseen : ∀ {xs : List String}, xs.Nodup → (xs.reverse ++ []).Nodup := by
    intro xs hxs
    rw [List.append_nil, List.nodup_reverse]
    exact hxs
  refine familyEntries_yields h.described h.headed (fun family hfamily name hname => ?_)
    (hseen h.families) (hseen h.profiles)
  exact h.spelled name (List.mem_flatMap.mpr ⟨family, hfamily, hname⟩)

/-- Every values file but one is that of a profile of the index. -/
theorem Catalogued.stem_listed {index : Index} (h : Catalogued lib dir index) {stem : String}
    (hstem : stem ∈ stems dir) : stem = "MIXED-FLEET" ∨ stem ∈ index.profileNames := by
  have hunion : stem ∈ {name | name ∈ index.profileNames} ∪ {"MIXED-FLEET"} := by
    rw [h.listed]
    exact .inl hstem
  exact hunion.symm

theorem output_yields {text : String} (h : Publishes lib dir text) :
    (output lib).Yields machine dir text := by
  obtain ⟨index, pretty, hindex, hpretty, rfl⟩ := h
  obtain ⟨catalogText, catalog, hread, hparse, hschema, hsources⟩ := hindex.order
  refine yields_bind (readCatalog_yields hread hparse hschema) ?_
  rw [← hsources]
  refine yields_bind (families_yield hindex) ?_
  have hlisted : ∀ stem ∈ stems dir,
      stem = "MIXED-FLEET" ∨ stem ∈ index.profileNames.reverse ++ [] := by
    intro stem hstem
    rw [List.append_nil, List.mem_reverse]
    exact hindex.stem_listed hstem
  refine yields_bind (checkListed_yields hlisted) ?_
  have hsame : ({ schemaVersion := 1, families := index.families } : Index) = index := by
    rw [← hindex.schema]
  refine yields_bind (yields_ofExcept (a := pretty) ?_) (yields_pure _)
  rw [← hpretty]
  exact congrArg lib.toStringPretty hsame

/-- A directory has one index. -/
theorem publishable_unique {index index' : Index} (h : Publishable lib dir index)
    (h' : Publishable lib dir index') : index = index' := by
  obtain ⟨text, catalog, hread, hparse, _, hsources⟩ := h.order
  obtain ⟨text', catalog', hread', hparse', _, hsources'⟩ := h'.order
  obtain rfl := Except.ok.inj (hread.symm.trans hread')
  obtain rfl := Except.ok.inj (hparse.symm.trans hparse')
  have hyields := families_yield h
  rw [hsources, ← hsources'] at hyields
  have hfamilies := (Prod.mk.inj (hyields.unique (families_yield h'))).1
  cases index
  cases index'
  obtain rfl : _ = _ := hfamilies
  rw [Index.mk.injEq]
  exact ⟨h.schema.trans h'.schema.symm, rfl⟩

end Through

/-! ## Generating and checking -/

section Accepts

variable {lib : Library} {dir dir' : Directory} {text : String}

theorem generate_iff :
    ((exec machine (generate lib false) [] dir).outcome = .done () ∧
      (exec machine (generate lib false) [] dir).state =
        dir.insert indexFile (.file text.toByteArray)) ↔
      Publishes lib dir text ∧ Writable dir := by
  constructor
  · rintro ⟨hdone, hstate⟩
    have hrun := exec_runs_absent machine (generate lib false) dir
    rw [hdone] at hrun
    obtain ⟨text', _, _, houtput, hfinish⟩ := generate_done hrun
    have hinsert := finish_write_done hfinish
    rw [hstate] at hinsert
    have hlookup := congrArg (AList.lookup indexFile) hinsert
    rw [AList.lookup_insert, AList.lookup_insert] at hlookup
    have htext : text = text' :=
      String.toByteArray_inj.mp (Entry.file.inj (Option.some.inj hlookup))
    refine ⟨htext ▸ output_publishes houtput, fun error hother => ?_⟩
    obtain ⟨hanswer, _⟩ := runs_perform_done.mp (runs_mapError_done.mp hfinish)
    have hblocked : dir.write indexFile text' = (.error error, dir) := by
      unfold Directory.write
      rw [hother]
    exact absurd (hblocked.symm.trans hanswer) (by simp)
  · rintro ⟨hpublishes, hwritable⟩
    have houtput := (output_yields hpublishes).exec.1
    rw [(exec_generate houtput).1, (exec_generate houtput).2]
    exact finish_writes text hwritable

theorem check_iff :
    (exec machine (generate lib true) [] dir).outcome = .done () ↔
      ∃ text, Publishes lib dir text ∧ dir.lookup indexFile = some (.file text.toByteArray) := by
  constructor
  · intro hdone
    have hrun := exec_runs_absent machine (generate lib true) dir
    rw [hdone] at hrun
    obtain ⟨text, _, _, houtput, hfinish⟩ := generate_done hrun
    exact ⟨text, output_publishes houtput, (finish_check_done hfinish).1⟩
  · rintro ⟨text, hpublishes, hfile⟩
    exact (yields_bind (output_yields hpublishes) (finish_yields hfile)).exec.1

/-- The values files are those under other names than the index's. -/
theorem stems_congr (h : ∀ name, name ≠ indexFile → dir'.lookup name = dir.lookup name) :
    stems dir' = stems dir := by
  have hkeys : ∀ name, name ≠ indexFile → (name ∈ dir'.keys ↔ name ∈ dir.keys) := by
    intro name hname
    rw [← AList.mem_keys, ← AList.mem_keys, ← AList.lookup_isSome, ← AList.lookup_isSome,
      h name hname]
  have hother : ∀ file stem, toStr file = some (stem ++ ".values.yaml") → file ≠ indexFile := by
    rintro file stem hstem rfl
    exact valuesFileName_ne_indexFile stem (Text.fromUTF8?_eq_some_iff.mp hstem).symm
  ext stem
  constructor
  · rintro ⟨file, hfile, hstem⟩
    exact ⟨file, (hkeys file (hother file stem hstem)).mp hfile, hstem⟩
  · rintro ⟨file, hfile, hstem⟩
    exact ⟨file, (hkeys file (hother file stem hstem)).mpr hfile, hstem⟩

/-- A directory of the same files has the same index, whatever index is there and
in whatever order they are listed. -/
theorem Publishable.congr {index : Index} (h : Publishable lib dir index)
    (hsame : ∀ name, name ≠ indexFile → dir'.lookup name = dir.lookup name) :
    Publishable lib dir' index := by
  have hread : ∀ name, name ≠ indexFile → dir'.read name = dir.read name := by
    intro name hname
    unfold Directory.read
    rw [hsame name hname]
  have hcatalog : catalogFile ≠ indexFile := by decide +kernel
  refine { h with
    order := ?_, described := fun family hfamily profile hprofile => ?_, listed := ?_ }
  · rw [hread catalogFile hcatalog]
    exact h.order
  · unfold Described
    rw [hread _ (valuesFileName_ne_indexFile profile.name)]
    exact h.described family hfamily profile hprofile
  · rw [stems_congr hsame]
    exact h.listed

/-- The program accepts the directories that have an index, and no others. -/
structure Accepts (lib : Library) (dir : Directory) : Prop where
  generates : ∀ text, (exec machine (generate lib false) [] dir).outcome = .done () ∧
      (exec machine (generate lib false) [] dir).state =
        dir.insert indexFile (.file text.toByteArray) ↔
    Publishes lib dir text ∧ Writable dir
  checks : (exec machine (generate lib true) [] dir).outcome = .done () ↔
    ∃ text, Publishes lib dir text ∧ dir.lookup indexFile = some (.file text.toByteArray)
  /-- Whatever else went wrong, what succeeded has left the index. -/
  interfered : ∀ check A dir' t, Runs machine A (generate lib check) dir (.done ()) dir' t →
    ∃ text, Publishes lib dir text ∧ dir'.lookup indexFile = some (.file text.toByteArray)
  only : ∀ text text', Publishes lib dir text → Publishes lib dir text' → text = text'
  /-- The order of the listing and the index that is there have no part in it. -/
  depends : ∀ dir' text, (∀ name, name ≠ indexFile → dir'.lookup name = dir.lookup name) →
    (Publishes lib dir' text ↔ Publishes lib dir text)

theorem generate_accepts (lib : Library) (dir : Directory) : Accepts lib dir where
  generates := fun _ => generate_iff
  checks := check_iff
  interfered := by
    intro check A dir' t h
    obtain ⟨text, _, _, houtput, hfinish⟩ := generate_done h
    refine ⟨text, output_publishes houtput, ?_⟩
    cases check with
    | true =>
        obtain ⟨hfile, rfl⟩ := finish_check_done hfinish
        exact hfile
    | false =>
        rw [finish_write_done hfinish]
        exact AList.lookup_insert dir
  only := fun _ _ h h' => (output_yields h).unique (output_yields h')
  depends := by
    intro dir' text hsame
    constructor
    · rintro ⟨index, pretty, hindex, hpretty⟩
      exact ⟨index, pretty, hindex.congr fun name hname => (hsame name hname).symm, hpretty⟩
    · rintro ⟨index, pretty, hindex, hpretty⟩
      exact ⟨index, pretty, hindex.congr hsame, hpretty⟩

end Accepts

/-! ## What makes an index stale -/

section Stale

variable {lib : Library} {A : Adversary} {dir dir₁ dir₂ : Directory}
  {t : List (Event Op Directory)}

/-- The directory still says what the index says: the catalog lists the same
families, the values file of each profile still has its mode and its digest, and no
other values file is there. -/
structure Current (lib : Library) (dir : Directory) (index : Index) : Prop where
  catalog : ∃ text catalog, dir.read catalogFile = .ok text ∧
    lib.parseCatalog text = .ok catalog ∧ catalog.schemaVersion = 1 ∧
    catalog.families = index.families.map Family.source
  described : ∀ family ∈ index.families, ∀ profile ∈ family.profiles, Described lib dir profile
  listed : ∀ stem ∈ stems dir, stem = "MIXED-FLEET" ∨ stem ∈ index.profileNames

/-- What was checked of an index once is only checked against the directory again. -/
theorem publishable_iff_current {index : Index} (h : Publishable lib dir₁ index) :
    Publishable lib dir₂ index ↔ Current lib dir₂ index := by
  constructor
  · intro h₂
    obtain ⟨text, catalog, hread, hparse, hschema, hsources⟩ := h₂.order
    exact ⟨⟨text, catalog, hread, hparse, hschema, hsources.symm⟩, h₂.described,
      fun _ => h₂.stem_listed⟩
  · rintro ⟨⟨text, catalog, hread, hparse, hschema, hsources⟩, hdescribed, hlisted⟩
    have hunion : {name | name ∈ index.profileNames} ∪ {"MIXED-FLEET"} =
        stems dir₂ ∪ {"MIXED-FLEET"} := by
      ext name
      constructor
      · rintro (hname | hfleet)
        · obtain ⟨family, hfamily, hmem⟩ := List.mem_flatMap.mp hname
          obtain ⟨profile, hprofile, rfl⟩ := List.mem_map.mp hmem
          exact .inl (stem_of_described (hdescribed family hfamily profile hprofile))
        · exact .inr hfleet
      · rintro (hstem | hfleet)
        · exact (hlisted name hstem).symm
        · exact .inr hfleet
    exact { h with order := ⟨text, catalog, hread, hparse, hschema, hsources.symm⟩
                   described := hdescribed
                   listed := hunion }

/-- After the index was generated, a check succeeds just as long as the directory
still says what the index says, whatever else is changed in it. -/
theorem check_current
    (hpretty : ∀ index index' pretty, lib.toStringPretty index = .ok pretty →
      lib.toStringPretty index' = .ok pretty → index = index')
    (hrun : Runs machine A (generate lib false) dir (.done ()) dir₁ t)
    (hkept : dir₂.lookup indexFile = dir₁.lookup indexFile) :
    ∃ index, Publishable lib dir index ∧
      ((exec machine (generate lib true) [] dir₂).outcome = .done () ↔ Current lib dir₂ index) := by
  obtain ⟨text, _, _, houtput, hfinish⟩ := generate_done hrun
  obtain ⟨index, pretty, hindex, hwritten, rfl⟩ := output_publishes houtput
  have hfile : dir₂.lookup indexFile = some (.file (pretty ++ "\n").toByteArray) := by
    rw [hkept, finish_write_done hfinish]
    exact AList.lookup_insert dir
  refine ⟨index, hindex, ?_⟩
  rw [check_iff, ← publishable_iff_current hindex]
  constructor
  · rintro ⟨text, ⟨index', pretty', hindex', hwritten', rfl⟩, hfile'⟩
    have hbytes := Entry.file.inj (Option.some.inj (hfile.symm.trans hfile'))
    have htext := congrArg String.toList (String.toByteArray_inj.mp hbytes)
    rw [String.toList_append, String.toList_append] at htext
    obtain rfl := String.toList_inj.mp (List.append_cancel_right htext)
    rw [hpretty index index' pretty hwritten hwritten']
    exact hindex'
  · intro hindex'
    exact ⟨_, ⟨index, pretty, hindex', hwritten, rfl⟩, hfile⟩

/-- A values file the catalog does not list makes the index of the one profile
stale. -/
theorem check_current_unlisted :
    ∃ dir₂ index, Publishable hopperLibrary hopperDirectory index ∧
      ((exec machine (generate hopperLibrary true) [] dir₂).outcome = .done () ↔
        Current hopperLibrary dir₂ index) ∧
      (exec machine (generate hopperLibrary true) [] dir₂).outcome =
        .stopped (.error (.msg "unlisted deployable profile: H200")) := by
  let generated := (exec machine (generate hopperLibrary false) [] hopperDirectory).state
  let dir₂ := generated.insert (valuesFileName "H200") (.file valuesText.toByteArray)
  have hpretty : ∀ index index' pretty, hopperLibrary.toStringPretty index = .ok pretty →
      hopperLibrary.toStringPretty index' = .ok pretty → index = index' := by
    intro index index' pretty h h'
    simp only [hopperLibrary] at h h'
    split at h
    · split at h'
      · simp [*]
      · cases h'
    · cases h
  have hrun := exec_runs_absent machine (generate hopperLibrary false) hopperDirectory
  rw [show (exec machine (generate hopperLibrary false) [] hopperDirectory).outcome = .done () by
    decide +kernel] at hrun
  have hkept : dir₂.lookup indexFile = generated.lookup indexFile :=
    AList.lookup_insert_ne (valuesFileName_ne_indexFile "H200").symm
  obtain ⟨index, hindex, hcheck⟩ := check_current hpretty hrun hkept
  exact ⟨dir₂, index, hindex, hcheck, by decide +kernel⟩

end Stale

end KataDeviceProvisioner.Ports.ProfileIndex
