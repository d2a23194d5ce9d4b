import KataDeviceProvisioner.Ports.ProfileIndex
import Mathlib.Data.Set.Basic

/-!
# What an index that was generated says

The program only looks at the directory until it knows what `index.json` has to
be.  The two loops on the way there carry the ids and names they have seen, and
what they have seen stays free of duplicates (`familyEntries_done`).  Text that
comes out at the end is that of an index the directory bears out (`Catalogued`).
-/

namespace KataDeviceProvisioner.Ports.ProfileIndex

open KataDeviceProvisioner.Verified

/-! ## Files -/

section Files

variable {dir : Directory} {name : FileName} {text : String}

theorem read_eq_ok_iff :
    dir.read name = .ok text ↔ dir.lookup name = some (.file text.toByteArray) := by
  unfold Directory.read
  cases hfound : dir.lookup name with
  | none => simp
  | some entry =>
      cases entry with
      | other error => simp
      | file contents =>
          dsimp only
          cases htext : String.fromUTF8? contents with
          | none =>
              have hne : contents ≠ text.toByteArray := by
                intro heq
                rw [Text.fromUTF8?_eq_some_iff.mpr heq] at htext
                cases htext
              simp [hne]
          | some text' =>
              rw [Text.fromUTF8?_eq_some_iff.mp htext]
              simp [String.toByteArray_inj]

theorem write_ok {dir' : Directory} (h : dir.write name text = (.ok (), dir')) :
    dir' = dir.insert name (.file text.toByteArray) := by
  unfold Directory.write at h
  split at h
  · cases h
  · exact (Prod.mk.inj h).2.symm

theorem write_error {dir' : Directory} {e : Error} (h : dir.write name text = (.error e, dir')) :
    dir' = dir := by
  unfold Directory.write at h
  split at h
  · exact (Prod.mk.inj h).2.symm
  · cases h

end Files

/-! ## Programs that only look -/

section Looking

variable {lib : Library} {A : Adversary} {dir dir' : Directory} {t : List (Event Op Directory)}

theorem responds_reads {op : Op} {r : Except Error op.Res} (hop : op.Reads)
    (h : Responds machine A dir op r dir') : dir' = dir := by
  cases h with
  | answered =>
      cases op with
      | write name contents => exact hop.elim
      | _ => rfl
  | failed => rfl

/-- A program that only looks leaves the directory as it is. -/
theorem runs_reads {α : Type} {p : Generate α} {out : Outcome Error α} (hp : p.Uses Op.Reads)
    (h : Runs machine A p dir out dir' t) : dir' = dir :=
  (h.invariant hp (fun _ _ _ _ hop hs hresp => (responds_reads hop hresp).trans hs) rfl).1

/-- Reading a file that is not the index. -/
def Op.Inputs : Op → Prop
  | .readToString name => name ≠ indexFile
  | _ => False

theorem Op.Inputs.reads {op : Op} (h : op.Inputs) : op.Reads := by
  cases op with
  | readToString name => trivial
  | _ => exact h.elim

theorem runs_inputs {α : Type} {p : Generate α} {out : Outcome Error α} (hp : p.Uses Op.Inputs)
    (h : Runs machine A p dir out dir' t) : dir' = dir :=
  runs_reads (hp.mono fun _ => Op.Inputs.reads) h

theorem valuesFileName_ne_indexFile (name : String) : valuesFileName name ≠ indexFile := by
  intro h
  have hname := congrArg (fun s : String => s.toList.getLast?) (String.toByteArray_inj.mp h)
  have hlast : (name ++ ".values.yaml").toList.getLast? = some 'l' := by
    rw [String.toList_append, List.getLast?_append_of_ne_nil _ (by decide)]
    rfl
  rw [hlast] at hname
  exact absurd hname (by decide)

theorem readCatalog_inputs : (readCatalog lib).Uses Op.Inputs := by
  have hcatalog : catalogFile ≠ indexFile := by decide +kernel
  refine uses_bind (uses_mapError (uses_perform hcatalog)) fun text => ?_
  refine uses_bind (uses_mapError (uses_ofExcept _)) fun catalog => ?_
  split <;> trivial

theorem profileEntry_inputs (name : String) : (profileEntry lib name).Uses Op.Inputs := by
  refine uses_bind (uses_mapError (uses_perform (valuesFileName_ne_indexFile name)))
    fun content => ?_
  refine uses_bind (uses_mapError (uses_ofExcept _)) fun values => ?_
  split
  · trivial
  · split
    · trivial
    · dsimp only
      split
      · trivial
      · refine uses_bind (uses_ofExcept _) fun bytes => ?_
        split <;> trivial

theorem profileEntries_inputs (rest names : List String) :
    (profileEntries lib rest names).Uses Op.Inputs := by
  induction rest generalizing names with
  | nil => trivial
  | cons name rest ih =>
      unfold profileEntries
      split
      · trivial
      · exact uses_bind (profileEntry_inputs name) fun _ => uses_bind (ih _) fun _ => trivial

theorem familyEntries_inputs (families : List FamilySource) (ids names : List String) :
    (familyEntries lib families ids names).Uses Op.Inputs := by
  induction families generalizing ids names with
  | nil => trivial
  | cons family rest ih =>
      unfold familyEntries
      split
      · trivial
      · split
        · trivial
        · exact uses_bind (profileEntries_inputs _ _) fun _ => uses_bind (ih _ _) fun _ => trivial

theorem checkListed_reads (names : List String) : (checkListed names).Uses Op.Reads := by
  refine uses_bind (uses_mapError (uses_perform trivial)) fun listing => ?_
  refine uses_forEach fun entry _ => uses_bind (uses_perform trivial) fun path => ?_
  split
  · trivial
  · split <;> trivial

theorem output_reads : (output lib).Uses Op.Reads := by
  refine uses_bind (readCatalog_inputs.mono fun _ => Op.Inputs.reads) fun catalog => ?_
  refine uses_bind ((familyEntries_inputs _ _ _).mono fun _ => Op.Inputs.reads) fun families => ?_
  refine uses_bind (checkListed_reads _) fun _ => ?_
  exact uses_bind (uses_ofExcept _) fun _ => trivial

theorem check_reads (text : String) : (finish true text).Uses Op.Reads := by
  refine uses_bind (uses_mapError (uses_perform trivial)) fun current => ?_
  split <;> trivial

end Looking

/-! ## What the checks establish -/

/-- The values file of a profile says what the index says of it. -/
def Described (lib : Library) (dir : Directory) (profile : Profile) : Prop :=
  ∃ text values json bytes, dir.read (valuesFileName profile.name) = .ok text ∧
    lib.parseValues text = .ok values ∧ values.profiles.entries.length = 1 ∧
    values.profiles.lookup profile.name = some json ∧
    (json.get "enabled").bind Json.asBool = some true ∧
    (json.get "ccMode").bind Json.asStr = some profile.ccMode ∧ profile.ccMode ∈ modes ∧
    lib.toVec json = .ok bytes ∧
    profile.valuesFile = "profiles/" ++ profile.name ++ ".values.yaml" ∧
    profile.valuesSha256 = lib.sha256 bytes

/-- What the catalog says of a family of the index. -/
def Family.source (family : Family) : FamilySource where
  id := family.id
  displayName := family.displayName
  modelExamples := family.modelExamples
  profiles := family.profiles.map (·.name)

def Index.profileNames (index : Index) : List String :=
  index.families.flatMap fun family => family.profiles.map (·.name)

/-- What the names of values files start with. -/
def stems (dir : Directory) : Set String :=
  {stem | ∃ file ∈ dir.keys, toStr file = some (stem ++ ".values.yaml")}

/-- What an index says, if it was generated from the directory. -/
structure Catalogued (lib : Library) (dir : Directory) (index : Index) : Prop where
  schema : index.schemaVersion = 1
  order : ∃ text catalog, dir.read catalogFile = .ok text ∧
    lib.parseCatalog text = .ok catalog ∧ catalog.schemaVersion = 1 ∧
    index.families.map Family.source = catalog.families
  families : (index.families.map (·.id)).Nodup
  profiles : index.profileNames.Nodup
  described : ∀ family ∈ index.families, ∀ profile ∈ family.profiles, Described lib dir profile
  listed : {name | name ∈ index.profileNames} ∪ {"MIXED-FLEET"} = stems dir ∪ {"MIXED-FLEET"}

section Done

variable {lib : Library} {A : Adversary} {dir dir' : Directory} {t : List (Event Op Directory)}

theorem runs_read {name : FileName} {f : Error → Error} {text : String}
    (h : Runs machine A ((issue (.readToString name)).mapError f) dir (.done text) dir' t) :
    dir.read name = .ok text ∧ dir' = dir := by
  obtain ⟨hanswer, _⟩ := runs_perform_done.mp (runs_mapError_done.mp h)
  obtain ⟨hread, hdir⟩ := Prod.mk.inj hanswer
  exact ⟨hread, hdir.symm⟩

theorem readCatalog_done {catalog : Catalog}
    (h : Runs machine A (readCatalog lib) dir (.done catalog) dir' t) :
    ∃ text, dir.read catalogFile = .ok text ∧ lib.parseCatalog text = .ok catalog ∧
      catalog.schemaVersion = 1 ∧ dir' = dir := by
  obtain ⟨text, s₁, _, _, hread, hrest, _⟩ := runs_bind_done.mp h
  obtain ⟨htext, rfl⟩ := runs_read hread
  obtain ⟨parsed, s₂, _, _, hparse, hrest₂, _⟩ := runs_bind_done.mp hrest
  obtain ⟨hparsed, rfl, _⟩ := runs_ofExcept_done.mp (runs_mapError_done.mp hparse)
  obtain ⟨hschema, hret⟩ := runs_guard_done.mp hrest₂
  obtain ⟨hcatalog, rfl, _⟩ := runs_pure_iff.mp hret
  obtain rfl := Outcome.done.inj hcatalog
  exact ⟨text, htext, hparsed, not_not.mp hschema, rfl⟩

theorem profileEntry_done {name : String} {profile : Profile}
    (h : Runs machine A (profileEntry lib name) dir (.done profile) dir' t) :
    profile.name = name ∧ Described lib dir profile := by
  obtain ⟨content, s₁, _, _, hread, hrest, _⟩ := runs_bind_done.mp h
  obtain ⟨hcontent, rfl⟩ := runs_read hread
  obtain ⟨values, s₂, _, _, hparse, hrest₂, _⟩ := runs_bind_done.mp hrest
  obtain ⟨hvalues, rfl, _⟩ := runs_ofExcept_done.mp (runs_mapError_done.mp hparse)
  obtain ⟨hone, hrest₃⟩ := runs_guard_done.mp hrest₂
  cases hjson : values.profiles.lookup name with
  | none =>
      rw [hjson] at hrest₃
      cases hrest₃
  | some json =>
      rw [hjson] at hrest₃
      obtain ⟨hgood, hrest₄⟩ := runs_guard_done.mp hrest₃
      obtain ⟨henabled, hmode⟩ := not_or.mp hgood
      obtain ⟨bytes, s₃, _, _, hdigest, hrest₅, _⟩ := runs_bind_done.mp hrest₄
      obtain ⟨hbytes, rfl, _⟩ := runs_ofExcept_done.mp hdigest
      cases hcc : (json.get "ccMode").bind Json.asStr with
      | none =>
          rw [hcc] at hrest₅
          cases hrest₅
      | some mode =>
          rw [hcc] at hrest₅ hmode
          obtain ⟨hprofile, _, _⟩ := runs_pure_iff.mp hrest₅
          obtain rfl := Outcome.done.inj hprofile
          have hmem : mode ∈ modes := by simpa using hmode
          exact ⟨rfl, content, values, json, bytes, hcontent, hvalues, not_not.mp hone, hjson,
            not_not.mp henabled, hcc, hmem, hbytes, rfl, rfl⟩

/-- The names the inner loop has seen are new ones, in the order it went. -/
theorem profileEntries_done {rest names : List String} {entries : List Profile × List String}
    (h : Runs machine A (profileEntries lib rest names) dir (.done entries) dir' t) :
    entries.1.map (·.name) = rest ∧ (∀ profile ∈ entries.1, Described lib dir profile) ∧
      entries.2 = rest.reverse ++ names ∧ (names.Nodup → entries.2.Nodup) := by
  induction rest generalizing names dir dir' entries t with
  | nil =>
      obtain ⟨hentries, _, _⟩ := runs_pure_iff.mp h
      obtain rfl := Outcome.done.inj hentries
      exact ⟨rfl, fun _ hprofile => absurd hprofile List.not_mem_nil, rfl, id⟩
  | cons name rest ih =>
      obtain ⟨hnew, hloop⟩ := runs_guard_done.mp h
      have hname : name ∉ names := fun hmem => hnew (.inr (.inr hmem))
      obtain ⟨entry, s₁, _, _, hentry, hrest, _⟩ := runs_bind_done.mp hloop
      obtain ⟨others, s₂, _, _, hothers, hret, _⟩ := runs_bind_done.mp hrest
      obtain ⟨hentries, _, _⟩ := runs_pure_iff.mp hret
      obtain rfl := Outcome.done.inj hentries
      obtain rfl := runs_inputs (profileEntry_inputs name) hentry
      obtain ⟨hself, hdescribed⟩ := profileEntry_done hentry
      obtain ⟨hnames, hall, hseen, hnodup⟩ := ih hothers
      refine ⟨?_, List.forall_mem_cons.mpr ⟨hdescribed, hall⟩, ?_, fun hold => ?_⟩
      · rw [List.map_cons, hself, hnames]
      · rw [hseen, List.reverse_cons, List.append_assoc, List.singleton_append]
      · exact hnodup (List.nodup_cons.mpr ⟨hname, hold⟩)

/-- So have the ids and the names of the outer loop. -/
theorem familyEntries_done {sources : List FamilySource} {ids names : List String}
    {families : List Family × List String}
    (h : Runs machine A (familyEntries lib sources ids names) dir (.done families) dir' t) :
    families.1.map Family.source = sources ∧
      (∀ family ∈ families.1, ∀ profile ∈ family.profiles, Described lib dir profile) ∧
      families.2 = (sources.flatMap (·.profiles)).reverse ++ names ∧
      (names.Nodup → families.2.Nodup) ∧
      (ids.Nodup → ((sources.map (·.id)).reverse ++ ids).Nodup) := by
  induction sources generalizing ids names dir dir' families t with
  | nil =>
      obtain ⟨hfamilies, _, _⟩ := runs_pure_iff.mp h
      obtain rfl := Outcome.done.inj hfamilies
      exact ⟨rfl, fun _ hfamily => absurd hfamily List.not_mem_nil, rfl, id, id⟩
  | cons source rest ih =>
      obtain ⟨hnew, hchecked⟩ := runs_guard_done.mp h
      have hid : source.id ∉ ids := fun hmem => hnew (.inr hmem)
      obtain ⟨_, hloop⟩ := runs_guard_done.mp hchecked
      obtain ⟨entries, s₁, _, _, hentries, hrest, _⟩ := runs_bind_done.mp hloop
      obtain ⟨others, s₂, _, _, hothers, hret, _⟩ := runs_bind_done.mp hrest
      obtain ⟨hfamilies, _, _⟩ := runs_pure_iff.mp hret
      obtain rfl := Outcome.done.inj hfamilies
      obtain rfl := runs_inputs (profileEntries_inputs _ _) hentries
      obtain ⟨hnames, hall, hseen, hnodup⟩ := profileEntries_done hentries
      obtain ⟨hsources, hallRest, hseenRest, hnodupRest, hids⟩ := ih hothers
      refine ⟨?_, List.forall_mem_cons.mpr ⟨hall, hallRest⟩, ?_, fun hold => ?_, fun hold => ?_⟩
      · rw [List.map_cons, hsources]
        exact congrArg (· :: rest) (by rw [Family.source, hnames])
      · rw [hseenRest, hseen, List.flatMap_cons, List.reverse_append, List.append_assoc]
      · exact hnodupRest (hnodup hold)
      · rw [List.map_cons, List.reverse_cons, List.append_assoc, List.singleton_append]
        exact hids (List.nodup_cons.mpr ⟨hid, hold⟩)

theorem checkEntry_done {names : List String} {file : FileName}
    (h : Runs machine A (checkEntry names file) dir (.done ()) dir' t) :
    dir' = dir ∧ ∀ stem, toStr file = some (stem ++ ".values.yaml") →
      stem = "MIXED-FLEET" ∨ stem ∈ names := by
  obtain ⟨path, s₁, _, _, hentry, hrest, _⟩ := runs_bind_done.mp h
  obtain ⟨hpath, _⟩ := runs_perform_done.mp hentry
  obtain ⟨hname, rfl⟩ := Prod.mk.inj hpath
  obtain rfl := Except.ok.inj hname
  have hstrip : ∀ stem, toStr file = some (stem ++ ".values.yaml") →
      (toStr file).bind (Text.stripSuffix ".values.yaml") = some stem := by
    intro stem hstem
    rw [hstem, Option.bind_some, Text.stripSuffix_eq_some_iff]
  cases hfound : (toStr file).bind (Text.stripSuffix ".values.yaml") with
  | none =>
      rw [hfound] at hrest hstrip
      obtain ⟨_, rfl, _⟩ := runs_pure_iff.mp hrest
      exact ⟨rfl, fun stem hstem => absurd (hstrip stem hstem) (by simp)⟩
  | some name =>
      rw [hfound] at hrest hstrip
      obtain ⟨hlisted, hret⟩ := runs_guard_done.mp hrest
      obtain ⟨_, rfl, _⟩ := runs_pure_iff.mp hret
      refine ⟨rfl, fun stem hstem => ?_⟩
      obtain rfl := Option.some.inj (hstrip stem hstem)
      by_contra hnot
      exact hlisted (not_or.mp hnot)

theorem checkListed_done {names : List String}
    (h : Runs machine A (checkListed names) dir (.done ()) dir' t) :
    ∀ stem ∈ stems dir, stem = "MIXED-FLEET" ∨ stem ∈ names := by
  obtain ⟨listing, s₁, _, _, hlist, hloop, _⟩ := runs_bind_done.mp h
  obtain ⟨hanswer, _⟩ := runs_perform_done.mp (runs_mapError_done.mp hlist)
  obtain ⟨hlisting, rfl⟩ := Prod.mk.inj hanswer
  rw [← Except.ok.inj hlisting] at hloop
  have hbody : ∀ file ∈ dir.keys, ∀ s s' u, s = dir →
      Runs machine A (checkEntry names file) s (.done ()) s' u →
        s' = dir ∧ ∀ stem, toStr file = some (stem ++ ".values.yaml") →
          stem = "MIXED-FLEET" ∨ stem ∈ names := by
    rintro file _ s s' u rfl hrun
    exact checkEntry_done hrun
  rintro stem ⟨file, hfile, hstem⟩
  exact (runs_forEach_done hbody rfl hloop).2 file hfile stem hstem

/-- A listed profile's values file is there. -/
theorem stem_of_described {profile : Profile} (h : Described lib dir profile) :
    profile.name ∈ stems dir := by
  obtain ⟨text, _, _, _, hread, _⟩ := h
  refine ⟨valuesFileName profile.name, ?_, Text.fromUTF8?_eq_some_iff.mpr rfl⟩
  rw [← AList.mem_keys, ← AList.lookup_isSome, read_eq_ok_iff.mp hread]
  rfl

/-- Text that went all the way is that of an index the directory bears out. -/
theorem output_done {text : String}
    (h : Runs machine A (output lib) dir (.done text) dir' t) :
    ∃ index pretty, Catalogued lib dir index ∧ lib.toStringPretty index = .ok pretty ∧
      text = pretty ++ "\n" := by
  obtain ⟨catalog, s₁, _, _, hcatalog, hrest, _⟩ := runs_bind_done.mp h
  obtain ⟨catalogText, hread, hparse, hschema, rfl⟩ := readCatalog_done hcatalog
  obtain ⟨families, s₂, _, _, hfamilies, hrest₂, _⟩ := runs_bind_done.mp hrest
  obtain rfl := runs_inputs (familyEntries_inputs _ _ _) hfamilies
  obtain ⟨hsources, hdescribed, hseen, hnames, hids⟩ := familyEntries_done hfamilies
  obtain ⟨_, s₃, _, _, hlisted, hrest₃, _⟩ := runs_bind_done.mp hrest₂
  have hcovered := checkListed_done hlisted
  obtain ⟨pretty, s₄, _, _, hpretty, hret, _⟩ := runs_bind_done.mp hrest₃
  obtain ⟨hwritten, _, _⟩ := runs_ofExcept_done.mp hpretty
  obtain ⟨htext, _, _⟩ := runs_pure_iff.mp hret
  let index : Index := { schemaVersion := 1, families := families.1 }
  have hprofileNames : index.profileNames = catalog.families.flatMap (·.profiles) := by
    rw [← hsources, List.flatMap_map]
    rfl
  rw [List.append_nil, ← hprofileNames] at hseen
  have hfamilyIds : index.families.map (·.id) = catalog.families.map (·.id) := by
    rw [← hsources, List.map_map]
    rfl
  refine ⟨index, pretty, ?_, hwritten, Outcome.done.inj htext⟩
  exact
    { schema := rfl
      order := ⟨catalogText, catalog, hread, hparse, hschema, hsources⟩
      families := by
        have hnodup := hids List.nodup_nil
        rw [List.append_nil, List.nodup_reverse] at hnodup
        rw [hfamilyIds]
        exact hnodup
      profiles := by
        have hnodup := hnames List.nodup_nil
        rw [hseen, List.nodup_reverse] at hnodup
        exact hnodup
      described := hdescribed
      listed := by
        ext name
        constructor
        · rintro (hname | hfleet)
          · obtain ⟨family, hfamily, hmem⟩ := List.mem_flatMap.mp hname
            obtain ⟨profile, hprofile, rfl⟩ := List.mem_map.mp hmem
            exact .inl (stem_of_described (hdescribed family hfamily profile hprofile))
          · exact .inr hfleet
        · rintro (hstem | hfleet)
          · rcases hcovered name hstem with hfleet | hname
            · exact .inr hfleet
            · rw [hseen, List.mem_reverse] at hname
              exact .inl hname
          · exact .inr hfleet }

end Done

end KataDeviceProvisioner.Ports.ProfileIndex
