import KataDeviceProvisioner.Ports.IndexRuns

/-!
# Generating the index and checking it

Only the last operation of the program can change anything, so what fails leaves
the directory as it was.  Checking does all that generating does up to there and
compares instead: it succeeds where generating would change nothing, and so
whenever the index has just been generated (`check_generated`).
-/

namespace KataDeviceProvisioner.Ports.ProfileIndex

open KataDeviceProvisioner.Verified

/-! ## The last operation -/

section Finish

variable {lib : Library} {A : Adversary} {dir dir' : Directory} {t : List (Event Op Directory)}
  {text : String}

theorem finish_check_done (h : Runs machine A (finish true text) dir (.done ()) dir' t) :
    dir.lookup indexFile = some (.file text.toByteArray) ∧ dir' = dir := by
  obtain ⟨current, s₁, _, _, hread, hrest, _⟩ := runs_bind_done.mp h
  obtain ⟨hcurrent, rfl⟩ := runs_read hread
  obtain ⟨hsame, hret⟩ := runs_guard_done.mp hrest
  obtain ⟨_, rfl, _⟩ := runs_pure_iff.mp hret
  rw [not_not.mp hsame] at hcurrent
  exact ⟨read_eq_ok_iff.mp hcurrent, rfl⟩

theorem finish_write_done (h : Runs machine A (finish false text) dir (.done ()) dir' t) :
    dir' = dir.insert indexFile (.file text.toByteArray) := by
  obtain ⟨hanswer, _⟩ := runs_perform_done.mp (runs_mapError_done.mp h)
  exact write_ok hanswer

/-- A write that failed wrote nothing. -/
theorem finish_write_error {e : Error}
    (h : Runs machine A (finish false text) dir (.stopped (.error e)) dir' t) : dir' = dir := by
  obtain ⟨out, hrun, hout⟩ := runs_mapError_iff.mp h
  obtain ⟨_, rfl, _⟩ | ⟨_, _, rfl, _⟩ | ⟨e', hresp, rfl, _⟩ := runs_perform_iff.mp hrun
  · cases hout
  · cases hout
  · rcases hresp.error with hanswer | ⟨_, hfallible, _⟩
    · exact write_error hanswer
    · cases hfallible

/-- Where the file has been written, checking succeeds. -/
theorem finish_yields (h : dir.lookup indexFile = some (.file text.toByteArray)) :
    (finish true text).Yields machine dir () := by
  have hanswer : machine.answer dir (.readToString indexFile) = (.ok text, dir) :=
    congrArg (·, dir) (read_eq_ok_iff.mpr h)
  refine yields_bind (yields_mapError (yields_perform hanswer)) ?_
  rw [if_neg (not_not.mpr rfl)]
  exact yields_pure ()

/-- `index.json` is a file, or is not there. -/
def Writable (dir : Directory) : Prop := ∀ error, dir.lookup indexFile ≠ some (.other error)

theorem write_writable (h : Writable dir) :
    dir.write indexFile text = (.ok (), dir.insert indexFile (.file text.toByteArray)) := by
  unfold Directory.write
  split
  · rename_i error hother
    exact absurd hother (h error)
  · rfl

theorem finish_writes (text : String) (h : Writable dir) :
    (exec machine (finish false text) [] dir).outcome = .done () ∧
      (exec machine (finish false text) [] dir).state =
        dir.insert indexFile (.file text.toByteArray) := by
  have hanswer : machine.answer dir (.write indexFile text) =
      (.ok (), dir.insert indexFile (.file text.toByteArray)) := write_writable h
  simp only [finish, Bool.false_eq_true, if_false, issue, Program.perform, Program.mapError, exec,
    List.headD_nil, respond, hanswer, and_self]

end Finish

/-! ## Generating and checking -/

section Generate

variable {lib : Library} {A : Adversary} {dir dir' : Directory} {t : List (Event Op Directory)}
  {check : Bool}

/-- A run of the program that returns has an output, and finishes with it. -/
theorem generate_done (h : Runs machine A (generate lib check) dir (.done ()) dir' t) :
    ∃ text u v, Runs machine A (output lib) dir (.done text) dir u ∧
      Runs machine A (finish check text) dir (.done ()) dir' v := by
  obtain ⟨text, s₁, u, v, houtput, hfinish, _⟩ := runs_bind_done.mp h
  obtain rfl := runs_reads output_reads houtput
  exact ⟨text, u, v, houtput, hfinish⟩

theorem generate_error {e : Error}
    (h : Runs machine A (generate lib false) dir (.stopped (.error e)) dir' t) : dir' = dir := by
  obtain ⟨text, s₁, _, _, houtput, hfinish, _⟩ | ⟨_, _, houtput⟩ := runs_bind_iff.mp h
  · obtain rfl := runs_reads output_reads houtput
    exact finish_write_error hfinish
  · exact runs_reads output_reads houtput

theorem generate_indexed (h : Runs machine A (generate lib check) dir (.done ()) dir' t) :
    ∃ index pretty, Catalogued lib dir index ∧ lib.toStringPretty index = .ok pretty ∧
      dir'.lookup indexFile = some (.file (pretty ++ "\n").toByteArray) := by
  obtain ⟨text, _, _, houtput, hfinish⟩ := generate_done h
  obtain ⟨index, pretty, hindex, hpretty, rfl⟩ := output_done houtput
  refine ⟨index, pretty, hindex, hpretty, ?_⟩
  cases check with
  | true =>
      obtain ⟨hfile, rfl⟩ := finish_check_done hfinish
      exact hfile
  | false =>
      rw [finish_write_done hfinish]
      exact AList.lookup_insert dir

theorem generate_check_reads : (generate lib true).Uses Op.Reads :=
  uses_bind output_reads check_reads

/-- With nothing interfering the program does what its last part does with the
output, if it gets that far. -/
theorem exec_generate {text : String}
    (h : (exec machine (output lib) [] dir).outcome = .done text) :
    (exec machine (generate lib check) [] dir).outcome =
        (exec machine (finish check text) [] dir).outcome ∧
      (exec machine (generate lib check) [] dir).state =
        (exec machine (finish check text) [] dir).state := by
  have hstate := runs_reads output_reads (exec_runs_absent machine (output lib) dir)
  unfold generate
  rw [exec_bind_done (finish check) h, exec_nil_rest, hstate]
  exact ⟨rfl, rfl⟩

theorem generate_check_iff :
    (exec machine (generate lib true) [] dir).outcome = .done () ↔
      (exec machine (generate lib false) [] dir).outcome = .done () ∧
        (exec machine (generate lib false) [] dir).state.lookup indexFile =
          dir.lookup indexFile := by
  cases houtput : (exec machine (output lib) [] dir).outcome with
  | stopped why =>
      unfold generate
      rw [exec_bind_stopped (finish true) houtput, exec_bind_stopped (finish false) houtput]
      constructor
      · intro h
        cases h
      · intro h
        cases h.1
  | done text =>
      rw [(exec_generate houtput).1, (exec_generate houtput).1, (exec_generate houtput).2]
      have hcheck := exec_runs_absent machine (finish true text) dir
      have hwrite := exec_runs_absent machine (finish false text) dir
      constructor
      · intro hdone
        rw [hdone] at hcheck
        obtain ⟨hfile, _⟩ := finish_check_done hcheck
        have hwritable : Writable dir := fun error hother => by
          rw [hfile] at hother
          cases hother
        obtain ⟨hwritten, hstate⟩ := finish_writes text hwritable
        rw [hstate, AList.lookup_insert, hfile]
        exact ⟨hwritten, rfl⟩
      · intro ⟨hwritten, hsame⟩
        rw [hwritten] at hwrite
        rw [finish_write_done hwrite, AList.lookup_insert] at hsame
        exact (finish_yields hsame.symm _ _ _ hcheck).1

end Generate

/-! ## Once more -/

section Again

variable {lib : Library} {dir dir' : Directory} {t : List (Event Op Directory)} {entry : Entry}
  {names : List String}

theorem read_insert {name : FileName} (h : name ≠ indexFile) :
    Directory.read (dir.insert indexFile entry) name = dir.read name := by
  unfold Directory.read
  rw [AList.lookup_insert_ne h]

/-- The index is no values file. -/
theorem stems_insert : stems (dir.insert indexFile entry) = stems dir := by
  have hindex : ∀ stem, toStr indexFile ≠ some (stem ++ ".values.yaml") := by
    intro stem h
    exact valuesFileName_ne_indexFile stem (Text.fromUTF8?_eq_some_iff.mp h).symm
  ext stem
  constructor
  · rintro ⟨file, hfile, hstem⟩
    rcases (AList.mem_insert dir).mp (AList.mem_keys.mpr hfile) with rfl | hold
    · exact absurd hstem (hindex stem)
    · exact ⟨file, AList.mem_keys.mp hold, hstem⟩
  · rintro ⟨file, hfile, hstem⟩
    exact ⟨file, AList.mem_keys.mp ((AList.mem_insert dir).mpr (.inr (AList.mem_keys.mpr hfile))),
      hstem⟩

/-- What read its inputs reads the same beside another index. -/
theorem inputs_again {α : Type} {p : Generate α} {a : α} (hp : p.Uses Op.Inputs)
    (h : Runs machine .absent p dir (.done a) dir' t) :
    p.Yields machine (dir.insert indexFile entry) a := by
  refine yields_of_alike hp (fun op hop => ?_) (fun op hop => ?_) h
  · exact responds_reads (A := .absent) hop.reads .answered
  · cases op with
    | readToString name => exact congrArg (·, _) (read_insert hop)
    | _ => exact hop.elim

theorem checkEntry_yields {file : FileName}
    (h : ∀ stem, toStr file = some (stem ++ ".values.yaml") → stem = "MIXED-FLEET" ∨ stem ∈ names) :
    (checkEntry names file).Yields machine dir () := by
  refine yields_bind (yields_perform (a := file) rfl) ?_
  cases hfound : (toStr file).bind (Text.stripSuffix ".values.yaml") with
  | none => exact yields_pure ()
  | some name =>
      obtain ⟨text, htext, hstrip⟩ := Option.bind_eq_some_iff.mp hfound
      rw [Text.stripSuffix_eq_some_iff.mp hstrip] at htext
      have hlisted : ¬(name ≠ "MIXED-FLEET" ∧ name ∉ names) := fun hnot =>
        (h name htext).elim hnot.1 hnot.2
      dsimp only
      rw [if_neg hlisted]
      exact yields_pure ()

theorem checkListed_yields (h : ∀ stem ∈ stems dir, stem = "MIXED-FLEET" ∨ stem ∈ names) :
    (checkListed names).Yields machine dir () := by
  refine yields_bind (yields_mapError (yields_perform (a := dir.keys) rfl)) ?_
  refine yields_forEach fun file hfile => checkEntry_yields fun stem hstem => ?_
  exact h stem ⟨file, hfile, hstem⟩

/-- The index has no part in what it has to be. -/
theorem output_again {text : String}
    (h : Runs machine .absent (output lib) dir (.done text) dir' t) :
    (output lib).Yields machine (dir.insert indexFile entry) text := by
  obtain ⟨catalog, s₁, _, _, hcatalog, hrest, _⟩ := runs_bind_done.mp h
  obtain rfl := runs_inputs readCatalog_inputs hcatalog
  obtain ⟨families, s₂, _, _, hfamilies, hrest₂, _⟩ := runs_bind_done.mp hrest
  obtain rfl := runs_inputs (familyEntries_inputs _ _ _) hfamilies
  obtain ⟨_, s₃, _, _, hlisted, hrest₃, _⟩ := runs_bind_done.mp hrest₂
  obtain ⟨pretty, s₄, _, _, hpretty, hret, _⟩ := runs_bind_done.mp hrest₃
  obtain ⟨hwritten, _, _⟩ := runs_ofExcept_done.mp hpretty
  obtain ⟨htext, _, _⟩ := runs_pure_iff.mp hret
  refine yields_bind (inputs_again readCatalog_inputs hcatalog) ?_
  refine yields_bind (inputs_again (familyEntries_inputs _ _ _) hfamilies) ?_
  refine yields_bind (checkListed_yields ?_) ?_
  · rw [stems_insert]
    exact checkListed_done hlisted
  · refine yields_bind (yields_ofExcept hwritten) ?_
    rw [Outcome.done.inj htext]
    exact yields_pure _

/-- Where the index has just been generated, checking it succeeds. -/
theorem check_generated (h : Runs machine .absent (generate lib false) dir (.done ()) dir' t) :
    (generate lib true).Yields machine dir' () := by
  obtain ⟨text, _, _, houtput, hfinish⟩ := generate_done h
  rw [finish_write_done hfinish]
  exact yields_bind (output_again houtput) (finish_yields (AList.lookup_insert dir))

end Again

/-- Generation is all or nothing, and checking agrees with it. -/
structure AllOrNothing (lib : Library) (dir : Directory) : Prop where
  /-- What fails changes nothing, whatever else went wrong. -/
  failed : ∀ A e dir' t,
    Runs machine A (generate lib false) dir (.stopped (.error e)) dir' t → dir' = dir
  /-- Checking writes nothing, however it ends. -/
  checked : ∀ A out dir' t, Runs machine A (generate lib true) dir out dir' t →
    dir' = dir ∧ ∀ event ∈ t, event.op.Reads
  /-- It succeeds where generating would, and would leave the index as it is. -/
  agrees : (exec machine (generate lib true) [] dir).outcome = .done () ↔
    (exec machine (generate lib false) [] dir).outcome = .done () ∧
      (exec machine (generate lib false) [] dir).state.lookup indexFile = dir.lookup indexFile
  indexed : ∀ check A dir' t, Runs machine A (generate lib check) dir (.done ()) dir' t →
    ∃ index pretty, Catalogued lib dir index ∧ lib.toStringPretty index = .ok pretty ∧
      dir'.lookup indexFile = some (.file (pretty ++ "\n").toByteArray)

theorem generate_allOrNothing (lib : Library) (dir : Directory) : AllOrNothing lib dir where
  failed := fun _ _ _ _ h => generate_error h
  checked := fun _ _ _ _ h =>
    ⟨runs_reads generate_check_reads h, h.events_of_uses generate_check_reads⟩
  agrees := generate_check_iff
  indexed := fun _ _ _ _ h => generate_indexed h

/-! ## A catalog of one profile -/

def catalogText : String :=
  "\x7b\"schemaVersion\":1,\"families\":[\x7b\"id\":\"hopper\",\"displayName\":\"Hopper\"," ++
    "\"modelExamples\":[\"H100\"],\"profiles\":[\"H100\"]\x7d]\x7d"

def valuesText : String :=
  "profiles:\n  H100:\n    enabled: true\n    ccMode: on\n    job:\n      parallelism: 2\n"

/-- The profile of the values file, without blanks. -/
def settingsText : String :=
  "\x7b\"ccMode\":\"on\",\"enabled\":true,\"job\":\x7b\"parallelism\":2\x7d\x7d"

def hopperIndex : Index where
  schemaVersion := 1
  families :=
    [ { id := "hopper"
        displayName := "Hopper"
        modelExamples := ["H100"]
        profiles :=
          [ { name := "H100"
              ccMode := "on"
              valuesFile := "profiles/H100.values.yaml"
              valuesSha256 :=
                "e94d89dba88d1f382dfe2de98df6f6f9ba448cbee5cfd7cc202316d19708c399" } ] } ]

def indexText : String :=
  "\x7b\n  \"schemaVersion\": 1,\n  \"families\": [\n    \x7b\n      \"id\": \"hopper\",\n" ++
    "      \"displayName\": \"Hopper\",\n      \"modelExamples\": [\n        \"H100\"\n      ],\n" ++
    "      \"profiles\": [\n        \x7b\n          \"name\": \"H100\",\n" ++
    "          \"ccMode\": \"on\",\n          \"valuesFile\": \"profiles/H100.values.yaml\",\n" ++
    "          \"valuesSha256\": " ++
    "\"e94d89dba88d1f382dfe2de98df6f6f9ba448cbee5cfd7cc202316d19708c399\"\n        \x7d\n" ++
    "      ]\n    \x7d\n  ]\n\x7d"

/-- The parsers and writers, on these texts. -/
def hopperLibrary : Library where
  parseCatalog text :=
    if text = catalogText then
      .ok { schemaVersion := 1
            families := [⟨"hopper", "Hopper", ["H100"], ["H100"]⟩] }
    else bail "expected value at line 1 column 1"
  parseValues text :=
    if text = valuesText then
      .ok { profiles := AList.singleton "H100" (.object
              [ ("enabled", .bool true), ("ccMode", .string "on")
              , ("job", .object [("parallelism", .number "2")]) ]) }
    else bail "missing field profiles"
  toVec _ := .ok settingsText.toByteArray.toList
  sha256 bytes :=
    if bytes = settingsText.toByteArray.toList then
      "e94d89dba88d1f382dfe2de98df6f6f9ba448cbee5cfd7cc202316d19708c399"
    else ""
  toStringPretty index :=
    if index = hopperIndex then .ok indexText else bail "not the index"

/-- The catalog and the values file, and no index yet. -/
def hopperDirectory : Directory :=
  (AList.singleton catalogFile (.file catalogText.toByteArray)).insert (valuesFileName "H100")
    (.file valuesText.toByteArray)

theorem generate_allOrNothing_hopper :
    AllOrNothing hopperLibrary hopperDirectory ∧
    (exec machine (generate hopperLibrary true) [] hopperDirectory).outcome ≠ .done () ∧
    (exec machine (generate hopperLibrary false) [] hopperDirectory).outcome = .done () ∧
    (exec machine (generate hopperLibrary false) [] hopperDirectory).state.lookup indexFile =
      some (.file (indexText ++ "\n").toByteArray) := by
  have houtput : (exec machine (output hopperLibrary) [] hopperDirectory).outcome =
      .done (indexText ++ "\n") := by
    decide +kernel
  have hnone : hopperDirectory.lookup indexFile = none := by
    decide +kernel
  have hwritable : Writable hopperDirectory := fun error hother => by
    rw [hnone] at hother
    cases hother
  obtain ⟨hdone, hstate⟩ := finish_writes (indexText ++ "\n") hwritable
  refine ⟨generate_allOrNothing hopperLibrary hopperDirectory, fun hcheck => ?_, ?_, ?_⟩
  · rw [(exec_generate houtput).1] at hcheck
    have hrun := exec_runs_absent machine (finish true (indexText ++ "\n")) hopperDirectory
    rw [hcheck] at hrun
    have hfile := (finish_check_done hrun).1
    rw [hnone] at hfile
    cases hfile
  · rw [(exec_generate houtput).1, hdone]
  · rw [(exec_generate houtput).2, hstate, AList.lookup_insert]

end KataDeviceProvisioner.Ports.ProfileIndex
