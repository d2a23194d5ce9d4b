import KataDeviceProvisioner.Ports.Pcilibs
import KataDeviceProvisioner.Verified.Runs
import KataDeviceProvisioner.Verified.Text
import Mathlib.Data.List.AList

/-!
# The index of the profiles

`tools/profile-index/src/main.rs`, which checks `catalog.json` against the values
files beside it and writes `index.json`, or with `--check` compares it with the
one that is there.  Everything that can be wrong is found before anything is
written.

The directory holds files of any bytes under names of any bytes, in the order it
lists them.  The parsers, the digest and the writer of JSON are parameters.
-/

namespace KataDeviceProvisioner.Ports.ProfileIndex

open KataDeviceProvisioner.Verified

/-! ## The catalog, the values and the index -/

structure FamilySource where
  id : String
  displayName : String
  modelExamples : List String
  profiles : List String
  deriving Repr, DecidableEq

structure Catalog where
  schemaVersion : UInt32
  families : List FamilySource
  deriving Repr, DecidableEq

/-- `serde_json::Value` -/
inductive Json where
  | null
  | bool (value : Bool)
  | number (text : String)
  | string (value : String)
  | array (items : List Json)
  | object (fields : List (String × Json))

def Json.get (key : String) : Json → Option Json
  | .object fields => fields.lookup key
  | _ => none

def Json.asBool : Json → Option Bool
  | .bool value => some value
  | _ => none

def Json.asStr : Json → Option String
  | .string value => some value
  | _ => none

structure Values where
  profiles : AList fun _ : String => Json

structure Profile where
  name : String
  ccMode : String
  valuesFile : String
  valuesSha256 : String
  deriving Repr, DecidableEq

structure Family where
  id : String
  displayName : String
  modelExamples : List String
  profiles : List Profile
  deriving Repr, DecidableEq

structure Index where
  schemaVersion : UInt32
  families : List Family
  deriving Repr, DecidableEq

/-- What `serde_json`, `serde_yaml` and `sha2` do. -/
structure Library where
  parseCatalog : String → Except Error Catalog
  parseValues : String → Except Error Values
  toVec : Json → Except Error (List UInt8)
  /-- The digest as it is written out. -/
  sha256 : List UInt8 → String
  toStringPretty : Index → Except Error String

/-! ## The directory -/

/-- Byte by byte. -/
instance decidableEqBytes : DecidableEq ByteArray := fun a b =>
  decidable_of_iff (a.data = b.data) ⟨fun h => by cases a; cases b; exact congrArg _ h, congrArg _⟩

/-- The name of a file. -/
abbrev FileName : Type := ByteArray

/-- `name.to_str()` -/
def toStr (name : FileName) : Option String := String.fromUTF8? name

inductive Entry where
  | file (contents : ByteArray)
  /-- A directory, or a file that cannot be opened. -/
  | other (error : Error)
  deriving DecidableEq

abbrev Directory : Type := AList fun _ : FileName => Entry

def Directory.read (dir : Directory) (name : FileName) : Except Error String :=
  match dir.lookup name with
  | none => .error ⟨some .notFound, ["No such file or directory (os error 2)"]⟩
  | some (.other error) => .error error
  | some (.file contents) =>
      match String.fromUTF8? contents with
      | some text => .ok text
      | none => .error ⟨some .other, ["stream did not contain valid UTF-8"]⟩

def Directory.write (dir : Directory) (name : FileName) (contents : String) :
    Except Error Unit × Directory :=
  match dir.lookup name with
  | some (.other error) => (.error error, dir)
  | _ => (.ok (), dir.insert name (.file contents.toByteArray))

inductive Op where
  /-- `fs::read_to_string` -/
  | readToString (name : FileName)
  /-- `fs::read_dir` -/
  | readDir
  /-- The path of one entry it lists. -/
  | dirEntry (name : FileName)
  /-- `fs::write` -/
  | write (name : FileName) (contents : String)

abbrev Op.Res : Op → Type
  | .readToString _ => String
  | .readDir => List FileName
  | .dirEntry _ => FileName
  | .write _ _ => Unit

/-- The operations that only look. -/
def Op.Reads : Op → Prop
  | .write _ _ => False
  | _ => True

abbrev Generate (α : Type) : Type := Program Op Op.Res Error α

abbrev issue (op : Op) : Generate op.Res := Program.perform op

/-- Reading can fail for reasons of its own.  What is written to a file goes in. -/
def machine : Machine Op Op.Res Error Unit Directory where
  answer dir
    | .readToString name => (dir.read name, dir)
    | .readDir => (.ok dir.keys, dir)
    | .dirEntry name => (.ok name, dir)
    | .write name contents => dir.write name contents
  fallible op _ :=
    match op with
    | .write _ _ => false
    | _ => true
  residual dir _ _ := dir

/-! ## Generating -/

def catalogFile : FileName := "catalog.json".toByteArray

def indexFile : FileName := "index.json".toByteArray

/-- The values file of a profile, beside the catalog. -/
def valuesFileName (name : String) : FileName := (name ++ ".values.yaml").toByteArray

def modes : List String := ["off", "on", "devtools", "ppcie"]

/-- `[A-Za-z0-9-]`, byte by byte. -/
def nameByte (ch : UInt8) : Bool :=
  (decide (48 ≤ ch.toNat) && decide (ch.toNat ≤ 57)) ||
    (decide (65 ≤ ch.toNat) && decide (ch.toNat ≤ 90)) ||
    (decide (97 ≤ ch.toNat) && decide (ch.toNat ≤ 122)) || decide (ch.toNat = 45)

def validName (name : String) : Bool := name.toByteArray.toList.all nameByte

section Generate

variable (lib : Library)

def readCatalog : Generate Catalog := do
  let text ← (issue (.readToString catalogFile)).mapError (Error.context "read catalog.json")
  let catalog ← (Program.ofExcept (lib.parseCatalog text)).mapError
    (Error.context "parse catalog.json")
  if catalog.schemaVersion ≠ 1 then .throw (.msg "unsupported catalog schema")
  else return catalog

/-- The inner loop's body, past the checks of the name. -/
def profileEntry (name : String) : Generate Profile := do
  let valuesFile := "profiles/" ++ name ++ ".values.yaml"
  let content ← (issue (.readToString (valuesFileName name))).mapError
    (Error.context ("read " ++ valuesFile))
  let values ← (Program.ofExcept (lib.parseValues content)).mapError
    (Error.context ("parse " ++ valuesFile))
  if values.profiles.entries.length ≠ 1 then
    .throw (.msg (valuesFile ++ " must contain one profile"))
  else
    match values.profiles.lookup name with
    | none => .throw (.msg (valuesFile ++ " must contain profiles." ++ name))
    | some profile =>
        let enabled := (profile.get "enabled").bind Json.asBool
        let ccMode := (profile.get "ccMode").bind Json.asStr
        if enabled ≠ some true ∨ !(ccMode.any fun mode => modes.contains mode) then
          .throw (.msg (valuesFile ++ " has a disabled profile or invalid ccMode"))
        else do
          let bytes ← Program.ofExcept (lib.toVec profile)
          match ccMode with
          | none => .throw (.msg "missing ccMode")
          | some mode =>
              return { name := name
                       ccMode := mode
                       valuesFile := valuesFile
                       valuesSha256 := lib.sha256 bytes }

/-- The inner loop, with the profile names seen so far. -/
def profileEntries : List String → List String → Generate (List Profile × List String)
  | [], names => return ([], names)
  | name :: rest, names =>
      if name = "" ∨ !validName name ∨ name ∈ names then
        .throw (.msg ("invalid or duplicate profile name: " ++ name))
      else do
        let entry ← profileEntry lib name
        let entries ← profileEntries rest (name :: names)
        return (entry :: entries.1, entries.2)

/-- The outer loop, with the family ids and profile names seen so far. -/
def familyEntries : List FamilySource → List String → List String →
    Generate (List Family × List String)
  | [], _, names => return ([], names)
  | family :: rest, ids, names =>
      if family.id = "" ∨ family.id ∈ ids then
        .throw (.msg ("empty or duplicate family id: " ++ family.id))
      else if family.displayName = "" ∨ family.profiles = [] then
        .throw (.msg ("family " ++ family.id ++ " needs a display name and profiles"))
      else do
        let entries ← profileEntries lib family.profiles names
        let families ← familyEntries rest (family.id :: ids) entries.2
        return ({ id := family.id
                  displayName := family.displayName
                  modelExamples := family.modelExamples
                  profiles := entries.1 } :: families.1, families.2)

/-- A values file is for a profile that is listed. -/
def checkEntry (names : List String) (entry : FileName) : Generate Unit := do
  let path ← issue (.dirEntry entry)
  match (toStr path).bind (Text.stripSuffix ".values.yaml") with
  | none => return ()
  | some name =>
      if name ≠ "MIXED-FLEET" ∧ name ∉ names then
        .throw (.msg ("unlisted deployable profile: " ++ name))
      else return ()

def checkListed (names : List String) : Generate Unit := do
  let listing ← (issue .readDir).mapError (Error.context "list profile values")
  Program.forEach (checkEntry names) listing

/-- What `index.json` has to be, and all the checks on the way there. -/
def output : Generate String := do
  let catalog ← readCatalog lib
  let families ← familyEntries lib catalog.families [] []
  checkListed families.2
  let text ← Program.ofExcept
    (lib.toStringPretty { schemaVersion := 1, families := families.1 })
  return text ++ "\n"

/-- The output is compared with `index.json`, or written there. -/
def finish (check : Bool) (text : String) : Generate Unit :=
  if check then do
    let current ← (issue (.readToString indexFile)).mapError
      (Error.context "read generated index.json")
    if current ≠ text then
      .throw (.msg ("profiles/index.json is stale; run cargo run --manifest-path " ++
        "tools/profile-index/Cargo.toml"))
    else return ()
  else
    (issue (.write indexFile text)).mapError (Error.context "write generated index.json")

def generate (check : Bool) : Generate Unit := do
  let text ← output lib
  finish check text

end Generate

/-- The arguments behind the name of the program. -/
def checkFlag : List String → Except Error Bool
  | [] => .ok false
  | ["--check"] => .ok true
  | _ => bail "usage: generate-profile-index [--check]"

def main (lib : Library) (args : List String) : Generate Unit := do
  let check ← Program.ofExcept (checkFlag args)
  generate lib check

end KataDeviceProvisioner.Ports.ProfileIndex
