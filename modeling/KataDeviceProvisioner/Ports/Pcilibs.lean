/-!
# What the provisioner takes from outside

The provisioner reads sysfs and talks to GPU firmware through `pcilibs_rs`,
and reports errors through `anyhow` and `std::io`.  None of these is part of
the repository.  This module fixes the types they exchange with it and gathers
the lookup functions of `pcilibs_rs` in one record, `Pcilibs`, which the rest
of the model takes as a parameter.
-/

namespace KataDeviceProvisioner.Ports

/-! ## Errors -/

/-- The kinds of `std::io::Error` the code tells apart. -/
inductive ErrorKind where
  | notFound
  | other
  deriving Repr, DecidableEq

/-- An `anyhow::Error`: its chain of messages, outermost first, and the kind of
the I/O error at the bottom of it if there is one. -/
structure Error where
  kind : Option ErrorKind
  chain : List String
  deriving Repr, DecidableEq

/-- `anyhow!(message)`. -/
def Error.msg (message : String) : Error := ⟨none, [message]⟩

/-- `with_context(|| message)`. -/
def Error.context (message : String) (e : Error) : Error :=
  { e with chain := message :: e.chain }

/-- `format!("{err:#}")`. -/
def Error.render (e : Error) : String := ": ".intercalate e.chain

/-- `bail!(message)`. -/
def bail {α : Type} (message : String) : Except Error α := .error (.msg message)

/-! ## Paths -/

/-- A path as its components. -/
abbrev Path := List String

def Path.display (path : Path) : String := "/" ++ "/".intercalate path

def Path.parent : Path → Option Path
  | [] => none
  | path => some path.dropLast

/-! ## Firmware modes and devices -/

inductive CcMode where
  | off
  | on
  | devTools
  deriving Repr, DecidableEq

inductive PpcieMode where
  | off
  | on
  deriving Repr, DecidableEq

def CcMode.toString : CcMode → String
  | .off => "off"
  | .on => "on"
  | .devTools => "devtools"

def PpcieMode.toString : PpcieMode → String
  | .off => "off"
  | .on => "on"

/-- A row of `cc::CHIPS`. -/
structure Chip where
  name : String
  hopper : Bool
  deriving Repr, DecidableEq

/-- A device as `PCIDeviceManager` lists it. -/
structure PciDevice where
  address : String
  vendor : UInt16
  device : UInt16
  deviceName : String
  classCode : UInt32
  driver : String
  iommuGroup : Int
  numaNode : Int
  deriving Repr, DecidableEq

/-- What `vfio::bind` found. -/
inductive Bound where
  | already
  | now
  deriving Repr, DecidableEq

/-- What a program that was run to its end left, as far as the code looks at it. -/
structure Output where
  success : Bool
  /-- The exit status as it prints. -/
  status : String
  stderr : String
  deriving Repr, DecidableEq

/-- What sysfs shows at one moment.  `none` is a directory that is missing or
cannot be read. -/
structure Sysfs where
  devices : Except Error (List PciDevice)
  devicesPath : Path
  iommuGroups : Option (List String)
  iommuGroupsPath : Path
  driverDir : String → Option (List String)
  currentDriver : String → Option String
  vfioDev : String → Option (List String)

/-- The lookup functions of `pcilibs_rs`. -/
structure Pcilibs where
  /-- `cc::chip_for` -/
  chipFor : UInt16 → Option Chip
  /-- `cc::is_c2c` -/
  isC2c : UInt16 → Bool
  isPassthroughCapableClass : UInt32 → Bool
  normalizeBdf : String → Option String
  /-- `vfio::module_for`, on what reading the alias table gives. -/
  moduleFor : Except Error String → UInt16 → UInt16 → Except Error String

end KataDeviceProvisioner.Ports
