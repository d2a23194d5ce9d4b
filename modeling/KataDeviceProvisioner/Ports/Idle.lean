import KataDeviceProvisioner.Ports.Device
import Mathlib.Data.List.Sort
import Mathlib.Data.List.Destutter
import Mathlib.Data.String.Basic

/-!
# Whether anything is using a device

`src/idle.rs`.  A process that holds a device has its VFIO node open, so the
scan walks the `fd` directories under `/proc` on one snapshot of it.  Anything
that cannot be read is skipped.
-/

namespace KataDeviceProvisioner.Ports.Idle

/-- A directory under the proc root.  `none` is a part that is missing or
cannot be read, or a name that is not UTF-8. -/
structure Process where
  name : Option String
  /-- The link targets of the entries of `fd`. -/
  fds : Option (List (Option Path))
  comm : Option String
  deriving Repr, DecidableEq

/-- The proc root as one scan finds it. -/
structure Proc where
  entries : Option (List Process)
  deriving Repr, DecidableEq

structure Holder where
  pid : Nat
  comm : String
  node : Path
  deriving Repr, DecidableEq

private def digitValue (c : Char) : Option Nat :=
  if '0'.toNat ≤ c.toNat ∧ c.toNat ≤ '9'.toNat then some (c.toNat - '0'.toNat) else none

private def digitsValue : Nat → List Char → Option Nat
  | n, [] => some n
  | n, c :: cs => (digitValue c).bind fun d => digitsValue (10 * n + d) cs

/-- `name.parse::<u32>().ok()` -/
def parsePid (name : String) : Option Nat :=
  let digits :=
    match name.toList with
    | '+' :: cs => cs
    | cs => cs
  if digits.isEmpty then none
  else (digitsValue 0 digits).filter (· < 2 ^ 32)

/-- `comm.trim()` as far as a `comm` file needs it: white space at both ends. -/
def trim (s : String) : String :=
  String.ofList ((((s.toList.dropWhile Char.isWhitespace).reverse).dropWhile
    Char.isWhitespace).reverse)

/-- Both the legacy group node and the newer cdevs. -/
def vfioNodes (devVfio : Path) (sysfs : Sysfs) (state : DeviceState) : List Path :=
  let group :=
    if 0 ≤ state.iommuGroup then [devVfio ++ [toString state.iommuGroup]] else []
  let cdevs := (sysfs.vfioDev state.address).getD []
  group ++ cdevs.map fun name => devVfio ++ ["devices", name]

/-- The order `sort_by_key(|holder| (holder.pid, holder.node))` uses. -/
def Holder.le (a b : Holder) : Bool :=
  decide (a.pid < b.pid) || (a.pid == b.pid && decide (a.node ≤ b.node))

/-- What one process holds of `nodes`. -/
def holdersIn (nodes : List Path) (process : Process) : List Holder :=
  match process.name.bind parsePid, process.fds with
  | some pid, some fds =>
      fds.filterMap fun fd =>
        match fd with
        | some target =>
            if nodes.contains target then
              some { pid := pid, comm := (process.comm.map trim).getD "?", node := target }
            else none
        | none => none
  | _, _ => []

def holders (proc : Proc) (devVfio : Path) (sysfs : Sysfs) (state : DeviceState) :
    List Holder :=
  let nodes := vfioNodes devVfio sysfs state
  if nodes.isEmpty then []
  else
    match proc.entries with
    | none => []
    | some entries =>
        ((entries.flatMap (holdersIn nodes)).insertionSort (fun a b => a.le b)).destutter
          (· ≠ ·)

end KataDeviceProvisioner.Ports.Idle
