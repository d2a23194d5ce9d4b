import KataDeviceProvisioner.Ports.Node
import KataDeviceProvisioner.Verified.SortDedup
import KataDeviceProvisioner.Verified.Text

/-!
# The host's kernel modules and boot configuration

`src/modules.rs`: which module a device needs, loading it with the host's own
modprobe, and the three files that make the node do the same at boot.
-/

namespace KataDeviceProvisioner.Ports.Modules

open KataDeviceProvisioner.Verified

variable (plat : Platform)

/-! ## Finding and loading a module -/

def modprobeCandidates : List Path :=
  [ ["usr", "sbin", "modprobe"], ["sbin", "modprobe"]
  , ["usr", "bin", "modprobe"], ["bin", "modprobe"] ]

/-- The running kernel's alias table on the node. -/
def modulesAlias : Except Error Path :=
  let osrelease : Path := plat.procRoot ++ ["sys", "kernel", "osrelease"]
  match plat.osrelease with
  | .ok release => .ok (plat.hostRoot ++ ["lib", "modules", Idle.trim release, "modules.alias"])
  | .error e => .error (e.context ("read the kernel release from " ++ osrelease.display))

def vfioModule (aliases : Path) (vendor device : UInt16) (allowGeneric : Bool) :
    Except Error String :=
  match plat.pci.moduleFor (plat.readAliases aliases) vendor device with
  | .ok module => .ok module
  | .error err =>
      if err.kind = some .notFound ∧ allowGeneric = true then
        -- NotFound can also mean the table is missing.
        match plat.readAliases aliases with
        | .ok _ => .ok "vfio_pci"
        | .error e => .error (e.context ("read " ++ aliases.display))
      else .error err

/-- Returned as the path looks after the chroot, not as it is mounted here. -/
def findModprobe : Except Error String :=
  match modprobeCandidates.find? fun path => plat.isFile (plat.hostRoot ++ path) with
  | some path => .ok path.display
  | none => bail ("no modprobe under " ++ plat.hostRoot.display ++
      ": install kmod on the node")

def modprobe (module : String) : Provision Unit := do
  let command ← Program.ofExcept (findModprobe plat)
  Program.ofExcept (if plat.hostRoot.any fun name => name.toList.contains (Char.ofNat 0) then
      bail (plat.hostRoot.display ++ " contains a NUL")
    else .ok ())
  let output ← (issue (.runModprobe command module)).mapError
    (Error.context ("run host " ++ command ++ " for " ++ module ++ " after chroot to " ++
      plat.hostRoot.display ++ " (needs root and CAP_SYS_CHROOT)"))
  Program.ofExcept (if output.success then .ok ()
    else bail ("host modprobe failed for " ++ module ++ " (" ++ output.status ++ "): " ++
      Idle.trim output.stderr))

/-! ## The boot configuration -/

def vfioStack : List String := ["vfio", "vfio_iommu_type1"]

def modulesLoad : Path := ["etc", "modules-load.d", "kata-device-provisioner.conf"]

def modprobeConf : Path := ["etc", "modprobe.d", "kata-device-provisioner.conf"]

def udevRules : Path := ["etc", "udev", "rules.d", "71-kata-device-provisioner.rules"]

/-- `pcilibs_rs::DRIVER_VFIO_PCI_TYPE` -/
def driverVfioPciType : String := "vfio-pci"

/-- `driver_override` matches the driver name, modprobe the module name. -/
structure Claim where
  address : String
  vendor : UInt16
  device : UInt16
  module : String
  driver : String
  deriving Repr, DecidableEq

/-- A module name under one punctuation. -/
def underscored (module : String) : String := Text.replaceChar '-' '_' module

/-- The variants register an `override_only` alias, so they match nothing until
something writes `driver_override`, which no modprobe file can do. -/
def needsDriverOverride (module : String) : Bool := underscored module != "vfio_pci"

/-- What a rule says before the ids it is keyed on. -/
def ruleHead : String :=
  "ACTION==\"add\", SUBSYSTEM==\"pci\", ATTR\x7bvendor\x7d==\"0x"

/-- What stands between the two ids. -/
def ruleDevice : String := "\", ATTR\x7bdevice\x7d==\"0x"

/-- What stands between the ids and the driver. -/
def ruleDriver : String := "\", ATTR\x7bdriver_override\x7d=\""

/-- What stands between the driver and the module. -/
def ruleModule : String := "\", RUN\x7bbuiltin\x7d+=\"kmod load "

/-- What a rule ends with, but for the line break. -/
def ruleTail : String := "\", RUN+=\"/bin/sh -c 'echo %k > /sys/bus/pci/drivers_probe'\""

/-- Keyed on the ids rather than an address, so the binding follows the card if
it moves slot. -/
def udevRule (vendor device : UInt16) (module driver : String) : String :=
  ruleHead ++ Text.hex4 vendor ++ ruleDevice ++ Text.hex4 device ++ ruleDriver ++ driver ++
    ruleModule ++ module ++ ruleTail ++ "\n"

/-- One entry of the `ids=` list. -/
def idOf (vendor device : UInt16) : String := Text.hex4 vendor ++ ":" ++ Text.hex4 device

/-- What `persist` has gathered from the claims before the one it looks at. -/
structure Draft where
  modules : List String
  ids : List String
  overridden : List String
  rules : List String

def Draft.init : Draft := { modules := vfioStack, ids := [], overridden := [], rules := [] }

/-- One round of the loop of `persist`. -/
def Draft.add (draft : Draft) (claim : Claim) : Draft :=
  -- A module named twice under different punctuation is the same module.
  let modules :=
    if draft.modules.any fun held => underscored held == underscored claim.module then
      draft.modules
    else draft.modules ++ [claim.module]
  if needsDriverOverride claim.module then
    { draft with
      modules := modules
      overridden := draft.overridden ++ [claim.address]
      rules := draft.rules ++ [udevRule claim.vendor claim.device claim.module claim.driver] }
  else
    { draft with
      modules := modules
      ids := draft.ids ++ [idOf claim.vendor claim.device] }

def draftOf (claims : List Claim) : Draft := claims.foldl Draft.add Draft.init

/-- `lines.concat()` -/
def concat : List String → String
  | [] => ""
  | line :: lines => line ++ concat lines

/-- The contents of the three files; `none` is a file that is not there. -/
structure BootConfig where
  modulesLoad : String
  modprobe : String
  udevRules : Option String
  deriving Repr, DecidableEq

def render (claims : List Claim) : BootConfig :=
  let draft := draftOf claims
  let ids := sortDedup draft.ids
  let rules := sortDedup draft.rules
  { modulesLoad := "\n".intercalate draft.modules ++ "\n"
    modprobe :=
      if ids.isEmpty then ""
      else "options " ++ driverVfioPciType ++ " ids=" ++ ",".intercalate ids ++ "\n"
    udevRules := if rules.isEmpty then none else some (concat rules) }

/-! ## Files -/

def remove (path : Path) : Provision Unit := do
  match ← (issue (.removeFile path)).attempt with
  | .ok () => return ()
  | .error err =>
      if err.kind = some .notFound then return ()
      else .throw (err.context ("remove " ++ path.display))

def write (path : Path) (contents : String) : Provision Unit := do
  match path.parent with
  | some parent =>
      (issue (.createDirAll parent)).mapError (Error.context ("create " ++ parent.display))
  | none => pure ()
  (issue (.writeFile path contents)).mapError (Error.context ("write " ++ path.display))

/-- Make the kernel redo at boot what `bind` did by hand.  Returns the devices
the rules carry. -/
def persist (hostRoot : Path) (claims : List Claim) : Provision (List String) := do
  let config := render claims
  write (hostRoot ++ modulesLoad) config.modulesLoad
  write (hostRoot ++ modprobeConf) config.modprobe
  match config.udevRules with
  | none => remove (hostRoot ++ udevRules)
  | some rules => write (hostRoot ++ udevRules) rules
  return (draftOf claims).overridden

def unpersist (hostRoot : Path) : Provision Unit :=
  Program.forEach (fun path => remove (hostRoot ++ path)) [modulesLoad, modprobeConf, udevRules]

end KataDeviceProvisioner.Ports.Modules
