import KataDeviceProvisioner.Ports.Pcilibs
import Mathlib.Data.List.Sort
import Mathlib.Data.String.Basic

/-!
# Whether the node can do passthrough at all

`src/host.rs`.  Checked before anything is touched, on what sysfs shows.
-/

namespace KataDeviceProvisioner.Ports.Host

def conflictingDrivers : List String := ["nvidia", "nouveau"]

def checkIommu (sysfs : Sysfs) : Except Error Unit :=
  let populated := sysfs.iommuGroups.any fun entries => !entries.isEmpty
  if populated then .ok ()
  else bail ("no IOMMU groups under " ++ sysfs.iommuGroupsPath.display ++
    ": the IOMMU is off. Enable it on the kernel command line " ++
    "(intel_iommu=on / amd_iommu=on) and reboot")

/-- A driver directory holds a link for each bound device, named by address,
and a `module` link that is not a device at all. -/
def devicesHeldBy (pci : Pcilibs) (sysfs : Sysfs) (driver : String) : List String :=
  match sysfs.driverDir driver with
  | none => []
  | some entries =>
      (entries.filter fun name => (pci.normalizeBdf name).isSome).insertionSort (· ≤ ·)

def checkNoConflictingDriver (pci : Pcilibs) (sysfs : Sysfs) : Except Error Unit :=
  conflictingDrivers.forM fun name =>
    let held := devicesHeldBy pci sysfs name
    if held.isEmpty then .ok ()
    else bail ("the " ++ name ++ " driver holds " ++ ", ".intercalate held ++
      ": a passthrough node must not run a host GPU driver. Blacklist " ++ name ++
      " in /etc/modprobe.d, rebuild the initramfs, and reboot")

/-- Probing is not done on a device another driver is driving. -/
def checkProbeable (pci : Pcilibs) (sysfs : Sysfs) : Except Error Unit :=
  checkNoConflictingDriver pci sysfs

def check (pci : Pcilibs) (sysfs : Sysfs) : Except Error Unit := do
  checkIommu sysfs
  checkNoConflictingDriver pci sysfs

end KataDeviceProvisioner.Ports.Host
