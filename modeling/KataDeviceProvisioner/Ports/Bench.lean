import KataDeviceProvisioner.Ports.Main

/-!
# A node to run the model on

A platform with chips the test suite of the source names, for the general
results to be instantiated on: Hopper H100 and GH200, the NVSwitch of a Hopper
baseboard, and a display GPU that has no row in the device table.  What is
plugged in is a parameter.
-/

namespace KataDeviceProvisioner.Ports.Bench

open KataDeviceProvisioner.Verified

/-! ## Devices -/

def device (address : String) (id : UInt16) (classCode : UInt32) (name : String) :
    PciDevice where
  address := address
  vendor := 0x10de
  device := id
  deviceName := name
  classCode := classCode
  driver := ""
  iommuGroup := 14
  numaNode := 0

def h100 (address : String) : PciDevice := device address 0x2330 0x030200 "H100"

def gh200 (address : String) : PciDevice := device address 0x2342 0x030200 "GH200"

/-- A GPU from before confidential computing. -/
def a100 (address : String) : PciDevice := device address 0x20b0 0x030200 "A100"

def nvswitch (address : String) : PciDevice := device address 0x22a3 0x068000 "NVSwitch"

/-- An H100 that reports itself as a display controller. -/
def displayGpu (address : String) : PciDevice := device address 0x2330 0x030000 "H100"

def singleGpu : List PciDevice := [h100 "0000:65:00.0"]

/-- The smallest baseboard: a GPU and a switch. -/
def baseboard : List PciDevice := [h100 "0000:65:00.0", nvswitch "0000:06:00.0"]

/-- An ordinary GPU beside a coherently attached one. -/
def mixed : List PciDevice := [h100 "0000:65:00.0", gh200 "0000:66:00.0"]

/-- A GPU in scope beside one with the same ids that is not. -/
def displayBeside : List PciDevice := [h100 "0000:65:00.0", displayGpu "0000:01:00.0"]

/-! ## The platform -/

def pci : Pcilibs where
  chipFor id :=
    if id = 0x2330 ∨ id = 0x2342 then some { name := "GH100", hopper := true }
    else if id = 0x2901 then some { name := "GB100", hopper := false }
    else none
  isC2c id := id == 0x2342
  isPassthroughCapableClass classCode :=
    classCode >>> 16 == 0x02 || classCode >>> 16 == 0x03 || classCode >>> 8 == 0x0680
  normalizeBdf name := if name.toList.contains ':' then some name else none
  moduleFor table _ id :=
    match table with
    | .error e => .error e
    | .ok text =>
        if id = 0x2342 ∧ Text.contains "nvgrace_gpu_vfio_pci" text = true then
          .ok "nvgrace_gpu_vfio_pci"
        else .error ⟨some .notFound, ["no alias"]⟩

def aliases : String := "alias vfio_pci:v000010DEd00002342sv*sd*bc*sc*i* nvgrace_gpu_vfio_pci\n"

/-- The modules of the kernel. -/
def modules : List String := ["vfio_pci", "nvgrace_gpu_vfio_pci"]

/-- A node with an IOMMU, a modprobe and an alias table, and nothing running. -/
def platform (plugged : List PciDevice)
    (distinct : (plugged.map (·.address)).Nodup := by decide) : Platform where
  pci := pci
  inventory := .ok plugged
  distinct devs h := by
    obtain rfl := Except.ok.inj h
    exact distinct
  devicesPath := ["sys", "bus", "pci", "devices"]
  iommuGroups := some ["14"]
  iommuGroupsPath := ["sys", "kernel", "iommu_groups"]
  driverLinks _ := none
  vfioDev _ := none
  gpuSupportsPpcie address :=
    (plugged.find? fun dev => dev.address == address).any fun dev =>
      supportsPpcie pci dev.device
  procRoot := ["proc"]
  osrelease := .ok "6.8.0"
  readAliases _ := .ok aliases
  isFile path := path == ["host", "usr", "sbin", "modprobe"]
  loadModule module :=
    .ok (if module ∈ modules then { success := true, status := "exit status: 0", stderr := "" }
      else { success := false, status := "exit status: 1", stderr := module ++ " not found" })
  driverFor module :=
    .ok (if module = "nvgrace_gpu_vfio_pci" then "nvgrace-gpu-vfio-pci" else "vfio-pci")
  proc := { entries := some [] }
  devVfio := ["dev", "vfio"]
  hostRoot := ["host"]

/-- Firmware that runs what its knobs hold. -/
def settled (cc : CcMode) (ppcie : PpcieMode) : Firmware where
  knob := { cc := cc, ppcie := ppcie }
  active := { cc := cc, ppcie := ppcie }

/-- A node as it comes up: no boot configuration, no directories but the root. -/
def node (board : String → Firmware) (driver : String → Option String) : Node where
  board := board
  driver := driver
  files _ := none
  dirs path := path.isEmpty

/-- A node an interrupted run left: the GPU is bound, its CC knob is up, and a
boot configuration of some other set of devices is on disk. -/
def dirty : Node where
  board _ := { knob := { cc := .on, ppcie := .off }, active := { cc := .off, ppcie := .off } }
  driver address := if address = "0000:65:00.0" then some "vfio-pci" else none
  files _ := some "options vfio-pci ids=10de:2901"
  dirs _ := true

/-- What `discover` makes of a list of devices. -/
def states (plugged : List PciDevice) : List DeviceState := plugged.map (discovered pci)

end KataDeviceProvisioner.Ports.Bench
