import KataDeviceProvisioner.Ports.Mode

/-!
# Devices and what is in scope

`src/device.rs`, with the two chip lookups it takes from `src/nvidia.rs`.  A
device is in scope when its vendor and class have a row in `DEVICES`; whether
it has a confidential computing mode is decided by its device id.
-/

namespace KataDeviceProvisioner.Ports

inductive Provisioning where
  | nvidiaInBandCc
  | nvidiaInBandPpcie
  deriving Repr, DecidableEq

structure CcLabels where
  modeState : String
  readyState : String
  deriving Repr, DecidableEq

def nvidiaCcLabels : CcLabels where
  modeState := "nvidia.com/cc.mode.state"
  readyState := "nvidia.com/cc.ready.state"

/-- `classPrefix` is the base and subclass, the top 16 bits of the class code. -/
structure DeviceRow where
  vendor : UInt16
  classPrefix : UInt16
  provisioning : Provisioning
  ccLabels : Option CcLabels
  deriving Repr, DecidableEq

/-- `DEVICES`: a device with no row is never touched. -/
def devices : List DeviceRow :=
  [ -- NVIDIA GPU: 3D controller.
    { vendor := 0x10de
      classPrefix := 0x0302
      provisioning := .nvidiaInBandCc
      ccLabels := some nvidiaCcLabels },
    -- NVIDIA NVSwitch: bridge, other.
    { vendor := 0x10de
      classPrefix := 0x0680
      provisioning := .nvidiaInBandPpcie
      ccLabels := none } ]

def rowFor (vendor : UInt16) (classCode : UInt32) : Option DeviceRow :=
  let classPrefix := (classCode >>> 8).toUInt16
  devices.find? fun row => row.vendor == vendor && row.classPrefix == classPrefix

structure DeviceState where
  address : String
  vendor : UInt16
  deviceId : UInt16
  deviceName : String
  classCode : UInt32
  driver : Option String
  iommuGroup : Int
  numaNode : Int
  /-- `none` means out of scope. -/
  row : Option DeviceRow
  /-- `none` means no in-band CC support. -/
  ccChip : Option String
  /-- `none` unless the caller probed. -/
  ccMode : Option CcMode
  /-- `none` unless the caller probed. -/
  ppcieMode : Option PpcieMode
  deriving Repr, DecidableEq

/-- `nvidia::cc_chip` -/
def ccChip (pci : Pcilibs) (deviceId : UInt16) : Option String :=
  (pci.chipFor deviceId).map (·.name)

/-- `nvidia::supports_ppcie` -/
def supportsPpcie (pci : Pcilibs) (deviceId : UInt16) : Bool :=
  (pci.chipFor deviceId).any (·.hopper)

namespace DeviceState

def provisioning (state : DeviceState) : Option Provisioning :=
  state.row.map (·.provisioning)

def inScope (state : DeviceState) : Bool := state.row.isSome

/-- False for an NVSwitch, which has no mode of its own, and for anything older
than Hopper. -/
def ccCapable (state : DeviceState) : Bool :=
  state.provisioning == some .nvidiaInBandCc && state.ccChip.isSome

def carriesPpcie (pci : Pcilibs) (state : DeviceState) : Bool :=
  match state.provisioning with
  | some .nvidiaInBandCc => supportsPpcie pci state.deviceId
  | some .nvidiaInBandPpcie => true
  | none => false

/-- Empty until the mode is known: an unprobed run must not claim CC-ready. -/
def ccLabelValues (state : DeviceState) : List (String × String) :=
  match state.row.bind (·.ccLabels) with
  | none => []
  | some labels =>
      -- A PPCIE board runs with per-GPU CC off, so PPCIE is looked at first.
      let value : Option (String × Bool) :=
        match state.ppcieMode, state.ccMode with
        | some .on, _ => some ("ppcie", true)
        | _, some cc => some (cc.toString, cc != .off)
        | _, none => none
      match value with
      | none => []
      | some (mode, ready) =>
          [(labels.modeState, mode), (labels.readyState, if ready then "true" else "false")]

end DeviceState

/-- What `discover` makes of one listed device. -/
def discovered (pci : Pcilibs) (dev : PciDevice) : DeviceState :=
  let row := rowFor dev.vendor dev.classCode
  { address := dev.address
    vendor := dev.vendor
    deviceId := dev.device
    deviceName := dev.deviceName
    classCode := dev.classCode
    driver := if dev.driver = "" then none else some dev.driver
    iommuGroup := dev.iommuGroup
    numaNode := dev.numaNode
    row := row
    ccChip :=
      match row.map DeviceRow.provisioning with
      | some .nvidiaInBandCc => ccChip pci dev.device
      | some .nvidiaInBandPpcie | none => none
    ccMode := none
    ppcieMode := none }

def discover (pci : Pcilibs) (sysfs : Sysfs) : Except Error (List DeviceState) :=
  match sysfs.devices with
  | .ok devs =>
      .ok ((devs.filter fun dev => pci.isPassthroughCapableClass dev.classCode).map
        (discovered pci))
  | .error e => .error (e.context ("enumerate PCI devices under " ++ sysfs.devicesPath.display))

end KataDeviceProvisioner.Ports
