import KataDeviceProvisioner.Ports.Host
import KataDeviceProvisioner.Ports.Modules
import KataDeviceProvisioner.Ports.Nvidia

/-!
# Provisioning a node

`src/main.rs`: the stages of `apply`, in the order they run.  Everything up to
`verifyIdle` only looks at the node and loads modules; firmware, boot
configuration and bindings are changed after it.

What is printed on the way is left out.
-/

namespace KataDeviceProvisioner.Ports.Main

open KataDeviceProvisioner.Verified

variable (plat : Platform)

def inScope (pci : Pcilibs) (sysfs : Sysfs) : Except Error (List DeviceState) :=
  (discover pci sysfs).map fun states => states.filter DeviceState.inScope

/-- Only PPCIE gives one guest the whole baseboard; the other modes are
single-GPU, where taking the switches off the host would strand them. -/
def passthroughSet (states : List DeviceState) (mode : Mode) : List DeviceState :=
  states.filter fun state =>
    mode == .ppcie || state.provisioning != some .nvidiaInBandPpcie

/-! ## Drivers -/

/-- The fallback to `vfio-pci` is right for an ordinary PCIe GPU and wrong for a
coherently attached one, which would reach a VM with its memory missing. -/
def verifyVariantAvailable (pci : Pcilibs) (state : DeviceState) (module : String) :
    Except Error Unit :=
  if !pci.isC2c state.deviceId || Modules.underscored module != "vfio_pci" then .ok ()
  else bail (state.address ++ " (" ++ state.deviceName ++
    ") is coherently attached over NVLink-C2C and needs a vfio driver that can map its " ++
    "memory, but this kernel's module alias table offers only " ++ module ++
    ", which cannot. The node needs a kernel whose nvgrace-gpu vfio driver claims this device")

/-- modprobe takes the module, `driver_override` the driver, and they differ. -/
structure VfioDriver where
  module : String
  driver : String
  deriving Repr, DecidableEq

def resolveModule (aliases : Path) (state : DeviceState) : Except Error String := do
  let module ← Modules.vfioModule plat aliases state.vendor state.deviceId
    (Nvidia.genericVfioSupported plat.pci state)
  verifyVariantAvailable plat.pci state module
  return module

/-- A `HashMap<String, VfioDriver>`, latest insertion first. -/
abbrev Drivers : Type := List (String × VfioDriver)

/-- `drivers.get(address)` -/
def Drivers.get (drivers : Drivers) (address : String) : Option VfioDriver :=
  drivers.lookup address

/-- `drivers[address]`, which panics on an address that was never inserted. -/
def Drivers.index (drivers : Drivers) (address : String) : Provision VfioDriver :=
  match drivers.get address with
  | some driver => return driver
  | none => .throw (.msg "no entry found for key")

def resolveDriver (aliases : Path) (state : DeviceState) : Provision (String × VfioDriver) := do
  let module ← (Program.ofExcept (resolveModule plat aliases state)).mapError
    (Error.context (state.address ++ ": find its vfio module"))
  (Modules.modprobe plat module).mapError
    (Error.context (state.address ++ ": load " ++ module))
  let driver ← (issue (.driverFor module)).mapError
    (Error.context (state.address ++ ": find the driver " ++ module ++ " registers"))
  return (state.address, { module := module, driver := driver })

/-- Per device: a Grace GPU needs `nvgrace_gpu_vfio_pci` where the NIC beside it
takes plain `vfio-pci`. -/
def resolveDrivers (states : List DeviceState) : Provision Drivers := do
  let aliases ← Program.ofExcept (Modules.modulesAlias plat)
  let found ← Program.gather (resolveDriver plat aliases) states
  return found.reverse

def claimFor (drivers : Drivers) (state : DeviceState) : Provision Modules.Claim := do
  let driver ← drivers.index state.address
  return { address := state.address
           vendor := state.vendor
           device := state.deviceId
           module := driver.module
           driver := driver.driver }

def persist (states : List DeviceState) (drivers : Drivers) : Provision Unit := do
  let claims ← Program.gather (claimFor drivers) states
  let _ ← Modules.persist plat.hostRoot claims

/-! ## What the node can carry -/

/-- `address (name)` of each device, as the refusals list them. -/
def nameAll (states : List DeviceState) : String :=
  ", ".intercalate (states.map fun state => state.address ++ " (" ++ state.deviceName ++ ")")

/-- Refused whole, before the first GPU is touched. -/
def verifyCapable (pci : Pcilibs) (states : List DeviceState) (mode : Mode) :
    Except Error Unit := do
  if !mode.ccReady then return ()
  let requirement : String :=
    match mode with
    -- Blackwell has per-GPU CC but no PPCIE: refused, not downgraded.
    | .ppcie => "PPCIE support, which is Hopper-only"
    | _ => "in-band CC support"
  let capable : DeviceState → Bool :=
    match mode with
    | .ppcie => DeviceState.carriesPpcie pci
    | _ => DeviceState.ccCapable
  let gpus := states.filter fun state => state.provisioning == some .nvidiaInBandCc
  let incapable := gpus.filter fun state => !capable state
  if !incapable.isEmpty then
    bail ("mode " ++ mode.toString ++ " needs " ++ requirement ++ ", which " ++
      toString incapable.length ++ " of this node's " ++ toString states.length ++
      " devices lack: " ++ nameAll incapable ++
      ". Provision this node with --mode off, or leave it out of the run's node selection")
  if mode.ccTarget != .off then
    let graceAttached := gpus.filter fun state => pci.isC2c state.deviceId
    if !graceAttached.isEmpty then
      bail ("mode " ++ mode.toString ++ " needs confidential computing from the CPU as well " ++
        "as the GPU, and the Grace CPU " ++ toString graceAttached.length ++
        " of this node's devices are attached to has none: " ++ nameAll graceAttached ++
        ". Provision this node with --mode off, or leave it out of the run's node selection")

/-! ## What the run will change -/

/-- The name of a vfio driver: a variant driver is named after the one it stands
in for. -/
def namesVfio (driver : String) : Bool :=
  Text.contains "vfio" (Text.replaceChar '-' '_' driver)

def inSet (states : List DeviceState) (address : String) : Bool :=
  states.any fun kept => kept.address == address

/-- Busy devices block only runs that would change them, so converged nodes can
be upgraded while Kata workloads are running. -/
def writable (sysfs : Sysfs) (states passthrough : List DeviceState) (drivers : Drivers)
    (mode : Mode) (unreadable : List (String × String)) : List DeviceState :=
  states.filter fun state =>
    let current := sysfs.currentDriver state.address
    if !inSet passthrough state.address then current.any namesVfio
    else
      match drivers.get state.address with
      -- An unknown target cannot prove that the device is converged.
      | none => true
      | some target =>
          if current != some target.driver then true
          else (unreadable.lookup state.address).isSome ||
            !(Nvidia.writesFor state.ccMode state.ppcieMode mode).isEmpty

def verifyIdle (sysfs : Sysfs) (states : List DeviceState) : Except Error Unit :=
  states.forM fun state =>
    match Idle.holders plat.proc plat.devVfio sysfs state with
    | holder :: _ =>
        bail (state.address ++ ": in use by pid " ++ toString holder.pid ++ " (" ++
          holder.comm ++ "): refusing to change a device a VM may be running on")
    | [] => .ok ()

/-! ## Changing the node -/

def modeStage (states : List DeviceState) (mode : Mode) : Provision Unit := do
  let _ ← Nvidia.apply plat states mode

def bindOne (drivers : Drivers) (state : DeviceState) : Provision Unit := do
  let driver ← drivers.index state.address
  let _ ← issue (.bind state.address driver.driver)

/-- Only what vfio holds is handed back: anything else was never ours to take. -/
def releaseOne (passthrough : List DeviceState) (state : DeviceState) : Provision Unit :=
  if inSet passthrough state.address then return ()
  else do
    let sysfs ← issue .readSysfs
    match (sysfs.currentDriver state.address).filter namesVfio with
    | none => return ()
    | some driver =>
        (issue (.unbind state.address)).mapError
          (Error.context (state.address ++ ": release from " ++ driver))

/-- The boot config is rewritten from the new set, so a device dropped out of it
is handed back now rather than at the next reboot. -/
def release (states passthrough : List DeviceState) : Provision Unit :=
  Program.forEach (releaseOne passthrough) states

def verifyOne (mode : Mode) (drivers : Drivers) (state : DeviceState) : Provision Unit := do
  let driver ← drivers.index state.address
  issue (.verifyBound state.address driver.driver)
  Nvidia.verifyMode plat state mode

/-- A stage reports what it asked for; this reports what is true. -/
def verify (mode : Mode) (states : List DeviceState) (drivers : Drivers) : Provision Unit :=
  Program.forEach (verifyOne plat mode drivers) states

/-! ## The run -/

/-- What the checks before the first change hand to the stages after them. -/
structure Cleared where
  states : List DeviceState
  passthrough : List DeviceState
  drivers : Drivers

/-- `apply`, up to and including `verify_idle`. -/
def preflight (mode : Mode) : Provision Cleared := do
  let sysfs ← issue .readSysfs
  Program.ofExcept (Host.check plat.pci sysfs)
  let states ← Program.ofExcept (inScope plat.pci sysfs)
  Program.ofExcept (if states.isEmpty then
      bail "no devices in scope: this node was selected for provisioning but has none"
    else .ok ())
  -- Across every device before any is touched: refuse whole, not half.
  Program.ofExcept (verifyCapable plat.pci states mode)
  let passthrough := passthroughSet states mode
  -- Before any reset, so a missing driver is not found out half way through.
  let drivers ← resolveDrivers plat passthrough
  -- Read again in `Nvidia.apply`: hardware may change after this safety check.
  let (states, unreadable) ← Nvidia.probeModes plat states
  let sysfs ← issue .readSysfs
  Program.ofExcept
    (verifyIdle plat sysfs (writable sysfs states passthrough drivers mode unreadable))
  return { states := states, passthrough := passthrough, drivers := drivers }

/-- Put the node into `mode` and leave it able to get back there alone. -/
def apply (mode : Mode) : Provision Unit := do
  let cleared ← preflight plat mode
  modeStage plat cleared.states mode
  -- Before binding, so a crash leaves a node that comes back bound.
  persist plat cleared.passthrough cleared.drivers
  Program.forEach (bindOne cleared.drivers) cleared.passthrough
  release cleared.states cleared.passthrough
  verify plat mode cleared.passthrough cleared.drivers

/-- Remove the boot configuration, leaving live devices unchanged. -/
def uninstall : Provision Unit := Modules.unpersist plat.hostRoot

/-- The devices `status` prints, with their modes when it probes, and those it
could not read. -/
def status (probe all : Bool) : Provision (List DeviceState × List (String × String)) := do
  let sysfs ← issue .readSysfs
  let states ← Program.ofExcept (discover plat.pci sysfs)
  let states := states.filter fun state => all || state.inScope
  if states.isEmpty then return ([], [])
  else if probe then do
    Program.ofExcept (Host.checkProbeable plat.pci sysfs)
    Nvidia.probeModes plat states
  else return (states, [])

end KataDeviceProvisioner.Ports.Main
