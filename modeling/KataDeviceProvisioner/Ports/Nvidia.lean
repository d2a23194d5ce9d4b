import KataDeviceProvisioner.Ports.Node

/-!
# NVIDIA in-band CC and PPCIE modes

`src/nvidia.rs`.  A transition is planned per device from the knobs it reads
back, and carried out board-wide: every device is opened and read, then every
planned knob is written, then every written device is reset, and last every
device is read again.
-/

namespace KataDeviceProvisioner.Ports

open KataDeviceProvisioner.Verified

namespace Nvidia

/-- A missing variant alias is expected for supported noncoherent CC GPUs and
NVSwitches.  Unknown GPUs cannot establish that generic VFIO is safe. -/
def genericVfioSupported (pci : Pcilibs) (state : DeviceState) : Bool :=
  match state.provisioning with
  | some .nvidiaInBandCc => state.ccCapable && !pci.isC2c state.deviceId
  | some .nvidiaInBandPpcie => true
  | none => false

/-! ## Planning -/

/-- The writes that move a device from what it is running to `mode`.  `none`
means no such mode: an NVSwitch has no CC, a Blackwell GPU no PPCIE. -/
def writesFor (cc : Option CcMode) (ppcie : Option PpcieMode) (mode : Mode) : List Write :=
  let targetPpcie := mode.ppcieTarget
  match cc, ppcie with
  | some cc, some ppcie =>
      let targetCc := mode.ccTarget
      match targetPpcie with
      | .on =>
          if ppcie = .on ∧ cc = .off then [] else [.ppcie .on]
      | .off =>
          if targetCc ≠ .off then
            if cc = targetCc ∧ ppcie = .off then [] else [.cc targetCc]
          else
            (if ppcie = .on then [.ppcie .off] else []) ++
              (if cc ≠ .off then [.cc .off] else [])
  | cc, ppcie =>
      (match cc with
        | some cc => if cc ≠ mode.ccTarget then [.cc mode.ccTarget] else []
        | none => []) ++
      (match ppcie with
        | some ppcie => if ppcie ≠ targetPpcie then [.ppcie targetPpcie] else []
        | none => [])

/-! ## Open devices -/

end Nvidia

/-- Only what has a mode to set is opened. -/
def Handle.open (state : DeviceState) : Provision (Option Handle) :=
  match state.provisioning with
  | some .nvidiaInBandCc =>
      if state.ccCapable then do
        issue (.gpuOpen state.address)
        return some (.gpu state.address)
      else return none
  | some .nvidiaInBandPpcie => do
      issue (.switchOpen state.address)
      return some (.switch state.address)
  | none => return none

/-- The PPCIE query is issued first, but a failing CC query is what is reported
when both fail. -/
def Handle.current (plat : Platform) :
    Handle → Provision (Option CcMode × Option PpcieMode)
  | .gpu address =>
      if plat.gpuSupportsPpcie address then do
        let ppcie ← (issue (.queryPpcie (.gpu address))).attempt
        let cc ← issue (.queryCc address)
        let ppcie ← Program.ofExcept ppcie
        return (some cc, some ppcie)
      else do
        let cc ← issue (.queryCc address)
        return (some cc, none)
  | .switch address => do
      let ppcie ← issue (.queryPpcie (.switch address))
      return (none, some ppcie)

def Handle.write : Handle → Write → Provision Unit
  | .gpu address, .cc mode => issue (.setCc address mode)
  | .gpu address, .ppcie mode => issue (.setPpcie (.gpu address) mode)
  | .switch address, .ppcie mode => issue (.setPpcie (.switch address) mode)
  | .switch _, .cc mode =>
      .throw (.msg ("an NVSwitch has no CC mode to set to " ++ mode.toString))

def Handle.reset (handle : Handle) : Provision Unit := issue (.reset handle)

namespace Nvidia

variable (plat : Platform)

/-! ## The board -/

inductive Transition where
  /-- Not reset: doing so to a device that needs nothing is a free outage. -/
  | alreadySet
  | applied
  deriving Repr, DecidableEq

/-- An open device with the writes planned for it. -/
structure Planned where
  state : DeviceState
  handle : Handle
  writes : List Write
  deriving Repr, DecidableEq

def openFor (state : DeviceState) : Provision (Option (DeviceState × Handle)) := do
  let handle ← (Handle.open state).mapError
    (Error.context (state.address ++ ": open for mode change"))
  return handle.map fun handle => (state, handle)

def planFor (mode : Mode) (device : DeviceState × Handle) : Provision Planned := do
  let (cc, ppcie) ← (device.2.current plat).mapError
    (Error.context (device.1.address ++ ": read current mode"))
  return { state := device.1, handle := device.2, writes := writesFor cc ppcie mode }

def writeFor (mode : Mode) (item : Planned × Write) : Provision Unit :=
  (item.1.handle.write item.2).mapError
    (Error.context (item.1.state.address ++ ": set " ++ mode.toString))

def resetFor (mode : Mode) (plan : Planned) : Provision Unit :=
  plan.handle.reset.mapError
    (Error.context (plan.state.address ++ ": reset to activate " ++ mode.toString))

/-- `verify`: read the hardware again rather than trusting that the writes
took. -/
def verify (handle : Handle) (state : DeviceState) (mode : Mode) : Provision Unit := do
  let (cc, ppcie) ← (handle.current plat).mapError
    (Error.context (state.address ++ ": verify mode"))
  match cc with
  | some cc =>
      if cc ≠ mode.ccTarget then
        .throw (.msg (state.address ++ ": CC mode is " ++ cc.toString ++ ", expected " ++
          mode.ccTarget.toString ++ " for " ++ mode.toString))
  | none => pure ()
  match ppcie with
  | some ppcie =>
      if ppcie ≠ mode.ppcieTarget then
        .throw (.msg (state.address ++ ": PPCIE mode is " ++ ppcie.toString ++
          ", expected " ++ mode.ppcieTarget.toString ++ " for " ++ mode.toString))
  | none => pure ()

def outcomeOf (plan : Planned) : String × Transition :=
  (plan.state.address, if plan.writes.isEmpty then .alreadySet else .applied)

/-- `apply`, up to the first write: every device is opened, then every device
is read. -/
def planBoard (states : List DeviceState) (mode : Mode) : Provision (List Planned) := do
  let opened ← Program.gather openFor states
  Program.gather (planFor plat mode) opened.reduceOption

/-- The devices whose mode has to change. -/
def pending (plans : List Planned) : List Planned :=
  plans.filter fun plan => !plan.writes.isEmpty

/-- The knobs go to every device first and the resets come after, which also
means nothing is reset for a mode the rest of the board is not getting. -/
def apply (states : List DeviceState) (mode : Mode) :
    Provision (List (String × Transition)) := do
  let plans ← planBoard plat states mode
  Program.forEach (fun plan =>
    Program.forEach (fun w => writeFor mode (plan, w)) plan.writes) (pending plans)
  -- Without this the device reports the new mode and behaves like the old.
  Program.forEach (resetFor mode) (pending plans)
  Program.forEach (fun plan => verify plat plan.handle plan.state mode) plans
  return plans.map outcomeOf

def verifyMode (state : DeviceState) (mode : Mode) : Provision Unit := do
  let handle ← (Handle.open state).mapError
    (Error.context (state.address ++ ": open to verify"))
  match handle with
  | none => pure ()
  | some handle => verify plat handle state mode

/-! ## Probing -/

def probe (state : DeviceState) : Provision (Option CcMode × Option PpcieMode) := do
  match ← Handle.open state with
  | some handle => handle.current plat
  | none => return (none, none)

/-- The states with the modes that could be read, and the addresses of the
devices whose mode could not, with the reason. -/
def probeModes (states : List DeviceState) :
    Provision (List DeviceState × List (String × String)) := do
  let probed ← Program.gather (fun state => do
    match ← (probe plat state).attempt with
    | .ok (cc, ppcie) => return ({ state with ccMode := cc, ppcieMode := ppcie }, none)
    | .error e => return (state, some (state.address, e.render))) states
  return (probed.map (·.1), (probed.map (·.2)).reduceOption)

end Nvidia

end KataDeviceProvisioner.Ports
