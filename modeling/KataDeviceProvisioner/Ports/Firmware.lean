import KataDeviceProvisioner.Ports.Mode

/-!
# Firmware knobs and what a device runs

A device carries two knobs, the CC mode and the PPCIE mode, and runs the mode
its knobs held at the last reset.  Enabling either knob clears the other;
disabling one leaves the other alone.  Writing a knob changes nothing about
what the device does until it is reset.

This is the part of `pcilibs_rs::cc` the provisioner is written against.
-/

namespace KataDeviceProvisioner.Ports

/-- One knob write. -/
inductive Write where
  | cc (mode : CcMode)
  | ppcie (mode : PpcieMode)
  deriving Repr, DecidableEq

/-- The two knobs of a device. -/
structure Knobs where
  cc : CcMode
  ppcie : PpcieMode
  deriving Repr, DecidableEq

namespace Knobs

def setCc (knobs : Knobs) : CcMode → Knobs
  | .off => { knobs with cc := .off }
  | mode => { cc := mode, ppcie := .off }

def setPpcie (knobs : Knobs) : PpcieMode → Knobs
  | .off => { knobs with ppcie := .off }
  | .on => { cc := .off, ppcie := .on }

def write (knobs : Knobs) : Write → Knobs
  | .cc mode => knobs.setCc mode
  | .ppcie mode => knobs.setPpcie mode

@[simp] theorem write_cc (knobs : Knobs) (mode : CcMode) :
    knobs.write (.cc mode) = knobs.setCc mode := rfl

@[simp] theorem write_ppcie (knobs : Knobs) (mode : PpcieMode) :
    knobs.write (.ppcie mode) = knobs.setPpcie mode := rfl

@[simp] theorem setCc_cc (knobs : Knobs) (mode : CcMode) : (knobs.setCc mode).cc = mode := by
  cases mode <;> rfl

@[simp] theorem setPpcie_ppcie (knobs : Knobs) (mode : PpcieMode) :
    (knobs.setPpcie mode).ppcie = mode := by
  cases mode <;> rfl

end Knobs

/-- A device: its knobs, and the mode it runs since its last reset. -/
structure Firmware where
  knob : Knobs
  active : Knobs
  deriving Repr, DecidableEq

namespace Firmware

def write (device : Firmware) (w : Write) : Firmware :=
  { device with knob := device.knob.write w }

def reset (device : Firmware) : Firmware := { device with active := device.knob }

@[simp] theorem write_knob (device : Firmware) (w : Write) :
    (device.write w).knob = device.knob.write w := rfl

@[simp] theorem write_active (device : Firmware) (w : Write) :
    (device.write w).active = device.active := rfl

@[simp] theorem reset_knob (device : Firmware) : device.reset.knob = device.knob := rfl

@[simp] theorem reset_active (device : Firmware) : device.reset.active = device.knob := rfl

end Firmware

/-- An open device. -/
inductive Handle where
  | gpu (address : String)
  | switch (address : String)
  deriving Repr, DecidableEq

namespace Handle

def address : Handle → String
  | .gpu address => address
  | .switch address => address

/-- The knobs a device has, out of a pair: a switch has no CC mode, and whether
a GPU has a PPCIE mode is for `Gpu::supports_ppcie` to say. -/
def view (supports : String → Bool) (knobs : Knobs) :
    Handle → Option CcMode × Option PpcieMode
  | .gpu address => (some knobs.cc, if supports address then some knobs.ppcie else none)
  | .switch _ => (none, some knobs.ppcie)

/-- The writes a device has a knob for. -/
def Accepts (supports : String → Bool) : Handle → Write → Prop
  | .gpu _, .cc _ => True
  | .gpu address, .ppcie _ => supports address = true
  | .switch _, .cc _ => False
  | .switch _, .ppcie _ => True

end Handle

/-- The knobs of a device that is in `mode`. -/
def Mode.targets (mode : Mode) : Knobs where
  cc := mode.ccTarget
  ppcie := mode.ppcieTarget

/-- The writes that move a knob to where `mode` wants it. -/
def Mode.Aims (mode : Mode) (w : Write) : Prop :=
  w = .cc mode.ccTarget ∨ w = .ppcie mode.ppcieTarget

/-- A knob that is where the mode wants it stays there under every write that
aims for the mode. -/
theorem Mode.Aims.cc_stays {mode : Mode} {w : Write} (hw : mode.Aims w) {knobs : Knobs}
    (h : knobs.cc = mode.ccTarget) : (knobs.write w).cc = mode.ccTarget := by
  rcases hw with rfl | rfl
  · simp
  · cases mode <;> simp_all [Knobs.setPpcie, Mode.ccTarget, Mode.ppcieTarget]

theorem Mode.Aims.ppcie_stays {mode : Mode} {w : Write} (hw : mode.Aims w) {knobs : Knobs}
    (h : knobs.ppcie = mode.ppcieTarget) : (knobs.write w).ppcie = mode.ppcieTarget := by
  rcases hw with rfl | rfl
  · cases mode <;> simp_all [Knobs.setCc, Mode.ccTarget, Mode.ppcieTarget]
  · simp

end KataDeviceProvisioner.Ports
