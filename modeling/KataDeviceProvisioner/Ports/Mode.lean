import KataDeviceProvisioner.Ports.Pcilibs

/-!
# The node's mode

`src/mode.rs`.  One value says what a whole node should be in, and each device
takes its two firmware targets from it.
-/

namespace KataDeviceProvisioner.Ports

inductive Mode where
  | off
  | on
  | devTools
  | ppcie
  deriving Repr, DecidableEq

namespace Mode

/-- Per-GPU CC is off under PPCIE: the board is the trust boundary there. -/
def ccTarget : Mode → CcMode
  | .off | .ppcie => .off
  | .on => .on
  | .devTools => .devTools

def ppcieTarget : Mode → PpcieMode
  | .ppcie => .on
  | .off | .on | .devTools => .off

def ccReady (mode : Mode) : Bool := mode != .off

def toString : Mode → String
  | .off => "off"
  | .on => "on"
  | .devTools => "devtools"
  | .ppcie => "ppcie"

def fromStr (s : String) : Except Error Mode :=
  match s with
  | "off" => .ok .off
  | "on" => .ok .on
  | "devtools" => .ok .devTools
  | "ppcie" => .ok .ppcie
  | other => bail ("unknown mode " ++ other.quote ++ ": expected off, on, devtools or ppcie")

/-- What a mode prints as reads back as the mode. -/
theorem fromStr_toString (mode : Mode) : fromStr mode.toString = .ok mode := by
  cases mode <;> rfl

/-- No mode raises both knobs, which firmware could not carry out. -/
theorem targets_exclusive (mode : Mode) :
    mode.ccTarget = .off ∨ mode.ppcieTarget = .off := by
  cases mode <;> simp [ccTarget, ppcieTarget]

end Mode

end KataDeviceProvisioner.Ports
