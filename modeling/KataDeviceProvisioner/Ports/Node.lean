import KataDeviceProvisioner.Ports.Firmware
import KataDeviceProvisioner.Ports.Idle
import KataDeviceProvisioner.Verified.Runs
import Mathlib.Logic.Function.Basic

/-!
# The node the provisioner runs on

The operations the provisioner issues, and the machine that carries them out.
`Platform` is what stays as it is during a run: the hardware that is plugged in,
the kernel's tables and the processes.  `Node` is what a run changes: the
firmware of each device, the driver each device is bound to, and the files of
the host.

The machine fixes the behaviour of the functions of `pcilibs_rs` and `std` the
provisioner calls when nothing interferes with them:

* a knob write changes the knobs of its device, and a reset makes the device
  run what its knobs hold;
* `vfio::bind` leaves the device on the named driver, and refuses a device that
  another driver holds; `vfio::unbind` leaves it on none;
* `fs::write` replaces a file in a directory that exists;
* every device can be opened, and a module that is loaded takes no device.

What an operation that was made to fail leaves behind is a `Residue`.  The last
of the points above is not so on every node, and `Conduct` is for those on which
it is not: a switch can turn out to be of a generation without PPCIE as it is
opened, and `vfio-pci` takes what is on no driver and has an id in an `options`
line when it is loaded.
-/

namespace KataDeviceProvisioner.Ports

open KataDeviceProvisioner.Verified

/-- One operation of the provisioner. -/
inductive Op where
  /-- `Gpu::open` -/
  | gpuOpen (address : String)
  /-- `NvSwitch::open` -/
  | switchOpen (address : String)
  | queryCc (address : String)
  | queryPpcie (handle : Handle)
  | setCc (address : String) (mode : CcMode)
  | setPpcie (handle : Handle) (mode : PpcieMode)
  | reset (handle : Handle)
  /-- Looking at sysfs. -/
  | readSysfs
  /-- Running the host's modprobe, found at `command`, for a module. -/
  | runModprobe (command : String) (module : String)
  /-- `vfio::driver_for` -/
  | driverFor (module : String)
  /-- `vfio::bind` -/
  | bind (address : String) (driver : String)
  /-- `vfio::unbind` -/
  | unbind (address : String)
  /-- `vfio::verify_bound` -/
  | verifyBound (address : String) (driver : String)
  /-- `fs::create_dir_all` -/
  | createDirAll (path : Path)
  /-- `fs::write` -/
  | writeFile (path : Path) (contents : String)
  /-- `fs::remove_file` -/
  | removeFile (path : Path)
  deriving Repr, DecidableEq

/-- What each operation answers. -/
abbrev Op.Res : Op → Type
  | .queryCc _ => CcMode
  | .queryPpcie _ => PpcieMode
  | .readSysfs => Sysfs
  | .runModprobe _ _ => Output
  | .driverFor _ => String
  | .bind _ _ => Bound
  | .gpuOpen _ | .switchOpen _ | .setCc _ _ | .setPpcie _ _ | .reset _ | .unbind _
  | .verifyBound _ _ | .createDirAll _ | .writeFile _ _ | .removeFile _ => Unit

/-- A program of the provisioner. -/
abbrev Provision (α : Type) : Type := Program Op Op.Res Error α

/-- Issue one operation. -/
abbrev issue (op : Op) : Provision op.Res := Program.perform op

/-- What a run finds and leaves as it is. -/
structure Platform where
  pci : Pcilibs
  /-- `PCIDeviceManager::get_all_devices`, but for the drivers. -/
  inventory : Except Error (List PciDevice)
  /-- The devices are the entries of one directory. -/
  distinct : ∀ devs, inventory = .ok devs → (devs.map (·.address)).Nodup
  devicesPath : Path
  iommuGroups : Option (List String)
  iommuGroupsPath : Path
  /-- The links in a driver's directory that are not devices; `none` when the
  driver is not registered. -/
  driverLinks : String → Option (List String)
  vfioDev : String → Option (List String)
  /-- `Gpu::supports_ppcie` -/
  gpuSupportsPpcie : String → Bool
  procRoot : Path
  /-- Reading `sys/kernel/osrelease` under the proc root. -/
  osrelease : Except Error String
  /-- Reading a module alias table. -/
  readAliases : Path → Except Error String
  isFile : Path → Bool
  /-- Running the host's modprobe for a module. -/
  loadModule : String → Except Error Output
  /-- The driver a module registers. -/
  driverFor : String → Except Error String
  proc : Idle.Proc
  devVfio : Path
  hostRoot : Path

/-- What a run changes. -/
structure Node where
  board : String → Firmware
  driver : String → Option String
  files : Path → Option String
  dirs : Path → Bool

/-- What an operation that failed may have done. -/
inductive Residue where
  | nothing
  | applied
  /-- A file that was being written was left with these contents. -/
  | partly (contents : String)
  deriving Repr, DecidableEq

namespace Platform

variable (plat : Platform)

/-- The devices of the node, with the drivers they are bound to. -/
def listed (node : Node) : Except Error (List PciDevice) :=
  plat.inventory.map fun devs =>
    devs.map fun dev => { dev with driver := (node.driver dev.address).getD "" }

/-- What sysfs shows of a node. -/
def sysfs (node : Node) : Sysfs where
  devices := plat.listed node
  devicesPath := plat.devicesPath
  iommuGroups := plat.iommuGroups
  iommuGroupsPath := plat.iommuGroupsPath
  driverDir name :=
    (plat.driverLinks name).map fun links =>
      match plat.inventory with
      | .ok devs =>
          links ++ (devs.map (·.address)).filter fun address =>
            node.driver address == some name
      | .error _ => links
  currentDriver := node.driver
  vfioDev := plat.vfioDev

/-- Every directory a path is in, and the path itself. -/
private def withParents (path : Path) (dir : Path) : Bool := dir.isPrefixOf path

def writeKnob (node : Node) (address : String) (w : Write) : Node :=
  { node with
    board := Function.update node.board address ((node.board address).write w) }

def resetDevice (node : Node) (address : String) : Node :=
  { node with
    board := Function.update node.board address (node.board address).reset }

def setDriver (node : Node) (address : String) (driver : Option String) : Node :=
  { node with driver := Function.update node.driver address driver }

def setFile (node : Node) (path : Path) (contents : Option String) : Node :=
  { node with files := Function.update node.files path contents }

/-- The directory a file would be written to is there. -/
def hasParent (node : Node) (path : Path) : Bool := path.parent.all node.dirs

/-- An operation nothing interferes with. -/
def answer (node : Node) : (op : Op) → Except Error op.Res × Node
  | .gpuOpen _ => (.ok (), node)
  | .switchOpen _ => (.ok (), node)
  | .queryCc address => (.ok (node.board address).knob.cc, node)
  | .queryPpcie handle => (.ok (node.board handle.address).knob.ppcie, node)
  | .setCc address mode => (.ok (), writeKnob node address (.cc mode))
  | .setPpcie handle mode => (.ok (), writeKnob node handle.address (.ppcie mode))
  | .reset handle => (.ok (), resetDevice node handle.address)
  | .readSysfs => (.ok (plat.sysfs node), node)
  | .runModprobe _ module => (plat.loadModule module, node)
  | .driverFor module => (plat.driverFor module, node)
  | .bind address driver =>
      match node.driver address with
      | none => (.ok .now, setDriver node address (some driver))
      | some current =>
          if current = driver then (.ok .already, node)
          else (.error (.msg (address ++ " is bound to " ++ current)), node)
  | .unbind address => (.ok (), setDriver node address none)
  | .verifyBound address driver =>
      if node.driver address = some driver then (.ok (), node)
      else (.error (.msg (address ++ " is not bound to " ++ driver)), node)
  | .createDirAll path =>
      (.ok (), { node with dirs := fun dir => withParents path dir || node.dirs dir })
  | .writeFile path contents =>
      if hasParent node path then (.ok (), setFile node path (some contents))
      else (.error ⟨some .notFound, ["No such file or directory"]⟩, node)
  | .removeFile path =>
      match node.files path with
      | some _ => (.ok (), setFile node path none)
      | none => (.error ⟨some .notFound, ["No such file or directory"]⟩, node)

/-- What an operation that was made to fail leaves. -/
def residual (node : Node) (op : Op) : Residue → Node
  | .nothing => node
  | .applied => (plat.answer node op).2
  | .partly contents =>
      match op with
      | .writeFile path _ =>
          if hasParent node path then setFile node path (some contents) else node
      | _ => node

/-- The failures an operation can be made to report.  Looking at sysfs has no
way to report one, and a file is only reported missing when it is. -/
def fallible : Op → Error → Bool
  | .readSysfs, _ => false
  | .removeFile _, e => e.kind != some .notFound
  | _, _ => true

/-- The machine the provisioner runs on. -/
def machine : Machine Op Op.Res Error Residue Node where
  answer := plat.answer
  fallible := fallible
  residual := plat.residual

/-- What this platform can tell about a device through a handle. -/
def view (handle : Handle) (knobs : Knobs) : Option CcMode × Option PpcieMode :=
  handle.view plat.gpuSupportsPpcie knobs

end Platform

/-! ## Devices that refuse and modules that bind -/

/-- What devices and modules do of themselves. -/
structure Conduct where
  /-- Why the device at an address cannot be opened. -/
  refuses : String → Option Error
  /-- The driver a device comes to be on, if it is on none, as a module is loaded. -/
  takes : Node → String → String → Option String

namespace Conduct

variable (c : Conduct)

/-- No device refuses, and no module takes a device. -/
def calm : Conduct where
  refuses _ := none
  takes _ _ _ := none

def load (module : String) (node : Node) : Node :=
  { node with driver := fun address => (node.driver address).or (c.takes node module address) }

/-- Why the device an operation would open cannot be opened. -/
def refusal : Op → Option Error
  | .gpuOpen address | .switchOpen address => c.refuses address
  | _ => none

/-- What comes of an operation that went through. -/
def after (node : Node) : Op → Node
  | .runModprobe _ module => c.load module node
  | _ => node

/-- The machine on a node with this conduct. -/
def on (M : Machine Op Op.Res Error Residue Node) : Machine Op Op.Res Error Residue Node where
  answer node op :=
    match c.refusal op with
    | some e => (.error e, node)
    | none => ((M.answer node op).1, c.after (M.answer node op).2 op)
  fallible := M.fallible
  residual node op
    | .applied => c.after (M.residual node op .applied) op
    | residue => M.residual node op residue

theorem load_calm (module : String) (node : Node) : calm.load module node = node := by
  simp [load, calm]

/-- The machine is the one on a calm node. -/
theorem on_calm (M : Machine Op Op.Res Error Residue Node) : calm.on M = M := by
  have hafter : ∀ node op, calm.after node op = node := by
    intro node op
    cases op <;> first | exact load_calm _ _ | rfl
  have hrefusal : ∀ op, calm.refusal op = none := fun op => by cases op <;> rfl
  obtain ⟨answer, fallible, residual⟩ := M
  simp only [on, hafter, hrefusal, Machine.mk.injEq, true_and]
  funext node op residue
  cases residue <;> rfl

end Conduct

/-! ## What each operation can change -/

/-- What an operation is for. -/
inductive OpKind where
  /-- Opening a device or reading one of its knobs. -/
  | probe
  | write
  | reset
  /-- Looking at sysfs, or at which driver a module registers. -/
  | look
  | load
  | file
  | bind
  | unbind
  | check
  deriving Repr, DecidableEq

def Op.kind : Op → OpKind
  | .gpuOpen _ | .switchOpen _ | .queryCc _ | .queryPpcie _ => .probe
  | .setCc _ _ | .setPpcie _ _ => .write
  | .reset _ => .reset
  | .readSysfs | .driverFor _ => .look
  | .runModprobe _ _ => .load
  | .createDirAll _ | .writeFile _ _ | .removeFile _ => .file
  | .bind _ _ => .bind
  | .unbind _ => .unbind
  | .verifyBound _ _ => .check

/-- The device an operation is on. -/
def Op.device : Op → Option String
  | .gpuOpen address | .switchOpen address | .queryCc address | .setCc address _
  | .bind address _ | .unbind address | .verifyBound address _ => some address
  | .queryPpcie handle | .setPpcie handle _ | .reset handle => some handle.address
  | .readSysfs | .driverFor _ | .runModprobe _ _ | .createDirAll _ | .writeFile _ _
  | .removeFile _ => none

/-- Operations that leave the node as it is. -/
def OpKind.Quiet (kind : OpKind) : Prop :=
  kind = .probe ∨ kind = .look ∨ kind = .load ∨ kind = .check

section Changes

variable {plat : Platform} {A : Adversary} {s s' : Node} {op : Op}
  {r : Except Error op.Res}

/-- An operation leaves the node as it is, or as it leaves it when it goes
through, or with a file half written. -/
theorem responds_state (h : Responds plat.machine A s op r s') :
    s' = s ∨ s' = plat.machine.effect s op ∨
      ∃ path contents, op.kind = .file ∧ s' = Platform.setFile s path (some contents) := by
  cases h with
  | answered => exact .inr (.inl rfl)
  | failed e residue =>
      cases residue with
      | nothing => exact .inl rfl
      | applied => exact .inr (.inl rfl)
      | partly contents =>
          cases op with
          | writeFile path written =>
              simp only [Platform.machine, Platform.residual]
              split
              · exact .inr (.inr ⟨path, contents, rfl, rfl⟩)
              · exact .inl rfl
          | _ => exact .inl rfl

/-- Which part of the node an operation that goes through can change. -/
inductive Change (s : Node) (op : Op) : Node → Prop where
  | nothing : Change s op s
  | firmware (address : String) (firmware : Firmware) (hkind : op.kind = .write ∨ op.kind = .reset)
      (hdevice : op.device = some address) :
      Change s op { s with board := Function.update s.board address firmware }
  | driver (address : String) (driver : Option String)
      (hkind : op.kind = .bind ∨ op.kind = .unbind) (hdevice : op.device = some address) :
      Change s op (Platform.setDriver s address driver)
  | file (path : Path) (contents : Option String)
      (hop : (∃ written, op = .writeFile path written) ∨ op = .removeFile path) :
      Change s op (Platform.setFile s path contents)
  | dirs (path : Path) (dirs : Path → Bool) (hop : op = .createDirAll path) :
      Change s op { s with dirs := dirs }

theorem effect_change : Change s op (plat.machine.effect s op) := by
  cases op with
  | setCc address mode => exact .firmware address _ (.inl rfl) rfl
  | setPpcie handle mode => exact .firmware handle.address _ (.inl rfl) rfl
  | reset handle => exact .firmware handle.address _ (.inr rfl) rfl
  | bind address driver =>
      simp only [Machine.effect, Platform.machine, Platform.answer]
      split
      · exact .driver address _ (.inl rfl) rfl
      · split
        · exact .nothing
        · exact .nothing
  | unbind address => exact .driver address _ (.inr rfl) rfl
  | verifyBound address driver =>
      simp only [Machine.effect, Platform.machine, Platform.answer]
      split
      · exact .nothing
      · exact .nothing
  | createDirAll path => exact .dirs path _ rfl
  | writeFile path contents =>
      simp only [Machine.effect, Platform.machine, Platform.answer]
      split
      · exact .file path _ (.inl ⟨contents, rfl⟩)
      · exact .nothing
  | removeFile path =>
      simp only [Machine.effect, Platform.machine, Platform.answer]
      split
      · exact .file path _ (.inr rfl)
      · exact .nothing
  | _ => exact .nothing

theorem Change.file_kind {path : Path}
    (hop : (∃ written, op = .writeFile path written) ∨ op = .removeFile path) :
    op.kind = .file := by
  rcases hop with ⟨written, rfl⟩ | rfl
  · rfl
  · rfl

/-- Operations that are for looking change nothing. -/
theorem Change.quiet (h : Change s op s') (hop : op.kind.Quiet) : s' = s := by
  cases h with
  | nothing => rfl
  | firmware _ _ hkind => rcases hkind with hkind | hkind <;> simp [hkind, OpKind.Quiet] at hop
  | driver _ _ hkind => rcases hkind with hkind | hkind <;> simp [hkind, OpKind.Quiet] at hop
  | file _ _ hfile => simp [Change.file_kind hfile, OpKind.Quiet] at hop
  | dirs _ _ hdirs =>
      subst hdirs
      simp [Op.kind, OpKind.Quiet] at hop

theorem responds_quiet (hop : op.kind.Quiet) (h : Responds plat.machine A s op r s') :
    s' = s := by
  obtain h | h | ⟨path, contents, hfile, _⟩ := responds_state h
  · exact h
  · exact h.trans (effect_change.quiet hop)
  · rw [hfile] at hop
    simp [OpKind.Quiet] at hop

/-- What an operation can come to on a node with some conduct is what it can come
to where it may fail, but for the devices a module takes as it is loaded. -/
theorem Conduct.responds {c : Conduct} (h : Responds (c.on plat.machine) A s op r s') :
    ∃ s₁, Responds plat.machine .hostile s op r s₁ ∧
      (s' = s₁ ∨ ∃ command module, op = .runModprobe command module ∧ s' = c.load module s) := by
  have hafter : c.after (plat.answer s op).2 op = (plat.answer s op).2 ∨
      ∃ command module, op = .runModprobe command module ∧
        c.after (plat.answer s op).2 op = c.load module s := by
    cases op with
    | runModprobe command module => exact .inr ⟨command, module, rfl, rfl⟩
    | _ => exact .inl rfl
  cases h with
  | answered =>
      simp only [Conduct.on]
      cases hrefused : c.refusal op with
      | some e =>
          refine ⟨s, .failed (M := plat.machine) e .nothing trivial ?_, .inl rfl⟩
          cases op <;> first | rfl | cases hrefused
      | none => exact ⟨_, .answered, hafter⟩
  | failed e residue hmay hop =>
      refine ⟨_, .failed (M := plat.machine) e residue trivial hop, ?_⟩
      cases residue with
      | applied => exact hafter
      | nothing | partly contents => exact .inl rfl

/-- Where no module takes a device it is nothing more than failures. -/
theorem Conduct.responds_hostile {c : Conduct} (hload : ∀ module, c.load module s = s)
    (h : Responds (c.on plat.machine) A s op r s') : Responds plat.machine .hostile s op r s' := by
  obtain ⟨s₁, hresp, rfl | ⟨command, module, rfl, rfl⟩⟩ := Conduct.responds h
  · exact hresp
  · obtain rfl := responds_quiet (.inr (.inr (.inl rfl))) hresp
    rwa [hload]

/-- Only writes and resets change firmware, and only that of their device. -/
theorem Change.board_eq (h : Change s op s') {address : String}
    (hop : op.device ≠ some address ∨ (op.kind ≠ .write ∧ op.kind ≠ .reset)) :
    s'.board address = s.board address := by
  cases h with
  | firmware a _ hkind hdevice =>
      have hne : address ≠ a := by
        rintro rfl
        rcases hop with hop | hop
        · exact hop hdevice
        · exact hkind.elim hop.1 hop.2
      exact Function.update_of_ne hne _ _
  | _ => rfl

/-- Only `bind` and `unbind` change bindings, and only that of their device. -/
theorem Change.driver_eq (h : Change s op s') {address : String}
    (hop : op.device ≠ some address ∨ (op.kind ≠ .bind ∧ op.kind ≠ .unbind)) :
    s'.driver address = s.driver address := by
  cases h with
  | driver a _ hkind hdevice =>
      have hne : address ≠ a := by
        rintro rfl
        rcases hop with hop | hop
        · exact hop hdevice
        · exact hkind.elim hop.1 hop.2
      exact Function.update_of_ne hne _ _
  | _ => rfl

/-- Only file operations change files. -/
theorem Change.files_eq (h : Change s op s') (hop : op.kind ≠ .file) : s'.files = s.files := by
  cases h with
  | file path contents hfile => exact absurd (Change.file_kind hfile) hop
  | _ => rfl

/-- Only creating directories changes which there are. -/
theorem Change.dirs_eq (h : Change s op s') (hop : ∀ path, op ≠ .createDirAll path) :
    s'.dirs = s.dirs := by
  cases h with
  | dirs path _ hdirs => exact absurd hdirs (hop path)
  | _ => rfl

/-- A file operation is on one file. -/
theorem Change.file_eq (h : Change s op s') {path : Path}
    (hwrite : ∀ contents, op ≠ .writeFile path contents) (hremove : op ≠ .removeFile path) :
    s'.files path = s.files path := by
  cases h with
  | file other _ hfile =>
      have hne : path ≠ other := by
        rintro rfl
        rcases hfile with ⟨contents, hfile⟩ | hfile
        · exact hwrite contents hfile
        · exact hremove hfile
      exact Function.update_of_ne hne _ _
  | _ => rfl

/-- A directory is created with all it is in. -/
theorem effect_createDirAll (path dir : Path) :
    (plat.machine.effect s (.createDirAll path)).dirs dir =
      (dir.isPrefixOf path || s.dirs dir) := rfl

theorem responds_board (address : String)
    (hop : op.device ≠ some address ∨ (op.kind ≠ .write ∧ op.kind ≠ .reset))
    (h : Responds plat.machine A s op r s') : s'.board address = s.board address := by
  obtain rfl | rfl | ⟨path, contents, _, rfl⟩ := responds_state h
  · rfl
  · exact effect_change.board_eq hop
  · rfl

theorem responds_driver (address : String)
    (hop : op.device ≠ some address ∨ (op.kind ≠ .bind ∧ op.kind ≠ .unbind))
    (h : Responds plat.machine A s op r s') : s'.driver address = s.driver address := by
  obtain rfl | rfl | ⟨path, contents, _, rfl⟩ := responds_state h
  · rfl
  · exact effect_change.driver_eq hop
  · rfl

theorem responds_files (hop : op.kind ≠ .file) (h : Responds plat.machine A s op r s') :
    s'.files = s.files := by
  obtain rfl | rfl | ⟨path, contents, hfile, _⟩ := responds_state h
  · rfl
  · exact effect_change.files_eq hop
  · exact absurd hfile hop

/-- A run whose operations leave the firmware alone. -/
theorem runs_board {α : Type} {p : Provision α} {out : Outcome Error α}
    {t : List (Event Op Node)} (h : Runs plat.machine A p s out s' t)
    (hops : ∀ e ∈ t, e.op.kind ≠ .write ∧ e.op.kind ≠ .reset) :
    s'.board = s.board ∧ ∀ e ∈ t, e.before.board = s.board :=
  h.keeps (I := fun s₁ => s₁.board = s.board)
    (fun e he s₁ r s₂ hs hresp => by
      rw [← hs]
      funext address
      exact responds_board address (.inr (hops e he)) hresp) rfl

/-- A run whose operations leave the bindings alone. -/
theorem runs_driver {α : Type} {p : Provision α} {out : Outcome Error α}
    {t : List (Event Op Node)} (h : Runs plat.machine A p s out s' t)
    (hops : ∀ e ∈ t, e.op.kind ≠ .bind ∧ e.op.kind ≠ .unbind) :
    s'.driver = s.driver ∧ ∀ e ∈ t, e.before.driver = s.driver :=
  h.keeps (I := fun s₁ => s₁.driver = s.driver)
    (fun e he s₁ r s₂ hs hresp => by
      rw [← hs]
      funext address
      exact responds_driver address (.inr (hops e he)) hresp) rfl

/-- A run whose operations leave the files alone. -/
theorem runs_files {α : Type} {p : Provision α} {out : Outcome Error α}
    {t : List (Event Op Node)} (h : Runs plat.machine A p s out s' t)
    (hops : ∀ e ∈ t, e.op.kind ≠ .file) :
    s'.files = s.files ∧ ∀ e ∈ t, e.before.files = s.files :=
  h.keeps (I := fun s₁ => s₁.files = s.files)
    (fun e he s₁ r s₂ hs hresp => by rw [← hs, responds_files (hops e he) hresp]) rfl

end Changes

end KataDeviceProvisioner.Ports
