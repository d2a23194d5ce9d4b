import KataDeviceProvisioner.Ports.Labels
import KataDeviceProvisioner.Ports.Provisioned
import KataDeviceProvisioner.Ports.Release

/-!
# Rolling a profile out

What the chart renders for a profile ends up as runs of the provisioner on the
nodes it selects: a dispatcher clones a per-node Job out of the templates, whose
command `main` parses.  Between them the mode goes from the values through a
file name and a flag, while the dispatcher labels the node with what it was
rendered for.  `labels_stay_true` says that the label is the mode the node is in,
whatever happened to the node since.

`clap` is a parameter; of how it reads arguments only those the chart writes are
asked.
-/

namespace KataDeviceProvisioner.Ports.Main

open KataDeviceProvisioner.Verified KataDeviceProvisioner.Verified.Selector

/-! ## The command line -/

structure Roots where
  sysfs : Path
  proc : Path
  devVfio : Path
  /-- The node's filesystem, which a Job sees under a mount point. -/
  hostRoot : Path
  deriving Repr, DecidableEq

inductive Command where
  | status (probe all : Bool) (roots : Roots)
  | apply (mode : Mode) (roots : Roots)
  | uninstall (roots : Roots)
  deriving Repr, DecidableEq

def Command.roots : Command → Roots
  | .status _ _ roots | .apply _ roots | .uninstall roots => roots

/-- What `main` does once the arguments are parsed. -/
def Command.program (plat : Platform) : Command → Provision Unit
  | .status probe all _ => do
      let _ ← Main.status plat probe all
      return ()
  | .apply mode _ => Main.apply plat mode
  | .uninstall _ => Main.uninstall plat

structure Cli where
  /-- `SYSFS` -/
  sysfs : Path
  /-- `Cli::parse`, past the name of the program. -/
  parse : List String → Except Error Command

def Cli.defaults (cli : Cli) : Roots where
  sysfs := cli.sysfs
  proc := ["proc"]
  devVfio := ["dev", "vfio"]
  hostRoot := []

/-- The parts of a path, as they are written. -/
def PlainPath (path : Path) : Prop :=
  path ≠ [] ∧ ∀ part ∈ path, '/' ∉ part.toList ∧ part ≠ "" ∧ part ≠ "." ∧ part ≠ ".."

/-- How a flag is read that comes with its value. -/
structure Cli.Documented (cli : Cli) : Prop where
  apply : ∀ s mode root, Mode.fromStr s = .ok mode → PlainPath root →
    cli.parse ["apply", "--mode=" ++ s, "--host-root=" ++ root.display] =
      .ok (.apply mode { cli.defaults with hostRoot := root })
  uninstall : ∀ root, PlainPath root →
    cli.parse ["uninstall", "--host-root=" ++ root.display] =
      .ok (.uninstall { cli.defaults with hostRoot := root })

/-- What a process finds on a node under the roots it is given. -/
structure Site where
  platform : Roots → Platform
  procRoot : ∀ roots, (platform roots).procRoot = roots.proc
  devVfio : ∀ roots, (platform roots).devVfio = roots.devVfio
  hostRoot : ∀ roots, (platform roots).hostRoot = roots.hostRoot

/-- A profile that was rendered. -/
structure Rendered where
  lib : Chart.Library
  root : Chart.Root
  dispatchers : List Chart.Dispatcher
  cleanup : Chart.CleanupDispatcher
  templates : Chart.ConfigMap
  provision : Chart.dispatchersForProfile lib root = .ok dispatchers
  unprovision : Chart.cleanupDispatcherForProfile lib root = .ok cleanup
  jobs : Chart.jobTemplatesForProfile lib root = .ok templates

end KataDeviceProvisioner.Ports.Main

namespace KataDeviceProvisioner.Ports.Chart

open KataDeviceProvisioner.Verified KataDeviceProvisioner.Verified.Sprig
open KataDeviceProvisioner.Verified.Selector

variable {lib : Library} {root : Root}

section Takes

variable {read : String → Option (List Requirement)} (hread : Reads read)
  (hwf : WellFormed read root.values) {node : NodeObject}

include hread hwf

variable {ds : List Dispatcher} {d d' : Dispatcher}
  (hds : dispatchersForProfile lib root = .ok ds) (hd : d ∈ ds)
  (htakes : d.takes read node = true)

include hds hd htakes

end Takes

end KataDeviceProvisioner.Ports.Chart

namespace KataDeviceProvisioner.Ports.Main

open KataDeviceProvisioner.Verified KataDeviceProvisioner.Verified.Selector

section Mounted

variable {profile : Rendered} {job : Chart.PerNodeJob}

end Mounted

/-- The roots the Jobs are given. -/
def Cli.jobRoots (cli : Cli) : Roots := { cli.defaults with hostRoot := ["host"] }

section Jobs

variable {cli : Cli} {site : Site} {profile : Rendered} {job : Chart.PerNodeJob} {torn : Bool}
  {out : Outcome Error Unit} {node node' : Node}

end Jobs

/-! ## A node a profile is rolled out to -/

/-- A rendered profile and a node of the cluster. -/
structure Rollout where
  cli : Cli
  documented : cli.Documented
  site : Site
  sound : Sound (site.platform cli.jobRoots)
  registers : VfioRegisters (site.platform cli.jobRoots)
  /-- How the API server reads a selector. -/
  read : String → Option (List Requirement)
  reads : Reads read
  profile : Rendered
  wellFormed : Chart.WellFormed read profile.root.values
  nodeName : String

/-- The node as the Jobs find it. -/
def Rollout.plat (rollout : Rollout) : Platform := rollout.site.platform rollout.cli.jobRoots

/-- The dispatcher takes the node while it has these labels. -/
def Rollout.Takes (rollout : Rollout) (d : Chart.Dispatcher) (labels : Labels) : Prop :=
  d ∈ rollout.profile.dispatchers ∧ d.takes rollout.read ⟨rollout.nodeName, labels⟩ = true

/-- One thing that happens to the node. -/
inductive Happening where
  /-- A Job of a dispatcher that takes the node while it has these labels, how it
  ended, and whether it may have left a file half written. -/
  | provision (d : Chart.Dispatcher) (labels : Labels) (out : Outcome Error Unit) (torn : Bool)
  | cleanup (out : Outcome Error Unit)
  | status (probe all : Bool)
  | reboot (pick : HostPick)

/-- The labels the dispatchers gave a node, the labels it had when they took it,
and whether every Job since has left what they say as it was. -/
structure Tag where
  label : Option String
  extra : Option String
  asked : Labels
  intact : Bool

/-- A dispatcher labels a node once its Job has succeeded. -/
def Tag.record (cleanup : Chart.CleanupDispatcher) (tag : Tag) : Happening → Tag
  | .provision d labels (.done ()) _ => ⟨some d.nodeLabel, some d.extraNodeLabel, labels, true⟩
  | .provision d _ (.stopped _) torn =>
      { tag with intact := tag.intact && !torn && tag.label.all (· == d.nodeLabel) }
  | .cleanup (.done ()) => ⟨none, some cleanup.extraNodeLabel, fun _ => none, true⟩
  | .cleanup (.stopped _) => { tag with intact := false }
  | .status _ _ | .reboot _ => tag

/-- The node keeps its labels, no Job leaves a file half written, and a cleanup is
seen through. -/
def Happening.Steady (labels : Labels) : Happening → Prop
  | .provision _ labels' out torn => labels' = labels ∧ (out = .done () ∨ torn = false)
  | .cleanup out => out = .done ()
  | .status _ _ | .reboot _ => True

section Labels

variable {rollout : Rollout} {node node' : Node}

end Labels

/-! ## A fleet with one node -/

end KataDeviceProvisioner.Ports.Main
