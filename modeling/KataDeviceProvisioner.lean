import KataDeviceProvisioner.Ports.Main
import KataDeviceProvisioner.Ports.NvidiaRuns
import KataDeviceProvisioner.Ports.NvidiaPhases
import KataDeviceProvisioner.Ports.NvidiaBoard
import KataDeviceProvisioner.Ports.Bench
import KataDeviceProvisioner.Ports.NvidiaDiscipline
import KataDeviceProvisioner.Ports.NvidiaConverge
import KataDeviceProvisioner.Ports.NvidiaHistory
import KataDeviceProvisioner.Ports.Preflight
import KataDeviceProvisioner.Ports.BootFiles
import KataDeviceProvisioner.Ports.Stages
import KataDeviceProvisioner.Ports.Scope
import KataDeviceProvisioner.Ports.Postcondition
import KataDeviceProvisioner.Ports.BootConfig
import KataDeviceProvisioner.Ports.Ordering
import KataDeviceProvisioner.Ports.Coverage
import KataDeviceProvisioner.Ports.Refusal
import KataDeviceProvisioner.Ports.BootText
import KataDeviceProvisioner.Ports.BootBinding
import KataDeviceProvisioner.Ports.Capability
import KataDeviceProvisioner.Ports.IdleScan
import KataDeviceProvisioner.Ports.BootHistory
import KataDeviceProvisioner.Ports.Converged
import KataDeviceProvisioner.Ports.Rerun
import KataDeviceProvisioner.Ports.ChartNames
import KataDeviceProvisioner.Verified.Sprig
import KataDeviceProvisioner.Verified.Selector
import KataDeviceProvisioner.Ports.Chart
import KataDeviceProvisioner.Ports.ChartRuns
import KataDeviceProvisioner.Ports.Labels
import KataDeviceProvisioner.Ports.Profiles
import KataDeviceProvisioner.Ports.NodeFeatures
import KataDeviceProvisioner.Ports.LegalNames
import KataDeviceProvisioner.Ports.Release
import KataDeviceProvisioner.Verified.Fields
import KataDeviceProvisioner.Ports.JobNames
import KataDeviceProvisioner.Ports.ProfileIndex
import KataDeviceProvisioner.Ports.IndexRuns
import KataDeviceProvisioner.Ports.IndexCheck
import KataDeviceProvisioner.Ports.Boot
import KataDeviceProvisioner.Verified.History
import KataDeviceProvisioner.Ports.Steady
import KataDeviceProvisioner.Ports.Lifecycle
import KataDeviceProvisioner.Ports.Provisioned
import KataDeviceProvisioner.Ports.Undisturbed
import KataDeviceProvisioner.Ports.Switching
import KataDeviceProvisioner.Ports.Least
import KataDeviceProvisioner.Ports.Report
import KataDeviceProvisioner.Ports.IndexAccepts
import KataDeviceProvisioner.Ports.Rollout
import KataDeviceProvisioner.Ports.Beside
import KataDeviceProvisioner.Ports.Concurrent
import KataDeviceProvisioner.Ports.Owed
import KataDeviceProvisioner.Ports.Untouched
