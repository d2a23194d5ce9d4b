import KataDeviceProvisioner.Ports.ChartNames

/-!
# The Helm chart

`deploy/helm/kata-device-provisioner/templates`: `_helpers.tpl`,
`job-templates.yaml` and `dispatcher-job.yaml`, for one enabled profile with its
effective values.  A template renders text or fails with a message.  Manifests
are kept as far as they decide which node gets which mode: the command of the
per-node Jobs, and the flags of the dispatcher, each under its own name.
-/

namespace KataDeviceProvisioner.Ports.Chart

open KataDeviceProvisioner.Verified.Sprig

/-! ## Values -/

structure Image where
  reference : String
  tag : Scalar
  deriving Repr, DecidableEq

structure JobValues where
  /-- Names nodes outright, bypassing `nodeSelector`. -/
  nodes : List String
  ttlSecondsAfterFinished : Int
  parallelism : Int
  waitForNodesSeconds : Int
  nodeSettleSeconds : Int
  waitNodeReadySeconds : Int
  dispatcherImage : Image
  deriving Repr, DecidableEq

/-- The values of a profile, its own fields over the chart's. -/
structure Values where
  ccMode : Scalar
  ccModeOverrides : List Scalar
  ccModeLabel : String
  ccModeStateLabel : String
  ccModeReadyLabel : String
  /-- In the order `range` goes through them. -/
  nodeSelector : List (String × Scalar)
  nodeSelectorExpressions : List Scalar
  image : Image
  job : JobValues
  deriving Repr, DecidableEq

/-- What the templates are rendered with. -/
structure Root where
  profileName : String
  values : Values
  deriving Repr, DecidableEq

/-- `fail` -/
def fail {α : Type} (message : String) : Except String α := .error message

/-! ## Modes -/

def modes : List String := ["off", "on", "devtools", "ppcie"]

/-- YAML 1.1 reads a bare `on` or `off` as a boolean. -/
def spelledMode (mode : Scalar) : String :=
  if mode.toString = "true" then "on"
  else if mode.toString = "false" then "off"
  else mode.toString

def normalizeMode (mode : Scalar) (field : String) : Except String String :=
  if spelledMode mode ∈ modes then .ok (spelledMode mode)
  else
    fail (field ++ " must be one of off, on, devtools, ppcie (got \"" ++ spelledMode mode ++ "\")")

def ccMode (values : Values) : Except String String := normalizeMode values.ccMode "ccMode"

def overrideModes (values : Values) : Except String String := do
  let modes ← values.ccModeOverrides.mapM fun mode => normalizeMode mode "ccModeOverrides"
  if !modes.isEmpty && !values.job.nodes.isEmpty then
    fail ("ccModeOverrides selects nodes by label, but job.nodes names them outright: the two " ++
      "cannot both decide which nodes get which mode. Drop one.")
  else return join "," (uniq modes)

def allModes (values : Values) : Except String String := do
  let mode ← ccMode values
  let overrides ← overrideModes values
  return join "," (uniq ([mode] ++ compact (splitList ',' overrides)))

/-! ## Images -/

/-- `.Chart.AppVersion` -/
def appVersion : String := "0.1.0-alpha.3"

/-- `default other`, where `0`, `false` and the empty text count as not given. -/
def orDefault (value : Scalar) (other : String) : String :=
  match value with
  | .null | .bool false | .int 0 | .string "" => other
  | value => value.toString

def imageRef (image : Image) (key default : String) : Except String String :=
  let tag := orDefault image.tag default
  if '@' ∈ image.reference.toList then .ok image.reference
  else if tag = "" then
    fail (key ++ ".tag is required when " ++ key ++ ".reference is not a digest")
  else .ok (image.reference ++ ":" ++ tag)

def image (values : Values) : Except String String := imageRef values.image "image" appVersion

def dispatcherImage (values : Values) : Except String String :=
  imageRef values.job.dispatcherImage "job.dispatcherImage" ""

/-! ## Node selection -/

/-- The label selector the dispatcher lists nodes with.  Empty means every node,
which the dispatcher takes as "no filter". -/
def nodeSelector (values : Values) (extra : String) : String :=
  join "," ((values.nodeSelector.map fun entry => entry.1 ++ "=" ++ entry.2.toString) ++
    values.nodeSelectorExpressions.map Scalar.toString ++ if extra = "" then [] else [extra])

/-! ## Per-node Jobs -/

inductive Stage where
  | provision (ccMode : String)
  | unprovision
  deriving Repr, DecidableEq

/-- The `cc-mode` label, which the Job that uninstalls goes without. -/
def Stage.ccModeLabel : Stage → Option String
  | .provision ccMode => some ccMode
  | .unprovision => none

def Stage.arguments : Stage → List String
  | .provision ccMode => ["apply", "--mode=" ++ ccMode]
  | .unprovision => ["uninstall"]

structure PerNodeJob where
  ccModeLabel : Option String
  image : String
  command : List String
  deriving Repr, DecidableEq

def perNodeJob (values : Values) (stage : Stage) : Except String PerNodeJob := do
  if values.job.ttlSecondsAfterFinished < 60 then
    fail ("job.ttlSecondsAfterFinished is " ++ toString values.job.ttlSecondsAfterFinished ++
      ", too short for the dispatcher to observe a per-node Job finishing: the Job is deleted " ++
      "before it is next polled and its node is reported as failed even though its run " ++
      "succeeded. Use 60 or more.")
  let image ← image values
  return { ccModeLabel := stage.ccModeLabel
           image := image
           command := ["/kata-device-provisioner"] ++ stage.arguments ++ ["--host-root=/host"] }

structure ConfigMap where
  name : String
  data : List (String × PerNodeJob)
  deriving Repr, DecidableEq

def provisionJobKey (mode : String) : String := "provision-job-" ++ mode ++ ".yaml"

def jobTemplatesForProfile (lib : Library) (root : Root) : Except String ConfigMap := do
  let modes ← allModes root.values
  let provision ← (compact (splitList ',' modes)).mapM fun mode => do
    return (provisionJobKey mode, ← perNodeJob root.values (.provision mode))
  let unprovision ← perNodeJob root.values .unprovision
  return { name := profileResourceName lib root.profileName "job-templates"
           data := provision ++ [("unprovision-job.yaml", unprovision)] }

/-! ## Provisioning runs -/

/-- What tells the runs of a profile apart. -/
structure Run where
  ccMode : String
  extra : String
  suffix : String
  deriving Repr, DecidableEq

/-- A dispatcher Job, by its flags. -/
structure Dispatcher where
  /-- Its name, and `--owner-job-name`. -/
  name : String
  run : Run
  image : String
  jobTemplates : String
  jobTemplate : String
  cleanupJobTemplate : String
  namePrefix : String
  parallelism : Int
  trackingLabelPrefix : String
  instanceLabelPrefix : String
  multiInstallSuffix : String
  nodeLabelKey : String
  nodeLabel : String
  extraNodeLabel : String
  nodes : Option String
  nodeSelector : Option String
  waitForNodesSecs : Option Int
  nodeSettleSecs : Option Int
  waitNodeReadySecs : Int
  deriving Repr, DecidableEq

/-- Unlike an equality match, `notin` also matches nodes with no such label. -/
def defaultRun (values : Values) (mode : String) (overrides : List String) : Run where
  ccMode := mode
  extra :=
    if overrides.isEmpty then ""
    else values.ccModeLabel ++ " notin (" ++ join "," overrides ++ ")"
  suffix := ""

def overrideRun (values : Values) (mode : String) : Run where
  ccMode := mode
  extra := values.ccModeLabel ++ "=" ++ mode
  suffix := "-" ++ mode

/-- `$runs` -/
def runs (values : Values) : Except String (List Run) := do
  let overrides ← overrideModes values
  let overrides := compact (splitList ',' overrides)
  let mode ← ccMode values
  return defaultRun values mode overrides :: overrides.map (overrideRun values)

def jobTemplateDir : String := "/etc/kata-device-job/"

/-- The dispatcher Job of one run. -/
def dispatcher (lib : Library) (root : Root) (image : String) (run : Run) : Dispatcher :=
  let values := root.values
  let selector := nodeSelector values run.extra
  let named := !values.job.nodes.isEmpty
  { name := profileResourceName lib root.profileName ("provision" ++ run.suffix ++ "-dispatcher")
    run := run
    image := image
    jobTemplates := profileResourceName lib root.profileName "job-templates"
    jobTemplate := jobTemplateDir ++ provisionJobKey run.ccMode
    cleanupJobTemplate := jobTemplateDir ++ "unprovision-job.yaml"
    namePrefix := profileJobPrefix lib "kp" root.profileName ++ run.suffix
    parallelism := values.job.parallelism
    trackingLabelPrefix := "kata-device-provisioner-dispatcher"
    instanceLabelPrefix := "kata-device-provisioner.katacontainers.io"
    multiInstallSuffix := multiInstallSuffix lib root.profileName
    nodeLabelKey := values.ccModeStateLabel
    nodeLabel := run.ccMode
    extraNodeLabel := values.ccModeReadyLabel ++ "=" ++
      (if run.ccMode ≠ "off" then "true" else "false")
    nodes := if named then some (join "," values.job.nodes) else none
    nodeSelector := if named ∨ selector = "" then none else some selector
    waitForNodesSecs := if named then none else some values.job.waitForNodesSeconds
    nodeSettleSecs := if named then none else some values.job.nodeSettleSeconds
    waitNodeReadySecs := values.job.waitNodeReadySeconds }

def dispatcherFor (lib : Library) (root : Root) (run : Run) : Except String Dispatcher := do
  -- Rendered for its checksum, so what fails there fails here.
  let _ ← jobTemplatesForProfile lib root
  let image ← dispatcherImage root.values
  return dispatcher lib root image run

def dispatchersForProfile (lib : Library) (root : Root) : Except String (List Dispatcher) := do
  let runs ← runs root.values
  runs.mapM (dispatcherFor lib root)

end KataDeviceProvisioner.Ports.Chart
