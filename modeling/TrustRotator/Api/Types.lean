import TrustRotator.Json

/-!
The `LinkerdTrustRotation` API of `api/v1alpha1`: the spec a user declares,
and the status the controller records together with the JSON form in which
the status is stored and patched.

The CRD schema restricts `kindType` and `rolloutStrategy` to enumerations;
the API server rejects any other value, so both are inductive types here.
Durations are seconds, as the controller's requeue delays are; the spec's
delays are only compared with zero and waited out. A `metav1.Time` is kept to
the second, which is all its JSON form (RFC 3339) carries; the zero time is
`⟨0⟩`, which encodes as `null`.
-/

namespace TrustRotator

/-! ### Spec -/

structure LinkerdSpec where
  «namespace» : String
  trustRootsConfigMap : String
  trustAnchorSecret : String
  previousTrustAnchorSecret : String
  bootstrapPreviousSecret : Bool

structure RotationTrigger where
  onTrustRootsConfigMapChange : Bool
  onTrustAnchorSecretsDiff : Bool

/-- The workload kinds of the work queue (`rollout.Kind`), which are also the
values the schema admits for `kindType`. -/
inductive Kind where
  | deployment
  | statefulSet
  | daemonSet
  | customResource
  deriving DecidableEq, Repr

def Kind.toString : Kind → String
  | deployment => "Deployment"
  | statefulSet => "StatefulSet"
  | daemonSet => "DaemonSet"
  | customResource => "CustomResource"

/-- `rolloutRestart` bumps the pod template; `rolloutDelete` deletes the pods
of a stateful set one by one. -/
inductive RolloutStrategy where
  | restart
  | delete
  deriving DecidableEq, Repr

def RolloutStrategy.toString : RolloutStrategy → String
  | restart => "rolloutRestart"
  | delete => "rolloutDelete"

structure AnnotationBumpOptions where
  bumpAnnotationKey : String
  bumpAnnotationValue : String
  deriving DecidableEq, Repr

structure TargetScope where
  kindType : Kind
  allowedNamespaces : List String
  /-- `none` when the optional field is omitted. -/
  rolloutStrategy : Option RolloutStrategy := none
  apiGroup : String := ""
  kind : String := ""
  version : String := ""
  annotationBump : Option AnnotationBumpOptions := none

structure TargetAnnotationSelector where
  key : String
  value : String
  targets : List TargetScope

structure RolloutSpec where
  targetAnnotationSelector : TargetAnnotationSelector

structure ProtectionSpec where
  runLinkerdCheckProxy : Bool
  linkerdCheckProxyImage : String := ""
  beforeRolloutDelay : Option Int := none
  retriggerRolloutAfterCleanup : Bool := false
  holdAfterCleanup : Option Int := none
  maxRolloutFailures : Int

structure LinkerdTrustRotationSpec where
  linkerd : LinkerdSpec
  trigger : RotationTrigger
  rollout : RolloutSpec
  protection : ProtectionSpec
  dryRun : Bool := false

/-! ### Status -/

/-- A `metav1.Time`, to the second. -/
structure Time where
  seconds : Nat
  deriving DecidableEq, Repr

inductive BundleState where
  | single
  | overlap
  deriving DecidableEq, Repr

def BundleState.toString : BundleState → String
  | single => "single"
  | overlap => "overlap"

structure WorkRef where
  kind : String
  «namespace» : String
  name : String
  deriving DecidableEq, Repr

structure ProgressStatus where
  controlPlaneReady : Bool
  dataPlanePercent : Int
  deriving DecidableEq, Repr

structure TrustStatus where
  bundleState : Option String
  currentFP : String
  previousFP : String
  deriving DecidableEq, Repr

structure RolloutCursor where
  planHash : String
  next : Int
  total : Int
  lastDone : Option WorkRef
  deriving DecidableEq, Repr

structure RetryStatus where
  count : Int
  lastError : String
  lastFailed : Option WorkRef
  lastErrorTime : Option Time
  deriving DecidableEq, Repr

structure LinkerdTrustRotationStatus where
  phase : Option String := none
  reason : Option String := none
  message : Option String := none
  startedAt : Option Time := none
  lastUpdated : Option Time := none
  completionTime : Option Time := none
  progress : Option ProgressStatus := none
  trust : Option TrustStatus := none
  retries : Option RetryStatus := none
  cursor : Option RolloutCursor := none
  dryRunPlan : String := ""
  deriving DecidableEq, Repr

/-! ### Phases and reasons written by the controller -/

namespace Phase
def idle : String := "Idle"
def detecting : String := "Detecting"
def dryRun : String := "DryRun"
def rollingCP : String := "RollingCP"
def rollingDP : String := "RollingDP"
def failed : String := "Failed"
end Phase

namespace Reason
def secretsDiverged : String := "SecretsDiverged"
def maxRetriesExceeded : String := "ReasonMaxRetriesExceeded"
def cpRestarting : String := "ControlPlaneRestarting"
def cpReady : String := "ControlPlaneReady"
def dpBatchRestarting : String := "DataPlaneBatchRestarting"
def dpThresholdReached : String := "DataPlaneThresholdReached"
def rotationFailed : String := "RotationFailed"
def dryRun : String := "DryRunCompleted"
end Reason

/-! ### The JSON form of the status

`encoding/json` writes the fields in declaration order and leaves out a
`nil` pointer or an empty string marked `omitempty`; a zero `metav1.Time`
marshals as `null`. Decoding reads each key, a `null` or a missing key giving
the zero value. -/

namespace Json

/-- An `omitempty` pointer field. -/
def opt {α : Type} (k : String) (enc : α → Json) : Option α → List (String × Json)
  | none => []
  | some a => [(k, enc a)]

/-- An `omitempty` string field. -/
def optStr (k : String) (s : String) : List (String × Json) :=
  if s = "" then [] else [(k, .str s)]

def decStr : Option Json → Option String
  | some (.str s) => some s
  | _ => none

def decInt : Option Json → Int
  | some (.num n) => n
  | _ => 0

def decBool : Option Json → Bool
  | some (.bool b) => b
  | _ => false

end Json

open Json

def Time.toJson (t : Time) : Json := if t.seconds = 0 then .null else .num t.seconds

def Time.ofJson : Option Json → Option Time
  | some (.num n) => some ⟨n.toNat⟩
  | _ => none

def WorkRef.toJson (r : WorkRef) : Json :=
  .obj [("kind", .str r.kind), ("namespace", .str r.«namespace»), ("name", .str r.name)]

def WorkRef.ofJson : Option Json → Option WorkRef
  | some (.obj fs) =>
    some ⟨(decStr (fs.lookup "kind")).getD "", (decStr (fs.lookup "namespace")).getD "",
      (decStr (fs.lookup "name")).getD ""⟩
  | _ => none

def ProgressStatus.toJson (p : ProgressStatus) : Json :=
  .obj [("controlPlaneReady", .bool p.controlPlaneReady), ("dataPlanePercent", .num p.dataPlanePercent)]

def ProgressStatus.ofJson : Option Json → Option ProgressStatus
  | some (.obj fs) =>
    some ⟨decBool (fs.lookup "controlPlaneReady"), decInt (fs.lookup "dataPlanePercent")⟩
  | _ => none

def TrustStatus.toJson (t : TrustStatus) : Json :=
  .obj ([("bundleState", t.bundleState.elim .null .str)] ++ optStr "currentFP" t.currentFP ++
    optStr "previousFP" t.previousFP)

def TrustStatus.ofJson : Option Json → Option TrustStatus
  | some (.obj fs) =>
    some ⟨decStr (fs.lookup "bundleState"), (decStr (fs.lookup "currentFP")).getD "",
      (decStr (fs.lookup "previousFP")).getD ""⟩
  | _ => none

def RolloutCursor.toJson (c : RolloutCursor) : Json :=
  .obj (optStr "planHash" c.planHash ++ [("next", .num c.next), ("total", .num c.total)] ++
    opt "lastDone" WorkRef.toJson c.lastDone)

def RolloutCursor.ofJson : Option Json → Option RolloutCursor
  | some (.obj fs) =>
    some ⟨(decStr (fs.lookup "planHash")).getD "", decInt (fs.lookup "next"),
      decInt (fs.lookup "total"), WorkRef.ofJson (fs.lookup "lastDone")⟩
  | _ => none

def RetryStatus.toJson (r : RetryStatus) : Json :=
  .obj ([("count", .num r.count)] ++ optStr "lastError" r.lastError ++
    opt "lastErrorObject" WorkRef.toJson r.lastFailed ++
    opt "lastErrorTime" Time.toJson r.lastErrorTime)

def RetryStatus.ofJson : Option Json → Option RetryStatus
  | some (.obj fs) =>
    some ⟨decInt (fs.lookup "count"), (decStr (fs.lookup "lastError")).getD "",
      WorkRef.ofJson (fs.lookup "lastErrorObject"), Time.ofJson (fs.lookup "lastErrorTime")⟩
  | _ => none

namespace LinkerdTrustRotationStatus

def toFields (s : LinkerdTrustRotationStatus) : List (String × Json) :=
  opt "phase" .str s.phase ++ opt "reason" .str s.reason ++ opt "message" .str s.message ++
    opt "startedAt" Time.toJson s.startedAt ++ opt "lastUpdated" Time.toJson s.lastUpdated ++
    opt "completionTime" Time.toJson s.completionTime ++
    opt "progress" ProgressStatus.toJson s.progress ++ opt "trust" TrustStatus.toJson s.trust ++
    opt "retries" RetryStatus.toJson s.retries ++ opt "cursor" RolloutCursor.toJson s.cursor ++
    optStr "dryRunPlan" s.dryRunPlan

def ofFields (fs : List (String × Json)) : LinkerdTrustRotationStatus where
  phase := decStr (fs.lookup "phase")
  reason := decStr (fs.lookup "reason")
  message := decStr (fs.lookup "message")
  startedAt := Time.ofJson (fs.lookup "startedAt")
  lastUpdated := Time.ofJson (fs.lookup "lastUpdated")
  completionTime := Time.ofJson (fs.lookup "completionTime")
  progress := ProgressStatus.ofJson (fs.lookup "progress")
  trust := TrustStatus.ofJson (fs.lookup "trust")
  retries := RetryStatus.ofJson (fs.lookup "retries")
  cursor := RolloutCursor.ofJson (fs.lookup "cursor")
  dryRunPlan := (decStr (fs.lookup "dryRunPlan")).getD ""

/-- The status the API server stores after merging the patch that turns the
client's copy `old` into `new` into what it held, `server`. -/
def applyPatch (server old new : LinkerdTrustRotationStatus) : LinkerdTrustRotationStatus :=
  ofFields (mergeFields server.toFields (getDiff old.toFields new.toFields))

end LinkerdTrustRotationStatus

end TrustRotator
