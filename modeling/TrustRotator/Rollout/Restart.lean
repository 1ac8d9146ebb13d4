import TrustRotator.Rollout.Select

/-!
`internal/rollout`: restarting one workload.

A restart is an annotation bump (`bumpAnnotationGeneric`: on the pod template
of a typed workload, on the metadata of a custom resource) or, for a stateful
set with `rolloutDelete`, the deletion of its pods one by one from the highest
ordinal down (`restartStatefulSetByDelete`). Each is followed by a wait and,
when `runLinkerdCheckProxy` is on, by a `linkerd check --proxy` job.

Inside the engine a wait is one request: its polls are the environment's, so
it may return `nil` or any error (`TrustRotator.Rollout.Wait` models the
polls).
-/

namespace TrustRotator

def restartedAtKey : String := "kubectl.kubernetes.io/restartedAt"

/-- Set a pod-template annotation of the workload `(ns, name)` of a list. -/
def bumpIn (ns name key value : String) (l : List Workload) : List Workload :=
  l.map fun x => if x.«namespace» = ns ∧ x.name = name
    then { x with templateAnnotations := mapSet x.templateAnnotations key value } else x

/-- What the merge patch of `bumpAnnotationGeneric` does to the cluster: the
annotation on the pod template of a typed workload. The metadata of a custom
resource is not modelled. -/
def bumpTarget (t : Target) (key value : String) (c : Cluster) : Cluster :=
  match t with
  | .deployment d => { c with deployments := bumpIn d.«namespace» d.name key value c.deployments }
  | .statefulSet s => { c with statefulSets := bumpIn s.«namespace» s.name key value c.statefulSets }
  | .daemonSet d => { c with daemonSets := bumpIn d.«namespace» d.name key value c.daemonSets }
  | .customResource _ => c

/-- `bumpAnnotationGeneric`: a merge patch that sets one annotation. -/
def bumpAnnotationGeneric (t : Target) (key value : String) : Req Unit := do
  call
  updateCluster (bumpTarget t key value)
  act (.restarted t.ref)

/-- `bumpRestartAnnotation`. -/
def bumpRestartAnnotation (lib : Lib) (t : Target) : Req Unit := do
  let t' ← now
  bumpAnnotationGeneric t restartedAtKey (lib.formatRFC3339 t')

/-- A wait loop of `internal/rollout` (`waitDeploymentRolledOut`,
`waitStatefulSetRolledOut`, `waitDaemonSetRolledOut`,
`waitCRByAnnotationAndStatus`) for the restarted object `r`. -/
def waitRolledOut (r : WorkRef) : Req Unit := request (.rolledOut r)

/-! ### Deleting the pods of a stateful set -/

/-- `fmt.Sscanf(s, "%d", &n)`: an optional sign and decimal digits, the rest of
the input ignored; `none` when there is no digit or the value leaves `int`. -/
def scanDecimal (s : List Char) : Option Int :=
  let (neg, rest) := match s with
    | '-' :: r => (true, r)
    | '+' :: r => (false, r)
    | r => (false, r)
  let digits := rest.takeWhile Char.isDigit
  if digits.isEmpty then none
  else
    let v : Nat := digits.foldl (fun acc c => acc * 10 + (c.toNat - '0'.toNat)) 0
    let i : Int := if neg then -v else v
    if -9223372036854775808 ≤ i ∧ i < 9223372036854775808 then some i else none

/-- `podOrdinal`: the number after the last `-`, or `-1`. -/
def podOrdinal (name : String) : Int :=
  if name.toList.contains '-' then
    (scanDecimal (name.toList.reverse.takeWhile (· ≠ '-')).reverse).getD (-1)
  else -1

/-- The pods a `MatchingLabelsSelector` of `matchLabels` lists in a namespace. -/
def podsOf (c : Cluster) (ns : String) (selector : List (String × String)) : List Pod :=
  c.pods.filter fun p => p.«namespace» == ns && selector.all fun l => p.labels.lookup l.1 == some l.2

/-- `deletePodAndWaitSameNameReady`: a delete (a pod already gone is fine), then
the poll for a ready pod of the same name. -/
def deletePodAndWaitSameNameReady (p : Pod) : Req Unit := do
  withContext ("delete pod " ++ p.«namespace» ++ "/" ++ p.name) call
  act (.podDeleted p.«namespace» p.name)
  request (.podReady p.«namespace» p.name)

def deletePods (sts : Workload) : List Pod → Req Unit
  | [] => pure ()
  | p :: rest => do
    withContext ("rolloutDelete " ++ p.«namespace» ++ "/" ++ sts.name ++ " pod " ++ p.name)
      (deletePodAndWaitSameNameReady p)
    deletePods sts rest

/-- `restartStatefulSetByDelete`. `sort.Slice` is not stable; pods of equal
ordinal keep their listed order here. -/
def restartStatefulSetByDelete (sts : Workload) : Req Unit := do
  withContext ("list pods for StatefulSet " ++ sts.«namespace» ++ "/" ++ sts.name) call
  let pods := podsOf (← get).cluster sts.«namespace» sts.selector
  if pods.isEmpty then return
  deletePods sts (pods.insertionSort fun a b => podOrdinal a.name ≥ podOrdinal b.name)

/-! ### The proxy check -/

def jobNamePrefix : String := "linkerd-proxy-check"

/-- The job name `runLinkerdCheckJob` derives from the target's namespace and
its name suffix. -/
def checkJobName (lib : Lib) (targetNs jobNameSuffix : String) : String :=
  jobNamePrefix ++ "-" ++ targetNs ++ "-" ++ hexPrefix (lib.sha1Hex jobNameSuffix) 7

/-- `runLinkerdCheckJob`: a best-effort delete of the previous job, the create,
and the wait for the job to succeed. -/
def runLinkerdCheckJob (lib : Lib) (jobNs targetNs targetName : String) (r : WorkRef) : Req Unit := do
  let jobName := checkJobName lib targetNs targetName
  tryCatch (request (.jobDeleted jobNs jobName)) fun _ => pure ()
  request (.jobCreated jobNs jobName)
  request (.proxyChecked r)

/-- `runProxyCheckIfEnabled`. -/
def runProxyCheckIfEnabled (lib : Lib) (spec : LinkerdTrustRotationSpec) (r : WorkRef)
    (targetNs targetName : String) : Req Unit :=
  if spec.protection.runLinkerdCheckProxy then
    runLinkerdCheckJob lib spec.linkerd.«namespace» targetNs targetName r
  else pure ()

end TrustRotator
