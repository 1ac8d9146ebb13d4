import TrustRotator.Status.Manage
import TrustRotator.Rollout.Restart

/-!
`internal/rollout/control_plane.go`: restarting the Linkerd control plane,
one deployment at a time in descending name order. There is no cursor: a
failure returns at once and the next attempt starts over.
-/

namespace TrustRotator

def labelCPNamespace : String := "linkerd.io/control-plane-ns"

/-- `SelectLinkerdControlPlane`: the deployments of the Linkerd namespace
labelled with it. -/
def selectLinkerdControlPlane (spec : LinkerdTrustRotationSpec) : Req (List Workload) := do
  call
  let ns := spec.linkerd.«namespace»
  pure ((← get).cluster.deployments.filter fun d =>
    d.«namespace» == ns && d.labels.lookup labelCPNamespace == some ns)

def restartDeployments (lib : Lib) : List Workload → Req Unit
  | [] => pure ()
  | dp :: rest => do
    bumpRestartAnnotation lib (.deployment dp)
    waitRolledOut (Target.deployment dp).ref
    restartDeployments lib rest

/-- `RestartLinkerdControlPlane`. `sort.Slice` is not stable; deployments of
equal name keep their listed order here. -/
def restartLinkerdControlPlane (lib : Lib) (spec : LinkerdTrustRotationSpec) : Api Unit := do
  let deployments ← (selectLinkerdControlPlane spec).lift
  setPhase (some Phase.rollingCP) (some Reason.cpRestarting)
    (some "Starting rollout restart Linkerd control plane")
  setProgress false none none
  (restartDeployments lib (deployments.insertionSort fun a b => !stringLess a.name b.name)).lift
  setProgress true none none
  setPhase (some Phase.rollingCP) (some Reason.cpReady)
    (some "Finished restarted Linkerd control plane")

end TrustRotator
