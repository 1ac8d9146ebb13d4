import TrustRotator.Rollout.DataPlane
import TrustRotator.Rollout.ControlPlane

/-!
`LinkerdTrustRotationReconciler.Reconcile`, and runs of it.

A reconcile reads the object from the informer cache, marks the status
`Idle`, decides the bundle state from the trigger inputs alone, and when the
bundle overlaps it either records a dry-run plan, stops on too many recorded
failures, or rotates: delete the identity issuer, restart the control plane
and the data plane, delete the previous anchor secret, optionally re-run the
data plane, and mark the rotation succeeded. It then asks to be called again
after ten seconds.

A run interleaves reconciles with the informer catching up (`sync`) and with
changes made by anyone else to the cluster objects (`change`).
-/

namespace TrustRotator

/-- `ctrl.Result`: when to be called again, in seconds (`0`: not requeued). -/
structure Result where
  requeueAfter : Nat
  deriving DecidableEq, Repr

def frequency : Nat := 10

def linkerdIdentityIssuerSecret : String := "linkerd-identity-issuer"

/-- `waitWithPurpose`: a positive duration is waited out, unless the context
is cancelled. -/
def waitWithPurpose (d : Option Int) (purpose : String) : Req Unit :=
  match d with
  | some n => if n > 0 then request (.delayed purpose) else pure ()
  | none => pure ()

/-- The trigger switch of `Reconcile`, up to and including `SetTrustInfo`. -/
def decideBundle (lib : Lib) (spec : LinkerdTrustRotationSpec) : Api BundleState := do
  let t := spec.trigger
  if t.onTrustAnchorSecretsDiff ∧ ¬t.onTrustRootsConfigMapChange then
    let r ← (ensureTrustSecrets lib spec).lift
    let b : BundleState := if r.diverged then .overlap else .single
    emit (.observed b)
    setTrustInfo (some b) r.currentFP r.previousFP
    pure b
  else if t.onTrustRootsConfigMapChange ∧ ¬t.onTrustAnchorSecretsDiff then
    let r ← (loadAndInspectCMBundle lib spec).lift
    let b : BundleState := if r.state = .overlap then .overlap else .single
    let (currentFP, previousFP) ← match r.fps with
      | [fp] => pure ("sha256:" ++ fp, "sha256:" ++ fp)
      | [fp0, fp1] => pure ("sha256:" ++ fp1, "sha256:" ++ fp0)
      | _ => throw "more than 2 or 0 fingerprints found in config map"
    emit (.observed b)
    setTrustInfo (some b) currentFP previousFP
    pure b
  else if t.onTrustAnchorSecretsDiff ∧ t.onTrustRootsConfigMapChange then
    let r ← (ensureTrustSecrets lib spec).lift
    let m ← (loadAndInspectCMBundle lib spec).lift
    let b : BundleState := if r.diverged ∧ m.state = .overlap then .overlap else .single
    emit (.observed b)
    setTrustInfo (some b) r.currentFP r.previousFP
    pure b
  else
    throw ("no rotation trigger enabled: at least one of trigger.onConfigMapChange or " ++
      "trigger.requireSecretsDivergence must be true")

/-- `if err := restart(); err != nil { MarkFailed(RotationFailed, err); return err }`. -/
def failRotation (x : Api Unit) : Api Unit :=
  tryCatch x fun e => do
    markFailed Reason.rotationFailed e
    throw e

/-- The dry-run branch: record the plan as YAML. -/
def dryRunPlan (lib : Lib) (spec : LinkerdTrustRotationSpec) : Api Unit := do
  let q ← (selectLinkerdDataPlane spec).lift
  let out ← match lib.yamlMarshal (q.map WorkItem.dryRun) with
    | .ok s => pure s
    | .error e => throw e
  setDryRunOutput out

/-- The rotation after the issuer deletion: the restarts, the clean-up and
`MarkSucceeded`. -/
def restartAndCleanUp (lib : Lib) (spec : LinkerdTrustRotationSpec) : Api Unit := do
  failRotation (restartLinkerdControlPlane lib spec)
  failRotation (restartLinkerdDataPlane lib spec)
  (deleteSecrets spec spec.linkerd.previousTrustAnchorSecret).lift
  if spec.protection.retriggerRolloutAfterCleanup then
    (waitWithPurpose spec.protection.holdAfterCleanup "hold after cleanup").lift
    discard (ensureTrustSecrets lib spec).lift
    failRotation (restartLinkerdDataPlane lib spec)
  markSucceeded "Linkerd trust anchor certificate rotation completed successfully"

/-- The rotation proper, from the issuer deletion to `MarkSucceeded`. -/
def rotate (lib : Lib) (spec : LinkerdTrustRotationSpec) : Api Unit := do
  setPhase (some Phase.detecting) (some Reason.secretsDiverged)
    (some ("Certificate mismatch detected for Linkerd trust anchor: " ++
      spec.linkerd.trustAnchorSecret ++ " vs " ++ spec.linkerd.previousTrustAnchorSecret))
  (waitWithPurpose spec.protection.beforeRolloutDelay "before rollout delay").lift
  (deleteSecrets spec linkerdIdentityIssuerSecret).lift
  restartAndCleanUp lib spec

/-- The message of the max-retries guard. -/
def maxRetriesMessage (count max : Int) : String :=
  "max retry limit reached (" ++ toString count ++ " > " ++ toString max ++ "); stopping rollout"

/-- `Reconcile` once the bundle state is decided: the dry run, the max-retries
guard and the rotation when the bundle overlaps. -/
def onBundle (lib : Lib) (spec : LinkerdTrustRotationSpec) (bundle : BundleState) : Api Result := do
  if bundle = .overlap then
    if spec.dryRun then
      dryRunPlan lib spec
      return ⟨0⟩
    if let some r := (← get).obj.retries then
      if r.count > spec.protection.maxRolloutFailures then
        let msg := maxRetriesMessage r.count spec.protection.maxRolloutFailures
        emit (.event "MaxRetriesExceeded" msg)
        setPhase (some Phase.failed) (some Reason.maxRetriesExceeded) (some msg)
        return ⟨60⟩
    rotate lib spec
  return ⟨frequency⟩

/-- `Reconcile`. -/
def reconcile (lib : Lib) (spec : LinkerdTrustRotationSpec) : Api Result := do
  call.lift
  modify fun w => { w with obj := w.cache }
  setPhase (some Phase.idle) (some "")
    (some "Starting to watch for changes to the Linkerd trust anchor certificate")
  setProgress true none none
  let bundle ← decideBundle lib spec
  onBundle lib spec bundle

/-! ### Runs -/

inductive Step where
  /-- One call of `Reconcile`. -/
  | reconcile
  /-- The informer cache catches up with the server. -/
  | sync
  /-- Anyone else changes the cluster objects. -/
  | change (f : Cluster → Cluster)

def Step.apply (lib : Lib) (spec : LinkerdTrustRotationSpec) (w : World) : Step → World
  | .reconcile => ((TrustRotator.reconcile lib spec).exec w).2
  | .sync => { w with cache := w.status }
  | .change f => { w with cluster := f w.cluster }

def run (lib : Lib) (spec : LinkerdTrustRotationSpec) (w : World) (steps : List Step) : World :=
  steps.foldl (Step.apply lib spec) w

/-- A relation that composes and that every step of a run keeps holds from the
run's first world to its last. -/
theorem run_rel {lib : Lib} {spec : LinkerdTrustRotationSpec} {R : World → World → Prop}
    (hrefl : ∀ v, R v v) (htrans : ∀ {v₁ v₂ v₃}, R v₁ v₂ → R v₂ v₃ → R v₁ v₃) :
    ∀ steps : List Step, (∀ s ∈ steps, ∀ v, R v (s.apply lib spec v)) → ∀ w, R w (run lib spec w steps)
  | [], _, w => hrefl w
  | s :: steps, h, w =>
    htrans (h s (List.mem_cons_self _ _) w)
      (run_rel hrefl htrans steps (fun s hs => h s (List.mem_cons_of_mem _ hs)) (s.apply lib spec w))

end TrustRotator
