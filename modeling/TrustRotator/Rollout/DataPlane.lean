import TrustRotator.Status.Manage
import TrustRotator.Rollout.Restart

/-!
`ManageRollout.RestartLinkerdDataPlane`: the resumable data-plane rollout.

After the selection (`selectLinkerdDataPlane`) the engine (`rolloutQueue`)
resumes from the status cursor when it carries the queue's hash and a `next`
in `(0, total]`, and otherwise writes a fresh cursor at `0`. Item `i` is
restarted, waited for and proxy-checked, and then `bumpProgress` writes the
cursor `i + 1` and the progress. A failure at any of these steps is recorded
by `recordFailure` (the retry count of the reconciler's copy plus one) and
ends the rollout with that error, the cursor left where it was. After the
last item the phase, the retries and the cursor (back to `0`) are reset.
-/

namespace TrustRotator

/-- `bumpProgress`, for the item `done` that brought the count to `processed`. -/
def bumpProgress (processed total : Int) (hash : String) (done : WorkItem) : Api Unit := do
  setPlanHash (some done.ref) processed total hash
  setProgress true (some processed) (some total)

/-- `recordFailure`: the retry count of the reconciler's copy, plus one. -/
def recordFailure (item : WorkItem) (cause : String) : Api Unit := do
  let retries := match (← get).obj.retries with
    | some r => r.count
    | none => 0
  setRetry (some item.ref) (retries + 1) cause
  throw cause

/-- The restart and wait of one item, by kind and strategy. -/
def restartItem (lib : Lib) (w : WorkItem) : Req Unit :=
  match w.target with
  | .daemonSet _ | .deployment _ => do
    bumpRestartAnnotation lib w.target
    waitRolledOut w.ref
  | .customResource u => do
    if w.bumpAnnotationKey.length = 0 ∨ w.bumpAnnotationValue.length = 0 then
      throw ("BumpAnnotationKey, BumpAnnotationValue is required for custom resources " ++
        u.object.nestedString ["kind"])
    bumpAnnotationGeneric w.target w.bumpAnnotationKey w.bumpAnnotationValue
    waitRolledOut w.ref
  | .statefulSet s => do
    if w.strategy = .restart then
      bumpRestartAnnotation lib w.target
      waitRolledOut w.ref
    if w.strategy = .delete then
      restartStatefulSetByDelete s

/-- One iteration of the loop over the queue, for item `i`. -/
def rolloutItem (lib : Lib) (spec : LinkerdTrustRotationSpec) (hash : String) (total : Int)
    (i : Nat) (w : WorkItem) : Api Unit :=
  tryCatch
    (do
      (restartItem lib w).lift
      (runProxyCheckIfEnabled lib spec w.ref w.getNamespace w.getName).lift
      bumpProgress (i + 1) total hash w)
    (recordFailure w)

/-- The loop `for i := start; i < len(q); i++`, over `q.drop start`. -/
def rolloutItems (lib : Lib) (spec : LinkerdTrustRotationSpec) (hash : String) (total : Int) :
    Nat → List WorkItem → Api Unit
  | _, [] => pure ()
  | i, w :: rest => do
    rolloutItem lib spec hash total i w
    rolloutItems lib spec hash total (i + 1) rest

/-- Where the loop starts: the cursor's `next` when the cursor resumes this
queue, after writing a fresh cursor otherwise. -/
def resumeOrInit (hash : String) (total : Int) : Api Nat := do
  match (← get).obj.cursor with
  | some cur =>
    if cur.planHash = hash ∧ cur.next > 0 ∧ cur.next ≤ total then pure cur.next.toNat
    else do
      setPlanHash none 0 total hash
      pure 0
  | none => do
    setPlanHash none 0 total hash
    pure 0

/-- `RestartLinkerdDataPlane` after the selection returned `q`. -/
def rolloutQueue (lib : Lib) (spec : LinkerdTrustRotationSpec) (q : List WorkItem) : Api Unit := do
  setPhase (some Phase.rollingDP) (some Reason.dpBatchRestarting)
    (some "Starting rollout restart Linkerd data plane")
  let hash := planHash lib q
  let total : Int := q.length
  let start ← resumeOrInit hash total
  setProgress true (some start) (some total)
  rolloutItems lib spec hash total start (q.drop start)
  setPhase (some Phase.rollingDP) (some Reason.dpThresholdReached)
    (some "Finished restarted Linkerd data plane")
  setRetry none 0 ""
  setPlanHash none 0 total hash

/-- `ManageRollout.RestartLinkerdDataPlane`. -/
def restartLinkerdDataPlane (lib : Lib) (spec : LinkerdTrustRotationSpec) : Api Unit := do
  let q ← (selectLinkerdDataPlane spec).lift
  rolloutQueue lib spec q

end TrustRotator
