import TrustRotator.Rollout.Restart

/-!
# The wait loops of `internal/rollout`

Inside the engine a wait is one request (`waitRolledOut`), whose outcome the
environment chooses. This module models the polls behind it. Every waiter
ticks every two seconds until its deadline; at each tick it `Get`s the object,
polls again when it is not found, returns any other error, and otherwise judges
the object it read: done, failed, or not yet. The ticks before the deadline,
with what each `Get` returned, are a list of `Poll`s, and `pollLoop` runs a
waiter over them; each waiter is `pollLoop` with its own judgement and timeout
text. The request of the engine can end as any run of any waiter does
(`waitRolledOut_covers`), so what is proved of the engine holds whatever the
waiters return.

A waiter judges an object by that object's fields alone: its own generation,
its own readiness, the pod of the same name. Nothing ties the observation to
the restart's write, so the loop ends on the first observation judged done,
whatever its version (`waiter_accepts_first_done`), and a read that lags
behind the bump ends the wait on the object as it was before it
(`waitDeploymentRolledOut_accepts_stale`).
-/

namespace TrustRotator

/-! ### One loop for every waiter -/

/-- What one tick of a wait brings: the context cancelled (`ctx.Err()`), or
what the `Get` returned. -/
inductive Poll (α : Type) where
  | cancelled (err : String)
  | notFound
  | failed (err : String)
  | found (obj : α)

/-- A waiter's judgement of an object it read. -/
inductive Verdict where
  | done
  | fail (err : String)
  | again

/-- The loop of a waiter over the ticks before its deadline. Where the code
returns `nil`, this returns the observation that ended the loop. -/
def pollLoop {α : Type} (judge : α → Verdict) (timeoutMsg : String) : List (Poll α) → Except String α
  | [] => .error timeoutMsg
  | .cancelled err :: _ => .error err
  | .notFound :: rest => pollLoop judge timeoutMsg rest
  | .failed err :: _ => .error err
  | .found o :: rest =>
    match judge o with
    | .done => .ok o
    | .fail err => .error err
    | .again => pollLoop judge timeoutMsg rest

/-- A tick that lets the loop go on: an object not found, or one not ready yet. -/
def Poll.Passes {α : Type} (judge : α → Verdict) : Poll α → Prop
  | .notFound => True
  | .found o => judge o = .again
  | _ => False

section
variable {α : Type} (judge : α → Verdict) (timeoutMsg : String)

theorem pollLoop_of_passes {o : α} (hdone : judge o = .done) :
    ∀ (pre post : List (Poll α)), (∀ p ∈ pre, p.Passes judge) →
      pollLoop judge timeoutMsg (pre ++ .found o :: post) = .ok o
  | [], _, _ => by simp [pollLoop, hdone]
  | p :: pre, post, h => by
    have ih := pollLoop_of_passes hdone pre post fun q hq => h q (List.mem_cons_of_mem _ hq)
    have hp := h p (List.mem_cons_self _ _)
    cases p with
    | notFound => simpa [pollLoop] using ih
    | found o' =>
      simp only [Poll.Passes] at hp
      simp [pollLoop, hp, ih]
    | cancelled | failed => cases hp

theorem pollLoop_ok {o : α} : ∀ {polls : List (Poll α)}, pollLoop judge timeoutMsg polls = .ok o →
    ∃ pre post, polls = pre ++ .found o :: post ∧ judge o = .done ∧ ∀ p ∈ pre, p.Passes judge
  | [], h => by simp [pollLoop] at h
  | .cancelled _ :: _, h | .failed _ :: _, h => by simp [pollLoop] at h
  | .notFound :: rest, h => by
    simp only [pollLoop] at h
    obtain ⟨pre, post, rfl, hd, hp⟩ := pollLoop_ok h
    exact ⟨.notFound :: pre, post, rfl, hd, by simpa [Poll.Passes] using hp⟩
  | .found o' :: rest, h => by
    simp only [pollLoop] at h
    split at h
    · rename_i hd
      cases h
      exact ⟨[], rest, rfl, hd, by simp⟩
    · cases h
    · rename_i hd
      obtain ⟨pre, post, rfl, hd', hp⟩ := pollLoop_ok h
      exact ⟨.found o' :: pre, post, rfl, hd', by simpa [Poll.Passes, hd] using hp⟩

/-- Every waiter ends with `nil` exactly on the first observation it judges
done by that observation's own fields, every earlier tick finding nothing or
an object not ready yet. So the observation it ends on is at least as new as
the restart's write whenever every read is, and may be older otherwise. -/
theorem waiter_accepts_first_done (polls : List (Poll α)) (o : α) :
    (pollLoop judge timeoutMsg polls = .ok o ↔
      ∃ pre post, polls = pre ++ .found o :: post ∧ judge o = .done ∧ ∀ p ∈ pre, p.Passes judge) ∧
    ∀ (version : α → Nat) (written : Nat), (∀ o', .found o' ∈ polls → written ≤ version o') →
      pollLoop judge timeoutMsg polls = .ok o → written ≤ version o := by
  refine ⟨⟨pollLoop_ok judge timeoutMsg,
      fun ⟨pre, post, h, hd, hp⟩ => h ▸ pollLoop_of_passes judge timeoutMsg hd pre post hp⟩,
    fun version written hfresh h => hfresh o ?_⟩
  obtain ⟨pre, post, rfl, -, -⟩ := pollLoop_ok judge timeoutMsg h
  simp

/-- Inside the engine a wait is one request, whose outcome the environment
chooses: whatever a waiter's loop returns over its ticks, the request of the
engine returns too, for the outcome the environment gives it. -/
theorem waitRolledOut_covers (r : WorkRef) (e : Env) (polls : List (Poll α)) :
    ∃ f, ((waitRolledOut r).exec { e with faults := f :: e.faults }).1 =
      (pollLoop judge timeoutMsg polls).map fun _ => () := by
  cases pollLoop judge timeoutMsg polls with
  | error err => exact ⟨some err, by simp [waitRolledOut, request, Env.next, Except.map]⟩
  | ok _ => exact ⟨none, by simp [waitRolledOut, request, Env.next, Except.map]⟩

end

/-! ### The waiters -/

/-- The fields of a `Deployment` that `waitDeploymentRolledOut` reads, and the
version of the object it read. -/
structure DeploymentObs where
  resourceVersion : Nat
  generation : Int
  /-- `spec.replicas`. -/
  replicas : Option Int
  observedGeneration : Int
  updatedReplicas : Int
  readyReplicas : Int
  unavailableReplicas : Int
  deriving DecidableEq, Repr

/-- `kubectl rollout status` on a Deployment, against its own generation. -/
def DeploymentObs.rolledOut (d : DeploymentObs) : Bool :=
  let replicas := d.replicas.getD 1
  d.updatedReplicas == replicas && d.readyReplicas == replicas && d.unavailableReplicas == 0 &&
    decide (d.observedGeneration ≥ d.generation)

/-- `waitDeploymentRolledOut`. -/
def waitDeploymentRolledOut : List (Poll DeploymentObs) → Except String DeploymentObs :=
  pollLoop (fun d => if d.rolledOut then .done else .again) "timeout waiting for Deployment rollout"

/-- The fields of a `StatefulSet` that `waitStatefulSetRolledOut` reads. -/
structure StatefulSetObs where
  resourceVersion : Nat
  generation : Int
  replicas : Option Int
  observedGeneration : Int
  readyReplicas : Int
  currentRevision : String
  updateRevision : String
  deriving DecidableEq, Repr

def StatefulSetObs.rolledOut (s : StatefulSetObs) : Bool :=
  s.readyReplicas == s.replicas.getD 1 && s.currentRevision == s.updateRevision &&
    decide (s.observedGeneration ≥ s.generation)

/-- `waitStatefulSetRolledOut`. -/
def waitStatefulSetRolledOut : List (Poll StatefulSetObs) → Except String StatefulSetObs :=
  pollLoop (fun s => if s.rolledOut then .done else .again) "timeout waiting for StatefulSet rollout"

/-- The fields of a `DaemonSet` that `waitDaemonSetRolledOut` reads. -/
structure DaemonSetObs where
  resourceVersion : Nat
  generation : Int
  /-- `spec.updateStrategy.type` is `OnDelete`. -/
  onDelete : Bool
  observedGeneration : Int
  desiredNumberScheduled : Int
  updatedNumberScheduled : Int
  numberAvailable : Int
  numberMisscheduled : Int
  deriving DecidableEq, Repr

def DaemonSetObs.rolledOut (d : DaemonSetObs) : Bool :=
  d.updatedNumberScheduled == d.desiredNumberScheduled && d.numberAvailable == d.desiredNumberScheduled &&
    d.numberMisscheduled == 0 && decide (d.observedGeneration ≥ d.generation)

/-- `waitDaemonSetRolledOut` for the object `key`: a template bump does not roll
the pods of an `OnDelete` daemon set, so the wait fails on reading one. -/
def waitDaemonSetRolledOut (key : String) : List (Poll DaemonSetObs) → Except String DaemonSetObs :=
  pollLoop (fun d =>
      if d.onDelete then
        .fail ("Daemonset " ++ key ++ " uses OnDelete strategy: template bump won't roll pods")
      else if d.rolledOut then .done else .again)
    "timeout waiting for Daemonset rollout"

/-- The fields of a `Pod` that `deletePodAndWaitSameNameReady` reads. -/
structure PodObs where
  resourceVersion : Nat
  uid : String
  /-- `DeletionTimestamp != nil`. -/
  terminating : Bool
  phase : String
  /-- The `PodReady` condition is `True`. -/
  ready : Bool
  deriving DecidableEq, Repr

/-- The poll of `deletePodAndWaitSameNameReady` for the pod `ns/name`, after
its delete: any pod of that name, running, ready and not terminating. -/
def waitPodSameNameReady (ns name : String) : List (Poll PodObs) → Except String PodObs :=
  pollLoop (fun p => if !p.terminating && p.phase == "Running" && p.ready then .done else .again)
    ("timeout waiting pod " ++ ns ++ "/" ++ name ++ " to be Ready after delete")

/-- The fields of a custom resource that `waitCRByAnnotationAndStatus` reads;
a missing number reads as `0`. -/
structure CustomResourceObs where
  resourceVersion : Nat
  generation : Int
  readyPods : Int
  pods : Int
  observedGeneration : Int
  annotations : List (String × String)
  deriving DecidableEq, Repr

def CustomResourceObs.statusOK (u : CustomResourceObs) : Bool :=
  decide (u.pods > 0) && u.readyPods == u.pods && decide (u.observedGeneration ≥ u.generation)

/-- `waitCRByAnnotationAndStatus`: the status ready and, when asked, the
annotation `annoKey` absent or empty. -/
def waitCRByAnnotationAndStatus (gvk annoKey : String) (requireAnnoCleared : Bool) :
    List (Poll CustomResourceObs) → Except String CustomResourceObs :=
  pollLoop (fun u =>
      if u.statusOK && (!requireAnnoCleared || (u.annotations.lookup annoKey).getD "" == "") then .done
      else .again)
    ("timeout waiting for " ++ gvk)

/-- A read that lags behind the bump: the first tick reads the rolled-out
version before it, the next the bumped one. The wait ends on the first. -/
theorem waitDeploymentRolledOut_accepts_stale :
    let before : DeploymentObs := ⟨1, 1, some 1, 1, 1, 1, 0⟩
    let bumped : DeploymentObs := ⟨2, 2, some 1, 1, 1, 1, 0⟩
    waitDeploymentRolledOut [.found before, .found bumped] = .ok before ∧
      before.resourceVersion < bumped.resourceVersion :=
  ⟨rfl, by decide⟩

end TrustRotator
