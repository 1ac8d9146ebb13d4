import TrustRotator.Reconcile.Repeat

/-!
# A cursor that outlives its overlap episode

`RestartLinkerdDataPlane` resumes from the status cursor whenever the cursor
carries the queue's hash and a `next` in `(0, total]`, and nothing clears the
cursor when the bundle is seen single. A rollout that fails half way therefore
leaves a cursor that the next overlap episode, with the same queue, resumes:
the items before the cursor are not restarted again, and the previous anchor
secret is deleted all the same (`previous_deleted_after_partial_rollout`).
-/

namespace TrustRotator

/-- The annotation bump of the work item `r`. -/
def Effect.restarts (r : WorkRef) : Effect → Bool
  | .did (.restarted r') => r' == r
  | _ => false

/-- The log, newest first, since the most recent reconcile that saw the bundle single. -/
def sinceSingle (log : List Effect) : List Effect :=
  log.takeWhile fun e => e.observation != some .single

/-- An annotated deployment of `app`, as `sampleSpec` selects it. -/
def appDeployment (name : String) : Workload := ⟨"app", name, [], [("linkerd.io/inject", "enabled")], []⟩

/-- The trust-roots bundle `Lib.sample` reads as one certificate. -/
def oneCertBundle : ConfigMap := ⟨"linkerd", "linkerd-identity-trust-roots", [("ca-bundle.crt", "a")]⟩

/-- A rollout of `[a, b]` that fails at `b`, a reconcile that sees the bundle
single, and one that sees it overlap again: the last one restarts `b` only
and deletes the previous anchor secret. -/
theorem previous_deleted_after_partial_rollout :
    let lib : Lib := { Lib.sample with sha1Hex := id }
    let w₀ : World := { World.init with
      cluster := { configMaps := [twoCertBundle], deployments := [appDeployment "a", appDeployment "b"] }
      faults := List.replicate 19 none ++ [some "the API server is unavailable"] }
    let w := run lib cmSpec w₀ [.sync, .reconcile,
      .change fun c => { c with configMaps := [oneCertBundle] }, .sync, .reconcile,
      .change fun c => { c with configMaps := [twoCertBundle] }, .sync, .reconcile]
    w.log.any (·.observation == some .single) ∧
      (sinceSingle w.log).countP (Effect.deletesSecret "linkerd-previous-trust-anchor") = 1 ∧
      (sinceSingle w.log).countP (Effect.restarts ⟨"Deployment", "app", "a"⟩) = 0 ∧
      (sinceSingle w.log).countP (Effect.restarts ⟨"Deployment", "app", "b"⟩) = 1 := by
  have hb : blank "ab" = false := by decide
  have hb1 : blank "a" = false := by decide
  simp [run, Step.apply, reconcile, onBundle, decideBundle, loadAndInspectCMBundle, parsePEMCerts,
    configMapDataKey, hb, hb1, twoCertBundle, oneCertBundle, lowerASCII, selectLinkerdDataPlane, selectScopes,
    listNamespaces, exec_patch, statusEqual, beforeRequest, stamped, World.next, setPhase, setProgress,
    setTrustInfo, World.init, cmSpec, sampleSpec, Lib.sample, withContext, Env.next, World.env,
    World.withEnv, scopeError, listScope, pickTemplates, inNamespace, rotate, restartAndCleanUp,
    restartLinkerdControlPlane, selectLinkerdControlPlane, restartDeployments, waitWithPurpose,
    deleteSecrets, restartLinkerdDataPlane, failRotation, markFailed, updateCluster,
    linkerdIdentityIssuerSecret, Phase.idle, Phase.detecting, Phase.rollingCP, Phase.rollingDP,
    Phase.failed, Reason.rotationFailed, Reason.secretsDiverged, Reason.cpRestarting, Reason.cpReady,
    Reason.dpBatchRestarting, Reason.dpThresholdReached, Kind.toString, BundleState.toString,
    rolloutQueue, resumeOrInit, rolloutItems, setPlanHash, setRetry, planHash, planHashInput,
    hexPrefix, Effect.deletesSecret, RetryStatus.norm, markSucceeded, stringLess, charsLess,
    calcPercent, appDeployment, rolloutItem, restartItem, bumpRestartAnnotation, bumpAnnotationGeneric,
    waitRolledOut, request, runProxyCheckIfEnabled, bumpProgress, recordFailure, Effect.restarts,
    sinceSingle, Effect.observation, itemHashInput, hasAnnotationOnTemplate, WorkItem.kind, Target.kind,
    WorkItem.getNamespace, WorkItem.getName, Target.getNamespace, Target.getName, WorkItem.ref, Target.ref,
    String.join, bumpTarget, bumpIn, restartedAtKey, mapSet]

end TrustRotator
