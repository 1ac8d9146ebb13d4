import TrustRotator.Reconcile.Tracks
import TrustRotator.Rollout.Plan

/-!
The retry count of the status over runs of reconciles.

The max-retries guard of `Reconcile` reads `Status.Retries.Count`. Only
`SetRetry` writes it: `recordFailure`, when a data-plane item fails, and the
end of a completed data-plane rollout, which clears it. So a data-plane
restart whose selection fails writes no count
(`restartLinkerdDataPlane_holds_of_plan_error`), and over any run the count
moves only with an accepted `SetRetry` write (`count_changes_only_by_setRetry`):
nothing clears it when an overlap episode ends without completing a rollout.
-/

namespace TrustRotator

open LinkerdTrustRotationStatus

/-- The server's retry count is as it was. -/
def KeepsCount (v v' : World) : Prop :=
  v'.status.retries.map RetryStatus.count = v.status.retries.map RetryStatus.count

theorem patch_keepsCount {p : String} {m : LinkerdTrustRotationStatus → LinkerdTrustRotationStatus}
    (hm : ∀ st, (m st).retries = st.retries) : Holds KeepsCount (patch p m) := fun _ _ _ h => by
  rcases patch_cases _ _ _ h with ⟨-, -, rfl⟩ | ⟨-, -, fs, rfl⟩ | ⟨-, -, fs, rfl⟩
  · rfl
  · rfl
  · show (applyPatch _ _ _).retries.map _ = _
    rw [applyPatch_retries_frame (by simp [stamped, hm]), Option.map_map]
    rfl

theorem keepsCount_tracks : TracksWrites KeepsCount where
  refl _ := rfl
  trans h₁ h₂ := h₂.trans h₁
  lift _ _ := rfl
  observe _ _ := rfl
  event _ _ _ := rfl
  reread _ := rfl
  patch _ _ _ hm := patch_keepsCount hm
  sync _ := rfl
  change _ _ := rfl

section
variable {lib : Lib} {spec : LinkerdTrustRotationSpec}

/-- A data-plane restart whose selection fails on every cluster stops at the
selection, before any status write. -/
theorem restartLinkerdDataPlane_holds_of_plan_error {R : World → World → Prop} (hR : Tracks R)
    (hsel : ∀ c, ∃ e, plan spec c = .error e) : Holds R (restartLinkerdDataPlane lib spec) :=
  fun v _ _ h => by
  obtain ⟨v₁, ⟨e, h₁, -, rfl⟩ | ⟨q, h₁, -⟩⟩ := Prog.exec_bind_cases h
  · exact Holds.lift hR _ _ _ _ h₁
  · obtain ⟨e, he, -⟩ := lift_ok h₁
    obtain ⟨err, hp⟩ := hsel v.env.cluster
    rw [(selectLinkerdDataPlane_ok he).1] at hp
    cases hp

end

/-- `sampleSpec` with a deployment scope that names no namespace, and no
failure allowed. -/
def badTargetsSpec : LinkerdTrustRotationSpec :=
  { sampleSpec with
    rollout := ⟨⟨"linkerd.io/inject", "enabled", [{ kindType := .deployment, allowedNamespaces := [] }]⟩⟩
    protection := { runLinkerdCheckProxy := false, maxRolloutFailures := 0 } }

/-- The server's retry count is as it was, unless a `SetRetry` write was
accepted in between. -/
def CountBySetRetry (v v' : World) : Prop :=
  ∃ pre, v'.log = pre ++ v.log ∧ ((∀ e ∈ pre, e.isSetRetry = false) → KeepsCount v v')

theorem patch_countBySetRetry {p : String} {m : LinkerdTrustRotationStatus → LinkerdTrustRotationStatus}
    (hm : p = "SetRetry" ∨ ∀ st, (m st).retries = st.retries) : Holds CountBySetRetry (patch p m) :=
  fun _ _ _ h => by
  rcases patch_cases _ _ _ h with ⟨-, -, rfl⟩ | ⟨-, -, fs, rfl⟩ | ⟨-, -, fs, rfl⟩
  · exact ⟨[], rfl, fun _ => rfl⟩
  · exact ⟨[], rfl, fun _ => rfl⟩
  · refine ⟨[_], rfl, fun hp => ?_⟩
    rcases hm with rfl | hm
    · exact absurd (hp _ (List.mem_singleton_self _)) (by simp [Effect.isSetRetry])
    · exact patch_keepsCount hm _ _ _ h

theorem countBySetRetry_tracks : TracksWrites CountBySetRetry where
  refl _ := ⟨[], rfl, fun _ => rfl⟩
  trans := fun ⟨pre₁, hl₁, hk₁⟩ ⟨pre₂, hl₂, hk₂⟩ => ⟨pre₂ ++ pre₁, by rw [hl₂, hl₁, List.append_assoc],
    fun h => (hk₂ fun e he => h e (List.mem_append_left _ he)).trans
      (hk₁ fun e he => h e (List.mem_append_right _ he))⟩
  lift _ _ := ⟨_, rfl, fun _ => rfl⟩
  observe _ _ := ⟨[_], rfl, fun _ => rfl⟩
  event _ _ _ := ⟨[_], rfl, fun _ => rfl⟩
  reread _ := ⟨[], rfl, fun _ => rfl⟩
  patch _ _ _ hm := patch_countBySetRetry (.inr hm)
  sync _ := ⟨[], rfl, fun _ => rfl⟩
  change _ _ := ⟨[], rfl, fun _ => rfl⟩

/-- Over any run, under any outcome of every request and whatever the
informer cache hands out, the server's retry count moves only with an
accepted `SetRetry` write. -/
theorem count_changes_only_by_setRetry (lib : Lib) (spec : LinkerdTrustRotationSpec) (w : World)
    (steps : List Step) :
    ∃ pre, (run lib spec w steps).log = pre ++ w.log ∧
      ((∀ e ∈ pre, e.isSetRetry = false) →
        (run lib spec w steps).status.retries.map RetryStatus.count =
          w.status.retries.map RetryStatus.count) :=
  have hR := countBySetRetry_tracks
  have hsr := setRetry_holds hR.toTracks fun _ => patch_countBySetRetry (.inl rfl)
  run_holds hR lib spec (reconcile_holds hR lib spec
    (rotate_holds hR.1 lib spec (restartLinkerdDataPlane_holds hR.1 hsr lib spec))) w steps

/-- A data-plane rollout whose item fails records a count of `1`; after a
reconcile that sees the bundle single and a change of the anchor secrets,
the next overlap episode starts from that count. -/
theorem count_carries_into_next_episode :
    let w₀ : World := { World.init with
      cluster := { secrets := anchorSecrets "a" "b", deployments := [annotatedDeployment "a"] }
      faults := List.replicate 17 none ++ [some "boom"] }
    let w₁ := run Lib.sample sampleSpec w₀ [.sync, .reconcile,
      .change fun c => { c with secrets := anchorSecrets "a" "a" }, .sync, .reconcile,
      .change fun c => { c with secrets := anchorSecrets "a" "c" }, .sync]
    let w₂ := run Lib.sample sampleSpec w₁ [.reconcile]
    w₂.log.filterMap Effect.observation = [.overlap, .single, .overlap] ∧
      w₁.status.retries.map RetryStatus.count = some 1 := by
  simp [run, Step.apply, reconcile, decideBundle, ensureTrustSecrets, selectLinkerdDataPlane,
    selectScopes, listNamespaces, exec_patch, statusEqual, beforeRequest, stamped, World.next,
    setPhase, setProgress, setTrustInfo, World.init, sampleSpec, Lib.sample, findSecret,
    fingerprintPEMCerts, concatDER, withContext, Env.next, World.env, World.withEnv, secretDataKey,
    sameData, scopeError, listScope, pickTemplates, inNamespace, hasAnnotationOnTemplate,
    anchorSecrets, onBundle, rotate, restartAndCleanUp, restartLinkerdControlPlane, selectLinkerdControlPlane, restartDeployments,
    waitWithPurpose, deleteSecrets, restartLinkerdDataPlane, failRotation, markFailed, updateCluster,
    linkerdIdentityIssuerSecret, Phase.idle, Phase.detecting, Phase.rollingCP, Phase.rollingDP,
    Phase.failed, Reason.rotationFailed, Reason.secretsDiverged, Reason.cpRestarting, Reason.cpReady,
    Reason.dpBatchRestarting, Reason.dpThresholdReached, Kind.toString, BundleState.toString,
    rolloutQueue, resumeOrInit, rolloutItems, rolloutItem, restartItem, runProxyCheckIfEnabled,
    bumpProgress, calcPercent, setPlanHash, setRetry, recordFailure, planHash, planHashInput,
    itemHashInput, hexPrefix, bumpRestartAnnotation, bumpAnnotationGeneric, bumpTarget,
    annotatedDeployment, Effect.observation, RetryStatus.norm, mapSet, WorkItem.ref, Target.ref,
    Target.kind, Target.getNamespace, Target.getName, waitRolledOut, request, bumpIn,
    restartedAtKey, markSucceeded]

end TrustRotator
