import TrustRotator.Reconcile.Retries
import TrustRotator.Rollout.Cursor

/-!
Reconciling again on the same inputs.

`Reconcile` starts by writing phase `Idle` and an empty progress, whatever it
goes on to do. Two of its paths then overwrite them: the dry run
(`SetDryRunOutput`, phase `DryRun` and no progress,
`reconcile_dryRun_status`) and the max-retries guard (`SetPhase` to `Failed`,
`reconcile_maxRetries_status`). The next reconcile, reading that status,
writes phase `Idle` back as soon as its first requests succeed
(`reconcile_writes_phase`).

The trigger decision reads the bundle or the anchor secrets and nothing
else: it never compares them with the fingerprints the status recorded. In
ConfigMap-only mode a bundle that keeps two certificates is decided
overlapping on every reconcile whose requests succeed
(`decideBundle_cm_overlap`), and such a rotation deletes the identity issuer
first (`rotate_deletes_issuer`), whatever the status says, `MarkSucceeded`
included (`cm_bundle_rotates_again`).
-/

namespace TrustRotator

open LinkerdTrustRotationStatus

section
variable {lib : Lib} {spec : LinkerdTrustRotationSpec} {v v' : World}

/-- A trigger decision that succeeded logged what it decided and, from a world
whose copy is the server's, kept the copy in step. -/
theorem decideBundle_ok {b : BundleState} (h : (decideBundle lib spec).exec v = (.ok b, v')) :
    (v.obj = v.status → v'.obj = v'.status) ∧ ∃ pre, v'.log = pre ++ v.log ∧ .observed b ∈ pre := by
  have tail : ∀ {v₁ : World} {b' c p}, ((emit (.observed b') >>= fun _ => setTrustInfo (some b') c p >>=
      fun _ => (Pure.pure b' : Api BundleState)).exec v₁ = (.ok b, v')) →
      (v₁.obj = v₁.status → v'.obj = v'.status) ∧ ∃ pre, v'.log = pre ++ v₁.log ∧ .observed b ∈ pre := by
    intro v₁ b' c p h
    obtain ⟨_, v₂, h₁, hk⟩ := Prog.exec_bind_ok h
    obtain ⟨_, v₃, h₂, h₃⟩ := Prog.exec_bind_ok hk
    have hti : Frame (setTrustInfo (some b') c p) := Frame.patch (fun _ => rfl) (by decide)
    rw [exec_emit] at h₁
    obtain ⟨-, rfl⟩ := Prod.mk.inj h₁
    rw [Prog.exec_pure] at h₃
    obtain ⟨⟨⟩, rfl⟩ := Prod.mk.inj h₃
    refine ⟨fun hs => hti.sync h₂ hs, ?_⟩
    obtain ⟨pre, hpre⟩ := patch_grows _ _ _ _ _ h₂
    exact ⟨pre ++ [.observed b], by rw [← hpre]; simp, by simp⟩
  have back : ∀ {α} {x : Req α} {v₀ v₁ : World} {a}, (x.lift).exec v₀ = (.ok a, v₁) →
      (v₁.obj = v₁.status → v'.obj = v'.status) ∧ (∃ pre, v'.log = pre ++ v₁.log ∧ .observed b ∈ pre) →
      (v₀.obj = v₀.status → v'.obj = v'.status) ∧ ∃ pre, v'.log = pre ++ v₀.log ∧ .observed b ∈ pre := by
    intro α x v₀ v₁ a h₁ ⟨hs, pre, hl, hm⟩
    obtain ⟨e, -, rfl⟩ := lift_ok h₁
    exact ⟨hs, pre ++ _, by rw [hl, withEnv_log, List.append_assoc], List.mem_append_left _ hm⟩
  unfold decideBundle at h
  dsimp only at h
  split at h
  · obtain ⟨_, v₁, h₁, h₂⟩ := Prog.exec_bind_ok h
    exact back h₁ (tail h₂)
  split at h
  · obtain ⟨_, v₁, h₁, h₂⟩ := Prog.exec_bind_ok h
    refine back h₁ ?_
    split at h₂ <;> obtain ⟨_, v₂, h₃, h₄⟩ := Prog.exec_bind_ok h₂ <;>
      simp only [Prog.exec_pure, Prog.exec_throw, Prod.mk.injEq, reduceCtorEq, false_and] at h₃ <;>
      obtain ⟨-, rfl⟩ := h₃ <;> exact tail h₄
  split at h
  · obtain ⟨_, v₁, h₁, h₂⟩ := Prog.exec_bind_ok h
    obtain ⟨_, v₂, h₃, h₄⟩ := Prog.exec_bind_ok h₂
    exact back h₁ (back h₃ (tail h₄))
  · cases (Prod.mk.inj h).1

/-- A data-plane dry run that succeeded from a world whose copy is the
server's leaves phase `DryRun` and no progress. -/
theorem dryRunPlan_ok (hs : v.obj = v.status) (h : (dryRunPlan lib spec).exec v = (.ok (), v')) :
    v'.status.phase = some Phase.dryRun ∧ v'.status.progress = none := by
  obtain ⟨_, v₁, h₁, h₂⟩ := Prog.exec_bind_ok h
  obtain ⟨e, -, rfl⟩ := lift_ok h₁
  dsimp only at h₂
  split at h₂
  · obtain ⟨_, v₂, h₃, h₄⟩ := Prog.exec_bind_ok h₂
    rw [Prog.exec_pure] at h₃
    obtain ⟨-, rfl⟩ := Prod.mk.inj h₃
    have hc := (patch_ok_core (show (v.withEnv e).obj = (v.withEnv e).status from hs) h₄).1
    exact ⟨congrArg LinkerdTrustRotationStatus.phase hc, congrArg LinkerdTrustRotationStatus.progress hc⟩
  · obtain ⟨_, v₂, h₃, -⟩ := Prog.exec_bind_ok h₂
    cases (Prod.mk.inj h₃).1

/-- How `onBundle` returns: without requeue only from a dry run that went
through, after 60 seconds only from the max-retries guard, whose `SetPhase` to
`Failed` went through, and otherwise after `frequency`. -/
theorem onBundle_ok_cases {b : BundleState} {res : Result} (h : (onBundle lib spec b).exec v = (.ok res, v')) :
    (res = ⟨0⟩ ∧ (dryRunPlan lib spec).exec v = (.ok (), v')) ∨
      (res = ⟨60⟩ ∧ ∃ v₁ msg, v₁.obj = v.obj ∧ v₁.status = v.status ∧
        (setPhase (some Phase.failed) (some Reason.maxRetriesExceeded) (some msg)).exec v₁ = (.ok (), v')) ∨
      res = ⟨frequency⟩ := by
  have last : ∀ {α} {x : Api α} {c : Result} {v₀ : World}, (x >>= fun _ => Pure.pure c).exec v₀ =
      (.ok res, v') → c = res ∧ ∃ a, x.exec v₀ = (.ok a, v') := fun h => by
    obtain ⟨a, _, hx, h⟩ := Prog.exec_bind_ok h
    rw [Prog.exec_pure] at h
    obtain ⟨hc, rfl⟩ := Prod.mk.inj h
    exact ⟨Except.ok.inj hc, a, hx⟩
  unfold onBundle at h
  split at h
  · split at h
    · obtain ⟨rfl, ⟨⟩, hd⟩ := last h
      exact .inl ⟨rfl, hd⟩
    rw [Prog.exec_bind_of_ok (Prog.exec_pure _ _), Prog.exec_bind_of_ok (Prog.exec_get _)] at h
    dsimp only at h
    split at h
    · split at h
      · -- the max-retries guard
        rw [Prog.exec_bind_of_ok (exec_emit _ _)] at h
        obtain ⟨rfl, ⟨⟩, h⟩ := last h
        refine .inr (.inl ⟨rfl, _, _, ?_, ?_, h⟩) <;> rfl
      · rw [Prog.exec_bind_of_ok (Prog.exec_pure _ _)] at h
        exact .inr (.inr (last h).1.symm)
    · rw [Prog.exec_bind_of_ok (Prog.exec_pure _ _)] at h
      exact .inr (.inr (last h).1.symm)
  · dsimp only at h
    exact .inr (.inr (last h).1.symm)

end

section
variable {lib : Lib} {spec : LinkerdTrustRotationSpec}

/-- A reconcile that returned, from a fresh read: its `onBundle` ran from a
world whose copy is the server's. -/
theorem reconcile_ok_onBundle {w w' : World} {res : Result} (hfresh : w.cache = w.status)
    (h : (reconcile lib spec).exec w = (.ok res, w')) :
    ∃ v b, v.obj = v.status ∧ (onBundle lib spec b).exec v = (.ok res, w') := by
  obtain ⟨_, v₁, h₁, h₂⟩ := Prog.exec_bind_ok h
  obtain ⟨e, -, rfl⟩ := lift_ok h₁
  obtain ⟨_, v₂, h₃, h₄⟩ := Prog.exec_bind_ok h₂
  rw [Prog.exec_modify] at h₃
  obtain ⟨-, rfl⟩ := Prod.mk.inj h₃
  obtain ⟨_, v₃, h₅, h₆⟩ := Prog.exec_bind_ok h₄
  obtain ⟨_, v₄, h₇, h₈⟩ := Prog.exec_bind_ok h₆
  obtain ⟨b, v₅, h₉, h₁₀⟩ := Prog.exec_bind_ok h₈
  have hs₃ := (Frame.setPhase _ _ _).sync h₅ hfresh
  have hs₄ := (Frame.setProgress _ _ _).sync h₇ hs₃
  exact ⟨v₅, b, (decideBundle_ok h₉).1 hs₄, h₁₀⟩

/-- A reconcile that returned without requeue, from a fresh read, took the
dry-run path: it leaves phase `DryRun` and no progress. -/
theorem reconcile_dryRun_status {w : World} (hfresh : w.cache = w.status)
    (h : ((reconcile lib spec).exec w).1 = .ok ⟨0⟩) :
    ((reconcile lib spec).exec w).2.status.phase = some Phase.dryRun ∧
      ((reconcile lib spec).exec w).2.status.progress = none := by
  obtain ⟨v, b, hs, hb⟩ := reconcile_ok_onBundle hfresh (Prod.ext h rfl)
  rcases onBundle_ok_cases hb with ⟨-, hd⟩ | ⟨h60, -⟩ | h10
  · exact dryRunPlan_ok hs hd
  · cases h60
  · cases h10

/-- A reconcile that requeued after 60 seconds, from a fresh read, tripped
the max-retries guard: it leaves phase `Failed`. -/
theorem reconcile_maxRetries_status {w : World} (hfresh : w.cache = w.status)
    (h : ((reconcile lib spec).exec w).1 = .ok ⟨60⟩) :
    ((reconcile lib spec).exec w).2.status.phase = some Phase.failed := by
  obtain ⟨v, b, hs, hb⟩ := reconcile_ok_onBundle hfresh (Prod.ext h rfl)
  rcases onBundle_ok_cases hb with ⟨h0, -⟩ | ⟨-, v₁, msg, ho, hst, h₁⟩ | h10
  · cases h0
  · exact congrArg LinkerdTrustRotationStatus.phase (patch_ok_core (ho.trans (hs.trans hst.symm)) h₁).1
  · cases h10

/-- A reconcile that reads a phase other than `Idle`, and whose first request
and first status write succeed, issues a `SetPhase` write. -/
theorem reconcile_writes_phase {v : World} {fs : List (Option String)}
    (hp : v.cache.phase ≠ some Phase.idle) (hf : v.faults = none :: none :: fs) :
    ∃ s pre, ((reconcile lib spec).exec v).2.log = pre ++ .statusPatched "SetPhase" s :: v.log := by
  have h₁ : (call.lift).exec v = (.ok (), { v with faults := none :: fs }) := by
    rw [exec_lift_call]; simp [World.next, hf]
  obtain ⟨v₃, h₃, s, hl₃⟩ : ∃ v₃, (setPhase (some Phase.idle) (some "")
      (some "Starting to watch for changes to the Linkerd trust anchor certificate")).exec
        { v with faults := none :: fs, obj := v.cache } = (.ok (), v₃) ∧
      ∃ s, v₃.log = .statusPatched "SetPhase" s :: v.log := by
    rw [setPhase, exec_patch, if_neg fun h => hp (congrArg LinkerdTrustRotationStatus.phase
      (statusEqual_iff.1 h))]
    exact ⟨_, rfl, _, rfl⟩
  have hg : Holds Grows (setProgress true none none >>= fun _ => decideBundle lib spec >>= onBundle lib spec) :=
    .bind grows_tracks.toTracks (setProgress_holds grows_tracks.1 _ _ _) fun _ =>
      .bind grows_tracks.toTracks (decideBundle_holds grows_tracks.1 lib spec)
        (onBundle_holds grows_tracks.1 lib spec (rotate_grows lib spec))
  rw [reconcile, Prog.exec_bind_of_ok h₁, Prog.exec_bind_of_ok (Prog.exec_modify _ _),
    Prog.exec_bind_of_ok h₃]
  obtain ⟨pre, hpre⟩ := hg v₃ _ _ rfl
  exact ⟨s, pre, by rw [← hl₃]; exact hpre.symm⟩

end

/-- `sampleSpec` as a dry run. -/
def dryRunSpec : LinkerdTrustRotationSpec := { sampleSpec with dryRun := true }

/-- On an unchanged cluster, a second dry-run reconcile moves `lastUpdated`. -/
theorem dryRun_requeue_moves_lastUpdated :
    let w₀ : World := { World.init with cluster := { secrets := anchorSecrets "a" "b" } }
    let w₁ := run Lib.sample dryRunSpec w₀ [.sync, .reconcile]
    let w₂ := run Lib.sample dryRunSpec w₁ [.sync, .reconcile]
    w₂.cluster = w₀.cluster ∧ w₂.status.lastUpdated ≠ w₁.status.lastUpdated := by
  simp [run, Step.apply, reconcile, onBundle, decideBundle, ensureTrustSecrets, dryRunPlan,
    selectLinkerdDataPlane, selectScopes, listNamespaces, exec_patch, statusEqual, beforeRequest,
    stamped, World.next, setPhase, setProgress, setTrustInfo, setDryRunOutput, World.init, dryRunSpec,
    sampleSpec, Lib.sample, findSecret, fingerprintPEMCerts, concatDER, withContext, Env.next,
    World.env, World.withEnv, secretDataKey, sameData, scopeError, listScope, pickTemplates,
    inNamespace, hasAnnotationOnTemplate, anchorSecrets]

/-- A dry run with the previous anchor secret missing creates it: the
bootstrap of `EnsureTrustSecrets` runs before the dry-run branch. -/
theorem dryRun_bootstraps_previous_secret :
    let w₀ : World := { World.init with
      cluster := { secrets := [⟨"linkerd", "linkerd-trust-anchor", [], [("tls.crt", "a")]⟩] } }
    let w₁ := ((reconcile Lib.sample dryRunSpec).exec w₀).2
    .did (.secretCreated "linkerd" "linkerd-previous-trust-anchor") ∈ w₁.log ∧
      w₁.cluster.secrets.length = 2 := by
  simp [reconcile, onBundle, decideBundle, ensureTrustSecrets, bootstrapPreviousSecrets, dryRunPlan,
    exec_patch, statusEqual, beforeRequest, stamped, World.next, setPhase, setProgress, setTrustInfo,
    World.init, dryRunSpec, sampleSpec, Lib.sample, findSecret, fingerprintPEMCerts, concatDER,
    withContext, Env.next, World.env, World.withEnv, secretDataKey, sameData, updateCluster,
    secretAnnotation]

/-! ### When every request succeeds -/

section
variable {e : Env} (he : e.faults = [])
include he

theorem waitWithPurpose_of_faults_nil (d : Option Int) (purpose : String) :
    ∃ e', (waitWithPurpose d purpose).exec e = (.ok (), e') ∧ e'.faults = [] := by
  unfold waitWithPurpose
  split
  · split
    · simp [request, Env.next, he]
    · exact ⟨e, rfl, he⟩
  · exact ⟨e, rfl, he⟩

theorem deleteSecrets_of_faults_nil (spec : LinkerdTrustRotationSpec) (name : String) :
    ∃ e', (deleteSecrets spec name).exec e = (.ok (), e') ∧ e'.faults = [] ∧
      e'.actions = .secretDeleted spec.linkerd.«namespace» name :: e.actions := by
  simp [deleteSecrets, withContext, updateCluster, Env.next, he]

theorem loadAndInspectCMBundle_overlap {lib : Lib} {spec : LinkerdTrustRotationSpec} {cm : ConfigMap}
    {raw c₀ c₁ : String}
    (hcm : e.cluster.configMaps.find? (fun c => c.«namespace» = spec.linkerd.«namespace» ∧
      c.name = spec.linkerd.trustRootsConfigMap) = some cm)
    (hraw : cm.data.lookup configMapDataKey = some raw) (hb : blank raw = false)
    (hp : parsePEMCerts lib raw = .ok [c₀, c₁]) :
    (loadAndInspectCMBundle lib spec).exec e = (.ok ⟨[c₀, c₁],
      ([c₀, c₁].map fun c => lowerASCII (lib.sha256Hex c)).insertionSort (fun a b => !stringLess b a),
      .overlap⟩, e) := by
  simp only [Bool.decide_and] at hcm
  simp [loadAndInspectCMBundle, withContext, Env.next, he, hcm, hraw, hb, hp]
end

section
variable {lib : Lib} {spec : LinkerdTrustRotationSpec} {v : World} {cm : ConfigMap} {raw c₀ c₁ : String}

theorem decideBundle_cm_overlap (hmode : spec.trigger = ⟨true, false⟩) (hf : v.faults = [])
    (hcm : v.cluster.configMaps.find? (fun c => c.«namespace» = spec.linkerd.«namespace» ∧
      c.name = spec.linkerd.trustRootsConfigMap) = some cm)
    (hraw : cm.data.lookup configMapDataKey = some raw) (hb : blank raw = false)
    (hp : parsePEMCerts lib raw = .ok [c₀, c₁]) :
    ∃ v', (decideBundle lib spec).exec v = (.ok .overlap, v') ∧ v'.faults = [] := by
  have hl : (loadAndInspectCMBundle lib spec).lift.exec v = (.ok ⟨[c₀, c₁],
      ([c₀, c₁].map fun c => lowerASCII (lib.sha256Hex c)).insertionSort (fun a b => !stringLess b a),
      .overlap⟩, v) := by
    rw [exec_lift, loadAndInspectCMBundle_overlap hf hcm hraw hb hp]; rfl
  obtain ⟨fp₀, fp₁, hfp⟩ := List.length_eq_two.1 (List.length_insertionSort (fun a b => !stringLess b a)
    ([c₀, c₁].map fun c => lowerASCII (lib.sha256Hex c)))
  obtain ⟨v₁, h₁, hf₁, -⟩ : ∃ v₁, (setTrustInfo (some .overlap) ("sha256:" ++ fp₁) ("sha256:" ++ fp₀)).exec
      { v with log := .observed .overlap :: v.log } = (.ok (), v₁) ∧ v₁.faults = [] ∧ _ :=
    patch_ok_of_faults_nil _ _ _ hf
  refine ⟨v₁, ?_, hf₁⟩
  unfold decideBundle
  simp only [hmode]
  rw [if_neg (by decide), if_pos (by decide), Prog.exec_bind_of_ok hl]
  dsimp only
  rw [hfp]
  simp only [↓reduceIte]
  rw [Prog.exec_bind_of_ok (Prog.exec_pure _ _), Prog.exec_bind_of_ok (exec_emit _ _),
    Prog.exec_bind_of_ok h₁, Prog.exec_pure]

/-- From a world whose requests all succeed, every run of the rotation logs
the deletion of the identity issuer, whatever comes after it. -/
theorem rotate_deletes_issuer {r : Except String Unit} {v' : World} (hf : v.faults = [])
    (h : (rotate lib spec).exec v = (r, v')) :
    ∃ pre, v'.log = pre ++ v.log ∧
      .did (.secretDeleted spec.linkerd.«namespace» linkerdIdentityIssuerSecret) ∈ pre := by
  obtain ⟨v₁, ⟨e, h₁, -, -⟩ | ⟨_, h₁, h⟩⟩ := Prog.exec_bind_cases h
  · cases (patch_of_faults_nil _ _ _ hf h₁).1
  obtain ⟨-, hf₁⟩ := patch_of_faults_nil _ _ _ hf h₁
  obtain ⟨e₂, hw, hf₂⟩ := waitWithPurpose_of_faults_nil (show v₁.env.faults = [] from hf₁)
    spec.protection.beforeRolloutDelay "before rollout delay"
  obtain ⟨v₂, ⟨e, h₂, -, -⟩ | ⟨_, h₂, h⟩⟩ := Prog.exec_bind_cases h
  · rw [exec_lift, hw] at h₂; cases (Prod.mk.inj h₂).1
  rw [exec_lift, hw] at h₂
  obtain ⟨-, rfl⟩ := Prod.mk.inj h₂
  obtain ⟨e₃, hd, -, ha₃⟩ := deleteSecrets_of_faults_nil
    (show (v₁.withEnv e₂).env.faults = [] from hf₂) spec linkerdIdentityIssuerSecret
  obtain ⟨v₃, ⟨e, h₃, -, -⟩ | ⟨_, h₃, h⟩⟩ := Prog.exec_bind_cases h
  · rw [exec_lift, hd] at h₃; cases (Prod.mk.inj h₃).1
  rw [exec_lift, hd] at h₃
  obtain ⟨-, rfl⟩ := Prod.mk.inj h₃
  obtain ⟨pre, hpre⟩ :=
    restartAndCleanUp_holds grows_tracks.1 lib spec (restartLinkerdDataPlane_grows lib spec) _ _ _ h
  obtain ⟨mid, hmid⟩ := patch_grows _ _ _ _ _ h₁
  refine ⟨pre ++ .did (.secretDeleted spec.linkerd.«namespace» linkerdIdentityIssuerSecret) ::
    (e₂.actions.map .did ++ mid), ?_, by simp⟩
  rw [← hpre, withEnv_log, withEnv_log, ha₃, ← hmid]
  simp [World.env]

end

/-- `sampleSpec` triggered by the trust-roots bundle alone. -/
def cmSpec : LinkerdTrustRotationSpec := { sampleSpec with trigger := ⟨true, false⟩ }

/-- A trust-roots bundle that `Lib.sample` reads as two certificates. -/
def twoCertBundle : ConfigMap := ⟨"linkerd", "linkerd-identity-trust-roots", [("ca-bundle.crt", "ab")]⟩

/-- Two reconciles on an unchanged trust-roots bundle: the first rotates and
marks the rotation succeeded, the second deletes the issuer again. -/
theorem cm_bundle_rotates_again :
    let w₀ : World := { World.init with cluster := { configMaps := [twoCertBundle] } }
    let w₁ := run Lib.sample cmSpec w₀ [.sync, .reconcile]
    let w₂ := run Lib.sample cmSpec w₁ [.sync, .reconcile]
    w₁.status.phase = some "Succeeded" ∧
      w₁.log.countP (Effect.deletesSecret linkerdIdentityIssuerSecret) = 1 ∧
      w₂.log.countP (Effect.deletesSecret linkerdIdentityIssuerSecret) = 2 := by
  have hb : blank "ab" = false := by decide
  simp [run, Step.apply, reconcile, onBundle, decideBundle, loadAndInspectCMBundle, parsePEMCerts,
    configMapDataKey, hb, twoCertBundle, lowerASCII, selectLinkerdDataPlane, selectScopes,
    listNamespaces, exec_patch, statusEqual, beforeRequest, stamped, World.next, setPhase, setProgress,
    setTrustInfo, World.init, cmSpec, sampleSpec, Lib.sample, withContext, Env.next, World.env,
    World.withEnv, scopeError, listScope, pickTemplates, inNamespace, rotate, restartAndCleanUp,
    restartLinkerdControlPlane, selectLinkerdControlPlane, restartDeployments, waitWithPurpose,
    deleteSecrets, restartLinkerdDataPlane, failRotation, markFailed, updateCluster,
    linkerdIdentityIssuerSecret, Phase.idle, Phase.detecting, Phase.rollingCP, Phase.rollingDP,
    Phase.failed, Reason.rotationFailed, Reason.secretsDiverged, Reason.cpRestarting, Reason.cpReady,
    Reason.dpBatchRestarting, Reason.dpThresholdReached, Kind.toString, BundleState.toString,
    rolloutQueue, resumeOrInit, rolloutItems, setPlanHash, setRetry, planHash, planHashInput,
    hexPrefix, Effect.deletesSecret, RetryStatus.norm, markSucceeded, stringLess, charsLess,
    calcPercent]

end TrustRotator
