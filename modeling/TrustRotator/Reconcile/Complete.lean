import TrustRotator.Reconcile.Order
import TrustRotator.Rollout.Plan

/-!
A rotation that meets no failing request completes.

When every request succeeds, what can still stop the rotation of `Reconcile`
is its configuration: a target scope the selection refuses (`scopeError`), a
custom-resource scope that names no annotation to bump, and, with the re-run
after clean-up on, the `EnsureTrustSecrets` that the re-run calls. Without
these, from any world, whatever the status, its informer copy and the rollout
cursor hold, the rotation returns without error, so it never marks the
rotation failed; it leaves the server's phase `Succeeded`; and the identity
issuer and the previous anchor secret are gone from the cluster
(`rotation_completes`).

The managers are followed by `ReqCompletes` (with no failing request ahead
they succeed and leave none ahead), the reconciler by `Completes`, which also
keeps `SucceededSynced`: the copy reads `Succeeded` only when it is the
server's status. Every status write keeps that, since one that is not a no-op
leaves the copy equal to what the server stored; and with it the last write,
`MarkSucceeded`, leaves the server `Succeeded` whether or not the copy was
stale (`applyPatch_phase_of_ne`).
-/

namespace TrustRotator

/-! ### Managers -/

/-- From every environment with no failing request ahead, `x` succeeds and
leaves none ahead. -/
def ReqCompletes {α : Type} (x : Req α) : Prop :=
  ∀ e : Env, e.faults = [] → ∃ a e', x.exec e = (.ok a, e') ∧ e'.faults = []

namespace ReqCompletes

variable {α β : Type}

theorem pure (a : α) : ReqCompletes (Pure.pure a : Req α) := fun e he => ⟨a, e, rfl, he⟩

theorem bind {x : Req α} {f : α → Req β} (hx : ReqCompletes x) (hf : ∀ a, ReqCompletes (f a)) :
    ReqCompletes (x >>= f) := fun e he =>
  let ⟨a, _, h₁, he₁⟩ := hx e he
  let ⟨b, e₂, h₂, he₂⟩ := hf a _ he₁
  ⟨b, e₂, by rw [Prog.exec_bind_of_ok h₁, h₂], he₂⟩

theorem get : ReqCompletes (MonadState.get : Req Env) := fun e he => ⟨e, e, rfl, he⟩

theorem modify {f : Env → Env} (hf : ∀ e, (f e).faults = e.faults) : ReqCompletes (modify f) :=
  fun e he => ⟨(), f e, rfl, (hf e).trans he⟩

theorem now : ReqCompletes now := fun _ he => ⟨_, _, rfl, he⟩

theorem call : ReqCompletes call := fun e he => ⟨(), e, by simp [Env.next, he], he⟩

theorem tryCatch {x : Req α} {c : String → Req α} (hx : ReqCompletes x) : ReqCompletes (tryCatch x c) :=
  fun e he =>
  let ⟨a, e', h, he'⟩ := hx e he
  ⟨a, e', by rw [Prog.exec_tryCatch, h], he'⟩

theorem ite {c : Prop} [Decidable c] {x y : Req α} (hx : ReqCompletes x) (hy : ReqCompletes y) :
    ReqCompletes (if c then x else y) := by
  split
  · exact hx
  · exact hy

theorem request (a : Action) : ReqCompletes (request a) := .bind .call fun _ => .modify fun _ => rfl

end ReqCompletes

/-- An item `restartItem` accepts: a custom resource names a non-empty
annotation key and value to bump. -/
def WorkItem.Bumpable (w : WorkItem) : Prop :=
  ∀ u, w.target = .customResource u → w.bumpAnnotationKey.length ≠ 0 ∧ w.bumpAnnotationValue.length ≠ 0

/-- A custom-resource scope names a non-empty annotation key and value to bump. -/
def TargetScope.BumpsNamed (s : TargetScope) : Prop :=
  s.kindType = .customResource →
    ∃ b, s.annotationBump = some b ∧ b.bumpAnnotationKey.length ≠ 0 ∧ b.bumpAnnotationValue.length ≠ 0

section
variable (lib : Lib) (spec : LinkerdTrustRotationSpec)

theorem bumpAnnotationGeneric_completes (t : Target) (key value : String) :
    ReqCompletes (bumpAnnotationGeneric t key value) :=
  .bind .call fun _ => .bind (.modify fun _ => rfl) fun _ => .modify fun _ => rfl

theorem bumpRestartAnnotation_completes (t : Target) : ReqCompletes ( bumpRestartAnnotation lib t) :=
  .bind .now fun _ => bumpAnnotationGeneric_completes _ _ _

theorem restartDeployments_completes : ∀ ds, ReqCompletes (restartDeployments lib ds)
  | [] => .pure _
  | _ :: rest => by
    rw [restartDeployments]
    exact .bind (bumpRestartAnnotation_completes lib _) fun _ => .bind (.request _) fun _ =>
      restartDeployments_completes rest

theorem selectLinkerdControlPlane_completes : ReqCompletes (selectLinkerdControlPlane spec) :=
  .bind .call fun _ => .bind .get fun _ => .pure _

theorem deletePods_completes (sts : Workload) : ∀ pods, ReqCompletes (deletePods sts pods)
  | [] => .pure _
  | _ :: rest => by
    rw [deletePods]
    exact .bind (.tryCatch (.bind (.tryCatch .call) fun _ => .bind (.modify fun _ => rfl) fun _ => .request _))
      fun _ => deletePods_completes sts rest

theorem restartStatefulSetByDelete_completes (sts : Workload) :
    ReqCompletes (restartStatefulSetByDelete sts) := by
  unfold restartStatefulSetByDelete
  refine .bind (.tryCatch .call) fun _ => .bind .get fun _ => ?_
  dsimp only
  split
  · exact .pure _
  · exact .bind (.pure _) fun _ => deletePods_completes sts _

theorem restartItem_completes {w : WorkItem} (hw : w.Bumpable) : ReqCompletes (restartItem lib w) := by
  unfold restartItem
  split
  · exact .bind (bumpRestartAnnotation_completes lib _) fun _ => .request _
  · exact .bind (bumpRestartAnnotation_completes lib _) fun _ => .request _
  · rename_i u hu
    obtain ⟨hk, hv⟩ := hw u hu
    rw [if_neg (by omega)]
    exact .bind (.pure _) fun _ => .bind (bumpAnnotationGeneric_completes _ _ _) fun _ => .request _
  · dsimp only
    split
    · exact .bind (bumpRestartAnnotation_completes lib _) fun _ => .bind (.request _) fun _ =>
        .ite (restartStatefulSetByDelete_completes _) (.pure _)
    · exact .bind (.pure _) fun _ => .ite (restartStatefulSetByDelete_completes _) (.pure _)

theorem runProxyCheckIfEnabled_completes (r : WorkRef) (targetNs targetName : String) :
    ReqCompletes (runProxyCheckIfEnabled lib spec r targetNs targetName) := by
  unfold runProxyCheckIfEnabled runLinkerdCheckJob
  split
  · exact .bind (.tryCatch (.request _)) fun _ => .bind (.request _) fun _ => .request _
  · exact .pure _

theorem waitWithPurpose_completes (d : Option Int) (purpose : String) :
    ReqCompletes (waitWithPurpose d purpose) := by
  unfold waitWithPurpose
  repeat' first | exact .request _ | exact .pure _ | split

theorem deleteSecrets_completes (name : String) : ReqCompletes (deleteSecrets spec name) :=
  .bind (.tryCatch .call) fun _ => .bind (.modify fun _ => rfl) fun _ => .modify fun _ => rfl

theorem listNamespaces_completes (key val : String) (scope : TargetScope) (strategy : RolloutStrategy) :
    ∀ nss, ReqCompletes (listNamespaces key val scope strategy nss)
  | [] => .pure _
  | _ :: rest => by
    rw [listNamespaces]
    exact .bind (.tryCatch .call) fun _ => .bind .get fun _ =>
      .bind (listNamespaces_completes key val scope strategy rest) fun _ => .pure _

/-- The selection goes through when no scope has a configuration error. -/
theorem selectScopes_completes (key val : String) :
    ∀ scopes, (∀ s ∈ scopes, scopeError s = none) → ReqCompletes (selectScopes key val scopes)
  | [], _ => .pure _
  | scope :: rest, hs => by
    rw [selectScopes, hs scope (List.mem_cons_self _ _)]
    exact .bind (.pure _) fun _ => .bind (listNamespaces_completes _ _ _ _ _) fun _ =>
      .bind (selectScopes_completes key val rest fun s h => hs s (List.mem_cons_of_mem _ h)) fun _ => .pure _

theorem selectLinkerdDataPlane_completes
    (hs : ∀ s ∈ spec.rollout.targetAnnotationSelector.targets, scopeError s = none) :
    ReqCompletes (selectLinkerdDataPlane spec) :=
  .bind (selectScopes_completes _ _ _ hs) fun _ => .bind (.modify fun _ => rfl) fun _ => .pure _

end

/-! ### The plan's items -/

theorem listScope_bumpable {c : Cluster} {key val ns : String} {scope : TargetScope} {strategy : RolloutStrategy}
    (hs : scope.BumpsNamed) : ∀ w ∈ listScope c key val scope strategy ns, w.Bumpable := by
  unfold listScope
  split
  all_goals try
    intro w hw u hu
    obtain ⟨d, -, rfl⟩ := List.mem_map.1 hw
    cases hu
  rename_i hk
  obtain ⟨b, hb, hkb, hvb⟩ := hs hk
  rw [hb]
  intro w hw u _
  obtain ⟨d, -, rfl⟩ := List.mem_map.1 hw
  exact ⟨hkb, hvb⟩

theorem planScopes_bumpable {c : Cluster} {key val : String} :
    ∀ {scopes : List TargetScope} {q : List WorkItem}, (∀ s ∈ scopes, s.BumpsNamed) →
      planScopes c key val scopes = .ok q → ∀ w ∈ q, w.Bumpable
  | [], _, _, h => by
    obtain rfl := Except.ok.inj h.symm
    exact nofun
  | scope :: rest, q, hs, h => by
    rw [planScopes] at h
    split at h
    · cases h
    rcases hr : planScopes c key val rest with err | there <;> rw [hr] at h
    · cases h
    obtain rfl := Except.ok.inj h.symm
    intro w hw
    rcases List.mem_append.1 hw with hw | hw
    · obtain ⟨ns, -, hw⟩ := List.mem_flatMap.1 hw
      exact listScope_bumpable (hs scope (List.mem_cons_self _ _)) w hw
    · exact planScopes_bumpable (fun s h => hs s (List.mem_cons_of_mem _ h)) hr w hw

/-! ### The reconciler -/

/-- From every world where `P` holds, `x` succeeds and ends in one where `Q`
holds. -/
def Triple (P : World → Prop) {α : Type} (x : Api α) (Q : World → Prop) : Prop :=
  ∀ v, P v → ∃ a v', x.exec v = (.ok a, v') ∧ Q v'

/-- The copy reads `Succeeded` only when it is the server's status. -/
def SucceededSynced (v : World) : Prop := v.obj.phase = some "Succeeded" → v.obj = v.status

/-- No failing request is ahead, and `SucceededSynced`. -/
def Ready (v : World) : Prop := v.faults = [] ∧ SucceededSynced v

namespace Triple

variable {P Q R : World → Prop} {α β : Type}

theorem pure (a : α) : Triple P (Pure.pure a : Api α) P := fun v hv => ⟨a, v, rfl, hv⟩

theorem bind {x : Api α} {f : α → Api β} (hx : Triple P x Q) (hf : ∀ a, Triple Q (f a) R) :
    Triple P (x >>= f) R := fun v hv =>
  let ⟨a, _, h₁, hv₁⟩ := hx v hv
  let ⟨b, v₂, h₂, hv₂⟩ := hf a _ hv₁
  ⟨b, v₂, by rw [Prog.exec_bind_of_ok h₁, h₂], hv₂⟩

theorem get : Triple P (MonadState.get : Api World) P := fun v hv => ⟨v, v, rfl, hv⟩

theorem tryCatch {x : Api α} {c : String → Api α} (hx : Triple P x Q) : Triple P (tryCatch x c) Q :=
  fun v hv =>
  let ⟨a, v', h, hv'⟩ := hx v hv
  ⟨a, v', by rw [Prog.exec_tryCatch, h], hv'⟩

theorem ite {c : Prop} [Decidable c] {x y : Api α} (hx : Triple P x Q) (hy : Triple P y Q) :
    Triple P (if c then x else y) Q := by
  split
  · exact hx
  · exact hy

theorem weaken {x : Api α} {P' Q' : World → Prop} (hx : Triple P x Q) (hP : ∀ v, P' v → P v)
    (hQ : ∀ v, Q v → Q' v) : Triple P' x Q' := fun v hv =>
  let ⟨a, v', h, hv'⟩ := hx v (hP v hv)
  ⟨a, v', h, hQ v' hv'⟩

/-- What every run of `x` keeps holds on. -/
theorem frame {x : Api α} {K : World → World → Prop} {M : World → Prop} (hx : Triple P x Q)
    (hK : Holds K x) (hM : ∀ v v', K v v' → M v → M v') :
    Triple (fun v => P v ∧ M v) x (fun v => Q v ∧ M v) := fun v ⟨hv, hm⟩ =>
  let ⟨a, v', h, hv'⟩ := hx v hv
  ⟨a, v', h, hv', hM v v' (hK v _ v' h) hm⟩

theorem lift {x : Req α} (hx : ReqCompletes x) : Triple Ready x.lift Ready := fun v hv =>
  let ⟨a, e, h, he⟩ := hx v.env hv.1
  ⟨a, v.withEnv e, by rw [exec_lift, h], he, hv.2⟩

/-- With no failing request ahead a status write succeeds; one that is not a
no-op leaves the copy equal to the server's status. -/
theorem patch (p : String) (m : LinkerdTrustRotationStatus → LinkerdTrustRotationStatus) :
    Triple Ready (patch p m) Ready := fun v ⟨hf, hs⟩ => by
  obtain ⟨v', h, hf', -⟩ := patch_ok_of_faults_nil p m v hf
  refine ⟨(), v', h, hf', ?_⟩
  rcases patch_cases p m v h with ⟨-, -, rfl⟩ | ⟨-, ⟨e, he⟩, -⟩ | ⟨-, -, fs, rfl⟩
  · exact hs
  · cases he
  · exact fun _ => rfl

end Triple

/-- A status write that sets any phase but `Succeeded` makes a world with no
failing request ahead ready. -/
theorem patch_ready {p : String} {m : LinkerdTrustRotationStatus → LinkerdTrustRotationStatus}
    (hm : ∀ st, (m st).phase ≠ some "Succeeded") : Triple (fun v => v.faults = []) (patch p m) Ready :=
  fun v hf => by
  obtain ⟨v', h, hf', -⟩ := patch_ok_of_faults_nil p m v hf
  refine ⟨(), v', h, hf', ?_⟩
  rcases patch_cases p m v h with ⟨he, -, rfl⟩ | ⟨-, ⟨e, he⟩, -⟩ | ⟨-, -, fs, rfl⟩
  · intro hp
    have hph := congrArg LinkerdTrustRotationStatus.phase (statusEqual_iff.1 he)
    exact absurd (hph ▸ hp) (hm _)
  · cases he
  · exact fun _ => rfl

/-- A status write that sets the phase `Succeeded` leaves the server
`Succeeded`, from a world where the copy reads `Succeeded` only when it is the
server's status. -/
theorem patch_phase_succeeded {p : String} {m : LinkerdTrustRotationStatus → LinkerdTrustRotationStatus}
    (hm : ∀ st, (m st).phase = some "Succeeded") {v v' : World} (hv : SucceededSynced v)
    (h : (patch p m).exec v = (.ok (), v')) : v'.status.phase = some "Succeeded" := by
  rcases patch_cases p m v h with ⟨he, -, rfl⟩ | ⟨-, ⟨e, he⟩, -⟩ | ⟨-, -, fs, rfl⟩
  · have hp := (congrArg LinkerdTrustRotationStatus.phase (statusEqual_iff.1 he)).trans (hm _)
    rw [← hv hp]
    exact hp
  · cases he
  · by_cases hp : v.obj.phase = some "Succeeded"
    · simp [hv hp, stamped, hm]
    · exact LinkerdTrustRotationStatus.applyPatch_phase_of_ne (hm _) hp

section
variable (lib : Lib) (spec : LinkerdTrustRotationSpec)

theorem setProgress_completes (cpReady : Bool) (current total : Option Int) :
    Triple Ready (setProgress cpReady current total) Ready := by
  dsimp only [setProgress]
  exact .patch _ _

theorem setRetry_completes (r : Option WorkRef) (c : Int) (err : String) :
    Triple Ready (setRetry r c err) Ready :=
  .bind (.ite (.lift .now) (.pure _)) fun _ => .patch _ _

/-- `MarkSucceeded` leaves the server `Succeeded`. -/
theorem markSucceeded_completes (message : String) :
    Triple Ready (markSucceeded message) fun v => Ready v ∧ v.status.phase = some "Succeeded" :=
  fun v hv =>
  let ⟨_, v', h, hv'⟩ := (Triple.bind (.lift .now) fun _ => .patch _ _ : Triple Ready (markSucceeded message) Ready) v hv
  ⟨(), v', h, hv', by
    obtain ⟨_, _, h₁, h⟩ := Prog.exec_bind_ok h
    obtain ⟨e, -, rfl⟩ := lift_ok h₁
    exact patch_phase_succeeded (by intro; rfl) (show SucceededSynced (v.withEnv e) from hv.2) h⟩

theorem restartLinkerdControlPlane_completes : Triple Ready (restartLinkerdControlPlane lib spec) Ready :=
  .bind (.lift (selectLinkerdControlPlane_completes spec)) fun _ => .bind (.patch _ _) fun _ =>
    .bind (setProgress_completes _ _ _) fun _ => .bind (.lift (restartDeployments_completes lib _)) fun _ =>
    .bind (setProgress_completes _ _ _) fun _ => .patch _ _

theorem resumeOrInit_completes (hash : String) (total : Int) : Triple Ready (resumeOrInit hash total) Ready := by
  unfold resumeOrInit
  refine .bind .get fun _ => ?_
  split
  · exact .ite (.pure _) (.bind (.patch _ _) fun _ => .pure _)
  · exact .bind (.patch _ _) fun _ => .pure _

theorem rolloutItems_completes (hash : String) (total : Int) :
    ∀ i ws, (∀ w ∈ ws, w.Bumpable) → Triple Ready (rolloutItems lib spec hash total i ws) Ready
  | _, [], _ => .pure _
  | i, w :: rest, hws =>
    .bind (.tryCatch (.bind (.lift (restartItem_completes lib (hws w (List.mem_cons_self _ _)))) fun _ =>
        .bind (.lift (runProxyCheckIfEnabled_completes lib spec _ _ _)) fun _ =>
        .bind (.patch _ _) fun _ => setProgress_completes _ _ _))
      fun _ => rolloutItems_completes hash total (i + 1) rest fun w' h => hws w' (List.mem_cons_of_mem _ h)

theorem rolloutQueue_completes {q : List WorkItem} (hq : ∀ w ∈ q, w.Bumpable) :
    Triple Ready (rolloutQueue lib spec q) Ready :=
  .bind (.patch _ _) fun _ => .bind (resumeOrInit_completes _ _) fun _ =>
    .bind (setProgress_completes _ _ _) fun _ =>
    .bind (rolloutItems_completes lib spec _ _ _ _ fun w hw => hq w (List.mem_of_mem_drop hw)) fun _ =>
    .bind (.patch _ _) fun _ => .bind (setRetry_completes _ _ _) fun _ => .patch _ _

variable {spec}
variable (hs : ∀ s ∈ spec.rollout.targetAnnotationSelector.targets, scopeError s = none)
  (hb : ∀ s ∈ spec.rollout.targetAnnotationSelector.targets, s.BumpsNamed)
include hs hb

theorem restartLinkerdDataPlane_completes : Triple Ready (restartLinkerdDataPlane lib spec) Ready :=
  fun v hv => by
  obtain ⟨q, e, h, he⟩ := selectLinkerdDataPlane_completes spec hs v.env hv.1
  have hq : ∀ w ∈ q, w.Bumpable := planScopes_bumpable hb (selectLinkerdDataPlane_ok h).1
  obtain ⟨a, v', h', hv'⟩ := rolloutQueue_completes lib spec hq (v.withEnv e) ⟨he, hv.2⟩
  exact ⟨a, v', by rw [restartLinkerdDataPlane, Prog.exec_bind_of_ok (by rw [exec_lift, h]), h'], hv'⟩

end

/-! ### The rotation -/

/-- The manager only removed secrets. -/
def ShrinksSecrets (e e' : Env) : Prop := e'.cluster.secrets.Sublist e.cluster.secrets

/-- The reconciler only removed secrets. -/
def SecretsShrunk (v v' : World) : Prop := v'.cluster.secrets.Sublist v.cluster.secrets

theorem shrinksSecrets_benign : Benign ShrinksSecrets where
  refl _ := List.Sublist.refl _
  trans h₁ h₂ := h₂.trans h₁
  faults _ _ := List.Sublist.refl _
  acts _ _ := .modify fun _ => List.Sublist.refl _
  clock _ _ _ h := by
    rw [exec_now] at h; obtain ⟨-, rfl⟩ := Prod.mk.inj h; exact List.Sublist.refl _
  bumps t _ _ := .modify fun _ => by cases t <;> exact List.Sublist.refl _

theorem secretsShrunk_chains : Chains ShrinksSecrets SecretsShrunk where
  refl _ := List.Sublist.refl _
  trans h₁ h₂ := h₂.trans h₁
  withEnv _ _ h := h
  patch _ _ _ _ _ h := by rw [SecretsShrunk, patch_cluster h]
  observe _ _ := List.Sublist.refl _
  event _ _ _ := List.Sublist.refl _

theorem deleteSecrets_shrinks (spec : LinkerdTrustRotationSpec) (name : String) :
    ReqHolds ShrinksSecrets (deleteSecrets spec name) :=
  have hT := shrinksSecrets_benign.1
  .bind hT (.withContext hT _ (.call hT)) fun _ => .bind hT (.modify fun _ => List.filter_sublist _) fun _ =>
    .modify fun _ => List.Sublist.refl _

/-- The secret `name` of the Linkerd namespace is not in the cluster. -/
def SecretGone (spec : LinkerdTrustRotationSpec) (name : String) (v : World) : Prop :=
  findSecret v.cluster spec.linkerd.«namespace» name = none

theorem SecretGone.of_shrunk {spec : LinkerdTrustRotationSpec} {name : String} {v v' : World}
    (h : SecretsShrunk v v') (hg : SecretGone spec name v) : SecretGone spec name v' :=
  List.find?_eq_none.2 fun s hs => List.find?_eq_none.1 hg s (h.subset hs)

/-- A deletion that meets no failing request leaves its secret gone. -/
theorem deleteSecrets_gone (spec : LinkerdTrustRotationSpec) (name : String) :
    Triple Ready (deleteSecrets spec name).lift fun v => Ready v ∧ SecretGone spec name v := fun v hv =>
  let ⟨_, v', h, hv'⟩ := Triple.lift (deleteSecrets_completes spec name) v hv
  ⟨(), v', h, hv', by obtain ⟨e, he, rfl⟩ := lift_ok h; exact (deleteSecrets_ok spec he).2.2⟩

section
variable {lib : Lib} {spec : LinkerdTrustRotationSpec}
  (hs : ∀ s ∈ spec.rollout.targetAnnotationSelector.targets, scopeError s = none)
  (hb : ∀ s ∈ spec.rollout.targetAnnotationSelector.targets, s.BumpsNamed)
  (hr : spec.protection.retriggerRolloutAfterCleanup = false)
include hs hb hr

/-- The clean-up, from a ready world without the issuer: both restarts, the
deletion of the previous anchor secret and `MarkSucceeded`. -/
theorem restartAndCleanUp_completes :
    Triple (fun v => Ready v ∧ SecretGone spec linkerdIdentityIssuerSecret v) (restartAndCleanUp lib spec)
      fun v => (Ready v ∧ v.status.phase = some "Succeeded") ∧
        SecretGone spec linkerdIdentityIssuerSecret v ∧ SecretGone spec spec.linkerd.previousTrustAnchorSecret v := by
  have hK := secretsShrunk_chains
  have hB := shrinksSecrets_benign
  have gone : ∀ n, ∀ v v', SecretsShrunk v v' → SecretGone spec n v → SecretGone spec n v' :=
    fun _ _ _ => SecretGone.of_shrunk
  refine .bind ((Triple.tryCatch (restartLinkerdControlPlane_completes lib spec)).frame
    (failRotation_chains hK hB (restartLinkerdControlPlane_chains hK hB lib spec)) (gone _)) fun _ => ?_
  refine .bind ((Triple.tryCatch (restartLinkerdDataPlane_completes lib hs hb)).frame
    (failRotation_chains hK hB (restartLinkerdDataPlane_chains hK hB lib spec)) (gone _)) fun _ => ?_
  refine .bind ((deleteSecrets_gone spec _).frame (hK.lift (deleteSecrets_shrinks spec _)) (gone _)) fun _ => ?_
  dsimp only
  rw [if_neg (by simp [hr])]
  exact ((markSucceeded_completes _).frame (hK.bind (hK.lift hB.clock) fun _ => hK.patch _ _)
    fun v v' h (hi : _ ∧ _) => ⟨gone _ v v' h hi.1, gone _ v v' h hi.2⟩).weaken
    (fun _ ⟨⟨hv, hp⟩, hi⟩ => ⟨hv, hi, hp⟩) fun _ h => h

theorem rotate_completes :
    Triple (fun v => v.faults = []) (rotate lib spec)
      fun v => (Ready v ∧ v.status.phase = some "Succeeded") ∧
        SecretGone spec linkerdIdentityIssuerSecret v ∧ SecretGone spec spec.linkerd.previousTrustAnchorSecret v :=
  .bind (patch_ready fun _ => by simp [Phase.detecting]) fun _ =>
    .bind (.lift (waitWithPurpose_completes _ _)) fun _ =>
    .bind (deleteSecrets_gone spec _) fun _ => restartAndCleanUp_completes hs hb hr

end

end TrustRotator
