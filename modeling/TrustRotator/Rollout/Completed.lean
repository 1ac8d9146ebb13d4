import TrustRotator.Rollout.DataPlane

/-!
What a successful restart of one work item leaves in the action log.

`restartItem` succeeds with the actions of `Restarted`: an annotation bump and
the wait for its rollout, or, for a stateful set restarted by deletion, a
delete and a wait for each pod it selects in the cluster the restart started
from, from the highest ordinal down. No request of the model changes the
cluster's pods (`KeepsPods`), so over a run of rollouts that list is the one
of the run's first cluster. `runProxyCheckIfEnabled` succeeds with
those of `Checked`: nothing when the check is off, else the job created and
its success, after the best-effort delete of the previous job. Actions are
listed newest first, as the log keeps them.

Each manager gets one lemma for its success, and each caller's lemma is
assembled from its callees' by `Prog.exec_bind_ok`.
-/

namespace TrustRotator

/-- A stateful set restarted by deleting its pods. -/
def WorkItem.byDelete (w : WorkItem) : Bool :=
  match w.target with
  | .statefulSet _ => w.strategy == .delete
  | _ => false

/-- The actions of deleting `pods` in order, each deletion followed by the
wait for the pod's return. -/
def podsDeleted : List Pod → List Action
  | [] => []
  | p :: rest => podsDeleted rest ++ [.podReady p.«namespace» p.name, .podDeleted p.«namespace» p.name]

/-- The pods `restartStatefulSetByDelete sts` deletes from a cluster whose
pods are `pods`: those the stateful set selects, from the highest ordinal down. -/
def ordinalOrder (pods : List Pod) (sts : Workload) : List Pod :=
  (podsOf { pods := pods } sts.«namespace» sts.selector).insertionSort
    fun a b => podOrdinal a.name ≥ podOrdinal b.name

/-- The actions a successful `restartItem` of `w` takes in a cluster whose pods
are `pods`. -/
inductive Restarted (pods : List Pod) (w : WorkItem) : List Action → Prop
  /-- The restart annotation bumped, then the rollout waited for. -/
  | bump (h : w.byDelete = false) : Restarted pods w [.rolledOut w.ref, .restarted w.ref]
  /-- Every pod the stateful set selects deleted and waited for, one by one,
  from the highest ordinal down. -/
  | byDelete {sts : Workload} (ht : w.target = .statefulSet sts) (hs : w.strategy = .delete) :
      Restarted pods w (podsDeleted (ordinalOrder pods sts))

/-- The actions a successful `runProxyCheckIfEnabled` for `w` takes. -/
inductive Checked (lib : Lib) (spec : LinkerdTrustRotationSpec) (w : WorkItem) : List Action → Prop
  | off (h : spec.protection.runLinkerdCheckProxy = false) : Checked lib spec w []
  /-- The job created and waited for, after the previous one was deleted or
  its deletion failed. -/
  | on (h : spec.protection.runLinkerdCheckProxy = true) {old : List Action}
      (hold : old = [] ∨
        old = [.jobDeleted spec.linkerd.«namespace» (checkJobName lib w.getNamespace w.getName)]) :
      Checked lib spec w (.proxyChecked w.ref ::
        .jobCreated spec.linkerd.«namespace» (checkJobName lib w.getNamespace w.getName) :: old)

/-! ### Managers of a rollout -/

/-- Whether the action creates or deletes a secret. -/
def Action.touchesSecret : Action → Bool
  | .secretCreated _ _ | .secretDeleted _ _ => true
  | _ => false

/-- A relation kept by requests, clock readings, annotation bumps and every
action on anything but a secret. -/
structure Benign (E : Env → Env → Prop) extends EnvTracks E : Prop where
  acts : ∀ a, a.touchesSecret = false → ReqHolds E (act a)
  clock : ReqHolds E now
  bumps : ∀ t key value, ReqHolds E (updateCluster (bumpTarget t key value))

section
variable {E : Env → Env → Prop} (hB : Benign E) (lib : Lib) (spec : LinkerdTrustRotationSpec)
include hB

theorem request_benign (a : Action) (ha : a.touchesSecret = false) : ReqHolds E (request a) :=
  .bind hB.1 (.call hB.1) fun _ => hB.acts a ha

theorem bumpRestartAnnotation_benign (t : Target) : ReqHolds E ( bumpRestartAnnotation lib t) :=
  .bind hB.1 hB.clock fun _ => .bind hB.1 (.call hB.1) fun _ => .bind hB.1 (hB.bumps _ _ _) fun _ =>
    hB.acts _ rfl

theorem deletePods_benign (sts : Workload) : ∀ pods, ReqHolds E (deletePods sts pods)
  | [] => .pure hB.1 _
  | _ :: rest => by
    rw [deletePods]
    exact .bind hB.1 (.withContext hB.1 _ (.bind hB.1 (.withContext hB.1 _ (.call hB.1)) fun _ =>
      .bind hB.1 (hB.acts _ rfl) fun _ => request_benign hB _ rfl)) fun _ => deletePods_benign sts rest

theorem restartItem_benign (w : WorkItem) : ReqHolds E (restartItem lib w) := by
  have hE := hB.1
  unfold restartItem restartStatefulSetByDelete bumpAnnotationGeneric waitRolledOut
  repeat' first
    | with_reducible exact .pure hE _ | with_reducible exact .throw hE _ | with_reducible exact .call hE
    | with_reducible exact .get hE | with_reducible exact .withContext hE _ (.call hE)
    | with_reducible exact bumpRestartAnnotation_benign hB lib _
    | with_reducible exact hB.bumps _ _ _ | with_reducible exact deletePods_benign hB _ _
    | with_reducible refine .bind hE ?_ fun _ => ?_ | split | dsimp only
    | exact request_benign hB _ rfl | exact hB.acts _ rfl

theorem runProxyCheckIfEnabled_benign (r : WorkRef) (targetNs targetName : String) :
    ReqHolds E (runProxyCheckIfEnabled lib spec r targetNs targetName) := by
  unfold runProxyCheckIfEnabled runLinkerdCheckJob
  split
  · exact .bind hB.1 (.tryCatch hB.1 (request_benign hB _ rfl) fun _ => .pure hB.1 _) fun _ =>
      .bind hB.1 (request_benign hB _ rfl) fun _ => request_benign hB _ rfl
  · exact .pure hB.1 _

end

/-- The cluster's pods as they were. No request of the model changes them: a
pod that a stateful-set restart deletes comes back under its own name. -/
def KeepsPods (e e' : Env) : Prop := e'.cluster.pods = e.cluster.pods

theorem keepsPods_benign : Benign KeepsPods where
  refl _ := rfl
  trans h₁ h₂ := h₂.trans h₁
  faults _ _ := rfl
  acts _ _ := .modify fun _ => rfl
  clock _ _ _ h := by rw [exec_now] at h; rw [← (Prod.mk.inj h).2]; rfl
  bumps t _ _ := .modify fun _ => by cases t <;> rfl

/-! ### Successful requests -/

section
variable {e e' : Env}

theorem request_ok {a : Action} (h : (request a).exec e = (.ok (), e')) :
    e'.actions = a :: e.actions := by
  obtain ⟨_, e₁, h₁, h₂⟩ := Prog.exec_bind_ok h
  rw [exec_act] at h₂
  rw [← (Prod.mk.inj h₂).2, call_ok h₁]

theorem request_error {a : Action} {err : String} (h : (request a).exec e = (.error err, e')) :
    e'.actions = e.actions := by
  have hs := e.next_snd
  simp only [request, Prog.exec_bind, exec_call, exec_act] at h
  rcases hn : e.next with ⟨_ | f, e₁⟩ <;> rw [hn] at h hs <;> dsimp only at h hs
  · cases h
  · rw [← (Prod.mk.inj h).2, hs]

theorem bumpAnnotationGeneric_ok {t : Target} {key value : String}
    (h : (bumpAnnotationGeneric t key value).exec e = (.ok (), e')) :
    e'.actions = .restarted t.ref :: e.actions := by
  obtain ⟨_, e₁, h₁, h⟩ := Prog.exec_bind_ok h
  obtain ⟨_, e₂, h₂, h₃⟩ := Prog.exec_bind_ok h
  rw [updateCluster, Prog.exec_modify] at h₂
  rw [exec_act] at h₃
  rw [← (Prod.mk.inj h₃).2, ← (Prod.mk.inj h₂).2, call_ok h₁]

theorem bumpRestartAnnotation_ok {lib : Lib} {t : Target}
    (h : ( bumpRestartAnnotation lib t).exec e = (.ok (), e')) :
    e'.actions = .restarted t.ref :: e.actions := by
  obtain ⟨_, e₁, h₁, h₂⟩ := Prog.exec_bind_ok h
  rw [bumpAnnotationGeneric_ok h₂, ← (Prod.mk.inj h₁).2]

theorem deletePods_ok {sts : Workload} {pods : List Pod}
    (h : (deletePods sts pods).exec e = (.ok (), e')) :
    e'.actions = podsDeleted pods ++ e.actions := by
  induction pods generalizing e with
  | nil => simp [deletePods] at h; simp [podsDeleted, h]
  | cons p rest ih =>
    obtain ⟨_, e₁, h₁, h₂⟩ := Prog.exec_bind_ok h
    obtain ⟨_, e₂, h₃, h₄⟩ := Prog.exec_bind_ok (withContext_ok h₁)
    obtain ⟨_, e₃, h₅, h₆⟩ := Prog.exec_bind_ok h₄
    rw [exec_act] at h₅
    rw [ih h₂, request_ok h₆, ← (Prod.mk.inj h₅).2, call_ok (withContext_ok h₃)]
    simp [podsDeleted]

/-- A successful `restartStatefulSetByDelete` deletes the listed pods in the
order of `sort.Slice` by descending ordinal. -/
theorem restartStatefulSetByDelete_actions {sts : Workload}
    (h : (restartStatefulSetByDelete sts).exec e = (.ok (), e')) :
    e'.actions = podsDeleted ((podsOf e.cluster sts.«namespace» sts.selector).insertionSort
      fun a b => podOrdinal a.name ≥ podOrdinal b.name) ++ e.actions := by
  obtain ⟨_, e₁, h₁, h₂⟩ := Prog.exec_bind_ok h
  obtain ⟨_, e₂, h₃, h₄⟩ := Prog.exec_bind_ok h₂
  rw [Prog.exec_get] at h₃
  obtain ⟨⟨⟩, rfl⟩ := Prod.mk.inj h₃
  have he₁ := call_ok (withContext_ok h₁)
  rw [he₁] at h₄
  dsimp only at h₄
  split at h₄
  · rename_i hnil
    rw [Prog.exec_pure] at h₄
    rw [← (Prod.mk.inj h₄).2, List.isEmpty_iff.1 hnil, he₁]
    rfl
  · rw [deletePods_ok h₄, he₁]

/-- Every successful `restartItem` takes the actions of `Restarted`, for the
pods of the cluster it started from. -/
theorem restartItem_ok {lib : Lib} {w : WorkItem} (h : (restartItem lib w).exec e = (.ok (), e')) :
    ∃ ra, Restarted e.cluster.pods w ra ∧ e'.actions = ra ++ e.actions := by
  have bump : ∀ {e'}, w.byDelete = false →
      (( bumpRestartAnnotation lib w.target >>= fun _ => waitRolledOut w.ref) : Req Unit).exec e =
        (.ok (), e') → ∃ ra, Restarted e.cluster.pods w ra ∧ e'.actions = ra ++ e.actions := fun hd h => by
    obtain ⟨_, e₁, h₁, h₂⟩ := Prog.exec_bind_ok h
    exact ⟨_, .bump hd, by rw [request_ok h₂, bumpRestartAnnotation_ok h₁]; rfl⟩
  unfold restartItem at h
  split at h
  · exact bump (by simp [WorkItem.byDelete, *]) h
  · exact bump (by simp [WorkItem.byDelete, *]) h
  · dsimp only at h
    split at h
    · simp at h
    · obtain ⟨_, e₁, h₁, h₂⟩ := Prog.exec_bind_ok h
      rw [Prog.exec_pure] at h₁
      obtain ⟨-, rfl⟩ := Prod.mk.inj h₁
      obtain ⟨_, e₂, h₃, h₄⟩ := Prog.exec_bind_ok h₂
      exact ⟨_, .bump (by simp [WorkItem.byDelete, *]),
        by rw [request_ok h₄, bumpAnnotationGeneric_ok h₃]; rfl⟩
  · rename_i sts ht
    dsimp only at h
    cases hs : w.strategy <;> simp only [hs, reduceCtorEq, if_true, if_false] at h
    · obtain ⟨_, e₁, h₁, h₂⟩ := Prog.exec_bind_ok h
      obtain ⟨_, e₂, h₃, h₄⟩ := Prog.exec_bind_ok h₂
      rw [Prog.exec_pure] at h₄
      obtain ⟨-, rfl⟩ := Prod.mk.inj h₄
      exact ⟨_, .bump (by simp [WorkItem.byDelete, *]),
        by rw [request_ok h₃, bumpRestartAnnotation_ok h₁]; rfl⟩
    · obtain ⟨_, e₁, h₁, h₂⟩ := Prog.exec_bind_ok h
      rw [Prog.exec_pure] at h₁
      obtain ⟨-, rfl⟩ := Prod.mk.inj h₁
      exact ⟨_, .byDelete ht hs, restartStatefulSetByDelete_actions h₂⟩

/-- Every successful `runProxyCheckIfEnabled` takes the actions of `Checked`. -/
theorem runProxyCheckIfEnabled_ok {lib : Lib} {spec : LinkerdTrustRotationSpec} {w : WorkItem}
    (h : (runProxyCheckIfEnabled lib spec w.ref w.getNamespace w.getName).exec e = (.ok (), e')) :
    ∃ ca, Checked lib spec w ca ∧ e'.actions = ca ++ e.actions := by
  unfold runProxyCheckIfEnabled at h
  split at h
  · obtain ⟨_, e₁, h₁, h₂⟩ := Prog.exec_bind_ok h
    obtain ⟨_, e₂, h₃, h₄⟩ := Prog.exec_bind_ok h₂
    rw [request_ok h₄, request_ok h₃]
    rw [Prog.exec_tryCatch] at h₁
    rcases hd : (request (.jobDeleted spec.linkerd.«namespace»
        (checkJobName lib w.getNamespace w.getName))).exec e with ⟨_ | _, e₃⟩ <;> rw [hd] at h₁
    · dsimp only at h₁
      rw [Prog.exec_pure] at h₁
      obtain ⟨-, rfl⟩ := Prod.mk.inj h₁
      exact ⟨_, .on ‹_› (.inl rfl), by rw [request_error hd]; rfl⟩
    · obtain ⟨-, rfl⟩ := Prod.mk.inj h₁
      exact ⟨_, .on ‹_› (.inr rfl), by rw [request_ok hd]; rfl⟩
  · rw [Prog.exec_pure] at h
    exact ⟨[], .off (Bool.eq_false_iff.mpr ‹_›), by rw [← (Prod.mk.inj h).2]; rfl⟩

end

end TrustRotator
