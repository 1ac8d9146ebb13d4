import TrustRotator.Reconcile.Chains
import TrustRotator.Reconcile.Increments

/-!
The order of a rotation.

`Reconcile` deletes the previous anchor secret at one place: after it deleted
the identity issuer, restarted the control plane and rolled out the data
plane. The control plane has no cursor, so every rotation restarts all of it:
each deployment of the Linkerd namespace labelled with it, one at a time in
descending name order, each bump followed by the wait for its rollout.
Whatever its requests return, every deletion of the previous anchor secret in
a reconcile's log therefore comes after that reconcile's whole control-plane
restart, which comes after its deletion of the identity issuer
(`previous_deleted_after_control_plane`). The one condition is that the spec
does not give the previous anchor secret the issuer's name: the deletion of
the issuer would then be one of the previous secret.

Nothing a reconcile does before the rotation deletes the previous secret or
changes a deployment (`Undisturbed`, carried through the controller by
`Chains`); the rotation itself is taken apart along its binds.
-/

namespace TrustRotator

/-! ### The order of names -/

theorem charsLess_trans : ∀ {a b c : List Char}, charsLess a b = true → charsLess b c = true → charsLess a c = true
  | [], _ :: _, _ :: _, _, _ => rfl
  | [], [], _, h, _ | _ :: _, [], _, h, _ | _, _ :: _, [], _, h => by cases h
  | x :: xs, y :: ys, z :: zs, h₁, h₂ => by
    simp only [charsLess, Bool.or_eq_true, decide_eq_true_eq, Bool.and_eq_true, beq_iff_eq] at h₁ h₂ ⊢
    rcases h₁ with h₁ | ⟨rfl, h₁⟩ <;> rcases h₂ with h₂ | ⟨rfl, h₂⟩
    · exact .inl (UInt32.lt_trans h₁ h₂)
    · exact .inl h₁
    · exact .inl h₂
    · exact .inr ⟨rfl, charsLess_trans h₁ h₂⟩

/-- Code-point order is a strict weak order: `a < c` puts `b` above `a` or below `c`. -/
theorem charsLess_cotrans {a b c : List Char} (h : charsLess a c = true) :
    charsLess a b = true ∨ charsLess b c = true := by
  cases hab : charsLess a b
  · cases hba : charsLess b a
    · rw [eq_of_charsLess_eq_false hab hba] at h
      exact .inr h
    · exact .inr (charsLess_trans hba h)
  · exact .inl rfl

/-! ### Restarting the control plane -/

/-- The actions of restarting the deployments `ds` in order, newest first:
each bump, then the wait for its rollout. -/
def deploymentsRestarted : List Workload → List Action
  | [] => []
  | d :: rest => deploymentsRestarted rest ++
      [.rolledOut (Target.deployment d).ref, .restarted (Target.deployment d).ref]

theorem restartDeployments_ok {lib : Lib} {ds : List Workload} {e e' : Env}
    (h : (restartDeployments lib ds).exec e = (.ok (), e')) : e'.actions = deploymentsRestarted ds ++ e.actions := by
  induction ds generalizing e with
  | nil =>
    rw [restartDeployments, Prog.exec_pure] at h
    rw [← (Prod.mk.inj h).2]
    rfl
  | cons d rest ih =>
    rw [restartDeployments] at h
    obtain ⟨_, e₁, h₁, h⟩ := Prog.exec_bind_ok h
    obtain ⟨_, e₂, h₂, h₃⟩ := Prog.exec_bind_ok h
    rw [ih h₃, request_ok h₂, bumpRestartAnnotation_ok h₁]
    simp [deploymentsRestarted]

/-- The deployments `RestartLinkerdControlPlane` restarts from the cluster `c`,
in its order: those `SelectLinkerdControlPlane` lists, by descending name. -/
def controlPlaneQueue (spec : LinkerdTrustRotationSpec) (c : Cluster) : List Workload :=
  (c.deployments.filter fun d =>
    d.«namespace» == spec.linkerd.«namespace» && d.labels.lookup labelCPNamespace == some spec.linkerd.«namespace»
    ).insertionSort fun a b => !stringLess a.name b.name

theorem controlPlaneQueue_congr {spec : LinkerdTrustRotationSpec} {c c' : Cluster}
    (h : c'.deployments = c.deployments) : controlPlaneQueue spec c' = controlPlaneQueue spec c := by
  unfold controlPlaneQueue
  rw [h]

/-- The queue holds the listed deployments, each once, by descending name;
deployments of one name keep their listed order. -/
theorem controlPlaneQueue_perm_sorted (spec : LinkerdTrustRotationSpec) (c : Cluster) :
    (controlPlaneQueue spec c).Perm (c.deployments.filter fun d =>
      d.«namespace» == spec.linkerd.«namespace» && d.labels.lookup labelCPNamespace == some spec.linkerd.«namespace») ∧
    (controlPlaneQueue spec c).Sorted fun a b => stringLess a.name b.name = false := by
  let r := fun a b : Workload => (!stringLess a.name b.name) = true
  have : IsTotal Workload r := ⟨fun a b => by
    cases h : stringLess a.name b.name
    · exact .inl (by simp [r, h])
    · exact .inr (by simp [r, stringLess_asymm h])⟩
  have : IsTrans Workload r := ⟨fun a b c hab hbc => by
    simp only [r, stringLess, Bool.not_eq_true'] at *
    cases h : charsLess a.name.toList c.name.toList
    · rfl
    · rcases charsLess_cotrans (b := b.name.toList) h with h' | h' <;> simp_all⟩
  exact ⟨List.perm_insertionSort r _, List.Pairwise.imp (fun h => by simpa [r] using h) (List.sorted_insertionSort r _)⟩

theorem selectLinkerdControlPlane_ok {spec : LinkerdTrustRotationSpec} {e e' : Env} {ds : List Workload}
    (h : (selectLinkerdControlPlane spec).exec e = (.ok ds, e')) :
    ds = e.cluster.deployments.filter (fun d =>
      d.«namespace» == spec.linkerd.«namespace» && d.labels.lookup labelCPNamespace == some spec.linkerd.«namespace») ∧
      e'.actions = e.actions := by
  obtain ⟨_, e₁, h₁, h₂⟩ := Prog.exec_bind_ok h
  rw [Prog.exec_bind_of_ok (Prog.exec_get _), Prog.exec_pure] at h₂
  obtain ⟨h₃, rfl⟩ := Prod.mk.inj h₂
  have he := call_ok h₁
  exact ⟨by rw [← Except.ok.inj h₃, he], by rw [he]⟩

/-- A successful `RestartLinkerdControlPlane` logged, between its status
writes, the restart of its whole queue. -/
theorem restartLinkerdControlPlane_ok {lib : Lib} {spec : LinkerdTrustRotationSpec} {v v' : World}
    (h : (restartLinkerdControlPlane lib spec).exec v = (.ok (), v')) :
    ∃ P₂ P₁, v'.log = P₂ ++ (deploymentsRestarted (controlPlaneQueue spec v.cluster)).map .did ++ P₁ ++ v.log := by
  have hG := grows_tracks.1
  obtain ⟨ds, v₁, h₁, h⟩ := Prog.exec_bind_ok h
  obtain ⟨_, v₂, h₂, h⟩ := Prog.exec_bind_ok h
  obtain ⟨_, v₃, h₃, h⟩ := Prog.exec_bind_ok h
  obtain ⟨_, v₄, h₄, h⟩ := Prog.exec_bind_ok h
  obtain ⟨_, v₅, h₅, h₆⟩ := Prog.exec_bind_ok h
  obtain ⟨e₁, he₁, rfl⟩ := lift_ok h₁
  obtain ⟨e₄, he₄, rfl⟩ := lift_ok h₄
  obtain ⟨rfl, ha₁⟩ := selectLinkerdControlPlane_ok he₁
  obtain ⟨T₂, hT₂⟩ := setPhase_holds hG _ _ _ _ _ _ h₂
  obtain ⟨T₃, hT₃⟩ := setProgress_holds hG _ _ _ _ _ _ h₃
  obtain ⟨T₅, hT₅⟩ := setProgress_holds hG _ _ _ _ _ _ h₅
  obtain ⟨T₆, hT₆⟩ := setPhase_holds hG _ _ _ _ _ _ h₆
  refine ⟨T₆ ++ T₅, T₃ ++ T₂, ?_⟩
  rw [← hT₆, ← hT₅, withEnv_log, restartDeployments_ok he₄, ← hT₃, ← hT₂, withEnv_log, ha₁]
  simp [World.env, controlPlaneQueue]

/-! ### Steps that neither delete the previous secret nor change a deployment -/

theorem EnvTracks.and {E E' : Env → Env → Prop} (h : EnvTracks E) (h' : EnvTracks E') :
    EnvTracks fun e e' => E e e' ∧ E' e e' :=
  ⟨fun e => ⟨h.refl e, h'.refl e⟩, fun h₁ h₂ => ⟨h.trans h₁.1 h₂.1, h'.trans h₁.2 h₂.2⟩,
    fun e fs => ⟨h.faults e fs, h'.faults e fs⟩⟩

theorem ReqHolds.and {E E' : Env → Env → Prop} {α : Type} {x : Req α} (h : ReqHolds E x) (h' : ReqHolds E' x) :
    ReqHolds (fun e e' => E e e' ∧ E' e e') x :=
  fun e r e' hx => ⟨h e r e' hx, h' e r e' hx⟩

theorem Chains.and {E E' : Env → Env → Prop} {R R' : World → World → Prop} (h : Chains E R) (h' : Chains E' R') :
    Chains (fun e e' => E e e' ∧ E' e e') fun v v' => R v v' ∧ R' v v' where
  refl v := ⟨h.refl v, h'.refl v⟩
  trans h₁ h₂ := ⟨h.trans h₁.1 h₂.1, h'.trans h₁.2 h₂.2⟩
  withEnv v e he := ⟨h.withEnv v e he.1, h'.withEnv v e he.2⟩
  patch p m v r v' hx := ⟨h.patch p m v r v' hx, h'.patch p m v r v' hx⟩
  observe v b := ⟨h.observe v b, h'.observe v b⟩
  event v r m := ⟨h.event v r m, h'.event v r m⟩

/-- The manager left the deployments as they were. -/
def KeepsDeployments (e e' : Env) : Prop := e'.cluster.deployments = e.cluster.deployments

/-- The reconciler left the deployments as they were. -/
def DeploymentsKept (v v' : World) : Prop := v'.cluster.deployments = v.cluster.deployments

theorem keepsDeployments_tracks : EnvTracks KeepsDeployments :=
  ⟨fun _ => rfl, fun h₁ h₂ => h₂.trans h₁, fun _ _ => rfl⟩

theorem deploymentsKept_chains : Chains KeepsDeployments DeploymentsKept where
  refl _ := rfl
  trans h₁ h₂ := h₂.trans h₁
  withEnv _ _ h := h
  patch _ _ _ _ _ h := by rw [DeploymentsKept, patch_cluster h]
  observe _ _ := rfl
  event _ _ _ := rfl

theorem request_keepsDeployments (a : Action) : ReqHolds KeepsDeployments (request a) :=
  .bind keepsDeployments_tracks (.call keepsDeployments_tracks) fun _ => .modify fun _ => rfl

section
variable (spec : LinkerdTrustRotationSpec)

/-- The manager did not delete the previous anchor secret. -/
def KeepsPrevious (e e' : Env) : Prop :=
  ∃ pre, e'.actions = pre ++ e.actions ∧
    .secretDeleted spec.linkerd.«namespace» spec.linkerd.previousTrustAnchorSecret ∉ pre

/-- The reconciler did not delete the previous anchor secret. -/
def PreviousKept (v v' : World) : Prop :=
  ∃ pre, v'.log = pre ++ v.log ∧
    .did (.secretDeleted spec.linkerd.«namespace» spec.linkerd.previousTrustAnchorSecret) ∉ pre

theorem keepsPrevious_benign : Benign (KeepsPrevious spec) where
  refl _ := ⟨[], rfl, List.not_mem_nil _⟩
  trans := fun ⟨p₁, h₁, q₁⟩ ⟨p₂, h₂, q₂⟩ => ⟨p₂ ++ p₁, by rw [h₂, h₁, List.append_assoc], by simp [q₁, q₂]⟩
  faults _ _ := ⟨[], rfl, List.not_mem_nil _⟩
  acts a ha := .modify fun _ => ⟨[a], rfl, fun h => by obtain rfl := List.mem_singleton.1 h; cases ha⟩
  clock _ _ _ h := by
    rw [exec_now] at h; obtain ⟨-, rfl⟩ := Prod.mk.inj h; exact ⟨[], rfl, List.not_mem_nil _⟩
  bumps _ _ _ := .modify fun _ => ⟨[], rfl, List.not_mem_nil _⟩

theorem previousKept_chains : Chains (KeepsPrevious spec) (PreviousKept spec) where
  refl _ := ⟨[], rfl, List.not_mem_nil _⟩
  trans := fun ⟨p₁, h₁, q₁⟩ ⟨p₂, h₂, q₂⟩ => ⟨p₂ ++ p₁, by rw [h₂, h₁, List.append_assoc], by simp [q₁, q₂]⟩
  withEnv v _ := fun ⟨pre, hpre, q⟩ => ⟨pre.map .did, by rw [withEnv_log, hpre]; simp [World.env], by simpa using q⟩
  patch _ _ := fun _ _ _ h => by
    rcases patch_cases _ _ _ h with ⟨-, -, rfl⟩ | ⟨-, -, fs, rfl⟩ | ⟨-, -, fs, rfl⟩
    · exact ⟨[], rfl, List.not_mem_nil _⟩
    · exact ⟨[], rfl, List.not_mem_nil _⟩
    · exact ⟨[_], rfl, by simp⟩
  observe _ _ := ⟨[_], rfl, by simp⟩
  event _ _ _ := ⟨[_], rfl, by simp⟩

/-- The manager neither deleted the previous anchor secret nor changed a deployment. -/
def Undisturbs (e e' : Env) : Prop := KeepsPrevious spec e e' ∧ KeepsDeployments e e'

/-- The reconciler neither deleted the previous anchor secret nor changed a deployment. -/
def Undisturbed (v v' : World) : Prop := PreviousKept spec v v' ∧ DeploymentsKept v v'

theorem undisturbs_tracks : EnvTracks (Undisturbs spec) :=
  (keepsPrevious_benign spec).1.and keepsDeployments_tracks

theorem undisturbed_chains : Chains (Undisturbs spec) (Undisturbed spec) :=
  (previousKept_chains spec).and deploymentsKept_chains

theorem ensureTrustSecrets_undisturbs (lib : Lib) : ReqHolds (Undisturbs spec) (ensureTrustSecrets lib spec) :=
  fun e r e' h => by
    rcases ensureTrustSecrets_bootStep lib spec e r e' h with ⟨hc, ha⟩ | ⟨-, -, c, -, hc, ha⟩
    · exact ⟨⟨[], ha, List.not_mem_nil _⟩, by rw [KeepsDeployments, hc]⟩
    · exact ⟨⟨[_], ha, by simp⟩, by rw [KeepsDeployments, hc]⟩

theorem selectLinkerdDataPlane_undisturbs : ReqHolds (Undisturbs spec) (selectLinkerdDataPlane spec) :=
  have hD := keepsDeployments_tracks
  (selectLinkerdDataPlane_benign (keepsPrevious_benign spec) spec).and
    (.bind hD (selectScopes_holds hD _ _ _) fun _ => .bind hD (.modify fun _ => rfl) fun _ => .pure hD _)

theorem waitWithPurpose_undisturbs (d : Option Int) (purpose : String) :
    ReqHolds (Undisturbs spec) (waitWithPurpose d purpose) := by
  refine (waitWithPurpose_benign (keepsPrevious_benign spec) d purpose).and ?_
  unfold waitWithPurpose
  repeat' first | exact request_keepsDeployments _ | exact .pure keepsDeployments_tracks _ | split

theorem deleteSecrets_undisturbs {name : String} (hn : name ≠ spec.linkerd.previousTrustAnchorSecret) :
    ReqHolds (Undisturbs spec) (deleteSecrets spec name) :=
  have hT := undisturbs_tracks spec
  .bind hT (.withContext hT _ (.call hT)) fun _ => .bind hT (.modify fun _ => ⟨⟨[], rfl, List.not_mem_nil _⟩, rfl⟩)
    fun _ => .modify fun _ => ⟨⟨[_], rfl, by simpa using hn.symm⟩, rfl⟩

/-- A deletion that succeeded logged itself, left the deployments, and left no
secret of the deleted name. -/
theorem deleteSecrets_ok {name : String} {e e' : Env} (h : (deleteSecrets spec name).exec e = (.ok (), e')) :
    e'.actions = .secretDeleted spec.linkerd.«namespace» name :: e.actions ∧
      e'.cluster.deployments = e.cluster.deployments ∧
      findSecret e'.cluster spec.linkerd.«namespace» name = none := by
  obtain ⟨_, e₁, h₁, h⟩ := Prog.exec_bind_ok h
  simp only [updateCluster, Prog.exec_bind, Prog.exec_modify, exec_act, Prod.mk.injEq] at h
  obtain ⟨-, rfl⟩ := h
  rw [call_ok (withContext_ok h₁)]
  refine ⟨rfl, rfl, List.find?_eq_none.2 fun s hs => ?_⟩
  simpa [imp_iff_not_or] using (List.mem_filter.1 hs).2

/-! ### The order of the rotation -/

/-- Every deletion of the previous anchor secret logged from `v` to `v'` comes
after the restart of the control-plane queue of `v`'s cluster, which comes
after a deletion of the identity issuer. -/
def CleanupOrdered (v v' : World) : Prop :=
  ∃ pre, v'.log = pre ++ v.log ∧
    ∀ A B, pre = A ++ .did (.secretDeleted spec.linkerd.«namespace» spec.linkerd.previousTrustAnchorSecret) :: B →
      ∃ B₁ B₂ B₃, B = B₁ ++ (deploymentsRestarted (controlPlaneQueue spec v.cluster)).map .did ++ B₂ ++
        .did (.secretDeleted spec.linkerd.«namespace» linkerdIdentityIssuerSecret) :: B₃

variable {spec}

theorem PreviousKept.cleanupOrdered {v v' : World} : PreviousKept spec v v' → CleanupOrdered spec v v'
  | ⟨pre, hl, hn⟩ => ⟨pre, hl, fun A B h => (hn (h ▸ List.mem_append_right A (List.mem_cons_self _ B))).elim⟩

theorem Undisturbed.cleanupOrdered {v v' : World} (h : Undisturbed spec v v') : CleanupOrdered spec v v' :=
  h.1.cleanupOrdered

/-- Undisturbed steps may come first. -/
theorem CleanupOrdered.of_undisturbed {v u v' : World} (h₁ : Undisturbed spec v u) (h₂ : CleanupOrdered spec u v') :
    CleanupOrdered spec v v' := by
  obtain ⟨⟨p₁, hl₁, hn⟩, hd⟩ := h₁
  obtain ⟨p₂, hl₂, hq⟩ := h₂
  refine ⟨p₂ ++ p₁, by rw [hl₂, hl₁, List.append_assoc], fun A B h => ?_⟩
  obtain ⟨B', rfl, rfl⟩ := append_cons_eq_append_right h.symm hn
  obtain ⟨B₁, B₂, B₃, rfl⟩ := hq A B' rfl
  exact ⟨B₁, B₂, B₃ ++ p₁, by rw [controlPlaneQueue_congr hd]; simp⟩

/-- Steps that keep the previous secret may come after. -/
theorem CleanupOrdered.then_kept {v u v' : World} (h₁ : CleanupOrdered spec v u) (h₂ : PreviousKept spec u v') :
    CleanupOrdered spec v v' := by
  obtain ⟨p₁, hl₁, hq⟩ := h₁
  obtain ⟨p₂, hl₂, hn⟩ := h₂
  refine ⟨p₂ ++ p₁, by rw [hl₂, hl₁, List.append_assoc], fun A B h => ?_⟩
  obtain ⟨A', -, rfl⟩ := append_cons_eq_append_left h.symm hn
  exact hq A' B rfl

/-- A run of `x` keeping `P` followed by one of `f` keeping `Q` keeps `R`, when
`P` alone does (`x` failed) and `P` then `Q` does. -/
theorem Holds.seq {P Q R : World → World → Prop} {α β : Type} {x : Api α} {f : α → Api β}
    (hP : ∀ {v v'}, P v v' → R v v') (hPQ : ∀ {v u v'}, P v u → Q u v' → R v v')
    (hx : Holds P x) (hf : ∀ a, Holds Q (f a)) : Holds R (x >>= f) := fun _ _ _ h => by
  obtain ⟨_, ⟨_, h₁, -, rfl⟩ | ⟨a, h₁, h₂⟩⟩ := Prog.exec_bind_cases h
  · exact hP (hx _ _ _ h₁)
  · exact hPQ (hx _ _ _ h₁) (hf a _ _ _ h₂)

/-- An undisturbed step may come first, whether it fails or not. -/
theorem undisturbed_bind {α β : Type} {x : Api α} {f : α → Api β} (hx : Holds (Undisturbed spec) x)
    (hf : ∀ a, Holds (CleanupOrdered spec) (f a)) : Holds (CleanupOrdered spec) (x >>= f) :=
  Holds.seq Undisturbed.cleanupOrdered CleanupOrdered.of_undisturbed hx hf

/-- Steps that keep the previous secret may come after. -/
theorem cleanupOrdered_bind_kept {α β : Type} {x : Api α} {f : α → Api β} (hx : Holds (CleanupOrdered spec) x)
    (hf : ∀ a, Holds (PreviousKept spec) (f a)) : Holds (CleanupOrdered spec) (x >>= f) :=
  Holds.seq id CleanupOrdered.then_kept hx hf

variable {lib : Lib}

/-- Every deletion of the previous anchor secret in the clean-up comes after the
restart of the whole control-plane queue it started from. -/
theorem restartAndCleanUp_cleanupOrdered {u v' : World} {r : Except String Unit}
    (h : (restartAndCleanUp lib spec).exec u = (r, v')) :
    ∃ pre, v'.log = pre ++ u.log ∧
      ∀ A B, pre = A ++ .did (.secretDeleted spec.linkerd.«namespace» spec.linkerd.previousTrustAnchorSecret) :: B →
        ∃ B₁ B₂, B = B₁ ++ (deploymentsRestarted (controlPlaneQueue spec u.cluster)).map .did ++ B₂ := by
  have hK := previousKept_chains spec
  have hG := grows_tracks.1
  have cp := failRotation_chains hK (keepsPrevious_benign spec)
    (restartLinkerdControlPlane_chains hK (keepsPrevious_benign spec) lib spec)
  obtain ⟨u₁, ⟨_, h₁, -, rfl⟩ | ⟨_, h₁, h₂⟩⟩ := Prog.exec_bind_cases h
  · obtain ⟨pre, hl, hn⟩ := cp _ _ _ h₁
    exact ⟨pre, hl, fun A B he => (hn (he ▸ List.mem_append_right A (List.mem_cons_self _ B))).elim⟩
  obtain ⟨P₂, P₁, hl₁⟩ := restartLinkerdControlPlane_ok (failRotation_ok h₁)
  obtain ⟨pre₁, hl₁', hn⟩ := cp _ _ _ h₁
  have hpre := List.append_cancel_right (hl₁'.symm.trans hl₁)
  obtain ⟨T, hT⟩ : Grows u₁ v' := by
    refine (?_ : Holds Grows _) _ _ _ h₂
    have dp := failRotation_holds hG (restartLinkerdDataPlane_grows lib spec)
    refine .bind hG.1 dp fun _ => .bind hG.1 (.lift hG.1 _) fun _ => ?_
    dsimp only
    exact .ite (.bind hG.1 (.lift hG.1 _) fun _ => .bind hG.1 (.discard (.lift hG.1 _)) fun _ =>
      .bind hG.1 dp fun _ => markSucceeded_holds hG _) (markSucceeded_holds hG _)
  refine ⟨T ++ pre₁, by rw [← hT, hl₁', List.append_assoc], fun A B he => ?_⟩
  obtain ⟨B', -, rfl⟩ := append_cons_eq_append_right he.symm hn
  exact ⟨B' ++ P₂, P₁, by rw [hpre]; simp⟩

theorem rotate_cleanupOrdered (hne : spec.linkerd.previousTrustAnchorSecret ≠ linkerdIdentityIssuerSecret) :
    Holds (CleanupOrdered spec) (rotate lib spec) := by
  have hU := undisturbed_chains spec
  refine undisturbed_bind (hU.patch _ _) fun _ =>
    undisturbed_bind (hU.lift (waitWithPurpose_undisturbs spec _ _)) fun _ v r v' h => ?_
  obtain ⟨u, ⟨_, h₁, -, rfl⟩ | ⟨_, h₁, h₂⟩⟩ := Prog.exec_bind_cases h
  · exact (hU.lift (deleteSecrets_undisturbs spec (Ne.symm hne)) _ _ _ h₁).1.cleanupOrdered
  obtain ⟨e, he, rfl⟩ := lift_ok h₁
  obtain ⟨ha, hd, -⟩ := deleteSecrets_ok spec he
  have hq : controlPlaneQueue spec (v.withEnv e).cluster = controlPlaneQueue spec v.cluster :=
    controlPlaneQueue_congr hd
  obtain ⟨pre, hl, hc⟩ := restartAndCleanUp_cleanupOrdered h₂
  refine ⟨pre ++ [.did (.secretDeleted spec.linkerd.«namespace» linkerdIdentityIssuerSecret)],
    by rw [hl, withEnv_log, ha]; simp [World.env], fun A B hAB => ?_⟩
  obtain ⟨B', hB', rfl⟩ := append_cons_eq_append_right hAB.symm (by simp [hne])
  obtain ⟨B₁, B₂, rfl⟩ := hc A B' hB'
  exact ⟨B₁, B₂, [], by rw [hq]⟩

theorem reconcile_cleanupOrdered (hne : spec.linkerd.previousTrustAnchorSecret ≠ linkerdIdentityIssuerSecret) :
    Holds (CleanupOrdered spec) (reconcile lib spec) :=
  reconcile_follows (undisturbed_chains spec) lib spec
    ⟨fun hx _ _ _ h => (hx _ _ _ h).cleanupOrdered, undisturbed_bind, .ite⟩ (undisturbs_tracks spec)
    (ensureTrustSecrets_undisturbs spec lib) (selectLinkerdDataPlane_undisturbs spec)
    (fun _ => ⟨⟨[], rfl, List.not_mem_nil _⟩, rfl⟩)
    (cleanupOrdered_bind_kept (rotate_cleanupOrdered hne) fun _ => (previousKept_chains spec).pure _)

end

end TrustRotator
