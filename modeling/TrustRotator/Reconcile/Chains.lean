import TrustRotator.Trust.Anchors
import TrustRotator.Reconcile.Tracks

/-!
Relations kept by the reconciler given what its managers do.

`Tracks` asks a relation to hold across every manager call, whatever the
manager does. Some relations hold only across managers that behave:
`Chains E R` asks `R` of every step of the reconciler other than a manager
call (its status writes, its events and observations), and of the call of a
manager whose runs keep `E` (`ReqHolds E`). A controller function then keeps
`R` as soon as the managers it calls keep `E`, by the rules below, one per
construct, assembled along its binds.

The managers that only read the cluster keep every relation the requests
themselves keep; those of a rollout keep every relation that requests, clock
readings, annotation bumps and actions on anything but secrets keep
(`Benign`). What is left to show of a relation, for the whole reconcile, is
then what `EnsureTrustSecrets` and the two secret deletions do to it
(`reconcile_chains`).
-/

namespace TrustRotator

/-! ### Positions in a log -/

section
variable {α : Type} {x : α} {A B P Q : List α}

/-- An occurrence in `P ++ Q` of an element that is not in `Q` lies in `P`. -/
theorem append_cons_eq_append_right (h : A ++ x :: B = P ++ Q) (hx : x ∉ Q) :
    ∃ B', P = A ++ x :: B' ∧ B = B' ++ Q := by
  rcases List.append_eq_append_iff.1 h with ⟨_ | ⟨y, a'⟩, rfl, h'⟩ | ⟨c', -, rfl⟩
  · exact (hx (by rw [← List.nil_append Q, ← h']; exact List.mem_cons_self x B)).elim
  · obtain ⟨rfl, rfl⟩ := List.cons.inj h'
    exact ⟨a', rfl, rfl⟩
  · exact (hx (List.mem_append_right c' (List.mem_cons_self x B))).elim

/-- An occurrence in `P ++ Q` of an element that is not in `P` lies in `Q`. -/
theorem append_cons_eq_append_left (h : A ++ x :: B = P ++ Q) (hx : x ∉ P) :
    ∃ A', A = P ++ A' ∧ Q = A' ++ x :: B := by
  rcases List.append_eq_append_iff.1 h with ⟨_ | ⟨y, a'⟩, rfl, h'⟩ | ⟨c', rfl, rfl⟩
  · exact ⟨[], by simp, by simpa using h'.symm⟩
  · obtain ⟨rfl, -⟩ := List.cons.inj h'
    exact (hx (List.mem_append_right A (List.mem_cons_self x a'))).elim
  · exact ⟨c', rfl, rfl⟩

end

/-! ### Managers that only read -/

section
variable {E : Env → Env → Prop} (hE : EnvTracks E)
include hE

theorem listNamespaces_holds (key val : String) (scope : TargetScope) (strategy : RolloutStrategy) :
    ∀ nss, ReqHolds E (listNamespaces key val scope strategy nss)
  | [] => .pure hE _
  | _ :: rest => by
    rw [listNamespaces]
    exact .bind hE (.withContext hE _ (.call hE)) fun _ => .bind hE (.get hE) fun _ =>
      .bind hE (listNamespaces_holds key val scope strategy rest) fun _ => .pure hE _

theorem selectScopes_holds (key val : String) : ∀ scopes, ReqHolds E (selectScopes key val scopes)
  | [] => .pure hE _
  | scope :: rest => by
    rw [selectScopes]
    repeat' first
      | with_reducible exact .pure hE _ | with_reducible exact .throw hE _
      | with_reducible exact listNamespaces_holds hE _ _ _ _ _ | with_reducible exact selectScopes_holds key val rest
      | with_reducible refine .bind hE ?_ fun _ => ?_ | split

theorem loadAndInspectCMBundle_holds (lib : Lib) (spec : LinkerdTrustRotationSpec) :
    ReqHolds E (loadAndInspectCMBundle lib spec) := by
  unfold loadAndInspectCMBundle
  repeat' first
    | with_reducible exact .pure hE _ | with_reducible exact .throw hE _ | with_reducible exact .get hE
    | with_reducible exact .withContext hE _ (.call hE) | with_reducible refine .bind hE ?_ fun _ => ?_
    | split | dsimp only

theorem selectLinkerdControlPlane_holds (spec : LinkerdTrustRotationSpec) :
    ReqHolds E (selectLinkerdControlPlane spec) :=
  .bind hE (.call hE) fun _ => .bind hE (.get hE) fun _ => .pure hE _

/-- The selection also logs the queue it selected. -/
theorem selectLinkerdDataPlane_holds (spec : LinkerdTrustRotationSpec)
    (hact : ∀ e q, E e { e with actions := .selected q :: e.actions }) : ReqHolds E (selectLinkerdDataPlane spec) :=
  .bind hE (selectScopes_holds hE _ _ _) fun _ => .bind hE (.modify fun e => hact e _) fun _ => .pure hE _

end

/-! ### Managers of the control plane and the selection -/

section
variable {E : Env → Env → Prop} (hB : Benign E) (lib : Lib) (spec : LinkerdTrustRotationSpec)
include hB

theorem restartDeployments_benign : ∀ ds, ReqHolds E (restartDeployments lib ds)
  | [] => .pure hB.1 _
  | _ :: rest => by
    rw [restartDeployments]
    exact .bind hB.1 (bumpRestartAnnotation_benign hB lib _) fun _ =>
      .bind hB.1 (request_benign hB _ rfl) fun _ => restartDeployments_benign rest

theorem waitWithPurpose_benign (d : Option Int) (purpose : String) :
    ReqHolds E (waitWithPurpose d purpose) := by
  unfold waitWithPurpose
  repeat' first | exact request_benign hB _ rfl | exact .pure hB.1 _ | split

theorem selectLinkerdDataPlane_benign : ReqHolds E (selectLinkerdDataPlane spec) :=
  selectLinkerdDataPlane_holds hB.1 spec fun e q => hB.acts (.selected q) rfl e _ _ rfl

end

/-! ### The rules -/

/-- A relation between worlds kept by every step of the reconciler other than
a manager call, and by the call of a manager whose runs keep `E`. -/
structure Chains (E : Env → Env → Prop) (R : World → World → Prop) : Prop where
  refl : ∀ v, R v v
  trans : ∀ {v₁ v₂ v₃}, R v₁ v₂ → R v₂ v₃ → R v₁ v₃
  withEnv : ∀ v e, E v.env e → R v (v.withEnv e)
  patch : ∀ p m, Holds R (patch p m)
  observe : ∀ v b, R v { v with log := .observed b :: v.log }
  event : ∀ v r m, R v { v with log := .event r m :: v.log }

namespace Chains

variable {E : Env → Env → Prop} {R : World → World → Prop} (hR : Chains E R) {α β : Type}
include hR

theorem pure (a : α) : Holds R (Pure.pure a : Api α) := fun v _ _ h => by
  rw [Prog.exec_pure] at h; exact (Prod.mk.inj h).2 ▸ hR.refl v

theorem throw (err : String) : Holds R (MonadExcept.throw err : Api α) := fun v _ _ h => by
  rw [Prog.exec_throw] at h; exact (Prod.mk.inj h).2 ▸ hR.refl v

theorem get : Holds R (MonadState.get : Api World) := fun v _ _ h => by
  rw [Prog.exec_get] at h; exact (Prod.mk.inj h).2 ▸ hR.refl v

theorem bind {x : Api α} {f : α → Api β} (hx : Holds R x) (hf : ∀ a, Holds R (f a)) :
    Holds R (x >>= f) := fun _ _ _ h => by
  obtain ⟨v₁, ⟨e, h₁, -, rfl⟩ | ⟨a, h₁, h₂⟩⟩ := Prog.exec_bind_cases h
  · exact hx _ _ _ h₁
  · exact hR.trans (hx _ _ _ h₁) (hf a _ _ _ h₂)

theorem tryCatch {x : Api α} {c : String → Api α} (hx : Holds R x) (hc : ∀ e, Holds R (c e)) :
    Holds R (tryCatch x c) := fun _ _ _ h => by
  rcases Prog.exec_tryCatch_cases h with ⟨_, h₁, rfl⟩ | ⟨e, v₁, h₁, h₂⟩
  · exact hx _ _ _ h₁
  · exact hR.trans (hx _ _ _ h₁) (hc e _ _ _ h₂)

theorem lift {x : Req α} (hx : ReqHolds E x) : Holds R x.lift := fun v _ _ h => by
  rw [exec_lift] at h; exact (Prod.mk.inj h).2 ▸ hR.withEnv v _ (hx _ _ _ rfl)

theorem setProgress (cpReady : Bool) (current total : Option Int) :
    Holds R (setProgress cpReady current total) := by
  dsimp only [TrustRotator.setProgress]; exact hR.patch _ _

theorem emitObserved (b : BundleState) : Holds R (emit (.observed b)) := .modify (hR.observe · b)

theorem emitEvent (r m : String) : Holds R (emit (.event r m)) := .modify (hR.event · r m)

end Chains

/-! ### The trigger decision and the dry run -/

section
variable {E : Env → Env → Prop} {R : World → World → Prop} (hR : Chains E R)
  (lib : Lib) (spec : LinkerdTrustRotationSpec)
include hR

theorem decideBundle_chains (hs : ReqHolds E (ensureTrustSecrets lib spec))
    (hc : ReqHolds E (loadAndInspectCMBundle lib spec)) : Holds R (decideBundle lib spec) := by
  unfold decideBundle
  repeat' first
    | with_reducible exact hR.pure _ | with_reducible exact hR.throw _ | exact hR.emitObserved _
    | with_reducible exact hR.lift hs | with_reducible exact hR.lift hc
    | with_reducible refine hR.bind ?_ fun _ => ?_ | exact hR.patch _ _ | split | dsimp only

theorem dryRunPlan_chains (hq : ReqHolds E (selectLinkerdDataPlane spec)) : Holds R (dryRunPlan lib spec) := by
  unfold dryRunPlan
  repeat' first
    | with_reducible exact hR.pure _ | with_reducible exact hR.throw _ | with_reducible exact hR.lift hq
    | with_reducible refine hR.bind ?_ fun _ => ?_ | exact hR.patch _ _ | split

/-- A judgment on the reconciler's programs that every program keeping `R`
satisfies, that a first step keeping `R` passes on, and that conditionals pass
on. `Holds R` is one; a judgment that looks at the whole run, such as an order
of its effects, is another. -/
structure Follows (R : World → World → Prop) (J : ∀ {α : Type}, Api α → Prop) : Prop where
  holds : ∀ {α : Type} {x : Api α}, Holds R x → J x
  bind : ∀ {α β : Type} {x : Api α} {f : α → Api β}, Holds R x → (∀ a, J (f a)) → J (x >>= f)
  ite : ∀ {α : Type} {c : Prop} [Decidable c] {x y : Api α}, J x → J y → J (if c then x else y)

/-- `reconcile` satisfies a judgment that follows `R` once its rotation, with
the requeue after it, does: everything before the rotation keeps `R`. -/
theorem reconcile_follows {J : ∀ {α : Type}, Api α → Prop} (hJ : Follows R J) (hT : EnvTracks E)
    (hens : ReqHolds E (ensureTrustSecrets lib spec)) (hq : ReqHolds E (selectLinkerdDataPlane spec))
    (hreread : ∀ v, R v { v with obj := v.cache })
    (hrot : J (rotate lib spec >>= fun _ => pure (⟨frequency⟩ : Result))) : J (reconcile lib spec) := by
  refine hJ.bind (hR.lift (.call hT)) fun _ => hJ.bind (.modify hreread) fun _ =>
    hJ.bind (hR.patch _ _) fun _ => hJ.bind (hR.setProgress _ _ _) fun _ =>
    hJ.bind (decideBundle_chains hR lib spec hens (loadAndInspectCMBundle_holds hT lib spec)) fun _ => ?_
  refine hJ.ite ?_ (hJ.holds (hR.pure _))
  refine hJ.ite (hJ.holds (hR.bind (dryRunPlan_chains hR lib spec hq) fun _ => hR.pure _))
    (hJ.bind (hR.pure _) fun _ => hJ.bind hR.get fun _ => ?_)
  dsimp only
  split
  · exact hJ.ite (hJ.holds (hR.bind (hR.emitEvent _ _) fun _ => hR.bind (hR.patch _ _) fun _ => hR.pure _))
      (hJ.bind (hR.pure _) fun _ => hrot)
  · exact hJ.bind (hR.pure _) fun _ => hrot

end

/-! ### The rotation and the reconcile -/

section
variable {E : Env → Env → Prop} {R : World → World → Prop} (hR : Chains E R) (hB : Benign E)
  (lib : Lib) (spec : LinkerdTrustRotationSpec)
include hR hB

theorem markFailed_chains (reason message : String) : Holds R (markFailed reason message) :=
  hR.bind (hR.lift hB.clock) fun _ => hR.patch _ _

theorem setRetry_chains (r : Option WorkRef) (c : Int) (e : String) : Holds R (setRetry r c e) :=
  hR.bind (.ite (hR.lift hB.clock) (hR.pure _)) fun _ => hR.patch _ _

theorem rolloutItems_chains (hash : String) (total : Int) : ∀ i ws, Holds R (rolloutItems lib spec hash total i ws)
  | _, [] => hR.pure _
  | i, _ :: rest =>
    hR.bind (hR.tryCatch (hR.bind (hR.lift (restartItem_benign hB lib _)) fun _ =>
        hR.bind (hR.lift (runProxyCheckIfEnabled_benign hB lib spec _ _ _)) fun _ =>
        hR.bind (hR.patch _ _) fun _ => hR.setProgress _ _ _)
      fun _ => hR.bind hR.get fun _ => hR.bind (setRetry_chains hR hB _ _ _) fun _ => hR.throw _)
      fun _ => rolloutItems_chains hash total (i + 1) rest

theorem restartLinkerdDataPlane_chains : Holds R (restartLinkerdDataPlane lib spec) := by
  refine hR.bind (hR.lift (selectLinkerdDataPlane_benign hB spec)) fun _ => ?_
  refine hR.bind (hR.patch _ _) fun _ => hR.bind ?_ fun _ => hR.bind (hR.setProgress _ _ _) fun _ =>
    hR.bind (rolloutItems_chains hR hB lib spec _ _ _ _) fun _ => hR.bind (hR.patch _ _) fun _ =>
    hR.bind (setRetry_chains hR hB _ _ _) fun _ => hR.patch _ _
  unfold resumeOrInit
  refine hR.bind hR.get fun _ => ?_
  split
  · exact .ite (hR.pure _) (hR.bind (hR.patch _ _) fun _ => hR.pure _)
  · exact hR.bind (hR.patch _ _) fun _ => hR.pure _

theorem failRotation_chains {x : Api Unit} (hx : Holds R x) : Holds R (failRotation x) :=
  hR.tryCatch hx fun _ => hR.bind (markFailed_chains hR hB _ _) fun _ => hR.throw _

theorem restartLinkerdControlPlane_chains : Holds R (restartLinkerdControlPlane lib spec) :=
  hR.bind (hR.lift (selectLinkerdControlPlane_holds hB.1 spec)) fun _ =>
    hR.bind (hR.patch _ _) fun _ => hR.bind (hR.setProgress _ _ _) fun _ =>
    hR.bind (hR.lift (restartDeployments_benign hB lib _)) fun _ =>
    hR.bind (hR.setProgress _ _ _) fun _ => hR.patch _ _

variable (hens : ReqHolds E (ensureTrustSecrets lib spec))
  (hdel : ∀ name, name = linkerdIdentityIssuerSecret ∨ name = spec.linkerd.previousTrustAnchorSecret →
    ReqHolds E (deleteSecrets spec name))
include hens hdel

theorem rotate_chains : Holds R (rotate lib spec) := by
  have dp := failRotation_chains hR hB (restartLinkerdDataPlane_chains hR hB lib spec)
  have succeeded : ∀ m, Holds R (markSucceeded m) := fun _ => hR.bind (hR.lift hB.clock) fun _ => hR.patch _ _
  refine hR.bind (hR.patch _ _) fun _ => hR.bind (hR.lift (waitWithPurpose_benign hB _ _)) fun _ =>
    hR.bind (hR.lift (hdel _ (.inl rfl))) fun _ =>
    hR.bind (failRotation_chains hR hB (restartLinkerdControlPlane_chains hR hB lib spec)) fun _ =>
    hR.bind dp fun _ => hR.bind (hR.lift (hdel _ (.inr rfl))) fun _ => ?_
  exact .ite (hR.bind (hR.lift (waitWithPurpose_benign hB _ _)) fun _ =>
      hR.bind (.discard (hR.lift hens)) fun _ => hR.bind dp fun _ => succeeded _) (succeeded _)

/-- `reconcile` keeps `R` once its re-read of the informer cache does, and
`EnsureTrustSecrets` and the two secret deletions keep `E`. -/
theorem reconcile_chains (hreread : ∀ v, R v { v with obj := v.cache }) : Holds R (reconcile lib spec) :=
  reconcile_follows hR lib spec ⟨id, hR.bind, .ite⟩ hB.1 hens (selectLinkerdDataPlane_benign hB spec) hreread
    (hR.bind (rotate_chains hR hB lib spec hens hdel) fun _ => hR.pure _)

end

end TrustRotator
