import TrustRotator.Controller

/-!
What every computation of the reconciler keeps.

A relation between worlds is tracked by the reconciler's writes
(`TracksPatches`) when it holds across every manager call, every effect the
reconciler logs and every status write other than `SetRetry` (whose mutators
leave the retries alone). Each function of the controller then keeps it, by
one lemma per function assembled from its callees'; the functions that write
`SetRetry` need it of `setRetry` as well. A reconcile keeps it when its
re-read of the informer cache does too, and a run when the informer catching
up and outside changes to the cluster do (`TracksWrites`).

Three relations are tracked: the log only grows (`Grows`), the server's
retry count stays (`KeepsCount`), and it stays unless a `SetRetry` write was
accepted (`CountBySetRetry`).
-/

namespace TrustRotator

open LinkerdTrustRotationStatus

/-! ### Reading the log -/

/-- The bundle state a reconcile decided on. -/
def Effect.observation : Effect → Option BundleState
  | .observed b => some b
  | _ => none

/-- The deletion of the secret `name`. -/
def Effect.deletesSecret (name : String) : Effect → Bool
  | .did (.secretDeleted _ n) => n == name
  | _ => false

/-- An accepted `SetRetry` write. -/
def Effect.isSetRetry : Effect → Bool
  | .statusPatched p _ => p == "SetRetry"
  | _ => false

/-! ### Tracked relations -/

/-- Kept by every effect and every status write other than `SetRetry`. -/
structure TracksPatches (R : World → World → Prop) extends Tracks R : Prop where
  observe : ∀ v b, R v { v with log := .observed b :: v.log }
  event : ∀ v r m, R v { v with log := .event r m :: v.log }
  patch : ∀ p m, p ≠ "SetRetry" → (∀ st, (m st).retries = st.retries) → Holds R (patch p m)

/-- Kept, besides, by the re-read at the start of a reconcile and by the steps
of a run between reconciles. -/
structure TracksWrites (R : World → World → Prop) extends TracksPatches R : Prop where
  reread : ∀ v, R v { v with obj := v.cache }
  sync : ∀ v, R v { v with cache := v.status }
  change : ∀ v c, R v { v with cluster := c }

section
variable {R : World → World → Prop} (hR : TracksPatches R) (lib : Lib) (spec : LinkerdTrustRotationSpec)
include hR

/-! ### The status writes -/

theorem setPhase_holds (phase reason message : Option String) :
    Holds R (setPhase phase reason message) :=
  hR.patch _ _ (by decide) fun _ => rfl

theorem setProgress_holds (cpReady : Bool) (current total : Option Int) :
    Holds R (setProgress cpReady current total) := by
  dsimp only [setProgress]; exact hR.patch _ _ (by decide) fun _ => rfl

theorem setTrustInfo_holds (b : Option BundleState) (currentFP previousFP : String) :
    Holds R (setTrustInfo b currentFP previousFP) :=
  hR.patch _ _ (by decide) fun _ => rfl

theorem setPlanHash_holds (r : Option WorkRef) (next total : Int) (hash : String) :
    Holds R (setPlanHash r next total hash) :=
  hR.patch _ _ (by decide) fun _ => rfl

theorem setDryRunOutput_holds (out : String) : Holds R (setDryRunOutput out) :=
  hR.patch _ _ (by decide) fun _ => rfl

theorem markSucceeded_holds (message : String) : Holds R (markSucceeded message) :=
  .bind hR.1 (.lift hR.1 _) fun _ => hR.patch _ _ (by decide) fun _ => rfl

theorem markFailed_holds (reason message : String) : Holds R (markFailed reason message) :=
  .bind hR.1 (.lift hR.1 _) fun _ => hR.patch _ _ (by decide) fun _ => rfl

theorem observe_holds (b : BundleState) : Holds R (emit (.observed b)) := .modify (hR.observe · b)

theorem event_holds (r m : String) : Holds R (emit (.event r m)) := .modify (hR.event · r m)

/-! ### The controller -/

theorem failRotation_holds {x : Api Unit} (hx : Holds R x) : Holds R (failRotation x) :=
  .tryCatch hR.1 hx fun _ => .bind hR.1 (markFailed_holds hR _ _) fun _ => .throw hR.1 _

theorem restartLinkerdControlPlane_holds : Holds R (restartLinkerdControlPlane lib spec) :=
  .bind hR.1 (.lift hR.1 _) fun _ => .bind hR.1 (setPhase_holds hR _ _ _) fun _ =>
    .bind hR.1 (setProgress_holds hR _ _ _) fun _ => .bind hR.1 (.lift hR.1 _) fun _ =>
      .bind hR.1 (setProgress_holds hR _ _ _) fun _ => setPhase_holds hR _ _ _

theorem resumeOrInit_holds (hash : String) (total : Int) : Holds R (resumeOrInit hash total) := by
  refine .bind hR.1 (.get hR.1) fun w => ?_
  have init : Holds R (setPlanHash none 0 total hash >>= fun _ => (Pure.pure 0 : Api Nat)) :=
    .bind hR.1 (setPlanHash_holds hR _ _ _ _) fun _ => .pure hR.1 _
  split
  · exact .ite (.pure hR.1 _) init
  · exact init

theorem decideBundle_holds : Holds R (decideBundle lib spec) := by
  have tail : ∀ b c p, Holds R (emit (.observed b) >>= fun _ => setTrustInfo (some b) c p >>= fun _ =>
      (Pure.pure b : Api BundleState)) := fun b c p =>
    .bind hR.1 (observe_holds hR _) fun _ => .bind hR.1 (setTrustInfo_holds hR _ _ _) fun _ => .pure hR.1 _
  unfold decideBundle
  refine .ite (.bind hR.1 (.lift hR.1 _) fun _ => tail _ _ _)
    (.ite (.bind hR.1 (.lift hR.1 _) fun r => ?_)
      (.ite (.bind hR.1 (.lift hR.1 _) fun _ => .bind hR.1 (.lift hR.1 _) fun _ => tail _ _ _)
        (.throw hR.1 _)))
  dsimp only
  split
  · exact .bind hR.1 (.pure hR.1 _) fun _ => tail _ _ _
  · exact .bind hR.1 (.pure hR.1 _) fun _ => tail _ _ _
  · exact .bind hR.1 (.throw hR.1 _) fun _ => tail _ _ _

theorem dryRunPlan_holds : Holds R (dryRunPlan lib spec) := by
  refine .bind hR.1 (.lift hR.1 _) fun q => ?_
  dsimp only
  split
  · exact .bind hR.1 (.pure hR.1 _) fun _ => setDryRunOutput_holds hR _
  · exact .bind hR.1 (.throw hR.1 _) fun _ => setDryRunOutput_holds hR _

theorem restartAndCleanUp_holds (hdp : Holds R (restartLinkerdDataPlane lib spec)) :
    Holds R (restartAndCleanUp lib spec) := by
  refine .bind hR.1 (failRotation_holds hR (restartLinkerdControlPlane_holds hR lib spec)) fun _ =>
    .bind hR.1 (failRotation_holds hR hdp) fun _ => .bind hR.1 (.lift hR.1 _) fun _ => ?_
  dsimp only
  exact .ite (.bind hR.1 (.lift hR.1 _) fun _ => .bind hR.1 (.discard (.lift hR.1 _)) fun _ =>
    .bind hR.1 (failRotation_holds hR hdp) fun _ => markSucceeded_holds hR _) (markSucceeded_holds hR _)

/-- `rotate` keeps what its status writes keep, given the data-plane restart does. -/
theorem rotate_holds (hdp : Holds R (restartLinkerdDataPlane lib spec)) : Holds R (rotate lib spec) :=
  .bind hR.1 (setPhase_holds hR _ _ _) fun _ => .bind hR.1 (.lift hR.1 _) fun _ =>
    .bind hR.1 (.lift hR.1 _) fun _ => restartAndCleanUp_holds hR lib spec hdp

theorem onBundle_holds (hrot : Holds R (rotate lib spec)) (b : BundleState) :
    Holds R (onBundle lib spec b) := by
  refine .ite ?_ (.pure hR.1 _)
  refine .ite (.bind hR.1 (dryRunPlan_holds hR lib spec) fun _ => .pure hR.1 _)
    (.bind hR.1 (.pure hR.1 _) fun _ => .bind hR.1 (.get hR.1) fun w => ?_)
  dsimp only
  split
  · exact .ite (.bind hR.1 (event_holds hR _ _) fun _ => .bind hR.1 (setPhase_holds hR _ _ _) fun _ =>
      .pure hR.1 _) (.bind hR.1 (.pure hR.1 _) fun _ => .bind hR.1 hrot fun _ => .pure hR.1 _)
  · exact .bind hR.1 (.pure hR.1 _) fun _ => .bind hR.1 hrot fun _ => .pure hR.1 _

end

section
variable {R : World → World → Prop} (hR : TracksWrites R) (lib : Lib) (spec : LinkerdTrustRotationSpec)
include hR

/-- `reconcile` keeps what its status writes keep, given `rotate` does. -/
theorem reconcile_holds (hrot : Holds R (rotate lib spec)) : Holds R (reconcile lib spec) :=
  have hT := hR.toTracks
  .bind hT (.lift hT _) fun _ => .bind hT (.modify hR.reread) fun _ =>
    .bind hT (setPhase_holds hR.1 _ _ _) fun _ => .bind hT (setProgress_holds hR.1 _ _ _) fun _ =>
    .bind hT (decideBundle_holds hR.1 lib spec) (onBundle_holds hR.1 lib spec hrot)

/-- A run keeps what its reconciles keep. -/
theorem run_holds (hrec : Holds R (reconcile lib spec)) (w : World) (steps : List Step) :
    R w (run lib spec w steps) :=
  run_rel hR.refl hR.trans steps (fun s _ v => by
    cases s with
    | reconcile => exact hrec _ _ _ (Prod.ext rfl rfl)
    | sync => exact hR.sync v
    | change f => exact hR.change v _) w

end

/-! ### The writes of `SetRetry` -/

section
variable {R : World → World → Prop} (hR : TracksPatches R)
  (hsr : ∀ r c e, Holds R (setRetry r c e)) (lib : Lib) (spec : LinkerdTrustRotationSpec)
include hR hsr

theorem recordFailure_holds (item : WorkItem) (cause : String) : Holds R (recordFailure item cause) :=
  .bind hR.1 (.get hR.1) fun _ => .bind hR.1 (hsr _ _ _) fun _ => .throw hR.1 _

theorem rolloutItems_holds (hash : String) (total : Int) (i : Nat) (ws : List WorkItem) :
    Holds R (rolloutItems lib spec hash total i ws) := by
  induction ws generalizing i with
  | nil => exact .pure hR.1 _
  | cons w rest ih =>
    refine .bind hR.1 (.tryCatch hR.1 ?_ (recordFailure_holds hR hsr w)) fun _ => ih _
    exact .bind hR.1 (.lift hR.1 _) fun _ => .bind hR.1 (.lift hR.1 _) fun _ =>
      .bind hR.1 (setPlanHash_holds hR _ _ _ _) fun _ => setProgress_holds hR _ _ _

theorem rolloutQueue_holds (q : List WorkItem) : Holds R (rolloutQueue lib spec q) :=
  .bind hR.1 (setPhase_holds hR _ _ _) fun _ => .bind hR.1 (resumeOrInit_holds hR _ _) fun _ =>
    .bind hR.1 (setProgress_holds hR _ _ _) fun _ => .bind hR.1 (rolloutItems_holds hR hsr lib spec _ _ _ _)
    fun _ => .bind hR.1 (setPhase_holds hR _ _ _) fun _ => .bind hR.1 (hsr _ _ _) fun _ =>
    setPlanHash_holds hR _ _ _ _

theorem restartLinkerdDataPlane_holds : Holds R (restartLinkerdDataPlane lib spec) :=
  .bind hR.1 (.lift hR.1 _) (rolloutQueue_holds hR hsr lib spec)

end

/-- `setRetry` keeps what its own status write keeps. -/
theorem setRetry_holds {R : World → World → Prop} (hR : Tracks R) (hp : ∀ m, Holds R (patch "SetRetry" m))
    (r : Option WorkRef) (c : Int) (e : String) : Holds R (setRetry r c e) :=
  .bind hR (.ite (.lift hR _) (.pure hR _)) fun _ => hp _

/-! ### The log only grows -/

def Grows (v v' : World) : Prop := v.log <:+ v'.log

theorem patch_grows (p : String) (m : LinkerdTrustRotationStatus → LinkerdTrustRotationStatus) :
    Holds Grows (patch p m) := fun _ _ _ h => by
  rcases patch_cases _ _ _ h with ⟨-, -, rfl⟩ | ⟨-, -, fs, rfl⟩ | ⟨-, -, fs, rfl⟩
  · exact List.suffix_refl _
  · exact List.suffix_refl _
  · exact List.suffix_cons _ _

theorem grows_tracks : TracksWrites Grows where
  refl _ := List.suffix_refl _
  trans h₁ h₂ := h₁.trans h₂
  lift _ _ := List.suffix_append _ _
  observe _ _ := List.suffix_cons _ _
  event _ _ _ := List.suffix_cons _ _
  reread _ := List.suffix_refl _
  patch p m _ _ := patch_grows p m
  sync _ := List.suffix_refl _
  change _ _ := List.suffix_refl _

theorem restartLinkerdDataPlane_grows (lib : Lib) (spec : LinkerdTrustRotationSpec) :
    Holds Grows (restartLinkerdDataPlane lib spec) :=
  restartLinkerdDataPlane_holds grows_tracks.1 (setRetry_holds grows_tracks.toTracks fun _ => patch_grows _ _)
    lib spec

theorem rotate_grows (lib : Lib) (spec : LinkerdTrustRotationSpec) : Holds Grows (rotate lib spec) :=
  rotate_holds grows_tracks.1 lib spec (restartLinkerdDataPlane_grows lib spec)

end TrustRotator
