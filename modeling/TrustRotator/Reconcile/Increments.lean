import TrustRotator.Reconcile.Tracks

/-!
No increment of the retry count is lost.

`recordFailure` writes the retry count of the reconciler's copy plus one, and
that copy starts out as whatever the informer cache handed out. The count it
writes is still the server's plus one. The rotation's first two phase writes
(`Detecting`, then `RollingCP`) cannot both be skipped, and the first the
server accepts replaces the copy by what the server stores. From then on every
write keeps the copy's retries equal to the server's (`Synced`), a failed
`SetRetry` apart, after which the reconcile writes no other `SetRetry`.

So over any run, whatever the cache lags, the server's count is the replay of
the accepted `SetRetry` writes (`replayCount`): each that names a failed item
adds one, each clearance sets it back to zero (`retries_count_since_clear`).
-/

namespace TrustRotator

open LinkerdTrustRotationStatus

/-! ### Replaying the retry writes -/

/-- The count `recordFailure` reads off a status: `0` without retries. -/
def retryCount (s : LinkerdTrustRotationStatus) : Int :=
  match s.retries with
  | some r => r.count
  | none => 0

/-- An accepted `SetRetry` write that names a failed item, as those of
`recordFailure` do. -/
def Effect.recordsFailure : Effect → Bool
  | .statusPatched p s => p == "SetRetry" && (s.retries.bind RetryStatus.lastFailed).isSome
  | _ => false

/-- An accepted `SetRetry` write that names no item: the clearance after a
completed rollout. -/
def Effect.clearsRetries : Effect → Bool
  | .statusPatched p s => p == "SetRetry" && (s.retries.bind RetryStatus.lastFailed).isNone
  | _ => false

/-- The count after `e`, from the count `c` before it. -/
def Effect.replay (e : Effect) (c : Int) : Int :=
  if e.clearsRetries then 0 else if e.recordsFailure then c + 1 else c

/-- The count a log (newest first) leaves on a server that held `c` before it. -/
def replayCount (c : Int) (log : List Effect) : Int := log.foldr Effect.replay c

theorem replayCount_append (c : Int) (pre log : List Effect) :
    replayCount c (pre ++ log) = replayCount (replayCount c log) pre :=
  List.foldr_append _ _ _ _

@[simp] theorem replayCount_map_did (c : Int) (as : List Action) : replayCount c (as.map .did) = c := by
  induction as with
  | nil => rfl
  | cons a as ih => exact ih

/-- With no clearance, the replay adds one per recorded failure. -/
theorem replayCount_of_no_clear {c : Int} {pre : List Effect} (h : ∀ e ∈ pre, e.clearsRetries = false) :
    replayCount c pre = c + pre.countP Effect.recordsFailure := by
  induction pre with
  | nil => simp [replayCount]
  | cons e pre ih =>
    rw [List.forall_mem_cons] at h
    rw [List.countP_cons, replayCount, List.foldr_cons, ← replayCount, ih h.2, Effect.replay, if_neg (by
      simp [h.1])]
    split <;> simp_all
    omega

/-- After the newest clearance, the count is the number of failures recorded since. -/
theorem replayCount_since_clear {c : Int} {fs rest : List Effect} {e : Effect} (he : e.clearsRetries)
    (hfs : ∀ e' ∈ fs, e'.clearsRetries = false) :
    replayCount c (fs ++ e :: rest) = fs.countP Effect.recordsFailure := by
  rw [replayCount_append, replayCount_of_no_clear hfs]
  simp [replayCount, Effect.replay, he]

theorem retryCount_of_retries {s s' : LinkerdTrustRotationStatus}
    (h : s'.retries = s.retries.map RetryStatus.norm) : retryCount s' = retryCount s := by
  unfold retryCount
  rw [h]
  cases s.retries <;> rfl

/-! ### The count stays sound -/

/-- The server's retry count is the replay, on the count it held in `v`, of
the log written since. -/
def CountSound (v v' : World) : Prop :=
  ∃ pre, v'.log = pre ++ v.log ∧ retryCount v'.status = replayCount (retryCount v.status) pre

theorem CountSound.refl (v : World) : CountSound v v := ⟨[], rfl, rfl⟩

theorem CountSound.trans {v₁ v₂ v₃ : World} (h₁ : CountSound v₁ v₂) (h₂ : CountSound v₂ v₃) :
    CountSound v₁ v₃ := by
  obtain ⟨pre₁, hl₁, hc₁⟩ := h₁
  obtain ⟨pre₂, hl₂, hc₂⟩ := h₂
  exact ⟨pre₂ ++ pre₁, by rw [hl₂, hl₁, List.append_assoc], by rw [hc₂, hc₁, replayCount_append]⟩

/-- A status write other than `SetRetry` that leaves the retries alone keeps
the count sound. -/
theorem patch_countSound {p : String} {m : LinkerdTrustRotationStatus → LinkerdTrustRotationStatus}
    (hp : p ≠ "SetRetry") (hm : ∀ st, (m st).retries = st.retries) : Holds CountSound (patch p m) :=
  fun _ _ _ h => by
  rcases patch_cases _ _ _ h with ⟨-, -, rfl⟩ | ⟨-, -, fs, rfl⟩ | ⟨-, -, fs, rfl⟩
  · exact .refl _
  · exact ⟨[], rfl, rfl⟩
  · refine ⟨[_], rfl, ?_⟩
    simp only [replayCount, List.foldr_cons, List.foldr_nil, Effect.replay, Effect.clearsRetries,
      Effect.recordsFailure, Bool.and_eq_true, beq_iff_eq, hp, false_and, if_false]
    refine retryCount_of_retries (applyPatch_retries_frame ?_)
    simp [stamped, hm]

theorem countSound_tracks : TracksWrites CountSound where
  refl := .refl
  trans := .trans
  lift _ e := ⟨e.actions.map .did, rfl, (replayCount_map_did _ _).symm⟩
  observe _ _ := ⟨[_], rfl, rfl⟩
  event _ _ _ := ⟨[_], rfl, rfl⟩
  patch _ _ hp hm := patch_countSound hp hm
  reread _ := .refl _
  sync _ := .refl _
  change _ _ := .refl _

/-! ### The reconciler's copy of the retries -/

/-- The reconciler's copy holds the server's retries. -/
def Synced (v : World) : Prop := v.obj.retries = v.status.retries

theorem Synced.of_obj {v : World} (h : v.obj = v.status) : Synced v := congrArg _ h

/-- A status write that leaves the retries alone keeps them synced, whatever
its outcome. -/
theorem patch_synced {p : String} {m : LinkerdTrustRotationStatus → LinkerdTrustRotationStatus}
    (hm : ∀ st, (m st).retries = st.retries) : Holds (fun v v' => Synced v → Synced v') (patch p m) :=
  fun _ _ _ h hs => by
  rcases patch_cases _ _ _ h with ⟨-, -, rfl⟩ | ⟨-, -, fs, rfl⟩ | ⟨-, -, fs, rfl⟩
  · exact hs
  · exact (hm _).trans hs
  · rfl

/-- A write that succeeded either changed nothing or left the copy equal to
what the server stores. -/
theorem patch_ok {p : String} {m : LinkerdTrustRotationStatus → LinkerdTrustRotationStatus} {v v' : World}
    (h : (patch p m).exec v = (.ok (), v')) :
    (v' = v ∧ statusEqual v.obj (m v.obj)) ∨ v'.obj = v'.status := by
  rcases patch_cases _ _ _ h with ⟨he, -, rfl⟩ | ⟨-, ⟨e, he⟩, -⟩ | ⟨-, -, fs, rfl⟩
  · exact .inl ⟨rfl, he⟩
  · cases he
  · exact .inr rfl

/-- A phase write that succeeded either found the phase already set or left
the copy equal to what the server stores. -/
theorem setPhase_ok {ph : String} {r msg : Option String} {v v' : World}
    (h : (setPhase (some ph) r msg).exec v = (.ok (), v')) :
    (v' = v ∧ v.obj.phase = some ph) ∨ Synced v' :=
  (patch_ok h).imp (fun ⟨hv, he⟩ => ⟨hv, congrArg phase (statusEqual_iff.1 he)⟩) Synced.of_obj

/-- The count stays sound and synced retries stay so. -/
def CountKept (v v' : World) : Prop := CountSound v v' ∧ (Synced v → Synced v')

theorem countKept_tracks : TracksPatches CountKept where
  refl v := ⟨.refl v, id⟩
  trans h₁ h₂ := ⟨h₁.1.trans h₂.1, h₂.2 ∘ h₁.2⟩
  lift v e := ⟨countSound_tracks.lift v e, id⟩
  observe v b := ⟨countSound_tracks.observe v b, id⟩
  event v r m := ⟨countSound_tracks.event v r m, id⟩
  patch _ _ hp hm _ _ _ h := ⟨patch_countSound hp hm _ _ _ h, patch_synced hm _ _ _ h⟩

theorem Synced.retryCount {v : World} (hs : Synced v) : retryCount v.obj = retryCount v.status := by
  unfold TrustRotator.retryCount
  rw [hs]

/-! ### Runs from a precondition -/

/-- `Guarded P Q x`: a run of `x` from a world satisfying `P` keeps the count
sound, and one that succeeds ends in a world satisfying `Q`. -/
structure Guarded (P Q : World → Prop) {α : Type} (x : Api α) : Prop where
  sound : ∀ v r v', x.exec v = (r, v') → P v → CountSound v v'
  post : ∀ v a v', x.exec v = (.ok a, v') → P v → Q v'

namespace Guarded

variable {P P' Q S : World → Prop} {α β : Type}

theorem of_holds {x : Api α} (hx : Holds CountKept x) : Guarded Synced Synced x where
  sound v r v' h _ := (hx v r v' h).1
  post v _ v' h := (hx v _ v' h).2

theorem weaken {x : Api α} (hP : ∀ v, P' v → P v) (hx : Guarded P Q x) : Guarded P' Q x where
  sound v r v' h hp := hx.sound v r v' h (hP v hp)
  post v a v' h hp := hx.post v a v' h (hP v hp)

theorem pure (a : α) : Guarded P P (Pure.pure a : Api α) where
  sound := fun v r v' h _ => Holds.pure countSound_tracks.toTracks a v r v' h
  post v _ v' h hp := by rw [Prog.exec_pure] at h; rwa [← (Prod.mk.inj h).2]

theorem throw (e : String) : Guarded P Q (MonadExcept.throw e : Api α) where
  sound := fun v r v' h _ => Holds.throw countSound_tracks.toTracks e v r v' h
  post v _ v' h := by rw [Prog.exec_throw] at h; cases (Prod.mk.inj h).1

theorem bind {x : Api α} {f : α → Api β} (hx : Guarded P Q x) (hf : ∀ a, Guarded Q S (f a)) :
    Guarded P S (x >>= f) where
  sound v r v' h hp := by
    obtain ⟨v₁, ⟨e, h₁, -, rfl⟩ | ⟨a, h₁, h₂⟩⟩ := Prog.exec_bind_cases h
    · exact hx.sound _ _ _ h₁ hp
    · exact (hx.sound _ _ _ h₁ hp).trans ((hf a).sound _ _ _ h₂ (hx.post _ _ _ h₁ hp))
  post v _ v' h hp := by
    obtain ⟨a, v₁, h₁, h₂⟩ := Prog.exec_bind_ok h
    exact (hf a).post _ _ _ h₂ (hx.post _ _ _ h₁ hp)

theorem ite {c : Prop} [Decidable c] {x y : Api α} (hx : Guarded P Q x) (hy : Guarded P Q y) :
    Guarded P Q (if c then x else y) := by
  split
  · exact hx
  · exact hy

theorem lift (hP : ∀ v e, P v → P (v.withEnv e)) (x : Req α) : Guarded P P x.lift where
  sound := fun v r v' h _ => Holds.lift countSound_tracks.toTracks x v r v' h
  post v _ v' h hp := by rw [exec_lift] at h; exact (Prod.mk.inj h).2 ▸ hP _ _ hp

/-- A body that keeps synced retries on every exit, and a handler that needs them. -/
theorem tryCatch {x : Api α} {c : String → Api α} (hx : Holds CountKept x)
    (hc : ∀ e, Guarded Synced Synced (c e)) : Guarded Synced Synced (tryCatch x c) where
  sound v r v' h hs := by
    rcases Prog.exec_tryCatch_cases h with ⟨_, h₁, rfl⟩ | ⟨e, v₁, h₁, h₂⟩
    · exact (hx _ _ _ h₁).1
    · exact (hx _ _ _ h₁).1.trans ((hc e).sound _ _ _ h₂ ((hx _ _ _ h₁).2 hs))
  post v _ v' h hs := by
    rcases Prog.exec_tryCatch_cases h with ⟨_, h₁, -⟩ | ⟨e, v₁, h₁, h₂⟩
    · exact (hx _ _ _ h₁).2 hs
    · exact (hc e).post _ _ _ h₂ ((hx _ _ _ h₁).2 hs)

end Guarded

/-- `failRotation` succeeds only when its rotation step does. -/
theorem failRotation_ok {x : Api Unit} {v v' : World} (h : (failRotation x).exec v = (.ok (), v')) :
    x.exec v = (.ok (), v') := by
  rcases Prog.exec_tryCatch_cases h with ⟨_, h₁, -⟩ | ⟨e, v₁, -, h₂⟩
  · exact h₁
  · obtain ⟨_, _, -, h₃⟩ := Prog.exec_bind_ok h₂
    rw [Prog.exec_throw] at h₃
    cases (Prod.mk.inj h₃).1

theorem Guarded.failRotation {x : Api Unit} {P Q : World → Prop} (hx : Guarded P Q x) :
    Guarded P Q (failRotation x) where
  sound v r v' h hp := by
    rcases Prog.exec_tryCatch_cases h with ⟨_, h₁, rfl⟩ | ⟨e, v₁, h₁, h₂⟩
    · exact hx.sound _ _ _ h₁ hp
    · have hT := countSound_tracks.toTracks
      exact (hx.sound _ _ _ h₁ hp).trans
        ((Holds.bind hT (markFailed_holds countSound_tracks.1 _ _) fun _ => .throw hT _) _ _ _ h₂)
  post v _ v' h hp := hx.post _ _ _ (failRotation_ok h) hp

/-! ### The `SetRetry` writes -/

/-- A `SetRetry` write from synced retries keeps the count sound when it writes
the server's count plus one naming an item, or zero naming none. -/
theorem patch_retries_guarded (rs : RetryStatus) :
    Guarded (fun v => Synced v ∧ rs.count = if rs.lastFailed.isSome then retryCount v.status + 1 else 0)
      Synced (patch "SetRetry" fun st => { st with retries := some rs }) where
  sound v _ v' h := fun ⟨hs, hc⟩ => by
    rcases patch_cases _ _ _ h with ⟨-, -, rfl⟩ | ⟨-, -, fs, rfl⟩ | ⟨-, -, fs, rfl⟩
    · exact .refl _
    · exact ⟨[], rfl, rfl⟩
    · refine ⟨[_], rfl, ?_⟩
      have hr : (applyPatch v.status v.obj (stamped (fun st => { st with retries := some rs }) v)).retries =
          some rs.norm :=
        applyPatch_retries_fresh hs.symm
      cases hf : rs.lastFailed <;> rw [hf] at hc <;>
        simp [replayCount, Effect.replay, Effect.clearsRetries, Effect.recordsFailure, retryCount, hr,
          RetryStatus.norm, hf, hc]
  post _ _ _ h := fun ⟨hs, _⟩ => (patch_ok h).elim (fun ⟨hv, _⟩ => hv ▸ hs) Synced.of_obj

theorem setRetry_guarded (r : Option WorkRef) (c : Int) (e : String) :
    Guarded (fun v => Synced v ∧ c = if r.isSome then retryCount v.status + 1 else 0) Synced
      (setRetry r c e) :=
  .bind (.ite (.lift (fun _ _ => id) _) (.pure _)) fun t => patch_retries_guarded ⟨c, e, r, some t⟩

theorem exec_recordFailure (item : WorkItem) (cause : String) (v : World) :
    (recordFailure item cause).exec v =
      (setRetry (some item.ref) (retryCount v.obj + 1) cause >>= fun _ => throw cause).exec v := by
  rw [recordFailure, Prog.exec_bind, Prog.exec_get]
  rfl

/-- `recordFailure` reads the count off the reconciler's copy; from synced
retries that is the server's. -/
theorem recordFailure_guarded (item : WorkItem) (cause : String) :
    Guarded Synced Synced (recordFailure item cause) :=
  have g : ∀ v : World, Guarded (fun v' => Synced v' ∧ retryCount v.obj + 1 =
      if (some item.ref).isSome then retryCount v'.status + 1 else 0) Synced
      (setRetry (some item.ref) (retryCount v.obj + 1) cause >>= fun _ => throw cause) :=
    fun _ => .bind (setRetry_guarded _ _ _) fun _ => .throw _
  { sound := fun v r v' h hs =>
      (g v).sound v r v' (exec_recordFailure item cause v ▸ h) ⟨hs, by rw [hs.retryCount]; rfl⟩
    post := fun v a v' h hs =>
      (g v).post v a v' (exec_recordFailure item cause v ▸ h) ⟨hs, by rw [hs.retryCount]; rfl⟩ }

/-! ### The data plane -/

section
variable (lib : Lib) (spec : LinkerdTrustRotationSpec)

theorem rolloutItems_guarded (hash : String) (total : Int) (i : Nat) (ws : List WorkItem) :
    Guarded Synced Synced (rolloutItems lib spec hash total i ws) := by
  have hT := countKept_tracks.toTracks
  induction ws generalizing i with
  | nil => exact .pure _
  | cons w rest ih =>
    refine .bind (.tryCatch ?_ (recordFailure_guarded w)) fun _ => ih _
    exact .bind hT (.lift hT _) fun _ => .bind hT (.lift hT _) fun _ =>
      .bind hT (setPlanHash_holds countKept_tracks _ _ _ _) fun _ => setProgress_holds countKept_tracks _ _ _

theorem restartLinkerdDataPlane_guarded : Guarded Synced Synced (restartLinkerdDataPlane lib spec) :=
  have hT := countKept_tracks.toTracks
  .bind (.of_holds (.lift hT _)) fun _ =>
    .bind (.of_holds (setPhase_holds countKept_tracks _ _ _)) fun _ =>
    .bind (.of_holds (resumeOrInit_holds countKept_tracks _ _)) fun _ =>
    .bind (.of_holds (setProgress_holds countKept_tracks _ _ _)) fun _ =>
    .bind (rolloutItems_guarded lib spec _ _ _ _) fun _ =>
    .bind (.of_holds (setPhase_holds countKept_tracks _ _ _)) fun _ =>
    .bind ((setRetry_guarded _ _ _).weaken fun _ hs => ⟨hs, rfl⟩) fun _ =>
    .of_holds (setPlanHash_holds countKept_tracks _ _ _ _)

/-! ### The control plane and the rotation -/

/-- Synced retries, or a copy whose phase a write of `ph` changes. -/
def SyncedOr (ph : String) (v : World) : Prop := Synced v ∨ v.obj.phase ≠ some ph

/-- A write of the phase `ph` that succeeds leaves the retries synced. -/
theorem setPhase_guarded (ph : String) (r msg : Option String) :
    Guarded (SyncedOr ph) Synced (setPhase (some ph) r msg) where
  sound v r v' h _ := setPhase_holds countSound_tracks.1 _ _ _ v r v' h
  post _ _ _ h hp := (setPhase_ok h).elim (fun ⟨hv, hph⟩ => hv ▸ hp.resolve_right (not_not_intro hph)) id

/-- A write of the phase `ph` that succeeds leaves the retries synced or the
phase `ph`, which a write of another phase `ph'` changes. -/
theorem setPhase_syncedOr {ph ph' : String} (hne : ph ≠ ph') (r msg : Option String) :
    Guarded (fun _ => True) (SyncedOr ph') (setPhase (some ph) r msg) where
  sound v r v' h _ := setPhase_holds countSound_tracks.1 _ _ _ v r v' h
  post _ _ _ h _ := (setPhase_ok h).elim (fun ⟨hv, hph⟩ => hv ▸ .inr fun h' => hne (by
    rw [hph] at h'; exact Option.some.inj h')) .inl

theorem restartLinkerdControlPlane_guarded :
    Guarded (SyncedOr Phase.rollingCP) Synced (restartLinkerdControlPlane lib spec) :=
  have hT := countKept_tracks.toTracks
  .bind (.lift (fun _ _ => id) _) fun _ => .bind (setPhase_guarded _ _ _) fun _ =>
    .bind (.of_holds (setProgress_holds countKept_tracks _ _ _)) fun _ => .bind (.of_holds (.lift hT _)) fun _ =>
    .bind (.of_holds (setProgress_holds countKept_tracks _ _ _)) fun _ =>
    .of_holds (setPhase_holds countKept_tracks _ _ _)

theorem restartAndCleanUp_guarded :
    Guarded (SyncedOr Phase.rollingCP) Synced (restartAndCleanUp lib spec) := by
  have hT := countKept_tracks.toTracks
  refine .bind (.failRotation (restartLinkerdControlPlane_guarded lib spec)) fun _ =>
    .bind (.failRotation (restartLinkerdDataPlane_guarded lib spec)) fun _ =>
    .bind (.of_holds (.lift hT _)) fun _ => ?_
  dsimp only
  exact .ite (.bind (.of_holds (.lift hT _)) fun _ => .bind (.of_holds (.discard (.lift hT _))) fun _ =>
    .bind (.failRotation (restartLinkerdDataPlane_guarded lib spec)) fun _ =>
      .of_holds (markSucceeded_holds countKept_tracks _))
    (.of_holds (markSucceeded_holds countKept_tracks _))

/-- From any world, a rotation keeps the count sound. -/
theorem rotate_countSound : Holds CountSound (rotate lib spec) := fun v r v' h =>
  (Guarded.bind (setPhase_syncedOr (by decide) _ _) fun _ => .bind (.lift (fun _ _ => id) _) fun _ =>
    .bind (.lift (fun _ _ => id) _) fun _ => restartAndCleanUp_guarded lib spec).sound v r v' h trivial

end

/-! ### Runs -/

/-- Over any run, under any outcome of every request and whatever the informer
cache hands to each reconcile, the server's retry count is the number of
failures recorded since the newest clearance, or, when the run cleared none,
the count it started from plus the failures recorded since. -/
theorem retries_count_since_clear (lib : Lib) (spec : LinkerdTrustRotationSpec) (w : World)
    (steps : List Step) :
    ∃ pre, (run lib spec w steps).log = pre ++ w.log ∧
      ((∀ e ∈ pre, e.clearsRetries = false) →
        retryCount (run lib spec w steps).status = retryCount w.status + pre.countP Effect.recordsFailure) ∧
      ∀ fs e rest, pre = fs ++ e :: rest → e.clearsRetries = true → (∀ e' ∈ fs, e'.clearsRetries = false) →
        retryCount (run lib spec w steps).status = fs.countP Effect.recordsFailure := by
  obtain ⟨pre, hl, hc⟩ := run_holds countSound_tracks lib spec
    (reconcile_holds countSound_tracks lib spec (rotate_countSound lib spec)) w steps
  refine ⟨pre, hl, fun h => by rw [hc, replayCount_of_no_clear h], fun fs e rest hpre he hfs => ?_⟩
  rw [hc, hpre, replayCount_since_clear he hfs]

end TrustRotator
