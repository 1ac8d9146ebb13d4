import TrustRotator.Rollout.Completed

/-!
The resume cursor of the data-plane rollout.

`CursorSound pods P c log`: the cursor `c` names a plan of `P` by its hash,
with `0 ≤ next ≤ total` and `total` the plan's length, and the part of the log
written since the cursor of that hash was last set back to `next = 0` shows the
plan's first `next` items completed, in order (`Ran`): each restarted, its
rollout waited for and its proxy check run, a stateful set restarted by
deletion having deleted every pod of `pods` it selects. Every status a run of
data-plane rollouts reaches keeps it, for the pods of the run's first cluster,
and a rollout that succeeds has completed its whole plan since that reset
(`rolloutRun_cursorSound`).

The proof reads each part of `rolloutQueue` once: the computations that leave
the cursor alone (`Frame`), the cursor writes (`setPlanHash_cases`), one item
of the loop (`rolloutItem_spec`), the loop (`rolloutItems_spec`), the resume
decision (`resumeOrInit_spec`) and one rollout (`rolloutQueue_spec`).
-/

namespace TrustRotator

open LinkerdTrustRotationStatus

/-! ### Resets, and completed items in the log -/

/-- A status write that sets the cursor of `H` back to `next = 0`. -/
def Effect.resets (H : String) : Effect → Bool
  | .statusPatched p s => p == "SetPlanHash" && s.cursor.any fun c => c.planHash == H && c.next == 0
  | _ => false

def Effect.isStatusPatch : Effect → Bool
  | .statusPatched _ _ => true
  | _ => false

@[simp] theorem Effect.resets_did (H : String) (a : Action) : (Effect.did a).resets H = false := rfl

/-- The log written since the cursor of `H` was last set back to `0`. -/
def sinceReset (H : String) (log : List Effect) : List Effect :=
  log.takeWhile fun e => !e.resets H

theorem sinceReset_append {H : String} {pre log : List Effect} (h : ∀ e ∈ pre, e.resets H = false) :
    sinceReset H (pre ++ log) = pre ++ sinceReset H log :=
  List.takeWhile_append_of_pos (by simpa using h)

theorem sinceReset_cons {H : String} {e : Effect} {log : List Effect} (h : e.resets H = false) :
    sinceReset H (e :: log) = e :: sinceReset H log := by
  simp [sinceReset, List.takeWhile_cons, h]

/-- `Ran lib spec pods log ws`: the log, newest first, holds a completion of
each item of `ws` (its restart and wait in a cluster whose pods are `pods`,
then its proxy check), in the order of `ws`, among other effects. -/
inductive Ran (lib : Lib) (spec : LinkerdTrustRotationSpec) (pods : List Pod) :
    List Effect → List WorkItem → Prop
  | nil (log : List Effect) : Ran lib spec pods log []
  | skip (e : Effect) {log : List Effect} {ws : List WorkItem} :
      Ran lib spec pods log ws → Ran lib spec pods (e :: log) ws
  | item {log : List Effect} {ws : List WorkItem} (w : WorkItem) {ra ca : List Action} :
      Ran lib spec pods log ws → Restarted pods w ra → Checked lib spec w ca →
      Ran lib spec pods ((ca ++ ra).map .did ++ log) (ws ++ [w])

variable {lib : Lib} {spec : LinkerdTrustRotationSpec} {pods : List Pod}

theorem Ran.append_left {log : List Effect} {ws : List WorkItem} (pre : List Effect)
    (h : Ran lib spec pods log ws) : Ran lib spec pods (pre ++ log) ws := by
  induction pre with
  | nil => exact h
  | cons e pre ih => exact .skip e ih

/-- The cursor invariant, for the plans `P` a run rolls out in a cluster whose
pods are `pods`. -/
def CursorSound (lib : Lib) (spec : LinkerdTrustRotationSpec) (pods : List Pod)
    (P : List (List WorkItem)) (cursor : Option RolloutCursor) (log : List Effect) : Prop :=
  ∀ c, cursor = some c → ∃ p ∈ P, planHash lib p = c.planHash ∧ c.total = p.length ∧
    0 ≤ c.next ∧ c.next ≤ c.total ∧ Ran lib spec pods (sinceReset c.planHash log) (p.take c.next.toNat)

/-- A rollout of `q` that succeeded: the whole plan ran since the last reset
of its hash, before the final status writes. -/
def Completed (lib : Lib) (spec : LinkerdTrustRotationSpec) (pods : List Pod) (q : List WorkItem)
    (log : List Effect) : Prop :=
  ∃ pre mid, log = pre ++ mid ∧ (∀ e ∈ pre, e.isStatusPatch) ∧
    Ran lib spec pods (sinceReset (planHash lib q) mid) q

/-- The invariant of a run of rollouts: the cluster's pods are `pods`, and the
cursor is sound. -/
def RunSound (lib : Lib) (spec : LinkerdTrustRotationSpec) (pods : List Pod) (P : List (List WorkItem))
    (v : World) : Prop :=
  v.cluster.pods = pods ∧ CursorSound lib spec pods P v.status.cursor v.log

/-! ### Computations that leave the cursor alone -/

/-- `v'` has the cursor and the pods of `v`, and a log that extends `v`'s with
no reset. -/
def Keeps (v v' : World) : Prop :=
  v'.status.cursor = v.status.cursor ∧ v'.cluster.pods = v.cluster.pods ∧
    ∃ pre, v'.log = pre ++ v.log ∧ ∀ e ∈ pre, ∀ H, e.resets H = false

theorem Keeps.refl (v : World) : Keeps v v := ⟨rfl, rfl, [], rfl, by simp⟩

theorem Keeps.trans {v₁ v₂ v₃ : World} (h₁ : Keeps v₁ v₂) (h₂ : Keeps v₂ v₃) : Keeps v₁ v₃ := by
  obtain ⟨hc₁, hp₁, pre₁, hl₁, hr₁⟩ := h₁
  obtain ⟨hc₂, hp₂, pre₂, hl₂, hr₂⟩ := h₂
  exact ⟨hc₂.trans hc₁, hp₂.trans hp₁, pre₂ ++ pre₁, by rw [hl₂, hl₁, List.append_assoc],
    fun e he => (List.mem_append.1 he).elim (hr₂ e) (hr₁ e)⟩

/-- A manager's actions reset no cursor, so a manager that keeps the pods
keeps `Keeps`. -/
theorem Keeps.lift {α : Type} {x : Req α} (hx : ReqHolds KeepsPods x) : Holds Keeps x.lift :=
  fun v _ _ h => by
    rw [exec_lift] at h
    rw [← (Prod.mk.inj h).2]
    exact ⟨rfl, hx v.env (x.exec v.env).1 (x.exec v.env).2 rfl, _, rfl, by simp⟩

theorem RunSound.keep {P : List (List WorkItem)} {v v' : World}
    (h : RunSound lib spec pods P v) (hk : Keeps v v') : RunSound lib spec pods P v' := by
  obtain ⟨hp, h⟩ := h
  obtain ⟨hc, hp', pre, hl, hpre⟩ := hk
  refine ⟨hp'.trans hp, fun c hcv => ?_⟩
  obtain ⟨p, hp, hh, ht, h0, hn, hran⟩ := h c (hc.symm.trans hcv)
  refine ⟨p, hp, hh, ht, h0, hn, ?_⟩
  rw [hl, sinceReset_append fun e he => hpre e he _]
  exact hran.append_left pre

/-- `x` keeps the server's cursor and writes no reset, and when it succeeds
from a world whose copy is the server's status, its copy still is. -/
structure Frame {α : Type} (x : Api α) : Prop where
  keeps : Holds Keeps x
  sync : ∀ {v a v'}, x.exec v = (.ok a, v') → v.obj = v.status → v'.obj = v'.status

namespace Frame

variable {α β : Type}

theorem pure (a : α) : Frame (Pure.pure a : Api α) where
  keeps _ _ _ h := by rw [Prog.exec_pure] at h; exact (Prod.mk.inj h).2 ▸ Keeps.refl _
  sync h hs := by rw [Prog.exec_pure] at h; rwa [← (Prod.mk.inj h).2]

theorem throw (e : String) : Frame (MonadExcept.throw e : Api α) where
  keeps _ _ _ h := by rw [Prog.exec_throw] at h; exact (Prod.mk.inj h).2 ▸ Keeps.refl _
  sync h := by rw [Prog.exec_throw] at h; cases (Prod.mk.inj h).1

theorem get : Frame (MonadState.get : Api World) where
  keeps _ _ _ h := by rw [Prog.exec_get] at h; exact (Prod.mk.inj h).2 ▸ Keeps.refl _
  sync h hs := by rw [Prog.exec_get] at h; rwa [← (Prod.mk.inj h).2]

theorem bind {x : Api α} {f : α → Api β} (hx : Frame x) (hf : ∀ a, Frame (f a)) : Frame (x >>= f) where
  keeps _ _ _ h := by
    obtain ⟨v₁, ⟨e, h₁, -, rfl⟩ | ⟨a, h₁, h₂⟩⟩ := Prog.exec_bind_cases h
    · exact hx.keeps _ _ _ h₁
    · exact (hx.keeps _ _ _ h₁).trans ((hf a).keeps _ _ _ h₂)
  sync h hs := by
    obtain ⟨v₁, ⟨e, h₁, he, -⟩ | ⟨a, h₁, h₂⟩⟩ := Prog.exec_bind_cases h
    · cases he
    · exact (hf a).sync h₂ (hx.sync h₁ hs)

theorem ite {c : Prop} [Decidable c] {x y : Api α} (hx : Frame x) (hy : Frame y) :
    Frame (if c then x else y) := by
  split
  · exact hx
  · exact hy

/-- A manager never touches the status. -/
theorem lift {x : Req α} (hx : ReqHolds KeepsPods x) : Frame x.lift where
  keeps := Keeps.lift hx
  sync h hs := by rw [exec_lift] at h; rwa [← (Prod.mk.inj h).2]

/-- A status write of a mutator that keeps the cursor. -/
theorem patch {p : String} {m : LinkerdTrustRotationStatus → LinkerdTrustRotationStatus}
    (hm : ∀ st, (m st).cursor = st.cursor) (hp : p ≠ "SetPlanHash") : Frame (patch p m) where
  keeps _ _ _ h := by
    rcases patch_cases _ _ _ h with ⟨-, -, rfl⟩ | ⟨-, -, fs, rfl⟩ | ⟨-, -, fs, rfl⟩
    · exact .refl _
    · exact ⟨rfl, rfl, [], rfl, by simp⟩
    · exact ⟨applyPatch_cursor_frame (hm _).symm, rfl, [_], rfl, by simp [Effect.resets, hp]⟩
  sync h hs := by
    rcases patch_cases _ _ _ h with ⟨-, -, rfl⟩ | ⟨-, ⟨e, he⟩, -⟩ | ⟨-, -, fs, rfl⟩
    · exact hs
    · cases he
    · rfl

theorem setPhase (phase reason message : Option String) : Frame (setPhase phase reason message) :=
  patch (fun _ => rfl) (by decide)

theorem setProgress (cpReady : Bool) (current total : Option Int) :
    Frame (setProgress cpReady current total) := by
  dsimp only [TrustRotator.setProgress]
  exact patch (fun _ => rfl) (by decide)

theorem setRetry (workRef : Option WorkRef) (count : Int) (lastErr : String) :
    Frame (setRetry workRef count lastErr) := by
  unfold TrustRotator.setRetry
  exact bind (ite (lift keepsPods_benign.clock) (pure _)) fun _ => patch (fun _ => rfl) (by decide)

theorem recordFailure (item : WorkItem) (cause : String) : Frame (recordFailure item cause) :=
  bind get fun _ => bind (setRetry _ _ _) fun _ => throw _

end Frame

/-! ### Writing the cursor -/

section
variable {v v' : World}

theorem setPlanHash_cases {r : Option WorkRef} {n t : Int} {H : String} {res : Except String Unit}
    (hs : v.obj = v.status) (h : (setPlanHash r n t H).exec v = (res, v')) :
    (res = .ok () ∧ v'.obj = v'.status ∧ v'.status.cursor = some ⟨H, n, t, r⟩ ∧
      v'.cluster = v.cluster ∧ (v'.log = v.log ∨ v'.log = .statusPatched "SetPlanHash" v'.status :: v.log)) ∨
    ((∃ e, res = .error e) ∧ Keeps v v') := by
  rcases patch_cases _ _ _ h with ⟨heq, rfl, rfl⟩ | ⟨-, he, fs, rfl⟩ | ⟨-, rfl, fs, rfl⟩
  · have hc := congrArg cursor (statusEqual_iff.1 heq)
    exact .inl ⟨rfl, hs, by rw [← hs]; exact hc, rfl, .inl rfl⟩
  · exact .inr ⟨he, rfl, rfl, [], rfl, by simp⟩
  · exact .inl ⟨rfl, rfl, applyPatch_cursor_fresh (congrArg cursor hs).symm, rfl, .inr rfl⟩

/-- A `Completed` log stays so under status writes. -/
theorem Completed.patch {q : List WorkItem} {p : String}
    {m : LinkerdTrustRotationStatus → LinkerdTrustRotationStatus} {res : Except String Unit}
    (hc : Completed lib spec pods q v.log) (h : (TrustRotator.patch p m).exec v = (res, v')) :
    Completed lib spec pods q v'.log := by
  obtain ⟨pre, mid, hl, hpre, hran⟩ := hc
  rcases patch_cases _ _ _ h with ⟨-, -, rfl⟩ | ⟨-, -, fs, rfl⟩ | ⟨-, -, fs, rfl⟩
  · exact ⟨pre, mid, hl, hpre, hran⟩
  · exact ⟨pre, mid, hl, hpre, hran⟩
  · refine ⟨_ :: pre, mid, by rw [hl]; rfl, ?_, hran⟩
    simpa [Effect.isStatusPatch] using hpre

theorem Completed.setRetry {q : List WorkItem} {workRef : Option WorkRef} {count : Int}
    {lastErr : String} {res : Except String Unit} (hc : Completed lib spec pods q v.log)
    (h : (TrustRotator.setRetry workRef count lastErr).exec v = (res, v')) :
    Completed lib spec pods q v'.log := by
  unfold TrustRotator.setRetry at h
  have hl : ∀ {a : Except String Time} {v₁ : World}, (if count > 0 ∧ lastErr.length > 0 then now.lift
      else Pure.pure ⟨0⟩ : Api Time).exec v = (a, v₁) → v₁.log = v.log := by
    intro a v₁ h₁
    split at h₁
    · rw [exec_lift_now] at h₁; rw [← (Prod.mk.inj h₁).2]
    · rw [Prog.exec_pure] at h₁; rw [← (Prod.mk.inj h₁).2]
  obtain ⟨v₁, ⟨e, h₁, -, rfl⟩ | ⟨_, h₁, h₂⟩⟩ := Prog.exec_bind_cases h
  · rwa [hl h₁]
  · exact Completed.patch (hl h₁ ▸ hc) h₂

end

/-! ### One item of the loop -/

/-- Inside the loop over `q`, before item `i`: the server's cursor is at `i`,
and the first `i` items have run since the last reset of `q`'s hash. -/
def AtItem (lib : Lib) (spec : LinkerdTrustRotationSpec) (pods : List Pod) (q : List WorkItem) (i : Nat)
    (v : World) : Prop :=
  i ≤ q.length ∧ (∃ r, v.status.cursor = some ⟨planHash lib q, i, q.length, r⟩) ∧ v.cluster.pods = pods ∧
    Ran lib spec pods (sinceReset (planHash lib q) v.log) (q.take i)

section
variable {q : List WorkItem} {i : Nat} {v v' : World}

theorem AtItem.keep (h : AtItem lib spec pods q i v) (hk : Keeps v v') : AtItem lib spec pods q i v' := by
  obtain ⟨hi, ⟨r, hc⟩, hp, hran⟩ := h
  obtain ⟨hc', hp', pre, hl, hpre⟩ := hk
  refine ⟨hi, ⟨r, hc'.trans hc⟩, hp'.trans hp, ?_⟩
  rw [hl, sinceReset_append fun e he => hpre e he _]
  exact hran.append_left pre

theorem AtItem.sound {P : List (List WorkItem)} (h : AtItem lib spec pods q i v) (hq : q ∈ P) :
    RunSound lib spec pods P v := by
  obtain ⟨hi, ⟨r, hc⟩, hp, hran⟩ := h
  refine ⟨hp, fun c hc' => ?_⟩
  obtain rfl := Option.some.inj (hc.symm.trans hc')
  exact ⟨q, hq, rfl, rfl, by dsimp only; omega, by dsimp only; omega, by simpa using hran⟩

/-- `bumpProgress` after item `i` completed: the cursor moves to `i + 1`, or
stays at `i` when its write fails. -/
theorem bumpProgress_spec {w : WorkItem} {r : Except String Unit} (hi : i < q.length)
    (h : AtItem lib spec pods q i v) (hran : Ran lib spec pods (sinceReset (planHash lib q) v.log) (q.take (i + 1)))
    (hs : v.obj = v.status) (hr : (bumpProgress (i + 1) q.length (planHash lib q) w).exec v = (r, v')) :
    (r = .ok () ∧ v'.obj = v'.status ∧ AtItem lib spec pods q (i + 1) v') ∨
    ((∃ e, r = .error e) ∧ (AtItem lib spec pods q i v' ∨ AtItem lib spec pods q (i + 1) v')) := by
  obtain ⟨v₁, ⟨e, h₁, rfl, rfl⟩ | ⟨_, h₁, h₂⟩⟩ := Prog.exec_bind_cases hr
  · rcases setPlanHash_cases hs h₁ with ⟨he, -⟩ | ⟨-, hk⟩
    · cases he
    · exact .inr ⟨⟨e, rfl⟩, .inl (h.keep hk)⟩
  rcases setPlanHash_cases hs h₁ with ⟨-, hs₁, hc, hcl, hl⟩ | ⟨⟨e, he⟩, -⟩
  · have h₁' : AtItem lib spec pods q (i + 1) v₁ := by
      refine ⟨hi, ⟨_, by rw [hc]; push_cast; rfl⟩, by rw [hcl]; exact h.2.2.1, ?_⟩
      rcases hl with hl | hl <;> rw [hl]
      · exact hran
      · rw [sinceReset_cons (by simp [Effect.resets, hc]; omega)]
        exact .skip _ hran
    have hk := (Frame.setProgress _ _ _).keeps _ _ _ h₂
    rcases r with e | ⟨⟩
    · exact .inr ⟨⟨e, rfl⟩, .inr (h₁'.keep hk)⟩
    · exact .inl ⟨rfl, (Frame.setProgress _ _ _).sync h₂ hs₁, h₁'.keep hk⟩
  · cases he

/-- `recordFailure` always ends with the error it records. -/
theorem recordFailure_not_ok {item : WorkItem} {cause : String} :
    (recordFailure item cause).exec v ≠ (.ok (), v') := by
  intro h
  obtain ⟨_, _, -, h⟩ := Prog.exec_bind_ok h
  obtain ⟨_, _, -, h⟩ := Prog.exec_bind_ok h
  simp at h

/-- One iteration of the loop, for item `i` of `q`. -/
theorem rolloutItem_spec {w : WorkItem} {r : Except String Unit} (hw : q[i]? = some w)
    (h : AtItem lib spec pods q i v) (hs : v.obj = v.status)
    (hr : (rolloutItem lib spec (planHash lib q) q.length i w).exec v = (r, v')) :
    (r = .ok () ∧ v'.obj = v'.status ∧ AtItem lib spec pods q (i + 1) v') ∨
    ((∃ e, r = .error e) ∧ (AtItem lib spec pods q i v' ∨ AtItem lib spec pods q (i + 1) v')) := by
  have hi : i < q.length := (List.getElem?_eq_some_iff.1 hw).1
  have body : ∀ {rb vb}, ((restartItem lib w).lift >>= fun _ =>
      (runProxyCheckIfEnabled lib spec w.ref w.getNamespace w.getName).lift >>= fun _ =>
        bumpProgress (i + 1) q.length (planHash lib q) w).exec v = (rb, vb) →
      (rb = .ok () ∧ vb.obj = vb.status ∧ AtItem lib spec pods q (i + 1) vb) ∨
      ((∃ e, rb = .error e) ∧ (AtItem lib spec pods q i vb ∨ AtItem lib spec pods q (i + 1) vb)) := by
    intro rb vb hb
    have fA := Frame.lift (restartItem_benign keepsPods_benign lib w)
    have fB := Frame.lift (runProxyCheckIfEnabled_benign keepsPods_benign lib spec w.ref w.getNamespace w.getName)
    obtain ⟨vA, ⟨e, hA, rfl, rfl⟩ | ⟨_, hA, hb⟩⟩ := Prog.exec_bind_cases hb
    · exact .inr ⟨⟨e, rfl⟩, .inl (h.keep (fA.keeps _ _ _ hA))⟩
    obtain ⟨vB, ⟨e, hB, rfl, rfl⟩ | ⟨_, hB, hC⟩⟩ := Prog.exec_bind_cases hb
    · exact .inr ⟨⟨e, rfl⟩, .inl ((h.keep (fA.keeps _ _ _ hA)).keep (fB.keeps _ _ _ hB))⟩
    have hkA := fA.keeps _ _ _ hA
    have hkB := fB.keeps _ _ _ hB
    obtain ⟨eA, hA', rfl⟩ := lift_ok hA
    obtain ⟨eB, hB', rfl⟩ := lift_ok hB
    obtain ⟨ra, hra, hla⟩ := restartItem_ok hA'
    obtain ⟨ca, hca, hlc⟩ := runProxyCheckIfEnabled_ok hB'
    refine bumpProgress_spec hi ((h.keep hkA).keep hkB) ?_ hs hC
    have hlog : ((v.withEnv eA).withEnv eB).log = (ca ++ ra).map .did ++ v.log := by
      simp [hla, hlc, World.env]
    rw [hlog, sinceReset_append fun e he => by obtain ⟨a, -, rfl⟩ := List.mem_map.1 he; rfl,
      List.take_succ, hw]
    rw [show v.env.cluster.pods = pods from h.2.2.1] at hra
    exact .item w h.2.2.2 hra hca
  rcases Prog.exec_tryCatch_cases hr with ⟨_, hb, rfl⟩ | ⟨e, v₁, hb, hf⟩
  · exact body hb
  · have hk := (Frame.recordFailure w e).keeps _ _ _ hf
    have herr : ∃ e', r = .error e' := by
      rcases r with e' | ⟨⟩
      · exact ⟨e', rfl⟩
      · exact absurd hf (recordFailure_not_ok)
    rcases body hb with ⟨he, -⟩ | ⟨-, h₁ | h₁⟩
    · cases he
    · exact .inr ⟨herr, .inl (h₁.keep hk)⟩
    · exact .inr ⟨herr, .inr (h₁.keep hk)⟩

/-- The loop from item `i`: it ends with the cursor past the last item, or
fails with the cursor at some item. -/
theorem rolloutItems_spec {ws : List WorkItem} {r : Except String Unit} (h : AtItem lib spec pods q i v)
    (hs : v.obj = v.status) (hd : q.drop i = ws)
    (hr : (rolloutItems lib spec (planHash lib q) q.length i ws).exec v = (r, v')) :
    (r = .ok () ∧ v'.obj = v'.status ∧ AtItem lib spec pods q q.length v') ∨
    ((∃ e, r = .error e) ∧ ∃ j, AtItem lib spec pods q j v') := by
  induction ws generalizing i v with
  | nil =>
    rw [rolloutItems, Prog.exec_pure] at hr
    obtain ⟨rfl, rfl⟩ := Prod.mk.inj hr
    obtain rfl : i = q.length := le_antisymm h.1 (List.drop_eq_nil_iff.1 hd)
    exact .inl ⟨rfl, hs, h⟩
  | cons w rest ih =>
    have hw : q[i]? = some w := by rw [← List.head?_drop, hd]; rfl
    have hd' : q.drop (i + 1) = rest := by rw [← List.drop_drop, hd]; rfl
    obtain ⟨v₁, ⟨e, h₁, rfl, rfl⟩ | ⟨_, h₁, h₂⟩⟩ := Prog.exec_bind_cases hr
    · rcases rolloutItem_spec hw h hs h₁ with ⟨he, -⟩ | ⟨-, h' | h'⟩
      · cases he
      · exact .inr ⟨⟨e, rfl⟩, i, h'⟩
      · exact .inr ⟨⟨e, rfl⟩, i + 1, h'⟩
    · rcases rolloutItem_spec hw h hs h₁ with ⟨-, hs₁, h'⟩ | ⟨⟨e, he⟩, -⟩
      · exact ih h' hs₁ hd' h₂
      · cases he

end

/-! ### One rollout, and runs of them -/

section
variable {P : List (List WorkItem)} {q : List WorkItem} {v v' : World}

/-- Where the loop starts: at the cursor's `next` when the cursor resumes `q`,
which by the invariant has run that far, else at `0` after a reset. -/
theorem resumeOrInit_spec {r : Except String Nat} (hq : q ∈ P)
    (hinj : ∀ p ∈ P, planHash lib p = planHash lib q → p = q)
    (hsound : RunSound lib spec pods P v) (hs : v.obj = v.status)
    (hr : (resumeOrInit (planHash lib q) q.length).exec v = (r, v')) :
    (∃ start, r = .ok start ∧ v'.obj = v'.status ∧ AtItem lib spec pods q start v') ∨
    ((∃ e, r = .error e) ∧ Keeps v v') := by
  have init : ∀ {r v'}, ((setPlanHash none 0 q.length (planHash lib q) >>= fun _ => Pure.pure 0) :
      Api Nat).exec v = (r, v') → (∃ start, r = .ok start ∧ v'.obj = v'.status ∧ AtItem lib spec pods q start v') ∨
      ((∃ e, r = .error e) ∧ Keeps v v') := by
    intro r v' h
    obtain ⟨v₁, ⟨e, h₁, rfl, rfl⟩ | ⟨_, h₁, h₂⟩⟩ := Prog.exec_bind_cases h
    · rcases setPlanHash_cases hs h₁ with ⟨he, -⟩ | ⟨-, hk⟩
      · cases he
      · exact .inr ⟨⟨e, rfl⟩, hk⟩
    · rw [Prog.exec_pure] at h₂
      obtain ⟨rfl, rfl⟩ := Prod.mk.inj h₂
      rcases setPlanHash_cases hs h₁ with ⟨-, hs₁, hc, hcl, -⟩ | ⟨⟨e, he⟩, -⟩
      · exact .inl ⟨0, rfl, hs₁, Nat.zero_le _, ⟨none, hc⟩, by rw [hcl]; exact hsound.1, .nil _⟩
      · cases he
  obtain ⟨v₁, ⟨e, h₁, -, -⟩ | ⟨_, h₁, h₂⟩⟩ := Prog.exec_bind_cases hr
  · cases (Prod.mk.inj h₁).1
  rw [Prog.exec_get] at h₁
  obtain ⟨⟨⟩, rfl⟩ := Prod.mk.inj h₁
  rw [hs] at h₂
  split at h₂
  · rename_i cur hcur
    split at h₂
    · rename_i hres
      rw [Prog.exec_pure] at h₂
      obtain ⟨rfl, rfl⟩ := Prod.mk.inj h₂
      obtain ⟨p, hp, hh, ht, h0, hn, hran⟩ := hsound.2 cur hcur
      obtain rfl := hinj p hp (hh.trans hres.1)
      refine .inl ⟨_, rfl, hs, by omega, ⟨cur.lastDone, ?_⟩, hsound.1, by rwa [← hres.1]⟩
      rw [hcur, Int.toNat_of_nonneg h0, ← hres.1, ← ht]
    · exact init h₂
  · exact init h₂

/-- One data-plane rollout of `q` keeps the invariant and, when it succeeds,
has completed all of `q` since the last reset of its hash. -/
theorem rolloutQueue_spec {r : Except String Unit} (hq : q ∈ P)
    (hinj : ∀ p ∈ P, planHash lib p = planHash lib q → p = q)
    (hsound : RunSound lib spec pods P v) (hs : v.obj = v.status)
    (hr : (rolloutQueue lib spec q).exec v = (r, v')) :
    RunSound lib spec pods P v' ∧ (r = .ok () → Completed lib spec pods q v'.log) := by
  unfold rolloutQueue at hr
  dsimp only at hr
  obtain ⟨v₁, ⟨e, h₁, rfl, rfl⟩ | ⟨_, h₁, hr⟩⟩ := Prog.exec_bind_cases hr
  · exact ⟨hsound.keep ((Frame.setPhase _ _ _).keeps _ _ _ h₁), nofun⟩
  have hs₁ := (Frame.setPhase _ _ _).sync h₁ hs
  replace hsound := hsound.keep ((Frame.setPhase _ _ _).keeps _ _ _ h₁)
  obtain ⟨v₂, ⟨e, h₂, rfl, rfl⟩ | ⟨start, h₂, hr⟩⟩ := Prog.exec_bind_cases hr
  · rcases resumeOrInit_spec hq hinj hsound hs₁ h₂ with ⟨_, he, -⟩ | ⟨-, hk⟩
    · cases he
    · exact ⟨hsound.keep hk, nofun⟩
  obtain ⟨_, ⟨⟩, hs₂, h₂'⟩ | ⟨⟨e, he⟩, -⟩ := resumeOrInit_spec hq hinj hsound hs₁ h₂
  swap
  · cases he
  -- the progress at the start
  obtain ⟨v₃, ⟨e, h₃, rfl, rfl⟩ | ⟨_, h₃, hr⟩⟩ := Prog.exec_bind_cases hr
  · exact ⟨(h₂'.keep ((Frame.setProgress _ _ _).keeps _ _ _ h₃)).sound hq, nofun⟩
  have h₃' := h₂'.keep ((Frame.setProgress _ _ _).keeps _ _ _ h₃)
  have hs₃ := (Frame.setProgress _ _ _).sync h₃ hs₂
  -- the loop
  obtain ⟨v₄, ⟨e, h₄, rfl, rfl⟩ | ⟨_, h₄, hr⟩⟩ := Prog.exec_bind_cases hr
  · rcases rolloutItems_spec h₃' hs₃ rfl h₄ with ⟨he, -⟩ | ⟨-, j, hj⟩
    · cases he
    · exact ⟨hj.sound hq, nofun⟩
  obtain ⟨-, hs₄, h₄'⟩ | ⟨⟨e, he⟩, -⟩ := rolloutItems_spec h₃' hs₃ rfl h₄
  swap
  · cases he
  have hc₄ : Completed lib spec pods q v₄.log := ⟨[], _, rfl, by simp, by simpa using h₄'.2.2.2⟩
  -- the final phase, retries and cursor
  obtain ⟨v₅, ⟨e, h₅, rfl, rfl⟩ | ⟨_, h₅, hr⟩⟩ := Prog.exec_bind_cases hr
  · exact ⟨(h₄'.keep ((Frame.setPhase _ _ _).keeps _ _ _ h₅)).sound hq, nofun⟩
  have h₅' := h₄'.keep ((Frame.setPhase _ _ _).keeps _ _ _ h₅)
  have hs₅ := (Frame.setPhase _ _ _).sync h₅ hs₄
  obtain ⟨v₆, ⟨e, h₆, rfl, rfl⟩ | ⟨_, h₆, hr⟩⟩ := Prog.exec_bind_cases hr
  · exact ⟨(h₅'.keep ((Frame.setRetry _ _ _).keeps _ _ _ h₆)).sound hq, nofun⟩
  have h₆' := h₅'.keep ((Frame.setRetry _ _ _).keeps _ _ _ h₆)
  have hs₆ := (Frame.setRetry _ _ _).sync h₆ hs₅
  refine ⟨?_, fun _ => ((hc₄.patch h₅).setRetry h₆).patch hr⟩
  rcases setPlanHash_cases hs₆ hr with ⟨-, -, hc, hcl, -⟩ | ⟨-, hk⟩
  · refine ⟨by rw [hcl]; exact h₆'.2.2.1, fun c hc' => ?_⟩
    obtain rfl := Option.some.inj (hc.symm.trans hc')
    exact ⟨q, hq, rfl, rfl, le_refl _, by dsimp only; omega, .nil _⟩
  · exact (h₆'.keep hk).sound hq

end

/-- Data-plane rollouts one after the other, each of its own plan and each
starting from the status as the server holds it. -/
def rolloutRun (lib : Lib) (spec : LinkerdTrustRotationSpec) : World → List (List WorkItem) → World
  | v, [] => v
  | v, q :: qs => rolloutRun lib spec ((rolloutQueue lib spec q).exec { v with obj := v.status }).2 qs

section
variable {P qs : List (List WorkItem)} {v : World}

theorem rolloutRun_sound (hinj : ∀ p ∈ P, ∀ p' ∈ P, planHash lib p = planHash lib p' → p = p')
    (hqs : ∀ q ∈ qs, q ∈ P) (h : RunSound lib spec pods P v) : RunSound lib spec pods P (rolloutRun lib spec v qs) := by
  induction qs generalizing v with
  | nil => exact h
  | cons q qs ih =>
    have hq := hqs q (List.mem_cons_self _ _)
    have h' : RunSound lib spec pods P { v with obj := v.status } := h
    exact ih (fun q' hq' => hqs q' (List.mem_cons_of_mem _ hq'))
      (rolloutQueue_spec hq (fun p hp => hinj p hp q hq) h' rfl rfl).1

/-- Over any run of data-plane rollouts of plans of `P` from a status without
a cursor, under any outcome of every request, the cursor stays sound for the
pods of the first cluster, and the next rollout, if it succeeds, has completed
its whole plan since the last reset of its hash. `planHash` is taken injective
on `P`. -/
theorem rolloutRun_cursorSound (hinj : ∀ p ∈ P, ∀ p' ∈ P, planHash lib p = planHash lib p' → p = p')
    (hqs : ∀ q ∈ qs, q ∈ P) (h0 : v.status.cursor = none) :
    CursorSound lib spec v.cluster.pods P (rolloutRun lib spec v qs).status.cursor (rolloutRun lib spec v qs).log ∧
    ∀ q ∈ P, ((rolloutQueue lib spec q).exec
        { rolloutRun lib spec v qs with obj := (rolloutRun lib spec v qs).status }).1 = .ok () →
      Completed lib spec v.cluster.pods q ((rolloutQueue lib spec q).exec
        { rolloutRun lib spec v qs with obj := (rolloutRun lib spec v qs).status }).2.log := by
  have hrun := rolloutRun_sound hinj hqs (⟨rfl, fun _ hc => Option.noConfusion (h0.symm.trans hc)⟩ : RunSound lib spec v.cluster.pods P v)
  refine ⟨hrun.2, fun q hq hok => (rolloutQueue_spec hq (fun p hp => hinj p hp q hq) ?_ rfl rfl).2 hok⟩
  exact hrun

end

/-- A run of two rollouts of one stateful set of `db` restarted by deleting
its pods, in a cluster holding one of them. -/
theorem rolloutRun_cursorSound_myDb :
    let w : WorkItem := ⟨.statefulSet ⟨"db", "my-db", [], [], []⟩, .delete, "", ""⟩
    let v : World := { World.init with cluster := { pods := [⟨"db", "my-db-0", []⟩] } }
    CursorSound Lib.plain sampleSpec v.cluster.pods [[w]] (rolloutRun Lib.plain sampleSpec v [[w], [w]]).status.cursor
        (rolloutRun Lib.plain sampleSpec v [[w], [w]]).log ∧
      ∀ q ∈ [[w]], ((rolloutQueue Lib.plain sampleSpec q).exec { rolloutRun Lib.plain sampleSpec v [[w], [w]] with
          obj := (rolloutRun Lib.plain sampleSpec v [[w], [w]]).status }).1 = .ok () →
        Completed Lib.plain sampleSpec v.cluster.pods q ((rolloutQueue Lib.plain sampleSpec q).exec
          { rolloutRun Lib.plain sampleSpec v [[w], [w]] with
            obj := (rolloutRun Lib.plain sampleSpec v [[w], [w]]).status }).2.log := by
  intro w v
  exact @rolloutRun_cursorSound Lib.plain sampleSpec [[w]] [[w], [w]] v
    (fun p hp p' hp' _ => by rw [List.mem_singleton.1 hp, List.mem_singleton.1 hp']) (by simp) rfl

end TrustRotator
