import TrustRotator.Status.Manage

/-!
When `patch` writes, against what the server then stores.

`patch` compares the reconciler's copy with the mutated copy in memory, where
a `*metav1.Time` pointing at the zero time is not `nil`; the server stores
that time as `null`, which reads back as `nil`. `SetRetry(nil, 0, "")`, which
clears the retries with the zero error time, therefore never finds the
retries it wrote: called twice on a status read back from the server, it
writes twice, and the second write stores what the first stored, apart from
`lastUpdated` (`setRetry_clear_rewrites`).
-/

namespace TrustRotator

open LinkerdTrustRotationStatus

/-- A status as the server stores it never holds the zero error time. -/
theorem retries_ne_of_zero_time {s : LinkerdTrustRotationStatus} (h : s.stored = s) (r : RetryStatus)
    (hr : r.lastErrorTime = some ⟨0⟩) : s.retries ≠ some r := by
  intro hs
  have := congrArg (fun s => s.retries.map RetryStatus.lastErrorTime) h
  simp [hs, RetryStatus.norm, hr] at this

/-- Clearing the retries twice, re-reading the status in between, writes
twice, and what the second write stores differs from what the first stored
only in `lastUpdated`. -/
theorem setRetry_clear_rewrites {w : World} (hs : w.obj = w.status) (hst : w.status.stored = w.status)
    (hf : w.faults = []) :
    let w₁ := ((setRetry none 0 "").exec w).2
    let w₂ := ((setRetry none 0 "").exec { w₁ with obj := w₁.status }).2
    (∃ s₁ s₂, w₂.log = .statusPatched "SetRetry" s₂ :: .statusPatched "SetRetry" s₁ :: w.log) ∧
    { w₂.status with lastUpdated := none } = { w₁.status with lastUpdated := none } := by
  rcases w with ⟨st, c, o, cl, k, fs, l⟩
  dsimp only at hs hf hst
  subst hs hf
  simp [setRetry, exec_patch, statusEqual, beforeRequest, stamped, World.next,
    retries_ne_of_zero_time hst ⟨0, "", none, some ⟨0⟩⟩ rfl, RetryStatus.norm]

theorem setRetry_clear_rewrites_init :
    let w₁ := ((setRetry none 0 "").exec World.init).2
    let w₂ := ((setRetry none 0 "").exec { w₁ with obj := w₁.status }).2
    (∃ s₁ s₂, w₂.log = .statusPatched "SetRetry" s₂ :: .statusPatched "SetRetry" s₁ :: World.init.log) ∧
    { w₂.status with lastUpdated := none } = { w₁.status with lastUpdated := none } :=
  setRetry_clear_rewrites rfl (by decide) rfl

end TrustRotator
