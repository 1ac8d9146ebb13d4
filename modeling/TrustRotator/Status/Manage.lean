import TrustRotator.World

/-!
`internal/status`: the status recorder.

Every mutator goes through `patch` (`ManageStatus.Patch`). It mutates a copy
of the reconciler's status and compares it with the status it started from,
ignoring `lastUpdated`; when they differ it stamps `lastUpdated`, stores the
mutated copy in the reconciler's object and sends the merge patch between the
two copies. The server merges that patch into the status it holds, and on
success the reconciler's object is replaced by what the server answers. On a
failed request the mutated copy stays in the reconciler's object.

`exec_patch` says this once; the rest of the development reads `patch`
through it and through `patch_of_statusEqual`.
-/

namespace TrustRotator

open LinkerdTrustRotationStatus

/-- `cmp.Equal(before, after, statusCmpOptions()...)`. `EquateEmpty` has no
slice or map of the status to act on, `IgnoreFields` drops `LastUpdated`, and
a `*metav1.Time` compares with its `Equal` method, under which two `nil`s are
equal and `nil` never equals a time, the zero time included. -/
def statusEqual (a b : LinkerdTrustRotationStatus) : Bool :=
  decide ({ a with lastUpdated := none } = { b with lastUpdated := none })

theorem statusEqual_iff {a b : LinkerdTrustRotationStatus} :
    statusEqual a b ↔ { a with lastUpdated := none } = { b with lastUpdated := none } :=
  decide_eq_true_iff

/-- `ManageStatus.Patch`. -/
def patch (processName : String)
    (mutate : LinkerdTrustRotationStatus → LinkerdTrustRotationStatus) : Api Unit := do
  let before := (← get).obj
  let after := mutate before
  if statusEqual before after then return
  let t ← now.lift
  let after := { after with lastUpdated := some t }
  modify fun w => { w with obj := after }
  call.lift
  modify fun w =>
    let s := applyPatch w.status before after
    { w with status := s, obj := s, log := .statusPatched processName s :: w.log }

/-! ### The mutators -/

def setPhase (phase reason message : Option String) : Api Unit :=
  patch "SetPhase" fun st => { st with phase := phase, reason := reason, message := message }

/-- `calcPercent`: `current` clamped to `[0, total]`, as a percentage of
`total` rounded half up. `math.Round` of the `float64` quotient rounds the
same way while the operands stay below `2^53 / 100`. -/
def calcPercent (current total : Int) : Int :=
  if total ≤ 0 then 0
  else
    let current := max 0 (min current total)
    let p := (200 * current + total) / (2 * total)
    if p < 0 then 0 else if p > 100 then 100 else p

def setProgress (cpReady : Bool) (current total : Option Int) : Api Unit :=
  let percent := match current, total with
    | some c, some t => calcPercent c t
    | _, _ => 0
  patch "SetProgress" fun st => { st with progress := some ⟨cpReady, percent⟩ }

def setTrustInfo (bundleState : Option BundleState) (currentFP previousFP : String) : Api Unit :=
  patch "SetTrustInfo" fun st =>
    { st with trust := some ⟨bundleState.map BundleState.toString, currentFP, previousFP⟩ }

def setPlanHash (workRef : Option WorkRef) (next total : Int) (hash : String) : Api Unit :=
  patch "SetPlanHash" fun st => { st with cursor := some ⟨hash, next, total, workRef⟩ }

/-- `SetRetry`: the error time is the zero time unless a failure is recorded. -/
def setRetry (workRef : Option WorkRef) (count : Int) (lastErr : String) : Api Unit := do
  let t ← (if count > 0 ∧ lastErr.length > 0 then now.lift else pure ⟨0⟩)
  patch "SetRetry" fun st => { st with retries := some ⟨count, lastErr, workRef, some t⟩ }

def setDryRunOutput (dryRunOutput : String) : Api Unit :=
  patch "SetDryRunOutput" fun st =>
    { st with
      phase := some Phase.dryRun
      reason := some Reason.dryRun
      message := some "The data-plane dry run has completed successfully"
      dryRunPlan := dryRunOutput
      progress := none }

def markSucceeded (message : String) : Api Unit := do
  let t ← now.lift
  patch "MarkSucceeded" fun st =>
    { st with
      phase := some "Succeeded"
      reason := some "Completed"
      message := some message
      completionTime := some t }

def markFailed (reason message : String) : Api Unit := do
  let t ← now.lift
  patch "MarkFailed" fun st =>
    { st with
      phase := some "Failed"
      reason := some reason
      message := some message
      completionTime := some t }

/-! ### What a patch does -/

section
variable (processName : String) (mutate : LinkerdTrustRotationStatus → LinkerdTrustRotationStatus)
  (w : World)

/-- The mutated copy as `patch` sends it, stamped with the next clock reading. -/
def stamped : LinkerdTrustRotationStatus :=
  { mutate w.obj with lastUpdated := some ⟨w.clock + 1⟩ }

/-- The world in which `patch`'s request is issued. -/
def beforeRequest : World :=
  { w with clock := w.clock + 1, obj := stamped mutate w }

theorem exec_patch : (patch processName mutate).exec w =
    if statusEqual w.obj (mutate w.obj) then (.ok (), w)
    else match (beforeRequest mutate w).next with
      | (some e, w') => (.error e, w')
      | (none, w') =>
        let s := applyPatch w'.status w.obj (stamped mutate w)
        (.ok (), { w' with status := s, obj := s, log := .statusPatched processName s :: w'.log }) := by
  unfold patch
  simp only [Prog.exec_bind, Prog.exec_get]
  split
  · rfl
  · rcases w with ⟨_, _, _, _, _, _ | ⟨_ | e, _⟩, _⟩ <;> rfl

/-- Everything one `patch` can do: nothing, when the mutation changes no field
but `lastUpdated`; else stamp the copy and issue the request, which either
fails, leaving the server alone and the stamped copy in the reconciler's
object, or succeeds, the server merging the patch and answering with what it
now stores. -/
theorem patch_cases {r : Except String Unit} {w' : World}
    (h : (patch processName mutate).exec w = (r, w')) :
    (statusEqual w.obj (mutate w.obj) ∧ r = .ok () ∧ w' = w) ∨
    (¬statusEqual w.obj (mutate w.obj) ∧ (∃ e, r = .error e) ∧
      ∃ fs, w' = { w with clock := w.clock + 1, obj := stamped mutate w, faults := fs }) ∨
    (¬statusEqual w.obj (mutate w.obj) ∧ r = .ok () ∧
      ∃ fs, w' =
        { w with
          clock := w.clock + 1
          faults := fs
          status := applyPatch w.status w.obj (stamped mutate w)
          obj := applyPatch w.status w.obj (stamped mutate w)
          log := .statusPatched processName (applyPatch w.status w.obj (stamped mutate w)) :: w.log }) := by
  rw [exec_patch] at h
  split at h
  · exact .inl ⟨‹_›, (Prod.mk.inj h).1.symm, (Prod.mk.inj h).2.symm⟩
  · have hs := next_snd (beforeRequest mutate w)
    rcases hn : (beforeRequest mutate w).next with ⟨_ | e, w₁⟩ <;> rw [hn] at h hs <;>
      obtain ⟨rfl, rfl⟩ := Prod.mk.inj h <;> dsimp only at hs
    · exact .inr (.inr ⟨‹_›, rfl, _, by rw [hs]; rfl⟩)
    · exact .inr (.inl ⟨‹_›, ⟨e, rfl⟩, _, by rw [hs]; rfl⟩)

theorem patch_of_statusEqual (h : statusEqual w.obj (mutate w.obj)) :
    (patch processName mutate).exec w = (.ok (), w) := by
  rw [exec_patch, if_pos h]

/-- When every request succeeds, so does a status write, and it leaves the
cluster alone. -/
theorem patch_ok_of_faults_nil (hf : w.faults = []) :
    ∃ w', (patch processName mutate).exec w = (.ok (), w') ∧ w'.faults = [] ∧ w'.cluster = w.cluster := by
  rw [exec_patch]
  split
  · exact ⟨w, rfl, hf, rfl⟩
  · simp [beforeRequest, World.next, hf]

theorem patch_of_faults_nil {r : Except String Unit} {w' : World} (hf : w.faults = [])
    (h : (patch processName mutate).exec w = (r, w')) : r = .ok () ∧ w'.faults = [] := by
  obtain ⟨w'', h', hf', -⟩ := patch_ok_of_faults_nil processName mutate w hf
  rw [h'] at h
  obtain ⟨rfl, rfl⟩ := Prod.mk.inj h
  exact ⟨rfl, hf'⟩

end

/-- A status write leaves the cluster. -/
theorem patch_cluster {p : String} {m : LinkerdTrustRotationStatus → LinkerdTrustRotationStatus}
    {v v' : World} {r : Except String Unit} (h : (patch p m).exec v = (r, v')) : v'.cluster = v.cluster := by
  rcases patch_cases _ _ _ h with ⟨-, -, rfl⟩ | ⟨-, -, fs, rfl⟩ | ⟨-, -, fs, rfl⟩ <;> rfl

/-- The fields of a status that its JSON round trip keeps as they are. -/
def LinkerdTrustRotationStatus.core (s : LinkerdTrustRotationStatus) : LinkerdTrustRotationStatus :=
  { s with startedAt := none, lastUpdated := none, completionTime := none, retries := none }

/-- A status write that succeeded from a world whose copy is the server's
leaves the server with the mutated copy, up to the fields the round trip
normalises, and the copy equal to it. -/
theorem patch_ok_core {p : String} {m : LinkerdTrustRotationStatus → LinkerdTrustRotationStatus}
    {w w' : World} (hs : w.obj = w.status) (h : (patch p m).exec w = (.ok (), w')) :
    w'.status.core = (m w.obj).core ∧ w'.obj = w'.status := by
  rcases patch_cases p m w h with ⟨heq, -, rfl⟩ | ⟨-, ⟨e, he⟩, -⟩ | ⟨-, -, fs, rfl⟩
  · refine ⟨?_, hs⟩
    have h := congrArg LinkerdTrustRotationStatus.core (statusEqual_iff.1 heq)
    rw [← hs]
    exact h
  · cases he
  · refine ⟨?_, rfl⟩
    simp [hs, stamped, LinkerdTrustRotationStatus.core]

end TrustRotator
