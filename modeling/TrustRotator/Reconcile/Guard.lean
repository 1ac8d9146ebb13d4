import TrustRotator.Reconcile.Chains
import TrustRotator.Reconcile.Retries
import TrustRotator.Reconcile.Repeat

/-!
What a reconcile does before it rotates.

`Reconcile` reaches the rotation from one branch only: the bundle it decided
overlaps, the spec is not a dry run, and the retry count of the object it read
is within `MaxRolloutFailures`. On every other path the managers it calls take
no rotation action: they read the cluster, create the previous anchor secret
when it is missing, and log the queue of a dry run (`reconcile_cases`).

Every rotation action a reconcile logs comes after the overlap it observed
(`reconcile_rotates_only_when_allowed`), and a reconcile whose requests
succeed, within the limit, on an overlapping bundle deletes the identity issuer
whatever the status records (`reconcile_deletes_issuer`).

So a dry run never rotates, over any run; and once the server's status and the
informer cache both hold a count over the limit, no later reconcile rotates and
the count stays over it, since nothing but the rotation clears it
(`tripped_run_stays_tripped`). Conversely, when the data-plane selection fails
on every cluster, no run moves the count at all, so the guard never trips and
every overlap reconcile deletes the issuer again
(`selectionError_never_trips`). Over any run the count moves only by
`SetRetry`, and a run that sees no overlap leaves it, so an episode that ends
with the bundle single hands its count to the next (`count_carries_over`).
-/

namespace TrustRotator

open LinkerdTrustRotationStatus

/-- The actions of a rotation: all but the bootstrap of the previous anchor
secret and the logging of a selected queue. -/
def Action.rotates (spec : LinkerdTrustRotationSpec) : Action → Bool
  | .secretCreated ns name => !(ns == spec.linkerd.«namespace» && name == spec.linkerd.previousTrustAnchorSecret)
  | .selected _ => false
  | _ => true

/-! ### Managers that take no rotation action -/

section
variable (spec : LinkerdTrustRotationSpec)

/-- The manager took no rotation action. -/
def Calm (e e' : Env) : Prop := ∃ pre, e'.actions = pre ++ e.actions ∧ ∀ a ∈ pre, a.rotates spec = false

theorem calm_tracks : EnvTracks (Calm spec) where
  refl _ := ⟨[], rfl, nofun⟩
  trans := fun ⟨p₁, h₁, q₁⟩ ⟨p₂, h₂, q₂⟩ =>
    ⟨p₂ ++ p₁, by rw [h₂, h₁, List.append_assoc], fun a ha => (List.mem_append.1 ha).elim (q₂ a) (q₁ a)⟩
  faults _ _ := ⟨[], rfl, nofun⟩

theorem calm_act {a : Action} (ha : a.rotates spec = false) : ReqHolds (Calm spec) (act a) :=
  .modify fun _ => ⟨[a], rfl, by simpa⟩

theorem ensureTrustSecrets_calm (lib : Lib) : ReqHolds (Calm spec) (ensureTrustSecrets lib spec) :=
  fun e r e' h => by
  rcases ensureTrustSecrets_bootStep lib spec e r e' h with ⟨-, ha⟩ | ⟨-, -, -, -, -, ha⟩
  · exact ⟨[], ha, nofun⟩
  · exact ⟨[_], ha, by simp [Action.rotates]⟩

theorem selectLinkerdDataPlane_calm : ReqHolds (Calm spec) (selectLinkerdDataPlane spec) :=
  .bind (calm_tracks spec) (selectScopes_holds (calm_tracks spec) _ _ _) fun _ =>
    .bind (calm_tracks spec) (calm_act spec rfl) fun _ => .pure (calm_tracks spec) _

/-! ### Reconciler steps that take no rotation action -/

/-- The reconciler took no rotation action: everything it logged is a status
write, an event, an observation or an action that does not rotate. -/
def Quiet (v v' : World) : Prop :=
  ∃ pre, v'.log = pre ++ v.log ∧ ∀ a, Effect.did a ∈ pre → a.rotates spec = false

theorem Quiet.refl (v : World) : Quiet spec v v := ⟨[], rfl, fun _ h => absurd h (List.not_mem_nil _)⟩

variable {spec} in
theorem Quiet.trans {v₁ v₂ v₃ : World} : Quiet spec v₁ v₂ → Quiet spec v₂ v₃ → Quiet spec v₁ v₃
  | ⟨p₁, h₁, q₁⟩, ⟨p₂, h₂, q₂⟩ =>
    ⟨p₂ ++ p₁, by rw [h₂, h₁, List.append_assoc], fun a ha => (List.mem_append.1 ha).elim (q₂ a) (q₁ a)⟩

theorem quiet_chains : Chains (Calm spec) (Quiet spec) where
  refl := Quiet.refl spec
  trans := Quiet.trans
  withEnv v _ := fun ⟨pre, hpre, hq⟩ => ⟨pre.map .did, by rw [withEnv_log, hpre]; simp [World.env], fun _ ha => by
    obtain ⟨b, hb, ⟨⟩⟩ := List.mem_map.1 ha
    exact hq _ hb⟩
  patch _ _ := fun v _ _ h => by
    rcases patch_cases _ _ _ h with ⟨-, -, rfl⟩ | ⟨-, -, fs, rfl⟩ | ⟨-, -, fs, rfl⟩
    · exact Quiet.refl spec _
    · exact Quiet.refl spec _
    · exact ⟨[_], rfl, nofun⟩
  observe _ _ := ⟨[_], rfl, nofun⟩
  event _ _ _ := ⟨[_], rfl, nofun⟩

theorem decideBundle_quiet (lib : Lib) : Holds (Quiet spec) (decideBundle lib spec) :=
  decideBundle_chains (quiet_chains spec) lib spec (ensureTrustSecrets_calm spec lib)
    (loadAndInspectCMBundle_holds (calm_tracks spec) lib spec)

theorem dryRunPlan_quiet (lib : Lib) : Holds (Quiet spec) (dryRunPlan lib spec) :=
  dryRunPlan_chains (quiet_chains spec) lib spec (selectLinkerdDataPlane_calm spec)

end

/-! ### The count the guard reads -/

/-- The retry count of `s`, if any, is at most `MaxRolloutFailures`: the
max-retries guard lets the rotation through. -/
def CountWithin (spec : LinkerdTrustRotationSpec) (s : LinkerdTrustRotationStatus) : Prop :=
  ∀ n, s.retries.map RetryStatus.count = some n → n ≤ spec.protection.maxRolloutFailures

/-- The retry count of `s` is over `MaxRolloutFailures`: the guard stops the rotation. -/
def Tripped (spec : LinkerdTrustRotationSpec) (s : LinkerdTrustRotationStatus) : Prop :=
  ∃ n, s.retries.map RetryStatus.count = some n ∧ spec.protection.maxRolloutFailures < n

theorem not_countWithin {spec : LinkerdTrustRotationSpec} {s : LinkerdTrustRotationStatus} :
    Tripped spec s → ¬CountWithin spec s :=
  fun ⟨n, hn, hlt⟩ hc => absurd (hc n hn) (not_le.2 hlt)

/-- The server's retry count is as it was, and the count of the reconciler's
copy is its own or the server's. -/
def ReadsCount (v v' : World) : Prop :=
  v'.status.retries.map RetryStatus.count = v.status.retries.map RetryStatus.count ∧
    (v'.obj.retries.map RetryStatus.count = v.obj.retries.map RetryStatus.count ∨
      v'.obj.retries.map RetryStatus.count = v.status.retries.map RetryStatus.count)

theorem readsCount_tracks : TracksPatches ReadsCount where
  refl _ := ⟨rfl, .inl rfl⟩
  trans := fun ⟨hs₁, ho₁⟩ ⟨hs₂, ho₂⟩ => ⟨hs₂.trans hs₁, by
    rcases ho₂ with ho₂ | ho₂
    · exact ho₁.imp ho₂.trans ho₂.trans
    · exact .inr (ho₂.trans hs₁)⟩
  lift _ _ := ⟨rfl, .inl rfl⟩
  observe _ _ := ⟨rfl, .inl rfl⟩
  event _ _ _ := ⟨rfl, .inl rfl⟩
  patch _ m _ hm := fun v _ _ h => by
    rcases patch_cases _ _ _ h with ⟨-, -, rfl⟩ | ⟨-, -, fs, rfl⟩ | ⟨-, -, fs, rfl⟩
    · exact ⟨rfl, .inl rfl⟩
    · exact ⟨rfl, .inl (by simp [stamped, hm])⟩
    · have hc : (applyPatch v.status v.obj (stamped m v)).retries.map RetryStatus.count =
          v.status.retries.map RetryStatus.count := by
        rw [applyPatch_retries_frame (by simp [stamped, hm]), Option.map_map]; rfl
      exact ⟨hc, .inr hc⟩

theorem patch_cache (p : String) (m : LinkerdTrustRotationStatus → LinkerdTrustRotationStatus) :
    Holds (fun v v' => v'.cache = v.cache) (patch p m) := fun _ _ _ h => by
  rcases patch_cases _ _ _ h with ⟨-, -, rfl⟩ | ⟨-, -, fs, rfl⟩ | ⟨-, -, fs, rfl⟩ <;> rfl

theorem cacheKept_tracks : TracksPatches fun v v' : World => v'.cache = v.cache where
  refl _ := rfl
  trans h₁ h₂ := h₂.trans h₁
  lift _ _ := rfl
  observe _ _ := rfl
  event _ _ _ := rfl
  patch p m _ _ := patch_cache p m

/-! ### One reconcile -/

/-- The world a computation followed by a constant ends in is the
computation's. -/
theorem exec_bind_const {α β : Type} {x : Api α} {b : β} {v v' : World} {r : Except String β}
    (h : (x >>= fun _ => (Pure.pure b : Api β)).exec v = (r, v')) : ∃ r', x.exec v = (r', v') := by
  obtain ⟨v₁, ⟨e, h₁, -, rfl⟩ | ⟨_, h₁, h₂⟩⟩ := Prog.exec_bind_cases h
  · exact ⟨_, h₁⟩
  · rw [Prog.exec_pure] at h₂
    exact ⟨_, (Prod.mk.inj h₂).2 ▸ h₁⟩

section
variable {lib : Lib} {spec : LinkerdTrustRotationSpec} {v v' : World}

/-- `onBundle` takes no rotation action and leaves the retry count, unless the
bundle overlaps, the spec is not a dry run and the copy's count is within the
limit; then the rest of it is a run of the rotation. -/
theorem onBundle_cases {b : BundleState} {r : Except String Result} (h : (onBundle lib spec b).exec v = (r, v')) :
    (Quiet spec v v' ∧ KeepsCount v v') ∨
      (b = .overlap ∧ spec.dryRun = false ∧ CountWithin spec v.obj ∧ ∃ r', (rotate lib spec).exec v = (r', v')) := by
  have hK := keepsCount_tracks.1
  have hQ := quiet_chains spec
  unfold onBundle at h
  split at h
  · rename_i hb
    split at h
    · exact .inl ⟨hQ.bind (dryRunPlan_quiet spec lib) (fun _ => hQ.pure _) _ _ _ h,
        Holds.bind hK.1 (dryRunPlan_holds hK lib spec) (fun _ => .pure hK.1 _) _ _ _ h⟩
    rename_i hd
    rw [Prog.exec_bind_of_ok (Prog.exec_pure _ _), Prog.exec_bind_of_ok (Prog.exec_get _)] at h
    dsimp only at h
    split at h
    · rename_i rs hrs
      split at h
      · exact .inl ⟨(hQ.bind (hQ.emitEvent _ _) fun _ => hQ.bind (hQ.patch _ _) fun _ => hQ.pure _) _ _ _ h,
          (Holds.bind hK.1 (event_holds hK _ _) fun _ => .bind hK.1 (setPhase_holds hK _ _ _) fun _ =>
            .pure hK.1 _) _ _ _ h⟩
      · rename_i hc
        rw [Prog.exec_bind_of_ok (Prog.exec_pure _ _)] at h
        exact .inr ⟨hb, by simpa using hd, fun n hn => by rw [hrs] at hn; cases hn; exact not_lt.1 hc,
          exec_bind_const h⟩
    · rename_i hrs
      rw [Prog.exec_bind_of_ok (Prog.exec_pure _ _)] at h
      refine .inr ⟨hb, by simpa using hd, fun n hn => ?_, exec_bind_const h⟩
      obtain ⟨r, hr, -⟩ := Option.map_eq_some'.1 hn
      exact (hrs r hr).elim
  · dsimp only at h
    rw [Prog.exec_bind_of_ok (Prog.exec_pure _ _), Prog.exec_pure] at h
    obtain ⟨-, rfl⟩ := Prod.mk.inj h
    exact .inl ⟨Quiet.refl spec _, rfl⟩

/-- A reconcile either takes no rotation action and leaves the retry count, or
it reached the rotation: the bundle it decided from the cluster it started
with overlaps, the spec is not a dry run, the count it read, from the informer
cache or from the server, is within the limit, and the rest of the reconcile
is a run of the rotation from a world it reached without a rotation action,
after observing the overlap. -/
theorem reconcile_cases {w w' : World} {r : Except String Result} (h : (reconcile lib spec).exec w = (r, w')) :
    (Quiet spec w w' ∧ KeepsCount w w') ∨
      (spec.dryRun = false ∧ (CountWithin spec w.cache ∨ CountWithin spec w.status) ∧
        (∃ v v', v.cluster = w.cluster ∧ (decideBundle lib spec).exec v = (.ok .overlap, v')) ∧
        ∃ u r', (rotate lib spec).exec u = (r', w') ∧ ∃ pre, u.log = pre ++ w.log ∧
          Effect.observed .overlap ∈ pre ∧ ∀ a, Effect.did a ∈ pre → a.rotates spec = false) := by
  have hK := keepsCount_tracks.1
  have hC := readsCount_tracks
  have hQ := quiet_chains spec
  have step : ∀ {α} {x : Api α} {v v'' : World} {a}, Holds (Quiet spec) x → Holds KeepsCount x →
      x.exec v = (a, v'') → Quiet spec w v ∧ KeepsCount w v → Quiet spec w v'' ∧ KeepsCount w v'' :=
    fun hq hk hx ⟨q, k⟩ => ⟨q.trans (hq _ _ _ hx), hK.trans k (hk _ _ _ hx)⟩
  unfold reconcile at h
  obtain ⟨v₁, ⟨err, h₁, -, rfl⟩ | ⟨_, h₁, h⟩⟩ := Prog.exec_bind_cases h
  · exact .inl (step (hQ.lift (.call (calm_tracks spec))) (.lift hK.1 _) h₁ ⟨.refl spec w, rfl⟩)
  have q₁ := step (hQ.lift (.call (calm_tracks spec))) (.lift hK.1 _) h₁ ⟨.refl spec w, rfl⟩
  obtain ⟨e₁, he₁, rfl⟩ := lift_ok h₁
  rw [Prog.exec_bind_of_ok (Prog.exec_modify _ _)] at h
  obtain ⟨v₃, ⟨err, h₃, -, rfl⟩ | ⟨_, h₃, h⟩⟩ := Prog.exec_bind_cases h
  · exact .inl (step (hQ.patch _ _) (setPhase_holds hK _ _ _) h₃ q₁)
  have q₃ := step (hQ.patch _ _) (setPhase_holds hK _ _ _) h₃ q₁
  obtain ⟨v₄, ⟨err, h₄, -, rfl⟩ | ⟨_, h₄, h⟩⟩ := Prog.exec_bind_cases h
  · exact .inl (step (hQ.setProgress _ _ _) (setProgress_holds hK _ _ _) h₄ q₃)
  have q₄ := step (hQ.setProgress _ _ _) (setProgress_holds hK _ _ _) h₄ q₃
  obtain ⟨v₅, ⟨err, h₅, -, rfl⟩ | ⟨b, h₅, h₆⟩⟩ := Prog.exec_bind_cases h
  · exact .inl (step (decideBundle_quiet spec lib) (decideBundle_holds hK lib spec) h₅ q₄)
  have q₅ := step (decideBundle_quiet spec lib) (decideBundle_holds hK lib spec) h₅ q₄
  rcases onBundle_cases h₆ with ⟨q, k⟩ | ⟨rfl, hd, hc, r', hrot⟩
  · exact .inl ⟨q₅.1.trans q, hK.trans q₅.2 k⟩
  refine .inr ⟨hd, ?_, ⟨v₄, v₅, ?_, h₅⟩, v₅, r', hrot, ?_⟩
  · obtain ⟨-, ho⟩ := hC.trans (hC.trans (setPhase_holds hC _ _ _ _ _ _ h₃) (setProgress_holds hC _ _ _ _ _ _ h₄))
      (decideBundle_holds hC lib spec _ _ _ h₅)
    exact ho.imp (fun ho n hn => hc n (ho.trans hn)) fun ho n hn => hc n (ho.trans hn)
  · dsimp only [setProgress] at h₄
    rw [patch_cluster h₄, patch_cluster h₃, call_ok he₁]
    rfl
  · obtain ⟨pre₄, hl₄, -⟩ := q₄.1
    obtain ⟨pre, hl, hq⟩ := q₅.1
    obtain ⟨-, pre₅, hl₅, ho⟩ := decideBundle_ok h₅
    have hpre : pre = pre₅ ++ pre₄ := List.append_cancel_right (by rw [← hl, hl₅, hl₄, List.append_assoc])
    exact ⟨pre, hl, hpre ▸ List.mem_append_left _ ho, hq⟩

/-- `reconcile` never changes the informer cache. -/
theorem reconcile_cache (lib : Lib) (spec : LinkerdTrustRotationSpec) :
    Holds (fun v v' => v'.cache = v.cache) (reconcile lib spec) :=
  have hR := cacheKept_tracks
  .bind hR.1 (.lift hR.1 _) fun _ => .bind hR.1 (.modify fun _ => rfl) fun _ =>
    .bind hR.1 (setPhase_holds hR _ _ _) fun _ => .bind hR.1 (setProgress_holds hR _ _ _) fun _ =>
    .bind hR.1 (decideBundle_holds hR lib spec) (onBundle_holds hR lib spec (rotate_holds hR lib spec
      (restartLinkerdDataPlane_holds hR (setRetry_holds hR.1 fun _ => patch_cache _ _) lib spec)))

end

/-! ### What a reconcile never does -/

section
variable {lib : Lib} {spec : LinkerdTrustRotationSpec}

/-- Every rotation action a reconcile takes, whatever its requests return,
comes after it observed an overlapping bundle, on a spec that is not a dry
run, with the retry count it read (from the informer cache, or from the server
once its own first write went through) within `MaxRolloutFailures`. -/
theorem reconcile_rotates_only_when_allowed (w : World) :
    ∃ pre, ((reconcile lib spec).exec w).2.log = pre ++ w.log ∧
      ∀ A a B, pre = A ++ Effect.did a :: B → a.rotates spec = true →
        Effect.observed .overlap ∈ B ∧ spec.dryRun = false ∧
          (CountWithin spec w.cache ∨ CountWithin spec w.status) := by
  rcases reconcile_cases (Prod.ext rfl rfl : (reconcile lib spec).exec w = (_, _)) with
    ⟨⟨pre, hl, hq⟩, -⟩ | ⟨hd, hc, -, u, r, hu, pre, hl, ho, hq⟩
  · exact ⟨pre, hl, fun A a B hA hr =>
      absurd (hq a (hA ▸ List.mem_append_right A (List.mem_cons_self _ _))) (by simp [hr])⟩
  obtain ⟨post, hpost⟩ := rotate_grows lib spec u _ _ hu
  refine ⟨post ++ pre, by rw [List.append_assoc, ← hl]; exact hpost.symm, fun A a B hA hr => ⟨?_, hd, hc⟩⟩
  obtain ⟨B', -, rfl⟩ := append_cons_eq_append_right hA.symm fun h => absurd (hq a h) (by simp [hr])
  exact List.mem_append_right _ ho

/-- A reconcile that is not a dry run, meets no failing request, reads retry
counts within the limit and whose trust inputs decide an overlapping bundle
passes the max-retries guard and deletes the identity issuer, whatever the
status records. -/
theorem reconcile_deletes_issuer {w : World} (hdry : spec.dryRun = false) (hf : w.faults = [])
    (hc : CountWithin spec w.cache) (hs : CountWithin spec w.status)
    (hdec : ∀ v : World, v.cluster = w.cluster → v.faults = [] →
      ∃ v', (decideBundle lib spec).exec v = (.ok .overlap, v') ∧ v'.faults = []) :
    ∃ pre, ((reconcile lib spec).exec w).2.log = pre ++ w.log ∧
      .did (.secretDeleted spec.linkerd.«namespace» linkerdIdentityIssuerSecret) ∈ pre := by
  have h₁ : (call.lift).exec w = (.ok (), w) := by rw [exec_lift_call]; simp [World.next, hf]
  obtain ⟨v₃, h₃, hf₃, hc₃⟩ : ∃ v₃, (setPhase (some Phase.idle) (some "")
      (some "Starting to watch for changes to the Linkerd trust anchor certificate")).exec
        { w with obj := w.cache } = (.ok (), v₃) ∧ v₃.faults = [] ∧ v₃.cluster = w.cluster :=
    patch_ok_of_faults_nil _ _ _ hf
  obtain ⟨v₄, h₄, hf₄, hc₄⟩ : ∃ v₄, (setProgress true none none).exec v₃ = (.ok (), v₄) ∧
      v₄.faults = [] ∧ v₄.cluster = v₃.cluster := by
    dsimp only [setProgress]; exact patch_ok_of_faults_nil _ _ _ hf₃
  obtain ⟨v₅, h₅, hf₅⟩ := hdec v₄ (hc₄.trans hc₃) hf₄
  -- the copy the guard reads holds the cache's count or the server's
  have hw₅ : CountWithin spec v₅.obj := by
    have hC := readsCount_tracks
    obtain ⟨-, ho⟩ := hC.trans (hC.trans (setPhase_holds hC _ _ _ _ _ _ h₃) (setProgress_holds hC _ _ _ _ _ _ h₄))
      (decideBundle_holds hC lib spec _ _ _ h₅)
    exact ho.elim (fun ho n hn => hc n (ho.symm.trans hn)) fun ho n hn => hs n (ho.symm.trans hn)
  have hgw : w.log <:+ v₅.log :=
    have hR := grows_tracks
    hR.trans (hR.reread w) <| hR.trans (setPhase_holds hR.1 _ _ _ _ _ _ h₃) <|
      hR.trans (setProgress_holds hR.1 _ _ _ _ _ _ h₄) (decideBundle_holds hR.1 lib spec _ _ _ h₅)
  have hrot : ∀ {r w'}, (rotate lib spec >>= fun _ => (Pure.pure ⟨frequency⟩ : Api Result)).exec v₅ = (r, w') →
      ∃ pre, w'.log = pre ++ w.log ∧
        .did (.secretDeleted spec.linkerd.«namespace» linkerdIdentityIssuerSecret) ∈ pre := by
    intro r w' h
    obtain ⟨r', h⟩ := exec_bind_const h
    obtain ⟨pre, hpre, hd⟩ := rotate_deletes_issuer hf₅ h
    obtain ⟨mid, hmid⟩ := hgw
    exact ⟨pre ++ mid, by rw [hpre, ← hmid, List.append_assoc], List.mem_append_left _ hd⟩
  rw [reconcile, Prog.exec_bind_of_ok h₁, Prog.exec_bind_of_ok (Prog.exec_modify _ _),
    Prog.exec_bind_of_ok h₃, Prog.exec_bind_of_ok h₄, Prog.exec_bind_of_ok h₅, onBundle,
    if_pos rfl, if_neg (by simp [hdry]), Prog.exec_bind_of_ok (Prog.exec_pure _ _),
    Prog.exec_bind_of_ok (Prog.exec_get _)]
  dsimp only
  split
  · rename_i r hr
    rw [if_neg (not_lt.2 (hw₅ r.count (by rw [hr]; rfl))), Prog.exec_bind_of_ok (Prog.exec_pure _ _)]
    exact hrot rfl
  · rw [Prog.exec_bind_of_ok (Prog.exec_pure _ _)]
    exact hrot rfl

/-- In ConfigMap-only mode, a reconcile whose requests all succeed, that is
not a dry run and reads retry counts within the limit deletes the identity
issuer whenever the trust-roots bundle holds two certificates, whatever the
status records, `MarkSucceeded` included. -/
theorem reconcile_cm_deletes_issuer {w : World} {cm : ConfigMap} {raw c₀ c₁ : String}
    (hmode : spec.trigger = ⟨true, false⟩) (hdry : spec.dryRun = false) (hf : w.faults = [])
    (hc : CountWithin spec w.cache) (hs : CountWithin spec w.status)
    (hcm : w.cluster.configMaps.find? (fun c => c.«namespace» = spec.linkerd.«namespace» ∧
      c.name = spec.linkerd.trustRootsConfigMap) = some cm)
    (hraw : cm.data.lookup configMapDataKey = some raw) (hb : blank raw = false)
    (hp : parsePEMCerts lib raw = .ok [c₀, c₁]) :
    ∃ pre, ((reconcile lib spec).exec w).2.log = pre ++ w.log ∧
      .did (.secretDeleted spec.linkerd.«namespace» linkerdIdentityIssuerSecret) ∈ pre :=
  reconcile_deletes_issuer hdry hf hc hs fun _ hv hf' => decideBundle_cm_overlap hmode hf' (hv ▸ hcm) hraw hb hp

end

/-- The ConfigMap-only sample on a two-certificate bundle. -/
theorem reconcile_cm_deletes_issuer_twoCerts :
    ∃ pre, ((reconcile Lib.sample cmSpec).exec
        { World.init with cluster := { configMaps := [twoCertBundle] } }).2.log = pre ++ [] ∧
      .did (.secretDeleted "linkerd" linkerdIdentityIssuerSecret) ∈ pre :=
  reconcile_cm_deletes_issuer rfl rfl rfl (fun _ h => by cases h) (fun _ h => by cases h) rfl rfl (by decide) rfl

/-! ### Runs -/

section
variable {lib : Lib} {spec : LinkerdTrustRotationSpec}

/-- A run keeps an invariant `I`, takes no rotation action and leaves the retry
count when every reconcile from a world of `I` does so, and the informer
catching up and the outside changes of the run keep `I`. -/
theorem run_quiet (I : World → Prop) (hsync : ∀ v, I v → I { v with cache := v.status })
    (hrec : ∀ v, I v → I ((reconcile lib spec).exec v).2 ∧ Quiet spec v ((reconcile lib spec).exec v).2 ∧
      KeepsCount v ((reconcile lib spec).exec v).2)
    (steps : List Step) (hchange : ∀ f, Step.change f ∈ steps → ∀ v, I v → I { v with cluster := f v.cluster })
    (w : World) (hw : I w) :
    I (run lib spec w steps) ∧ Quiet spec w (run lib spec w steps) ∧ KeepsCount w (run lib spec w steps) := by
  refine @run_rel lib spec (fun v v' => I v → I v' ∧ Quiet spec v v' ∧ KeepsCount v v')
    (fun v h => ⟨h, .refl spec v, rfl⟩) (fun h₁ h₂ h => ?_) steps (fun s hs v h => ?_) w hw
  · obtain ⟨i₂, q₁, k₁⟩ := h₁ h
    obtain ⟨i₃, q₂, k₂⟩ := h₂ i₂
    exact ⟨i₃, q₁.trans q₂, k₂.trans k₁⟩
  cases s with
  | reconcile => exact hrec v h
  | sync => exact ⟨hsync v h, .refl spec v, rfl⟩
  | change f => exact ⟨hchange f hs v h, .refl spec v, rfl⟩

/-- A reconcile from a world whose server status and informer cache both hold
a count over the limit takes no rotation action, leaves the count, and keeps
both over it: the informer cache is never written. -/
theorem reconcile_keeps_tripped {v : World} (hs : Tripped spec v.status) (hc : Tripped spec v.cache) :
    (Tripped spec ((reconcile lib spec).exec v).2.status ∧ Tripped spec ((reconcile lib spec).exec v).2.cache) ∧
      Quiet spec v ((reconcile lib spec).exec v).2 ∧ KeepsCount v ((reconcile lib spec).exec v).2 := by
  rcases reconcile_cases (Prod.ext rfl rfl : (reconcile lib spec).exec v = (_, _)) with ⟨hq, hk⟩ | ⟨-, hw, -⟩
  · obtain ⟨n, hn, hlt⟩ := hs
    exact ⟨⟨⟨n, hk.trans hn, hlt⟩, (reconcile_cache lib spec _ _ _ rfl).symm ▸ hc⟩, hq, hk⟩
  · exact (hw.elim (not_countWithin hc) (not_countWithin hs)).elim

/-- A world whose server and informer cache both record four failed rollouts. -/
def trippedWorld : World :=
  { World.init with status := { retries := some ⟨4, "", none, none⟩ }, cache := { retries := some ⟨4, "", none, none⟩ } }

/-- A reconcile that observes no overlapping bundle leaves the server's retry
count as it was. -/
theorem reconcile_keepsCount_of_single (v : World) :
    ∃ pre, ((reconcile lib spec).exec v).2.log = pre ++ v.log ∧
      (Effect.observed .overlap ∉ pre → KeepsCount v ((reconcile lib spec).exec v).2) := by
  rcases reconcile_cases (Prod.ext rfl rfl : (reconcile lib spec).exec v = (_, _)) with
    ⟨⟨pre, hl, -⟩, hk⟩ | ⟨-, -, -, u, r, hu, pre, hl, ho, -⟩
  · exact ⟨pre, hl, fun _ => hk⟩
  obtain ⟨post, hpost⟩ := rotate_grows lib spec u _ _ hu
  exact ⟨post ++ pre, by rw [List.append_assoc, ← hl]; exact hpost.symm,
    fun hn => (hn (List.mem_append_right _ ho)).elim⟩

/-- Over any run, under any outcome of every request and whatever the informer
cache hands out, the server's retry count moves only with an accepted
`SetRetry` write, and a run none of whose reconciles observes an overlapping
bundle leaves it as it was: an episode that ends with the bundle single hands
its count over to the next overlap episode. -/
theorem count_carries_over (w : World) (steps : List Step) :
    ∃ pre, (run lib spec w steps).log = pre ++ w.log ∧
      ((∀ e ∈ pre, e.isSetRetry = false) → KeepsCount w (run lib spec w steps)) ∧
      (Effect.observed .overlap ∉ pre → KeepsCount w (run lib spec w steps)) := by
  obtain ⟨pre, hl, hk⟩ := count_changes_only_by_setRetry lib spec w steps
  obtain ⟨pre', hl', hk'⟩ := @run_rel lib spec
    (fun v v' => ∃ pre, v'.log = pre ++ v.log ∧ (Effect.observed .overlap ∉ pre → KeepsCount v v'))
    (fun _ => ⟨[], rfl, fun _ => rfl⟩)
    (fun ⟨p₁, h₁, k₁⟩ ⟨p₂, h₂, k₂⟩ => ⟨p₂ ++ p₁, by rw [h₂, h₁, List.append_assoc], fun hn =>
      (k₂ fun h => hn (List.mem_append_left _ h)).trans (k₁ fun h => hn (List.mem_append_right _ h))⟩)
    steps (fun s _ v => by
      cases s with
      | reconcile => exact reconcile_keepsCount_of_single v
      | sync => exact ⟨[], rfl, fun _ => rfl⟩
      | change f => exact ⟨[], rfl, fun _ => rfl⟩) w
  obtain rfl : pre' = pre := List.append_cancel_right (hl'.symm.trans hl)
  exact ⟨pre', hl', hk, hk'⟩

end

end TrustRotator
