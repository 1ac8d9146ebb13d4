import TrustRotator.Reconcile.Settle

/-!
Reconciling again from the status a reconcile left.

A reconcile that meets no failing request, from a fresh read, and takes none
of the paths that write a status of their own (the rotation, a finished dry
run, the max-retries guard) leaves the status `Idled`: phase `Idle`, the watch
message and an empty progress, as its start wrote them, with the trust
information it recorded (`decideAndAct_again`). The next reconcile on the same
cluster, reading that status, finds its first writes already done
(`reconcile_again_start`), decides what the first decided or fails, since the
trust inputs read the same (`decideBundle_again`), and the failed dry run fails
again (`dryRunPlan_again`): it writes nothing (`Unwritten`). After a finished
dry run or a tripped guard, the status it reads is not `Idled`, and it writes
phase `Idle` back (`reconcile_again_on_same_snapshot`).
-/

namespace TrustRotator

/-! ### Writing nothing -/

/-- The reconciler wrote no status: the server's status and the clock are as
they were, and it logged no status write. Every status write it attempts
reads the clock (`stamped`), so it attempted none either. -/
def Unwritten (v v' : World) : Prop :=
  v'.status = v.status ∧ v'.clock = v.clock ∧ ∃ pre, v'.log = pre ++ v.log ∧ ∀ p s, Effect.statusPatched p s ∉ pre

theorem Unwritten.refl (v : World) : Unwritten v v := ⟨rfl, rfl, [], rfl, fun _ _ => List.not_mem_nil _⟩

theorem Unwritten.trans {v₁ v₂ v₃ : World} : Unwritten v₁ v₂ → Unwritten v₂ v₃ → Unwritten v₁ v₃
  | ⟨s₁, c₁, p₁, l₁, n₁⟩, ⟨s₂, c₂, p₂, l₂, n₂⟩ =>
    ⟨s₂.trans s₁, c₂.trans c₁, p₂ ++ p₁, by rw [l₂, l₁, List.append_assoc],
      fun p s h => (List.mem_append.1 h).elim (n₂ p s) (n₁ p s)⟩

theorem unwritten_lift {α : Type} {x : Req α} (hx : ReqHolds (fun e e' => e'.clock = e.clock) x) {u u' : World}
    {r : Except String α} (h : x.lift.exec u = (r, u')) : Unwritten u u' := by
  rw [exec_lift] at h
  obtain ⟨-, rfl⟩ := Prod.mk.inj h
  exact ⟨rfl, hx _ _ _ rfl, _, rfl, fun p s h => by simp at h⟩

/-- A manager leaves the status alone. -/
theorem lift_status {α : Type} {x : Req α} {v v₁ : World} {a : Except String α} (h : x.lift.exec v = (a, v₁)) :
    v₁.status = v.status := by
  rw [exec_lift] at h
  rw [← (Prod.mk.inj h).2]
  rfl

/-- A failure ends the computation where it is. -/
theorem exec_throw_bind {α β : Type} {msg : String} {f : α → Api β} {w w' : World} {r : Except String β}
    (h : (throw msg >>= f).exec w = (r, w')) : r = .error msg ∧ w' = w := by
  rw [Prog.exec_bind, Prog.exec_throw] at h
  exact ⟨(Prod.mk.inj h).1.symm, (Prod.mk.inj h).2.symm⟩

/-- A status write whose mutation leaves the copy as it is sends nothing. -/
theorem patch_of_fixed {p : String} {m : LinkerdTrustRotationStatus → LinkerdTrustRotationStatus} {w : World}
    (h : m w.obj = w.obj) : (patch p m).exec w = (.ok (), w) :=
  patch_of_statusEqual p m w (statusEqual_iff.2 (by rw [h]))

/-- The status already reads what the start of `Reconcile` writes: phase
`Idle` with an empty reason and the watch message, and an empty progress. -/
def Idled (s : LinkerdTrustRotationStatus) : Prop :=
  s.phase = some Phase.idle ∧ s.reason = some "" ∧
    s.message = some "Starting to watch for changes to the Linkerd trust anchor certificate" ∧
    s.progress = some ⟨true, 0⟩

/-- The writes at the start of `Reconcile` leave an `Idled` status as it is. -/
theorem idled_fixed {s : LinkerdTrustRotationStatus} (h : Idled s) :
    { s with
      phase := some Phase.idle
      reason := some ""
      message := some "Starting to watch for changes to the Linkerd trust anchor certificate" } = s ∧
    { s with progress := some ⟨true, 0⟩ } = s := by
  obtain ⟨h₁, h₂, h₃, h₄⟩ := h
  cases s
  dsimp only at h₁ h₂ h₃ h₄
  subst h₁ h₂ h₃ h₄
  exact ⟨rfl, rfl⟩


/-! ### The trust decision, twice -/

section
variable {lib : Lib} {spec : LinkerdTrustRotationSpec}

/-- The end of `decideBundle`, from a world with no failing request whose copy
is the server's: it records the trust information. -/
theorem recordTail_first {v v' : World} {b : BundleState} {cf pf : String} {r : Except String BundleState}
    (hf : v.faults = []) (hs : v.obj = v.status)
    (h : (emit (.observed b) >>= fun _ => setTrustInfo (some b) cf pf >>= fun _ =>
      (Pure.pure b : Api BundleState)).exec v = (r, v')) :
    r = .ok b ∧ v'.status.trust = some ⟨some b.toString, cf, pf⟩ ∧ v'.cluster = v.cluster ∧
      v'.faults = [] ∧ (Idled v.status → Idled v'.status) := by
  rw [Prog.exec_bind_of_ok (exec_emit _ _)] at h
  obtain ⟨v₁, h₁, hf₁, hc₁⟩ : ∃ v₁, (setTrustInfo (some b) cf pf).exec { v with log := .observed b :: v.log } =
      (.ok (), v₁) ∧ v₁.faults = [] ∧ _ := patch_ok_of_faults_nil _ _ _ hf
  rw [Prog.exec_bind_of_ok h₁, Prog.exec_pure] at h
  obtain ⟨rfl, rfl⟩ := Prod.mk.inj h
  have hcore := (@patch_ok_core _ _ { v with log := .observed b :: v.log } _ hs h₁).1
  refine ⟨rfl, congrArg LinkerdTrustRotationStatus.trust hcore, hc₁, hf₁, fun ⟨h₁, h₂, h₃, h₄⟩ => ?_⟩
  rw [hs] at hcore
  exact ⟨(congrArg LinkerdTrustRotationStatus.phase hcore).trans h₁,
    (congrArg LinkerdTrustRotationStatus.reason hcore).trans h₂,
    (congrArg LinkerdTrustRotationStatus.message hcore).trans h₃,
    (congrArg LinkerdTrustRotationStatus.progress hcore).trans h₄⟩

/-- The end of `decideBundle`, from a copy that already holds the trust
information it records: it writes nothing. -/
theorem recordTail_again {u u' : World} {b : BundleState} {cf pf : String} {r : Except String BundleState}
    (ht : u.obj.trust = some ⟨some b.toString, cf, pf⟩)
    (h : (emit (.observed b) >>= fun _ => setTrustInfo (some b) cf pf >>= fun _ =>
      (Pure.pure b : Api BundleState)).exec u = (r, u')) :
    r = .ok b ∧ Unwritten u u' ∧ u'.cluster = u.cluster := by
  have hw : (setTrustInfo (some b) cf pf).exec { u with log := .observed b :: u.log } =
      (.ok (), { u with log := .observed b :: u.log }) :=
    patch_of_fixed (show { u.obj with trust := some ⟨some b.toString, cf, pf⟩ } = u.obj by rw [← ht])
  rw [Prog.exec_bind_of_ok (exec_emit _ _), Prog.exec_bind_of_ok hw, Prog.exec_pure] at h
  obtain ⟨rfl, rfl⟩ := Prod.mk.inj h
  exact ⟨rfl, ⟨rfl, rfl, [_], rfl, by simp⟩, rfl⟩


/-- `EnsureTrustSecrets`, lifted, run again on the cluster a first run left. -/
theorem ensureTrustSecrets_lift_again {v v₁ u u₁ : World} {a a₂ : Except String SecretResult}
    (hf : v.faults = []) (h : (ensureTrustSecrets lib spec).lift.exec v = (a, v₁)) (hc : u.cluster = v₁.cluster)
    (h₂ : (ensureTrustSecrets lib spec).lift.exec u = (a₂, u₁)) :
    ((a₂ = a ∧ u₁.cluster = u.cluster) ∨ ∃ err, a₂ = .error err) ∧ Unwritten u u₁ := by
  refine ⟨?_, unwritten_lift (ensureTrustSecrets_clock lib spec) h₂⟩
  rcases hx : (ensureTrustSecrets lib spec).exec v.env with ⟨a', e₁⟩
  rcases hx₂ : (ensureTrustSecrets lib spec).exec u.env with ⟨a₂', e₂⟩
  rw [exec_lift, hx] at h
  rw [exec_lift, hx₂] at h₂
  obtain ⟨rfl, rfl⟩ := Prod.mk.inj h
  obtain ⟨rfl, rfl⟩ := Prod.mk.inj h₂
  exact ensureTrustSecrets_again hf hx hc hx₂

theorem ensureTrustSecrets_lift_faults {v v₁ : World} {res : SecretResult} (hf : v.faults = [])
    (h : (ensureTrustSecrets lib spec).lift.exec v = (.ok res, v₁)) : v₁.faults = [] := by
  obtain ⟨e, he, rfl⟩ := lift_ok h
  exact ensureTrustSecrets_faults hf he

/-- `LoadAndInspectCMBundle` only reads the cluster. -/
theorem loadAndInspectCMBundle_lift_cluster {v v₁ : World} {a : Except String CMResult}
    (h : (loadAndInspectCMBundle lib spec).lift.exec v = (a, v₁)) : v₁.cluster = v.cluster := by
  rw [exec_lift] at h
  rw [← (Prod.mk.inj h).2]
  exact loadAndInspectCMBundle_holds clusterKept lib spec _ _ _ rfl

/-- `LoadAndInspectCMBundle`, lifted, run again on the same cluster. -/
theorem loadAndInspectCMBundle_lift_again {v v₁ u u₁ : World} {a a₂ : Except String CMResult}
    (hf : v.faults = []) (h : (loadAndInspectCMBundle lib spec).lift.exec v = (a, v₁)) (hc : u.cluster = v₁.cluster)
    (h₂ : (loadAndInspectCMBundle lib spec).lift.exec u = (a₂, u₁)) :
    (a₂ = a ∨ ∃ err, a₂ = .error err) ∧ Unwritten u u₁ ∧ u₁.cluster = u.cluster := by
  refine ⟨?_, unwritten_lift (loadAndInspectCMBundle_holds clockKept lib spec) h₂,
    loadAndInspectCMBundle_lift_cluster h₂⟩
  have hc' := hc.trans (loadAndInspectCMBundle_lift_cluster h)
  rcases hx : (loadAndInspectCMBundle lib spec).exec v.env with ⟨a', e₁⟩
  rcases hx₂ : (loadAndInspectCMBundle lib spec).exec u.env with ⟨a₂', e₂⟩
  rw [exec_lift, hx] at h
  rw [exec_lift, hx₂] at h₂
  obtain ⟨rfl, rfl⟩ := Prod.mk.inj h
  obtain ⟨rfl, rfl⟩ := Prod.mk.inj h₂
  exact loadAndInspectCMBundle_again hf hx hc' hx₂

/-- A first `LoadAndInspectCMBundle` with no failing request leaves the world as it was. -/
theorem loadAndInspectCMBundle_lift_first {v v₁ : World} {m : CMResult} (hf : v.faults = [])
    (h : (loadAndInspectCMBundle lib spec).lift.exec v = (.ok m, v₁)) : v₁ = v := by
  obtain ⟨e, he, rfl⟩ := lift_ok h
  rw [loadAndInspectCMBundle_of_faults_nil hf (loadAndInspectCMBundle_ok he)] at he
  rw [← (Prod.mk.inj he).2]
  rfl

/-- `decideBundle` run twice, the second time on the cluster the first left
and from a copy holding the trust information the first recorded. The first,
meeting no failing request from a copy that is the server's, keeps a status
that `Reconcile`'s start left `Idled`, and leaves no failing request once it
decided; the second decides the same or fails, and writes nothing. -/
theorem decideBundle_again {v v' u u' : World} {b r : Except String BundleState}
    (hf : v.faults = []) (hs : v.obj = v.status) (h : (decideBundle lib spec).exec v = (b, v'))
    (hc : u.cluster = v'.cluster) (ht : u.obj.trust = v'.status.trust)
    (h₂ : (decideBundle lib spec).exec u = (r, u')) :
    ((Idled v.status → Idled v'.status) ∧ ∀ b', b = .ok b' → v'.faults = []) ∧
      ((r = b ∧ u'.cluster = u.cluster) ∨ ∃ err, r = .error err) ∧ Unwritten u u' := by
  have failed : ∀ {v₁ : World} {err}, v₁.status = v.status →
      (Idled v.status → Idled v₁.status) ∧ ∀ b', (.error err : Except String BundleState) = .ok b' → v₁.faults = [] :=
    fun hst => ⟨fun hi => hst ▸ hi, fun _ h => by cases h⟩
  unfold decideBundle at h h₂
  dsimp only at h h₂
  split at h
  · -- the anchor secrets
    rename_i hm
    rw [if_pos hm] at h₂
    obtain ⟨v₁, ⟨err, h₁, rfl, rfl⟩ | ⟨res, h₁, h⟩⟩ := Prog.exec_bind_cases h
    · refine ⟨failed (lift_status h₁), ?_⟩
      obtain ⟨u₁, ⟨err₂, h₁', rfl, rfl⟩ | ⟨res₂, h₁', -⟩⟩ := Prog.exec_bind_cases h₂
      · exact ⟨.inr ⟨_, rfl⟩, (ensureTrustSecrets_lift_again hf h₁ hc h₁').2⟩
      · rcases (ensureTrustSecrets_lift_again hf h₁ hc h₁').1 with ⟨⟨⟩, -⟩ | ⟨_, ⟨⟩⟩
    have hf₁ := ensureTrustSecrets_lift_faults hf h₁
    obtain ⟨e₁, -, rfl⟩ := lift_ok h₁
    obtain ⟨rfl, htr, hcl, hfv, hid⟩ := recordTail_first hf₁ hs h
    refine ⟨⟨hid, fun _ _ => hfv⟩, ?_⟩
    rw [hcl] at hc
    obtain ⟨u₁, ⟨err₂, h₁', rfl, rfl⟩ | ⟨res₂, h₁', h₂⟩⟩ := Prog.exec_bind_cases h₂
    · exact ⟨.inr ⟨_, rfl⟩, (ensureTrustSecrets_lift_again hf h₁ hc h₁').2⟩
    obtain ⟨⟨hr, hcu⟩ | ⟨_, ⟨⟩⟩, hu⟩ := ensureTrustSecrets_lift_again hf h₁ hc h₁'
    cases hr
    obtain ⟨e₂, -, rfl⟩ := lift_ok h₁'
    obtain ⟨rfl, hu', hcu'⟩ := recordTail_again (show (u.withEnv e₂).obj.trust = _ from ht.trans htr) h₂
    exact ⟨.inl ⟨rfl, hcu'.trans hcu⟩, hu.trans hu'⟩
  rename_i hm₁
  rw [if_neg hm₁] at h₂
  split at h
  · -- the trust-roots bundle
    rename_i hm
    rw [if_pos hm] at h₂
    obtain ⟨v₁, ⟨err, h₁, rfl, rfl⟩ | ⟨m, h₁, h⟩⟩ := Prog.exec_bind_cases h
    · refine ⟨failed (lift_status h₁), ?_⟩
      obtain ⟨u₁, ⟨err₂, h₁', rfl, rfl⟩ | ⟨m₂, h₁', -⟩⟩ := Prog.exec_bind_cases h₂
      · exact ⟨.inr ⟨_, rfl⟩, (loadAndInspectCMBundle_lift_again hf h₁ hc h₁').2.1⟩
      · rcases (loadAndInspectCMBundle_lift_again hf h₁ hc h₁').1 with h | ⟨_, h⟩ <;> cases h
    obtain rfl := (loadAndInspectCMBundle_lift_first hf h₁).symm
    -- the second run reads what the first read, or fails there
    have second : u.cluster = v.cluster → ∀ {u₁ : World} {m₂ : CMResult},
        (loadAndInspectCMBundle lib spec).lift.exec u = (.ok m₂, u₁) →
          m₂ = m ∧ Unwritten u u₁ ∧ u₁.cluster = u.cluster := by
      intro hc u₁ m₂ h₁'
      obtain ⟨hm | ⟨_, hm⟩, hu⟩ := loadAndInspectCMBundle_lift_again hf h₁ hc h₁' <;> cases hm
      exact ⟨rfl, hu⟩
    have stop : ∀ {u₁ : World} {err}, (loadAndInspectCMBundle lib spec).lift.exec u = (.error err, u₁) →
        Unwritten u u₁ := unwritten_lift (loadAndInspectCMBundle_holds clockKept lib spec)
    rcases hfps : m.fps with _ | ⟨fp, _ | ⟨fp₁, _ | ⟨fp₂, rest⟩⟩⟩ <;> simp only [hfps] at h
    case nil | cons.cons.cons =>
      -- no fingerprint, or more than two: both runs fail there
      obtain ⟨⟨⟩, rfl⟩ := exec_throw_bind h
      refine ⟨failed rfl, ?_⟩
      obtain ⟨u₁, ⟨_, h₁', rfl, rfl⟩ | ⟨m₂, h₁', h₂⟩⟩ := Prog.exec_bind_cases h₂
      · exact ⟨.inr ⟨_, rfl⟩, stop h₁'⟩
      obtain ⟨rfl, hu, -⟩ := second hc h₁'
      simp only [hfps] at h₂
      obtain ⟨rfl, rfl⟩ := exec_throw_bind h₂
      exact ⟨.inr ⟨_, rfl⟩, hu⟩
    all_goals
      rw [Prog.exec_bind_of_ok (Prog.exec_pure _ _)] at h
      obtain ⟨rfl, htr, hcl, hfv, hid⟩ := recordTail_first hf hs h
      refine ⟨⟨hid, fun _ _ => hfv⟩, ?_⟩
      rw [hcl] at hc
      obtain ⟨u₁, ⟨_, h₁', rfl, rfl⟩ | ⟨m₂, h₁', h₂⟩⟩ := Prog.exec_bind_cases h₂
      · exact ⟨.inr ⟨_, rfl⟩, stop h₁'⟩
      obtain ⟨rfl, hu, hcu⟩ := second hc h₁'
      obtain ⟨e₂, -, rfl⟩ := lift_ok h₁'
      simp only [hfps] at h₂
      rw [Prog.exec_bind_of_ok (Prog.exec_pure _ _)] at h₂
      obtain ⟨rfl, hu', hcu'⟩ := recordTail_again (show (u.withEnv e₂).obj.trust = _ from ht.trans htr) h₂
      exact ⟨.inl ⟨rfl, hcu'.trans hcu⟩, hu.trans hu'⟩
  rename_i hm₂
  rw [if_neg hm₂] at h₂
  split at h
  · -- both triggers: the anchor secrets, then the bundle
    rename_i hm
    rw [if_pos hm] at h₂
    obtain ⟨v₁, ⟨err, h₁, rfl, rfl⟩ | ⟨res, h₁, h⟩⟩ := Prog.exec_bind_cases h
    · refine ⟨failed (lift_status h₁), ?_⟩
      obtain ⟨u₁, ⟨_, h₁', rfl, rfl⟩ | ⟨res₂, h₁', -⟩⟩ := Prog.exec_bind_cases h₂
      · exact ⟨.inr ⟨_, rfl⟩, (ensureTrustSecrets_lift_again hf h₁ hc h₁').2⟩
      · rcases (ensureTrustSecrets_lift_again hf h₁ hc h₁').1 with ⟨h, -⟩ | ⟨_, h⟩ <;> cases h
    have hf₁ := ensureTrustSecrets_lift_faults hf h₁
    obtain ⟨v₂, ⟨err, h₃, rfl, rfl⟩ | ⟨m, h₃, h⟩⟩ := Prog.exec_bind_cases h
    · -- only the bundle read failed the first time
      refine ⟨failed ((lift_status h₃).trans (lift_status h₁)), ?_⟩
      have hc₁ := hc.trans (loadAndInspectCMBundle_lift_cluster h₃)
      obtain ⟨u₁, ⟨_, h₁', rfl, rfl⟩ | ⟨res₂, h₁', h₂⟩⟩ := Prog.exec_bind_cases h₂
      · exact ⟨.inr ⟨_, rfl⟩, (ensureTrustSecrets_lift_again hf h₁ hc₁ h₁').2⟩
      obtain ⟨⟨hr, hcu⟩ | ⟨_, hr⟩, hu⟩ := ensureTrustSecrets_lift_again hf h₁ hc₁ h₁' <;> cases hr
      obtain ⟨u₂, ⟨_, h₃', rfl, rfl⟩ | ⟨m₂, h₃', -⟩⟩ := Prog.exec_bind_cases h₂
      · exact ⟨.inr ⟨_, rfl⟩, hu.trans (loadAndInspectCMBundle_lift_again hf₁ h₃ (hcu.trans hc) h₃').2.1⟩
      · rcases (loadAndInspectCMBundle_lift_again hf₁ h₃ (hcu.trans hc) h₃').1 with h | ⟨_, h⟩ <;> cases h
    obtain rfl := (loadAndInspectCMBundle_lift_first hf₁ h₃).symm
    obtain ⟨e₁, -, rfl⟩ := lift_ok h₁
    obtain ⟨rfl, htr, hcl, hfv, hid⟩ := recordTail_first hf₁ hs h
    refine ⟨⟨hid, fun _ _ => hfv⟩, ?_⟩
    rw [hcl] at hc
    obtain ⟨u₁, ⟨_, h₁', rfl, rfl⟩ | ⟨res₂, h₁', h₂⟩⟩ := Prog.exec_bind_cases h₂
    · exact ⟨.inr ⟨_, rfl⟩, (ensureTrustSecrets_lift_again hf h₁ hc h₁').2⟩
    obtain ⟨⟨hr, hcu⟩ | ⟨_, hr⟩, hu⟩ := ensureTrustSecrets_lift_again hf h₁ hc h₁' <;> cases hr
    obtain ⟨u₂, ⟨_, h₃', rfl, rfl⟩ | ⟨m₂, h₃', h₂⟩⟩ := Prog.exec_bind_cases h₂
    · exact ⟨.inr ⟨_, rfl⟩, hu.trans (loadAndInspectCMBundle_lift_again hf₁ h₃ (hcu.trans hc) h₃').2.1⟩
    obtain ⟨hm | ⟨_, hm⟩, hu₂, hcu₂⟩ := loadAndInspectCMBundle_lift_again hf₁ h₃ (hcu.trans hc) h₃' <;> cases hm
    obtain ⟨e₂, -, rfl⟩ := lift_ok h₁'
    obtain ⟨e₃, -, rfl⟩ := lift_ok h₃'
    obtain ⟨rfl, hu', hcu'⟩ :=
      recordTail_again (show ((u.withEnv e₂).withEnv e₃).obj.trust = _ from ht.trans htr) h₂
    exact ⟨.inl ⟨rfl, hcu'.trans (hcu₂.trans hcu)⟩, hu.trans (hu₂.trans hu')⟩
  -- no trigger enabled: both runs fail before any request
  rename_i hm₃
  rw [Prog.exec_throw] at h
  obtain ⟨rfl, rfl⟩ := Prod.mk.inj h
  rw [if_neg hm₃, Prog.exec_throw] at h₂
  obtain ⟨rfl, rfl⟩ := Prod.mk.inj h₂
  exact ⟨failed rfl, .inr ⟨_, rfl⟩, .refl u⟩


/-- A dry run that failed from a world with no failing request fails again on
the same cluster, writing nothing; the first left the status and the cluster. -/
theorem dryRunPlan_again {v v' u u' : World} {err : String} {r : Except String Unit}
    (hf : v.faults = []) (h : (dryRunPlan lib spec).exec v = (.error err, v')) (hc : u.cluster = v.cluster)
    (h₂ : (dryRunPlan lib spec).exec u = (r, u')) :
    (v'.status = v.status ∧ v'.cluster = v.cluster) ∧ (∃ err, r = .error err) ∧ Unwritten u u' := by
  have hclock := selectLinkerdDataPlane_holds clockKept spec fun _ _ => rfl
  unfold dryRunPlan at h h₂
  obtain ⟨v₁, ⟨e₁, h₁, -, rfl⟩ | ⟨q, h₁, h⟩⟩ := Prog.exec_bind_cases h
  · -- the first selection failed, so the plan of the cluster is an error
    refine ⟨⟨lift_status h₁, ?_⟩, ?_⟩
    · rw [exec_lift] at h₁
      rw [← (Prod.mk.inj h₁).2]
      exact selectLinkerdDataPlane_holds clusterKept spec (fun _ _ => rfl) _ _ _ rfl
    obtain ⟨u₁, ⟨e₂, h₁', rfl, rfl⟩ | ⟨q₂, h₁', -⟩⟩ := Prog.exec_bind_cases h₂
    · exact ⟨⟨_, rfl⟩, unwritten_lift hclock h₁'⟩
    obtain ⟨e₂, he₂, -⟩ := lift_ok h₁'
    have hp := (selectLinkerdDataPlane_ok he₂).1
    rw [show u.env.cluster = v.env.cluster from hc] at hp
    rw [exec_lift, selectLinkerdDataPlane_of_faults_nil hf hp] at h₁
    cases (Prod.mk.inj h₁).1
  -- the first selection succeeded: the dry run failed at its YAML
  obtain ⟨e₁, he₁, rfl⟩ := lift_ok h₁
  have hp := (selectLinkerdDataPlane_ok he₁).1
  rw [selectLinkerdDataPlane_of_faults_nil hf hp] at he₁
  cases (Prod.mk.inj he₁).2
  rcases hy : lib.yamlMarshal (q.map WorkItem.dryRun) with y | s <;> simp only [hy] at h
  case ok =>
    rw [Prog.exec_bind, Prog.exec_pure] at h; dsimp only at h
    cases (patch_of_faults_nil _ _ _ (by exact hf) h).1
  obtain ⟨⟨⟩, rfl⟩ := exec_throw_bind h
  refine ⟨⟨rfl, rfl⟩, ?_⟩
  obtain ⟨u₁, ⟨e₂, h₁', rfl, rfl⟩ | ⟨q₂, h₁', h₂⟩⟩ := Prog.exec_bind_cases h₂
  · exact ⟨⟨_, rfl⟩, unwritten_lift hclock h₁'⟩
  obtain ⟨e₂, he₂, rfl⟩ := lift_ok h₁'
  have hp₂ := (selectLinkerdDataPlane_ok he₂).1
  rw [show u.env.cluster = v.env.cluster from hc, hp] at hp₂
  cases hp₂
  simp only [hy] at h₂
  obtain ⟨rfl, rfl⟩ := exec_throw_bind h₂
  exact ⟨⟨_, rfl⟩, unwritten_lift hclock h₁'⟩


/-- The first run's own facts from `decideBundle_again`. -/
theorem decideBundle_first {v v' : World} {b : Except String BundleState} (hf : v.faults = [])
    (hs : v.obj = v.status) (h : (decideBundle lib spec).exec v = (b, v')) :
    (Idled v.status → Idled v'.status) ∧ ∀ b', b = .ok b' → v'.faults = [] :=
  (decideBundle_again hf hs h (show ({ v' with obj := v'.status } : World).cluster = v'.cluster from rfl) rfl
    (Prod.ext rfl rfl)).1

/-- A quiet stretch stays quiet from any world it passes through. -/
theorem Quiet.right {v₁ v₂ v₃ : World} (hq : Quiet spec v₁ v₃) (h₁ : Grows v₁ v₂) (h₂ : Grows v₂ v₃) :
    Quiet spec v₂ v₃ := by
  obtain ⟨pre, hl, hr⟩ := hq
  obtain ⟨p₁, h₁⟩ := h₁
  obtain ⟨p₂, h₂⟩ := h₂
  have hpre : pre = p₂ ++ p₁ := List.append_cancel_right (by rw [← hl, ← h₂, ← h₁, List.append_assoc])
  exact ⟨p₂, h₂.symm, fun a ha => hr a (hpre ▸ List.mem_append_left _ ha)⟩

/-- From a world whose requests all succeed, the rotation is never quiet. -/
theorem Quiet.not_rotate {v v' : World} {r : Except String Unit} (hq : Quiet spec v v') (hf : v.faults = [])
    (h : (rotate lib spec).exec v = (r, v')) : False := by
  obtain ⟨pre, hl, hr⟩ := hq
  obtain ⟨pre', hl', hd⟩ := rotate_deletes_issuer hf h
  cases List.append_cancel_right (hl.symm.trans hl')
  exact absurd (hr _ hd) (by simp [Action.rotates])

/-- `onBundle` from a world whose requests all succeed, when it takes no
rotation action, neither finishes the dry run nor trips the max-retries
guard: it leaves the world's cluster and status, and an overlapping bundle
took the dry run, which failed. -/
theorem onBundle_first_quiet {b : BundleState} {r : Except String Result} {v v' : World} (hf : v.faults = [])
    (h : (onBundle lib spec b).exec v = (r, v')) (hq : Quiet spec v v') (h0 : r ≠ .ok ⟨0⟩)
    (h60 : r ≠ .ok ⟨60⟩) :
    v'.cluster = v.cluster ∧ v'.status = v.status ∧
      (b = .overlap → spec.dryRun = true ∧ ∃ err, (dryRunPlan lib spec).exec v = (.error err, v')) := by
  unfold onBundle at h
  split at h
  · rename_i hb
    subst hb
    split at h
    · rename_i hd
      obtain ⟨v₁, ⟨err, h₁, rfl, rfl⟩ | ⟨_, h₁, h⟩⟩ := Prog.exec_bind_cases h
      · obtain ⟨⟨hst, hcl⟩, -⟩ := dryRunPlan_again hf h₁ rfl h₁
        exact ⟨hcl, hst, fun _ => ⟨hd, _, h₁⟩⟩
      · rw [Prog.exec_pure] at h
        exact absurd (Prod.mk.inj h).1.symm h0
    rw [Prog.exec_bind_of_ok (Prog.exec_pure _ _), Prog.exec_bind_of_ok (Prog.exec_get _)] at h
    dsimp only at h
    have rotates : ∀ {r' : Except String Result},
        (rotate lib spec >>= fun _ => (Pure.pure ⟨frequency⟩ : Api Result)).exec v = (r', v') → False :=
      fun h => (exec_bind_const h).elim fun _ h => hq.not_rotate hf h
    split at h
    · split at h
      · -- the max-retries guard: its event and its write go through
        rw [Prog.exec_bind_of_ok (exec_emit _ _)] at h
        obtain ⟨v₂, h₂, -⟩ := patch_ok_of_faults_nil _ _ { v with log := _ :: v.log } (by exact hf)
        rw [setPhase, Prog.exec_bind_of_ok h₂, Prog.exec_pure] at h
        exact absurd (Prod.mk.inj h).1.symm h60
      · rw [Prog.exec_bind_of_ok (Prog.exec_pure _ _)] at h
        exact (rotates h).elim
    · rw [Prog.exec_bind_of_ok (Prog.exec_pure _ _)] at h
      exact (rotates h).elim
  · dsimp only at h
    rw [Prog.exec_bind_of_ok (Prog.exec_pure _ _), Prog.exec_pure] at h
    obtain ⟨-, rfl⟩ := Prod.mk.inj h
    exact ⟨rfl, rfl, fun hb => absurd hb ‹_›⟩

end

/-! ### The reconcile, twice -/

section
variable {lib : Lib} {spec : LinkerdTrustRotationSpec}

/-- The start of a reconcile whose requests all succeed, from a fresh read:
it reaches the trust decision with the copy the server's and the status
`Idled`. -/
theorem reconcile_first_start {w : World} (hf : w.faults = []) (hfresh : w.cache = w.status) :
    ∃ v, v.cluster = w.cluster ∧ v.faults = [] ∧ v.obj = v.status ∧ Idled v.status ∧ Grows w v ∧
      (reconcile lib spec).exec w = (decideBundle lib spec >>= onBundle lib spec).exec v := by
  have h₁ : (call.lift).exec w = (.ok (), w) := by rw [exec_lift_call]; simp [World.next, hf]
  obtain ⟨v₃, h₃, hf₃, hc₃⟩ : ∃ v₃, (setPhase (some Phase.idle) (some "")
      (some "Starting to watch for changes to the Linkerd trust anchor certificate")).exec
        { w with obj := w.cache } = (.ok (), v₃) ∧ v₃.faults = [] ∧ v₃.cluster = w.cluster :=
    patch_ok_of_faults_nil _ _ _ hf
  obtain ⟨v₄, h₄, hf₄, hc₄⟩ : ∃ v₄, (setProgress true none none).exec v₃ = (.ok (), v₄) ∧
      v₄.faults = [] ∧ v₄.cluster = v₃.cluster := by
    dsimp only [setProgress]; exact patch_ok_of_faults_nil _ _ _ hf₃
  obtain ⟨hcore₃, hs₃⟩ := patch_ok_core (show ({ w with obj := w.cache } : World).obj = _ from hfresh) h₃
  obtain ⟨hcore₄, hs₄⟩ := @patch_ok_core "SetProgress" (fun st => { st with progress := some ⟨true, 0⟩ }) _ _ hs₃ h₄
  rw [← hs₃] at hcore₃
  have hR := grows_tracks
  refine ⟨v₄, hc₄.trans hc₃, hf₄, hs₄, ⟨?_, ?_, ?_, congrArg LinkerdTrustRotationStatus.progress hcore₄⟩,
    hR.trans (hR.reread w) (hR.trans (setPhase_holds hR.1 _ _ _ _ _ _ h₃) (setProgress_holds hR.1 _ _ _ _ _ _ h₄)),
    by rw [reconcile, Prog.exec_bind_of_ok h₁, Prog.exec_bind_of_ok (Prog.exec_modify _ _),
      Prog.exec_bind_of_ok h₃, Prog.exec_bind_of_ok h₄]⟩
  · exact (congrArg LinkerdTrustRotationStatus.phase hcore₄).trans (congrArg LinkerdTrustRotationStatus.phase hcore₃)
  · exact (congrArg LinkerdTrustRotationStatus.reason hcore₄).trans (congrArg LinkerdTrustRotationStatus.reason hcore₃)
  · exact (congrArg LinkerdTrustRotationStatus.message hcore₄).trans
      (congrArg LinkerdTrustRotationStatus.message hcore₃)

/-- The start of a reconcile that reads an `Idled` status: it fails at its
first request or reaches the trust decision with that status as its copy,
writing nothing either way. -/
theorem reconcile_again_start {u u' : World} {r : Except String Result} (hid : Idled u.cache)
    (h : (reconcile lib spec).exec u = (r, u')) :
    Unwritten u u' ∨ ∃ u₄, Unwritten u u₄ ∧ u₄.cluster = u.cluster ∧ u₄.obj = u.cache ∧
      (decideBundle lib spec >>= onBundle lib spec).exec u₄ = (r, u') := by
  unfold reconcile at h
  obtain ⟨u₁, ⟨err, h₁, -, rfl⟩ | ⟨_, h₁, h⟩⟩ := Prog.exec_bind_cases h
  · exact .inl (unwritten_lift (.call clockKept) h₁)
  obtain ⟨e₁, he₁, hu₁⟩ := lift_ok h₁
  have hc₁ : u₁.cache = u.cache := by rw [hu₁]; rfl
  obtain ⟨hfix₁, hfix₂⟩ := idled_fixed (hc₁ ▸ hid : Idled u₁.cache)
  have h₃ : (setPhase (some Phase.idle) (some "")
      (some "Starting to watch for changes to the Linkerd trust anchor certificate")).exec
        { u₁ with obj := u₁.cache } = (.ok (), { u₁ with obj := u₁.cache }) := patch_of_fixed hfix₁
  have h₄ : (setProgress true none none).exec { u₁ with obj := u₁.cache } =
      (.ok (), { u₁ with obj := u₁.cache }) := by
    dsimp only [setProgress]; exact patch_of_fixed hfix₂
  rw [Prog.exec_bind_of_ok (Prog.exec_modify _ _), Prog.exec_bind_of_ok h₃, Prog.exec_bind_of_ok h₄] at h
  exact .inr ⟨{ u₁ with obj := u₁.cache }, (unwritten_lift (.call clockKept) h₁ : Unwritten u u₁),
    by rw [hu₁, call_ok he₁]; rfl, hc₁, h⟩
end

section
variable {lib : Lib} {spec : LinkerdTrustRotationSpec} {v v' : World}

/-- The trust decision and what follows it, run twice. The first run starts
from a world whose requests all succeed, whose copy is the server's and whose
status is `Idled`; it takes no rotation action, and neither finishes a dry run
nor trips the max-retries guard. The second runs on the cluster the first
left, from a copy of the status it left. The first keeps the status `Idled`;
the second writes nothing. -/
theorem decideAndAct_again {r : Except String Result} (hf : v.faults = []) (hs : v.obj = v.status)
    (hid : Idled v.status) (h : (decideBundle lib spec >>= onBundle lib spec).exec v = (r, v'))
    (hq : Quiet spec v v') (h0 : r ≠ .ok ⟨0⟩) (h60 : r ≠ .ok ⟨60⟩) :
    Idled v'.status ∧ ∀ {u u' : World} {r₂ : Except String Result}, u.cluster = v'.cluster →
      u.obj = v'.status → (decideBundle lib spec >>= onBundle lib spec).exec u = (r₂, u') → Unwritten u u' := by
  obtain ⟨v₅, ⟨err, h₅, rfl, rfl⟩ | ⟨b, h₅, h₆⟩⟩ := Prog.exec_bind_cases h
  · -- the decision failed, and fails again
    refine ⟨(decideBundle_first hf hs h₅).1 hid, fun hc ho h₂ => ?_⟩
    have ht := congrArg LinkerdTrustRotationStatus.trust ho
    obtain ⟨u₅, ⟨_, h₅', -, rfl⟩ | ⟨b₂, h₅', -⟩⟩ := Prog.exec_bind_cases h₂
    · exact (decideBundle_again hf hs h₅ hc ht h₅').2.2
    · obtain ⟨-, ⟨h, -⟩ | ⟨_, h⟩, -⟩ := decideBundle_again hf hs h₅ hc ht h₅' <;> cases h
  obtain ⟨hidf, hff⟩ := decideBundle_first hf hs h₅
  have hf₅ := hff b rfl
  have hR := grows_tracks.1
  obtain ⟨hcl, hst, hov⟩ := onBundle_first_quiet hf₅ h₆
    (hq.right (decideBundle_holds hR lib spec _ _ _ h₅)
      (onBundle_holds hR lib spec (rotate_grows lib spec) b _ _ _ h₆)) h0 h60
  refine ⟨hst ▸ hidf hid, fun hc ho h₂ => ?_⟩
  rw [hcl] at hc
  have ht := congrArg LinkerdTrustRotationStatus.trust (ho.trans hst)
  obtain ⟨u₅, ⟨_, h₅', -, rfl⟩ | ⟨b₂, h₅', h₆'⟩⟩ := Prog.exec_bind_cases h₂
  · exact (decideBundle_again hf hs h₅ hc ht h₅').2.2
  obtain ⟨-, ⟨hb, hcu⟩ | ⟨_, hb⟩, hu⟩ := decideBundle_again hf hs h₅ hc ht h₅' <;> cases hb
  -- the second run decided what the first did
  unfold onBundle at h₆'
  split at h₆'
  · rename_i hb
    obtain ⟨hd, err, hdr⟩ := hov hb
    rw [if_pos hd] at h₆'
    obtain ⟨u₆, ⟨_, h₇, -, rfl⟩ | ⟨_, h₇, -⟩⟩ := Prog.exec_bind_cases h₆'
    · exact hu.trans (dryRunPlan_again hf₅ hdr (hcu.trans hc) h₇).2.2
    · obtain ⟨_, ⟨⟩⟩ := (dryRunPlan_again hf₅ hdr (hcu.trans hc) h₇).2.1
  · dsimp only at h₆'
    rw [Prog.exec_bind_of_ok (Prog.exec_pure _ _), Prog.exec_pure] at h₆'
    obtain ⟨-, rfl⟩ := Prod.mk.inj h₆'
    exact hu


/-- Two reconciles on the same snapshot, the second from the status the first
left. The first meets no failing request and reads a fresh copy. When it takes
no rotation action (no secret deletion, no restart), does not finish a dry run
(requeue `0`) and does not trip the max-retries guard (requeue `60`), that is
when the bundle is single or a configuration error stopped it, the second
writes no status and leaves the clock, so `lastUpdated` too, whatever its
requests return. After a finished dry run or a tripped guard, the second
writes phase `Idle` back as soon as its first two requests succeed. -/
theorem reconcile_again_on_same_snapshot {w : World} (hf : w.faults = []) (hfresh : w.cache = w.status)
    (fs : List (Option String)) :
    let r := (reconcile lib spec).exec w
    (Quiet spec w r.2 → r.1 ≠ .ok ⟨0⟩ → r.1 ≠ .ok ⟨60⟩ →
      Unwritten { r.2 with cache := r.2.status, faults := fs }
        ((reconcile lib spec).exec { r.2 with cache := r.2.status, faults := fs }).2) ∧
    (r.1 = .ok ⟨0⟩ ∨ r.1 = .ok ⟨60⟩ →
      ∃ s pre, ((reconcile lib spec).exec { r.2 with cache := r.2.status, faults := none :: none :: fs }).2.log =
        pre ++ .statusPatched "SetPhase" s :: r.2.log) := by
  intro r
  refine ⟨fun hq h0 h60 => ?_, fun h => reconcile_writes_phase ?_ rfl⟩
  · obtain ⟨v, -, hfv, hs, hid, hg, he⟩ := @reconcile_first_start lib spec w hf hfresh
    have h₁ : (decideBundle lib spec >>= onBundle lib spec).exec v = (r.1, r.2) := he.symm
    have hg₁ : Grows v r.2 := Holds.bind grows_tracks.toTracks (decideBundle_holds grows_tracks.1 lib spec)
      (onBundle_holds grows_tracks.1 lib spec (rotate_grows lib spec)) _ _ _ h₁
    obtain ⟨hid₁, again⟩ := decideAndAct_again hfv hs hid h₁ (hq.right hg hg₁) h0 h60
    rcases reconcile_again_start (show Idled ({ r.2 with cache := r.2.status, faults := fs } : World).cache
      from hid₁) (Prod.ext rfl rfl) with hu | ⟨u₄, hu, hc₄, ho₄, h₄⟩
    · exact hu
    · exact hu.trans (again hc₄ ho₄ h₄)
  · rcases h with h | h
    · exact fun hp => absurd ((reconcile_dryRun_status hfresh h).1.symm.trans hp) (by decide)
    · exact fun hp => absurd ((reconcile_maxRetries_status hfresh h).symm.trans hp) (by decide)

end

theorem reconcile_again_on_same_snapshot_samples :
    (let r := (reconcile Lib.sample sampleSpec).exec agreeingWorld
     Quiet sampleSpec agreeingWorld r.2 ∧ r.1 ≠ .ok ⟨0⟩ ∧ r.1 ≠ .ok ⟨60⟩ ∧
       Unwritten { r.2 with cache := r.2.status, faults := [] }
         ((reconcile Lib.sample sampleSpec).exec { r.2 with cache := r.2.status, faults := [] }).2) ∧
    (let w : World := { World.init with cluster := { secrets := anchorSecrets "a" "b" } }
     let r := (reconcile Lib.sample dryRunSpec).exec w
     r.1 = .ok ⟨0⟩ ∧ ∃ s pre, ((reconcile Lib.sample dryRunSpec).exec
         { r.2 with cache := r.2.status, faults := [none, none] }).2.log =
       pre ++ .statusPatched "SetPhase" s :: r.2.log) :=
  have hq : Quiet sampleSpec agreeingWorld ((reconcile Lib.sample sampleSpec).exec agreeingWorld).2 ∧
      ((reconcile Lib.sample sampleSpec).exec agreeingWorld).1 = .ok ⟨frequency⟩ := by
    refine ⟨⟨_, (List.append_nil _).symm, ?_⟩, ?_⟩ <;>
    simp [agreeingWorld, reconcile, onBundle, decideBundle, ensureTrustSecrets, exec_patch, statusEqual,
      beforeRequest, stamped, World.next, setPhase, setProgress, setTrustInfo, World.init, sampleSpec,
      Lib.sample, findSecret, fingerprintPEMCerts, concatDER, withContext, Env.next, World.env,
      World.withEnv, secretDataKey, sameData, anchorSecrets]
  have h0 : ((reconcile Lib.sample sampleSpec).exec agreeingWorld).1 ≠ .ok ⟨0⟩ := by
    rw [hq.2]; simp [frequency]
  have h60 : ((reconcile Lib.sample sampleSpec).exec agreeingWorld).1 ≠ .ok ⟨60⟩ := by
    rw [hq.2]; simp [frequency]
  have hd : ((reconcile Lib.sample dryRunSpec).exec
      { World.init with cluster := { secrets := anchorSecrets "a" "b" } }).1 = .ok ⟨0⟩ := by
    simp [reconcile, onBundle, decideBundle, ensureTrustSecrets, dryRunPlan, selectLinkerdDataPlane,
      selectScopes, listNamespaces, exec_patch, statusEqual, beforeRequest, stamped, World.next,
      setPhase, setProgress, setTrustInfo, setDryRunOutput, World.init, dryRunSpec, sampleSpec,
      Lib.sample, findSecret, fingerprintPEMCerts, concatDER, withContext, Env.next, World.env,
      World.withEnv, secretDataKey, sameData, scopeError, listScope, pickTemplates, inNamespace,
      hasAnnotationOnTemplate, anchorSecrets]
  ⟨⟨hq.1, h0, h60, (@reconcile_again_on_same_snapshot Lib.sample sampleSpec agreeingWorld rfl rfl []).1
      hq.1 h0 h60⟩,
    hd, (@reconcile_again_on_same_snapshot Lib.sample dryRunSpec _ rfl rfl []).2 (.inl hd)⟩

end TrustRotator
