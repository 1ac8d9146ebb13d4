import TrustRotator.Reconcile.Guard

/-!
When the controller stops rotating.

In a trigger mode that reads the anchor secrets, a reconcile decides an
overlapping bundle only when the two anchor secrets hold different data. They
agree (`PairAgrees`) when one of them is missing or both hold the same data.
Every step of the controller keeps that, whichever path it takes, and the
clean-up of a rotation establishes it: it deletes the previous secret, which
`EnsureTrustSecrets` then creates again only as a copy of the current one
(`reconcile_cleanup_settles`). From a world where they agree, no run takes a
rotation action until a change from outside the controller makes them differ
(`agreeing_anchors_never_rotate`).
-/

namespace TrustRotator

section
variable {c : Cluster} {ns name n : String} {s : Secret}

theorem find?_filter_of_imp {α : Type} {p q : α → Bool} (h : ∀ x, p x = true → q x = true) :
    ∀ l : List α, (l.filter q).find? p = l.find? p
  | [] => rfl
  | x :: l => by
    by_cases hp : p x = true
    · simp [List.filter_cons, h x hp, hp]
    · by_cases hq : q x = true <;> simp [List.filter_cons, hp, hq, find?_filter_of_imp h l]

/-- What a secret deletion leaves to find: nothing under the deleted name, the
same secret under any other. -/
theorem findSecret_filter
    (h : findSecret { c with secrets := c.secrets.filter fun x => !(x.«namespace» = ns ∧ x.name = name) } ns n =
      some s) :
    n ≠ name ∧ findSecret c ns n = some s := by
  unfold findSecret at h ⊢
  have hs := List.find?_some h
  have hm := (List.mem_filter.1 (List.mem_of_find?_eq_some h)).2
  simp only [decide_eq_true_eq] at hs
  have hne : n ≠ name := fun he => by simp [hs.1, hs.2, he] at hm
  refine ⟨hne, ?_⟩
  rw [← h]
  exact (find?_filter_of_imp (fun x hx => by
    simp only [decide_eq_true_eq] at hx
    simp [hx.1, hx.2, hne]) _).symm

end

/-! ### The pair settles -/

section
variable (spec : LinkerdTrustRotationSpec)

/-- The anchor secrets agree at the end if they did at the start, or if the
previous one was deleted on the way. -/
def PairSettles (e e' : Env) : Prop :=
  ∃ pre, e'.actions = pre ++ e.actions ∧
    (PairAgrees spec e.cluster ∨ .secretDeleted spec.linkerd.«namespace» spec.linkerd.previousTrustAnchorSecret ∈ pre →
      PairAgrees spec e'.cluster)

/-- The same, of the world and its log. -/
def WorldSettles (v v' : World) : Prop :=
  ∃ pre, v'.log = pre ++ v.log ∧
    (PairAgrees spec v.cluster ∨
        .did (.secretDeleted spec.linkerd.«namespace» spec.linkerd.previousTrustAnchorSecret) ∈ pre →
      PairAgrees spec v'.cluster)

theorem pairSettles_benign : Benign (PairSettles spec) where
  refl _ := ⟨[], rfl, fun h => h.elim id nofun⟩
  trans := fun ⟨p₁, h₁, q₁⟩ ⟨p₂, h₂, q₂⟩ => ⟨p₂ ++ p₁, by rw [h₂, h₁, List.append_assoc], fun h => q₂ <| by
    rcases h with h | h
    · exact .inl (q₁ (.inl h))
    · exact (List.mem_append.1 h).elim .inr fun h => .inl (q₁ (.inr h))⟩
  faults _ _ := ⟨[], rfl, fun h => h.elim id nofun⟩
  acts a ha := .modify fun _ => ⟨[a], rfl, fun h => h.elim id fun h => by
    obtain rfl := List.mem_singleton.1 h; cases ha⟩
  clock _ _ _ h := by
    rw [exec_now] at h; obtain ⟨-, rfl⟩ := Prod.mk.inj h; exact ⟨[], rfl, fun h => h.elim id nofun⟩
  bumps t _ _ := .modify fun _ => ⟨[], rfl, fun h => h.elim (by cases t <;> exact id) nofun⟩

theorem ensureTrustSecrets_pairSettles (lib : Lib) : ReqHolds (PairSettles spec) (ensureTrustSecrets lib spec) :=
  fun e r e' h => by
    rcases ensureTrustSecrets_bootStep lib spec e r e' h with ⟨hc, ha⟩ | ⟨hn, -, c, hf, hc, ha⟩
    · exact ⟨[], ha, fun h => h.elim (hc ▸ ·) nofun⟩
    refine ⟨[_], ha, fun _ cs ps hcs hps => ?_⟩
    rw [hc, findSecret] at hcs hps
    rw [findSecret] at hf hn
    rw [List.find?_append, hf] at hcs
    rw [List.find?_append, hn] at hps
    simp only [Option.or_some, Option.some.injEq] at hcs
    simp only [Option.none_or, List.find?_singleton] at hps
    split at hps
    · cases hcs; cases hps; rfl
    · cases hps

theorem deleteSecrets_pairSettles (name : String) : ReqHolds (PairSettles spec) (deleteSecrets spec name) := by
  have hE := (pairSettles_benign spec).1
  refine .bind hE (.withContext hE _ (.call hE)) fun _ e _ e' h => ?_
  simp only [updateCluster, Prog.exec_bind, Prog.exec_modify, exec_act, Prod.mk.injEq] at h
  obtain ⟨-, rfl⟩ := h
  refine ⟨[_], rfl, fun h cs ps hcs hps => ?_⟩
  obtain ⟨-, hcs⟩ := findSecret_filter hcs
  obtain ⟨hne, hps⟩ := findSecret_filter hps
  rcases h with h | h
  · exact h cs ps hcs hps
  · cases (List.mem_singleton.1 h); exact absurd rfl hne

theorem worldSettles_chains : Chains (PairSettles spec) (WorldSettles spec) where
  refl _ := ⟨[], rfl, fun h => h.elim id nofun⟩
  trans := fun ⟨p₁, h₁, q₁⟩ ⟨p₂, h₂, q₂⟩ => ⟨p₂ ++ p₁, by rw [h₂, h₁, List.append_assoc], fun h => q₂ <| by
    rcases h with h | h
    · exact .inl (q₁ (.inl h))
    · exact (List.mem_append.1 h).elim .inr fun h => .inl (q₁ (.inr h))⟩
  withEnv v _ := fun ⟨pre, hpre, q⟩ => ⟨pre.map .did, by rw [withEnv_log, hpre]; simp [World.env], fun h =>
    q <| h.imp id fun h => by
      obtain ⟨a, ha, he⟩ := List.mem_map.1 h
      cases he
      simpa [World.env] using ha⟩
  patch _ _ := fun _ _ _ h => by
    rcases patch_cases _ _ _ h with ⟨-, -, rfl⟩ | ⟨-, -, fs, rfl⟩ | ⟨-, -, fs, rfl⟩
    · exact ⟨[], rfl, fun h => h.elim id nofun⟩
    · exact ⟨[], rfl, fun h => h.elim id nofun⟩
    · exact ⟨[_], rfl, fun h => h.elim id fun h => by simp at h⟩
  observe _ _ := ⟨[_], rfl, fun h => h.elim id fun h => by simp at h⟩
  event _ _ _ := ⟨[_], rfl, fun h => h.elim id fun h => by simp at h⟩

theorem reconcile_settles (lib : Lib) : Holds (WorldSettles spec) (reconcile lib spec) :=
  reconcile_chains (worldSettles_chains spec) (pairSettles_benign spec) lib spec
    (ensureTrustSecrets_pairSettles spec lib) (fun name _ => deleteSecrets_pairSettles spec name)
    fun _ => ⟨[], rfl, fun h => h.elim id nofun⟩

/-- A reconcile that deleted the previous anchor secret, whatever else its
requests returned, ends with the anchor secrets agreeing: the previous one is
missing, or was created again as a copy of the current one. -/
theorem reconcile_cleanup_settles (lib : Lib) (w : World) :
    ∃ pre, ((reconcile lib spec).exec w).2.log = pre ++ w.log ∧
      (Effect.did (.secretDeleted spec.linkerd.«namespace» spec.linkerd.previousTrustAnchorSecret) ∈ pre →
        PairAgrees spec ((reconcile lib spec).exec w).2.cluster) :=
  let ⟨pre, hl, q⟩ := reconcile_settles spec lib w _ _ (Prod.ext rfl rfl)
  ⟨pre, hl, fun h => q (.inr h)⟩

end

/-! ### Agreeing anchors never rotate -/

section
variable {lib : Lib} {spec : LinkerdTrustRotationSpec}

/-- A trigger decision that reads the anchor secrets, from a cluster where they
agree, decides `single`. -/
theorem decideBundle_single_of_agree {v v' : World} {b : BundleState}
    (ht : spec.trigger.onTrustAnchorSecretsDiff = true) (hp : PairAgrees spec v.cluster)
    (h : (decideBundle lib spec).exec v = (.ok b, v')) : b = .single := by
  have tail : ∀ {v₁ : World} {b' c p}, ((emit (.observed b') >>= fun _ => setTrustInfo (some b') c p >>=
      fun _ => (Pure.pure b' : Api BundleState)).exec v₁ = (.ok b, v')) → b = b' := fun h => by
    obtain ⟨_, _, -, h⟩ := Prog.exec_bind_ok h
    obtain ⟨_, _, -, h⟩ := Prog.exec_bind_ok h
    exact (Except.ok.inj (Prod.mk.inj h).1).symm
  unfold decideBundle at h
  dsimp only at h
  split at h
  · obtain ⟨res, v₁, h₁, h₂⟩ := Prog.exec_bind_ok h
    obtain ⟨e, he, -⟩ := lift_ok h₁
    rw [tail h₂, ensureTrustSecrets_not_diverged he hp]
    rfl
  split at h
  · rename_i hm
    exact absurd ht (by simpa using hm.2)
  split at h
  · obtain ⟨res, v₁, h₁, h₂⟩ := Prog.exec_bind_ok h
    obtain ⟨_, v₂, -, h₃⟩ := Prog.exec_bind_ok h₂
    obtain ⟨e, he, -⟩ := lift_ok h₁
    rw [tail h₃, ensureTrustSecrets_not_diverged he hp]
    simp
  · cases (Prod.mk.inj h).1

/-- In a trigger mode that reads the anchor secrets, from a world where they
agree, no run takes a rotation action or moves the server's retry count,
under any outcome of its requests, as long as its outside changes keep them
agreeing; and they still agree at the end. -/
theorem agreeing_anchors_never_rotate (ht : spec.trigger.onTrustAnchorSecretsDiff = true) {w : World}
    (hw : PairAgrees spec w.cluster) (steps : List Step)
    (hch : ∀ f, Step.change f ∈ steps → ∀ c, PairAgrees spec c → PairAgrees spec (f c)) :
    PairAgrees spec (run lib spec w steps).cluster ∧ Quiet spec w (run lib spec w steps) ∧
      KeepsCount w (run lib spec w steps) := by
  refine run_quiet (fun v => PairAgrees spec v.cluster) (fun _ h => h) (fun v hv => ⟨?_, ?_⟩) steps
    (fun f hf v hv => hch f hf _ hv) w hw
  · obtain ⟨_, -, q⟩ := reconcile_settles spec lib v _ _ (Prod.ext rfl rfl)
    exact q (.inl hv)
  · rcases reconcile_cases (Prod.ext rfl rfl : (reconcile lib spec).exec v = (_, _)) with
      hq | ⟨-, -, ⟨v₁, v₂, hv₁, hb⟩, -⟩
    · exact hq
    · cases decideBundle_single_of_agree ht (hv₁ ▸ hv) hb

end

/-- Both anchor secrets of `sampleSpec`, holding the same certificate. -/
def agreeingWorld : World := { World.init with cluster := { secrets := anchorSecrets "a" "a" } }

theorem agreeing_anchors_never_rotate_sample :
    sampleSpec.trigger.onTrustAnchorSecretsDiff = true ∧ PairAgrees sampleSpec agreeingWorld.cluster ∧
      PairAgrees sampleSpec (run Lib.sample sampleSpec agreeingWorld [.reconcile, .sync, .reconcile]).cluster ∧
      Quiet sampleSpec agreeingWorld (run Lib.sample sampleSpec agreeingWorld [.reconcile, .sync, .reconcile]) ∧
      KeepsCount agreeingWorld (run Lib.sample sampleSpec agreeingWorld [.reconcile, .sync, .reconcile]) := by
  have hw : PairAgrees sampleSpec agreeingWorld.cluster := fun cs ps hc hp => by
    simp only [findSecret, agreeingWorld, anchorSecrets, sampleSpec] at hc hp
    simp at hc hp
    rw [← hc, ← hp]
  exact ⟨rfl, hw, agreeing_anchors_never_rotate rfl hw _ (by simp)⟩

end TrustRotator
