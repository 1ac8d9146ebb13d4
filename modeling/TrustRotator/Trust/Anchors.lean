import TrustRotator.Reconcile.TrustInfo

/-!
# The anchor secrets and the PEM readers

`EnsureTrustSecrets` is documented never to overwrite an existing previous
secret. Every run of it, whatever its requests return, leaves the cluster and
the actions as they were, or adds exactly one secret, the previous anchor
secret as a copy of the current one annotated as created, and logs that
create; the latter only when the previous secret is missing and bootstrapping
is on (`ensureTrustSecrets_bootStep`). A run that succeeds reports the
fingerprints of the pair it read and whether their data differ
(`ensureTrustSecrets_ok`): a pair it has just bootstrapped never differs, nor
does a pair that agreed (`PairAgrees`) when it started.

Read again, the trust inputs give the same answer. With no failing request,
`EnsureTrustSecrets` returns the pair it finds, or the pair it bootstraps
(`ensureTrustSecrets_of_readsPair`), so a second run on the cluster a first
run left reports what the first reported and writes nothing, or fails
(`ensureTrustSecrets_again`); likewise `LoadAndInspectCMBundle` on the same
cluster (`loadAndInspectCMBundle_again`).

The trust-roots bundle and the anchor secrets are read by two loops over
`pem.Decode`, `parsePEMCerts` and `concatDER`. Both skip the blocks of other
types and stop at the first certificate that does not parse, with that
certificate's error; otherwise the first returns the certificates and the
second their concatenation (`pem_readers_agree`).
-/

namespace TrustRotator

/-! ### The anchor secrets -/

/-- The previous anchor secret as `bootstrapPreviousSecrets` creates it from the current one. -/
def bootstrapCopy (spec : LinkerdTrustRotationSpec) (cSecret : Secret) : Secret :=
  ⟨spec.linkerd.«namespace», spec.linkerd.previousTrustAnchorSecret, [( secretAnnotation, "true")], cSecret.data⟩

/-- What `EnsureTrustSecrets` may do to the cluster: nothing, or, when the
previous secret is missing and bootstrapping is on, add it as a copy of the
current one and log that. -/
def BootStep (spec : LinkerdTrustRotationSpec) (e e' : Env) : Prop :=
  (e'.cluster = e.cluster ∧ e'.actions = e.actions) ∨
    (findSecret e.cluster spec.linkerd.«namespace» spec.linkerd.previousTrustAnchorSecret = none ∧
      spec.linkerd.bootstrapPreviousSecret = true ∧
      ∃ c, findSecret e.cluster spec.linkerd.«namespace» spec.linkerd.trustAnchorSecret = some c ∧
        e'.cluster = { e.cluster with secrets := e.cluster.secrets ++ [bootstrapCopy spec c] } ∧
        e'.actions = .secretCreated spec.linkerd.«namespace» spec.linkerd.previousTrustAnchorSecret :: e.actions)

theorem findSecret_append_bootstrapCopy (spec : LinkerdTrustRotationSpec) (cl : Cluster) (c : Secret) :
    findSecret { cl with secrets := cl.secrets ++ [bootstrapCopy spec c] } spec.linkerd.«namespace»
      spec.linkerd.previousTrustAnchorSecret ≠ none := by
  simp [findSecret, List.find?_append, bootstrapCopy]

theorem bootStep_tracks (spec : LinkerdTrustRotationSpec) : EnvTracks (BootStep spec) where
  refl _ := .inl ⟨rfl, rfl⟩
  trans := by
    rintro e₁ e₂ e₃ (⟨hc₁, ha₁⟩ | ⟨hn₁, hb₁, c₁, hf₁, hc₁, ha₁⟩) (⟨hc₂, ha₂⟩ | ⟨hn₂, hb₂, c₂, hf₂, hc₂, ha₂⟩)
    · exact .inl ⟨hc₂.trans hc₁, ha₂.trans ha₁⟩
    · rw [hc₁] at hn₂ hf₂ hc₂
      exact .inr ⟨hn₂, hb₂, c₂, hf₂, hc₂, by rw [ha₂, ha₁]⟩
    · exact .inr ⟨hn₁, hb₁, c₁, hf₁, hc₂.trans hc₁, ha₂.trans ha₁⟩
    · rw [hc₁] at hn₂
      exact absurd hn₂ (findSecret_append_bootstrapCopy spec _ _)
  faults _ _ := .inl ⟨rfl, rfl⟩

/-- A request that succeeded or failed changed nothing but the outcomes left. -/
theorem call_env {r : Except String Unit} {e e' : Env} (h : call.exec e = (r, e')) :
    e' = { e with faults := e'.faults } := by
  rw [exec_call] at h
  obtain ⟨-, rfl⟩ := Prod.mk.inj h
  exact e.next_snd

/-- `bootstrapPreviousSecrets` either fails at its request, or appends the copy and logs the create. -/
theorem bootstrapPreviousSecrets_cases {spec : LinkerdTrustRotationSpec} {c : Secret} {r : Except String Unit}
    {e e' : Env} (h : (bootstrapPreviousSecrets spec c).exec e = (r, e')) :
    ((∃ err, r = .error err) ∧ e' = { e with faults := e'.faults }) ∨
      (r = .ok () ∧ e' = { e with
        faults := e'.faults
        cluster := { e.cluster with secrets := e.cluster.secrets ++ [bootstrapCopy spec c] }
        actions := .secretCreated spec.linkerd.«namespace» spec.linkerd.previousTrustAnchorSecret :: e.actions }) := by
  obtain ⟨e₁, ⟨err, h₁, rfl, rfl⟩ | ⟨_, h₁, h⟩⟩ := Prog.exec_bind_cases h
  · exact .inl ⟨⟨err, rfl⟩, call_env h₁⟩
  simp only [updateCluster, Prog.exec_bind, Prog.exec_modify, exec_act] at h
  obtain ⟨rfl, rfl⟩ := Prod.mk.inj h
  rw [call_env h₁]
  exact .inr ⟨rfl, rfl⟩

theorem ensureTrustSecrets_bootStep (lib : Lib) (spec : LinkerdTrustRotationSpec) :
    ReqHolds (BootStep spec) (ensureTrustSecrets lib spec) := by
  have hR := bootStep_tracks spec
  intro e r e' h
  unfold ensureTrustSecrets at h
  obtain ⟨e₁, ⟨err, h₁, -, rfl⟩ | ⟨_, h₁, h⟩⟩ := Prog.exec_bind_cases h
  · exact ReqHolds.call hR _ _ _ h₁
  obtain ⟨e₂, ⟨err, h₂, -, rfl⟩ | ⟨_, h₂, h⟩⟩ := Prog.exec_bind_cases h
  · cases h₂
  rw [Prog.exec_get] at h₂
  obtain ⟨h₂, rfl⟩ := Prod.mk.inj h₂
  cases h₂
  refine hR.trans (ReqHolds.call hR _ _ _ h₁) ?_
  split at h
  · rename_i c hc
    obtain ⟨e₂, ⟨err, h₃, -, rfl⟩ | ⟨_, h₃, h⟩⟩ := Prog.exec_bind_cases h
    · exact ReqHolds.call hR _ _ _ h₃
    obtain ⟨e₃, ⟨err, h₄, -, rfl⟩ | ⟨_, h₄, h⟩⟩ := Prog.exec_bind_cases h
    · cases h₄
    rw [Prog.exec_get] at h₄
    obtain ⟨h₄, rfl⟩ := Prod.mk.inj h₄
    cases h₄
    refine hR.trans (ReqHolds.call hR _ _ _ h₃) ?_
    have hc₂ : e₂.cluster = e₁.cluster := by rw [call_env h₃]
    dsimp only at h
    split at h
    · refine (?_ : ReqHolds (BootStep spec) _) _ _ _ h
      repeat' first | exact .pure hR _ | exact .throw hR _ | refine .bind hR ?_ fun _ => ?_ | split
    · rename_i hp
      split at h
      · rename_i hb
        have boot : ∀ {r e₄}, (bootstrapPreviousSecrets spec c).exec e₂ = (r, e₄) → BootStep spec e₂ e₄ :=
          fun h₅ => by
          rcases bootstrapPreviousSecrets_cases h₅ with ⟨-, h₆⟩ | ⟨-, h₆⟩ <;> rw [h₆]
          · exact hR.faults _ _
          · exact .inr ⟨hp, hb, c, hc₂ ▸ hc, rfl, rfl⟩
        obtain ⟨e₃, ⟨err, h₅, -, rfl⟩ | ⟨_, h₅, h⟩⟩ := Prog.exec_bind_cases h
        · exact boot h₅
        refine hR.trans (boot h₅) ((?_ : ReqHolds (BootStep spec) _) _ _ _ h)
        repeat' first
          | exact .pure hR _ | exact .throw hR _ | exact .call hR | exact .get hR
          | refine .bind hR ?_ fun _ => ?_ | split
      · simp only [Prog.exec_bind, Prog.exec_throw] at h
        obtain ⟨-, rfl⟩ := Prod.mk.inj h
        exact hR.refl _
  · exact (ReqHolds.throw hR _) _ _ _ h

/-- Every run of `EnsureTrustSecrets`, under any outcome of its requests, is a
`BootStep`: it never overwrites or deletes a secret, and it creates only the
previous anchor secret, as a copy of the current one, when that is missing and
bootstrapping is on. -/
theorem ensureTrustSecrets_only_bootstraps (lib : Lib) (spec : LinkerdTrustRotationSpec) (e : Env) :
    BootStep spec e ((ensureTrustSecrets lib spec).exec e).2 :=
  ensureTrustSecrets_bootStep lib spec e _ _ rfl

/-- What `EnsureTrustSecrets` reports of the pair `(c, p)` of anchor secrets it read. -/
def ReadsPair (lib : Lib) (c p : Secret) (res : SecretResult) : Prop :=
  fingerprintPEMCerts lib ((c.data.lookup secretDataKey).getD "") = .ok res.currentFP ∧
    fingerprintPEMCerts lib ((p.data.lookup secretDataKey).getD "") = .ok res.previousFP ∧
    res.createdPrevious = (p.annotations.lookup secretAnnotation == some "true") ∧
    res.diverged = !sameData c.data p.data

theorem readsPair_of_tail {lib : Lib} {c p : Secret} {res : SecretResult} {e e' : Env}
    (h : (do
      let currentFP ← match fingerprintPEMCerts lib ((c.data.lookup secretDataKey).getD "") with
        | .ok fp => pure fp
        | .error e => throw e
      let previousFP ← match fingerprintPEMCerts lib ((p.data.lookup secretDataKey).getD "") with
        | .ok fp => pure fp
        | .error e => throw e
      pure ({ createdPrevious := p.annotations.lookup secretAnnotation == some "true"
              currentFP, previousFP
              diverged := !sameData c.data p.data } : SecretResult) : Req SecretResult).exec e = (.ok res, e')) :
    ReadsPair lib c p res ∧ e' = e := by
  dsimp only at h
  split at h <;> rename_i hc
  · simp only [Prog.exec_bind, Prog.exec_pure] at h
    split at h <;> rename_i hp
    · simp only [Prog.exec_bind, Prog.exec_pure, Prod.mk.injEq, Except.ok.injEq] at h
      obtain ⟨rfl, rfl⟩ := h
      exact ⟨⟨hc, hp, rfl, rfl⟩, rfl⟩
    · simp at h
  · simp at h

theorem ensureTrustSecrets_ok {lib : Lib} {spec : LinkerdTrustRotationSpec} {e e' : Env} {res : SecretResult}
    (h : (ensureTrustSecrets lib spec).exec e = (.ok res, e')) :
    ∃ c p, findSecret e.cluster spec.linkerd.«namespace» spec.linkerd.trustAnchorSecret = some c ∧
      (findSecret e.cluster spec.linkerd.«namespace» spec.linkerd.previousTrustAnchorSecret = some p ∨
        findSecret e.cluster spec.linkerd.«namespace» spec.linkerd.previousTrustAnchorSecret = none ∧
          spec.linkerd.bootstrapPreviousSecret = true ∧ p = bootstrapCopy spec c) ∧
      ReadsPair lib c p res := by
  unfold ensureTrustSecrets at h
  obtain ⟨_, e₁, h₁, h⟩ := Prog.exec_bind_ok h
  obtain ⟨_, e₂, h₂, h⟩ := Prog.exec_bind_ok h
  rw [Prog.exec_get] at h₂
  obtain ⟨h₂, rfl⟩ := Prod.mk.inj h₂
  cases h₂
  have hc₁ : e₁.cluster = e.cluster := by rw [call_env h₁]
  split at h
  · rename_i c hc
    obtain ⟨_, e₂, h₃, h⟩ := Prog.exec_bind_ok h
    obtain ⟨_, e₃, h₄, h⟩ := Prog.exec_bind_ok h
    rw [Prog.exec_get] at h₄
    obtain ⟨h₄, rfl⟩ := Prod.mk.inj h₄
    cases h₄
    have hc₂ : e₂.cluster = e.cluster := by rw [call_env h₃, hc₁]
    dsimp only at h
    split at h
    · rename_i p hp
      obtain ⟨_, e₄, h₅, h⟩ := Prog.exec_bind_ok h
      rw [Prog.exec_pure] at h₅
      obtain ⟨h₅, rfl⟩ := Prod.mk.inj h₅
      cases h₅
      exact ⟨c, p, hc₁ ▸ hc, .inl (hc₂ ▸ hp), (readsPair_of_tail h).1⟩
    · rename_i hp
      split at h <;> rename_i hb
      · obtain ⟨_, e₄, h₅, h⟩ := Prog.exec_bind_ok h
        rcases bootstrapPreviousSecrets_cases h₅ with ⟨⟨_, he⟩, -⟩ | ⟨-, he₄⟩
        · cases he
        obtain ⟨_, e₅, h₆, h⟩ := Prog.exec_bind_ok h
        obtain ⟨_, e₆, h₇, h⟩ := Prog.exec_bind_ok h
        rw [Prog.exec_get] at h₇
        obtain ⟨h₇, rfl⟩ := Prod.mk.inj h₇
        cases h₇
        have hf : findSecret e₅.cluster spec.linkerd.«namespace» spec.linkerd.previousTrustAnchorSecret =
            some (bootstrapCopy spec c) := by
          have hcl : e₅.cluster = { e₂.cluster with secrets := e₂.cluster.secrets ++ [bootstrapCopy spec c] } := by
            rw [call_env h₆]
            exact congrArg Env.cluster he₄
          rw [findSecret] at hp
          rw [findSecret, hcl, List.find?_append, hp]
          simp [bootstrapCopy]
        simp only [hf] at h
        obtain ⟨_, e₇, h₈, h⟩ := Prog.exec_bind_ok h
        rw [Prog.exec_pure] at h₈
        obtain ⟨h₈, rfl⟩ := Prod.mk.inj h₈
        cases h₈
        exact ⟨c, _, hc₁ ▸ hc, .inr ⟨hc₂ ▸ hp, hb, rfl⟩, (readsPair_of_tail h).1⟩
      · simp at h
  · simp at h

theorem sameData_self (a : List (String × String)) : sameData a a = true :=
  List.all_eq_true.2 fun _ _ => beq_self_eq_true _

/-- The two anchor secrets hold the same data, when both exist. -/
def PairAgrees (spec : LinkerdTrustRotationSpec) (c : Cluster) : Prop :=
  ∀ cs ps, findSecret c spec.linkerd.«namespace» spec.linkerd.trustAnchorSecret = some cs →
    findSecret c spec.linkerd.«namespace» spec.linkerd.previousTrustAnchorSecret = some ps → cs.data = ps.data

/-- A run from anchor secrets that agree reports no divergence: either it read
the agreeing pair, or it bootstrapped the previous secret as a copy. -/
theorem ensureTrustSecrets_not_diverged {lib : Lib} {spec : LinkerdTrustRotationSpec} {e e' : Env}
    {res : SecretResult} (h : (ensureTrustSecrets lib spec).exec e = (.ok res, e'))
    (hp : PairAgrees spec e.cluster) : res.diverged = false := by
  obtain ⟨c, p, hc, hp' | ⟨-, -, rfl⟩, -, -, -, hd⟩ := ensureTrustSecrets_ok h
  · rw [hd, ← hp c p hc hp', sameData_self]; rfl
  · rw [hd, bootstrapCopy, sameData_self]; rfl

/-! ### Reading the trust inputs again -/

section
variable {lib : Lib} {spec : LinkerdTrustRotationSpec}

theorem findSecret_append_of_some {cl : Cluster} {ns n : String} {s : Secret}
    (h : findSecret cl ns n = some s) (x : Secret) :
    findSecret { cl with secrets := cl.secrets ++ [x] } ns n = some s := by
  rw [findSecret] at h ⊢
  rw [List.find?_append, h]
  rfl

theorem findSecret_bootstrapCopy {cl : Cluster} (c : Secret)
    (h : findSecret cl spec.linkerd.«namespace» spec.linkerd.previousTrustAnchorSecret = none) :
    findSecret { cl with secrets := cl.secrets ++ [bootstrapCopy spec c] } spec.linkerd.«namespace»
      spec.linkerd.previousTrustAnchorSecret = some (bootstrapCopy spec c) := by
  rw [findSecret] at h ⊢
  rw [List.find?_append, h]
  simp [bootstrapCopy]

/-- `EnsureTrustSecrets` leaves the clock as it was. -/
theorem ensureTrustSecrets_clock (lib : Lib) (spec : LinkerdTrustRotationSpec) :
    ReqHolds (fun e e' => e'.clock = e.clock) (ensureTrustSecrets lib spec) := by
  have hR := clockKept
  unfold ensureTrustSecrets bootstrapPreviousSecrets updateCluster act
  repeat' first
    | with_reducible exact .pure hR _ | with_reducible exact .throw hR _ | with_reducible exact .get hR
    | with_reducible exact .call hR | with_reducible exact .modify fun _ => rfl
    | with_reducible refine .bind hR ?_ fun _ => ?_ | split

/-- With no failing request, `EnsureTrustSecrets` reports the pair it finds,
or bootstraps the missing previous secret and reports the pair it made. -/
theorem ensureTrustSecrets_of_readsPair {e : Env} {c p : Secret} {res : SecretResult} (hf : e.faults = [])
    (hc : findSecret e.cluster spec.linkerd.«namespace» spec.linkerd.trustAnchorSecret = some c)
    (hr : ReadsPair lib c p res) :
    (findSecret e.cluster spec.linkerd.«namespace» spec.linkerd.previousTrustAnchorSecret = some p →
      (ensureTrustSecrets lib spec).exec e = (.ok res, e)) ∧
    (findSecret e.cluster spec.linkerd.«namespace» spec.linkerd.previousTrustAnchorSecret = none →
      spec.linkerd.bootstrapPreviousSecret = true → p = bootstrapCopy spec c →
      (ensureTrustSecrets lib spec).exec e = (.ok res, { e with
        cluster := { e.cluster with secrets := e.cluster.secrets ++ [bootstrapCopy spec c] }
        actions := .secretCreated spec.linkerd.«namespace» spec.linkerd.previousTrustAnchorSecret :: e.actions })) := by
  obtain ⟨h₁, h₂, h₃, h₄⟩ := hr
  rcases res with ⟨cp, cf, pf, d⟩
  dsimp only at h₁ h₂ h₃ h₄
  subst h₃ h₄
  refine ⟨fun hp => ensureTrustSecrets_present hf hc hp h₁ h₂, fun hp hb hpc => ?_⟩
  subst hpc
  have hp' := findSecret_bootstrapCopy c hp
  have hcp : cf = pf := Except.ok.inj (h₁.symm.trans h₂)
  subst hcp
  simp only [bootstrapCopy] at hp' ⊢
  simp [ensureTrustSecrets, bootstrapPreviousSecrets, updateCluster, Env.next, hf, hc, hp, hb, hp', h₁,
    sameData_self]

/-- `EnsureTrustSecrets` from an environment with no failing request that
succeeded leaves no failing request. -/
theorem ensureTrustSecrets_faults {e e' : Env} {res : SecretResult} (hf : e.faults = [])
    (h : (ensureTrustSecrets lib spec).exec e = (.ok res, e')) : e'.faults = [] := by
  obtain ⟨c, p, hc, hp | ⟨hn, hb, rfl⟩, hr⟩ := ensureTrustSecrets_ok h
  · rw [(ensureTrustSecrets_of_readsPair hf hc hr).1 hp] at h
    rw [← (Prod.mk.inj h).2]; exact hf
  · rw [(ensureTrustSecrets_of_readsPair hf hc hr).2 hn hb rfl] at h
    rw [← (Prod.mk.inj h).2]; exact hf

/-- `EnsureTrustSecrets` run again on the cluster a first run left, the first
run meeting no failing request, reports what the first reported, and then
leaves the cluster; or it fails. -/
theorem ensureTrustSecrets_again {e e' e₂ e₂' : Env} {r r₂ : Except String SecretResult} (hf : e.faults = [])
    (h : (ensureTrustSecrets lib spec).exec e = (r, e')) (hc : e₂.cluster = e'.cluster)
    (h₂ : (ensureTrustSecrets lib spec).exec e₂ = (r₂, e₂')) :
    (r₂ = r ∧ e₂'.cluster = e₂.cluster) ∨ ∃ err, r₂ = .error err := by
  rcases r₂ with err | res
  · exact .inr ⟨err, rfl⟩
  obtain ⟨c, p, hc₂, hp₂, hr⟩ := ensureTrustSecrets_ok h₂
  rw [hc] at hc₂ hp₂
  -- the first run read the same pair, and left the previous secret in place
  obtain ⟨rfl, hp⟩ : r = .ok res ∧
      findSecret e'.cluster spec.linkerd.«namespace» spec.linkerd.previousTrustAnchorSecret = some p := by
    rcases ensureTrustSecrets_bootStep lib spec e r e' h with ⟨hcl, -⟩ | ⟨hn, hb, c₀, hc₀, hcl, -⟩
    · rw [hcl] at hc₂
      have hrun := ensureTrustSecrets_of_readsPair hf hc₂ hr
      rcases hp₂ with hp | ⟨hn, hb, rfl⟩
      · rw [hrun.1 (hcl ▸ hp)] at h
        exact ⟨(Prod.mk.inj h).1.symm, hp⟩
      · rw [hrun.2 (hcl ▸ hn) hb rfl] at h
        rw [← (Prod.mk.inj h).2] at hn
        exact absurd hn (findSecret_append_bootstrapCopy spec _ _)
    · rw [hcl, findSecret_append_of_some hc₀] at hc₂
      have hcc : c₀ = c := Option.some.inj hc₂
      subst hcc
      rw [hcl, findSecret_bootstrapCopy _ hn] at hp₂ ⊢
      obtain rfl : p = bootstrapCopy spec c₀ :=
        hp₂.elim (fun h => (Option.some.inj h).symm) fun ⟨h, _⟩ => by cases h
      rw [(ensureTrustSecrets_of_readsPair hf hc₀ hr).2 hn hb rfl] at h
      exact ⟨(Prod.mk.inj h).1.symm, rfl⟩
  refine .inl ⟨rfl, ?_⟩
  rcases ensureTrustSecrets_bootStep lib spec e₂ _ e₂' h₂ with ⟨hcl, -⟩ | ⟨hn, -⟩
  · exact hcl
  · rw [hc, hp] at hn; cases hn

/-- What `LoadAndInspectCMBundle` reports of the cluster `cl`: the bundle's
certificates, their fingerprints sorted, and `single` or `overlap` by their
number. -/
def CMReads (lib : Lib) (spec : LinkerdTrustRotationSpec) (cl : Cluster) (m : CMResult) : Prop :=
  ∃ cm raw, cl.configMaps.find? (fun c => c.«namespace» = spec.linkerd.«namespace» ∧
      c.name = spec.linkerd.trustRootsConfigMap) = some cm ∧
    cm.data.lookup configMapDataKey = some raw ∧ blank raw = false ∧ parsePEMCerts lib raw = .ok m.certs ∧
    m.certs ≠ [] ∧
    m.fps = (m.certs.map fun c => lowerASCII (lib.sha256Hex c)).insertionSort (fun a b => !stringLess b a) ∧
    m.state = if m.certs.length = 1 then .single else .overlap

/-- What a successful `LoadAndInspectCMBundle` reports. -/
theorem loadAndInspectCMBundle_ok {e e' : Env} {m : CMResult}
    (h : (loadAndInspectCMBundle lib spec).exec e = (.ok m, e')) : CMReads lib spec e.cluster m := by
  unfold loadAndInspectCMBundle at h
  obtain ⟨_, e₁, h₁, h⟩ := Prog.exec_bind_ok h
  have hc₁ : e₁.cluster = e.cluster := by rw [call_env (withContext_ok h₁)]
  obtain ⟨_, e₂, h₂, h⟩ := Prog.exec_bind_ok h
  rw [Prog.exec_get] at h₂
  obtain ⟨h₂, rfl⟩ := Prod.mk.inj h₂
  cases h₂
  rw [hc₁] at h
  rcases hcm : List.find? (fun c => decide (c.«namespace» = spec.linkerd.«namespace» ∧
    c.name = spec.linkerd.trustRootsConfigMap)) e.cluster.configMaps with _ | cm <;> simp only [hcm] at h
  · simp at h
  rcases hraw : cm.data.lookup configMapDataKey with _ | raw <;> simp only [hraw] at h
  · simp at h
  cases hb : blank raw <;> simp only [hb, Bool.false_eq_true, ↓reduceIte] at h
  · rcases hp : parsePEMCerts lib raw with err | certs <;> simp only [hp] at h
    · simp at h
    rcases certs with _ | ⟨c₀, _ | ⟨c₁, cs⟩⟩ <;> simp at h <;> obtain ⟨rfl, -⟩ := h
    all_goals exact ⟨cm, raw, hcm, hraw, hb, hp, List.cons_ne_nil _ _, by simp, by simp⟩
  · simp at h

/-- With no failing request, `LoadAndInspectCMBundle` reports what the cluster holds. -/
theorem loadAndInspectCMBundle_of_faults_nil {e : Env} {m : CMResult} (hf : e.faults = [])
    (hm : CMReads lib spec e.cluster m) : (loadAndInspectCMBundle lib spec).exec e = (.ok m, e) := by
  obtain ⟨cm, raw, hcm, hraw, hb, hp, hne, hfps, hs⟩ := hm
  rcases m with ⟨certs, fps, st⟩
  dsimp only at hp hne hfps hs
  subst hfps hs
  simp only [Bool.decide_and] at hcm
  rcases certs with _ | ⟨c₀, _ | ⟨c₁, cs⟩⟩
  · exact absurd rfl hne
  · simp [loadAndInspectCMBundle, withContext, Env.next, hf, hcm, hraw, hb, hp]
  · simp [loadAndInspectCMBundle, withContext, Env.next, hf, hcm, hraw, hb, hp]

/-- `LoadAndInspectCMBundle` run again on the same cluster reports what the
first run, meeting no failing request, reported; or it fails. -/
theorem loadAndInspectCMBundle_again {e e' e₂ e₂' : Env} {r r₂ : Except String CMResult} (hf : e.faults = [])
    (h : (loadAndInspectCMBundle lib spec).exec e = (r, e')) (hc : e₂.cluster = e.cluster)
    (h₂ : (loadAndInspectCMBundle lib spec).exec e₂ = (r₂, e₂')) : r₂ = r ∨ ∃ err, r₂ = .error err := by
  rcases r₂ with err | m
  · exact .inr ⟨err, rfl⟩
  have hm := loadAndInspectCMBundle_ok h₂
  rw [hc] at hm
  rw [loadAndInspectCMBundle_of_faults_nil hf hm] at h
  exact .inl (Prod.mk.inj h).1

end

/-! ### The PEM readers -/

/-- The bytes of the `CERTIFICATE` blocks of a PEM text, in order. -/
def certBlocks (lib : Lib) (pem : String) : List String :=
  ((lib.pemBlocks pem).filter fun b => b.1 = "CERTIFICATE").map Prod.snd

/-- The error of the first `CERTIFICATE` block that does not parse. -/
def firstBadCert (lib : Lib) (pem : String) : Option String :=
  (certBlocks lib pem).findSome? lib.parseCertificate

section Fold
variable {α : Type} {g : α → String × String → Except String α}

/-- A loop over `pem.Decode`'s blocks that skips the other types, fails on the
first certificate that does not parse, and folds the others with `f`. -/
theorem foldlM_certs (lib : Lib) (wrap : String → String) (f : α → String → α)
    (hskip : ∀ a b, b.1 ≠ "CERTIFICATE" → g a b = .ok a)
    (hbad : ∀ a b err, b.1 = "CERTIFICATE" → lib.parseCertificate b.2 = some err → g a b = .error (wrap err))
    (hgood : ∀ a b, b.1 = "CERTIFICATE" → lib.parseCertificate b.2 = none → g a b = .ok (f a b.2)) :
    ∀ (bs : List (String × String)) (a : α),
      bs.foldlM g a =
        match (((bs.filter fun b => b.1 = "CERTIFICATE").map Prod.snd).findSome? lib.parseCertificate) with
        | some err => .error (wrap err)
        | none => .ok (((bs.filter fun b => b.1 = "CERTIFICATE").map Prod.snd).foldl f a)
  | [], a => rfl
  | b :: bs, a => by
    rw [List.foldlM_cons]
    by_cases hc : b.1 = "CERTIFICATE"
    · rcases hp : lib.parseCertificate b.2 with _ | err
      · rw [hgood a b hc hp]
        simp [hc, hp, foldlM_certs lib wrap f hskip hbad hgood bs]
      · rw [hbad a b err hc hp]
        simp [hc, hp]
    · rw [hskip a b hc]
      simp [hc, foldlM_certs lib wrap f hskip hbad hgood bs]

end Fold

theorem foldl_snoc {β : Type} : ∀ (l acc : List β), l.foldl (fun out d => out ++ [d]) acc = acc ++ l
  | [], acc => (List.append_nil acc).symm
  | x :: l, acc => by rw [List.foldl_cons, foldl_snoc l, List.append_assoc, List.singleton_append]

theorem pem_readers_agree (lib : Lib) (pem : String) :
    parsePEMCerts lib pem =
        (match firstBadCert lib pem with
        | some err => .error ("parse x509 cert: " ++ err)
        | none => .ok (certBlocks lib pem)) ∧
      concatDER lib pem =
        match firstBadCert lib pem with
        | some err => .error ("invalid certificate in PEM: " ++ err)
        | none =>
          if (String.join (certBlocks lib pem)).length = 0 then .error "no CERTIFICATE blocks found"
          else .ok (String.join (certBlocks lib pem)) := by
  constructor
  · refine Eq.trans (foldlM_certs lib (fun e => "parse x509 cert: " ++ e) (fun out d => out ++ [d])
      (fun _ _ hc => by simp [hc]) (fun _ _ _ hc hp => by simp [hc, hp]) (fun _ _ hc hp => by simp [hc, hp]) _ _) ?_
    unfold firstBadCert certBlocks
    split <;> simp_all [foldl_snoc]
  · unfold concatDER
    rw [foldlM_certs lib (fun e => "invalid certificate in PEM: " ++ e) (· ++ ·)
      (fun _ _ hc => by simp [hc]) (fun _ _ _ hc hp => by simp [hc, hp]) (fun _ _ hc hp => by simp [hc, hp])]
    unfold firstBadCert certBlocks
    split <;> simp_all [String.join]

end TrustRotator
