import Mathlib.Data.String.Basic
import TrustRotator.Reconcile.Repeat

/-!
# What the two trigger modes record with `SetTrustInfo`

Secrets-divergence mode fingerprints each anchor secret on its own
(`fingerprintPEMCerts`, the SHA-256 of the concatenated DER) and records the
current secret's as current. ConfigMap-only mode fingerprints each certificate
of the trust-roots bundle, sorts the fingerprints, and records the second as
current. With one certificate per secret, both in the bundle, the first reads
the same digests as the second (`concatDER_of_parsePEMCerts`), but the second
picks current and previous by byte order (`insertionSort_fps_pair`), so the two
agree exactly when the current certificate's fingerprint does not sort below
the previous one's (`decideBundle_trustInfo_by_mode`).
-/

namespace TrustRotator

/-! ### Reading certificates -/

section Fold
variable {α β γ ε : Type} {f : α → β → Except ε α}

/-- An invariant of every step of a fold in `Except` holds of its result. -/
theorem foldlM_ok_inv (P : α → Prop) (hstep : ∀ a b a', P a → f a b = .ok a' → P a') :
    ∀ {bs : List β} {a a' : α}, P a → bs.foldlM f a = .ok a' → P a'
  | [], _, _, hp, h => by cases h; exact hp
  | b :: bs, a, a', hp, h => by
    rw [List.foldlM_cons] at h
    cases hf : f a b with
    | error e => rw [hf] at h; cases h
    | ok a₁ => rw [hf] at h; exact foldlM_ok_inv P hstep (hstep a b a₁ hp hf) h

/-- A fold in `Except` that succeeds carries over to a second fold whose step
maps the first one's accumulator along `φ`. -/
theorem foldlM_ok_map {g : γ → β → Except ε γ} (φ : α → γ)
    (hstep : ∀ a b a', f a b = .ok a' → g (φ a) b = .ok (φ a')) :
    ∀ {bs : List β} {a a' : α}, bs.foldlM f a = .ok a' → bs.foldlM g (φ a) = .ok (φ a')
  | [], _, _, h => by cases h; rfl
  | b :: bs, a, a', h => by
    rw [List.foldlM_cons] at h ⊢
    cases hf : f a b with
    | error e => rw [hf] at h; cases h
    | ok a₁ => rw [hf] at h; rw [hstep a b a₁ hf]; exact foldlM_ok_map φ hstep h

end Fold

theorem String.join_append_singleton (ss : List String) (s : String) :
    String.join (ss ++ [s]) = String.join ss ++ s :=
  String.ext (by simp)

/-- `concatDER` joins the certificates `parsePEMCerts` finds, each of which parses. -/
theorem concatDER_of_parsePEMCerts {lib : Lib} {pem : String} {cs : List String}
    (h : parsePEMCerts lib pem = .ok cs) :
    (∀ c ∈ cs, lib.parseCertificate c = none) ∧
      concatDER lib pem =
        if (String.join cs).length = 0 then .error "no CERTIFICATE blocks found" else .ok (String.join cs) := by
  unfold parsePEMCerts at h
  unfold concatDER
  refine ⟨foldlM_ok_inv (fun out => ∀ c ∈ out, lib.parseCertificate c = none) ?_ (by simp) h, ?_⟩
  · rintro a ⟨ty, der⟩ a' hp hf
    by_cases hty : ty = "CERTIFICATE"
    · cases hd : lib.parseCertificate der <;> simp [hty, hd] at hf
      subst hf
      rintro c hc
      rcases List.mem_append.1 hc with hc | hc
      exacts [hp c hc, List.mem_singleton.1 hc ▸ hd]
    · simp [hty] at hf
      exact hf ▸ hp
  rw [show ("" : String) = String.join [] from rfl, foldlM_ok_map String.join ?_ h]
  · rfl
  · rintro a ⟨ty, der⟩ a' hf
    by_cases hty : ty = "CERTIFICATE"
    · cases hd : lib.parseCertificate der <;> simp [hty, hd] at hf ⊢
      rw [← hf, String.join_append_singleton]
    · simp [hty] at hf ⊢
      rw [hf]

theorem fingerprintPEMCerts_single {lib : Lib} {pem c : String} (hder : lib.parseCertificate "" ≠ none)
    (h : parsePEMCerts lib pem = .ok [c]) : fingerprintPEMCerts lib pem = .ok ("sha256:" ++ lib.sha256Hex c) := by
  obtain ⟨hparse, hcat⟩ := concatDER_of_parsePEMCerts h
  have hc : c ≠ "" := fun hc => hder (hc ▸ hparse c (List.mem_singleton_self c))
  simp [fingerprintPEMCerts, hcat, hc, String.join]

/-- Secrets whose data agree, `cmp.Equal` with `EquateEmpty`, agree at every key. -/
theorem lookup_eq_of_sameData {a b : List (String × String)} (h : sameData a b = true) (k : String) :
    a.lookup k = b.lookup k := by
  unfold sameData at h
  by_cases hk : k ∈ a.map Prod.fst ++ b.map Prod.fst
  · exact beq_iff_eq.1 (List.all_eq_true.1 h k hk)
  · simp only [List.mem_append, List.mem_map, not_or, not_exists, not_and] at hk
    have none_of : ∀ l : List (String × String), (∀ p ∈ l, p.1 ≠ k) → l.lookup k = none :=
      fun l hl => List.lookup_eq_none_iff.2 fun p hp => bne_iff_ne.2 fun e => hl p hp e.symm
    rw [none_of a fun p hp => hk.1 p hp, none_of b fun p hp => hk.2 p hp]

/-! ### Go's string order is a strict total order -/

theorem charsLess_asymm : ∀ {a b : List Char}, charsLess a b = true → charsLess b a = false
  | [], [], _ | [], _ :: _, _ => rfl
  | _ :: _, [], h => by cases h
  | x :: xs, y :: ys, h => by
    simp only [charsLess, Bool.or_eq_true, decide_eq_true_eq, Bool.and_eq_true, beq_iff_eq] at h
    rcases h with h | ⟨rfl, h⟩
    · simp [charsLess, UInt32.lt_asymm h, (UInt32.ne_of_lt h).symm, Char.ext_iff]
    · simp [charsLess, charsLess_asymm h]

theorem eq_of_charsLess_eq_false :
    ∀ {a b : List Char}, charsLess a b = false → charsLess b a = false → a = b
  | [], [], _, _ => rfl
  | [], _ :: _, h, _ | _ :: _, [], _, h => by cases h
  | x :: xs, y :: ys, h, h' => by
    simp only [charsLess, Bool.or_eq_false_iff, decide_eq_false_iff_not, Bool.and_eq_false_imp,
      beq_iff_eq] at h h'
    have hxy : x = y := Char.ext (UInt32.le_antisymm (UInt32.not_lt.1 h'.1) (UInt32.not_lt.1 h.1))
    subst hxy
    rw [eq_of_charsLess_eq_false (h.2 rfl) (h'.2 rfl)]

theorem stringLess_asymm {a b : String} (h : stringLess a b = true) : stringLess b a = false :=
  charsLess_asymm h

theorem eq_of_stringLess_eq_false {a b : String} (h : stringLess a b = false)
    (h' : stringLess b a = false) : a = b := by
  have := eq_of_charsLess_eq_false h h'
  rwa [String.toList, String.toList, ← String.ext_iff] at this

/-- `sort.Strings` after `strings.ToLower`, on two fingerprints: the smaller
first, whichever order the bundle holds them in. -/
theorem insertionSort_fps_pair (x y : String) :
    ([x, y].insertionSort fun a b => !stringLess b a) = (if stringLess x y then [x, y] else [y, x]) ∧
      ([y, x].insertionSort fun a b => !stringLess b a) = (if stringLess x y then [x, y] else [y, x]) := by
  simp only [List.insertionSort, List.orderedInsert]
  cases hxy : stringLess x y
  · cases hyx : stringLess y x
    · simp [eq_of_stringLess_eq_false hxy hyx]
    · simp
  · simp [stringLess_asymm hxy]

/-! ### The two trigger modes -/

section Modes
variable {lib : Lib} {spec : LinkerdTrustRotationSpec} {v : World}

/-- What `Reconcile` does once it has seen the bundle overlap: log it, record
the two fingerprints with `SetTrustInfo`, and report the overlap. -/
def recordOverlap (currentFP previousFP : String) : Api BundleState := do
  emit (.observed .overlap)
  setTrustInfo (some .overlap) currentFP previousFP
  pure .overlap

theorem ensureTrustSecrets_present {e : Env} {cS pS : Secret} {fc fp : String} (he : e.faults = [])
    (hcS : findSecret e.cluster spec.linkerd.«namespace» spec.linkerd.trustAnchorSecret = some cS)
    (hpS : findSecret e.cluster spec.linkerd.«namespace» spec.linkerd.previousTrustAnchorSecret = some pS)
    (hfc : fingerprintPEMCerts lib ((cS.data.lookup secretDataKey).getD "") = .ok fc)
    (hfp : fingerprintPEMCerts lib ((pS.data.lookup secretDataKey).getD "") = .ok fp) :
    (ensureTrustSecrets lib spec).exec e = (.ok ⟨pS.annotations.lookup secretAnnotation == some "true", fc, fp,
      !sameData cS.data pS.data⟩, e) := by
  simp [ensureTrustSecrets, Env.next, he, hcS, hpS, hfc, hfp]

/-- In secrets-divergence mode, diverged anchor secrets are recorded as they
are: the current secret's fingerprint as current. -/
theorem decideBundle_secrets_diverged {cS pS : Secret} {fc fp : String}
    (hmode : spec.trigger = ⟨false, true⟩) (hf : v.faults = [])
    (hcS : findSecret v.cluster spec.linkerd.«namespace» spec.linkerd.trustAnchorSecret = some cS)
    (hpS : findSecret v.cluster spec.linkerd.«namespace» spec.linkerd.previousTrustAnchorSecret = some pS)
    (hfc : fingerprintPEMCerts lib ((cS.data.lookup secretDataKey).getD "") = .ok fc)
    (hfp : fingerprintPEMCerts lib ((pS.data.lookup secretDataKey).getD "") = .ok fp)
    (hdiv : sameData cS.data pS.data = false) :
    (decideBundle lib spec).exec v = (recordOverlap fc fp).exec v := by
  have hl := ensureTrustSecrets_present (show v.env.faults = [] from hf) hcS hpS hfc hfp
  unfold decideBundle
  simp only [hmode]
  rw [if_pos (by decide), Prog.exec_bind_of_ok (by rw [exec_lift, hl])]
  simp only [hdiv]
  rfl

/-- In ConfigMap-only mode, a bundle of two certificates is recorded with the
second of its sorted fingerprints as current. -/
theorem decideBundle_cm_pair {cm : ConfigMap} {raw c₀ c₁ x₀ x₁ : String}
    (hmode : spec.trigger = ⟨true, false⟩) (hf : v.faults = [])
    (hcm : v.cluster.configMaps.find? (fun c => c.«namespace» = spec.linkerd.«namespace» ∧
      c.name = spec.linkerd.trustRootsConfigMap) = some cm)
    (hraw : cm.data.lookup configMapDataKey = some raw) (hb : blank raw = false)
    (hp : parsePEMCerts lib raw = .ok [c₀, c₁])
    (hfps : ([c₀, c₁].map fun c => lowerASCII (lib.sha256Hex c)).insertionSort
      (fun a b => !stringLess b a) = [x₀, x₁]) :
    (decideBundle lib spec).exec v = (recordOverlap ("sha256:" ++ x₁) ("sha256:" ++ x₀)).exec v := by
  have hl : (loadAndInspectCMBundle lib spec).lift.exec v = (.ok ⟨[c₀, c₁], [x₀, x₁], .overlap⟩, v) := by
    rw [exec_lift, loadAndInspectCMBundle_overlap hf hcm hraw hb hp, hfps]; rfl
  unfold decideBundle
  simp only [hmode]
  rw [if_neg (by decide), if_pos (by decide), Prog.exec_bind_of_ok hl]
  rfl

/-- With one certificate `C` in the current anchor secret, another `P` in the
previous one and both in the trust-roots bundle, secrets-divergence mode
records the fingerprints of `C` and `P` as current and previous, and
ConfigMap-only mode records the larger of the two, in byte order, as current:
the two modes agree exactly when `C`'s fingerprint does not sort below `P`'s. -/
theorem decideBundle_trustInfo_by_mode {cS pS : Secret} {cm : ConfigMap} {raw C P : String}
    (hhex : ∀ d, lowerASCII (lib.sha256Hex d) = lib.sha256Hex d)
    (hder : lib.parseCertificate "" ≠ none) (hf : v.faults = [])
    (hcS : findSecret v.cluster spec.linkerd.«namespace» spec.linkerd.trustAnchorSecret = some cS)
    (hpS : findSecret v.cluster spec.linkerd.«namespace» spec.linkerd.previousTrustAnchorSecret = some pS)
    (hC : parsePEMCerts lib ((cS.data.lookup secretDataKey).getD "") = .ok [C])
    (hP : parsePEMCerts lib ((pS.data.lookup secretDataKey).getD "") = .ok [P]) (hCP : C ≠ P)
    (hcm : v.cluster.configMaps.find? (fun c => c.«namespace» = spec.linkerd.«namespace» ∧
      c.name = spec.linkerd.trustRootsConfigMap) = some cm)
    (hraw : cm.data.lookup configMapDataKey = some raw) (hb : blank raw = false)
    (hbundle : parsePEMCerts lib raw = .ok [C, P] ∨ parsePEMCerts lib raw = .ok [P, C]) :
    (decideBundle lib { spec with trigger := ⟨false, true⟩ }).exec v =
        (recordOverlap ("sha256:" ++ lib.sha256Hex C) ("sha256:" ++ lib.sha256Hex P)).exec v ∧
      (decideBundle lib { spec with trigger := ⟨true, false⟩ }).exec v =
        (if stringLess (lib.sha256Hex C) (lib.sha256Hex P) then
          recordOverlap ("sha256:" ++ lib.sha256Hex P) ("sha256:" ++ lib.sha256Hex C)
        else recordOverlap ("sha256:" ++ lib.sha256Hex C) ("sha256:" ++ lib.sha256Hex P)).exec v := by
  have hdiv : sameData cS.data pS.data = false := Bool.eq_false_iff.2 fun hs => hCP <| by
    rw [lookup_eq_of_sameData hs, hP] at hC
    simpa using hC.symm
  refine ⟨decideBundle_secrets_diverged rfl hf hcS hpS (fingerprintPEMCerts_single hder hC)
    (fingerprintPEMCerts_single hder hP) hdiv, ?_⟩
  obtain ⟨c₀, c₁, hp, hfps⟩ : ∃ c₀ c₁, parsePEMCerts lib raw = .ok [c₀, c₁] ∧
      ([c₀, c₁].map fun c => lowerASCII (lib.sha256Hex c)).insertionSort (fun a b => !stringLess b a) =
        if stringLess (lib.sha256Hex C) (lib.sha256Hex P) then [lib.sha256Hex C, lib.sha256Hex P]
        else [lib.sha256Hex P, lib.sha256Hex C] := by
    obtain ⟨h₁, h₂⟩ := insertionSort_fps_pair (lib.sha256Hex C) (lib.sha256Hex P)
    rcases hbundle with hp | hp
    · exact ⟨_, _, hp, by simpa only [List.map, hhex] using h₁⟩
    · exact ⟨_, _, hp, by simpa only [List.map, hhex] using h₂⟩
  split <;> rename_i h <;> simp only [h, ↓reduceIte] at hfps <;>
    exact decideBundle_cm_pair rfl hf hcm hraw hb hp hfps

theorem decideBundle_trustInfo_by_mode_pair :
    let lib : Lib := { Lib.sample with
      parseCertificate := fun d => if d = "" then some "x509: malformed certificate" else none,
      sha256Hex := fun d => if d = "b" then "b" else "a" }
    let v : World := { World.init with
      cluster := { secrets := anchorSecrets "a" "b"
                   configMaps := [⟨"linkerd", "linkerd-identity-trust-roots", [("ca-bundle.crt", "ab")]⟩] } }
    (decideBundle lib { sampleSpec with trigger := ⟨false, true⟩ }).exec v =
        (recordOverlap ("sha256:" ++ lib.sha256Hex "a") ("sha256:" ++ lib.sha256Hex "b")).exec v ∧
      (decideBundle lib { sampleSpec with trigger := ⟨true, false⟩ }).exec v =
        (if stringLess (lib.sha256Hex "a") (lib.sha256Hex "b") then
          recordOverlap ("sha256:" ++ lib.sha256Hex "b") ("sha256:" ++ lib.sha256Hex "a")
        else recordOverlap ("sha256:" ++ lib.sha256Hex "a") ("sha256:" ++ lib.sha256Hex "b")).exec v :=
  decideBundle_trustInfo_by_mode (fun d => by dsimp only; split <;> rfl) (by decide) rfl rfl rfl rfl rfl
    (by decide) rfl rfl rfl (.inl rfl)

/-- On the same cluster, the two modes record the fingerprints the other way round. -/
theorem cm_mode_swaps_trust_fps :
    let lib : Lib := { Lib.sample with
      parseCertificate := fun d => if d = "" then some "x509: malformed certificate" else none,
      sha256Hex := fun d => if d = "b" then "b" else "a" }
    let v : World := { World.init with
      cluster := { secrets := anchorSecrets "a" "b"
                   configMaps := [⟨"linkerd", "linkerd-identity-trust-roots", [("ca-bundle.crt", "ab")]⟩] } }
    ((decideBundle lib { sampleSpec with trigger := ⟨false, true⟩ }).exec v).2.status.trust =
        some ⟨some "overlap", "sha256:a", "sha256:b"⟩ ∧
      ((decideBundle lib { sampleSpec with trigger := ⟨true, false⟩ }).exec v).2.status.trust =
        some ⟨some "overlap", "sha256:b", "sha256:a"⟩ := by
  simp [decideBundle, ensureTrustSecrets, loadAndInspectCMBundle, parsePEMCerts, exec_patch, statusEqual,
    beforeRequest, stamped, World.next, setTrustInfo, World.init, sampleSpec, Lib.sample, findSecret,
    fingerprintPEMCerts, concatDER, withContext, Env.next, World.env, World.withEnv, secretDataKey, sameData,
    anchorSecrets, configMapDataKey, blank, isGoSpace, stringLess, charsLess, lowerASCII,
    BundleState.toString]

end Modes

end TrustRotator
