import Mathlib.Data.Nat.Digits
import TrustRotator.Rollout.Completed

/-!
# The deletion order of `rolloutDelete`

`restartStatefulSetByDelete` sorts the pods it lists by `podOrdinal`, the
number after the last `-` of a pod name, highest first. `podOrdinal` reads back
the ordinal `strconv.Itoa` printed for every prefix, dashes included, and every
ordinal that fits `int` (`podOrdinal_suffix`), so pods named `<prefix>-<k>`
with distinct `k` are deleted in strictly decreasing `k`, each once, in
whatever order the `List` call returned them
(`restartStatefulSetByDelete_ordinal_order`).
-/

namespace TrustRotator

/-! ### Reading a decimal back -/

/-- The accumulation of `fmt.Sscanf`'s `%d` over a run of digits. -/
def decimalValue (ds : List Char) : Nat := ds.foldl (fun acc c => acc * 10 + (c.toNat - '0'.toNat)) 0

theorem digitChar_isDigit_value : ∀ d < 10,
    (Nat.digitChar d).isDigit = true ∧ (Nat.digitChar d).toNat - '0'.toNat = d := by
  decide

theorem toDigitsCore_append (fuel n : Nat) (ds : List Char) :
    Nat.toDigitsCore 10 fuel n ds = Nat.toDigitsCore 10 fuel n [] ++ ds := by
  induction fuel generalizing n ds with
  | zero => rfl
  | succ f ih =>
    simp only [Nat.toDigitsCore]
    split
    · rfl
    · rw [ih _ (_ :: ds), ih _ [_], List.append_assoc, List.singleton_append]

/-- Enough fuel prints `n` as digits that read back as `n`. -/
theorem toDigitsCore_spec : ∀ (fuel n : Nat), n < fuel →
    (∀ c ∈ Nat.toDigitsCore 10 fuel n [], c.isDigit = true) ∧ Nat.toDigitsCore 10 fuel n [] ≠ [] ∧
      decimalValue (Nat.toDigitsCore 10 fuel n []) = n
  | 0, _, h => absurd h (Nat.not_lt_zero _)
  | f + 1, n, h => by
    have hd := digitChar_isDigit_value (n % 10) (Nat.mod_lt _ (by decide))
    simp only [Nat.toDigitsCore]
    split
    · rename_i h0
      refine ⟨by simpa using hd.1, by simp, ?_⟩
      simp only [decimalValue, List.foldl_cons, List.foldl_nil, hd.2]
      omega
    · obtain ⟨ih₁, -, ih₃⟩ := toDigitsCore_spec f (n / 10) (by omega)
      rw [toDigitsCore_append]
      refine ⟨fun c hc => ?_, by simp, ?_⟩
      · rcases List.mem_append.1 hc with hc | hc
        exacts [ih₁ c hc, List.mem_singleton.1 hc ▸ hd.1]
      · simp only [decimalValue, List.foldl_append, List.foldl_cons, List.foldl_nil] at ih₃ ⊢
        rw [ih₃, hd.2]
        omega

theorem toDigits_spec (k : Nat) :
    (∀ c ∈ Nat.toDigits 10 k, c.isDigit = true) ∧ Nat.toDigits 10 k ≠ [] ∧
      decimalValue (Nat.toDigits 10 k) = k :=
  toDigitsCore_spec (k + 1) k (Nat.lt_succ_self k)

/-- `%d` reads back what `strconv.Itoa` printed, for a value that fits `int`. -/
theorem scanDecimal_toDigits {k : Nat} (hk : k < 2 ^ 63) : scanDecimal (Nat.toDigits 10 k) = some k := by
  obtain ⟨hdig, hne, hval⟩ := toDigits_spec k
  obtain ⟨c, cs, hcs⟩ := List.exists_cons_of_ne_nil hne
  have hc : c.isDigit = true := hdig c (hcs ▸ List.mem_cons_self _ _)
  have hall : (Nat.toDigits 10 k).takeWhile Char.isDigit = Nat.toDigits 10 k :=
    List.takeWhile_eq_self_iff.2 hdig
  have h1 : c ≠ '-' := by rintro rfl; cases hc
  have h2 : c ≠ '+' := by rintro rfl; cases hc
  rw [hcs] at hall hval
  simp [decimalValue] at hval
  simp [scanDecimal, hcs, h1, h2, hall, hval]
  omega

/-- `podOrdinal` reads the ordinal back from a pod name `<prefix>-<k>`,
whatever the prefix holds, dashes included. -/
theorem podOrdinal_suffix (pfx : String) {k : Nat} (hk : k < 2 ^ 63) :
    podOrdinal (pfx ++ "-" ++ toString k) = k := by
  have hdig := (toDigits_spec k).1
  have hname : (pfx ++ "-" ++ toString k).toList = pfx.toList ++ ['-'] ++ Nat.toDigits 10 k := rfl
  have htake : (pfx.toList ++ ['-'] ++ Nat.toDigits 10 k).reverse.takeWhile (· ≠ '-') =
      (Nat.toDigits 10 k).reverse := by
    rw [List.reverse_append, List.takeWhile_append_of_pos]
    · simp
    · intro c hc
      have := hdig c (List.mem_reverse.1 hc)
      simp only [ne_eq, decide_eq_true_eq]
      rintro rfl
      cases this
  unfold podOrdinal
  rw [hname, if_pos (by simp), htake, List.reverse_reverse, scanDecimal_toDigits hk]
  rfl

/-! ### The deletion order -/

theorem deletePods_of_faults_nil {e : Env} (he : e.faults = []) (sts : Workload) (pods : List Pod) :
    ∃ e', (deletePods sts pods).exec e = (.ok (), e') ∧ e'.faults = [] := by
  induction pods generalizing e with
  | nil => exact ⟨e, rfl, he⟩
  | cons p rest ih =>
    rw [deletePods, Prog.exec_bind_of_ok
      (by simp [deletePodAndWaitSameNameReady, withContext, request, Env.next, he]; exact ⟨rfl, rfl⟩)]
    exact ih rfl

theorem restartStatefulSetByDelete_of_faults_nil {e : Env} (he : e.faults = []) (sts : Workload) :
    ∃ e', (restartStatefulSetByDelete sts).exec e = (.ok (), e') := by
  unfold restartStatefulSetByDelete
  rw [Prog.exec_bind_of_ok (by simp [withContext, Env.next, he]; exact ⟨rfl, rfl⟩),
    Prog.exec_bind_of_ok (Prog.exec_get _)]
  dsimp only
  split
  · exact ⟨e, rfl⟩
  · obtain ⟨e', h, -⟩ := deletePods_of_faults_nil he sts _
    exact ⟨e', h⟩

/-- On a stateful set whose pods are named `<prefix>-<k>` for distinct `k`
below `2^63`, listed in any order, `restartStatefulSetByDelete` deletes and
waits for every pod once, from the highest `k` down, whenever it succeeds; and
it succeeds when no request fails. -/
theorem restartStatefulSetByDelete_ordinal_order {e : Env} {sts : Workload} (ord : Pod → Nat)
    (hname : ∀ p ∈ podsOf e.cluster sts.«namespace» sts.selector,
      ∃ pfx, p.name = pfx ++ "-" ++ toString (ord p) ∧ ord p < 2 ^ 63)
    (hdistinct : ((podsOf e.cluster sts.«namespace» sts.selector).map ord).Nodup) :
    ∃ qs, qs.Perm (podsOf e.cluster sts.«namespace» sts.selector) ∧ (qs.map ord).Sorted (· > ·) ∧
      (∀ e', (restartStatefulSetByDelete sts).exec e = (.ok (), e') → e'.actions = podsDeleted qs ++ e.actions) ∧
      (e.faults = [] → ∃ e', (restartStatefulSetByDelete sts).exec e = (.ok (), e')) := by
  let r := fun a b : Pod => podOrdinal a.name ≥ podOrdinal b.name
  have : IsTotal Pod r := ⟨fun _ _ => by dsimp only [r]; omega⟩
  have : IsTrans Pod r := ⟨fun _ _ _ h₁ h₂ => by dsimp only [r] at *; omega⟩
  have hperm := List.perm_insertionSort r (podsOf e.cluster sts.«namespace» sts.selector)
  have hord : ∀ p ∈ podsOf e.cluster sts.«namespace» sts.selector, podOrdinal p.name = ord p := by
    intro p hp
    obtain ⟨pfx, hn, hk⟩ := hname p hp
    rw [hn, podOrdinal_suffix pfx hk]
  refine ⟨_, hperm, ?_, fun _ => restartStatefulSetByDelete_actions,
    fun hf => restartStatefulSetByDelete_of_faults_nil hf sts⟩
  have hnd := List.pairwise_map.1 ((hperm.map ord).nodup_iff.2 hdistinct)
  refine List.pairwise_map.2 (((List.sorted_insertionSort r _).and hnd).imp_of_mem ?_)
  rintro a b ha hb ⟨hab, hne⟩
  have := hord a (hperm.mem_iff.1 ha)
  have := hord b (hperm.mem_iff.1 hb)
  dsimp only [r] at hab
  omega

theorem restartStatefulSetByDelete_ordinal_order_myDb :
    let e : Env :=
      ⟨{ pods := [⟨"db", "my-db-2", []⟩, ⟨"db", "my-db-10", []⟩, ⟨"db", "my-db-0", []⟩] }, 0, [], []⟩
    let sts : Workload := ⟨"db", "my-db", [], [], []⟩
    let ord : Pod → Nat := fun p => if p.name = "my-db-10" then 10 else if p.name = "my-db-2" then 2 else 0
    ∃ qs, qs.Perm (podsOf e.cluster sts.«namespace» sts.selector) ∧ (qs.map ord).Sorted (· > ·) ∧
      (∀ e', (restartStatefulSetByDelete sts).exec e = (.ok (), e') → e'.actions = podsDeleted qs ++ e.actions) ∧
      (e.faults = [] → ∃ e', (restartStatefulSetByDelete sts).exec e = (.ok (), e')) :=
  restartStatefulSetByDelete_ordinal_order _
    (by
      intro p hp
      simp only [podsOf, List.all_nil, Bool.and_true, List.mem_filter, List.mem_cons, List.mem_singleton,
        List.not_mem_nil, or_false] at hp
      rcases hp.1 with rfl | rfl | rfl <;> exact ⟨"my-db", by decide, by decide⟩)
    (by decide)

end TrustRotator
