import Mathlib.Data.String.Basic
import TrustRotator.Rollout.Select

/-!
# Reading a plan back from its hash input

`planHash` keys the resume cursor of `RestartLinkerdDataPlane`: it hashes one
line `kind|namespace/name[|strategy[|key=value]]` per item. This module shows
when that text determines the plan. Cut at the newline, then at `|`, `/`, `|`
and `=`, an item's line gives back its `hashKey` whenever the namespace, the
name and the bump annotation hold none of the separators they are cut at
(`planHashInput_eq_iff`); nothing else of an item is read
(`planHashInput_eq_of_hashKeys_eq`). The bump annotation is taken from the spec
unchecked, and a value with a newline imitates a following item
(`planHashInput_newline_bump_collision`).
-/

namespace TrustRotator

/-! ### Cutting at a separator -/

/-- Two words, each followed by a tail that is empty or starts with `c`, and
neither holding `c`, split the same way. -/
theorem append_eq_append_of_sep {c : Char} {a a' t t' : List Char} (ha : c ∉ a) (ha' : c ∉ a')
    (h : a ++ t = a' ++ t') (ht : t = [] ∨ t.head? = some c) (ht' : t' = [] ∨ t'.head? = some c) :
    a = a' ∧ t = t' := by
  have stop : ∀ {x : Char} {as t t' : List Char}, c ∉ x :: as → t = x :: as ++ t' →
      t = [] ∨ t.head? = some c → False := by
    rintro x as t t' hx rfl (h | h)
    · cases h
    · exact hx (by simp_all)
  induction a generalizing a' with
  | nil =>
    cases a' with
    | nil => exact ⟨rfl, h⟩
    | cons x as => exact (stop ha' h ht).elim
  | cons x as ih =>
    cases a' with
    | nil => exact (stop ha h.symm ht').elim
    | cons y as' =>
      simp only [List.cons_append, List.cons.injEq] at h
      obtain ⟨rfl, h⟩ := h
      obtain ⟨rfl, rfl⟩ := ih (fun h => ha (.tail _ h)) (fun h => ha' (.tail _ h)) h
      exact ⟨rfl, rfl⟩

/-! ### The hash input of one item -/

/-- What follows the name in an item's hash input: the strategy of a stateful
set, the strategy and the bump annotation of a custom resource. -/
def hashTail (w : WorkItem) : List Char :=
  match w.target with
  | .deployment _ | .daemonSet _ => []
  | .statefulSet _ => '|' :: w.strategy.toString.data
  | .customResource _ => '|' :: (w.strategy.toString.data ++
      if w.bumpAnnotationKey ≠ "" then
        '|' :: (w.bumpAnnotationKey.data ++ '=' :: w.bumpAnnotationValue.data)
      else [])

/-- An item's hash input without its closing newline. -/
def hashBody (w : WorkItem) : List Char :=
  w.kind.toString.data ++ '|' :: (w.getNamespace.data ++ '/' :: (w.getName.data ++ hashTail w))

theorem itemHashInput_data (w : WorkItem) : (itemHashInput w).data = hashBody w ++ ['\n'] := by
  rcases w with ⟨t, s, k, v⟩
  cases t <;> simp [itemHashInput, hashBody, hashTail, WorkItem.kind, Target.kind, WorkItem.getNamespace,
    WorkItem.getName, Target.getNamespace, Target.getName]
  split <;> simp

/-! ### Reading an item back -/

/-- What of an item the plan hash pins down: its kind, namespace and name, the
strategy of a stateful set or custom resource, and the bump annotation of a
custom resource when it has a key. -/
def WorkItem.hashKey (w : WorkItem) :
    Kind × String × String × Option RolloutStrategy × Option (String × String) :=
  (w.kind, w.getNamespace, w.getName,
    (match w.target with
     | .statefulSet _ | .customResource _ => some w.strategy
     | _ => none),
    (match w.target with
     | .customResource _ =>
       if w.bumpAnnotationKey ≠ "" then some (w.bumpAnnotationKey, w.bumpAnnotationValue) else none
     | _ => none))

/-- A namespace or name without the separators of the hash input, as every
valid Kubernetes object name is. -/
def SepFree (s : String) : Prop := '|' ∉ s.data ∧ '/' ∉ s.data ∧ '\n' ∉ s.data

instance (s : String) : Decidable (SepFree s) := inferInstanceAs (Decidable (_ ∧ _ ∧ _))

/-- An item whose hash input can be read back: separator-free namespace and
name, a bump key without `=` or newline, and a bump value without newline. -/
structure WorkItem.HashSafe (w : WorkItem) : Prop where
  ns : SepFree w.getNamespace
  name : SepFree w.getName
  key_eq : '=' ∉ w.bumpAnnotationKey.data
  key_nl : '\n' ∉ w.bumpAnnotationKey.data
  value_nl : '\n' ∉ w.bumpAnnotationValue.data

theorem Kind.sep_not_mem (k : Kind) : '|' ∉ k.toString.data ∧ '\n' ∉ k.toString.data := by
  cases k <;> decide

theorem Kind.toString_data_inj {k k' : Kind} (h : k.toString.data = k'.toString.data) : k = k' := by
  cases k <;> cases k' <;> first | rfl | cases h

theorem RolloutStrategy.sep_not_mem (s : RolloutStrategy) :
    '|' ∉ s.toString.data ∧ '\n' ∉ s.toString.data := by
  cases s <;> decide

theorem RolloutStrategy.toString_data_inj {s s' : RolloutStrategy}
    (h : s.toString.data = s'.toString.data) :
    s = s' := by
  cases s <;> cases s' <;> first | rfl | cases h

theorem hashTail_head (w : WorkItem) : hashTail w = [] ∨ (hashTail w).head? = some '|' := by
  unfold hashTail
  split <;> simp

theorem hashBody_nl {w : WorkItem} (hw : w.HashSafe) : '\n' ∉ hashBody w := by
  have hs := w.strategy.sep_not_mem.2
  simp only [hashBody, hashTail, List.mem_append, List.mem_cons, not_or]
  refine ⟨w.kind.sep_not_mem.2, by decide, hw.ns.2.2, by decide, hw.name.2.2, ?_⟩
  split <;> simp [hs, hw.key_nl, hw.value_nl]

theorem bump_head (k v : String) :
    let b := if k ≠ "" then '|' :: (k.data ++ '=' :: v.data) else []
    b = [] ∨ b.head? = some '|' := by
  dsimp only
  split <;> simp

theorem bump_eq {k v k' v' : String} (hk : '=' ∉ k.data) (hk' : '=' ∉ k'.data)
    (h : (if k ≠ "" then '|' :: (k.data ++ '=' :: v.data) else []) =
      if k' ≠ "" then '|' :: (k'.data ++ '=' :: v'.data) else []) :
    (if k ≠ "" then some (k, v) else none) = if k' ≠ "" then some (k', v') else none := by
  split_ifs at h ⊢ with h₁ h₂ h₂
  · simp only [List.cons.injEq, true_and] at h
    obtain ⟨hkk, hvv⟩ := append_eq_append_of_sep hk hk' h (.inr rfl) (.inr rfl)
    simp only [List.cons.injEq, true_and] at hvv
    rw [String.ext hkk, String.ext hvv]
  all_goals rfl

/-- An item's hash input determines its hash key. -/
theorem hashKey_eq_of_hashBody_eq {w w' : WorkItem} (hw : w.HashSafe) (hw' : w'.HashSafe)
    (h : hashBody w = hashBody w') : w.hashKey = w'.hashKey := by
  obtain ⟨hk, h⟩ :=
    append_eq_append_of_sep w.kind.sep_not_mem.1 w'.kind.sep_not_mem.1 h (.inr rfl) (.inr rfl)
  simp only [List.cons.injEq, true_and] at h
  obtain ⟨hns, h⟩ := append_eq_append_of_sep hw.ns.2.1 hw'.ns.2.1 h (.inr rfl) (.inr rfl)
  simp only [List.cons.injEq, true_and] at h
  obtain ⟨hn, ht⟩ := append_eq_append_of_sep hw.name.1 hw'.name.1 h (hashTail_head w) (hashTail_head w')
  have hkind := Kind.toString_data_inj hk
  have hkey := hw.key_eq
  have hkey' := hw'.key_eq
  rcases w with ⟨t, s, k, v⟩
  rcases w' with ⟨t', s', k', v'⟩
  simp only [WorkItem.hashKey, hkind, String.ext hns, String.ext hn, Prod.mk.injEq, true_and]
  cases t <;> cases t' <;> cases hkind <;>
    simp only [hashTail, List.cons.injEq, Option.some.injEq, true_and, and_true] at ht ⊢
  · exact RolloutStrategy.toString_data_inj ht
  · obtain ⟨hs, hb⟩ := append_eq_append_of_sep s.sep_not_mem.1 s'.sep_not_mem.1 ht (bump_head k v)
      (bump_head k' v')
    exact ⟨by rw [RolloutStrategy.toString_data_inj hs], bump_eq hkey hkey' hb⟩

theorem hashTail_eq_of_hashKey_eq {w w' : WorkItem} (h : w.hashKey = w'.hashKey) :
    hashTail w = hashTail w' := by
  rcases w with ⟨t, s, k, v⟩
  rcases w' with ⟨t', s', k', v'⟩
  cases t <;> cases t' <;>
    simp only [WorkItem.hashKey, WorkItem.kind, Target.kind, Prod.mk.injEq, reduceCtorEq, false_and,
      Option.some.injEq, true_and, and_true] at h <;> simp only [hashTail]
  · rw [h.2.2]
  · obtain ⟨-, -, rfl, hb⟩ := h
    split_ifs at hb ⊢ <;> simp_all

/-- The hash key is all of an item that its hash input reads. -/
theorem hashBody_eq_of_hashKey_eq {w w' : WorkItem} (h : w.hashKey = w'.hashKey) :
    hashBody w = hashBody w' := by
  have ht := hashTail_eq_of_hashKey_eq h
  simp only [WorkItem.hashKey, Prod.mk.injEq] at h
  rw [hashBody, hashBody, h.1, h.2.1, h.2.2.1, ht]

theorem planHashInput_data (q : List WorkItem) :
    (planHashInput q).data = (q.map fun w => hashBody w ++ ['\n']).flatten := by
  simp only [planHashInput, String.data_join, List.map_map, Function.comp_def, itemHashInput_data]

theorem planHashInput_eq_of_hashKeys_eq {q q' : List WorkItem}
    (h : q.map WorkItem.hashKey = q'.map WorkItem.hashKey) : planHashInput q = planHashInput q' := by
  apply String.ext
  rw [planHashInput_data, planHashInput_data]
  induction q generalizing q' with
  | nil => cases q' <;> simp_all
  | cons w q ih =>
    cases q' with
    | nil => simp at h
    | cons w' q' =>
      simp only [List.map_cons, List.cons.injEq] at h
      simp only [List.map_cons, List.flatten_cons, hashBody_eq_of_hashKey_eq h.1, ih h.2]

/-- On items whose names and bump annotation hold no separator, the plan hash
input determines the hash key of every item of the queue, in order. -/
theorem hashKeys_eq_of_planHashInput_eq {q q' : List WorkItem} (hq : ∀ w ∈ q, w.HashSafe)
    (hq' : ∀ w ∈ q', w.HashSafe) (h : planHashInput q = planHashInput q') :
    q.map WorkItem.hashKey = q'.map WorkItem.hashKey := by
  replace h := congrArg String.data h
  rw [planHashInput_data, planHashInput_data] at h
  induction q generalizing q' with
  | nil => cases q' <;> simp_all
  | cons w q ih =>
    cases q' with
    | nil => simp at h
    | cons w' q' =>
      simp only [List.map_cons, List.flatten_cons, List.append_assoc, List.singleton_append] at h
      have hw := hq w (.head _)
      have hw' := hq' w' (.head _)
      obtain ⟨hb, ht⟩ :=
        append_eq_append_of_sep (hashBody_nl hw) (hashBody_nl hw') h (.inr rfl) (.inr rfl)
      simp only [List.cons.injEq, true_and] at ht
      rw [List.map_cons, List.map_cons, hashKey_eq_of_hashBody_eq hw hw' hb,
        ih (fun x hx => hq x (.tail _ hx)) (fun x hx => hq' x (.tail _ hx)) ht]

/-- Two queues of separator-free items have the same plan hash input exactly
when they agree, item by item, on kind, namespace, name, strategy (of stateful
sets and custom resources) and bump annotation (of custom resources). -/
theorem planHashInput_eq_iff {q q' : List WorkItem} (hq : ∀ w ∈ q, w.HashSafe)
    (hq' : ∀ w ∈ q', w.HashSafe) :
    planHashInput q = planHashInput q' ↔ q.map WorkItem.hashKey = q'.map WorkItem.hashKey :=
  ⟨hashKeys_eq_of_planHashInput_eq hq hq', planHashInput_eq_of_hashKeys_eq⟩

theorem planHashInput_eq_iff_dep_sts :
    let q : List WorkItem := [⟨.deployment ⟨"linkerd", "web", [], [], []⟩, .restart, "", ""⟩]
    let q' : List WorkItem := [⟨.statefulSet ⟨"linkerd", "web", [], [], []⟩, .delete, "", ""⟩]
    (planHashInput q = planHashInput q' ↔ q.map WorkItem.hashKey = q'.map WorkItem.hashKey) :=
  planHashInput_eq_iff
    (by simp only [List.mem_singleton, forall_eq]; exact ⟨by decide, by decide, by decide, by decide, by decide⟩)
    (by simp only [List.mem_singleton, forall_eq]; exact ⟨by decide, by decide, by decide, by decide, by decide⟩)

/-- A bump value holding a newline imitates a following item: a one-item queue
and a two-item queue, all names valid, feed SHA-1 the same bytes. -/
theorem planHashInput_newline_bump_collision :
    let u : CustomResource :=
      ⟨"g", "v1", "K", .obj [("metadata", .obj [("namespace", .str "app"), ("name", .str "c")])]⟩
    let q : List WorkItem := [⟨.customResource u, .restart, "k", "v\nDeployment|app/x"⟩]
    let q' : List WorkItem :=
      [⟨.customResource u, .restart, "k", "v"⟩, ⟨.deployment ⟨"app", "x", [], [], []⟩, .restart, "", ""⟩]
    (∀ lib, planHash lib q = planHash lib q') ∧ q.length ≠ q'.length :=
  ⟨fun _ => rfl, by decide⟩

end TrustRotator
