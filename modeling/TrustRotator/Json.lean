import Mathlib.Data.List.Nodup

/-!
JSON documents as the Kubernetes client machinery handles them.

The status subresource of a `LinkerdTrustRotation` travels as JSON. The
reconciler's `Patch` sends `client.MergeFrom(oldObj)`: the client serialises
the copy it started from and the mutated copy and computes their RFC 7386
merge patch (`CreateMergePatch`, whose core is `getDiff`); the API server
applies that patch to the document it stores (`MergePatch`, whose core is
`mergeDocs`). Schemaless objects (`unstructured.Unstructured`) are JSON trees
as well.

Objects are association lists so that everything here computes. A Go map
cannot repeat a key; the lemmas assume the same of the documents they start
from (`Json.WF`). The two results used by the rest of the development are
per key: a key on which the two serialised copies agree is left as the
server has it (`lookup_merge_diff_of_eq`), and a key on which the server
agrees with the client's starting copy ends up holding, up to `null`
entries, exactly what the client's mutated copy holds
(`agreeAt_lookup_merge_diff`).
-/

namespace TrustRotator

/-- A decoded JSON value (`interface{}` after `json.Unmarshal`). -/
inductive Json where
  | null
  | bool (b : Bool)
  | num (n : Int)
  | str (s : String)
  | arr (xs : List Json)
  | obj (fields : List (String × Json))
  deriving Inhabited

namespace Json

/-- Deep equality of decoded values (`matchesValue`, `matchesArray`). -/
def eqb : Json → Json → Bool
  | null, null => true
  | bool a, bool b => a == b
  | num a, num b => a == b
  | str a, str b => a == b
  | arr xs, arr ys => eqbList xs ys
  | obj fs, obj gs => eqbFields fs gs
  | _, _ => false
where
  eqbList : List Json → List Json → Bool
    | [], [] => true
    | x :: xs, y :: ys => eqb x y && eqbList xs ys
    | _, _ => false
  eqbFields : List (String × Json) → List (String × Json) → Bool
    | [], [] => true
    | (k, x) :: xs, (l, y) :: ys => k == l && eqb x y && eqbFields xs ys
    | _, _ => false

mutual
theorem eqb_self : ∀ a : Json, eqb a a = true
  | null => rfl
  | bool b => beq_self_eq_true b
  | num n => beq_self_eq_true n
  | str s => beq_self_eq_true s
  | arr xs => eqbList_self xs
  | obj fs => eqbFields_self fs
theorem eqbList_self : ∀ xs : List Json, eqb.eqbList xs xs = true
  | [] => rfl
  | x :: xs => Bool.and_eq_true_iff.2 ⟨eqb_self x, eqbList_self xs⟩
theorem eqbFields_self : ∀ fs : List (String × Json), eqb.eqbFields fs fs = true
  | [] => rfl
  | (k, x) :: fs =>
    Bool.and_eq_true_iff.2 ⟨Bool.and_eq_true_iff.2 ⟨beq_self_eq_true k, eqb_self x⟩, eqbFields_self fs⟩
end

mutual
theorem eq_of_eqb : ∀ a b : Json, eqb a b = true → a = b
  | null, b, h => by cases b <;> first | rfl | cases h
  | bool x, b, h => by cases b <;> first | cases h | exact congrArg bool (beq_iff_eq.1 h)
  | num x, b, h => by cases b <;> first | cases h | exact congrArg num (beq_iff_eq.1 h)
  | str x, b, h => by cases b <;> first | cases h | exact congrArg str (beq_iff_eq.1 h)
  | arr xs, b, h => by cases b <;> first | cases h | exact congrArg arr (eq_of_eqbList xs _ h)
  | obj fs, b, h => by cases b <;> first | cases h | exact congrArg obj (eq_of_eqbFields fs _ h)
theorem eq_of_eqbList : ∀ xs ys : List Json, eqb.eqbList xs ys = true → xs = ys
  | [], [], _ => rfl
  | [], _ :: _, h | _ :: _, [], h => by cases h
  | x :: xs, y :: ys, h => by
    obtain ⟨h₁, h₂⟩ := Bool.and_eq_true_iff.1 h
    rw [eq_of_eqb x y h₁, eq_of_eqbList xs ys h₂]
theorem eq_of_eqbFields : ∀ fs gs : List (String × Json), eqb.eqbFields fs gs = true → fs = gs
  | [], [], _ => rfl
  | [], _ :: _, h | _ :: _, [], h => by cases h
  | (k, x) :: fs, (l, y) :: gs, h => by
    obtain ⟨h₁₂, h₃⟩ := Bool.and_eq_true_iff.1 h
    obtain ⟨h₁, h₂⟩ := Bool.and_eq_true_iff.1 h₁₂
    rw [beq_iff_eq.1 h₁, eq_of_eqb x y h₂, eq_of_eqbFields fs gs h₃]
end

instance : DecidableEq Json := fun a b =>
  decidable_of_iff (eqb a b = true) ⟨eq_of_eqb a b, fun h => h ▸ eqb_self a⟩

/-- Whether two decoded values have the same dynamic type (`reflect.TypeOf`). -/
def sameKind : Json → Json → Bool
  | null, null | bool _, bool _ | num _, num _ | str _, str _
  | arr _, arr _ | obj _, obj _ => true
  | _, _ => false

/-- `delete(doc, k)`. -/
def erase (fs : List (String × Json)) (k : String) : List (String × Json) :=
  fs.filter fun p => p.1 != k

/-- `pruneNulls`: drop the `null` members of every object; arrays keep their
`null` elements but are pruned inside. -/
def prune : Json → Json
  | arr xs => arr (pruneList xs)
  | obj fs => obj (pruneFields fs)
  | j => j
where
  pruneList : List Json → List Json
    | [] => []
    | x :: xs => prune x :: pruneList xs
  pruneFields : List (String × Json) → List (String × Json)
    | [] => []
    | (_, null) :: fs => pruneFields fs
    | (k, v) :: fs => (k, prune v) :: pruneFields fs

/-- The keys of `a` that `b` lacks, sent as `null` by `getDiff`. -/
def deletions (a b : List (String × Json)) : List (String × Json) :=
  (a.filter fun p => (b.lookup p.1).isNone).map fun p => (p.1, null)

mutual
/-- What `getDiff` puts under a key present on both sides: nothing when the
values match, the difference of two objects, and otherwise the new value. -/
def diffValue : Json → Json → Option Json
  | obj afs, obj bfs =>
    match diffFields afs bfs ++ deletions afs bfs with
    | [] => none
    | d => some (obj d)
  | av, bv => if sameKind av bv && eqb av bv then none else some bv

/-- The first loop of `getDiff`, over the members of the new object. -/
def diffFields (a : List (String × Json)) : List (String × Json) → List (String × Json)
  | [] => []
  | (k, bv) :: rest =>
    match a.lookup k with
    | none => (k, bv) :: diffFields a rest
    | some av =>
      match diffValue av bv with
      | none => diffFields a rest
      | some d => (k, d) :: diffFields a rest
end

/-- `getDiff a b`: the merge patch that turns `a` into `b`. -/
def getDiff (a b : List (String × Json)) : List (String × Json) :=
  diffFields a b ++ deletions a b

mutual
/-- `merge(cur, patch)` for a non-`null` patch value, `cur` being absent when
the document has no such key. -/
def mergeValue : Option Json → Json → Json
  | some (obj cfs), obj pfs => obj (mergeFields cfs pfs)
  | some (obj _), v => v
  | _, v => prune v

/-- `mergeDocs(doc, patch)`: a `null` member deletes its key, any other is
merged into the document's value for that key. -/
def mergeFields (doc : List (String × Json)) : List (String × Json) → List (String × Json)
  | [] => doc
  | (k, v) :: rest =>
    mergeFields (if v = null then erase doc k else erase doc k ++ [(k, mergeValue (doc.lookup k) v)])
      rest
end

/-- Every object of the document has duplicate-free keys, as a Go map has. -/
def WF : Json → Prop
  | arr xs => list xs
  | obj fs => (fs.map Prod.fst).Nodup ∧ fields fs
  | _ => True
where
  list : List Json → Prop
    | [] => True
    | x :: xs => WF x ∧ list xs
  fields : List (String × Json) → Prop
    | [] => True
    | (_, v) :: fs => WF v ∧ fields fs

mutual
/-- Two documents that every decoder reads alike: equal scalars and arrays,
and objects whose members agree key by key. -/
inductive Agree : Json → Json → Prop
  | null : Agree null null
  | bool (b : Bool) : Agree (bool b) (bool b)
  | num (n : Int) : Agree (num n) (num n)
  | str (s : String) : Agree (str s) (str s)
  | arr {xs ys : List Json} : AgreeList xs ys → Agree (arr xs) (arr ys)
  | obj {fs gs : List (String × Json)} :
      (∀ k, AgreeAt (fs.lookup k) (gs.lookup k)) → Agree (obj fs) (obj gs)

/-- Agreement of what a key holds, a `null` member counting as no member. -/
inductive AgreeAt : Option Json → Option Json → Prop
  | absent {a b : Option Json} : a.getD null = null → b.getD null = null → AgreeAt a b
  | present {x y : Json} : Agree x y → AgreeAt (some x) (some y)

inductive AgreeList : List Json → List Json → Prop
  | nil : AgreeList [] []
  | cons {x y : Json} {xs ys : List Json} : Agree x y → AgreeList xs ys → AgreeList (x :: xs) (y :: ys)
end

/-- What a key holds once the patch member `d` (if any) has been merged into
the value `cur` the document held there. -/
def applyAt (cur : Option Json) : Option Json → Option Json
  | none => cur
  | some v => if v = null then none else some (mergeValue cur v)

/-- What `getDiff` sends for a key, from what the old and the new document
hold there. -/
def diffAt : Option Json → Option Json → Option Json
  | none, some bv => some bv
  | some av, some bv => diffValue av bv
  | some _, none => some null
  | none, none => none

/-! ### Reading members back -/

theorem lookup_cons_ite (k k' : String) (v : Json) (fs : List (String × Json)) :
    ((k', v) :: fs).lookup k = if k = k' then some v else fs.lookup k := by
  by_cases h : k = k'
  · simp [List.lookup_cons, h]
  · have hb : (k == k') = false := by simpa using h
    simp [List.lookup_cons, hb, h]

theorem lookup_eq_none_of_not_mem {fs : List (String × Json)} {k : String}
    (h : k ∉ fs.map Prod.fst) : fs.lookup k = none := by
  simp only [List.mem_map, not_exists, not_and] at h
  exact List.lookup_eq_none_iff.2 fun p hp => bne_iff_ne.2 fun e => h p hp e.symm

theorem mem_of_lookup_eq_some {fs : List (String × Json)} {k : String} {v : Json}
    (h : fs.lookup k = some v) : (k, v) ∈ fs := by
  obtain ⟨l₁, l₂, rfl, -⟩ := List.lookup_eq_some_iff.1 h
  simp

theorem lookup_of_mem {fs : List (String × Json)} (hnd : (fs.map Prod.fst).Nodup) :
    ∀ {e}, e ∈ fs → fs.lookup e.1 = some e.2 := by
  induction fs with
  | nil => simp
  | cons p fs ih =>
    obtain ⟨k, v⟩ := p
    simp only [List.map_cons, List.nodup_cons] at hnd
    intro e he
    rcases List.mem_cons.1 he with rfl | he
    · simp [lookup_cons_ite]
    · have hne : e.1 ≠ k := fun h => hnd.1 (h ▸ List.mem_map_of_mem _ he)
      rw [lookup_cons_ite, if_neg hne, ih hnd.2 he]

theorem lookup_erase (fs : List (String × Json)) (k j : String) :
    (erase fs k).lookup j = if j = k then none else fs.lookup j := by
  induction fs with
  | nil => simp [erase]
  | cons p fs ih =>
    obtain ⟨k', v⟩ := p
    simp only [erase] at ih ⊢
    rw [List.filter_cons]
    by_cases hk : k' = k
    · simp only [hk, bne_self_eq_false, Bool.false_eq_true, if_false, ih, lookup_cons_ite]
      split_ifs <;> simp_all
    · have hb : (k' != k) = true := by simpa using hk
      simp only [hb, if_true, lookup_cons_ite, ih]
      split_ifs <;> simp_all

theorem lookup_erase_append (fs : List (String × Json)) (k j : String) (v : Json) :
    (erase fs k ++ [(k, v)]).lookup j = if j = k then some v else fs.lookup j := by
  rw [List.lookup_append, lookup_erase]
  split_ifs with h <;> simp [h, lookup_cons_ite]

/-! ### The server side: merging a patch -/

theorem lookup_mergeFields (doc p : List (String × Json)) (hp : (p.map Prod.fst).Nodup)
    (k : String) : (mergeFields doc p).lookup k = applyAt (doc.lookup k) (p.lookup k) := by
  induction p generalizing doc with
  | nil => simp [mergeFields, applyAt]
  | cons e rest ih =>
    obtain ⟨k', v⟩ := e
    simp only [List.map_cons, List.nodup_cons] at hp
    rw [mergeFields, ih _ hp.2, lookup_cons_ite]
    by_cases hk : k = k'
    · subst hk
      rw [lookup_eq_none_of_not_mem hp.1]
      split_ifs <;> simp_all [applyAt, lookup_erase, lookup_erase_append]
    · split_ifs <;> simp_all [lookup_erase, lookup_erase_append]

/-! ### The client side: computing the patch -/

theorem lookup_diffFields (a b : List (String × Json)) (hb : (b.map Prod.fst).Nodup)
    (k : String) :
    (diffFields a b).lookup k = (b.lookup k).bind fun bv => diffAt (a.lookup k) (some bv) := by
  induction b with
  | nil => simp [diffFields]
  | cons e rest ih =>
    obtain ⟨k', bv⟩ := e
    simp only [List.map_cons, List.nodup_cons] at hb
    have hrest : k = k' → (diffFields a rest).lookup k = none := by
      rintro rfl; rw [ih hb.2, lookup_eq_none_of_not_mem hb.1]; rfl
    simp only [diffFields]
    by_cases hk : k = k'
    · subst hk
      split <;> rename_i ha
      · simp [lookup_cons_ite, diffAt, ha]
      · split <;> rename_i hd
        · simp [lookup_cons_ite, diffAt, ha, hd, hrest rfl]
        · simp [lookup_cons_ite, diffAt, ha, hd]
    · split
      · simp [lookup_cons_ite, hk, ih hb.2]
      · split <;> simp [lookup_cons_ite, hk, ih hb.2]

theorem lookup_deletions (a b : List (String × Json)) (k : String) :
    (deletions a b).lookup k =
      if (b.lookup k).isNone then (a.lookup k).map fun _ => null else none := by
  induction a with
  | nil => simp [deletions]
  | cons e rest ih =>
    obtain ⟨k', av⟩ := e
    simp only [deletions] at ih ⊢
    rw [List.filter_cons]
    by_cases hb : (b.lookup k').isNone
    · simp only [hb, if_true, List.map_cons]
      by_cases hk : k = k'
      · subst hk; simp [lookup_cons_ite, hb]
      · simp [lookup_cons_ite, hk, ih]
    · simp only [hb, Bool.false_eq_true, if_false]
      by_cases hk : k = k'
      · subst hk; simp [ih, hb]
      · simp [lookup_cons_ite, hk, ih]

theorem lookup_getDiff (a b : List (String × Json)) (hb : (b.map Prod.fst).Nodup) (k : String) :
    (getDiff a b).lookup k = diffAt (a.lookup k) (b.lookup k) := by
  rw [getDiff, List.lookup_append, lookup_diffFields a b hb, lookup_deletions]
  cases hbk : b.lookup k <;> cases hak : a.lookup k <;> simp [diffAt]

theorem keys_diffFields_sublist (a b : List (String × Json)) :
    ((diffFields a b).map Prod.fst).Sublist (b.map Prod.fst) := by
  induction b with
  | nil => simp [diffFields]
  | cons e rest ih =>
    simp only [diffFields, List.map_cons]
    split
    · exact ih.cons₂ _
    · split
      · exact ih.cons _
      · exact ih.cons₂ _

theorem nodup_getDiff {a b : List (String × Json)} (ha : (a.map Prod.fst).Nodup)
    (hb : (b.map Prod.fst).Nodup) : ((getDiff a b).map Prod.fst).Nodup := by
  have hdel : ((deletions a b).map Prod.fst).Sublist (a.map Prod.fst) := by
    simpa [deletions, List.map_map, Function.comp_def] using (List.filter_sublist a).map Prod.fst
  rw [getDiff, List.map_append, List.nodup_append]
  refine ⟨(keys_diffFields_sublist a b).nodup hb, hdel.nodup ha, fun k h₁ h₂ => ?_⟩
  have hin : k ∈ b.map Prod.fst := (keys_diffFields_sublist a b).subset h₁
  simp only [deletions, List.map_map, List.mem_map, List.mem_filter,
    Function.comp_def] at h₂
  obtain ⟨p, ⟨-, hp⟩, rfl⟩ := h₂
  obtain ⟨q, hq, hqk⟩ := List.mem_map.1 hin
  have := List.lookup_eq_none_iff.1 (Option.isNone_iff_eq_none.1 hp) q hq
  simp [hqk] at this

/-! ### Matching values, and agreement up to `null` -/

theorem wf_of_lookup {fs : List (String × Json)} (h : WF.fields fs) {k : String} {v : Json}
    (hv : fs.lookup k = some v) : WF v := by
  induction fs with
  | nil => simp at hv
  | cons e rest ih =>
    obtain ⟨k', v'⟩ := e
    rw [lookup_cons_ite] at hv
    split_ifs at hv
    · cases hv; exact h.1
    · exact ih h.2 hv

theorem deletions_self (fs : List (String × Json)) : deletions fs fs = [] := by
  simp only [deletions, List.map_eq_nil_iff, List.filter_eq_nil_iff]
  intro p hp
  have : (fs.lookup p.1).isSome := List.lookup_isSome_iff.2 ⟨p, hp, by simp⟩
  simpa [Option.isNone_iff_eq_none, Option.isSome_iff_ne_none] using this

mutual
theorem diffValue_self : ∀ v : Json, WF v → diffValue v v = none
  | null, _ => rfl
  | bool b, _ => if_pos (eqb_self _)
  | num n, _ => if_pos (eqb_self _)
  | str s, _ => if_pos (eqb_self _)
  | arr xs, _ => if_pos (eqb_self _)
  | obj fs, h => by
    rw [diffValue, diffFields_self fs fs (fun _ he => lookup_of_mem h.1 he) h.2, deletions_self]
    rfl
theorem diffFields_self : ∀ fs sub : List (String × Json),
    (∀ e ∈ sub, fs.lookup e.1 = some e.2) → WF.fields sub → diffFields fs sub = []
  | _, [], _, _ => rfl
  | fs, (k, v) :: rest, hl, hw => by
    have hrest := diffFields_self fs rest (fun e he => hl e (List.mem_cons_of_mem _ he)) hw.2
    simp [diffFields, hl (k, v) (List.mem_cons_self _ _), diffValue_self v hw.1, hrest]
end

theorem diffAt_self {x : Option Json} (hx : ∀ a, x = some a → WF a) : diffAt x x = none := by
  cases x with
  | none => rfl
  | some a => exact diffValue_self a (hx a rfl)

mutual
theorem Agree.refl : ∀ j : Json, Agree j j
  | null => .null
  | bool b => .bool b
  | num n => .num n
  | str s => .str s
  | arr xs => .arr (AgreeList.refl xs)
  | obj fs => .obj (AgreeAt.refl_lookup fs)
theorem AgreeList.refl : ∀ xs : List Json, AgreeList xs xs
  | [] => .nil
  | x :: xs => .cons (Agree.refl x) (AgreeList.refl xs)
theorem AgreeAt.refl_lookup : ∀ (fs : List (String × Json)) (k : String),
    AgreeAt (fs.lookup k) (fs.lookup k)
  | [], _ => .absent rfl rfl
  | (k', v) :: fs, k => by
    rw [lookup_cons_ite]
    split_ifs
    · exact .present (Agree.refl v)
    · exact AgreeAt.refl_lookup fs k
end

theorem pruneFields_cons_of_ne {k : String} {v : Json} (fs : List (String × Json))
    (hv : v ≠ null) : prune.pruneFields ((k, v) :: fs) = (k, prune v) :: prune.pruneFields fs := by
  cases v <;> simp_all [prune.pruneFields]

theorem lookup_pruneFields_eq_none {fs : List (String × Json)} {k : String}
    (h : fs.lookup k = none) : (prune.pruneFields fs).lookup k = none := by
  induction fs with
  | nil => rfl
  | cons e rest ih =>
    obtain ⟨k', v⟩ := e
    rw [lookup_cons_ite] at h
    split_ifs at h with hk
    by_cases hv : v = null
    · subst hv; exact ih h
    · rw [pruneFields_cons_of_ne _ hv, lookup_cons_ite, if_neg hk, ih h]

mutual
theorem agree_prune : ∀ v : Json, WF v → Agree (prune v) v
  | null, _ => .null
  | bool b, _ => .bool b
  | num n, _ => .num n
  | str s, _ => .str s
  | arr xs, h => .arr (agreeList_pruneList xs h)
  | obj fs, h => .obj (agreeAt_pruneFields fs h.1 h.2)
theorem agreeList_pruneList : ∀ xs : List Json, WF.list xs → AgreeList (prune.pruneList xs) xs
  | [], _ => .nil
  | x :: xs, h => .cons (agree_prune x h.1) (agreeList_pruneList xs h.2)
theorem agreeAt_pruneFields : ∀ fs : List (String × Json), (fs.map Prod.fst).Nodup →
    WF.fields fs → ∀ k, AgreeAt ((prune.pruneFields fs).lookup k) (fs.lookup k)
  | [], _, _, _ => .absent rfl rfl
  | (k', v) :: fs, hnd, hw, k => by
    simp only [List.map_cons, List.nodup_cons] at hnd
    have ih := agreeAt_pruneFields fs hnd.2 hw.2 k
    by_cases hv : v = null
    · subst hv
      rw [prune.pruneFields, lookup_cons_ite]
      split_ifs with hk
      · subst hk
        rw [lookup_pruneFields_eq_none (lookup_eq_none_of_not_mem hnd.1)]
        exact .absent rfl rfl
      · exact ih
    · rw [pruneFields_cons_of_ne _ hv, lookup_cons_ite, lookup_cons_ite]
      split_ifs
      · exact .present (agree_prune v hw.1)
      · exact ih
end

/-- Whether a value is a JSON object. -/
def isObj : Json → Bool
  | obj _ => true
  | _ => false

theorem agreeAt_applyAt_diffValue_of_not_obj (a b : Json) (hab : (a.isObj && b.isObj) = false)
    (hb : WF b) : AgreeAt (applyAt (some a) (diffValue a b)) (some b) := by
  have hd : diffValue a b = if sameKind a b && eqb a b then none else some b := by
    cases a <;> cases b <;> first | rfl | cases hab
  rw [hd]
  split_ifs with h
  · simp only [Bool.and_eq_true] at h
    rw [eq_of_eqb a b h.2]
    exact .present (Agree.refl b)
  · simp only [applyAt]
    split_ifs with hnull
    · exact .absent rfl (by simp [hnull])
    · refine .present ?_
      cases a <;> cases b <;> first | exact agree_prune _ hb | exact Agree.refl _ | cases hab

theorem applyAt_diffValue_obj (afs bfs : List (String × Json)) :
    applyAt (some (obj afs)) (diffValue (obj afs) (obj bfs)) =
      some (obj (mergeFields afs (getDiff afs bfs))) := by
  rw [diffValue]
  split <;> rename_i hd
  · simp [applyAt, getDiff, hd, mergeFields]
  · simp [applyAt, mergeValue, getDiff]

mutual
theorem agreeAt_applyAt_diffAt : ∀ (x : Option Json) (b : Json), (∀ a, x = some a → WF a) →
    WF b → AgreeAt (applyAt x (diffAt x (some b))) (some b)
  | none, b, _, hb => by
    by_cases h : b = null
    · subst h; exact .absent (by simp [applyAt, diffAt]) rfl
    · rw [diffAt, applyAt, if_neg h]
      exact .present (by cases b <;> simp_all [mergeValue, agree_prune])
  | some a, null, _, hb => agreeAt_applyAt_diffValue_of_not_obj a _ (by simp [isObj]) hb
  | some a, bool c, _, hb => agreeAt_applyAt_diffValue_of_not_obj a _ (by simp [isObj]) hb
  | some a, num c, _, hb => agreeAt_applyAt_diffValue_of_not_obj a _ (by simp [isObj]) hb
  | some a, str c, _, hb => agreeAt_applyAt_diffValue_of_not_obj a _ (by simp [isObj]) hb
  | some a, arr ys, _, hb => agreeAt_applyAt_diffValue_of_not_obj a _ (by simp [isObj]) hb
  | some a, obj bfs, ha, hb => by
    cases a
    case obj afs =>
      have hwa := ha _ rfl
      rw [diffAt, applyAt_diffValue_obj]
      refine .present (.obj fun k => ?_)
      rw [lookup_mergeFields _ _ (nodup_getDiff hwa.1 hb.1), lookup_getDiff _ _ hb.1]
      cases hk : bfs.lookup k with
      | none => cases afs.lookup k <;> exact .absent (by simp [diffAt, applyAt]) rfl
      | some bv =>
        exact agreeAt_applyAt_diffAt_fields afs bfs hwa hb.2 (k, bv) (mem_of_lookup_eq_some hk)
    all_goals exact agreeAt_applyAt_diffValue_of_not_obj _ _ (by simp [isObj]) hb
theorem agreeAt_applyAt_diffAt_fields : ∀ (afs bfs : List (String × Json)), WF (obj afs) →
    WF.fields bfs → ∀ e ∈ bfs,
      AgreeAt (applyAt (afs.lookup e.1) (diffAt (afs.lookup e.1) (some e.2))) (some e.2)
  | _, [], _, _, e, he => absurd he (List.not_mem_nil e)
  | afs, (k, bv) :: rest, ha, hb, e, he => by
    rcases List.mem_cons.1 he with rfl | he
    · exact agreeAt_applyAt_diffAt (afs.lookup k) bv (fun _ h => wf_of_lookup ha.2 h) hb.1
    · exact agreeAt_applyAt_diffAt_fields afs rest ha hb.2 e he
end

/-! ### A patch computed from two copies, applied to a third -/

/-- A key on which the client's two copies agree keeps what the server holds. -/
theorem lookup_merge_diff_of_eq {S A B : List (String × Json)} (hA : WF (obj A)) (hB : WF (obj B))
    {k : String} (h : A.lookup k = B.lookup k) :
    (mergeFields S (getDiff A B)).lookup k = S.lookup k := by
  rw [lookup_mergeFields _ _ (nodup_getDiff hA.1 hB.1), lookup_getDiff _ _ hB.1, h,
    diffAt_self fun _ ha => wf_of_lookup hB.2 ha]
  rfl

/-- A key on which the server holds what the client started from ends up
holding what the client's mutated copy holds. -/
theorem agreeAt_lookup_merge_diff {S A B : List (String × Json)} (hA : WF (obj A))
    (hB : WF (obj B)) {k : String} (h : S.lookup k = A.lookup k) :
    AgreeAt ((mergeFields S (getDiff A B)).lookup k) (B.lookup k) := by
  rw [lookup_mergeFields _ _ (nodup_getDiff hA.1 hB.1), lookup_getDiff _ _ hB.1, h]
  cases hb : B.lookup k with
  | none => cases A.lookup k <;> exact .absent (by simp [diffAt, applyAt]) rfl
  | some bv =>
    exact agreeAt_applyAt_diffAt _ bv (fun _ ha => wf_of_lookup hA.2 ha) (wf_of_lookup hB.2 hb)

/-- A string member the client changed ends up holding the client's string,
whatever the server held. -/
theorem lookup_merge_diff_of_ne_str {S A B : List (String × Json)} (hA : WF (obj A)) (hB : WF (obj B))
    {k s : String} (hb : B.lookup k = some (str s)) (h : A.lookup k ≠ some (str s)) :
    (mergeFields S (getDiff A B)).lookup k = some (str s) := by
  rw [lookup_mergeFields _ _ (nodup_getDiff hA.1 hB.1), lookup_getDiff _ _ hB.1, hb]
  have hd : diffAt (A.lookup k) (some (str s)) = some (str s) := by
    cases ha : A.lookup k with
    | none => rfl
    | some a =>
      have hne : eqb a (str s) = false := Bool.eq_false_iff.2 fun he => h (by rw [ha, eq_of_eqb a _ he])
      show diffValue a (str s) = some (str s)
      cases a <;> simp [diffValue, hne]
  rw [hd]
  cases S.lookup k with
  | none => rfl
  | some j => cases j <;> rfl

end Json

end TrustRotator
