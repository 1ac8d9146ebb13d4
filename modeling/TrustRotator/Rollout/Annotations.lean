import TrustRotator.Rollout.Select

/-!
# Which custom resources carry the selector annotation

`crHasTemplateAnnotation` looks for the selector's annotation on four pod
templates of a schemaless object: `spec.template`, `spec.jobTemplate.spec.template`,
`spec.podTemplate` and each element of `spec.pods`. `Json.At` says what a path
of object members reaches, and `TemplateAnnotated` states the selection with
it, in terms of members rather than lookups. On every document a Go map can
hold, with no key twice in an object (`Json.WF`), the code's walk of the four
paths decides exactly that (`crHasTemplateAnnotation_iff`): an intermediate
node that is not an object, an annotation value that is not a string, and an
element of `spec.pods` that is not an object each select nothing.
-/

namespace TrustRotator

namespace Json

/-- `j'` is reached from `j` by following the members named by `path`, every
node on the way an object. -/
def At (j : Json) (path : List String) (j' : Json) : Prop :=
  match path, j with
  | [], j => j = j'
  | p :: ps, obj fs => ∃ c, (p, c) ∈ fs ∧ At c ps j'
  | _ :: _, _ => False

@[simp] theorem at_nil (j j' : Json) : j.At [] j' ↔ j = j' := Iff.rfl

@[simp] theorem at_obj_cons (fs : List (String × Json)) (p : String) (ps : List String) (j' : Json) :
    (obj fs).At (p :: ps) j' ↔ ∃ j, (p, j) ∈ fs ∧ j.At ps j' := Iff.rfl

theorem WF.fields_of {j : Json} (h : j.WF) : (j.fields.map Prod.fst).Nodup ∧ WF.fields j.fields := by
  cases j <;> first | exact h | exact ⟨List.nodup_nil, trivial⟩

theorem at_cons_obj_fields (j : Json) (p : String) (ps : List String) (j' : Json) :
    j.At (p :: ps) j' ↔ (obj j.fields).At (p :: ps) j' := by
  cases j <;> simp [At, fields]

/-- The path from a well-formed object goes through the member `lookup` finds. -/
theorem at_cons_iff_lookup {fs : List (String × Json)} (hnd : (fs.map Prod.fst).Nodup) (p : String)
    (ps : List String) (j' : Json) :
    (obj fs).At (p :: ps) j' ↔ ∃ c, fs.lookup p = some c ∧ c.At ps j' :=
  ⟨fun ⟨c, hm, ha⟩ => ⟨c, lookup_of_mem hnd hm, ha⟩,
    fun ⟨c, hl, ha⟩ => ⟨c, mem_of_lookup_eq_some hl, ha⟩⟩

theorem wf_of_mem_fields : ∀ {fs : List (String × Json)}, WF.fields fs → ∀ {e}, e ∈ fs → WF e.2
  | [], _, _, he => absurd he (List.not_mem_nil _)
  | _ :: _, h, _, he => by
    rcases List.mem_cons.1 he with rfl | he
    exacts [h.1, wf_of_mem_fields h.2 he]

theorem wf_of_mem_list : ∀ {xs : List Json}, WF.list xs → ∀ {x}, x ∈ xs → WF x
  | [], _, _, hx => absurd hx (List.not_mem_nil _)
  | _ :: _, h, _, hx => by
    rcases List.mem_cons.1 hx with rfl | hx
    exacts [h.1, wf_of_mem_list h.2 hx]

/-- Every value inside a well-formed document is well formed. -/
theorem WF.at : ∀ {path : List String} {j j' : Json}, j.WF → j.At path j' → j'.WF
  | [], _, _, h, rfl => h
  | _ :: _, obj _, _, h, ⟨_, hm, ha⟩ => WF.at (wf_of_mem_fields h.2 hm) ha

/-- The string members of an object, as `getAnnoFromMap` keeps them. -/
def stringMembers (raw : List (String × Json)) : List (String × String) :=
  raw.filterMap fun p => match p.2 with
    | .str s => some (p.1, s)
    | _ => none

theorem lookup_stringMembers {raw : List (String × Json)} (hnd : (raw.map Prod.fst).Nodup) (k s : String) :
    (stringMembers raw).lookup k = some s ↔ (k, str s) ∈ raw := by
  induction raw with
  | nil => simp [stringMembers]
  | cons e rest ih =>
    obtain ⟨k', j⟩ := e
    simp only [List.map_cons, List.nodup_cons] at hnd
    have hk : k = k' → (k, str s) ∉ rest := fun h hm => hnd.1 (h ▸ List.mem_map_of_mem Prod.fst hm)
    by_cases h : k = k'
    · subst h
      cases j <;> simp_all [stringMembers, eq_comm]
    · have hb : (k == k') = false := beq_eq_false_iff_ne.2 h
      cases j <;> simp only [stringMembers, List.filterMap_cons, List.lookup_cons, hb] at ih ⊢ <;>
        simpa [h] using ih hnd.2

end Json

/-! ### The selection, stated on members -/

/-- An annotations object holding `k` as a string, equal to `v` unless `v` is empty. -/
def AnnotatedBy (ann : List (String × Json)) (k v : String) : Prop :=
  ∃ s, (k, .str s) ∈ ann ∧ (v = "" ∨ s = v)

/-- The object at `path` in `u` is an annotations object matching `k` and `v`. -/
def AnnotatedAt (u : Json) (path : List String) (k v : String) : Prop :=
  ∃ ann, u.At path (.obj ann) ∧ AnnotatedBy ann k v

/-- The pod templates a schemaless object is selected by. -/
def TemplateAnnotated (u : Json) (k v : String) : Prop :=
  AnnotatedAt u ["spec", "template", "metadata", "annotations"] k v ∨
  AnnotatedAt u ["spec", "jobTemplate", "spec", "template", "metadata", "annotations"] k v ∨
  AnnotatedAt u ["spec", "podTemplate", "metadata", "annotations"] k v ∨
  ∃ pods, u.At ["spec", "pods"] (.arr pods) ∧ ∃ it ∈ pods, AnnotatedAt it ["metadata", "annotations"] k v

/-! ### The code meets it -/

section
variable {k v : String}

theorem annoMatches_stringMembers {raw : List (String × Json)} (hnd : (raw.map Prod.fst).Nodup) :
    annoMatches (some (Json.stringMembers raw)) k v = true ↔ AnnotatedBy raw k v := by
  simp only [annoMatches, AnnotatedBy]
  split
  · rename_i s hl
    have hs := (Json.lookup_stringMembers hnd k s).1 hl
    simp only [Bool.or_eq_true, beq_iff_eq]
    refine ⟨fun h => ⟨s, hs, h⟩, fun ⟨s', hs', h⟩ => ?_⟩
    obtain rfl : s = s' := by simpa [hl] using (Json.lookup_stringMembers hnd k s').2 hs'
    exact h
  · rename_i hl
    simp only [Bool.false_eq_true, false_iff, not_exists, not_and]
    intro s hs
    simp [(Json.lookup_stringMembers hnd k s).2 hs] at hl

theorem getAnnoFromMap_single {fs : List (String × Json)} {last : String} {raw : List (String × Json)}
    (h : fs.lookup last = some (.obj raw)) : getAnnoFromMap fs [last] = some (Json.stringMembers raw) := by
  simp only [getAnnoFromMap, h]
  rfl

/-- `getAnnoFromMap` walks exactly the paths of objects `AnnotatedAt` names. -/
theorem annoMatches_getAnnoFromMap :
    ∀ (ps : List String) {fs : List (String × Json)} (p : String), (fs.map Prod.fst).Nodup → Json.WF.fields fs →
      (annoMatches (getAnnoFromMap fs (p :: ps)) k v = true ↔ AnnotatedAt (.obj fs) (p :: ps) k v)
  | [], fs, p, hnd, hwf => by
    simp only [AnnotatedAt, Json.at_cons_iff_lookup hnd, Json.at_nil]
    rcases hl : fs.lookup p with _ | (_ | _ | _ | _ | _ | raw) <;> simp [getAnnoFromMap, hl, annoMatches]
    rw [← annoMatches_stringMembers (Json.wf_of_lookup hwf hl).1]
    rfl
  | q :: qs, fs, p, hnd, hwf => by
    simp only [AnnotatedAt, Json.at_cons_iff_lookup hnd]
    rcases hl : fs.lookup p with _ | (_ | _ | _ | _ | _ | next) <;>
      simp [getAnnoFromMap, hl, annoMatches, Json.At]
    have hwn := Json.wf_of_lookup hwf hl
    exact annoMatches_getAnnoFromMap qs q hwn.1 hwn.2

/-- `NestedSlice` finds the array at the end of a path of objects. -/
theorem nestedSlice_eq_some_iff :
    ∀ (ps : List String) {fs : List (String × Json)} (p : String), (fs.map Prod.fst).Nodup →
      Json.WF.fields fs → ∀ xs, nestedSlice fs (p :: ps) = some xs ↔ (Json.obj fs).At (p :: ps) (.arr xs)
  | [], fs, p, hnd, _, xs => by
    simp only [Json.at_cons_iff_lookup hnd, Json.at_nil]
    rcases hl : fs.lookup p with _ | (_ | _ | _ | _ | ys | _) <;> simp [nestedSlice, hl]
  | q :: qs, fs, p, hnd, hwf, xs => by
    simp only [Json.at_cons_iff_lookup hnd]
    rcases hl : fs.lookup p with _ | (_ | _ | _ | _ | _ | next) <;> simp [nestedSlice, hl, Json.At]
    have hwn := Json.wf_of_lookup hwf hl
    exact nestedSlice_eq_some_iff qs q hwn.1 hwn.2 xs

/-- On every well-formed schemaless object, `crHasTemplateAnnotation` holds
exactly when one of its four pod-template paths leads, through objects only, to
annotations matching the key and value. -/
theorem crHasTemplateAnnotation_iff {u : Json} (hwf : u.WF) (k v : String) :
    crHasTemplateAnnotation u k v = true ↔ TemplateAnnotated u k v := by
  obtain ⟨hnd, hfs⟩ := hwf.fields_of
  have anno : ∀ {it : Json}, it.WF → ∀ p ps,
      annoMatches (getAnnoFromMap it.fields (p :: ps)) k v = true ↔ AnnotatedAt it (p :: ps) k v := by
    intro it hit p ps
    obtain ⟨hnd', hfs'⟩ := hit.fields_of
    rw [annoMatches_getAnnoFromMap ps p hnd' hfs']
    simp only [AnnotatedAt, ← Json.at_cons_obj_fields]
  have slice : ∀ xs, nestedSlice u.fields ["spec", "pods"] = some xs ↔ u.At ["spec", "pods"] (.arr xs) := by
    intro xs
    rw [nestedSlice_eq_some_iff _ _ hnd hfs, ← Json.at_cons_obj_fields]
  unfold crHasTemplateAnnotation TemplateAnnotated
  simp only [Bool.or_eq_true, anno hwf, or_assoc]
  refine or_congr_right (or_congr_right (or_congr_right ?_))
  split
  · rename_i xs hs
    have hxs := (slice xs).1 hs
    have hwx : ∀ it ∈ xs, it.WF := fun it hit => Json.wf_of_mem_list (hwf.at hxs) hit
    rw [List.any_eq_true]
    constructor
    · rintro ⟨it, hit, h⟩
      exact ⟨xs, hxs, it, hit, (anno (hwx it hit) _ _).1 h⟩
    · rintro ⟨ys, hys, it, hit, h⟩
      obtain rfl : xs = ys := Option.some.inj (hs.symm.trans ((slice ys).2 hys))
      exact ⟨it, hit, (anno (hwx it hit) _ _).2 h⟩
  · rename_i hs
    simp only [Bool.false_eq_true, false_iff, not_exists, not_and]
    intro ys hys
    simp [(slice ys).2 hys] at hs

theorem crHasTemplateAnnotation_iff_pods :
    let u : Json := .obj [("spec", .obj [("pods", .arr [.obj [("metadata",
      .obj [("annotations", .obj [("linkerd.io/inject", .str "enabled")])])]])])]
    crHasTemplateAnnotation u "linkerd.io/inject" "enabled" = true ↔
      TemplateAnnotated u "linkerd.io/inject" "enabled" :=
  crHasTemplateAnnotation_iff (by simp [Json.WF, Json.WF.fields, Json.WF.list]) _ _

end

end TrustRotator
