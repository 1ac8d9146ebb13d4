import TrustRotator.Api.Types

/-!
What the API server keeps of a status, and what a merge patch does to it.

`stored s` is the status read back from its own JSON form: every field comes
back unchanged except the times, where a zero `metav1.Time` is written as
`null` and read back as `nil`. A status patch sent by `ManageStatus.Patch`
(`applyPatch server old new`) acts field by field: a field on which `old`
and `new` agree keeps what the server holds (`applyPatch_*_frame`), and a
field on which the server holds what `old` holds ends up as `new` holds it
(`applyPatch_*_fresh`). The decoders read a `null` member as a missing one,
so they respect `AgreeAt`; that is what carries the per-key results of
`TrustRotator.Json` over to the typed status.
-/

namespace TrustRotator

open Json

/-! ### Decoders read agreeing documents alike -/

namespace Json

theorem eq_none_or_null_of_getD {x : Option Json} (h : x.getD null = null) :
    x = none ∨ x = some null := by
  cases x <;> simp_all

theorem decStr_congr {x y : Option Json} (h : AgreeAt x y) : decStr x = decStr y := by
  cases h with
  | absent hx hy =>
    rcases eq_none_or_null_of_getD hx with rfl | rfl <;>
      rcases eq_none_or_null_of_getD hy with rfl | rfl <;> rfl
  | present h => cases h <;> rfl

theorem decInt_congr {x y : Option Json} (h : AgreeAt x y) : decInt x = decInt y := by
  cases h with
  | absent hx hy =>
    rcases eq_none_or_null_of_getD hx with rfl | rfl <;>
      rcases eq_none_or_null_of_getD hy with rfl | rfl <;> rfl
  | present h => cases h <;> rfl

theorem decBool_congr {x y : Option Json} (h : AgreeAt x y) : decBool x = decBool y := by
  cases h with
  | absent hx hy =>
    rcases eq_none_or_null_of_getD hx with rfl | rfl <;>
      rcases eq_none_or_null_of_getD hy with rfl | rfl <;> rfl
  | present h => cases h <;> rfl

@[simp] theorem decStr_str (s : String) : decStr (some (.str s)) = some s := rfl

@[simp] theorem decStr_map_str (x : Option String) : decStr (x.map .str) = x := by
  cases x <;> rfl

@[simp] theorem decInt_num (n : Int) : decInt (some (.num n)) = n := rfl

@[simp] theorem decBool_bool (b : Bool) : decBool (some (.bool b)) = b := rfl

theorem lookup_opt {α : Type} (k j : String) (enc : α → Json) (a : Option α) :
    (opt k enc a).lookup j = if j = k then a.map enc else none := by
  cases a <;> simp [opt, lookup_cons_ite]

theorem lookup_optStr (k j s : String) :
    (optStr k s).lookup j = if j = k ∧ s ≠ "" then some (.str s) else none := by
  unfold optStr; split_ifs <;> simp_all [lookup_cons_ite]

/-- An `omitempty` string reads back as itself. -/
@[simp] theorem getD_decStr_ite (s : String) :
    (decStr (if s = "" then none else some (.str s))).getD "" = s := by
  split_ifs with h <;> simp_all [decStr]

theorem keys_opt_sublist {α : Type} (k : String) (enc : α → Json) (a : Option α) :
    ((opt k enc a).map Prod.fst).Sublist [k] := by
  cases a <;> simp [opt]

theorem keys_optStr_sublist (k s : String) : ((optStr k s).map Prod.fst).Sublist [k] := by
  unfold optStr; split_ifs <;> simp

theorem wf_fields_append {fs gs : List (String × Json)} (hf : WF.fields fs)
    (hg : WF.fields gs) : WF.fields (fs ++ gs) := by
  induction fs with
  | nil => exact hg
  | cons e fs ih => exact ⟨hf.1, ih hf.2⟩

theorem wf_fields_opt {α : Type} (k : String) (enc : α → Json) (a : Option α)
    (h : ∀ x, WF (enc x)) : WF.fields (opt k enc a) := by
  cases a <;> simp [opt, WF.fields, h]

theorem wf_fields_optStr (k s : String) : WF.fields (optStr k s) := by
  unfold optStr; split_ifs <;> simp [WF.fields, WF]

end Json

/-! ### The nested encodings -/

/-- The zero time reads back as no time at all. -/
def Time.norm : Option Time → Option Time
  | some ⟨0⟩ => none
  | t => t

@[simp] theorem Time.norm_none : Time.norm none = none := rfl

@[simp] theorem Time.norm_zero : Time.norm (some ⟨0⟩) = none := rfl

@[simp] theorem Time.norm_succ (n : Nat) : Time.norm (some ⟨n + 1⟩) = some ⟨n + 1⟩ := rfl

@[simp] theorem Time.norm_norm (t : Option Time) : Time.norm (Time.norm t) = Time.norm t := by
  rcases t with _ | ⟨_ | n⟩ <;> rfl

theorem Time.ofJson_congr {x y : Option Json} (h : AgreeAt x y) : Time.ofJson x = Time.ofJson y := by
  cases h with
  | absent hx hy =>
    rcases eq_none_or_null_of_getD hx with rfl | rfl <;>
      rcases eq_none_or_null_of_getD hy with rfl | rfl <;> rfl
  | present h => cases h <;> rfl

@[simp] theorem Time.ofJson_toJson (t : Option Time) : Time.ofJson (t.map Time.toJson) = Time.norm t := by
  rcases t with _ | ⟨_ | n⟩ <;> simp [Time.toJson, Time.ofJson, Time.norm]

theorem Time.wf_toJson (t : Time) : WF t.toJson := by
  unfold Time.toJson; split_ifs <;> trivial

theorem WorkRef.ofJson_congr {x y : Option Json} (h : AgreeAt x y) :
    WorkRef.ofJson x = WorkRef.ofJson y := by
  cases h with
  | absent hx hy =>
    rcases eq_none_or_null_of_getD hx with rfl | rfl <;>
      rcases eq_none_or_null_of_getD hy with rfl | rfl <;> rfl
  | present h =>
    cases h
    case obj h =>
      simp only [WorkRef.ofJson, decStr_congr (h "kind"), decStr_congr (h "namespace"),
        decStr_congr (h "name")]
    all_goals rfl

@[simp] theorem WorkRef.ofJson_toJson (r : Option WorkRef) :
    WorkRef.ofJson (r.map WorkRef.toJson) = r := by
  rcases r with _ | ⟨k, ns, n⟩ <;> rfl

theorem WorkRef.wf_toJson (r : WorkRef) : WF r.toJson := by
  simp [WorkRef.toJson, WF, WF.fields]

theorem ProgressStatus.ofJson_congr {x y : Option Json} (h : AgreeAt x y) :
    ProgressStatus.ofJson x = ProgressStatus.ofJson y := by
  cases h with
  | absent hx hy =>
    rcases eq_none_or_null_of_getD hx with rfl | rfl <;>
      rcases eq_none_or_null_of_getD hy with rfl | rfl <;> rfl
  | present h =>
    cases h
    case obj h =>
      simp only [ProgressStatus.ofJson, decBool_congr (h "controlPlaneReady"),
        decInt_congr (h "dataPlanePercent")]
    all_goals rfl

@[simp] theorem ProgressStatus.ofJson_toJson (p : Option ProgressStatus) :
    ProgressStatus.ofJson (p.map ProgressStatus.toJson) = p := by
  rcases p with _ | ⟨c, d⟩ <;> rfl

theorem ProgressStatus.wf_toJson (p : ProgressStatus) : WF p.toJson := by
  simp [ProgressStatus.toJson, WF, WF.fields]

theorem TrustStatus.ofJson_congr {x y : Option Json} (h : AgreeAt x y) :
    TrustStatus.ofJson x = TrustStatus.ofJson y := by
  cases h with
  | absent hx hy =>
    rcases eq_none_or_null_of_getD hx with rfl | rfl <;>
      rcases eq_none_or_null_of_getD hy with rfl | rfl <;> rfl
  | present h =>
    cases h
    case obj h =>
      simp only [TrustStatus.ofJson, decStr_congr (h "bundleState"), decStr_congr (h "currentFP"),
        decStr_congr (h "previousFP")]
    all_goals rfl

@[simp] theorem TrustStatus.ofJson_toJson (t : Option TrustStatus) :
    TrustStatus.ofJson (t.map TrustStatus.toJson) = t := by
  rcases t with _ | ⟨b, c, p⟩
  · rfl
  · have hb : decStr (some (b.elim Json.null Json.str)) = b := by cases b <;> rfl
    simp only [Option.map_some', TrustStatus.ofJson, TrustStatus.toJson, List.singleton_append,
      lookup_cons_ite, List.lookup_append, lookup_optStr]
    simp only [if_true, if_false, Option.some.injEq, TrustStatus.mk.injEq]
    refine ⟨hb, ?_, ?_⟩ <;> split_ifs <;> simp_all [decStr]

theorem TrustStatus.wf_toJson (t : TrustStatus) : WF t.toJson := by
  unfold TrustStatus.toJson
  refine ⟨?_, wf_fields_append (wf_fields_append ⟨?_, trivial⟩ (wf_fields_optStr _ _))
    (wf_fields_optStr _ _)⟩
  · have h : List.Sublist _ (["bundleState"] ++ ["currentFP"] ++ ["previousFP"]) :=
      ((List.Sublist.refl _).append (keys_optStr_sublist _ t.currentFP)).append
        (keys_optStr_sublist _ t.previousFP)
    simpa only [List.map_append] using h.nodup (by decide)
  · cases t.bundleState <;> trivial

theorem RolloutCursor.ofJson_congr {x y : Option Json} (h : AgreeAt x y) :
    RolloutCursor.ofJson x = RolloutCursor.ofJson y := by
  cases h with
  | absent hx hy =>
    rcases eq_none_or_null_of_getD hx with rfl | rfl <;>
      rcases eq_none_or_null_of_getD hy with rfl | rfl <;> rfl
  | present h =>
    cases h
    case obj h =>
      simp only [RolloutCursor.ofJson, decStr_congr (h "planHash"), decInt_congr (h "next"),
        decInt_congr (h "total"), WorkRef.ofJson_congr (h "lastDone")]
    all_goals rfl

@[simp] theorem RolloutCursor.ofJson_toJson (c : Option RolloutCursor) :
    RolloutCursor.ofJson (c.map RolloutCursor.toJson) = c := by
  rcases c with _ | ⟨h, n, t, l⟩
  · rfl
  · simp only [Option.map_some', RolloutCursor.ofJson, RolloutCursor.toJson, List.lookup_append,
      lookup_optStr, lookup_cons_ite, lookup_opt]
    simp

theorem RolloutCursor.wf_toJson (c : RolloutCursor) : WF c.toJson := by
  unfold RolloutCursor.toJson
  refine ⟨?_, wf_fields_append (wf_fields_append (wf_fields_optStr _ _) ⟨trivial, trivial, trivial⟩)
    (wf_fields_opt _ _ _ WorkRef.wf_toJson)⟩
  have h : List.Sublist _ (["planHash"] ++ ["next", "total"] ++ ["lastDone"]) :=
    ((keys_optStr_sublist _ c.planHash).append (List.Sublist.refl _)).append
      (keys_opt_sublist _ WorkRef.toJson c.lastDone)
  simpa only [List.map_append] using h.nodup (by decide)

/-- A retry record as it reads back: a zero `lastErrorTime` is lost. -/
def RetryStatus.norm (r : RetryStatus) : RetryStatus :=
  { r with lastErrorTime := Time.norm r.lastErrorTime }

theorem RetryStatus.ofJson_congr {x y : Option Json} (h : AgreeAt x y) :
    RetryStatus.ofJson x = RetryStatus.ofJson y := by
  cases h with
  | absent hx hy =>
    rcases eq_none_or_null_of_getD hx with rfl | rfl <;>
      rcases eq_none_or_null_of_getD hy with rfl | rfl <;> rfl
  | present h =>
    cases h
    case obj h =>
      simp only [RetryStatus.ofJson, decInt_congr (h "count"), decStr_congr (h "lastError"),
        WorkRef.ofJson_congr (h "lastErrorObject"), Time.ofJson_congr (h "lastErrorTime")]
    all_goals rfl

@[simp] theorem RetryStatus.ofJson_toJson (r : Option RetryStatus) :
    RetryStatus.ofJson (r.map RetryStatus.toJson) = r.map RetryStatus.norm := by
  rcases r with _ | ⟨c, e, f, t⟩
  · rfl
  · simp only [Option.map_some', RetryStatus.ofJson, RetryStatus.toJson, List.lookup_append,
      lookup_optStr, lookup_cons_ite, lookup_opt, List.singleton_append]
    simp [RetryStatus.norm]

theorem RetryStatus.wf_toJson (r : RetryStatus) : WF r.toJson := by
  unfold RetryStatus.toJson
  refine ⟨?_, wf_fields_append (wf_fields_append (wf_fields_append ⟨trivial, trivial⟩
    (wf_fields_optStr _ _)) (wf_fields_opt _ _ _ WorkRef.wf_toJson))
    (wf_fields_opt _ _ _ Time.wf_toJson)⟩
  have h : List.Sublist _
      (["count"] ++ ["lastError"] ++ ["lastErrorObject"] ++ ["lastErrorTime"]) :=
    (((List.Sublist.refl _).append (keys_optStr_sublist _ r.lastError)).append
      (keys_opt_sublist _ WorkRef.toJson r.lastFailed)).append
      (keys_opt_sublist _ Time.toJson r.lastErrorTime)
  simpa only [List.map_append] using h.nodup (by decide)

/-! ### The status -/

namespace LinkerdTrustRotationStatus

/-- The status as the API server stores it: its JSON form read back. -/
def stored (s : LinkerdTrustRotationStatus) : LinkerdTrustRotationStatus := ofFields s.toFields

@[simp] theorem lookup_toFields_phase (s : LinkerdTrustRotationStatus) :
    s.toFields.lookup "phase" = s.phase.map .str := by
  simp [toFields, List.lookup_append, lookup_opt, lookup_optStr]

@[simp] theorem lookup_toFields_reason (s : LinkerdTrustRotationStatus) :
    s.toFields.lookup "reason" = s.reason.map .str := by
  simp [toFields, List.lookup_append, lookup_opt, lookup_optStr]

@[simp] theorem lookup_toFields_message (s : LinkerdTrustRotationStatus) :
    s.toFields.lookup "message" = s.message.map .str := by
  simp [toFields, List.lookup_append, lookup_opt, lookup_optStr]

@[simp] theorem lookup_toFields_startedAt (s : LinkerdTrustRotationStatus) :
    s.toFields.lookup "startedAt" = s.startedAt.map Time.toJson := by
  simp [toFields, List.lookup_append, lookup_opt, lookup_optStr]

@[simp] theorem lookup_toFields_lastUpdated (s : LinkerdTrustRotationStatus) :
    s.toFields.lookup "lastUpdated" = s.lastUpdated.map Time.toJson := by
  simp [toFields, List.lookup_append, lookup_opt, lookup_optStr]

@[simp] theorem lookup_toFields_completionTime (s : LinkerdTrustRotationStatus) :
    s.toFields.lookup "completionTime" = s.completionTime.map Time.toJson := by
  simp [toFields, List.lookup_append, lookup_opt, lookup_optStr]

@[simp] theorem lookup_toFields_progress (s : LinkerdTrustRotationStatus) :
    s.toFields.lookup "progress" = s.progress.map ProgressStatus.toJson := by
  simp [toFields, List.lookup_append, lookup_opt, lookup_optStr]

@[simp] theorem lookup_toFields_trust (s : LinkerdTrustRotationStatus) :
    s.toFields.lookup "trust" = s.trust.map TrustStatus.toJson := by
  simp [toFields, List.lookup_append, lookup_opt, lookup_optStr]

@[simp] theorem lookup_toFields_retries (s : LinkerdTrustRotationStatus) :
    s.toFields.lookup "retries" = s.retries.map RetryStatus.toJson := by
  simp [toFields, List.lookup_append, lookup_opt, lookup_optStr]

@[simp] theorem lookup_toFields_cursor (s : LinkerdTrustRotationStatus) :
    s.toFields.lookup "cursor" = s.cursor.map RolloutCursor.toJson := by
  simp [toFields, List.lookup_append, lookup_opt, lookup_optStr]

@[simp] theorem lookup_toFields_dryRunPlan (s : LinkerdTrustRotationStatus) :
    s.toFields.lookup "dryRunPlan" = if s.dryRunPlan = "" then none else some (.str s.dryRunPlan) := by
  simp [toFields, List.lookup_append, lookup_opt, lookup_optStr]

@[simp] theorem stored_eq (s : LinkerdTrustRotationStatus) :
    s.stored =
      { s with
        startedAt := Time.norm s.startedAt
        lastUpdated := Time.norm s.lastUpdated
        completionTime := Time.norm s.completionTime
        retries := s.retries.map RetryStatus.norm } := by
  simp [stored, ofFields]

theorem wf_toFields (s : LinkerdTrustRotationStatus) : WF (.obj s.toFields) := by
  refine ⟨?_, ?_⟩
  · have h : List.Sublist (s.toFields.map Prod.fst) (["phase"] ++ ["reason"] ++ ["message"] ++
        ["startedAt"] ++ ["lastUpdated"] ++ ["completionTime"] ++ ["progress"] ++ ["trust"] ++
        ["retries"] ++ ["cursor"] ++ ["dryRunPlan"]) := by
      simp only [toFields, List.map_append]
      repeat' apply List.Sublist.append
      all_goals first | exact keys_opt_sublist _ _ _ | exact keys_optStr_sublist _ _
    exact h.nodup (by decide)
  · have hs : ∀ x : String, WF (.str x) := fun _ => trivial
    simp only [toFields]
    repeat' apply wf_fields_append
    all_goals first
      | exact wf_fields_optStr _ _
      | exact wf_fields_opt _ _ _ hs
      | exact wf_fields_opt _ _ _ Time.wf_toJson
      | exact wf_fields_opt _ _ _ ProgressStatus.wf_toJson
      | exact wf_fields_opt _ _ _ TrustStatus.wf_toJson
      | exact wf_fields_opt _ _ _ RetryStatus.wf_toJson
      | exact wf_fields_opt _ _ _ RolloutCursor.wf_toJson

/-- Decoding reads two documents that agree key by key alike. -/
theorem ofFields_congr {fs gs : List (String × Json)} (h : ∀ k, AgreeAt (fs.lookup k) (gs.lookup k)) :
    ofFields fs = ofFields gs := by
  simp only [ofFields, decStr_congr (h _), Time.ofJson_congr (h _), ProgressStatus.ofJson_congr (h _),
    TrustStatus.ofJson_congr (h _), RetryStatus.ofJson_congr (h _), RolloutCursor.ofJson_congr (h _)]

theorem lookup_applyPatch_of_eq (server old new : LinkerdTrustRotationStatus) (k : String)
    (h : old.toFields.lookup k = new.toFields.lookup k) :
    (mergeFields server.toFields (getDiff old.toFields new.toFields)).lookup k =
      server.toFields.lookup k :=
  lookup_merge_diff_of_eq (wf_toFields old) (wf_toFields new) h

theorem agreeAt_applyPatch_of_eq (server old new : LinkerdTrustRotationStatus) (k : String)
    (h : server.toFields.lookup k = old.toFields.lookup k) :
    AgreeAt ((mergeFields server.toFields (getDiff old.toFields new.toFields)).lookup k)
      (new.toFields.lookup k) :=
  agreeAt_lookup_merge_diff (wf_toFields old) (wf_toFields new) h

/-- A patch sent from the copy the server holds stores exactly the new copy. -/
@[simp] theorem applyPatch_self (s new : LinkerdTrustRotationStatus) :
    applyPatch s s new = new.stored :=
  ofFields_congr fun k => agreeAt_applyPatch_of_eq s s new k rfl

/-- A patch whose copy changed the phase writes that phase, whatever the
server held. -/
theorem applyPatch_phase_of_ne {server old new : LinkerdTrustRotationStatus} {p : String}
    (hp : new.phase = some p) (h : old.phase ≠ some p) : (applyPatch server old new).phase = some p := by
  have hk := @lookup_merge_diff_of_ne_str server.toFields old.toFields new.toFields (wf_toFields old)
    (wf_toFields new) "phase" p (by simp [hp]) (by simpa using h)
  simp [applyPatch, ofFields, hk]

theorem applyPatch_cursor_frame {server old new : LinkerdTrustRotationStatus}
    (h : old.cursor = new.cursor) : (applyPatch server old new).cursor = server.cursor := by
  have hk := lookup_applyPatch_of_eq server old new "cursor" (by simp [h])
  simp [applyPatch, ofFields, hk]

theorem applyPatch_cursor_fresh {server old new : LinkerdTrustRotationStatus}
    (h : server.cursor = old.cursor) : (applyPatch server old new).cursor = new.cursor := by
  have hk := agreeAt_applyPatch_of_eq server old new "cursor" (by simp [h])
  simp [applyPatch, ofFields, RolloutCursor.ofJson_congr hk]

theorem applyPatch_retries_frame {server old new : LinkerdTrustRotationStatus}
    (h : old.retries = new.retries) :
    (applyPatch server old new).retries = server.retries.map RetryStatus.norm := by
  have hk := lookup_applyPatch_of_eq server old new "retries" (by simp [h])
  simp [applyPatch, ofFields, hk]

theorem applyPatch_retries_fresh {server old new : LinkerdTrustRotationStatus}
    (h : server.retries = old.retries) :
    (applyPatch server old new).retries = new.retries.map RetryStatus.norm := by
  have hk := agreeAt_applyPatch_of_eq server old new "retries" (by simp [h])
  simp [applyPatch, ofFields, RetryStatus.ofJson_congr hk]

end LinkerdTrustRotationStatus

end TrustRotator
