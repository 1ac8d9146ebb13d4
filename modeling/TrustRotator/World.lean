import Mathlib.Data.List.Sort
import TrustRotator.Api.Stored

/-!
The cluster the controller talks to, and the monads its code runs in.

The managers of `internal/config_map`, `internal/secret` and
`internal/rollout` talk to the cluster only; they run in `Req`, over an
`Env` of the cluster objects, a clock, the outcomes the environment has in
store for the coming requests (`faults`: `some err` makes the next request
fail with `err`, anything else lets it succeed) and the `Action`s they take.
The reconciler and the status manager run in `Api`, over a `World` that adds
the status as the API server stores it (`status`), the copy the informer
cache would hand to the next `Get` (`cache`, which may lag) and the
reconciler's own `*LinkerdTrustRotation` (`obj`, mutated in place by every
status mutator). A `Req` computation runs inside `Api` through `Req.lift`,
which can touch neither status and logs its actions as they come: that a
manager leaves the status alone is a fact of its type.

The log (newest first) holds the status patches the server accepted and the
actions. Two actions are observations rather than writes: `selected` records
the work queue a data-plane selection returned and `observed` the bundle
state a reconcile decided on. They change nothing and let the theorems speak
about what the controller saw.

Requests whose outcome the model leaves to the environment (every write, and
every wait loop of `internal/rollout`, whose polls are the environment's
choice) go through `call`. The waits are modelled on their own, against the
objects they poll, in `TrustRotator.Rollout.Wait`.
-/

namespace TrustRotator

/-! ### Cluster objects

Maps are association lists read with `lookup`; every list of objects is in
the order in which the API server's `List` returns it. -/

/-- A `Deployment`, `StatefulSet` or `DaemonSet`: the fields the controller reads. -/
structure Workload where
  «namespace» : String
  name : String
  labels : List (String × String) := []
  /-- `spec.template.metadata.annotations`. -/
  templateAnnotations : List (String × String) := []
  /-- `spec.selector.matchLabels`. -/
  selector : List (String × String) := []
  deriving DecidableEq, Repr

/-- A schemaless object listed by group, version and kind. -/
structure CustomResource where
  group : String
  version : String
  kind : String
  /-- `u.Object`. -/
  object : Json
  deriving DecidableEq

structure Pod where
  «namespace» : String
  name : String
  labels : List (String × String) := []
  deriving DecidableEq, Repr

structure Secret where
  «namespace» : String
  name : String
  annotations : List (String × String) := []
  data : List (String × String) := []
  deriving DecidableEq, Repr

structure ConfigMap where
  «namespace» : String
  name : String
  data : List (String × String) := []
  deriving DecidableEq, Repr

structure Cluster where
  secrets : List Secret := []
  configMaps : List ConfigMap := []
  deployments : List Workload := []
  statefulSets : List Workload := []
  daemonSets : List Workload := []
  customResources : List CustomResource := []
  pods : List Pod := []

/-- `m[k] = v` on a Go map. -/
def mapSet (m : List (String × String)) (k v : String) : List (String × String) :=
  m.filter (fun p => p.1 != k) ++ [(k, v)]

/-- `s[:n]`, on the ASCII digests it is applied to. -/
def hexPrefix (s : String) (n : Nat) : String := ⟨s.toList.take n⟩

/-- `strings.ToLower`, on the ASCII digests it is applied to. -/
def lowerASCII (s : String) : String := ⟨s.toList.map Char.toLower⟩

/-- Lexicographic order of code points. -/
def charsLess : List Char → List Char → Bool
  | [], [] => false
  | [], _ :: _ => true
  | _ :: _, [] => false
  | a :: as, b :: bs => a.val < b.val || (a == b && charsLess as bs)

/-- Go's `a < b` on strings: byte order, which is code-point order on UTF-8. -/
def stringLess (a b : String) : Bool := charsLess a.toList b.toList

/-- `unstructured.NestedString`: the string at a path of objects, `""` when
any step is missing or of another type. -/
def Json.nestedString : Json → List String → String
  | .str s, [] => s
  | .obj fs, k :: ks => match fs.lookup k with
    | some v => v.nestedString ks
    | none => ""
  | _, _ => ""

namespace CustomResource

def getNamespace (u : CustomResource) : String := u.object.nestedString ["metadata", "namespace"]

def getName (u : CustomResource) : String := u.object.nestedString ["metadata", "name"]

end CustomResource

/-! ### The work queue -/

/-- The object a work item carries (`Dep`, `Sts`, `Ds` or `CR` of
`rollout.WorkItem`); its kind is the item's `Kind`. -/
inductive Target where
  | deployment (d : Workload)
  | statefulSet (s : Workload)
  | daemonSet (d : Workload)
  | customResource (u : CustomResource)
  deriving DecidableEq

namespace Target

def kind : Target → Kind
  | .deployment _ => .deployment
  | .statefulSet _ => .statefulSet
  | .daemonSet _ => .daemonSet
  | .customResource _ => .customResource

/-- `getNamespace` of `internal/rollout/helpers.go`. -/
def getNamespace : Target → String
  | .deployment d | .statefulSet d | .daemonSet d => d.«namespace»
  | .customResource u => u.getNamespace

/-- `getName` of `internal/rollout/helpers.go`. -/
def getName : Target → String
  | .deployment d | .statefulSet d | .daemonSet d => d.name
  | .customResource u => u.getName

/-- The `WorkRef` the status records for the object. -/
def ref (t : Target) : WorkRef := ⟨t.kind.toString, t.getNamespace, t.getName⟩

end Target

structure WorkItem where
  target : Target
  strategy : RolloutStrategy
  bumpAnnotationKey : String := ""
  bumpAnnotationValue : String := ""
  deriving DecidableEq

namespace WorkItem

def kind (w : WorkItem) : Kind := w.target.kind

def getNamespace (w : WorkItem) : String := w.target.getNamespace

def getName (w : WorkItem) : String := w.target.getName

def ref (w : WorkItem) : WorkRef := w.target.ref

end WorkItem

structure WorkItemDryRun where
  kind : Kind
  «namespace» : String
  name : String
  strategy : RolloutStrategy
  deriving DecidableEq, Repr

/-- The `WorkItemDryRun` a selected item carries. -/
def WorkItem.dryRun (w : WorkItem) : WorkItemDryRun := ⟨w.kind, w.getNamespace, w.getName, w.strategy⟩

/-! ### Library functions

The functions of Go's standard library and of its `pem`, `x509`, `sha1`,
`sha256` and `yaml` packages are parameters of the model. -/

structure Lib where
  /-- The blocks that successive calls of `pem.Decode` return, as type and bytes. -/
  pemBlocks : String → List (String × String)
  /-- `x509.ParseCertificate`: `none` when the DER parses, else the error text. -/
  parseCertificate : String → Option String
  /-- `hex.EncodeToString` of `sha256.Sum256`. -/
  sha256Hex : String → String
  /-- `hex.EncodeToString` of `sha1.Sum`. -/
  sha1Hex : String → String
  /-- `yaml.Marshal` of the dry-run queue. -/
  yamlMarshal : List WorkItemDryRun → Except String String
  /-- `Format(time.RFC3339)`. -/
  formatRFC3339 : Time → String

/-! ### Actions and the two monads -/

/-- What a manager does to the cluster, or sees of it. -/
inductive Action where
  | secretCreated («namespace» name : String)
  | secretDeleted («namespace» name : String)
  /-- A pod-template (or, for a custom resource, metadata) annotation bump. -/
  | restarted (ref : WorkRef)
  /-- A wait for a restarted workload that returned `nil`. -/
  | rolledOut (ref : WorkRef)
  | podDeleted («namespace» name : String)
  | podReady («namespace» name : String)
  | jobDeleted («namespace» name : String)
  | jobCreated («namespace» name : String)
  | proxyChecked (ref : WorkRef)
  | delayed (purpose : String)
  | selected (queue : List WorkItem)

inductive Effect where
  /-- A status patch the server accepted, with the status it then stores. -/
  | statusPatched (process : String) (status : LinkerdTrustRotationStatus)
  | did (a : Action)
  | event (reason message : String)
  | observed (state : BundleState)

/-- A computation over the state `σ` that may fail with an error text. -/
abbrev Prog (σ α : Type) := ExceptT String (StateM σ) α

def Prog.exec {σ α : Type} (x : Prog σ α) (s : σ) : Except String α × σ := x.run s

structure Env where
  cluster : Cluster
  clock : Nat
  faults : List (Option String)
  actions : List Action

abbrev Req := Prog Env

structure World where
  status : LinkerdTrustRotationStatus
  cache : LinkerdTrustRotationStatus
  obj : LinkerdTrustRotationStatus
  cluster : Cluster
  clock : Nat
  faults : List (Option String)
  log : List Effect

abbrev Api := Prog World

/-- A world with an empty status, cluster and log, whose requests all succeed. -/
def World.init : World := ⟨{}, {}, {}, {}, 0, [], []⟩

/-- A library whose digests are their input. -/
def Lib.plain : Lib := ⟨fun _ => [], fun _ => none, id, id, fun _ => .ok "", fun _ => ""⟩

/-- A rotation of the default Linkerd secrets that restarts annotated
deployments of `app`. -/
def sampleSpec : LinkerdTrustRotationSpec where
  linkerd := ⟨"linkerd", "linkerd-identity-trust-roots", "linkerd-trust-anchor",
    "linkerd-previous-trust-anchor", true⟩
  trigger := ⟨false, true⟩
  rollout := ⟨⟨"linkerd.io/inject", "enabled", [{ kindType := .deployment, allowedNamespaces := ["app"] }]⟩⟩
  protection := { runLinkerdCheckProxy := false, maxRolloutFailures := 3 }

/-- A library whose PEM decoder reads `"ab"` as two certificates and any other
non-empty text as one, and whose digests are empty. -/
def Lib.sample : Lib where
  pemBlocks s := if s = "ab" then [("CERTIFICATE", "a"), ("CERTIFICATE", "b")]
    else if s = "" then [] else [("CERTIFICATE", s)]
  parseCertificate _ := none
  sha256Hex _ := ""
  sha1Hex _ := ""
  yamlMarshal _ := .ok "queue"
  formatRFC3339 _ := "now"

/-- The anchor secrets of `sampleSpec`, holding the given certificates. -/
def anchorSecrets (current previous : String) : List Secret :=
  [⟨"linkerd", "linkerd-trust-anchor", [], [("tls.crt", current)]⟩,
   ⟨"linkerd", "linkerd-previous-trust-anchor", [], [("tls.crt", previous)]⟩]

/-! ### Running a computation -/

namespace Prog

variable {σ α β : Type} (s : σ)

@[simp] theorem exec_pure (a : α) : (pure a : Prog σ α).exec s = (.ok a, s) := rfl

@[simp] theorem exec_throw (e : String) : (throw e : Prog σ α).exec s = (.error e, s) := rfl

@[simp] theorem exec_get : (get : Prog σ σ).exec s = (.ok s, s) := rfl

@[simp] theorem exec_set (s' : σ) : (set s' : Prog σ Unit).exec s = (.ok (), s') := rfl

@[simp] theorem exec_modify (f : σ → σ) : (modify f : Prog σ Unit).exec s = (.ok (), f s) := rfl

@[simp] theorem exec_modifyGet (f : σ → α × σ) :
    (modifyGet f : Prog σ α).exec s = (.ok (f s).1, (f s).2) := rfl

@[simp] theorem exec_bind (x : Prog σ α) (f : α → Prog σ β) :
    (x >>= f).exec s = match x.exec s with
      | (.ok a, s') => (f a).exec s'
      | (.error e, s') => (.error e, s') := by
  simp only [exec, ExceptT.run, bind, ExceptT.bind, ExceptT.mk, StateT.bind]
  rcases x s with ⟨_ | _, _⟩ <;> rfl

@[simp] theorem exec_tryCatch (x : Prog σ α) (h : String → Prog σ α) :
    (tryCatch x h : Prog σ α).exec s = match x.exec s with
      | (.ok a, s') => (.ok a, s')
      | (.error e, s') => (h e).exec s' := by
  simp only [exec, ExceptT.run, tryCatch, tryCatchThe, MonadExceptOf.tryCatch, ExceptT.tryCatch,
    ExceptT.mk, bind, StateT.bind]
  rcases x s with ⟨_ | _, _⟩ <;> rfl

@[simp] theorem exec_map (f : α → β) (x : Prog σ α) :
    (f <$> x).exec s = match x.exec s with
      | (.ok a, s') => (.ok (f a), s')
      | (.error e, s') => (.error e, s') := by
  simp only [exec, ExceptT.run, Functor.map, ExceptT.map, ExceptT.mk, bind, StateT.bind]
  rcases x s with ⟨_ | _, _⟩ <;> rfl

end Prog

/-! The pure parts of the model compute in `Except`: these equations let `simp`
run them. -/

@[simp] theorem Except.pure_eq_ok {ε α : Type} (a : α) : (pure a : Except ε α) = .ok a := rfl

@[simp] theorem Except.throw_eq_error {ε α : Type} (e : ε) : (throw e : Except ε α) = .error e := rfl

@[simp] theorem Except.ok_bind {ε α β : Type} (a : α) (f : α → Except ε β) :
    (Except.ok a >>= f) = f a := rfl

@[simp] theorem Except.error_bind {ε α β : Type} (e : ε) (f : α → Except ε β) :
    (Except.error e >>= f) = .error e := rfl

@[simp] theorem String.length_eq_zero_iff {s : String} : s.length = 0 ↔ s = "" := by
  rcases s with ⟨l⟩
  simp [String.length, String.ext_iff]

@[simp] theorem String.length_pos_iff_ne_empty {s : String} : 0 < s.length ↔ s ≠ "" := by
  rw [Nat.pos_iff_ne_zero, Ne, String.length_eq_zero_iff]

/-- A successful `bind`: both parts succeeded. -/
theorem Prog.exec_bind_ok {σ α β : Type} {x : Prog σ α} {f : α → Prog σ β} {b : β} {s s' : σ}
    (h : (x >>= f).exec s = (.ok b, s')) : ∃ a s₁, x.exec s = (.ok a, s₁) ∧ (f a).exec s₁ = (.ok b, s') := by
  rw [exec_bind] at h
  rcases hx : x.exec s with ⟨_ | a, s₁⟩ <;> rw [hx] at h
  · cases h
  · exact ⟨a, s₁, rfl, h⟩

/-- A `bind` whose first part succeeded runs the second from where it stopped. -/
theorem Prog.exec_bind_of_ok {σ α β : Type} {x : Prog σ α} {f : α → Prog σ β} {a : α} {s s₁ : σ}
    (h : x.exec s = (.ok a, s₁)) : (x >>= f).exec s = (f a).exec s₁ := by
  rw [exec_bind, h]

/-- A `bind` run: the first part failed, or it succeeded and the second ran. -/
theorem Prog.exec_bind_cases {σ α β : Type} {x : Prog σ α} {f : α → Prog σ β} {r : Except String β}
    {s s' : σ} (h : (x >>= f).exec s = (r, s')) :
    ∃ s₁, (∃ e, x.exec s = (.error e, s₁) ∧ r = .error e ∧ s' = s₁) ∨
      (∃ a, x.exec s = (.ok a, s₁) ∧ (f a).exec s₁ = (r, s')) := by
  rw [exec_bind] at h
  rcases hx : x.exec s with ⟨_ | a, s₁⟩ <;> rw [hx] at h
  · exact ⟨s₁, .inl ⟨_, rfl, (Prod.mk.inj h).1.symm, (Prod.mk.inj h).2.symm⟩⟩
  · exact ⟨s₁, .inr ⟨a, rfl, h⟩⟩

/-- A `tryCatch` run: the body succeeded, or it failed and the handler ran. -/
theorem Prog.exec_tryCatch_cases {σ α : Type} {x : Prog σ α} {h : String → Prog σ α}
    {r : Except String α} {s s' : σ} (hr : (tryCatch x h).exec s = (r, s')) :
    (∃ a, x.exec s = (.ok a, s') ∧ r = .ok a) ∨
      (∃ e s₁, x.exec s = (.error e, s₁) ∧ (h e).exec s₁ = (r, s')) := by
  rw [exec_tryCatch] at hr
  rcases hx : x.exec s with ⟨_ | a, s₁⟩ <;> rw [hx] at hr
  · exact .inr ⟨_, s₁, rfl, hr⟩
  · exact .inl ⟨a, by rw [(Prod.mk.inj hr).2], (Prod.mk.inj hr).1.symm⟩

/-! ### Requests -/

/-- The next request's outcome, taken from the environment. -/
def Env.next (e : Env) : Option String × Env :=
  match e.faults with
  | f :: rest => (f, { e with faults := rest })
  | [] => (none, e)

/-- One request whose outcome the environment decides. -/
def call : Req Unit := do
  let (f, e) := (← get).next
  set e
  match f with
  | some err => throw err
  | none => pure ()

def act (a : Action) : Req Unit := modify fun e => { e with actions := a :: e.actions }

/-- A request that, when it succeeds, is recorded as `a`. -/
def request (a : Action) : Req Unit := do
  call
  act a

/-- `time.Now()`: the clock moves on at every reading, and never reads zero. -/
def now : Req Time := modifyGet fun e => (⟨e.clock + 1⟩, { e with clock := e.clock + 1 })

def updateCluster (f : Cluster → Cluster) : Req Unit :=
  modify fun e => { e with cluster := f e.cluster }

/-- Taking the next outcome only consumes the fault list. -/
theorem Env.next_snd (e : Env) : e.next.2 = { e with faults := e.next.2.faults } := by
  unfold Env.next; split <;> rfl

@[simp] theorem exec_call (e : Env) :
    call.exec e = ((match e.next.1 with | some err => .error err | none => .ok ()), e.next.2) := by
  simp only [call, Prog.exec_bind, Prog.exec_get, Prog.exec_set]
  split <;> rfl

/-- A successful request changes nothing but the fault list. -/
theorem call_ok {u : Unit} {e e' : Env} (h : call.exec e = (.ok u, e')) :
    e' = { e with faults := e'.faults } := by
  rw [exec_call] at h
  obtain ⟨-, rfl⟩ := Prod.mk.inj h
  exact e.next_snd

@[simp] theorem exec_act (a : Action) (e : Env) :
    (act a).exec e = (.ok (), { e with actions := a :: e.actions }) := rfl

@[simp] theorem exec_now (e : Env) :
    now.exec e = (.ok ⟨e.clock + 1⟩, { e with clock := e.clock + 1 }) := rfl

/-! ### What a manager keeps -/

/-- Every run of the manager `x`, whatever its requests return, ends in an
environment related by `R` to the one it started from. -/
def ReqHolds (R : Env → Env → Prop) {α : Type} (x : Req α) : Prop :=
  ∀ e r e', x.exec e = (r, e') → R e e'

/-- A relation kept by the steps that change nothing but the outcomes left. -/
structure EnvTracks (R : Env → Env → Prop) : Prop where
  refl : ∀ e, R e e
  trans : ∀ {e₁ e₂ e₃}, R e₁ e₂ → R e₂ e₃ → R e₁ e₃
  faults : ∀ e fs, R e { e with faults := fs }

/-- Only a clock reading moves the clock. -/
theorem clockKept : EnvTracks fun e e' : Env => e'.clock = e.clock :=
  ⟨fun _ => rfl, fun h₁ h₂ => h₂.trans h₁, fun _ _ => rfl⟩

/-- Only a write moves the cluster. -/
theorem clusterKept : EnvTracks fun e e' : Env => e'.cluster = e.cluster :=
  ⟨fun _ => rfl, fun h₁ h₂ => h₂.trans h₁, fun _ _ => rfl⟩

namespace ReqHolds

variable {R : Env → Env → Prop} (hR : EnvTracks R) {α β : Type}
include hR

theorem pure (a : α) : ReqHolds R (Pure.pure a : Req α) := fun e _ _ h => by
  rw [Prog.exec_pure] at h; exact (Prod.mk.inj h).2 ▸ hR.refl e

theorem throw (err : String) : ReqHolds R (MonadExcept.throw err : Req α) := fun e _ _ h => by
  rw [Prog.exec_throw] at h; exact (Prod.mk.inj h).2 ▸ hR.refl e

theorem get : ReqHolds R (MonadState.get : Req Env) := fun e _ _ h => by
  rw [Prog.exec_get] at h; exact (Prod.mk.inj h).2 ▸ hR.refl e

theorem bind {x : Req α} {f : α → Req β} (hx : ReqHolds R x) (hf : ∀ a, ReqHolds R (f a)) :
    ReqHolds R (x >>= f) := fun _ _ _ h => by
  obtain ⟨e₁, ⟨err, h₁, -, rfl⟩ | ⟨a, h₁, h₂⟩⟩ := Prog.exec_bind_cases h
  · exact hx _ _ _ h₁
  · exact hR.trans (hx _ _ _ h₁) (hf a _ _ _ h₂)

theorem tryCatch {x : Req α} {c : String → Req α} (hx : ReqHolds R x) (hc : ∀ err, ReqHolds R (c err)) :
    ReqHolds R (tryCatch x c) := fun _ _ _ h => by
  rcases Prog.exec_tryCatch_cases h with ⟨_, h₁, rfl⟩ | ⟨err, e₁, h₁, h₂⟩
  · exact hx _ _ _ h₁
  · exact hR.trans (hx _ _ _ h₁) (hc err _ _ _ h₂)

theorem call : ReqHolds R call := fun e _ _ h => by
  rw [exec_call] at h
  obtain ⟨-, rfl⟩ := Prod.mk.inj h
  rw [Env.next_snd]
  exact hR.faults _ _

omit hR in
theorem modify {f : Env → Env} (hf : ∀ e, R e (f e)) : ReqHolds R (modify f : Req Unit) := fun e _ _ h => by
  rw [Prog.exec_modify] at h; exact (Prod.mk.inj h).2 ▸ hf e

end ReqHolds

/-! ### Requests inside the reconciler -/

/-- The environment a manager starts from, with no action taken yet. -/
def World.env (w : World) : Env := ⟨w.cluster, w.clock, w.faults, []⟩

/-- The world after a manager has run to `e`: its actions are logged, the
status untouched. -/
def World.withEnv (w : World) (e : Env) : World :=
  { w with cluster := e.cluster, clock := e.clock, faults := e.faults,
           log := e.actions.map .did ++ w.log }

def Req.lift {α : Type} (x : Req α) : Api α := fun w =>
  ((x.exec w.env).1, w.withEnv (x.exec w.env).2)

@[simp] theorem exec_lift {α : Type} (x : Req α) (w : World) :
    (Req.lift x : Api α).exec w = ((x.exec w.env).1, w.withEnv (x.exec w.env).2) := rfl

/-- A lifted manager that succeeded: it succeeded from the world's environment. -/
theorem lift_ok {α : Type} {x : Req α} {w w' : World} {a : α} (h : (Req.lift x).exec w = (.ok a, w')) :
    ∃ e, x.exec w.env = (.ok a, e) ∧ w' = w.withEnv e := by
  rw [exec_lift] at h
  exact ⟨_, Prod.ext (Prod.mk.inj h).1 rfl, (Prod.mk.inj h).2.symm⟩

/-- The next request's outcome, seen from the reconciler. -/
def World.next (w : World) : Option String × World :=
  match w.faults with
  | f :: rest => (f, { w with faults := rest })
  | [] => (none, w)

@[simp] theorem exec_lift_call (w : World) :
    (Req.lift call).exec w = ((match w.next.1 with | some e => .error e | none => .ok ()), w.next.2) := by
  rcases w with ⟨_, _, _, _, _, _ | ⟨f, rest⟩, _⟩ <;>
    simp [World.env, World.withEnv, Env.next, World.next]

@[simp] theorem exec_lift_now (w : World) :
    (Req.lift now).exec w = (.ok ⟨w.clock + 1⟩, { w with clock := w.clock + 1 }) := by
  simp [World.env, World.withEnv]

/-- An effect of the reconciler itself. -/
def emit (e : Effect) : Api Unit := modify fun w => { w with log := e :: w.log }

@[simp] theorem exec_emit (e : Effect) (w : World) :
    (emit e).exec w = (.ok (), { w with log := e :: w.log }) := rfl

/-- Taking the next outcome only consumes the fault list. -/
theorem next_snd (w : World) : w.next.2 = { w with faults := w.next.2.faults } := by
  unfold World.next; split <;> rfl

@[simp] theorem withEnv_status (w : World) (e : Env) : (w.withEnv e).status = w.status := rfl

@[simp] theorem withEnv_obj (w : World) (e : Env) : (w.withEnv e).obj = w.obj := rfl

@[simp] theorem withEnv_cache (w : World) (e : Env) : (w.withEnv e).cache = w.cache := rfl

@[simp] theorem withEnv_log (w : World) (e : Env) :
    (w.withEnv e).log = e.actions.map .did ++ w.log := rfl

/-! ### Relations a computation keeps

`Holds R x`: every run of `x` ends in a world related by `R` to the one it
started from. When `R` is reflexive and transitive and every manager call
keeps it (`Tracks`), a computation keeps it as soon as its status writes do:
the lemmas below take a computation apart along its binds. -/

def Holds (R : World → World → Prop) {α : Type} (x : Api α) : Prop :=
  ∀ v r v', x.exec v = (r, v') → R v v'

structure Tracks (R : World → World → Prop) : Prop where
  refl : ∀ v, R v v
  trans : ∀ {v₁ v₂ v₃}, R v₁ v₂ → R v₂ v₃ → R v₁ v₃
  /-- A manager changes the cluster, the clock and the faults, and logs its actions. -/
  lift : ∀ v e, R v (v.withEnv e)

namespace Holds

variable {R : World → World → Prop} (hR : Tracks R) {α β : Type}
include hR

theorem pure (a : α) : Holds R (Pure.pure a : Api α) := fun _ _ _ h => by
  rw [Prog.exec_pure] at h; exact (Prod.mk.inj h).2 ▸ hR.refl _

theorem throw (e : String) : Holds R (MonadExcept.throw e : Api α) := fun _ _ _ h => by
  rw [Prog.exec_throw] at h; exact (Prod.mk.inj h).2 ▸ hR.refl _

theorem get : Holds R (MonadState.get : Api World) := fun _ _ _ h => by
  rw [Prog.exec_get] at h; exact (Prod.mk.inj h).2 ▸ hR.refl _

theorem bind {x : Api α} {f : α → Api β} (hx : Holds R x) (hf : ∀ a, Holds R (f a)) :
    Holds R (x >>= f) := fun _ _ _ h => by
  obtain ⟨v₁, ⟨e, h₁, -, rfl⟩ | ⟨a, h₁, h₂⟩⟩ := Prog.exec_bind_cases h
  · exact hx _ _ _ h₁
  · exact hR.trans (hx _ _ _ h₁) (hf a _ _ _ h₂)

theorem tryCatch {x : Api α} {c : String → Api α} (hx : Holds R x) (hc : ∀ e, Holds R (c e)) :
    Holds R (tryCatch x c) := fun _ _ _ h => by
  rcases Prog.exec_tryCatch_cases h with ⟨_, h₁, rfl⟩ | ⟨e, v₁, h₁, h₂⟩
  · exact hx _ _ _ h₁
  · exact hR.trans (hx _ _ _ h₁) (hc e _ _ _ h₂)

theorem lift (x : Req α) : Holds R x.lift := fun _ _ _ h => by
  rw [exec_lift] at h; exact (Prod.mk.inj h).2 ▸ hR.lift _ _

end Holds

theorem Holds.ite {R : World → World → Prop} {α : Type} {c : Prop} [Decidable c] {x y : Api α}
    (hx : Holds R x) (hy : Holds R y) : Holds R (if c then x else y) := by
  split
  · exact hx
  · exact hy

theorem Holds.map {R : World → World → Prop} {α β : Type} (f : α → β) {x : Api α} (hx : Holds R x) :
    Holds R (f <$> x) := fun v _ _ h => by
  rw [Prog.exec_map] at h
  rcases h₁ : x.exec v with ⟨_ | _, _⟩ <;> rw [h₁] at h <;> exact (Prod.mk.inj h).2 ▸ hx _ _ _ h₁

theorem Holds.discard {R : World → World → Prop} {α : Type} {x : Api α} (hx : Holds R x) :
    Holds R (discard x) :=
  .map _ hx

theorem Holds.modify {R : World → World → Prop} {f : World → World} (hf : ∀ v, R v (f v)) :
    Holds R (modify f : Api Unit) := fun _ _ _ h => by
  rw [Prog.exec_modify] at h; exact (Prod.mk.inj h).2 ▸ hf _

end TrustRotator
