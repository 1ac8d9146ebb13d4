import TrustRotator.Trust.Inspect

/-!
`ManageRollout.SelectLinkerdDataPlane`: the data-plane work queue.

For every target scope in declaration order and every allowed namespace in
declaration order, the workloads of the scope's kind that one `List` call
returns, in the order it returns them (stateful sets sorted by name first),
each kept when its pod template carries the selector's annotation. The queue
is logged as `selected`.

`plan` is the same computation without requests; `selectLinkerdDataPlane`
returns it whenever it succeeds (`selectLinkerdDataPlane_ok`). `planHash` is
the first twelve hex digits of the SHA-1 of `planHashInput`.
-/

namespace TrustRotator

/-! ### Matching annotations -/

/-- `hasAnnotationOnTemplate`. -/
def hasAnnotationOnTemplate (annotations : List (String × String)) (key val : String) : Bool :=
  match annotations.lookup key with
  | some v => v == val
  | none => false

/-- `getAnnoFromMap`: walk the path through objects, then keep the string
members of the last one. -/
def getAnnoFromMap (m : List (String × Json)) : List String → Option (List (String × String))
  | [] => none
  | [last] => match m.lookup last with
    | some (.obj raw) => some (raw.filterMap fun p => match p.2 with
        | .str s => some (p.1, s)
        | _ => none)
    | _ => none
  | p :: rest => match m.lookup p with
    | some (.obj next) => getAnnoFromMap next rest
    | _ => none

/-- `ann[key]` present and equal to `val`, any value matching an empty `val`. -/
def annoMatches (ann : Option (List (String × String))) (key val : String) : Bool :=
  match ann with
  | some a => match a.lookup key with
    | some v => val == "" || v == val
    | none => false
  | none => false

/-- `unstructured.NestedSlice(obj, "spec", "pods")`. -/
def nestedSlice (m : List (String × Json)) : List String → Option (List Json)
  | [] => none
  | [last] => match m.lookup last with
    | some (.arr xs) => some xs
    | _ => none
  | p :: rest => match m.lookup p with
    | some (.obj next) => nestedSlice next rest
    | _ => none

def Json.fields : Json → List (String × Json)
  | .obj fs => fs
  | _ => []

/-- `crHasTemplateAnnotation`. -/
def crHasTemplateAnnotation (u : Json) (key val : String) : Bool :=
  annoMatches (getAnnoFromMap u.fields ["spec", "template", "metadata", "annotations"]) key val ||
  annoMatches (getAnnoFromMap u.fields
    ["spec", "jobTemplate", "spec", "template", "metadata", "annotations"]) key val ||
  annoMatches (getAnnoFromMap u.fields ["spec", "podTemplate", "metadata", "annotations"]) key val ||
  match nestedSlice u.fields ["spec", "pods"] with
  | some arr => arr.any fun it => annoMatches (getAnnoFromMap it.fields ["metadata", "annotations"]) key val
  | none => false

/-! ### One `List` call -/

def inNamespace (ns : String) (l : List Workload) : List Workload := l.filter (·.«namespace» == ns)

/-- `sort.SliceStable` by name. -/
def sortByName (l : List Workload) : List Workload := l.insertionSort fun a b => !stringLess b.name a.name

/-- The typed workloads picked from one `List` call. -/
def pickTemplates (mk : Workload → Target) (key val : String) (strategy : RolloutStrategy)
    (items : List Workload) : List WorkItem :=
  (items.filter fun d => hasAnnotationOnTemplate d.templateAnnotations key val).map
    fun d => { target := mk d, strategy }

/-- The work items of one scope in one namespace, from what `List` returns. -/
def listScope (c : Cluster) (key val : String) (scope : TargetScope) (strategy : RolloutStrategy)
    (ns : String) : List WorkItem :=
  match scope.kindType with
  | .daemonSet => pickTemplates .daemonSet key val strategy (inNamespace ns c.daemonSets)
  | .deployment => pickTemplates .deployment key val strategy (inNamespace ns c.deployments)
  | .statefulSet => pickTemplates .statefulSet key val strategy (sortByName (inNamespace ns c.statefulSets))
  | .customResource =>
    let items := c.customResources.filter fun u =>
      u.group == scope.apiGroup && u.version == scope.version && u.kind == scope.kind && u.getNamespace == ns
    (items.filter fun u => crHasTemplateAnnotation u.object key val).map fun u =>
      match scope.annotationBump with
      | some b => { target := .customResource u, strategy,
                    bumpAnnotationKey := b.bumpAnnotationKey, bumpAnnotationValue := b.bumpAnnotationValue }
      | none => { target := .customResource u, strategy }

/-- What a failed `List` call of a scope is reported as. -/
def listError (scope : TargetScope) (ns : String) : String :=
  let what := match scope.kindType with
    | .daemonSet => "daemonsets"
    | .deployment => "deployments"
    | .statefulSet => "statefulsets"
    | .customResource => scope.apiGroup ++ "/" ++ scope.version ++ ", Kind=" ++ scope.kind
  "list " ++ what ++ " in \"" ++ ns ++ "\""

/-- The configuration error of a scope, checked before its first `List`. -/
def scopeError (scope : TargetScope) : Option String :=
  if scope.allowedNamespaces.isEmpty then
    some ("targets[" ++ scope.kindType.toString ++ "]: allowedNamespaces is required")
  else if scope.kindType = .customResource ∧
      (scope.apiGroup.length = 0 ∨ scope.kind.length = 0 ∨ scope.version.length = 0) then
    some ("targets[" ++ scope.kindType.toString ++ "]: apiGroup, kind and version are required")
  else none

/-! ### The queue -/

/-- The queue of the scopes computed from the cluster, without requests. -/
def planScopes (c : Cluster) (key val : String) : List TargetScope → Except String (List WorkItem)
  | [] => pure []
  | scope :: rest =>
    match scopeError scope with
    | some e => throw e
    | none => do
      let there ← planScopes c key val rest
      pure (scope.allowedNamespaces.flatMap
        (listScope c key val scope (scope.rolloutStrategy.getD .restart)) ++ there)

/-- The queue computed from the cluster, without requests. -/
def plan (spec : LinkerdTrustRotationSpec) (c : Cluster) : Except String (List WorkItem) :=
  let sel := spec.rollout.targetAnnotationSelector
  planScopes c sel.key sel.value sel.targets

/-- The namespaces of one scope, one `List` request each. -/
def listNamespaces (key val : String) (scope : TargetScope) (strategy : RolloutStrategy) :
    List String → Req (List WorkItem)
  | [] => pure []
  | ns :: rest => do
    withContext (listError scope ns) call
    let here := listScope (← get).cluster key val scope strategy ns
    let there ← listNamespaces key val scope strategy rest
    pure (here ++ there)

def selectScopes (key val : String) : List TargetScope → Req (List WorkItem)
  | [] => pure []
  | scope :: rest => do
    if let some e := scopeError scope then throw e
    let here ← listNamespaces key val scope (scope.rolloutStrategy.getD .restart) scope.allowedNamespaces
    let there ← selectScopes key val rest
    pure (here ++ there)

/-- `ManageRollout.SelectLinkerdDataPlane`. -/
def selectLinkerdDataPlane (spec : LinkerdTrustRotationSpec) : Req (List WorkItem) := do
  let sel := spec.rollout.targetAnnotationSelector
  let queue ← selectScopes sel.key sel.value sel.targets
  act (.selected queue)
  pure queue

/-! ### The plan hash -/

/-- What `planHash` writes into the SHA-1 for one item. -/
def itemHashInput (w : WorkItem) : String :=
  w.kind.toString ++ "|" ++
    (match w.target with
    | .deployment d | .daemonSet d => d.«namespace» ++ "/" ++ d.name
    | .statefulSet s => s.«namespace» ++ "/" ++ s.name ++ "|" ++ w.strategy.toString
    | .customResource u =>
      u.getNamespace ++ "/" ++ u.getName ++ "|" ++ w.strategy.toString ++
        (if w.bumpAnnotationKey ≠ "" then "|" ++ w.bumpAnnotationKey ++ "=" ++ w.bumpAnnotationValue
         else "")) ++ "\n"

def planHashInput (queue : List WorkItem) : String := String.join (queue.map itemHashInput)

/-- `planHash`. -/
def planHash (lib : Lib) (queue : List WorkItem) : String :=
  hexPrefix (lib.sha1Hex (planHashInput queue)) 12

end TrustRotator
