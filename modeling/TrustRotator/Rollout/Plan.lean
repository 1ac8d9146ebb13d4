import TrustRotator.Rollout.Select

/-!
The selected queue is `plan` of the cluster.

A successful `selectLinkerdDataPlane` returns `plan spec c` of the cluster
`c` it listed, which its `List` requests leave unchanged, and logs that queue
(`selectLinkerdDataPlane_ok`). Conversely, when no request fails, it returns
that plan whenever the plan is defined (`selectLinkerdDataPlane_of_faults_nil`).

`plan` keeps each `List` result in the order the server returns it, sorting
only stateful sets: two listings of the same deployments in two orders give
two queues, and two different inputs to the plan hash
(`plan_depends_on_list_order`).
-/

namespace TrustRotator

section
variable {key val : String} {e e' : Env}

theorem listNamespaces_ok {scope : TargetScope} {strategy : RolloutStrategy} {nss : List String}
    {q : List WorkItem} (h : (listNamespaces key val scope strategy nss).exec e = (.ok q, e')) :
    q = nss.flatMap (listScope e.cluster key val scope strategy) ∧ e' = { e with faults := e'.faults } := by
  induction nss generalizing e q with
  | nil =>
    rw [listNamespaces, Prog.exec_pure] at h
    obtain ⟨⟨⟩, rfl⟩ := Prod.mk.inj h
    exact ⟨rfl, rfl⟩
  | cons ns rest ih =>
    obtain ⟨_, e₁, h₁, h⟩ := Prog.exec_bind_ok h
    obtain ⟨_, e₂, h₂, h⟩ := Prog.exec_bind_ok h
    rw [Prog.exec_get] at h₂
    obtain ⟨⟨⟩, rfl⟩ := Prod.mk.inj h₂
    obtain ⟨_, e₃, h₃, h⟩ := Prog.exec_bind_ok h
    rw [Prog.exec_pure] at h
    obtain ⟨⟨⟩, rfl⟩ := Prod.mk.inj h
    have he₁ := call_ok (withContext_ok h₁)
    obtain ⟨rfl, he₃⟩ := ih h₃
    refine ⟨by rw [he₁]; rfl, ?_⟩
    rw [he₃, he₁]

theorem selectScopes_ok {scopes : List TargetScope} {q : List WorkItem}
    (h : (selectScopes key val scopes).exec e = (.ok q, e')) :
    planScopes e.cluster key val scopes = .ok q ∧ e' = { e with faults := e'.faults } := by
  induction scopes generalizing e q with
  | nil =>
    rw [selectScopes, Prog.exec_pure] at h
    obtain ⟨⟨⟩, rfl⟩ := Prod.mk.inj h
    exact ⟨rfl, rfl⟩
  | cons scope rest ih =>
    unfold selectScopes at h
    unfold planScopes
    rcases hse : scopeError scope with _ | err <;> simp only [hse] at h ⊢
    · obtain ⟨_, e₁, h₁, h⟩ := Prog.exec_bind_ok h
      rw [Prog.exec_pure] at h₁
      obtain ⟨-, rfl⟩ := Prod.mk.inj h₁
      obtain ⟨_, e₂, h₂, h⟩ := Prog.exec_bind_ok h
      obtain ⟨_, e₃, h₃, h⟩ := Prog.exec_bind_ok h
      rw [Prog.exec_pure] at h
      obtain ⟨⟨⟩, rfl⟩ := Prod.mk.inj h
      obtain ⟨rfl, he₂⟩ := listNamespaces_ok h₂
      obtain ⟨hp, he₃⟩ := ih h₃
      rw [he₂] at hp
      refine ⟨by simp [hp], ?_⟩
      rw [he₃, he₂]
    · simp at h

/-- A successful selection returns the plan of the cluster it listed, leaves
the cluster as it was, and logs the queue. -/
theorem selectLinkerdDataPlane_ok {spec : LinkerdTrustRotationSpec} {q : List WorkItem}
    (h : (selectLinkerdDataPlane spec).exec e = (.ok q, e')) :
    plan spec e.cluster = .ok q ∧ e'.cluster = e.cluster ∧ e'.actions = .selected q :: e.actions := by
  obtain ⟨_, e₁, h₁, h⟩ := Prog.exec_bind_ok h
  obtain ⟨_, e₂, h₂, h⟩ := Prog.exec_bind_ok h
  rw [Prog.exec_pure] at h
  obtain ⟨⟨⟩, rfl⟩ := Prod.mk.inj h
  rw [exec_act] at h₂
  obtain ⟨-, rfl⟩ := Prod.mk.inj h₂
  obtain ⟨hp, he₁⟩ := selectScopes_ok h₁
  exact ⟨hp, by rw [he₁], by rw [he₁]⟩

theorem listNamespaces_of_faults_nil (hf : e.faults = []) (scope : TargetScope) (strategy : RolloutStrategy) :
    ∀ nss, (listNamespaces key val scope strategy nss).exec e =
      (.ok (nss.flatMap (listScope e.cluster key val scope strategy)), e)
  | [] => rfl
  | ns :: rest => by
    simp [listNamespaces, withContext, Env.next, hf, listNamespaces_of_faults_nil hf scope strategy rest]

theorem selectScopes_of_faults_nil (hf : e.faults = []) :
    ∀ {scopes : List TargetScope} {q : List WorkItem}, planScopes e.cluster key val scopes = .ok q →
      (selectScopes key val scopes).exec e = (.ok q, e)
  | [], _, hp => by cases hp; rfl
  | scope :: rest, q, hp => by
    unfold planScopes at hp
    rcases hse : scopeError scope with _ | err <;> simp only [hse] at hp
    · rcases hr : planScopes e.cluster key val rest with err | there <;> rw [hr] at hp
      · cases hp
      · cases hp
        simp [selectScopes, hse, listNamespaces_of_faults_nil hf, selectScopes_of_faults_nil hf hr]
    · cases hp

/-- With no failing request, the selection returns the plan of the cluster. -/
theorem selectLinkerdDataPlane_of_faults_nil {spec : LinkerdTrustRotationSpec} {q : List WorkItem}
    (hf : e.faults = []) (hp : plan spec e.cluster = .ok q) :
    (selectLinkerdDataPlane spec).exec e = (.ok q, { e with actions := .selected q :: e.actions }) := by
  simp [selectLinkerdDataPlane, selectScopes_of_faults_nil hf hp]

end

/-! ### The order of a `List` result -/

/-- Two deployments of `app` that `sampleSpec` selects. -/
def annotatedDeployment (name : String) : Workload :=
  { «namespace» := "app", name, templateAnnotations := [("linkerd.io/inject", "enabled")] }

/-- The same two deployments, listed in the two orders, give two queues and two
plan-hash inputs. -/
theorem plan_depends_on_list_order :
    let c₁ : Cluster := { deployments := [annotatedDeployment "a", annotatedDeployment "b"] }
    let c₂ : Cluster := { deployments := [annotatedDeployment "b", annotatedDeployment "a"] }
    c₁.deployments.Perm c₂.deployments ∧
    (∃ q₁ q₂, plan sampleSpec c₁ = .ok q₁ ∧ plan sampleSpec c₂ = .ok q₂ ∧ q₁ ≠ q₂ ∧
      planHashInput q₁ ≠ planHashInput q₂) := by
  refine ⟨List.Perm.swap _ _ _, _, _, rfl, rfl, by decide, by decide⟩

end TrustRotator
