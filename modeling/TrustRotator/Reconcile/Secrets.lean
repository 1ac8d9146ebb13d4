import TrustRotator.Reconcile.Chains

/-!
The secrets a reconcile may touch.

A rotation deletes two secrets of the Linkerd namespace, the identity issuer
and the previous anchor secret, and `EnsureTrustSecrets` may create the
latter. Every other secret is left as it was, in the same order, by every
reconcile, under any outcome of its requests (`reconcile_keeps_other_secrets`):
in particular the current anchor secret, unless the spec gives it the name of
one of those two.

Each manager keeps the other secrets (`KeepsOthers`): the managers of a
rollout change workloads only (`Benign`), and the deletions and the bootstrap
touch one of the two names. `Chains` carries that through the controller.
-/

namespace TrustRotator

/-- A secret a rotation may delete or create: the identity issuer or the
previous anchor secret, in the Linkerd namespace. -/
def Secret.managed (spec : LinkerdTrustRotationSpec) (s : Secret) : Bool :=
  s.«namespace» == spec.linkerd.«namespace» &&
    (s.name == linkerdIdentityIssuerSecret || s.name == spec.linkerd.previousTrustAnchorSecret)

/-- The secrets of `c` other than the two a rotation manages, in order. -/
def otherSecrets (spec : LinkerdTrustRotationSpec) (c : Cluster) : List Secret :=
  c.secrets.filter fun s => !s.managed spec

section
variable (spec : LinkerdTrustRotationSpec)

/-- The manager left the other secrets as they were. -/
def KeepsOthers (e e' : Env) : Prop := otherSecrets spec e'.cluster = otherSecrets spec e.cluster

theorem keepsOthers_benign : Benign (KeepsOthers spec) where
  refl _ := rfl
  trans h₁ h₂ := h₂.trans h₁
  faults _ _ := rfl
  acts _ _ := .modify fun _ => rfl
  clock _ _ _ h := by rw [exec_now] at h; obtain ⟨-, rfl⟩ := Prod.mk.inj h; rfl
  bumps t _ _ := .modify fun _ => by cases t <;> rfl

theorem ensureTrustSecrets_keepsOthers (lib : Lib) : ReqHolds (KeepsOthers spec) (ensureTrustSecrets lib spec) :=
  fun e r e' h => by
    rcases ensureTrustSecrets_bootStep lib spec e r e' h with ⟨hc, -⟩ | ⟨-, -, c, -, hc, -⟩ <;>
      rw [KeepsOthers, hc]
    simp [otherSecrets, List.filter_append, bootstrapCopy, Secret.managed]

theorem deleteSecrets_keepsOthers {name : String}
    (hn : name = linkerdIdentityIssuerSecret ∨ name = spec.linkerd.previousTrustAnchorSecret) :
    ReqHolds (KeepsOthers spec) (deleteSecrets spec name) := by
  have hE := (keepsOthers_benign spec).1
  refine .bind hE (.withContext hE _ (.call hE)) fun _ => .bind hE (.modify fun e => ?_) fun _ =>
    .modify fun _ => rfl
  show List.filter _ (List.filter _ _) = _
  rw [List.filter_filter]
  refine List.filter_congr fun s _ => ?_
  by_cases h₁ : s.«namespace» = spec.linkerd.«namespace» <;> by_cases h₂ : s.name = name <;>
    rcases hn with rfl | rfl <;> simp [Secret.managed, h₁, h₂]

/-- The world's other secrets are as they were. -/
def OthersKept (v v' : World) : Prop := otherSecrets spec v'.cluster = otherSecrets spec v.cluster

theorem othersKept_chains : Chains (KeepsOthers spec) (OthersKept spec) where
  refl _ := rfl
  trans h₁ h₂ := h₂.trans h₁
  withEnv _ _ h := h
  patch _ _ := fun _ _ _ h => by rw [OthersKept, patch_cluster h]
  observe _ _ := rfl
  event _ _ _ := rfl

/-- Every reconcile, whatever its requests return, leaves every secret other
than the identity issuer and the previous anchor secret of the Linkerd
namespace as it was, and in the same order. -/
theorem reconcile_keeps_other_secrets (lib : Lib) (w : World) :
    otherSecrets spec ((reconcile lib spec).exec w).2.cluster = otherSecrets spec w.cluster :=
  reconcile_chains (othersKept_chains spec) (keepsOthers_benign spec) lib spec
    (ensureTrustSecrets_keepsOthers spec lib) (fun _ hn => deleteSecrets_keepsOthers spec hn) (fun _ => rfl)
    w _ _ (Prod.ext rfl rfl)

end

end TrustRotator
