import TrustRotator.Status.Writes
import TrustRotator.Rollout.ControlPlane
import TrustRotator.Reconcile.Repeat
import TrustRotator.Reconcile.Increments
import TrustRotator.Rollout.PlanHash
import TrustRotator.Reconcile.TrustInfo
import TrustRotator.Rollout.Ordinal
import TrustRotator.Rollout.Annotations
import TrustRotator.Reconcile.Episodes
import TrustRotator.Rollout.Wait
import TrustRotator.Trust.Anchors
import TrustRotator.Reconcile.Guard
import TrustRotator.Reconcile.Secrets
import TrustRotator.Reconcile.Settle
import TrustRotator.Reconcile.Order
import TrustRotator.Reconcile.Complete
import TrustRotator.Reconcile.Requeue
