import TrustRotator.World

/-!
`internal/config_map` and `internal/secret`: reading the trust inputs.

`loadAndInspectCMBundle` reads the trust-roots bundle and calls it `overlap`
as soon as it holds two certificates; `ensureTrustSecrets` reads the current
and the previous anchor secrets (creating the previous one as a copy of the
current one when it is missing and bootstrapping is on) and calls them
diverged when their data differ. Neither looks at the status.

Gets read the cluster as it is; the cache of a `Get` is not modelled for
secrets and config maps.
-/

namespace TrustRotator

/-! ### Helpers -/

/-- `fmt.Errorf(ctx + ": %w", err)` around a failing request. -/
def withContext {σ α : Type} (ctx : String) (x : Prog σ α) : Prog σ α :=
  tryCatch x fun e => throw (ctx ++ ": " ++ e)

theorem withContext_ok {σ α : Type} {ctx : String} {x : Prog σ α} {a : α} {s s' : σ}
    (h : (withContext ctx x).exec s = (.ok a, s')) : x.exec s = (.ok a, s') := by
  unfold withContext at h
  rw [Prog.exec_tryCatch] at h
  rcases hx : x.exec s with ⟨_ | _, _⟩ <;> rw [hx] at h
  · simp at h
  · exact h

theorem ReqHolds.withContext {R : Env → Env → Prop} (hR : EnvTracks R) {α : Type} {x : Req α} (ctx : String)
    (hx : ReqHolds R x) : ReqHolds R (withContext ctx x) :=
  .tryCatch hR hx fun _ => .throw hR _

/-- `unicode.IsSpace`. -/
def isGoSpace (c : Char) : Bool :=
  c = ' ' || c = '\t' || c = '\n' || c = '\r' || c.toNat = 0x0B || c.toNat = 0x0C ||
    c.toNat = 0x85 || c.toNat = 0xA0 || c.toNat = 0x1680 || (0x2000 ≤ c.toNat && c.toNat ≤ 0x200A) ||
    c.toNat = 0x2028 || c.toNat = 0x2029 || c.toNat = 0x202F || c.toNat = 0x205F || c.toNat = 0x3000

/-- `strings.TrimSpace(s) == ""`. -/
def blank (s : String) : Bool := s.toList.all isGoSpace

/-- `cmp.Equal(a, b, cmpopts.EquateEmpty())` on two `map[string][]byte`. -/
def sameData (a b : List (String × String)) : Bool :=
  (a.map Prod.fst ++ b.map Prod.fst).all fun k => a.lookup k == b.lookup k

/-! ### The trust-roots bundle -/

structure CMResult where
  /-- The DER bytes of each certificate (`c.Raw`). -/
  certs : List String
  fps : List String
  state : BundleState

/-- `parsePEMCerts`. -/
def parsePEMCerts (lib : Lib) (pemBytes : String) : Except String (List String) :=
  (lib.pemBlocks pemBytes).foldlM (fun out blk =>
    if blk.1 ≠ "CERTIFICATE" then pure out
    else match lib.parseCertificate blk.2 with
      | some err => throw ("parse x509 cert: " ++ err)
      | none => pure (out ++ [blk.2])) []

def configMapDataKey : String := "ca-bundle.crt"

/-- `ManageConfigMap.LoadAndInspectCMBundle`. -/
def loadAndInspectCMBundle (lib : Lib) (spec : LinkerdTrustRotationSpec) : Req CMResult := do
  let ns := spec.linkerd.«namespace»
  let name := spec.linkerd.trustRootsConfigMap
  let key := ns ++ "/" ++ name
  withContext ("get configmap " ++ key) call
  let some cm := (← get).cluster.configMaps.find? fun c => c.«namespace» = ns ∧ c.name = name
    | throw ("configmap " ++ key ++ " not found")
  let some raw := cm.data.lookup configMapDataKey
    | throw ("configmap " ++ key ++ " has no key \"" ++ configMapDataKey ++ "\"")
  if blank raw then throw ("configmap " ++ key ++ " key \"" ++ configMapDataKey ++ "\" is empty")
  let certs ← match parsePEMCerts lib raw with
    | .ok cs => pure cs
    | .error e => throw ("parse bundle: " ++ e)
  let fps := (certs.map fun c => lowerASCII (lib.sha256Hex c)).insertionSort fun a b => !stringLess b a
  match certs with
  | [] => throw ("no CERTIFICATE blocks found in " ++ ns ++ "/" ++ name)
  | [_] => pure ⟨certs, fps, .single⟩
  | _ => pure ⟨certs, fps, .overlap⟩

/-! ### The anchor secrets -/

structure SecretResult where
  createdPrevious : Bool
  currentFP : String
  previousFP : String
  diverged : Bool

def secretAnnotation : String := "trust-anchor.linkerd.edenlab.io/created"

def secretDataKey : String := "tls.crt"

/-- `concatDER`. -/
def concatDER (lib : Lib) (pemBytes : String) : Except String String := do
  let out ← (lib.pemBlocks pemBytes).foldlM (fun out blk =>
    if blk.1 ≠ "CERTIFICATE" then pure out
    else match lib.parseCertificate blk.2 with
      | some err => throw ("invalid certificate in PEM: " ++ err)
      | none => pure (out ++ blk.2)) ""
  if out.length = 0 then throw "no CERTIFICATE blocks found"
  pure out

/-- `fingerprintPEMCerts`. -/
def fingerprintPEMCerts (lib : Lib) (pemBytes : String) : Except String String := do
  let der ← concatDER lib pemBytes
  pure ("sha256:" ++ lib.sha256Hex der)

/-- `apierrors.NewNotFound` for a secret, as its `Error()` reads. -/
def secretNotFound (name : String) : String := "secrets \"" ++ name ++ "\" not found"

def findSecret (c : Cluster) (ns name : String) : Option Secret :=
  c.secrets.find? fun s => s.«namespace» = ns ∧ s.name = name

/-- `bootstrapPreviousSecrets`: the previous secret, created as a copy of the
current one's data. -/
def bootstrapPreviousSecrets (spec : LinkerdTrustRotationSpec) (cSecret : Secret) : Req Unit := do
  call
  let s : Secret :=
    { «namespace» := spec.linkerd.«namespace», name := spec.linkerd.previousTrustAnchorSecret,
      annotations := [( secretAnnotation, "true")], data := cSecret.data }
  updateCluster fun c => { c with secrets := c.secrets ++ [s] }
  act (.secretCreated s.«namespace» s.name)

/-- `ManageSecret.EnsureTrustSecrets`. After a bootstrap it reads the created
secret back once: the poll that follows the create is one request here. -/
def ensureTrustSecrets (lib : Lib) (spec : LinkerdTrustRotationSpec) : Req SecretResult := do
  let ns := spec.linkerd.«namespace»
  call
  let some cSecret := findSecret (← get).cluster ns spec.linkerd.trustAnchorSecret
    | throw (secretNotFound spec.linkerd.trustAnchorSecret)
  call
  let pSecret ← match findSecret (← get).cluster ns spec.linkerd.previousTrustAnchorSecret with
    | some p => pure p
    | none =>
      if spec.linkerd.bootstrapPreviousSecret then do
        bootstrapPreviousSecrets spec cSecret
        call
        match findSecret (← get).cluster ns spec.linkerd.previousTrustAnchorSecret with
        | some p => pure p
        | none => throw ("timeout waiting for " ++ ns ++ "/" ++ spec.linkerd.previousTrustAnchorSecret)
      else throw (secretNotFound spec.linkerd.previousTrustAnchorSecret)
  let currentFP ← match fingerprintPEMCerts lib ((cSecret.data.lookup secretDataKey).getD "") with
    | .ok fp => pure fp
    | .error e => throw e
  let previousFP ← match fingerprintPEMCerts lib ((pSecret.data.lookup secretDataKey).getD "") with
    | .ok fp => pure fp
    | .error e => throw e
  pure { createdPrevious := pSecret.annotations.lookup secretAnnotation == some "true"
         currentFP, previousFP
         diverged := !sameData cSecret.data pSecret.data }

/-- `ManageSecret.DeleteSecrets`: a secret that is already gone counts as
deleted. -/
def deleteSecrets (spec : LinkerdTrustRotationSpec) (name : String) : Req Unit := do
  let ns := spec.linkerd.«namespace»
  withContext ("delete secret " ++ ns ++ "/" ++ name) call
  updateCluster fun c => { c with secrets := c.secrets.filter fun s => !(s.«namespace» = ns ∧ s.name = name) }
  act (.secretDeleted ns name)

end TrustRotator
