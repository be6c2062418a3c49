import Mathlib.Data.Finmap
import Mathlib.Data.Int.Notation
import NetbirdOperator.ControlLoop.Pass
import NetbirdOperator.ControlLoop.Run
import NetbirdOperator.ListCache
import NetbirdOperator.Reconcile

/-!
# The ReverseProxyCluster controller

`internal/controller/reverseproxycluster_controller.go`. A `ReverseProxyCluster` deploys a proxy,
waits for it to enroll as a cluster of the NetBird account, and registers a custom domain that
targets the cluster. Registrations are shared: several objects may declare one domain or one
cluster address, and the guards of `reconcileDelete` and `ensureDomain` decide when one of them may
take a registration away.

The world is the objects of the kind, the NetBird account as far as this controller touches it, and
the operator's cached cluster list. A pass is run with an `Env`: the time, what the proxy's Service
and NetBird's validation answer, and which of its calls fail.

## What is left out

The Deployment, the Service, the DNSZone and the DNSRecords a pass applies are objects of other
controllers. Their applies are calls that may fail and have no effect on this world; what the pass
reads back of them, the load balancer's addresses, is part of the `Env`.

## Main definitions

* `ReverseProxyCluster.World`, `Env`, `Call` — state, inputs and failure points
* `ReverseProxyCluster.ensureDomain`, `reconcile`, `reconcileDelete` — the source functions
* `ReverseProxyCluster.Event`, `step` — the controller among users, proxies and other clients
-/

namespace NetbirdOperator

open ControlLoop

namespace ReverseProxyCluster

/-! ### Objects -/

/-- `ReverseProxyClusterSpec`. The address and the domain decide what is registered. -/
structure Spec where
  clusterAddress : String
  domain : String
  zoneRef : Option CrossNamespaceReference := none
  certSecretName : String := ""
  groups : List GroupReference := []
  isPrivate : Bool := false
  replicas : Option ℤ := some 1
  image : String := ""
  logLevel : String := ""
  serviceAnnotations : Finmap fun _ : String => String := ∅
  deriving DecidableEq

/-- Only the address and the domain are set. -/
def Spec.plain (clusterAddress domain : String) : Spec :=
  { clusterAddress := clusterAddress, domain := domain }

/-- The status. An id that is not set is `none`; an address that is not set is empty, as in the
source. -/
structure Status where
  observedGeneration : ℤ := -1
  ready : Option Condition := none
  clusterAddress : String := ""
  tokenID : Option ℕ := none
  domainID : Option ℕ := none
  loadBalancerIP : String := ""
  online : Bool := false
  connectedProxies : ℕ := 0
  deriving DecidableEq, Repr

/-- The custom resource, without its uid. -/
abbrev CR := Object Spec Status

/-- A custom-domain registration of the account. -/
structure Registration where
  domain : String
  targetCluster : Option String
  deriving DecidableEq, Repr

/-- The target of a registration, empty when it has none. -/
def Registration.target (r : Registration) : String := r.targetCluster.getD ""

/-- A cluster registration of the account, keyed by its address. -/
structure ProxyCluster where
  address : String
  online : Bool
  connectedProxies : ℕ
  deriving DecidableEq, Repr

/-- An enrollment token of the account. -/
structure ProxyToken where
  name : String
  deriving DecidableEq, Repr

/-- The Secret that hands the plain token of a minted token to the proxy. -/
structure Secret where
  ns : String
  name : String
  token : ℕ
  deriving DecidableEq, Repr

/-- What a pass works on. The last two fields are a record of the run, which no pass reads. -/
structure World where
  rpcs : Store CR
  domains : Store Registration
  clusters : List ProxyCluster
  tokens : Store ProxyToken
  secrets : List Secret
  cache : ListCache ProxyCluster
  created : List (Entry Registration)
  minted : List ℕ
  deriving DecidableEq

/-- The calls of a pass that can fail, one for each place in the source. -/
inductive Call where
  | patchFinalizer | tokenCreate | applySecret | patchToken | applyZone | applyDeployment
  | applyService | applyRecords | clusterList | clusterRefresh | domainList | listClusters
  | targetList | targetRefresh | domainDelete | domainCreate | patchNotReady | patchDomainID
  | patchReady | tokenDelete | sharedDomain | sharedCluster | clusterDelete | patchRemoveFinalizer
  deriving DecidableEq, Repr

/-- How a pass gives up: a call failed, or a dependency is not ready. -/
inductive Err where
  | api (c : Call) (f : Fault)
  | dependencyNotReady (msg : String)
  deriving DecidableEq, Repr

/-- `corev1.IPFamily`. -/
inductive IPFamily where
  | ipv4
  | ipv6
  deriving DecidableEq, Repr

/-- An address of a Service with its IP family. -/
structure FamilyAddress where
  family : IPFamily
  address : String
  deriving DecidableEq, Repr

/-- The inputs of a pass that are not part of the world: `ingress` is what `lbIngressAddresses`
reads off the proxy Service, `validate` the error of the domain validation. -/
structure Env where
  now : ℕ
  ingress : List FamilyAddress
  validate : Option String
  fault : Call → Option Fault

/-- No call of the pass fails. -/
def Env.FaultFree (env : Env) : Prop := ∀ c, env.fault c = none

/-- A pass of this controller. -/
abbrev M := Pass World Err

/-! ### Calls -/

/-- The call `c`, as far as it can fail. -/
abbrev call (env : Env) (c : Call) : M Unit := Pass.call (env.fault c) (.api c)

/-- `sp.Patch`: write the object as the pass has it in memory. -/
def patch (env : Env) (c : Call) (uid : ℕ) (rpc : CR) : M Unit := do
  call env c
  Pass.modify fun w => { w with rpcs := w.rpcs.put uid rpc }

/-- The outcome of listing the account's clusters at the call `c`. -/
def fetchClusters (env : Env) (c : Call) (w : World) : Except Err (List ProxyCluster) :=
  match env.fault c with
  | none => .ok w.clusters
  | some f => .error (.api c f)

/-- `netbirdutil.GetProxyClusterByAddress`; `none` is `ErrProxyClusterNotFound`. -/
def getProxyClusterByAddress (env : Env) (list refresh : Call) (address : String) :
    M (Option ProxyCluster) := fun w =>
  let r := w.cache.lookup env.now (fetchClusters env list w) (fetchClusters env refresh w)
    fun c => c.address == address
  (r.1, { w with cache := r.2 })

/-- `anotherClusterMatches`: list the objects and look for another live one. -/
def anotherClusterMatches (env : Env) (c : Call) (uid : ℕ) (p : CR → Bool) : M Bool := do
  call env c
  Pass.read fun w => anotherLiveMatches uid w.rpcs.entries p

/-- `ReverseProxyDomains.Create`, answered with a fresh id. -/
def createDomain (env : Env) (r : Registration) : M ℕ := do
  call env .domainCreate
  let id ← Pass.read fun w => w.domains.next
  Pass.modify fun w =>
    { w with domains := w.domains.create r, created := w.created ++ [⟨w.domains.next, r⟩] }
  pure id

/-- `ReverseProxyDomains.Delete`. A registration that is not there is a 404, which the callers
ignore. -/
def deleteDomain (env : Env) (id : ℕ) : M Unit := do
  call env .domainDelete
  Pass.modify fun w => { w with domains := w.domains.delete id }

/-! ### The custom domain -/

/-- The other object owns the cluster at `target`: its spec or its status has that address. -/
def ownsCluster (target : String) (other : CR) : Bool :=
  other.spec.clusterAddress == target || other.status.clusterAddress == target

def alreadyTargets (domain target : String) : String :=
  "dependency not ready: custom domain " ++ domain ++ " already targets cluster " ++ target ++
    " owned by another ReverseProxyCluster"

def targetsExisting (domain target : String) : String :=
  "dependency not ready: custom domain " ++ domain ++ " targets existing cluster " ++ target ++
    " not managed by this operator"

/-- `ensureDomain`: the id of a registration of `spec.domain` that targets this object's cluster.
An existing one is adopted; a stale one is deleted and created anew; one whose target is in use is
a conflict. The loop of the source stops at its first match on every path. -/
def ensureDomain (env : Env) (uid : ℕ) (rpc : CR) : M ℕ := do
  call env .domainList
  let found ← Pass.read fun w => w.domains.first fun d => d.domain == rpc.spec.domain
  match found with
  | none => createDomain env ⟨rpc.spec.domain, some rpc.spec.clusterAddress⟩
  | some d =>
    if d.val.target = "" ∨ d.val.target = rpc.spec.clusterAddress then
      return d.id
    else
      let owned ← anotherClusterMatches env .listClusters uid (ownsCluster d.val.target)
      if owned then
        Pass.throw (.dependencyNotReady (alreadyTargets rpc.spec.domain d.val.target))
      else
        let existing ← getProxyClusterByAddress env .targetList .targetRefresh d.val.target
        match existing with
        | some _ => Pass.throw (.dependencyNotReady (targetsExisting rpc.spec.domain d.val.target))
        | none =>
          deleteDomain env d.id
          createDomain env ⟨rpc.spec.domain, some rpc.spec.clusterAddress⟩

/-! ### Reconcile -/

def proxyResourceName (rpc : CR) : String := "reverseproxycluster-" ++ rpc.name

/-- Apply the Secret with the plain token of token `id`. -/
def applySecret (rpc : CR) (id : ℕ) (secrets : List Secret) : List Secret :=
  ⟨rpc.ns, proxyResourceName rpc, id⟩ ::
    secrets.filter fun s => ¬ (s.ns = rpc.ns ∧ s.name = proxyResourceName rpc)

/-- Step 1: mint the enrollment token, once. -/
def mintToken (env : Env) (uid : ℕ) (rpc : CR) : M CR :=
  match rpc.status.tokenID with
  | some _ => pure rpc
  | none => do
    call env .tokenCreate
    let id ← Pass.read fun w => w.tokens.next
    Pass.modify fun w =>
      { w with
        tokens := w.tokens.create ⟨"k8s-" ++ rpc.ns ++ "-" ++ rpc.name⟩
        minted := w.minted ++ [w.tokens.next] }
    call env .applySecret
    Pass.modify fun w => { w with secrets := applySecret rpc id w.secrets }
    let rpc := { rpc with status := { rpc.status with tokenID := some id } }
    patch env .patchToken uid rpc
    pure rpc

/-- `serviceAddresses`: the first address of each IP family, in the order they occur. -/
def serviceAddresses (ingress : List FamilyAddress) : List FamilyAddress :=
  ingress.foldl
    (fun out fa => if out.any fun a => a.family = fa.family then out else out ++ [fa]) []

/-- `notReady`: record why the object waits, and come back soon. -/
def notReady (env : Env) (uid : ℕ) (rpc : CR) (msg : String) : M Result := do
  patch env .patchNotReady uid
    { rpc with status := { rpc.status with ready := some (markFalse msg) } }
  pure ⟨some dependencyRetry⟩

/-- The object with its connectivity reset. -/
def offline (rpc : CR) : CR :=
  { rpc with status := { rpc.status with online := false, connectedProxies := 0 } }

/-- The object once its proxy has enrolled as `cluster`. -/
def enrolled (rpc : CR) (cluster : ProxyCluster) : CR :=
  { rpc with
    status :=
      { rpc.status with
        clusterAddress := rpc.spec.clusterAddress
        online := cluster.online
        connectedProxies := cluster.connectedProxies } }

/-- `ensureZone`: the zone of the domain is applied unless the object refers to an existing one. -/
def ensureZone (env : Env) (rpc : CR) : M Unit :=
  match rpc.spec.zoneRef with
  | some _ => pure ()
  | none => call env .applyZone

/-- Steps 2 and 3: the zone, the Deployment and the Service. -/
def applyWorkload (env : Env) (rpc : CR) : M Unit := do
  ensureZone env rpc
  call env .applyDeployment
  call env .applyService

/-- Write the domain id to the status, if it is not there yet. -/
def patchDomainID (env : Env) (uid : ℕ) (rpc : CR) (domainID : ℕ) : M CR :=
  if rpc.status.domainID = some domainID then
    pure rpc
  else do
    let rpc := { rpc with status := { rpc.status with domainID := some domainID } }
    patch env .patchDomainID uid rpc
    pure rpc

/-- Trigger the validation of the domain, and report ready once it passes. -/
def validateDomain (env : Env) (uid : ℕ) (rpc : CR) : M Result :=
  match env.validate with
  | some msg =>
    notReady env uid rpc ("validating custom domain " ++ rpc.spec.domain ++ ": " ++ msg)
  | none => do
    patch env .patchReady uid
      { rpc with
        status :=
          { rpc.status with ready := some markTrue, observedGeneration := (rpc.generation : ℤ) } }
    pure ⟨some resyncInterval⟩

/-- The end of step 6: record the domain id, validate, and report ready. -/
def recordDomain (env : Env) (uid : ℕ) (rpc : CR) (domainID : ℕ) : M Result := do
  let rpc ← patchDomainID env uid rpc domainID
  validateDomain env uid rpc

/-- Step 6: register the custom domain. A conflict is reported, not fought over. -/
def registerDomain (env : Env) (uid : ℕ) (rpc : CR) : M Result := do
  let outcome ← Pass.observe (ensureDomain env uid rpc)
  match outcome with
  | .error (.dependencyNotReady msg) => notReady env uid rpc msg
  | .error e => Pass.throw e
  | .ok domainID => recordDomain env uid rpc domainID

/-- Step 5: the object waits until its proxy has enrolled at its address. -/
def awaitEnrollment (env : Env) (uid : ℕ) (rpc : CR) : M Result := do
  let found ← getProxyClusterByAddress env .clusterList .clusterRefresh rpc.spec.clusterAddress
  match found with
  | none =>
    notReady env uid (offline rpc)
      ("waiting for the proxy to enroll at " ++ rpc.spec.clusterAddress)
  | some cluster => registerDomain env uid (enrolled rpc cluster)

/-- Step 4: the object waits for a load balancer address, then publishes its records. -/
def awaitAddress (env : Env) (uid : ℕ) (rpc : CR) : M Result :=
  match serviceAddresses env.ingress with
  | [] => notReady env uid (offline rpc) "waiting for the proxy LoadBalancer IP"
  | fa :: _ => do
    let rpc := { rpc with status := { rpc.status with loadBalancerIP := fa.address } }
    call env .applyRecords
    awaitEnrollment env uid rpc

/-- `Reconcile` on an object that is not being deleted. -/
def reconcileLive (env : Env) (uid : ℕ) (rpc : CR) : M Result := do
  let rpc := { rpc with finalizer := true }
  patch env .patchFinalizer uid rpc
  let rpc ← mintToken env uid rpc
  applyWorkload env rpc
  awaitAddress env uid rpc

/-! ### Deletion -/

/-- Revoke the enrollment token. -/
def revokeToken (env : Env) (rpc : CR) : M Unit :=
  match rpc.status.tokenID with
  | none => pure ()
  | some id => do
    call env .tokenDelete
    Pass.modify fun w => { w with tokens := w.tokens.delete id }

/-- The other object shares the registration: it declares its live domain, or records its id. -/
def sharesDomain (d : Entry Registration) (other : CR) : Bool :=
  other.spec.domain == d.val.domain || other.status.domainID == some d.id

/-- Drop the recorded registration unless another object still uses it. -/
def dropDomain (env : Env) (uid : ℕ) (rpc : CR) : M Unit :=
  match rpc.status.domainID with
  | none => pure ()
  | some id => do
    call env .domainList
    let found ← Pass.read fun w => w.domains.get id
    match found with
    | none => pure ()
    | some d =>
      let shared ← anotherClusterMatches env .sharedDomain uid (sharesDomain ⟨id, d⟩)
      if shared then
        pure ()
      else
        deleteDomain env id

/-- Drop the recorded cluster registration unless another object still uses the address. -/
def dropCluster (env : Env) (uid : ℕ) (rpc : CR) : M Unit :=
  if rpc.status.clusterAddress = "" then
    pure ()
  else do
    let shared ←
      anotherClusterMatches env .sharedCluster uid (ownsCluster rpc.status.clusterAddress)
    if shared then
      pure ()
    else
      call env .clusterDelete
      Pass.modify fun w =>
        { w with clusters := w.clusters.filter fun c => c.address ≠ rpc.status.clusterAddress }

/-- `reconcileDelete`. -/
def reconcileDelete (env : Env) (uid : ℕ) (rpc : CR) : M Result := do
  revokeToken env rpc
  dropDomain env uid rpc
  dropCluster env uid rpc
  patch env .patchRemoveFinalizer uid { rpc with finalizer := false }
  pure ⟨none⟩

/-- `Reconcile` of the object with that uid. An object that is gone is not an error. -/
def reconcile (env : Env) (uid : ℕ) : M Result := do
  let found ← Pass.read fun w => w.rpcs.get uid
  match found with
  | none => pure ⟨none⟩
  | some rpc => if rpc.deleting then reconcileDelete env uid rpc else reconcileLive env uid rpc

/-! ### The controller among the others -/

/-- What happens to the world: a pass, a user's change, a proxy that enrolls or leaves, and what
other clients of the account do to its custom domains. -/
inductive Event where
  | reconcile (uid : ℕ) (env : Env)
  | user (ev : UserEvent Spec)
  | enroll (c : ProxyCluster)
  | unenroll (address : String)
  | foreignCreate (r : Registration)
  | foreignDelete (id : ℕ)

/-- The effect of an event. NetBird refuses a second registration of a domain, and a second
cluster at an address. -/
def step (w : World) : Event → World
  | .reconcile uid env => (reconcile env uid w).2
  | .user ev => { w with rpcs := w.rpcs.submit {} ev }
  | .enroll c =>
    if w.clusters.any fun k => k.address = c.address then w
    else { w with clusters := w.clusters ++ [c] }
  | .unenroll address => { w with clusters := w.clusters.filter fun c => c.address ≠ address }
  | .foreignCreate r =>
    if w.domains.entries.any fun d => d.val.domain = r.domain then w
    else { w with domains := w.domains.create r }
  | .foreignDelete id => { w with domains := w.domains.delete id }

/-- An account that no object of the kind has touched yet. -/
def World.initial (domains : Store Registration) (clusters : List ProxyCluster)
    (tokens : Store ProxyToken) : World :=
  ⟨.empty, domains, clusters, tokens, [], .new, [], []⟩

end ReverseProxyCluster

end NetbirdOperator
