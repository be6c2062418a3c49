import NetbirdOperator.GatewayAPI.Model
import NetbirdOperator.LoadBalancer.Model
import NetbirdOperator.ReverseProxyCluster.Model

/-!
# The Gateway controller

`GatewayReconciler` of `internal/controller/gateway_controller.go`. A Gateway of the operator's
class becomes a ReverseProxyCluster it owns, and what the cluster reports is copied back into the
Gateway's status: its conditions, its address and one entry for each listener. A Gateway that cannot
be translated is reported as not accepted.

The world has the Gateways with what they refer to, the ReverseProxyClusters with the NetBird
account they register in, and for each Service the ingress IPs of its load balancer. The last are
not read by this controller; the cluster's passes read them, and both controllers' statuses are
about them.

## What is left out

`k8sutil.ControllerReference` only fails on unregistered types. Transition times of conditions and
events are left out, and so is the record of who has applied which field of a cluster: what an apply
takes back is an input of the pass.

## Main definitions

* `Gateway.World`, `Env`, `Call` — state, inputs and failure points
* `Gateway.resolveGatewayParams`, `clusterSpec`, `listenerStatuses`, `syncStatus`, `fail`,
  `reconcile` — the source functions
-/

namespace NetbirdOperator

open ControlLoop

namespace Gateway

open GatewayAPI (Listener HTTPRoute GatewayClass GatewayProxy gatewayController gatewayProxyConfig
  listenerUnderDomain allowedRoutesPermits listenerHostnameMatches)
open LoadBalancer (ObjectKey)
open ReverseProxyCluster (CR)

/-! ### Objects -/

/-- `gwv1.LocalParametersReference`. -/
structure ParametersReference where
  group : String
  kind : String
  name : String
  deriving DecidableEq, Repr

/-- A status condition, without its type. -/
structure StatusCondition where
  status : Bool
  reason : String
  message : String
  observedGeneration : ℕ
  deriving DecidableEq, Repr

structure RouteGroupKind where
  group : String
  kind : String
  deriving DecidableEq, Repr

structure ListenerStatus where
  name : String
  supportedKinds : List RouteGroupKind
  attachedRoutes : Int32 := 0
  accepted : Option StatusCondition := none
  resolvedRefs : Option StatusCondition := none
  programmed : Option StatusCondition := none
  deriving DecidableEq, Repr

structure Status where
  accepted : Option StatusCondition := none
  programmed : Option StatusCondition := none
  addresses : List String := []
  listeners : List ListenerStatus := []
  deriving DecidableEq, Repr

/-- A Gateway with its `spec.infrastructure.parametersRef` and its status. -/
structure GatewayObject extends GatewayAPI.Gateway where
  parametersRef : Option ParametersReference
  generation : ℕ
  status : Status
  deriving DecidableEq, Repr

/-- The specification of a ReverseProxyClusterParameters object. -/
structure ParametersSpec where
  image : String := ""
  replicas : Option ℤ := none
  logLevel : String := ""
  groups : List GroupReference := []
  isPrivate : Bool := false
  serviceAnnotations : Finmap fun _ : String => String := ∅
  deriving DecidableEq

structure Parameters where
  ns : String
  name : String
  spec : ParametersSpec := {}
  deriving DecidableEq

/-- What a pass works on. -/
structure World where
  classes : List GatewayClass
  parameters : List Parameters
  gateways : List GatewayObject
  routes : List HTTPRoute
  secrets : List ObjectKey
  proxies : ReverseProxyCluster.World
  ingress : ObjectKey → List String

/-- The calls of a pass that can fail. -/
inductive Call where
  | getGateway | getClass | getParameters | applyCluster | getCluster | listRoutes
  | getSecret (name : String)
  | updateStatus
  deriving DecidableEq, Repr

/-- How a pass gives up. -/
structure Err where
  call : Call
  fault : Fault
  deriving DecidableEq, Repr

/-- The inputs of a pass that are not part of the world: which calls fail, and the text of such an
error where it ends up in a condition. `takeBack` is what the API server makes of the fields that an
apply leaves out: it takes back those that only the operator has applied before. -/
structure Env where
  fault : Call → Option Fault
  errorText : Fault → String
  takeBack : ReverseProxyCluster.Spec → ReverseProxyCluster.Spec

abbrev M := Pass World Err

/-- The call `c`, as far as it can fail. -/
abbrev call (env : Env) (c : Call) : M Unit := Pass.call (env.fault c) fun f => ⟨c, f⟩

def World.getGateway (w : World) (ns name : String) : Option GatewayObject :=
  w.gateways.find? fun g => g.ns = ns ∧ g.name = name

def World.getClass (w : World) (name : String) : Option GatewayClass :=
  w.classes.find? fun c => c.name = name

/-- The object of the store has that namespace and name. -/
def isAt (ns name : String) (rpc : CR) : Bool := rpc.ns = ns ∧ rpc.name = name

def World.getCluster (w : World) (ns name : String) : Option (Entry CR) :=
  w.proxies.rpcs.first (isAt ns name)

/-! ### Parameters -/

def paramsKind : String := "ReverseProxyClusterParameters"

/-- `nbv1alpha1.GroupVersion.Group`. -/
def apiGroup : String := "netbird.io"

def World.getParameters (w : World) (ns name : String) : Option Parameters :=
  w.parameters.find? fun p => p.ns = ns ∧ p.name = name

/-- `resolveGatewayParams`: the parameters, or why they cannot be resolved. -/
def resolveGatewayParams (env : Env) (w : World) (gw : GatewayObject) : Except String Parameters :=
  match gw.parametersRef with
  | none =>
    .error
      ("spec.infrastructure.parametersRef is required and must reference a " ++ paramsKind)
  | some ref =>
    if ref.group ≠ apiGroup ∨ ref.kind ≠ paramsKind then
      .error ("parametersRef must reference " ++ paramsKind ++ "." ++ apiGroup ++ ", got " ++
        ref.kind ++ "." ++ ref.group)
    else
      match env.fault .getParameters with
      | some f => .error (env.errorText f)
      | none =>
        match w.getParameters gw.ns ref.name with
        | some params => .ok params
        | none =>
          .error
            (paramsKind ++ " \"" ++ ref.name ++ "\" not found in namespace \"" ++ gw.ns ++ "\"")

/-! ### Status -/

/-- Update the status of a Gateway. -/
def updateStatus (env : Env) (gw : GatewayObject) (status : Status) : M Unit := do
  call env .updateStatus
  Pass.modify fun w =>
    { w with
      gateways := w.gateways.map fun g =>
        if g.ns = gw.ns ∧ g.name = gw.name then { g with status := status } else g }

/-- `fail`: the Gateway is not accepted. The other fields of the status stay. -/
def fail (env : Env) (gw : GatewayObject) (reason msg : String) : M Result := do
  updateStatus env gw
    { gw.status with accepted := some ⟨false, reason, msg, gw.generation⟩ }
  pure ⟨some dependencyRetry⟩

/-- `secretExists`. A lookup that fails counts as a miss. -/
def secretExists (env : Env) (w : World) (ns name : String) : Bool :=
  name ≠ "" ∧ env.fault (.getSecret name) = none ∧ ⟨ns, name⟩ ∈ w.secrets

/-- `routeReferencesGateway`. -/
def routeReferencesGateway (route : HTTPRoute) (gw : GatewayAPI.Gateway) : Bool :=
  route.parentRefs.any fun p => p.name = gw.name ∧ p.ns.getD route.ns = gw.ns

/-- The listener counts the route. A route without hostnames matches every listener. -/
def countsRoute (gw : GatewayAPI.Gateway) (l : Listener) (route : HTTPRoute) : Bool :=
  routeReferencesGateway route gw && allowedRoutesPermits gw l route.ns &&
    (route.hostnames.isEmpty || route.hostnames.any fun h => listenerHostnameMatches l.hostname h)

/-- `listenerAttachedRoutes`, with its counter of 32 bits. -/
def listenerAttachedRoutes (gw : GatewayAPI.Gateway) (l : Listener) (routes : List HTTPRoute) :
    Int32 :=
  routes.foldl (fun n route => if countsRoute gw l route then n + 1 else n) 0

def httpRouteKind : RouteGroupKind := ⟨"gateway.networking.k8s.io", "HTTPRoute"⟩

/-- The first certificate of a listener, if it refers to one. -/
def certName (l : Listener) : Option String :=
  l.tls.bind fun tls => tls.certificateRefs.head?

/-- The status of one listener: full conditions if it is under the proxy's domain. -/
def listenerStatus (env : Env) (w : World) (gw : GatewayObject) (cfg : GatewayProxy)
    (programmed : Bool) (routes : List HTTPRoute) (l : Listener) : ListenerStatus :=
  if listenerUnderDomain l cfg.domain then
    let certOK := (certName l).all fun name => secretExists env w gw.ns name
    { name := l.name
      supportedKinds := [httpRouteKind]
      attachedRoutes := listenerAttachedRoutes gw.toGateway l routes
      accepted := some ⟨true, "Accepted", "Accepted", gw.generation⟩
      resolvedRefs :=
        if certOK then some ⟨true, "ResolvedRefs", "resolved", gw.generation⟩
        else
          some ⟨false, "InvalidCertificateRef",
            "Secret \"" ++ (certName l).getD "" ++ "\" not found", gw.generation⟩
      programmed := some ⟨programmed && certOK, "Programmed", "", gw.generation⟩ }
  else
    { name := l.name
      supportedKinds := [httpRouteKind]
      accepted :=
        some ⟨false, "Unused",
          "listener hostname is not under the proxy's registered domain " ++ cfg.domain,
          gw.generation⟩ }

/-- `listenerStatuses`. Routes that cannot be listed are taken to be none. -/
def listenerStatuses (env : Env) (w : World) (gw : GatewayObject) (cfg : GatewayProxy)
    (programmed : Bool) : List ListenerStatus :=
  let routes := if env.fault .listRoutes = none then w.routes else []
  gw.listeners.map (listenerStatus env w gw cfg programmed routes)

/-- `meta.IsStatusConditionTrue` on `Ready`. -/
def ready (rpc : CR) : Bool := rpc.status.ready.any Condition.status

/-- The status `syncStatus` writes. The address is replaced only if the cluster has one. -/
def syncedStatus (env : Env) (w : World) (gw : GatewayObject) (cfg : GatewayProxy) (rpc : CR) :
    Status where
  accepted := some ⟨true, "Accepted", "Translated to a NetBird ReverseProxyCluster", gw.generation⟩
  programmed :=
    if ready rpc then some ⟨true, "Programmed", "the proxy cluster is ready", gw.generation⟩
    else some ⟨false, "Pending", "waiting for the proxy cluster to become ready", gw.generation⟩
  addresses :=
    if rpc.status.loadBalancerIP ≠ "" then [rpc.status.loadBalancerIP] else gw.status.addresses
  listeners := listenerStatuses env w gw cfg (ready rpc)

/-- `syncStatus`. -/
def syncStatus (env : Env) (gw : GatewayObject) (cfg : GatewayProxy) (rpc : CR) : M Unit := do
  let status ← Pass.read fun w => syncedStatus env w gw cfg rpc
  updateStatus env gw status

/-! ### The pass -/

def proxyClusterNameForGateway (gw : GatewayAPI.Gateway) : String := "gateway-" ++ gw.name

/-- `groupRefACs`. -/
def groupRefACs (groups : List GroupReference) : List GroupReference :=
  groups.map fun g => g.narrowed.getD {}

/-- The specification with the fields of the apply put over `rest`. Those that the parameters leave
empty are not applied; annotations are applied one by one. -/
def clusterSpec (cfg : GatewayProxy) (params : ParametersSpec) (rest : ReverseProxyCluster.Spec) :
    ReverseProxyCluster.Spec :=
  { rest with
    clusterAddress := cfg.clusterAddress
    domain := cfg.domain
    isPrivate := params.isPrivate
    certSecretName := if cfg.certSecret ≠ "" then cfg.certSecret else rest.certSecretName
    image := if params.image ≠ "" then params.image else rest.image
    logLevel := if params.logLevel ≠ "" then params.logLevel else rest.logLevel
    replicas := if params.replicas.isSome then params.replicas else rest.replicas
    groups := if params.groups ≠ [] then groupRefACs params.groups else rest.groups
    serviceAnnotations := params.serviceAnnotations ∪ rest.serviceAnnotations }

/-- Server-side apply of the cluster, as the object of its name or over it. An unchanged
specification is no new generation. -/
def applyCluster (env : Env) (gw : GatewayAPI.Gateway) (cfg : GatewayProxy)
    (params : ParametersSpec) (rpcs : Store CR) : Store CR :=
  match rpcs.first (isAt gw.ns (proxyClusterNameForGateway gw)) with
  | none =>
    rpcs.submit {} (.create gw.ns (proxyClusterNameForGateway gw)
      (clusterSpec cfg params (.plain "" "")))
  | some rpc =>
    let spec := clusterSpec cfg params (env.takeBack rpc.val.spec)
    if rpc.val.spec = spec then rpcs else rpcs.submit {} (.edit rpc.id spec)

/-- The pass over a Gateway with parameters and a proxy configuration. -/
def translate (env : Env) (gw : GatewayObject) (cfg : GatewayProxy) (params : ParametersSpec) :
    M Result := do
  call env .applyCluster
  Pass.modify fun w =>
    { w with
      proxies :=
        { w.proxies with rpcs := applyCluster env gw.toGateway cfg params w.proxies.rpcs } }
  call env .getCluster
  let rpc ← Pass.read fun w => w.getCluster gw.ns (proxyClusterNameForGateway gw.toGateway)
  match rpc with
  | none => Pass.throw ⟨.getCluster, .other⟩
  | some rpc =>
    syncStatus env gw cfg rpc.val
    pure ⟨some resyncInterval⟩

/-- The pass over a Gateway of the operator's class. -/
def reconcileOwn (env : Env) (gw : GatewayObject) : M Result := do
  let params ← Pass.read fun w => resolveGatewayParams env w gw
  match params with
  | .error msg => fail env gw "InvalidParameters" msg
  | .ok params =>
    match gatewayProxyConfig gw.toGateway with
    | none =>
      fail env gw "NoUsableListener" "no HTTPS/TLS listener with a hostname and certificateRefs"
    | some cfg => translate env gw cfg params.spec

/-- `GatewayReconciler.Reconcile`. -/
def reconcile (env : Env) (ns name : String) : M Result := do
  call env .getGateway
  let gw ← Pass.read fun w => w.getGateway ns name
  match gw with
  | none => pure ⟨none⟩
  | some gw =>
    call env .getClass
    let gc ← Pass.read fun w => w.getClass gw.gatewayClassName
    match gc with
    | none => pure ⟨none⟩
    | some gc =>
      if gc.controllerName ≠ gatewayController then pure ⟨none⟩ else reconcileOwn env gw

/-! ### The controllers among the others -/

/-- What happens: Gateways and what they refer to are edited, load balancers gain and lose
addresses, the account changes, and the two controllers run. A cluster's pass reads the ingress of
its Service, unless that read is not `answered`. -/
inductive Event where
  | putGateway (gw : GatewayAPI.Gateway) (parametersRef : Option ParametersReference)
  | removeGateway (ns name : String)
  | setClasses (classes : List GatewayClass)
  | setParameters (parameters : List Parameters)
  | setRoutes (routes : List HTTPRoute)
  | setSecrets (secrets : List ObjectKey)
  | setIngress (service : ObjectKey) (ips : List String)
  | user (ev : UserEvent ReverseProxyCluster.Spec)
  | enroll (c : ReverseProxyCluster.ProxyCluster)
  | unenroll (address : String)
  | foreignCreate (r : ReverseProxyCluster.Registration)
  | foreignDelete (id : ℕ)
  | clusterPass (uid : ℕ) (env : ReverseProxyCluster.Env) (answered : Bool)
  | gatewayPass (ns name : String) (env : Env)

/-- An edit keeps the status of a Gateway. -/
def putGateway (gw : GatewayAPI.Gateway) (parametersRef : Option ParametersReference)
    (gateways : List GatewayObject) : List GatewayObject :=
  if gateways.any fun g => g.ns = gw.ns ∧ g.name = gw.name then
    gateways.map fun g =>
      if g.ns = gw.ns ∧ g.name = gw.name then
        ⟨gw, parametersRef, g.generation + 1, g.status⟩
      else g
  else gateways ++ [⟨gw, parametersRef, 1, {}⟩]

/-- The API server refuses a specification without a cluster address. -/
def admits : UserEvent ReverseProxyCluster.Spec → Bool
  | .create _ _ spec => spec.clusterAddress ≠ ""
  | .edit _ spec => spec.clusterAddress ≠ ""
  | .delete _ => true

/-- The Service of a proxy. -/
def serviceKey (rpc : CR) : ObjectKey := ⟨rpc.ns, ReverseProxyCluster.proxyResourceName rpc⟩

section Ingress

variable (ipFamilyOf : String → Option ReverseProxyCluster.IPFamily)

/-- What `lbIngressAddresses` reads off the Service of a proxy. -/
def usable (w : World) (rpc : CR) : List ReverseProxyCluster.FamilyAddress :=
  LoadBalancer.lbIngressAddresses ipFamilyOf
    { loadBalancer := true, ingress := w.ingress (serviceKey rpc) }

/-- The inputs of a cluster's pass, with what it reads of its Service. -/
def observed (w : World) (uid : ℕ) (env : ReverseProxyCluster.Env) (answered : Bool) :
    ReverseProxyCluster.Env :=
  { env with
    ingress :=
      match w.proxies.rpcs.get uid with
      | none => []
      | some rpc => if answered then usable ipFamilyOf w rpc else [] }

/-- A pass over a ReverseProxyCluster. -/
def clusterPass (w : World) (uid : ℕ) (env : ReverseProxyCluster.Env) (answered : Bool) :
    Except ReverseProxyCluster.Err Result × ReverseProxyCluster.World :=
  ReverseProxyCluster.reconcile (observed ipFamilyOf w uid env answered) uid w.proxies

/-- The account and the clusters after an event of theirs. -/
def account (w : World) (ev : ReverseProxyCluster.Event) : World :=
  { w with proxies := ReverseProxyCluster.step w.proxies ev }

/-- The effect of an event. -/
def step (w : World) : Event → World
  | .putGateway gw ref => { w with gateways := putGateway gw ref w.gateways }
  | .removeGateway ns name =>
    { w with gateways := w.gateways.filter fun g => ¬ (g.ns = ns ∧ g.name = name) }
  | .setClasses classes => { w with classes := classes }
  | .setParameters parameters => { w with parameters := parameters }
  | .setRoutes routes => { w with routes := routes }
  | .setSecrets secrets => { w with secrets := secrets }
  | .setIngress service ips => { w with ingress := Function.update w.ingress service ips }
  | .user ev => if admits ev then account w (.user ev) else w
  | .enroll c => account w (.enroll c)
  | .unenroll address => account w (.unenroll address)
  | .foreignCreate r => account w (.foreignCreate r)
  | .foreignDelete id => account w (.foreignDelete id)
  | .clusterPass uid env answered =>
    { w with proxies := (clusterPass ipFamilyOf w uid env answered).2 }
  | .gatewayPass ns name env => (reconcile env ns name w).2

end Ingress

/-- No object of either kind, with any account. -/
def World.start (domains : Store ReverseProxyCluster.Registration)
    (clusters : List ReverseProxyCluster.ProxyCluster)
    (tokens : Store ReverseProxyCluster.ProxyToken) : World :=
  ⟨[], [], [], [], [], .initial domains clusters tokens, fun _ => []⟩

end Gateway

end NetbirdOperator
