import Mathlib.Data.Int.Notation
import NetbirdOperator.ControlLoop.Pass
import NetbirdOperator.Reconcile
import NetbirdOperator.Strings

/-!
# Gateways and HTTPRoutes

`internal/controller/gateway_controller.go`, from the listeners of a Gateway to the
ReverseProxyServices a route is translated into. A Gateway of the operator's class fronts one custom
domain, read off its first TLS listener. A route attached to it becomes one ReverseProxyService for
each hostname that `admittedHostnames` lets through; a route the proxy cannot represent is rejected
as a whole.

Kubernetes names, hostnames and label values are ASCII, so bytes are characters here. The short
digest `safeName` and `routeChildName` append, eight hex digits of a SHA-256, is part of the `Env`
of a pass: nothing is assumed of it.

## What is left out

Server-side apply writes the fields a pass owns; labels and fields of other managers on the same
object are not part of the model. `k8sutil.ControllerReference` only fails on unregistered types.
A deletion takes the object away at once: a child that its finalizer still holds counts as gone.

## Main definitions

* `GatewayAPI.gatewayProxyConfig`, `admittedHostnames`, `gatewayAdmitsRoute` — admission
* `GatewayAPI.routeBackends`, `rulePaths` — what a route is translated into
* `GatewayAPI.resolveGateway`, `prune`, `reconcile` — a pass of `HTTPRouteReconciler`
-/

namespace NetbirdOperator

open ControlLoop Strings

namespace GatewayAPI

/-! ### Gateways -/

/-- `gwv1.ProtocolType`. -/
inductive ProtocolType where
  | http | https | tls | tcp | udp
  | other (name : String)
  deriving DecidableEq, Repr

/-- `gwv1.FromNamespaces`. -/
inductive FromNamespaces where
  | all | same | selector
  | other (name : String)
  deriving DecidableEq, Repr

/-- `gwv1.RouteNamespaces`, by its `from` field. -/
structure RouteNamespaces where
  fromNamespaces : Option FromNamespaces
  deriving DecidableEq, Repr

structure AllowedRoutes where
  namespaces : Option RouteNamespaces
  deriving DecidableEq, Repr

structure ListenerTLS where
  certificateRefs : List String
  deriving DecidableEq, Repr

structure Listener where
  name : String
  hostname : Option String
  port : ℕ
  protocol : ProtocolType
  tls : Option ListenerTLS := none
  allowedRoutes : Option AllowedRoutes := none
  deriving DecidableEq, Repr

/-- A Gateway. -/
structure Gateway where
  ns : String
  name : String
  gatewayClassName : String
  listeners : List Listener
  deriving DecidableEq, Repr

structure GatewayClass where
  name : String
  controllerName : String
  deriving DecidableEq, Repr

/-- The controller name the operator claims. -/
def gatewayController : String := "netbird.io/gateway-controller"

/-! ### Routes -/

/-- A reference from a route to a parent. -/
structure ParentReference where
  group : Option String := none
  kind : Option String := none
  ns : Option String := none
  name : String
  sectionName : Option String := none
  port : Option ℕ := none
  deriving DecidableEq, Repr

inductive PathMatchType where
  | exact | pathPrefix | regularExpression
  deriving DecidableEq, Repr

structure HTTPPathMatch where
  type : Option PathMatchType
  value : Option String
  deriving DecidableEq, Repr

structure HTTPRouteMatch where
  path : Option HTTPPathMatch
  deriving DecidableEq, Repr

/-- A backend reference. Filters are given by their types. -/
structure HTTPBackendRef where
  group : Option String := none
  kind : Option String := none
  ns : Option String := none
  name : String
  port : Option ℕ := none
  weight : Option ℤ := none
  filters : List String := []
  deriving DecidableEq, Repr

structure HTTPRouteRule where
  routeMatches : List HTTPRouteMatch
  filters : List String := []
  backendRefs : List HTTPBackendRef
  deriving DecidableEq, Repr

/-- The `Accepted` condition of a route under one parent. -/
structure AcceptedCondition where
  status : Bool
  reason : String
  message : String
  observedGeneration : ℕ
  deriving DecidableEq, Repr

structure RouteParentStatus where
  parentRef : ParentReference
  controllerName : String
  accepted : Option AcceptedCondition
  deriving DecidableEq, Repr

structure HTTPRoute where
  ns : String
  name : String
  generation : ℕ
  parentRefs : List ParentReference
  hostnames : List String
  rules : List HTTPRouteRule
  parents : List RouteParentStatus
  deriving DecidableEq, Repr

/-! ### Names -/

def labelValueMaxLen : ℕ := 63

def objectNameMaxLen : ℕ := 253

/-- `strings.TrimRight` with the cutset `-._`. -/
def trimRight (s : List Char) : List Char :=
  (s.reverse.dropWhile fun c => c = '-' ∨ c = '.' ∨ c = '_').reverse

/-- `safeName`: at most `max` characters, with a digest of the whole in place of a tail that had to
be cut. -/
def safeName (digest : String → String) (s : String) (max : ℕ) : String :=
  if s.length ≤ max then s
  else
    let suffix := "-" ++ digest s
    String.ofList (trimRight (s.toList.take (max - suffix.length))) ++ suffix

def httpRouteLabelValue (digest : String → String) (route : HTTPRoute) : String :=
  safeName digest route.name labelValueMaxLen

/-- The readable part of a hostname in a child name. -/
def nameOfHostname (hostname : String) : String :=
  String.ofList (hostname.toList.flatMap fun c =>
    if c = '*' then "wildcard".toList else if c = '.' then ['-'] else [c])

def routeChildName (digest : String → String) (routeName hostname : String) : String :=
  safeName digest (routeName ++ "-" ++ nameOfHostname hostname) (objectNameMaxLen - 9) ++ "-" ++
    digest (routeName ++ "\x00" ++ hostname)

/-! ### Admission -/

/-- The proxy configuration read off a Gateway. -/
structure GatewayProxy where
  domain : String
  clusterAddress : String
  certSecret : String
  listener : String
  deriving DecidableEq, Repr

/-- What a listener contributes to the proxy, if it terminates TLS, has a hostname and a
certificate. -/
def proxyOfListener (l : Listener) : Option GatewayProxy :=
  if l.protocol = .https ∨ l.protocol = .tls then
    match l.hostname, l.tls with
    | some hostname, some tls =>
      match tls.certificateRefs with
      | [] => none
      | cert :: _ =>
        if hostname = "" then none
        else
          let domain := trimPrefix hostname "*."
          some ⟨domain, "gate." ++ domain, cert, l.name⟩
    | _, _ => none
  else none

/-- `gatewayProxyConfig`: the first listener that makes one. -/
def gatewayProxyConfig (gw : Gateway) : Option GatewayProxy :=
  gw.listeners.findSome? proxyOfListener

/-- `hostnameUnderDomain`. -/
def hostnameUnderDomain (hostname domain : String) : Bool :=
  hostname == domain || hasSuffix hostname ("." ++ domain)

/-- `listenerUnderDomain`. A listener without a hostname never is. -/
def listenerUnderDomain (l : Listener) (domain : String) : Bool :=
  match l.hostname with
  | none => false
  | some hostname => hostname != "" && hostnameUnderDomain (trimPrefix hostname "*.") domain

/-- `listenerHostnameMatches`. A listener without a hostname matches everything. -/
def listenerHostnameMatches (listener : Option String) (routeHost : String) : Bool :=
  match listener with
  | none => true
  | some lh =>
    if lh = "" then true
    else
      match cutPrefix lh "*." with
      | some suffix =>
        hasSuffix routeHost ("." ++ suffix) && decide (routeHost.length > suffix.length + 1)
      | none => lh == routeHost

/-- The namespace policy of a listener, if it has one. -/
def policy (l : Listener) : Option FromNamespaces :=
  (l.allowedRoutes.bind AllowedRoutes.namespaces).bind RouteNamespaces.fromNamespaces

/-- `allowedRoutesPermits`. Without a policy only the Gateway's own namespace is let in; a selector
lets nobody in. -/
def allowedRoutesPermits (gw : Gateway) (l : Listener) (routeNamespace : String) : Bool :=
  match policy l with
  | none => routeNamespace == gw.ns
  | some .all => true
  | some .same => routeNamespace == gw.ns
  | some _ => false

/-- `gatewayAdmitsRoute`: one listener under the domain both matches the hostname and lets the
route's namespace in. -/
def gatewayAdmitsRoute (gw : Gateway) (route : HTTPRoute) (hostname : String)
    (cfg : GatewayProxy) : Bool :=
  hostnameUnderDomain hostname cfg.domain &&
    gw.listeners.any fun l =>
      listenerUnderDomain l cfg.domain &&
        (listenerHostnameMatches l.hostname hostname && allowedRoutesPermits gw l route.ns)

/-- Add a hostname that passes `p`, unless it was seen before. -/
def addUnseen (p : Bool) (out : List String) (h : String) : List String :=
  if !out.contains h && p then out ++ [h] else out

/-- The hostname a route without hostnames inherits from a listener. -/
def inheritedHostname (l : Listener) : Option String :=
  match l.hostname with
  | none => none
  | some h => if h = "" ∨ hasPrefix h "*." = true then none else some h

/-- `admittedHostnames`. -/
def admittedHostnames (gw : Gateway) (route : HTTPRoute) (cfg : GatewayProxy) : List String :=
  if route.hostnames ≠ [] then
    route.hostnames.foldl (fun out h => addUnseen (gatewayAdmitsRoute gw route h cfg) out h) []
  else
    gw.listeners.foldl
      (fun out l =>
        match inheritedHostname l with
        | none => out
        | some h =>
          addUnseen (hostnameUnderDomain h cfg.domain && allowedRoutesPermits gw l route.ns) out h)
      []

/-! ### Translation -/

/-- A backend of a ReverseProxyService. -/
structure ReverseProxyBackend where
  serviceRef : String
  path : String
  port : Option ℕ
  deriving DecidableEq, Repr

def maxProxyBackends : ℕ := 64

/-- The path of a match, if the proxy can represent it. -/
def matchPath (m : HTTPRouteMatch) : Option String :=
  match m.path with
  | none => some "/"
  | some path =>
    if path.type = none ∨ path.type = some .pathPrefix then some (path.value.getD "/") else none

/-- `rulePaths`: the distinct path prefixes of a rule. -/
def rulePaths (rule : HTTPRouteRule) : Option (List String) := do
  let paths ← rule.routeMatches.foldlM (fun paths m => (matchPath m).map (addUnseen true paths)) []
  if paths = [] then some ["/"] else some paths

/-- The state of the loop over a rule's backend references: the weight they share, how many there
were, and the backends so far. -/
structure RuleState where
  weight : ℤ
  ruleBackends : ℕ
  out : List ReverseProxyBackend
  deriving DecidableEq, Repr

/-- The body of that loop. -/
def addBackendRef (paths : List String) (st : RuleState) (br : HTTPBackendRef) :
    Except String RuleState :=
  let w := br.weight.getD 1
  if br.filters ≠ [] then .error "backendRef filters are not supported"
  else if w = 0 then .ok st
  else if st.weight ≥ 0 ∧ w ≠ st.weight then
    .error
      "differing backend weights are not supported (the NetBird proxy has no weighted routing)"
  else
    .ok ⟨w, st.ruleBackends + 1, st.out ++ paths.map fun path => ⟨br.name, path, br.port⟩⟩

/-- The body of the loop over the rules. -/
def addRule (out : List ReverseProxyBackend) (rule : HTTPRouteRule) :
    Except String (List ReverseProxyBackend) :=
  if rule.filters ≠ [] then .error "route rule filters are not supported"
  else
    match rulePaths rule with
    | none => .error "only PathPrefix path matches are supported"
    | some paths => do
      let st ← rule.backendRefs.foldlM (addBackendRef paths) ⟨-1, 0, out⟩
      if st.ruleBackends = 0 then
        .error "a rule routes no traffic (no backendRefs, or all weights 0)"
      else .ok st.out

/-- `routeBackends`: one backend for each rule path and backend reference, or the reason why the
route cannot be represented. -/
def routeBackends (route : HTTPRoute) : Except String (List ReverseProxyBackend) := do
  let out ← route.rules.foldlM addRule []
  if out = [] then .error "no backends to route to (route has no rules)"
  else if out.length > maxProxyBackends then
    .error ("too many path/backend combinations (max " ++ toString maxProxyBackends ++ ")")
  else .ok out

/-! ### The pass -/

/-- A ReverseProxyService, as far as the translation writes it: `httpRoute` is the value of the
route label, `owner` the route that controls it. -/
structure ReverseProxyService where
  ns : String
  name : String
  httpRoute : Option String
  owner : Option String
  domain : String
  proxyCluster : String
  passHostHeader : Bool
  backends : List ReverseProxyBackend
  deriving DecidableEq, Repr

/-- What a pass works on. -/
structure World where
  classes : List GatewayClass
  gateways : List Gateway
  routes : List HTTPRoute
  services : List ReverseProxyService
  deriving DecidableEq

/-- The calls of a pass that can fail. Lookups of a parent carry its position in the route. -/
inductive Call where
  | getRoute | listChildren | updateStatus
  | getGateway (parent : ℕ)
  | getClass (parent : ℕ)
  | deleteChild (name : String)
  | applyChild (name : String)
  deriving DecidableEq, Repr

/-- How a pass gives up. -/
structure Err where
  call : Call
  fault : Fault
  deriving DecidableEq, Repr

/-- The inputs of a pass that are not part of the world. -/
structure Env where
  fault : Call → Option Fault
  digest : String → String

abbrev M := Pass World Err

/-- The call `c`, as far as it can fail. -/
abbrev call (env : Env) (c : Call) : M Unit := Pass.call (env.fault c) fun f => ⟨c, f⟩

def World.getRoute (w : World) (ns name : String) : Option HTTPRoute :=
  w.routes.find? fun r => r.ns = ns ∧ r.name = name

def World.getGateway (w : World) (ns name : String) : Option Gateway :=
  w.gateways.find? fun g => g.ns = ns ∧ g.name = name

def World.getClass (w : World) (name : String) : Option GatewayClass :=
  w.classes.find? fun c => c.name = name

/-- The loop of `resolveGateway` over the parent references, from position `i` on. -/
def resolveFrom (env : Env) (routeNs : String) :
    ℕ → List ParentReference → M (Option (Gateway × ParentReference))
  | _, [] => pure none
  | i, p :: ps => do
    call env (.getGateway i)
    let gw ← Pass.read fun w => w.getGateway (p.ns.getD routeNs) p.name
    match gw with
    | none => resolveFrom env routeNs (i + 1) ps
    | some gw =>
      call env (.getClass i)
      let gc ← Pass.read fun w => w.getClass gw.gatewayClassName
      match gc with
      | none => resolveFrom env routeNs (i + 1) ps
      | some gc =>
        if gc.controllerName ≠ gatewayController then resolveFrom env routeNs (i + 1) ps
        else pure (some (gw, p))

/-- `resolveGateway`: the first parent that is a Gateway of the operator's class. -/
def resolveGateway (env : Env) (route : HTTPRoute) : M (Option (Gateway × ParentReference)) :=
  resolveFrom env route.ns 0 route.parentRefs

/-- The service is a child of the route, by its label. -/
def isChild (digest : String → String) (route : HTTPRoute) (s : ReverseProxyService) : Bool :=
  s.ns = route.ns ∧ s.httpRoute = some (httpRouteLabelValue digest route)

/-- The loop of `prune` over the listed children. -/
def deleteUndesired (env : Env) (desired : List String) : List ReverseProxyService → M Unit
  | [] => pure ()
  | s :: rest =>
    if desired.contains s.name then deleteUndesired env desired rest
    else do
      call env (.deleteChild s.name)
      Pass.modify fun w =>
        { w with services := w.services.filter fun t => ¬ (t.ns = s.ns ∧ t.name = s.name) }
      deleteUndesired env desired rest

/-- `prune`: delete the route's children that are not desired. -/
def prune (env : Env) (route : HTTPRoute) (desired : List String) : M Unit := do
  call env .listChildren
  let children ← Pass.read fun w => w.services.filter (isChild env.digest route)
  deleteUndesired env desired children

/-- The status entry of this controller with its condition set; a new entry names the parent. -/
def setAccepted (parent : ParentReference) (cond : AcceptedCondition) :
    List RouteParentStatus → List RouteParentStatus
  | [] => [⟨parent, gatewayController, some cond⟩]
  | st :: rest =>
    if st.controllerName = gatewayController then { st with accepted := some cond } :: rest
    else st :: setAccepted parent cond rest

/-- `setRouteCondition`. -/
def setRouteCondition (env : Env) (route : HTTPRoute) (parent : ParentReference) (status : Bool)
    (reason message : String) : M Unit := do
  let cond : AcceptedCondition := ⟨status, reason, message, route.generation⟩
  call env .updateStatus
  Pass.modify fun w =>
    { w with
      routes := w.routes.map fun r =>
        if r.ns = route.ns ∧ r.name = route.name then
          { r with parents := setAccepted parent cond route.parents }
        else r }

/-- The child of a route for a hostname. -/
def childOf (digest : String → String) (route : HTTPRoute) (cfg : GatewayProxy)
    (backends : List ReverseProxyBackend) (hostname : String) : ReverseProxyService :=
  { ns := route.ns
    name := routeChildName digest route.name hostname
    httpRoute := some (httpRouteLabelValue digest route)
    owner := some route.name
    domain := hostname
    proxyCluster := cfg.clusterAddress
    passHostHeader := true
    backends := backends }

/-- Server-side apply of a child: an object of its name is overwritten. -/
def applyService (s : ReverseProxyService) (services : List ReverseProxyService) :
    List ReverseProxyService :=
  if services.any fun t => t.ns = s.ns ∧ t.name = s.name then
    services.map fun t => if t.ns = s.ns ∧ t.name = s.name then s else t
  else services ++ [s]

/-- The loop over the admitted hostnames. -/
def applyChildren (env : Env) (route : HTTPRoute) (cfg : GatewayProxy)
    (backends : List ReverseProxyBackend) : List String → M Unit
  | [] => pure ()
  | h :: rest => do
    let child := childOf env.digest route cfg backends h
    call env (.applyChild child.name)
    Pass.modify fun w => { w with services := applyService child w.services }
    applyChildren env route cfg backends rest

/-- The condition a pass reports once it has translated the route. -/
def translated (route : HTTPRoute) (cfg : GatewayProxy) (desired : List String) :
    Bool × String × String :=
  if desired ≠ [] then (true, "Accepted", "Translated to a NetBird ReverseProxyService")
  else if route.hostnames ≠ [] then
    (false, "NoMatchingListenerHostname",
      "no route hostname matches the Gateway's proxy listener domain")
  else
    (false, "UnsupportedValue",
      "route has no hostnames and no concrete listener hostname under " ++ cfg.domain ++
        " admits namespace " ++ route.ns ++ "; set spec.hostnames explicitly")

/-- The pass over a route that is attached to a Gateway with a proxy configuration. -/
def translate (env : Env) (route : HTTPRoute) (gw : Gateway) (parent : ParentReference)
    (cfg : GatewayProxy) : M Result :=
  match routeBackends route with
  | .error unsupported => do
    prune env route []
    setRouteCondition env route parent false "UnsupportedValue" unsupported
    pure ⟨none⟩
  | .ok backends => do
    let hostnames := admittedHostnames gw route cfg
    let desired := hostnames.map (routeChildName env.digest route.name)
    applyChildren env route cfg backends hostnames
    prune env route desired
    let c := translated route cfg desired
    setRouteCondition env route parent c.1 c.2.1 c.2.2
    pure ⟨some resyncInterval⟩

/-- `HTTPRouteReconciler.Reconcile`. -/
def reconcile (env : Env) (ns name : String) : M Result := do
  call env .getRoute
  let route ← Pass.read fun w => w.getRoute ns name
  match route with
  | none => pure ⟨none⟩
  | some route =>
    let attached ← resolveGateway env route
    match attached with
    | none =>
      prune env route []
      pure ⟨none⟩
    | some (gw, parent) =>
      match gatewayProxyConfig gw with
      | none =>
        prune env route []
        pure ⟨some dependencyRetry⟩
      | some cfg => translate env route gw parent cfg

end GatewayAPI

end NetbirdOperator
