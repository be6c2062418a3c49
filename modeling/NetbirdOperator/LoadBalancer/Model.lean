import Mathlib.Data.List.AList
import NetbirdOperator.DNSRecord.Model
import NetbirdOperator.DNSZone.Model
import NetbirdOperator.ReverseProxyCluster.Model
import NetbirdOperator.Strings

/-!
# The LoadBalancer controller

`internal/controller/loadbalancer_controller.go`, with the helpers of `serviceaddr.go`. A Service of
type LoadBalancer that is to be advertised gets, for each IP family among its ingress addresses, a
NetworkResource that makes the address routable and a DNSRecord that names it. Both are children of
the Service: they are applied under the name `childName` makes of the Service and the family, and
found again by the `netbird.io/loadbalancer` label.

Objects are kept by namespace and name, so two objects of one kind never have the same. Which family
a text is an address of, `net.ParseIP` in the source, is part of the `Env` of a pass: nothing is
assumed of it.

## What is left out

A child whose deletion was asked for counts as gone; its own controller holds it back until the
NetBird side is cleaned up. Server-side apply writes all the fields of a child this controller owns,
and the fields of other managers are not part of the model. The events a pass records on the Service
are not either.

## Main definitions

* `LoadBalancer.World`, `Env`, `Config` — state, inputs and operator configuration
* `LoadBalancer.lbIngressAddresses`, `shouldAdvertise`, `resourceGroups` — what a pass reads off
* `LoadBalancer.prune`, `reconcile` — the source functions
-/

namespace NetbirdOperator

open ControlLoop Strings

namespace LoadBalancer

open ReverseProxyCluster (IPFamily FamilyAddress)

/-! ### Objects -/

/-- `client.ObjectKey`. -/
@[ext]
structure ObjectKey where
  ns : String
  name : String
  deriving DecidableEq, Repr

/-- Objects of one kind. -/
abbrev Objects (α : Type) := AList fun _ : ObjectKey => α

/-- The annotations this controller reads, on a Service or on a Namespace. -/
structure Annotations where
  advertise : Option String := none
  groups : Option String := none
  deriving DecidableEq, Repr

/-- A Service: whether its type is LoadBalancer, and the IPs of its ingress entries. An entry that
has a hostname only has an empty one. -/
structure Service where
  loadBalancer : Bool
  deleting : Bool := false
  annotations : Annotations := {}
  ingress : List String
  deriving DecidableEq, Repr

/-- The spec of a NetworkResource. -/
structure ResourceSpec where
  networkRef : CrossNamespaceReference
  name : String
  address : String
  enabled : Bool
  groups : List GroupReference
  deriving DecidableEq, Repr

/-- A NetworkResource or a DNSRecord: the value of its `netbird.io/loadbalancer` label, the Service
that controls it, and its spec. -/
structure Child (S : Type) where
  loadBalancer : Option String
  owner : Option String
  spec : S
  deriving DecidableEq, Repr

/-- A write of a pass to a child. -/
inductive Write where
  | resource (key : ObjectKey) (child : Child ResourceSpec)
  | record (key : ObjectKey) (child : Child DNSRecord.Spec)
  deriving DecidableEq, Repr

/-- What a pass works on. The last field is a record of what was applied, which no pass reads. -/
structure World where
  services : Objects Service
  namespaces : AList fun _ : String => Annotations
  networks : List CrossNamespaceReference
  zones : Objects DNSZone.Spec
  resources : Objects (Child ResourceSpec)
  records : Objects (Child DNSRecord.Spec)
  applied : List Write

/-- The configuration of the operator. -/
structure Config where
  defaultAdvertise : Bool
  ns : String
  network : String
  dnsZone : String
  dnsZoneGroups : List String := []
  defaultGroups : List String := []
  deriving DecidableEq, Repr

/-- The calls of a pass that can fail. The applies carry the position of the address. -/
inductive Call where
  | getService | getNamespace | listNetworks | applyZone | listResources | listRecords
  | applyResource (i : ℕ)
  | applyRecord (i : ℕ)
  | deleteResource (key : ObjectKey)
  | deleteRecord (key : ObjectKey)
  deriving DecidableEq, Repr

inductive Err where
  | api (c : Call) (f : Fault)
  | dependencyNotReady (msg : String)
  deriving DecidableEq, Repr

/-- The inputs of a pass that are not part of the world. -/
structure Env where
  cfg : Config
  ipFamilyOf : String → Option IPFamily
  fault : Call → Option Fault

abbrev M := Pass World Err

/-- The call `c`, as far as it can fail. -/
abbrev call (env : Env) (c : Call) : M Unit := Pass.call (env.fault c) (.api c)

/-! ### Addresses and names -/

/-- The text of an IP family. -/
def familyText : IPFamily → String
  | .ipv4 => "IPv4"
  | .ipv6 => "IPv6"

/-- `childName`, with the family in lower case. -/
def childName (svcName : String) : IPFamily → String
  | .ipv4 => svcName ++ "-" ++ "ipv4"
  | .ipv6 => svcName ++ "-" ++ "ipv6"

/-- `dnsRecordTTL`, in seconds. -/
def dnsRecordTTL : ℕ := 5 * 60

def serviceFQDN (svcName svcNamespace zoneDomain : String) : String :=
  svcName ++ "-" ++ svcNamespace ++ "." ++ zoneDomain

/-- The record type of a family. -/
def recordTypeOf : IPFamily → DNSRecord.RecordType
  | .ipv4 => .a
  | .ipv6 => .aaaa

/-- `dnsRecordTypeFor`. -/
def dnsRecordTypeFor (ipFamilyOf : String → Option IPFamily) (ip : String) :
    Option DNSRecord.RecordType :=
  (ipFamilyOf ip).map recordTypeOf

/-- The body of the loop of `lbIngressAddresses`. -/
def ingressAddress (ipFamilyOf : String → Option IPFamily) (ip : String) : Option FamilyAddress :=
  if ip = "" then none else (ipFamilyOf ip).map fun family => ⟨family, ip⟩

/-- `lbIngressAddresses`. -/
def lbIngressAddresses (ipFamilyOf : String → Option IPFamily) (svc : Service) :
    List FamilyAddress :=
  svc.ingress.filterMap (ingressAddress ipFamilyOf)

/-! ### Annotations -/

/-- `shouldAdvertise`: the Service's annotation, then the Namespace's, then the default. -/
def shouldAdvertise (svc : Service) (ns : Annotations) (default : Bool) : Bool :=
  match svc.annotations.advertise, ns.advertise with
  | some v, _ => v == "true"
  | none, some v => v == "true"
  | none, none => default

/-- The Service is to be advertised: it is a LoadBalancer, stays, and is not opted out. -/
def advertised (cfg : Config) (svc : Service) (ns : Annotations) : Bool :=
  svc.loadBalancer && !svc.deleting && shouldAdvertise svc ns cfg.defaultAdvertise

/-- `annotation`, for the groups: that of the Service, or else that of the Namespace. -/
def groupsValue (annotations ns : Annotations) : String :=
  match annotations.groups with
  | some v => v
  | none => ns.groups.getD ""

/-- The groups that the value of the annotation names. -/
def decode (v : String) : List String := ((split v ',').map trimSpace).filter fun g => g ≠ ""

/-- The groups of a Service with these annotations: those of the annotation, or the default ones. -/
def annotatedGroups (cfg : Config) (annotations ns : Annotations) : List String :=
  if groupsValue annotations ns = "" then cfg.defaultGroups
  else decode (groupsValue annotations ns)

/-- `resourceGroups`. -/
def resourceGroups (cfg : Config) (svc : Service) (ns : Annotations) : List String :=
  annotatedGroups cfg svc.annotations ns

/-- `groupReferences`. -/
def groupReferences (names : List String) : List GroupReference :=
  names.map fun n => { name := some n }

/-! ### Dependencies -/

/-- `resolveNetwork`: the first Network of the configured name, in any namespace. -/
def resolveNetwork (env : Env) : M CrossNamespaceReference := do
  call env .listNetworks
  let network ← Pass.read fun w => w.networks.find? fun n => n.name = env.cfg.network
  match network with
  | some network => pure network
  | none =>
    Pass.throw (.dependencyNotReady ("dependency not ready: Network \"" ++ env.cfg.network ++
      "\" not found"))

/-- `ensureZone`: apply the operator's zone, named after the domain it resolves. -/
def ensureZone (env : Env) : M CrossNamespaceReference :=
  if env.cfg.dnsZone = "" then
    Pass.throw (.dependencyNotReady "dependency not ready: no LoadBalancer DNSZone configured")
  else do
    call env .applyZone
    Pass.modify fun w =>
      { w with
        zones := w.zones.insert ⟨env.cfg.ns, env.cfg.dnsZone⟩
          { name := env.cfg.dnsZone
            domain := env.cfg.dnsZone
            distributionGroups := groupReferences env.cfg.dnsZoneGroups
            enabled := true } }
    pure ⟨env.cfg.dnsZone, env.cfg.ns⟩

/-! ### Children -/

/-- The key of a Service's child for a family. -/
def childKeyOf (key : ObjectKey) (family : IPFamily) : ObjectKey :=
  ⟨key.ns, childName key.name family⟩

/-- What the children of one pass share. -/
structure Plan where
  key : ObjectKey
  network : CrossNamespaceReference
  zone : CrossNamespaceReference
  groups : List GroupReference
  deriving DecidableEq, Repr

def Plan.childKey (plan : Plan) (family : IPFamily) : ObjectKey := childKeyOf plan.key family

/-- The NetworkResource for an address. -/
def Plan.resource (plan : Plan) (fa : FamilyAddress) : Child ResourceSpec where
  loadBalancer := some plan.key.name
  owner := some plan.key.name
  spec :=
    { networkRef := plan.network
      name := plan.key.name ++ "-" ++ plan.key.ns ++ "-" ++ familyText fa.family
      address := fa.address
      enabled := true
      groups := plan.groups }

/-- The DNSRecord for an address. The zone's name is its domain. -/
def Plan.record (plan : Plan) (type : DNSRecord.RecordType) (fa : FamilyAddress) :
    Child DNSRecord.Spec where
  loadBalancer := some plan.key.name
  owner := some plan.key.name
  spec :=
    { zoneRef := plan.zone
      name := serviceFQDN plan.key.name plan.key.ns plan.zone.name
      type := type
      content := fa.address
      ttl := dnsRecordTTL }

/-- Server-side apply of a NetworkResource. -/
def World.applyResource (w : World) (key : ObjectKey) (child : Child ResourceSpec) : World :=
  { w with
    resources := w.resources.insert key child
    applied := w.applied ++ [.resource key child] }

/-- Server-side apply of a DNSRecord. -/
def World.applyRecord (w : World) (key : ObjectKey) (child : Child DNSRecord.Spec) : World :=
  { w with
    records := w.records.insert key child
    applied := w.applied ++ [.record key child] }

/-- The loop over the ingress addresses, from position `i` on. -/
def applyChildren (env : Env) (plan : Plan) : ℕ → List FamilyAddress → M Unit
  | _, [] => pure ()
  | i, fa :: rest =>
    match dnsRecordTypeFor env.ipFamilyOf fa.address with
    | none => applyChildren env plan (i + 1) rest
    | some type => do
      call env (.applyResource i)
      Pass.modify fun w => w.applyResource (plan.childKey fa.family) (plan.resource fa)
      call env (.applyRecord i)
      Pass.modify fun w => w.applyRecord (plan.childKey fa.family) (plan.record type fa)
      applyChildren env plan (i + 1) rest

/-- The names that loop has applied at its end. -/
def desiredNames (ipFamilyOf : String → Option IPFamily) (svcName : String)
    (ingress : List FamilyAddress) : List String :=
  (ingress.filter fun fa => (dnsRecordTypeFor ipFamilyOf fa.address).isSome).map fun fa =>
    childName svcName fa.family

/-- The keys of the children of a Service, by their label. -/
def labelled {S : Type} (key : ObjectKey) (objects : Objects (Child S)) : List ObjectKey :=
  (objects.entries.filter fun e => e.1.ns = key.ns ∧ e.2.loadBalancer = some key.name).map (·.1)

/-- A loop of `prune`: delete the listed children that are not desired. One that is not there any
more is not an error. -/
def deleteUndesired (env : Env) (c : ObjectKey → Call) (delete : ObjectKey → World → World)
    (desired : List String) : List ObjectKey → M Unit
  | [] => pure ()
  | k :: rest =>
    if desired.contains k.name then deleteUndesired env c delete desired rest
    else do
      call env (c k)
      Pass.modify (delete k)
      deleteUndesired env c delete desired rest

def World.deleteResource (key : ObjectKey) (w : World) : World :=
  { w with resources := w.resources.erase key }

def World.deleteRecord (key : ObjectKey) (w : World) : World :=
  { w with records := w.records.erase key }

/-- `prune`: delete the Service's children that are not desired. -/
def prune (env : Env) (key : ObjectKey) (desired : List String) : M Unit := do
  call env .listResources
  let resources ← Pass.read fun w => labelled key w.resources
  deleteUndesired env .deleteResource World.deleteResource desired resources
  call env .listRecords
  let records ← Pass.read fun w => labelled key w.records
  deleteUndesired env .deleteRecord World.deleteRecord desired records

/-! ### Reconcile -/

/-- The end of the pass, once the dependencies are there. -/
def fanOut (env : Env) (plan : Plan) (ingress : List FamilyAddress) : M Result := do
  applyChildren env plan 0 ingress
  prune env plan.key (desiredNames env.ipFamilyOf plan.key.name ingress)
  pure ⟨some resyncInterval⟩

/-- The pass over a Service that is to be advertised and has addresses. Whatever is wrong with the
Network or the zone, the pass ends well and is repeated soon. -/
def advertise (env : Env) (key : ObjectKey) (svc : Service) (ns : Annotations)
    (ingress : List FamilyAddress) : M Result := do
  let network ← Pass.observe (resolveNetwork env)
  match network with
  | .error _ => pure ⟨some dependencyRetry⟩
  | .ok network =>
    let zone ← Pass.observe (ensureZone env)
    match zone with
    | .error _ => pure ⟨some dependencyRetry⟩
    | .ok zone =>
      fanOut env ⟨key, network, zone, groupReferences (resourceGroups env.cfg svc ns)⟩ ingress

/-- The pass over a Service that is there, with its Namespace. -/
def reconcileService (env : Env) (key : ObjectKey) (svc : Service) (ns : Annotations) : M Result :=
  if advertised env.cfg svc ns then
    match lbIngressAddresses env.ipFamilyOf svc with
    | [] => pure ⟨none⟩
    | fa :: rest => advertise env key svc ns (fa :: rest)
  else do
    prune env key []
    pure ⟨none⟩

/-- `LoadBalancerReconciler.Reconcile`. -/
def reconcile (env : Env) (key : ObjectKey) : M Result := do
  call env .getService
  let svc ← Pass.read fun w => w.services.lookup key
  match svc with
  | none => pure ⟨none⟩
  | some svc =>
    call env .getNamespace
    let ns ← Pass.read fun w => w.namespaces.lookup key.ns
    match ns with
    | none => pure ⟨none⟩
    | some ns => reconcileService env key svc ns

end LoadBalancer

end NetbirdOperator
