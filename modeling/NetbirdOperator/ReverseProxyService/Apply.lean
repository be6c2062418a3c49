import Mathlib.Data.Int.Notation
import NetbirdOperator.ListCache
import NetbirdOperator.Mirror
import NetbirdOperator.ReverseProxyCluster.Model
import NetbirdOperator.ReverseProxyService.Model
import NetbirdOperator.Strings

/-!
# The ReverseProxyService mirror

`internal/controller/reverseproxyservice_mirror.go` and `GetProxyClusterByAddress` of
`internal/netbirdutil/cluster.go`. A ReverseProxyService object publishes Services through a proxy
cluster. In HTTP mode its backends become cluster targets, which are the business of
`ReverseProxyService.Model`. The other modes have one backend, an advertised LoadBalancer Service,
which becomes a host target: the NetworkResource its address is routed by.

Applying an object updates the service it has recorded, or creates one if NetBird answers that there
is none. Other than the other kinds it does not ask first whether the recorded one is still there.

What is read of the cluster is an input here, as is `ipFamilyOf`, the family of an IP address.

## Main results

* `ReverseProxyService.applyReverseProxyService_eq` — one request is stored, or none
-/

namespace NetbirdOperator

open ControlLoop Strings

namespace ReverseProxyService

open ReverseProxyCluster (IPFamily)

/-! ### Objects and services -/

/-- `ReverseProxyMode`. An unset mode is `http`. -/
inductive ReverseProxyMode where
  | http | tcp | tls | udp
  deriving DecidableEq, Repr

inductive CrowdsecMode where
  | off | observe | enforce
  deriving DecidableEq, Repr

/-- `AccessRestrictions` of an object. -/
structure AccessRestrictions where
  allowedCidrs : List String := []
  blockedCidrs : List String := []
  allowedCountries : List String := []
  blockedCountries : List String := []
  deriving DecidableEq, Repr

structure Spec where
  backends : List Backend
  mode : ReverseProxyMode := .http
  listenPort : Option ℤ := none
  proxyProtocol : Option Bool := none
  proxyCluster : String
  domain : String
  isPrivate : Option Bool := none
  accessGroups : List GroupReference := []
  crowdsecMode : Option CrowdsecMode := none
  accessRestrictions : Option AccessRestrictions := none
  passHostHeader : Option Bool := none
  rewriteRedirects : Option Bool := none
  deriving DecidableEq, Repr

/-- What a pass records. -/
structure Recorded where
  serviceID : Option ℕ := none
  serviceDomain : String := ""
  deriving DecidableEq, Repr

/-- The custom resource, without its uid. -/
abbrev CR := Object Spec (Mirror.Status Recorded)

/-- `api.ServiceRequestMode`. -/
inductive ServiceRequestMode where
  | http | tcp | tls | udp
  deriving DecidableEq, Repr

def ServiceRequestMode.text : ServiceRequestMode → String
  | .http => "http"
  | .tcp => "tcp"
  | .tls => "tls"
  | .udp => "udp"

/-- `api.AccessRestrictions`. -/
structure RequestRestrictions where
  crowdsecMode : Option CrowdsecMode := none
  allowedCidrs : Option (List String) := none
  blockedCidrs : Option (List String) := none
  allowedCountries : Option (List String) := none
  blockedCountries : Option (List String) := none
  deriving DecidableEq, Repr

/-- `api.ServiceRequest`, which is also what there is of a service in the account. -/
structure ServiceRequest where
  domain : String
  enabled : Bool
  mode : ServiceRequestMode
  name : String
  targets : List ServiceTarget
  passHostHeader : Option Bool
  rewriteRedirects : Option Bool
  isPrivate : Option Bool
  accessGroups : Option (List String)
  listenPort : Option ℤ
  accessRestrictions : Option RequestRestrictions
  deriving DecidableEq, Repr

/-- `api.ProxyCluster`. -/
structure ProxyCluster where
  id : String
  address : String
  deriving DecidableEq, Repr

/-- The account: the services, and the proxy clusters with the operator's cached list of them. -/
structure Account where
  services : Store ServiceRequest
  clusters : List ProxyCluster
  cache : ListCache ProxyCluster

abbrev World := Mirror.World Spec Recorded Account

/-- A NetworkResource object, with the value of its `netbird.io/loadbalancer` label. -/
structure NetworkResource where
  ns : String
  name : String
  loadBalancer : Option String
  address : String
  resourceID : String
  deriving DecidableEq, Repr

/-- What a pass reads of the cluster. -/
structure Reads extends Cluster where
  resources : List NetworkResource

/-- The calls of this kind that can fail. Those for a backend carry its position. -/
inductive MirrorCall where
  | listClusters | refreshClusters
  | backend (i : ℕ) (c : Call)
  | listResources (i : ℕ)
  | updateService | createService | deleteService
  deriving DecidableEq, Repr

abbrev MirrorErr := Mirror.Err MirrorCall

/-- The inputs of a pass that are not part of the world. -/
structure Env where
  now : ℕ
  groups : Groups
  reads : Reads
  ipFamilyOf : String → Option IPFamily
  fault : Mirror.Call MirrorCall → Option Fault

abbrev M := Pass Account MirrorErr

/-! ### Calls -/

/-- The call `c`, as far as it can fail. -/
abbrev call (env : Env) (c : MirrorCall) : M Unit := Mirror.call env.fault (.own c)

/-- The outcome of listing the proxy clusters at the call `c`. -/
def fetchClusters (env : Env) (c : MirrorCall) (a : Account) :
    Except MirrorErr (List ProxyCluster) :=
  match env.fault (.own c) with
  | none => .ok a.clusters
  | some f => .error (.api (.own c) f)

/-- `netbirdutil.GetProxyClusterByAddress`; `none` is `ErrProxyClusterNotFound`. -/
def getProxyClusterByAddress (env : Env) (address : String) : M (Option ProxyCluster) := fun a =>
  let r := a.cache.lookup env.now (fetchClusters env .listClusters a)
    (fetchClusters env .refreshClusters a) fun c => c.address == address
  (r.1, { a with cache := r.2 })

/-- `ReverseProxyServices.Update`; `false` is a 404. -/
def updateService (env : Env) (id : ℕ) (req : ServiceRequest) : M Bool := do
  call env .updateService
  let found ← Pass.read fun a => (a.services.get id).isSome
  Pass.modify fun a => { a with services := a.services.update id req }
  pure found

/-- `ReverseProxyServices.Create`, answered with a fresh id. -/
def createService (env : Env) (req : ServiceRequest) : M ℕ := do
  call env .createService
  let id ← Pass.read fun a => a.services.next
  Pass.modify fun a => { a with services := a.services.create req }
  pure id

/-- `ReverseProxyServices.Delete`. -/
def deleteService (env : Env) (id : ℕ) : M Unit := do
  call env .deleteService
  let found ← Pass.read fun a => a.services.get id
  match found with
  | none => Pass.throw (.notFound .deleteService)
  | some _ => Pass.modify fun a => { a with services := a.services.delete id }

/-! ### Sorting -/

section Sorting

variable {α : Type} (less : α → α → Bool)

/-- Move `x` to the left of the elements it is less than; the nearest of them is the head. -/
def insertBack (x : α) : List α → List α
  | [] => [x]
  | y :: ys => if less x y then y :: insertBack x ys else x :: y :: ys

/-- `sort.Slice`, by insertion, which is how it sorts short slices. -/
def sortSlice (xs : List α) : List α :=
  (xs.foldl (fun sorted x => insertBack less x sorted) []).reverse

end Sorting

/-- The comparison of `sortServiceTargets`: by host, which may be unset, and then by port. -/
def targetLess (t u : ServiceTarget) : Bool :=
  if t.host.getD "" ≠ u.host.getD "" then t.host.getD "" < u.host.getD "" else t.port < u.port

def sortServiceTargets (targets : List ServiceTarget) : List ServiceTarget :=
  sortSlice targetLess targets

/-- The comparison of `preferL4Resource`: IPv4 first, and then by name. -/
def resourceLess (ipFamilyOf : String → Option IPFamily) (r s : NetworkResource) : Bool :=
  if ipFamilyOf r.address ≠ ipFamilyOf s.address then ipFamilyOf r.address = some .ipv4
  else r.name < s.name

/-- `preferL4Resource`, on a list that is not empty. -/
def preferL4Resource (ipFamilyOf : String → Option IPFamily) (items : List NetworkResource) :
    Option NetworkResource :=
  (sortSlice (resourceLess ipFamilyOf) items).head?

/-! ### L4 backends -/

/-- The text of a Service's type. -/
def ServiceType.text : ServiceType → String
  | .loadBalancer => "LoadBalancer"
  | .other name => name

/-- The answer of the list of `resolveL4Backend`, once the Service and its port are known. -/
def resolveL4Resource (env : Env) (i : ℕ) (ns svcName : String) : Except MirrorErr String :=
  match env.fault (.own (.listResources i)) with
  | some f => .error (.api (.own (.listResources i)) f)
  | none =>
    let items := env.reads.resources.filter fun r => r.ns = ns ∧ r.loadBalancer = some svcName
    match preferL4Resource env.ipFamilyOf items with
    | none =>
      .error (.dependencyNotReady ("dependency not ready: Service " ++ ns ++ "/" ++ svcName ++
        " not advertised (no NetworkResource)"))
    | some pick =>
      if pick.resourceID = "" then
        .error (.dependencyNotReady ("dependency not ready: NetworkResource " ++ ns ++ "/" ++
          pick.name ++ " not ready (no NetBird resource id)"))
      else .ok pick.resourceID

/-- `resolveL4Backend`: the NetworkResource of the Service, the port, and that port's name. -/
def resolveL4Backend (env : Env) (i : ℕ) (ns svcName : String) (want : ℤ) :
    Except MirrorErr (String × ServicePort) :=
  match env.fault (.own (.backend i .getService)), env.reads.service ns svcName with
  | some f, _ => .error (.api (.own (.backend i .getService)) f)
  | none, none =>
    .error (.dependencyNotReady ("dependency not ready: Service " ++ ns ++ "/" ++ svcName ++
      " not found"))
  | none, some svc =>
    if svc.type ≠ .loadBalancer then
      .error (.invalid ("tcp/tls/udp modes require an advertised LoadBalancer backend: Service " ++
        ns ++ "/" ++ svcName ++ " is type " ++ svc.type.text ++
        " (the proxy relays L4 connections over the NetBird mesh, which routes only LoadBalancer" ++
        " addresses)"))
    else
      match svc.ports with
      | [] =>
        .error (.dependencyNotReady ("dependency not ready: Service " ++ ns ++ "/" ++ svcName ++
          " has no ports"))
      | first :: rest => do
        let resourceID ← resolveL4Resource env i ns svcName
        .ok (resourceID, backendPort first (first :: rest) want)

/-! ### The request -/

/-- `serviceMode`. -/
def serviceMode : ReverseProxyMode → ServiceRequestMode × ServiceTargetProtocol
  | .tcp => (.tcp, .tcp)
  | .tls => (.tls, .tcp)
  | .udp => (.udp, .udp)
  | .http => (.http, .http)

/-- The mode has a PROXY protocol option. -/
def takesProxyProtocol : ServiceRequestMode → Bool
  | .tcp | .tls => true
  | _ => false

/-- Connections of the mode are routed by the port they come in on. -/
def isPortRouted : ServiceRequestMode → Bool
  | .tcp | .udp => true
  | _ => false

/-- The label of a port: its name, or its number. -/
def portLabel (p : ServicePort) : String := if p.name = "" then toString p.port else p.name

/-- `portLabelDomain`: the host with the label at the end of its first one. -/
def portLabelDomain (host label : String) : String :=
  match cut host '.' with
  | (first, none) => first ++ "-" ++ label
  | (first, some rest) => first ++ "-" ++ label ++ "." ++ rest

/-- An error of the reads for backend `i`, as the mirror reports it. -/
def backendErr (i : ℕ) : Err → MirrorErr
  | .api c f => .api (.own (.backend i c)) f
  | .dependencyNotReady msg => .dependencyNotReady msg

/-- The body of the loop over the backends, for a mode that is not HTTP: the target, and the port
it is for. -/
def l4Target (env : Env) (o : CR) (i : ℕ) (b : Backend) :
    Except MirrorErr (ServiceTarget × String) :=
  do
  let (resourceID, p) ← resolveL4Backend env i o.ns b.serviceRef b.port
  let (mode, proto) := serviceMode o.spec.mode
  .ok
    ({ enabled := true
       host := none
       port := p.port
       protocol := proto
       targetType := .host
       targetID := resourceID
       options := if takesProxyProtocol mode then
           o.spec.proxyProtocol.map fun v => { proxyProtocol := some v }
         else none
       path := none }, portLabel p)

/-- The loop over the backends from position `i` on: the targets, and the label of the last port. -/
def renderTargets (env : Env) (o : CR) (address : String) :
    ℕ → String → List Backend → Except MirrorErr (List ServiceTarget × String)
  | _, label, [] => .ok ([], label)
  | i, label, b :: rest => do
    let (target, label) ←
      if (serviceMode o.spec.mode).1 = .http then
        ((httpTarget env.reads.toCluster (fun c => env.fault (.own (.backend i c))) address o.ns
          b).mapError (backendErr i)).map fun t => (t, label)
      else l4Target env o i b
    let (targets, label) ← renderTargets env o address (i + 1) label rest
    .ok (target :: targets, label)

/-- `accessRestrictionsFor`. -/
def accessRestrictionsFor (mode : Option CrowdsecMode) (ar : Option AccessRestrictions) :
    Option RequestRestrictions :=
  match mode, ar with
  | none, none => none
  | mode, ar =>
    let listed := fun l : List String => if l = [] then none else some l
    some
      { crowdsecMode := mode
        allowedCidrs := ar.bind fun ar => listed ar.allowedCidrs
        blockedCidrs := ar.bind fun ar => listed ar.blockedCidrs
        allowedCountries := ar.bind fun ar => listed ar.allowedCountries
        blockedCountries := ar.bind fun ar => listed ar.blockedCountries }

/-- The access groups of the request, which only a private HTTP service has. -/
def accessGroupIDs (env : Env) (o : CR) : Except MirrorErr (Option (List String)) :=
  if (serviceMode o.spec.mode).1 = .http ∧ o.spec.isPrivate = some true then do
    let ids ← (getGroupIDs env.groups o.spec.accessGroups o.ns).mapError .group
    .ok (if ids = [] then none else some ids)
  else .ok none

/-- The domain that is registered for an object with that port label. -/
def serviceDomain (spec : Spec) (label : String) : String :=
  if isPortRouted (serviceMode spec.mode).1 ∧ spec.listenPort ≠ none then
    portLabelDomain spec.domain label
  else spec.domain

/-- The request for an object, from its targets, the label of its port and its groups. -/
def requestOf (o : CR) (targets : List ServiceTarget) (label : String)
    (groups : Option (List String)) : ServiceRequest :=
  let mode := (serviceMode o.spec.mode).1
  { domain := serviceDomain o.spec label
    enabled := true
    mode := mode
    name := o.name
    targets := sortServiceTargets targets
    passHostHeader := o.spec.passHostHeader
    rewriteRedirects := o.spec.rewriteRedirects
    isPrivate := if mode = .http then o.spec.isPrivate else none
    accessGroups := groups
    listenPort := if mode = .http then none else o.spec.listenPort
    accessRestrictions := accessRestrictionsFor o.spec.crowdsecMode o.spec.accessRestrictions }

/-- The request for an object, served by the cluster with that address. -/
def serviceRequest (env : Env) (o : CR) (address : String) : Except MirrorErr ServiceRequest :=
  let mode := (serviceMode o.spec.mode).1
  if mode ≠ .http ∧ 1 < o.spec.backends.length then
    .error (.invalid ("mode " ++ mode.text ++
      " supports exactly one backend (NetBird relays L4 connections to a single target)"))
  else do
    let (targets, label) ← renderTargets env o address 0 "" o.spec.backends
    let groups ← accessGroupIDs env o
    .ok (requestOf o targets label groups)

/-- The request depends on the object by its name and its specification. -/
theorem serviceRequest_congr {env : Env} {o o' : CR} (hns : o'.ns = o.ns) (hname : o'.name = o.name)
    (hspec : o'.spec = o.spec) (address : String) :
    serviceRequest env o' address = serviceRequest env o address := by
  have htargets : ∀ (bs : List Backend) (i : ℕ) (label : String),
      renderTargets env o' address i label bs = renderTargets env o address i label bs := by
    intro bs
    induction bs with
    | nil => exact fun _ _ => rfl
    | cons b bs ih =>
      intro i label
      simp only [renderTargets, ih, l4Target, hspec, hns]
  simp only [serviceRequest, htargets, accessGroupIDs, requestOf, hspec, hns, hname]

/-! ### Apply and delete -/

/-- The cluster the object asks for. -/
def proxyCluster (env : Env) (o : CR) : M ProxyCluster := do
  let cluster ← getProxyClusterByAddress env o.spec.proxyCluster
  match cluster with
  | none =>
    Pass.throw (.dependencyNotReady ("dependency not ready: proxy cluster " ++
      o.spec.proxyCluster ++ " not found"))
  | some cluster => pure cluster

/-- Update the recorded service, or create one if none is recorded or it is gone. -/
def upsertService (env : Env) (req : ServiceRequest) : Option ℕ → M ℕ
  | none => createService env req
  | some id => do
    let updated ← updateService env id req
    if updated then pure id else createService env req

/-- `applyReverseProxyService`. -/
def applyReverseProxyService (env : Env) (o : CR) : M Recorded := do
  let cluster ← proxyCluster env o
  let req ← Pass.lift (serviceRequest env o cluster.address)
  let id ← upsertService env req o.status.recorded.serviceID
  pure ⟨some id, req.domain⟩

/-- `deleteReverseProxyService`. -/
def deleteReverseProxyService (env : Env) (o : CR) : M Unit :=
  match o.status.recorded.serviceID with
  | none => pure ()
  | some id => deleteService env id

/-- The kind, as the mirror reconciler drives it. -/
def mirror (env : Env) : Mirror Spec Recorded Account MirrorCall :=
  ⟨applyReverseProxyService env, fun _ _ => deleteReverseProxyService env⟩

/-- A pass over the object with that uid. -/
def reconcile (env : Env) (uid : ℕ) : Pass World MirrorErr Result :=
  Mirror.reconcile env.fault (mirror env) uid

/-! ### What an apply does -/

section

open Pass

variable {env : Env} {o : CR} {a : Account}

/-- The request an apply sends, if it gets that far. -/
def sentRequest (env : Env) (o : CR) (a : Account) : Option ServiceRequest :=
  match (proxyCluster env o a).1 with
  | .error _ => none
  | .ok cluster => (serviceRequest env o cluster.address).toOption

theorem sentRequest_eq_some {req : ServiceRequest} :
    sentRequest env o a = some req ↔ ∃ found : ProxyCluster,
      (proxyCluster env o a).1 = .ok found ∧ serviceRequest env o found.address = .ok req := by
  unfold sentRequest
  cases (proxyCluster env o a).1 with
  | error e => simp
  | ok found =>
    dsimp only
    cases hreq : serviceRequest env o found.address with
    | error e => simp [Except.toOption, hreq]
    | ok req' => simp [Except.toOption, hreq]

theorem proxyCluster_services (env : Env) (o : CR) (a : Account) :
    (proxyCluster env o a).2.services = a.services := by
  rw [proxyCluster, bind_apply]
  split
  · next found a' hget =>
    have hsame : a'.services = a.services := congrArg (fun r => r.2.services) hget.symm
    cases found with
    | none => exact hsame
    | some found => exact hsame
  · next e a' hget => exact congrArg (fun r => r.2.services) hget.symm

/-- The cluster that is found is the one at the address that was asked for. -/
theorem proxyCluster_ok {found : ProxyCluster} (h : (proxyCluster env o a).1 = .ok found) :
    found.address = o.spec.proxyCluster := by
  rw [proxyCluster, bind_apply] at h
  split at h
  · next cluster? a' hget =>
    cases cluster? with
    | none => cases h
    | some cluster =>
      obtain rfl := Except.ok.inj h
      have hanswer : (a.cache.lookup env.now (fetchClusters env .listClusters a)
          (fetchClusters env .refreshClusters a) fun c => c.address == o.spec.proxyCluster).1 =
          .ok (some cluster) := congrArg Prod.fst hget
      simpa using (ListCache.lookup_found (Prod.ext hanswer rfl)).1
  · cases h

/-- **What becomes of a request.** It replaces the recorded service; where none is recorded, or the
recorded one is gone, it becomes a new one. A call that fails leaves the services as they are. -/
inductive Stored (env : Env) (req : ServiceRequest) (recorded : Option ℕ)
    (services : Store ServiceRequest) : Except MirrorErr ℕ → Store ServiceRequest → Prop
  | updated {id : ℕ} (hrec : recorded = some id) (hhas : services.Has id)
      (hcall : env.fault (.own .updateService) = none) :
      Stored env req recorded services (.ok id) (services.update id req)
  | created
      (hgone : ∀ id, recorded = some id →
        ¬ services.Has id ∧ env.fault (.own .updateService) = none)
      (hcall : env.fault (.own .createService) = none) :
      Stored env req recorded services (.ok services.next) (services.create req)
  | notUpdated {id : ℕ} {f : Fault} (hrec : recorded = some id)
      (hcall : env.fault (.own .updateService) = some f) :
      Stored env req recorded services (.error (.api (.own .updateService) f)) services
  | notCreated {f : Fault}
      (hgone : ∀ id, recorded = some id →
        ¬ services.Has id ∧ env.fault (.own .updateService) = none)
      (hcall : env.fault (.own .createService) = some f) :
      Stored env req recorded services (.error (.api (.own .createService) f)) services

theorem Stored.get {req : ServiceRequest} {recorded : Option ℕ} {s s' : Store ServiceRequest}
    {id : ℕ} (h : Stored env req recorded s (.ok id) s') : s'.get id = some req := by
  cases h with
  | updated _ hhas _ => exact hhas.get_update req
  | created _ _ => exact s.get_create_next req

theorem createService_stored {req : ServiceRequest} {recorded : Option ℕ}
    (hgone : ∀ id, recorded = some id →
      ¬ a.services.Has id ∧ env.fault (.own .updateService) = none) :
    ∃ r s, Stored env req recorded a.services r s ∧
      createService env req a = (r, { a with services := s }) := by
  cases hcall : env.fault (.own .createService) with
  | none =>
    refine ⟨_, _, .created hgone hcall, ?_⟩
    rw [createService, bind_of_ok (call_of_none hcall a)]
    rfl
  | some f =>
    refine ⟨_, _, .notCreated hgone hcall, ?_⟩
    rw [createService, bind_of_error (call_of_some hcall a)]

/-- An upsert stores its request, or fails. -/
theorem upsertService_stored (env : Env) (req : ServiceRequest) (recorded : Option ℕ)
    (a : Account) :
    ∃ r s, Stored env req recorded a.services r s ∧
      upsertService env req recorded a = (r, { a with services := s }) := by
  cases recorded with
  | none => exact createService_stored fun id hid => by cases hid
  | some id =>
    cases hcall : env.fault (.own .updateService) with
    | some f =>
      refine ⟨_, _, .notUpdated rfl hcall, ?_⟩
      rw [upsertService, updateService, bind_of_error (bind_of_error (call_of_some hcall a))]
    | none =>
      have hupdate : updateService env id req a =
          (.ok (a.services.get id).isSome, { a with services := a.services.update id req }) := by
        rw [updateService, bind_of_ok (call_of_none hcall a)]
        rfl
      rw [upsertService, bind_of_ok hupdate]
      by_cases hhas : a.services.Has id
      · rw [if_pos (Store.isSome_get.mpr hhas)]
        exact ⟨_, _, .updated rfl hhas hcall, rfl⟩
      · -- An update that finds nothing changes nothing, and a create follows.
        rw [if_neg (mt Store.isSome_get.mp hhas), Store.update_of_not_has hhas]
        exact createService_stored fun id' hid => Option.some.inj hid ▸ ⟨hhas, hcall⟩

/-- **Nothing else is sent.** Once the proxy cluster and the request are there, the request is
stored; otherwise the apply gives up, and no service has changed. -/
theorem applyReverseProxyService_eq (env : Env) (o : CR) (a : Account) :
    match sentRequest env o a with
    | none => ∃ e, applyReverseProxyService env o a = (.error e, (proxyCluster env o a).2)
    | some req => ∃ r s, Stored env req o.status.recorded.serviceID a.services r s ∧
        applyReverseProxyService env o a =
          (r.map fun id => ⟨some id, req.domain⟩,
            { (proxyCluster env o a).2 with services := s }) := by
  unfold sentRequest applyReverseProxyService
  have hsame := proxyCluster_services env o a
  rcases hcluster : proxyCluster env o a with ⟨found, a'⟩
  rw [hcluster] at hsame
  cases found with
  | error e => exact ⟨e, bind_of_error hcluster⟩
  | ok cluster =>
    rw [bind_of_ok hcluster]
    dsimp only
    cases hreq : serviceRequest env o cluster.address with
    | error e => exact ⟨e, rfl⟩
    | ok req =>
      obtain ⟨r, s, hstored, hupsert⟩ :=
        upsertService_stored env req o.status.recorded.serviceID a'
      refine ⟨r, s, hsame ▸ hstored, (bind_lift_apply _ _ a').trans ?_⟩
      cases r with
      | error e => exact bind_of_error hupsert
      | ok id => exact bind_of_ok hupsert

end

end ReverseProxyService

end NetbirdOperator
