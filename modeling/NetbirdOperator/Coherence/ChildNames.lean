import Mathlib.Data.Set.Function
import NetbirdOperator.ClusterProxy.Model
import NetbirdOperator.Gateway.Model
import NetbirdOperator.GatewayAPI.Isolation
import NetbirdOperator.LoadBalancer.Model
import NetbirdOperator.NetworkRouter.PeerGroup
import NetbirdOperator.ReverseProxyCluster.Records

/-!
# The names of children

Every controller applies its children under names it makes of the owner's name, and takes over what
it finds there: the applies force ownership. Owners of different kinds may have children of one
kind, so the names have to keep them apart, whatever the owners are called.

## The distinction that decides it

A name is the owner's between a fixed beginning and a fixed end, and either may be empty. Two such
ways cannot give the same name if neither beginning starts with the other, or if neither end ends in
the other. If the beginnings and the ends both overlap, an owner's name can imitate them.
`schemes` is the table of all the ways, by the kind of the child; `schemes_apart` goes through it.
One pair overlaps: the SetupKey of a NetworkRouter has only an end, and that of a ClusterProxy only
a beginning.

The children of an HTTPRoute end in a digest, and are as different as the digests are.

## What is left out

The DNSZone of the load balancer controller is the operator's own. It has no owner, and it is under
the configured name in the operator's namespace.

## Main results

* `ChildNames.router_applies`, `proxy_applies` — what the passes apply is among them
* `ChildNames.schemes_apart` — the pair that overlaps
* `ChildNames.children_apart_iff` — the names are apart exactly if none imitates another
-/

namespace NetbirdOperator

open ControlLoop Strings

namespace ChildNames

/-! ### Owners and children -/

/-- An object that others are applied for. A route comes with the hostnames it is translated for. -/
inductive Owner where
  | service (svc : LoadBalancer.ObjectKey)
  | httpRoute (route : GatewayAPI.HTTPRoute) (hostnames : List String)
  | gateway (gw : GatewayAPI.Gateway)
  | reverseProxyCluster (rpc : ReverseProxyCluster.CR)
  | networkRouter (nr : NetworkRouter.CR)
  | clusterProxy (cp : ClusterProxy.CR)
  | setupKey (key : SetupKey.CR)

inductive OwnerKind where
  | service | httpRoute | gateway | reverseProxyCluster | networkRouter | clusterProxy | setupKey
  deriving DecidableEq, Repr

def Owner.kind : Owner → OwnerKind
  | .service _ => .service
  | .httpRoute _ _ => .httpRoute
  | .gateway _ => .gateway
  | .reverseProxyCluster _ => .reverseProxyCluster
  | .networkRouter _ => .networkRouter
  | .clusterProxy _ => .clusterProxy
  | .setupKey _ => .setupKey

def Owner.key : Owner → LoadBalancer.ObjectKey
  | .service svc => svc
  | .httpRoute route _ => ⟨route.ns, route.name⟩
  | .gateway gw => ⟨gw.ns, gw.name⟩
  | .reverseProxyCluster rpc => ⟨rpc.ns, rpc.name⟩
  | .networkRouter nr => ⟨nr.ns, nr.name⟩
  | .clusterProxy cp => ⟨cp.ns, cp.name⟩
  | .setupKey key => ⟨key.ns, key.name⟩

/-- The kind of a child. -/
inductive Kind where
  | setupKey | secret | deployment | daemonSet | group | service | dnsZone | dnsRecord
  | networkResource | reverseProxyCluster | reverseProxyService
  deriving DecidableEq, Repr

/-- What a child is for, if its owner has several of the kind. -/
inductive Role where
  | only
  | family (f : ReverseProxyCluster.IPFamily)
  | record (type : DNSRecord.RecordType)
  | catchAll
  | hostname (h : String)
  deriving DecidableEq, Repr

/-- An object that is applied, in the namespace of its owner. -/
structure Child where
  kind : Kind
  role : Role
  name : String
  deriving DecidableEq, Repr

/-- **The children of an owner**: every object that some pass over it applies. -/
def Owner.children (digest : String → String) : Owner → List Child
  | .service svc =>
    [⟨.networkResource, .family .ipv4, LoadBalancer.childName svc.name .ipv4⟩,
      ⟨.networkResource, .family .ipv6, LoadBalancer.childName svc.name .ipv6⟩,
      ⟨.dnsRecord, .family .ipv4, LoadBalancer.childName svc.name .ipv4⟩,
      ⟨.dnsRecord, .family .ipv6, LoadBalancer.childName svc.name .ipv6⟩]
  | .httpRoute route hostnames =>
    hostnames.map fun h =>
      ⟨.reverseProxyService, .hostname h, GatewayAPI.routeChildName digest route.name h⟩
  | .gateway gw => [⟨.reverseProxyCluster, .only, Gateway.proxyClusterNameForGateway gw⟩]
  | .reverseProxyCluster rpc =>
    [⟨.secret, .only, ReverseProxyCluster.proxyResourceName rpc⟩,
      ⟨.deployment, .only, ReverseProxyCluster.proxyResourceName rpc⟩,
      ⟨.service, .only, ReverseProxyCluster.proxyResourceName rpc⟩,
      ⟨.dnsRecord, .record .a, ReverseProxyCluster.proxyAddressRecordName rpc .a⟩,
      ⟨.dnsRecord, .record .aaaa, ReverseProxyCluster.proxyAddressRecordName rpc .aaaa⟩,
      ⟨.dnsRecord, .catchAll, ReverseProxyCluster.catchAllName rpc⟩] ++
    -- `ensureZone`: an object that refers to a zone has none of its own.
    if rpc.spec.zoneRef = none then
      [⟨.dnsZone, .only, ReverseProxyCluster.proxyResourceName rpc⟩] else []
  | .networkRouter nr =>
    -- `resolvePeerGroup`: an object that refers to a group deploys no peers.
    if nr.spec.peers.group = none then
      [⟨.group, .only, NetworkRouter.routerName nr⟩,
        ⟨.setupKey, .only, NetworkRouter.routerName nr⟩,
        ⟨.daemonSet, .only, NetworkRouter.routerName nr⟩]
    else []
  | .clusterProxy cp =>
    [⟨.setupKey, .only, ClusterProxy.resourceName cp⟩,
      ⟨.secret, .only, ClusterProxy.resourceName cp⟩,
      ⟨.deployment, .only, ClusterProxy.resourceName cp⟩]
  | .setupKey key => [⟨.secret, .only, SetupKey.secretName key.name⟩]

variable {digest : String → String} {o : Owner} {c : Child}

/-! ### What the passes apply -/

/-- A child of a router as an object of its namespace. -/
def ofRouter : NetworkRouter.Child → String × Child
  | .group ns name _ => (ns, ⟨.group, .only, name⟩)
  | .setupKey ns name _ _ _ => (ns, ⟨.setupKey, .only, name⟩)
  | .daemonSet ns name _ _ _ _ => (ns, ⟨.daemonSet, .only, name⟩)

/-- A child of a proxy as an object of its namespace. -/
def ofProxy : ClusterProxy.Child → String × Child
  | .setupKey ns name _ => (ns, ⟨.setupKey, .only, name⟩)
  | .secret ns name _ => (ns, ⟨.secret, .only, name⟩)
  | .deployment ns name _ => (ns, ⟨.deployment, .only, name⟩)

/-- The object is a child of the owner, in its namespace. -/
def IsChildOf (digest : String → String) (o : Owner) (nc : String × Child) : Prop :=
  nc.1 = o.key.ns ∧ nc.2 ∈ o.children digest

section Router

open Pass NetworkRouter

variable {env : Env} {nr : NetworkRouter.CR} {w₀ w : World}

theorem isChildOf_networkRouter (hgroup : nr.spec.peers.group = none) {child : NetworkRouter.Child}
    (h : child ∈ [groupChild nr, setupKeyChild nr, daemonSetChild env nr]) :
    IsChildOf digest (.networkRouter nr) (ofRouter child) := by
  rw [IsChildOf, Owner.children, if_pos hgroup]
  simp only [List.mem_cons, List.not_mem_nil, or_false] at h
  rcases h with rfl | rfl | rfl <;> exact ⟨rfl, by simp [ofRouter, groupChild, setupKeyChild,
    daemonSetChild]⟩

/-- From `w₀` on, only children of the router were applied. -/
def RouterApplies (digest : String → String) (nr : NetworkRouter.CR) (w₀ w : World) : Prop :=
  ∀ child, Sent.applied child ∈ w.sent →
    Sent.applied child ∈ w₀.sent ∨ IsChildOf digest (.networkRouter nr) (ofRouter child)

theorem RouterApplies.record (h : RouterApplies digest nr w₀ w) {s : Sent}
    (hs : ∀ child, s = .applied child → IsChildOf digest (.networkRouter nr) (ofRouter child)) :
    RouterApplies digest nr w₀ { w with sent := w.sent ++ [s] } := by
  intro child hchild
  rcases List.mem_append.mp hchild with hold | hnew
  · exact h child hold
  · exact Or.inr (hs child (List.mem_singleton.mp hnew).symm)

theorem resolvePeerGroup_applies (digest : String → String) (nr : NetworkRouter.CR) :
    Keeps (RouterApplies digest nr w₀) (resolvePeerGroup env nr) := by
  rw [resolvePeerGroup]
  cases hgroup : nr.spec.peers.group with
  | some g => exact Triple.of_unchanged (fun _ => rfl) fun _ _ => id
  | none =>
    have hchild : ∀ child ∈ [groupChild nr, setupKeyChild nr, daemonSetChild env nr], ∀ w,
        RouterApplies digest nr w₀ w → RouterApplies digest nr w₀ (w.withChild child) := by
      intro child hmem w hw
      refine hw.record fun child' h => ?_
      rw [← Sent.applied.inj h]
      exact isChildOf_networkRouter hgroup hmem
    exact stage_triple (hchild _ (by simp)) fun _ => stage_triple (hchild _ (by simp)) fun _ =>
      stage_triple (hchild _ (by simp)) fun _ _ hw => hw

theorem upsertRouter_applies (networkID : ℕ) (routerID : Option ℕ) (groupID : String)
    (spec : NetworkRouter.Spec) :
    Keeps (RouterApplies digest nr w₀) (upsertRouter env networkID routerID groupID spec) := by
  intro w hw
  by_cases hgo : UpsertGoesThrough env (w.networks networkID) routerID
  · obtain ⟨id, routers, hup⟩ := upsertRouter_of_goesThrough groupID spec hgo
    rw [hup]
    exact hw.record fun child h => by cases h
  · obtain ⟨e, hup⟩ := upsertRouter_of_not_goesThrough groupID spec hgo
    rw [hup]
    exact hw

theorem patch_applies {c : Call} {o : NetworkRouter.CR} :
    Keeps (RouterApplies digest nr w₀) (patch env c o) :=
  patch_triple fun _ _ hw => hw

theorem dependency_applies {o : NetworkRouter.CR} {e : Err} :
    Keeps (RouterApplies digest nr w₀) (dependency env o e) := by
  cases e with
  | dependencyNotReady msg => exact patch_applies.bind fun _ => keeps_pure _
  | api | notFound | group => exact keeps_throw _

theorem bindGroup_applies {o : NetworkRouter.CR} (networkID : ℕ) (groupID : String) :
    Keeps (RouterApplies digest nr w₀) (bindGroup env networkID o groupID) := by
  refine (upsertRouter_applies _ _ _ _).bind fun id => patch_applies.bind fun _ => ?_
  refine Keeps.bind (fun w hw => ?_) fun _ => keeps_pure _
  exact hw.record fun child h => by cases h

theorem reconcileLive_applies : Keeps (RouterApplies digest nr w₀) (reconcileLive env nr) := by
  refine patch_applies.bind fun _ => ?_
  dsimp only
  cases resolveNetworkID env nr.spec.networkRef with
  | error e => exact dependency_applies
  | ok networkID =>
    -- The object has the finalizer and its network by now, and the same children.
    have hresolve : Keeps (RouterApplies digest nr w₀)
        (resolvePeerGroup env (withNetwork { nr with finalizer := true } networkID)) :=
      resolvePeerGroup_applies digest (withNetwork { nr with finalizer := true } networkID)
    refine hresolve.observe.bind fun outcome => ?_
    cases outcome with
    | error e => exact dependency_applies
    | ok groupID => exact bindGroup_applies networkID groupID

theorem reconcileDelete_applies : Keeps (RouterApplies digest nr w₀) (reconcileDelete env nr) := by
  refine Keeps.bind ?_ fun _ => patch_applies.bind fun _ => keeps_pure _
  rw [deleteRecorded]
  split
  · exact Keeps.bind (call_triple fun _ _ => id) fun _ => keeps_modify fun _ hw => hw
  · exact keeps_pure _

/-- **What a pass over a router applies are its children.** -/
theorem router_applies (digest : String → String) (env : Env) (hcr : w.cr = some nr) :
    RouterApplies digest nr w (reconcile env w).2 := by
  have hstart : RouterApplies digest nr w w := fun _ => Or.inl
  rw [reconcile]
  cases hget : env.fault .get with
  | some f =>
    rw [bind_of_error (call_of_some hget w)]
    exact hstart
  | none =>
    rw [bind_of_ok (call_of_none hget w), bind_of_ok (read_apply _ w), hcr]
    dsimp only
    split
    · exact Triple.final reconcileDelete_applies hstart
    · exact Triple.final reconcileLive_applies hstart

end Router

section Proxy

open ClusterProxy

/-- **What a pass over a proxy applies are its children.** -/
theorem proxy_applies (digest : String → String) (env : Env) (w : World)
    {child : ClusterProxy.Child} (h : Sent.applied child ∈ (reconcile env w).2.sent) :
    Sent.applied child ∈ w.sent ∨
      ∃ cp, w.cr = some cp ∧ IsChildOf digest (.clusterProxy cp) (ofProxy child) := by
  cases reconcile_sends env w with
  | nothing hsent => exact Or.inl (hsent ▸ h)
  | @some cp n hcr hlive hkey hsent =>
    rw [hsent] at h
    rcases List.mem_append.mp h with hold | hnew
    · exact Or.inl hold
    · refine Or.inr ⟨cp, hcr, ?_⟩
      have hchild : child ∈ ClusterProxy.children env cp := by
        simpa [requests] using List.mem_of_mem_take hnew
      simp only [ClusterProxy.children, List.mem_cons, List.not_mem_nil, or_false] at hchild
      rcases hchild with rfl | rfl | rfl <;> exact ⟨rfl, by simp [ofProxy, Owner.children,
        setupKeyChild, secretChild, deploymentChild]⟩

end Proxy

/-! ### The table -/

/-- What a child is, and whose. -/
structure Scheme where
  owner : OwnerKind
  kind : Kind
  role : Role
  deriving DecidableEq, Repr

/-- How such children are named after their owners, but for those of a route. -/
def Scheme.affix (s : Scheme) : Affix :=
  match s.owner, s.role with
  | .service, .family .ipv4 => ⟨"", "-ipv4"⟩
  | .service, .family .ipv6 => ⟨"", "-ipv6"⟩
  | .gateway, .only => ⟨"gateway-", ""⟩
  | .reverseProxyCluster, .only => ⟨"reverseproxycluster-", ""⟩
  | .reverseProxyCluster, .record .a => ⟨"reverseproxycluster-", "-a"⟩
  | .reverseProxyCluster, .record .aaaa => ⟨"reverseproxycluster-", "-aaaa"⟩
  | .reverseProxyCluster, .catchAll => ⟨"reverseproxycluster-", "-catchall"⟩
  | .networkRouter, .only => ⟨"", "-router"⟩
  | .clusterProxy, .only => ⟨"clusterproxy-", ""⟩
  | .setupKey, .only => ⟨"setup-key-", ""⟩
  | _, _ => ⟨"", ""⟩

/-- The SetupKey of deployed peers. -/
def routerKey : Scheme := ⟨.networkRouter, .setupKey, .only⟩

/-- The SetupKey of a proxy. -/
def proxyKey : Scheme := ⟨.clusterProxy, .setupKey, .only⟩

/-- **What the owners have**, but for the children of a route. -/
def schemes : List Scheme :=
  [⟨.service, .networkResource, .family .ipv4⟩, ⟨.service, .networkResource, .family .ipv6⟩,
    ⟨.service, .dnsRecord, .family .ipv4⟩, ⟨.service, .dnsRecord, .family .ipv6⟩,
    ⟨.gateway, .reverseProxyCluster, .only⟩,
    ⟨.reverseProxyCluster, .secret, .only⟩, ⟨.reverseProxyCluster, .deployment, .only⟩,
    ⟨.reverseProxyCluster, .service, .only⟩, ⟨.reverseProxyCluster, .dnsZone, .only⟩,
    ⟨.reverseProxyCluster, .dnsRecord, .record .a⟩,
    ⟨.reverseProxyCluster, .dnsRecord, .record .aaaa⟩,
    ⟨.reverseProxyCluster, .dnsRecord, .catchAll⟩,
    ⟨.networkRouter, .group, .only⟩, routerKey, ⟨.networkRouter, .daemonSet, .only⟩,
    proxyKey, ⟨.clusterProxy, .secret, .only⟩, ⟨.clusterProxy, .deployment, .only⟩,
    ⟨.setupKey, .secret, .only⟩]

/-- **Names of one kind of objects overlap in one case.** -/
theorem schemes_apart : ∀ s ∈ schemes, ∀ t ∈ schemes, s.kind = t.kind →
    s.affix.Overlaps t.affix →
      s = t ∨ (s = routerKey ∧ t = proxyKey) ∨ (s = proxyKey ∧ t = routerKey) := by
  decide +kernel

/-- The line of the table for a child. -/
def schemeOf (o : Owner) (c : Child) : Scheme := ⟨o.kind, c.kind, c.role⟩

/-- The child is in the table, and is named as it says. -/
def Tabulated (o : Owner) (c : Child) : Prop :=
  schemeOf o c ∈ schemes ∧ c.name = (schemeOf o c).affix.name o.key.name

theorem append_hyphen {x t u : String} (h : "-" ++ t = u) : x ++ "-" ++ t = x ++ u := by
  rw [String.append_assoc, h]

theorem tabulated_service {svc : LoadBalancer.ObjectKey}
    (h : c ∈ (Owner.service svc).children digest) : Tabulated (.service svc) c := by
  have hname : ∀ {t u}, "-" ++ t = u → svc.name ++ "-" ++ t = (Affix.mk "" u).name svc.name :=
    fun h => (append_hyphen h).trans (Affix.name_end _ _).symm
  simp only [Owner.children, List.mem_cons, List.not_mem_nil, or_false] at h
  rcases h with rfl | rfl | rfl | rfl <;>
    exact ⟨by simp [schemeOf, Owner.kind, schemes], hname (by decide)⟩

theorem tabulated_reverseProxyCluster {rpc : ReverseProxyCluster.CR}
    (h : c ∈ (Owner.reverseProxyCluster rpc).children digest) :
    Tabulated (.reverseProxyCluster rpc) c := by
  have hname : ReverseProxyCluster.proxyResourceName rpc =
      (Affix.mk "reverseproxycluster-" "").name rpc.name := (Affix.name_begin _ _).symm
  simp only [Owner.children, List.mem_append, List.mem_cons, List.not_mem_nil, or_false,
    List.mem_ite_nil_right] at h
  rcases h with (rfl | rfl | rfl | rfl | rfl | rfl) | ⟨-, rfl⟩ <;>
    refine ⟨by simp [schemeOf, Owner.kind, schemes], ?_⟩
  · exact hname
  · exact hname
  · exact hname
  · exact append_hyphen (show "-" ++ "a" = "-a" by decide)
  · exact append_hyphen (show "-" ++ "aaaa" = "-aaaa" by decide)
  · rfl
  · exact hname

/-- The child of a route for one of its hostnames. -/
def OfRoute (digest : String → String) (o : Owner) (c : Child) : Prop :=
  ∃ route hostnames, o = .httpRoute route hostnames ∧ ∃ h ∈ hostnames,
    c = ⟨.reverseProxyService, .hostname h, GatewayAPI.routeChildName digest route.name h⟩

/-- **A child is a route's or in the table.** -/
theorem tabulated_or_ofRoute (h : c ∈ o.children digest) :
    Tabulated o c ∨ OfRoute digest o c := by
  cases o with
  | service svc => exact Or.inl (tabulated_service h)
  | reverseProxyCluster rpc => exact Or.inl (tabulated_reverseProxyCluster h)
  | httpRoute route hostnames =>
    rw [Owner.children, List.mem_map] at h
    obtain ⟨hostname, hmem, rfl⟩ := h
    exact Or.inr ⟨route, hostnames, rfl, hostname, hmem, rfl⟩
  | gateway gw =>
    rw [Owner.children, List.mem_singleton] at h
    subst h
    exact Or.inl ⟨by simp [schemeOf, Owner.kind, schemes], (Affix.name_begin _ _).symm⟩
  | networkRouter nr =>
    simp only [Owner.children, List.mem_ite_nil_right, List.mem_cons, List.not_mem_nil,
      or_false] at h
    obtain ⟨-, rfl | rfl | rfl⟩ := h <;> exact Or.inl
      ⟨by simp [schemeOf, Owner.kind, schemes, routerKey], (Affix.name_end _ _).symm⟩
  | clusterProxy cp =>
    simp only [Owner.children, List.mem_cons, List.not_mem_nil, or_false] at h
    rcases h with rfl | rfl | rfl <;> exact Or.inl
      ⟨by simp [schemeOf, Owner.kind, schemes, proxyKey], (Affix.name_begin _ _).symm⟩
  | setupKey key =>
    rw [Owner.children, List.mem_singleton] at h
    subst h
    exact Or.inl ⟨by simp [schemeOf, Owner.kind, schemes], (Affix.name_begin _ _).symm⟩

/-- Nothing in the table is of the kind that routes have. -/
theorem Tabulated.kind_ne (h : Tabulated o c) : c.kind ≠ .reverseProxyService :=
  (by decide : ∀ s ∈ schemes, s.kind ≠ .reverseProxyService) _ h.1

/-! ### Apart -/

/-- **Objects of one kind that are applied for different owners, or in different roles of one, have
different names.** -/
def Apart (digest : String → String) (owners : Set Owner) : Prop :=
  ∀ o ∈ owners, ∀ p ∈ owners, ∀ c ∈ o.children digest, ∀ d ∈ p.children digest,
    o.key.ns = p.key.ns → c.kind = d.kind → c.name = d.name → o = p ∧ c.role = d.role

/-- In a namespace there is one object of a kind and name. -/
def OnePerName (owners : Set Owner) : Prop := owners.InjOn fun o => (o.kind, o.key)

/-- The digests of the routes and hostnames of a namespace differ. -/
def DigestsApart (digest : String → String) (owners : Set Owner) : Prop :=
  ∀ r hs, .httpRoute r hs ∈ owners → ∀ r' hs', .httpRoute r' hs' ∈ owners → r.ns = r'.ns →
    ∀ h ∈ hs, ∀ h' ∈ hs', digest (r.name ++ "\x00" ++ h) = digest (r'.name ++ "\x00" ++ h') →
      r.name = r'.name ∧ h = h'

/-- The name of a router starts like a proxy's children are named, and the name of the proxy ends
like the router's children are. -/
def Imitates (router proxy : String) : Prop :=
  (router = "clusterproxy" ∧ proxy = "router") ∨ Shifted router "router" "clusterproxy" proxy

instance (router proxy : String) : Decidable (Imitates router proxy) :=
  inferInstanceAs (Decidable (_ ∨ _))

section Apart

variable {owners : Set Owner} {p : Owner} {d : Child} {nr : NetworkRouter.CR}
  {cp : ClusterProxy.CR}

theorem routerName_eq_iff :
    NetworkRouter.routerName nr = ClusterProxy.resourceName cp ↔ Imitates nr.name cp.name := by
  have hrouter : NetworkRouter.routerName nr = nr.name ++ "-" ++ "router" :=
    (append_hyphen (by decide)).symm
  have hproxy : ClusterProxy.resourceName cp = "clusterproxy" ++ "-" ++ cp.name :=
    congrArg (· ++ cp.name) (by decide : "clusterproxy-" = "clusterproxy" ++ "-")
  rw [hrouter, hproxy, hyphen_join_eq_iff, Imitates, eq_comm (a := "router")]
  refine or_congr_right (or_iff_left ?_)
  -- There is no hyphen in the word for the name of a router to end at.
  rintro ⟨m, hm, -⟩
  have hmem : '-' ∈ ("clusterproxy" : String).toList := by
    rw [hm, toList_hyphen_join]
    exact List.mem_append_right _ List.mem_cons_self
  exact absurd hmem (by decide)

/-- Children that are named in the same way and have the same name are of one owner. -/
theorem eq_of_schemeOf (hone : OnePerName owners) (ho : o ∈ owners) (hp : p ∈ owners)
    (hc : Tabulated o c) (hd : Tabulated p d) (hns : o.key.ns = p.key.ns)
    (hscheme : schemeOf o c = schemeOf p d) (hname : c.name = d.name) :
    o = p ∧ c.role = d.role := by
  rw [hc.2, hd.2, hscheme, Affix.name_inj] at hname
  refine ⟨hone ho hp ?_, congrArg Scheme.role hscheme⟩
  exact Prod.ext (congrArg Scheme.owner hscheme) (LoadBalancer.ObjectKey.ext hns hname)

/-- Children of routes that have the same name are of one route and hostname. -/
theorem eq_of_routes (hlen : ∀ x, (digest x).length = 8) (hdigest : DigestsApart digest owners)
    (hone : OnePerName owners) (ho : o ∈ owners) (hp : p ∈ owners) (hc : OfRoute digest o c)
    (hd : OfRoute digest p d) (hns : o.key.ns = p.key.ns) (hname : c.name = d.name) :
    o = p ∧ c.role = d.role := by
  obtain ⟨r, hs, rfl, h, hh, rfl⟩ := hc
  obtain ⟨r', hs', rfl, h', hh', rfl⟩ := hd
  obtain ⟨hroute, rfl⟩ := hdigest r hs ho r' hs' hp hns h hh h' hh'
    (GatewayAPI.digest_eq_of_routeChildName_eq hlen hname)
  exact ⟨hone ho hp (Prod.ext rfl (LoadBalancer.ObjectKey.ext hns hroute)), rfl⟩

theorem exists_networkRouter (h : o.kind = .networkRouter) : ∃ nr, o = .networkRouter nr := by
  cases o with
  | networkRouter nr => exact ⟨nr, rfl⟩
  | service | httpRoute | gateway | reverseProxyCluster | clusterProxy | setupKey => cases h

theorem exists_clusterProxy (h : o.kind = .clusterProxy) : ∃ cp, o = .clusterProxy cp := by
  cases o with
  | clusterProxy cp => exact ⟨cp, rfl⟩
  | service | httpRoute | gateway | reverseProxyCluster | networkRouter | setupKey => cases h

/-- A SetupKey of a router and one of a proxy have the same name only if the names of the two
imitate each other. -/
theorem imitates_of_keys (hc : c ∈ o.children digest) (hd : d ∈ p.children digest)
    (ho : schemeOf o c = routerKey) (hp : schemeOf p d = proxyKey) (hname : c.name = d.name) :
    ∃ nr cp, o = .networkRouter nr ∧ p = .clusterProxy cp ∧ nr.spec.peers.group = none ∧
      Imitates nr.name cp.name := by
  obtain ⟨nr, rfl⟩ := exists_networkRouter (congrArg Scheme.owner ho)
  obtain ⟨cp, rfl⟩ := exists_clusterProxy (congrArg Scheme.owner hp)
  simp only [Owner.children, List.mem_ite_nil_right, List.mem_cons, List.not_mem_nil,
    or_false] at hc hd
  have hrouter : c.name = NetworkRouter.routerName nr := by
    rcases hc.2 with rfl | rfl | rfl <;> rfl
  have hproxy : d.name = ClusterProxy.resourceName cp := by
    rcases hd with rfl | rfl | rfl <;> rfl
  refine ⟨nr, cp, rfl, rfl, hc.1, routerName_eq_iff.mp ?_⟩
  rw [← hrouter, ← hproxy, hname]

end Apart

/-- **The names are apart exactly if none imitates another**: no router that deploys its peers has a
name that makes its SetupKey the SetupKey of a proxy. -/
theorem children_apart_iff (digest : String → String) (owners : Set Owner)
    (hlen : ∀ x, (digest x).length = 8) (hone : OnePerName owners)
    (hdigest : DigestsApart digest owners) :
    Apart digest owners ↔
      ∀ nr cp, .networkRouter nr ∈ owners → .clusterProxy cp ∈ owners → nr.ns = cp.ns →
        nr.spec.peers.group = none → ¬ Imitates nr.name cp.name := by
  constructor
  · intro hapart nr cp hnr hcp hns hgroup himitates
    have hsame := hapart _ hnr _ hcp ⟨.setupKey, .only, NetworkRouter.routerName nr⟩
      (by simp [Owner.children, hgroup]) ⟨.setupKey, .only, ClusterProxy.resourceName cp⟩
      (by simp [Owner.children]) hns rfl (routerName_eq_iff.mpr himitates)
    cases hsame.1
  · intro hnone o ho p hp c hc d hd hns hkind hname
    rcases tabulated_or_ofRoute hc with htc | hrc
    · rcases tabulated_or_ofRoute hd with htd | ⟨r, hs, -, h, -, rfl⟩
      · have hoverlap : (schemeOf o c).affix.Overlaps (schemeOf p d).affix :=
          Affix.overlaps_of_name_eq (htc.2.symm.trans (hname.trans htd.2))
        rcases schemes_apart _ htc.1 _ htd.1 hkind hoverlap with heq | ⟨hr, hk⟩ | ⟨hk, hr⟩
        · exact eq_of_schemeOf hone ho hp htc htd hns heq hname
        · obtain ⟨nr, cp, rfl, rfl, hgroup, himitates⟩ := imitates_of_keys hc hd hr hk hname
          exact absurd himitates (hnone nr cp ho hp hns hgroup)
        · obtain ⟨nr, cp, rfl, rfl, hgroup, himitates⟩ := imitates_of_keys hd hc hr hk hname.symm
          exact absurd himitates (hnone nr cp hp ho hns.symm hgroup)
      · exact absurd hkind htc.kind_ne
    · rcases tabulated_or_ofRoute hd with htd | hrd
      · obtain ⟨r, hs, -, h, -, rfl⟩ := hrc
        exact absurd hkind.symm htd.kind_ne
      · exact eq_of_routes hlen hdigest hone ho hp hrc hrd hns hname

/-! ### A router and a proxy -/

/-- A router that deploys its peers. -/
def deployingRouter (name : String) : NetworkRouter.CR :=
  ⟨"edge", name, 1, false, false,
    { networkRef := ⟨"mesh", "edge"⟩, peers := { deploy := some {} } }, {}⟩

def proxyNamed (name : String) : ClusterProxy.CR :=
  ⟨"edge", name, 1, false, false, { clusterName := "prod", serviceAccountName := "proxy" }, {}⟩

/-- A router, a proxy, a Service and a route. -/
def neighbours (router proxy : String) : Set Owner :=
  {.networkRouter (deployingRouter router), .clusterProxy (proxyNamed proxy),
    .service ⟨"edge", "web"⟩, .httpRoute GatewayAPI.sampleRoute ["shop.foo.com"]}

theorem onePerName_neighbours (router proxy : String) : OnePerName (neighbours router proxy) := by
  rintro o ho p hp h
  simp only [neighbours, Set.mem_insert_iff, Set.mem_singleton_iff] at ho hp
  have hkind : o.kind = p.kind := congrArg Prod.fst h
  rcases ho with rfl | rfl | rfl | rfl <;> rcases hp with rfl | rfl | rfl | rfl <;>
    first | rfl | cases hkind

theorem digestsApart_neighbours (router proxy : String) :
    DigestsApart digest (neighbours router proxy) := by
  have hroute : ∀ r hs, Owner.httpRoute r hs ∈ neighbours router proxy →
      r = GatewayAPI.sampleRoute ∧ hs = ["shop.foo.com"] := by
    intro r hs hmem
    simpa [neighbours] using hmem
  intro r hs hr r' hs' hr' _ h hh h' hh' _
  obtain ⟨rfl, rfl⟩ := hroute r hs hr
  obtain ⟨rfl, rfl⟩ := hroute r' hs' hr'
  exact ⟨rfl, (List.mem_singleton.mp hh).trans (List.mem_singleton.mp hh').symm⟩

theorem children_apart_neighbours : Apart GatewayAPI.calm.digest (neighbours "exit" "api") := by
  refine (children_apart_iff _ _ (fun _ => by simp only [GatewayAPI.calm]; decide)
    (onePerName_neighbours _ _) (digestsApart_neighbours _ _)).mpr ?_
  intro nr cp hnr hcp _ _
  obtain rfl : nr = deployingRouter "exit" := by simpa [neighbours] using hnr
  obtain rfl : cp = proxyNamed "api" := by simpa [neighbours] using hcp
  decide

/-- The Group is there, and the SetupKey has no id yet. -/
def routerEnv : NetworkRouter.Env :=
  ⟨⟨fun _ => .error .notFound, fun _ => .error .notFound, fun _ _ => .ok "g1"⟩,
    fun _ => some (some 1), fun _ _ => some "", fun _ _ => none, "netbird", fun _ => none⟩

def proxyEnv : ClusterProxy.Env :=
  ⟨"token", "https://management", "proxy", "0a1b2c3d", fun _ _ => some "", fun _ => none⟩

/-- **A SetupKey of two owners.** The first passes over a router and a proxy in one namespace apply
the same SetupKey. -/
theorem setupKey_of_two_owners :
    OnePerName (neighbours "clusterproxy-x" "x-router") ∧
    DigestsApart GatewayAPI.calm.digest (neighbours "clusterproxy-x" "x-router") ∧
    ¬ Apart GatewayAPI.calm.digest (neighbours "clusterproxy-x" "x-router") ∧
    .applied (NetworkRouter.setupKeyChild (deployingRouter "clusterproxy-x")) ∈
      (NetworkRouter.reconcile routerEnv
        ⟨some (deployingRouter "clusterproxy-x"), fun _ => Store.empty, []⟩).2.sent ∧
    .applied (ClusterProxy.setupKeyChild proxyEnv (proxyNamed "x-router")) ∈
      (ClusterProxy.reconcile proxyEnv ⟨some (proxyNamed "x-router"), []⟩).2.sent ∧
    ofRouter (NetworkRouter.setupKeyChild (deployingRouter "clusterproxy-x")) =
      ofProxy (ClusterProxy.setupKeyChild proxyEnv (proxyNamed "x-router")) := by
  refine ⟨onePerName_neighbours _ _, digestsApart_neighbours _ _, fun hapart => ?_, ?_, ?_, ?_⟩
  · have hsame := hapart (.networkRouter (deployingRouter "clusterproxy-x")) (by simp [neighbours])
      (.clusterProxy (proxyNamed "x-router")) (by simp [neighbours])
      ⟨.setupKey, .only, "clusterproxy-x-router"⟩ (by decide)
      ⟨.setupKey, .only, "clusterproxy-x-router"⟩ (by decide) rfl rfl rfl
    cases hsame.1
  · decide
  · decide
  · decide

end ChildNames

end NetbirdOperator
