import NetbirdOperator.GatewayAPI.Admission
import NetbirdOperator.GatewayAPI.Passes

/-!
# What a route is exposed through

A pass of `HTTPRouteReconciler` writes ReverseProxyServices only for hostnames that a Gateway of the
operator's class admits, and the Gateway is one that a parent reference of the route names.

Naming is by namespace and name alone. The other fields of a parent reference are not read: neither
the listener it selects by section name or port, since any listener under the proxy's domain counts,
nor the kind it says it has (`parentRef_fields_not_read`).

## Main results

* `names_of_attachment` — the parent a pass settles on
* `reconcile_exposes_admitted` — every service a pass writes is for an admitted hostname
* `parentRef_fields_not_read` — two routes that are exposed through no parent they designate
-/

namespace NetbirdOperator

open ControlLoop Strings

namespace GatewayAPI

open Pass

variable {env : Env} {w : World} {gw : Gateway} {route : HTTPRoute} {cfg : GatewayProxy}
  {P : ReverseProxyService → Prop}

/-! ### The parent -/

/-- The reference names, by namespace and name, a Gateway of the operator's class. -/
def Names (w : World) (routeNs : String) (p : ParentReference) (gw : Gateway) : Prop :=
  w.getGateway (p.ns.getD routeNs) p.name = some gw ∧
    ∃ gc, w.getClass gw.gatewayClassName = some gc ∧ gc.controllerName = gatewayController

/-- **The parent.** It is one of the route's references, and names a Gateway of the class. -/
theorem names_of_attachment {p : ParentReference} (h : attachment w route = some (gw, p)) :
    p ∈ route.parentRefs ∧ Names w route.ns p gw := by
  obtain ⟨q, hq, hattach⟩ := List.exists_of_findSome?_eq_some h
  obtain ⟨gw', hgw, hrest⟩ := Option.bind_eq_some_iff.mp hattach
  obtain ⟨gc, hgc, hname⟩ := Option.bind_eq_some_iff.mp hrest
  split at hname
  · simp at hname
  · next hname' =>
    obtain ⟨rfl, rfl⟩ := Prod.mk.inj (Option.some.inj hname)
    exact ⟨hq, hgw, gc, hgc, not_not.mp hname'⟩

/-! ### What is written -/

/-- Every service was there before or satisfies `P`. -/
def Wrote (P : ReverseProxyService → Prop) (w w' : World) : Prop :=
  ∀ s ∈ w'.services, s ∈ w.services ∨ P s

/-- Dropping services writes nothing, and neither does setting a condition. What a pass writes are
the children it applies. -/
theorem closed_wrote (hP : ∀ gw parent cfg backends h, attachment w route = some (gw, parent) →
    gatewayProxyConfig gw = some cfg → h ∈ admittedHostnames gw route cfg →
      P (childOf env.digest route cfg backends h)) : Closed env.digest route w (Wrote P w) where
  drop _ _ _ _ _ _ hw t ht := hw t (List.mem_of_mem_filter ht)
  apply gw parent cfg backends h hattached hcfg hh w' hw t ht := by
    rcases mem_applyService ht with ht | rfl
    · exact hw t ht
    · exact Or.inr (hP gw parent cfg backends h hattached hcfg hh)
  condition _ _ _ hw := hw

/-! ### Admitted by one listener -/

/-- One listener under the domain matches the hostname and lets the namespace in. -/
def SomeListenerAdmits (gw : Gateway) (ns domain h : String) : Prop :=
  labels domain <:+ labels h ∧ ∃ l ∈ gw.listeners,
    Under domain l ∧ listenerHostnameMatches l.hostname h = true ∧ Permits gw l ns

/-- A concrete listener hostname matches itself. -/
theorem listenerHostnameMatches_self {h : String} (hpre : hasPrefix h "*." = false) :
    listenerHostnameMatches (some h) h = true := by
  by_cases hne : h = ""
  · simp [listenerHostnameMatches, hne]
  · simp [listenerHostnameMatches, hne, cutPrefix_eq_none.mpr hpre]

/-- Declared or inherited, an admitted hostname has a listener that admits it. -/
theorem someListenerAdmits_of_mem {h : String} (hh : h ∈ admittedHostnames gw route cfg) :
    SomeListenerAdmits gw route.ns cfg.domain h := by
  by_cases hdecl : route.hostnames = []
  · rw [admittedHostnames_inherited hdecl, List.mem_eraseDups, List.mem_filterMap] at hh
    obtain ⟨l, hl, hof⟩ := hh
    have hoffer := offered_eq_some.mp hof
    have hunder := hoffer.under
    obtain ⟨hlh, -, hpre, hsuffix, hpermits⟩ := hoffer
    refine ⟨hsuffix, l, hl, hunder, ?_, hpermits⟩
    rw [hlh]
    exact listenerHostnameMatches_self hpre
  · rw [admittedHostnames_declared hdecl, List.mem_eraseDups, List.mem_filter] at hh
    have hadmits := hh.2
    rw [gatewayAdmitsRoute, Bool.and_eq_true, hostnameUnderDomain_iff, List.any_eq_true] at hadmits
    obtain ⟨hsuffix, l, hl, htests⟩ := hadmits
    rw [Bool.and_eq_true, Bool.and_eq_true, listenerUnderDomain_iff, allowedRoutesPermits_iff]
      at htests
    exact ⟨hsuffix, l, hl, htests⟩

/-! ### A pass -/

/-- The service is the route's, for a hostname that a Gateway the route names as its parent admits
under the domain of its proxy. -/
def Exposes (w : World) (route : HTTPRoute) (s : ReverseProxyService) : Prop :=
  ∃ p ∈ route.parentRefs, ∃ gw, Names w route.ns p gw ∧
    ∃ cfg, gatewayProxyConfig gw = some cfg ∧ s.owner = some route.name ∧ s.ns = route.ns ∧
      s.proxyCluster = cfg.clusterAddress ∧ SomeListenerAdmits gw route.ns cfg.domain s.domain

/-- A child a pass applies is the route's, for an admitted hostname. -/
theorem exposes_childOf {parent : ParentReference} {backends : List ReverseProxyBackend}
    {h : String} (hattached : attachment w route = some (gw, parent))
    (hcfg : gatewayProxyConfig gw = some cfg) (hh : h ∈ admittedHostnames gw route cfg) :
    Exposes w route (childOf env.digest route cfg backends h) := by
  obtain ⟨hparent, hnames⟩ := names_of_attachment hattached
  exact ⟨parent, hparent, gw, hnames, cfg, hcfg, rfl, rfl, rfl, someListenerAdmits_of_mem hh⟩

/-- **A route is exposed only through a Gateway it names.** Whatever fails in a pass, a service that
was not there before, or not as it is now, is for a hostname admitted by a listener of a Gateway of
the operator's class that has the namespace and the name some parent reference of the route gives.
Any listener under the domain will do, whichever section or port the reference asks for. -/
theorem reconcile_exposes_admitted (env : Env) (ns name : String) (w : World)
    (s : ReverseProxyService) (hs : s ∈ (reconcile env ns name w).2.services)
    (hnew : s ∉ w.services) :
    ∃ route, w.getRoute ns name = some route ∧ Exposes w route s := by
  have hwrote : Wrote (fun s => ∃ route, w.getRoute ns name = some route ∧ Exposes w route s) w
      (reconcile env ns name w).2 := by
    refine reconcile_keeps (fun route hroute => ?_) fun _ => Or.inl
    refine closed_wrote fun gw parent cfg backends h hattached hcfg hh => ⟨route, hroute, ?_⟩
    exact exposes_childOf hattached hcfg hh
  exact (hwrote s hs).resolve_left hnew

/-- `sampleRoute` with one backend and one parent reference. -/
def routeTo (p : ParentReference) : HTTPRoute :=
  { sampleRoute with parentRefs := [p], rules := [⟨[], [], [{ name := "shop", port := some 80 }]⟩] }

/-- The route and the Gateway `sampleGateway`, before the first pass. -/
def worldOf (route : HTTPRoute) : World :=
  ⟨[⟨"netbird", gatewayController⟩], [sampleGateway], [route], []⟩

/-- No call fails. -/
def calm : Env := ⟨fun _ => none, fun _ => "0a1b2c3d"⟩

/-- The listener that redirects to HTTPS. -/
def toRedirect : ParentReference := { name := "main", sectionName := some "redirect" }

/-- The one service of the sample's first pass is for the name under the domain. -/
theorem reconcile_exposes_admitted_redirect :
    ∃ route, (worldOf (routeTo toRedirect)).getRoute "edge" "shop" = some route ∧
      Exposes (worldOf (routeTo toRedirect)) route
        (childOf calm.digest (routeTo toRedirect) ⟨"foo.com", "gate.foo.com", "cert", "proxy"⟩
          [⟨"shop", "/", some 80⟩] "shop.foo.com") :=
  reconcile_exposes_admitted calm "edge" "shop" (worldOf (routeTo toRedirect)) _ (by decide)
    (by decide)

/-! ### What the reference says besides -/

/-- The reference is to a Gateway, which is what an unset group and kind mean. -/
def ParentReference.DenotesGateway (p : ParentReference) : Prop :=
  p.group.getD "gateway.networking.k8s.io" = "gateway.networking.k8s.io" ∧
    p.kind.getD "Gateway" = "Gateway"

/-- The reference selects the listener. -/
def ParentReference.Selects (p : ParentReference) (l : Listener) : Prop :=
  (∀ n, p.sectionName = some n → n = l.name) ∧ ∀ n, p.port = some n → n = l.port

/-- The hostname is admitted by a listener that a reference of the route selects, of a Gateway that
the reference denotes. -/
def Designated (w : World) (route : HTTPRoute) (h : String) : Prop :=
  ∃ p ∈ route.parentRefs, p.DenotesGateway ∧ ∃ gw, Names w route.ns p gw ∧
    ∃ cfg, gatewayProxyConfig gw = some cfg ∧ ∃ l ∈ gw.listeners, p.Selects l ∧
      Under cfg.domain l ∧ listenerHostnameMatches l.hostname h = true ∧ Permits gw l route.ns

/-- A mesh Service that has the Gateway's name. -/
def toService : ParentReference := { group := some "", kind := some "Service", name := "main" }

theorem not_designated_toService (h : String) :
    ¬ Designated (worldOf (routeTo toService)) (routeTo toService) h := by
  rintro ⟨p, hp, hdenotes, -⟩
  obtain rfl := List.mem_singleton.mp hp
  exact absurd hdenotes.2 (by decide)

theorem not_designated_toRedirect (h : String) :
    ¬ Designated (worldOf (routeTo toRedirect)) (routeTo toRedirect) h := by
  rintro ⟨p, hp, -, gw, hnames, cfg, -, l, hl, hselects, ⟨lh, hlh, -⟩, -⟩
  obtain rfl := List.mem_singleton.mp hp
  have hgw : gw = sampleGateway := (Option.some.inj hnames.1).symm
  rw [hgw] at hl
  -- The listener of that section has no hostname, so it is under no domain.
  rcases List.mem_cons.mp hl with rfl | hl
  · exact absurd hlh (by simp)
  · obtain rfl := List.mem_singleton.mp hl
    exact absurd (hselects.1 "redirect" rfl) (by decide)

/-- **The reference designates less than the pass takes it for.** A route whose only parent is a
mesh Service, and a route whose only parent is a listener without a hostname, are both exposed
through the Gateway's other listener. -/
theorem parentRef_fields_not_read :
    ((reconcile calm "edge" "shop" (worldOf (routeTo toService))).2.services.map
        (fun s => s.domain) = ["shop.foo.com"] ∧
      ¬ Designated (worldOf (routeTo toService)) (routeTo toService) "shop.foo.com") ∧
    ((reconcile calm "edge" "shop" (worldOf (routeTo toRedirect))).2.services.map
        (fun s => s.domain) = ["shop.foo.com"] ∧
      ¬ Designated (worldOf (routeTo toRedirect)) (routeTo toRedirect) "shop.foo.com") :=
  ⟨⟨by decide, not_designated_toService _⟩, by decide, not_designated_toRedirect _⟩

end GatewayAPI

end NetbirdOperator
