import NetbirdOperator.Gateway.Model
import NetbirdOperator.GatewayAPI.Admission

/-!
# Attached routes

Whether a route attaches to a Gateway is decided twice. The route's own pass asks
`gatewayAdmitsRoute` of each hostname, which tests the hostname against the proxy's domain before it
looks at the listeners. The Gateway's status counts the routes of each listener under the domain
with `listenerAttachedRoutes`, which looks at the listener and never at the domain.

The two agree because a hostname that matches a listener under the domain is under the domain
itself: through a concrete hostname it is the listener's, and through a wildcard it ends in what the
wildcard stands before, which ends in the domain (`hostnameUnderDomain_of_matches`). So a count of
zero at every listener and an admitted hostname never go together.

A route without hostnames is counted by every listener that lets its namespace in, wildcards
included, and gets a hostname only from the concrete ones. There the agreement is one way.

## Main results

* `Gateway.hostnameUnderDomain_of_matches` — matching passes the domain on
* `Gateway.attachedRoutes_agree` — listeners count what is admitted
-/

namespace NetbirdOperator

open Strings

namespace Gateway

open GatewayAPI (GatewayProxy HTTPRoute Listener gatewayAdmitsRoute admittedHostnames
  listenerUnderDomain listenerHostnameMatches hostnameUnderDomain
  allowedRoutesPermits)

variable {gw : GatewayAPI.Gateway} {route : HTTPRoute} {cfg : GatewayProxy} {l : Listener}
  {h domain : String}

/-! ### Matching and the domain -/

/-- **Matching passes the domain on**: what matches a listener under the domain is under it. -/
theorem hostnameUnderDomain_of_matches (hl : listenerUnderDomain l domain = true)
    (hh : listenerHostnameMatches l.hostname h = true) : hostnameUnderDomain h domain = true := by
  obtain ⟨lh, hlh, hne, hsuffix⟩ := GatewayAPI.listenerUnderDomain_iff.mp hl
  rw [hlh, listenerHostnameMatches, if_neg hne] at hh
  rw [GatewayAPI.hostnameUnderDomain_iff]
  rw [trimPrefix] at hsuffix
  cases hcut : cutPrefix lh "*." with
  | none =>
    rw [hcut] at hh hsuffix
    obtain rfl : lh = h := by simpa using hh
    exact hsuffix
  | some s =>
    rw [hcut] at hh hsuffix
    obtain ⟨hends, -⟩ := Bool.and_eq_true_iff.mp hh
    exact hsuffix.trans (labels_suffix_iff.mpr (Or.inr hends))

/-! ### One route -/

/-- The listener counts the route. -/
def Counts (gw : GatewayAPI.Gateway) (l : Listener) (route : HTTPRoute) : Prop :=
  listenerAttachedRoutes gw l [route] = 1

theorem counts_iff_countsRoute : Counts gw l route ↔ countsRoute gw l route = true := by
  have hone : ∀ p : Bool, (if p = true then (0 + 1 : Int32) else 0) = 1 ↔ p = true := by decide
  rw [Counts, listenerAttachedRoutes, List.foldl_cons, List.foldl_nil, hone]

theorem counts_iff : Counts gw l route ↔
    routeReferencesGateway route gw = true ∧ allowedRoutesPermits gw l route.ns = true ∧
      (route.hostnames = [] ∨
        ∃ h ∈ route.hostnames, listenerHostnameMatches l.hostname h = true) := by
  rw [counts_iff_countsRoute, countsRoute, Bool.and_eq_true, Bool.and_eq_true, Bool.or_eq_true,
    List.isEmpty_iff, List.any_eq_true, and_assoc]

instance : Decidable (Counts gw l route) :=
  inferInstanceAs (Decidable (listenerAttachedRoutes gw l [route] = 1))

/-- One of the listeners under the domain counts the route. -/
def AttachedUnder (gw : GatewayAPI.Gateway) (domain : String) (route : HTTPRoute) : Prop :=
  ∃ l ∈ gw.listeners, listenerUnderDomain l domain = true ∧ Counts gw l route

/-- A hostname of a route is admitted if it matches one of the listeners under the domain that let
the route's namespace in. Nothing else is asked of it. -/
theorem gatewayAdmitsRoute_eq_true :
    gatewayAdmitsRoute gw route h cfg = true ↔
      ∃ l ∈ gw.listeners, listenerUnderDomain l cfg.domain = true ∧
        allowedRoutesPermits gw l route.ns = true ∧
        listenerHostnameMatches l.hostname h = true := by
  rw [gatewayAdmitsRoute, Bool.and_eq_true, List.any_eq_true]
  constructor
  · rintro ⟨-, l, hl, htests⟩
    obtain ⟨hunder, hboth⟩ := Bool.and_eq_true_iff.mp htests
    obtain ⟨hmatch, hpermits⟩ := Bool.and_eq_true_iff.mp hboth
    exact ⟨l, hl, hunder, hpermits, hmatch⟩
  · rintro ⟨l, hl, hunder, hpermits, hmatch⟩
    refine ⟨hostnameUnderDomain_of_matches hunder hmatch, l, hl, ?_⟩
    rw [hunder, hmatch, hpermits]
    rfl

theorem attachedUnder_iff (href : routeReferencesGateway route gw = true)
    (hdecl : route.hostnames ≠ []) :
    AttachedUnder gw cfg.domain route ↔
      ∃ h ∈ route.hostnames, gatewayAdmitsRoute gw route h cfg = true := by
  constructor
  · rintro ⟨l, hl, hunder, hcounts⟩
    obtain ⟨-, hpermits, hhosts⟩ := counts_iff.mp hcounts
    obtain ⟨h, hh, hmatch⟩ := hhosts.resolve_left hdecl
    exact ⟨h, hh, gatewayAdmitsRoute_eq_true.mpr ⟨l, hl, hunder, hpermits, hmatch⟩⟩
  · rintro ⟨h, hh, hadmits⟩
    obtain ⟨l, hl, hunder, hpermits, hmatch⟩ := gatewayAdmitsRoute_eq_true.mp hadmits
    exact ⟨l, hl, hunder, counts_iff.mpr ⟨href, hpermits, Or.inr ⟨h, hh, hmatch⟩⟩⟩

theorem attachedUnder_of_inherited (href : routeReferencesGateway route gw = true)
    (hdecl : route.hostnames = []) (hadmitted : admittedHostnames gw route cfg ≠ []) :
    AttachedUnder gw cfg.domain route := by
  obtain ⟨h, hh⟩ := List.exists_mem_of_ne_nil _ hadmitted
  rw [GatewayAPI.admittedHostnames_inherited hdecl, List.mem_eraseDups, List.mem_filterMap] at hh
  obtain ⟨l, hl, hoffered⟩ := hh
  have hoffers := GatewayAPI.offered_eq_some.mp hoffered
  have hpermits := GatewayAPI.allowedRoutesPermits_iff.mpr hoffers.2.2.2.2
  exact ⟨l, hl, GatewayAPI.listenerUnderDomain_iff.mpr hoffers.under,
    counts_iff.mpr ⟨href, hpermits, Or.inl hdecl⟩⟩

/-! ### Any list of routes -/

/-- The counter after a list of routes, modulo its 32 bits. -/
theorem listenerAttachedRoutes_eq (gw : GatewayAPI.Gateway) (l : Listener)
    (routes : List HTTPRoute) :
    listenerAttachedRoutes gw l routes =
      Int32.ofNat (routes.countP fun route => Counts gw l route) := by
  -- Over the list, from whatever the counter stands at.
  suffices hfrom : ∀ n : ℕ, routes.foldl (fun k route =>
      if countsRoute gw l route then k + 1 else k) (Int32.ofNat n) =
        Int32.ofNat (n + routes.countP fun route => Counts gw l route) by
    simpa [listenerAttachedRoutes] using hfrom 0
  induction routes with
  | nil => exact fun n => rfl
  | cons route rest ih =>
    intro n
    rw [List.foldl_cons, List.countP_cons]
    by_cases hcounts : Counts gw l route
    · rw [if_pos (counts_iff_countsRoute.mp hcounts), if_pos (decide_eq_true hcounts),
        show Int32.ofNat n + 1 = Int32.ofNat (n + 1) from Int32.ofNat_add n 1 |>.symm, ih]
      congr 1
      omega
    · rw [if_neg (mt counts_iff_countsRoute.mpr hcounts), if_neg (by simpa using hcounts), ih]
      rfl

/-- **Listeners count what is admitted.** For a Gateway, any proxy configuration and a route that
refers to the Gateway: a route with hostnames has one that is admitted exactly if a listener under
the domain counts it; a route without hostnames that inherits one is counted by such a listener. And
a listener counts a list of routes by counting each alone, in any order; the number is right for
lists shorter than `2 ^ 31`. -/
theorem attachedRoutes_agree (gw : GatewayAPI.Gateway) (cfg : GatewayProxy) (route : HTTPRoute)
    (href : routeReferencesGateway route gw = true) :
    (route.hostnames ≠ [] →
      ((∃ h ∈ route.hostnames, gatewayAdmitsRoute gw route h cfg = true) ↔
        ∃ l ∈ gw.listeners, listenerUnderDomain l cfg.domain = true ∧
          listenerAttachedRoutes gw l [route] = 1)) ∧
    (route.hostnames = [] → admittedHostnames gw route cfg ≠ [] →
      ∃ l ∈ gw.listeners, listenerUnderDomain l cfg.domain = true ∧
        listenerAttachedRoutes gw l [route] = 1) ∧
    ∀ l (routes : List HTTPRoute),
      (routes.length < 2 ^ 31 → (listenerAttachedRoutes gw l routes).toInt =
        (routes.filter fun r => listenerAttachedRoutes gw l [r] = 1).length) ∧
      ∀ routes', routes'.Perm routes →
        listenerAttachedRoutes gw l routes' = listenerAttachedRoutes gw l routes := by
  refine ⟨fun hdecl => (attachedUnder_iff href hdecl).symm, attachedUnder_of_inherited href,
    fun l routes => ⟨fun hlen => ?_, fun routes' hperm => ?_⟩⟩
  · rw [listenerAttachedRoutes_eq,
      Int32.toInt_ofNat_of_lt (List.countP_le_length.trans_lt hlen), List.countP_eq_length_filter]
    rfl
  · rw [listenerAttachedRoutes_eq, listenerAttachedRoutes_eq, hperm.countP_eq]

/-- A Gateway with a wildcard listener for its own namespace and one for another domain. -/
def wildcardGateway : GatewayAPI.Gateway :=
  ⟨"edge", "main", "netbird",
    [⟨"other", some "bar.org", 443, .https, some ⟨["cert"]⟩, some ⟨some ⟨some .all⟩⟩⟩,
      ⟨"proxy", some "*.foo.com", 443, .https, some ⟨["cert"]⟩, none⟩]⟩

/-- A route to that Gateway, with a hostname on each of the two. -/
def shopRoute : HTTPRoute where
  ns := "edge"
  name := "shop"
  generation := 1
  parentRefs := [{ name := "main" }]
  hostnames := ["bar.org", "shop.foo.com"]
  rules := []
  parents := []

/-- The wildcard counts the route, for the hostname that is under the domain. -/
theorem attachedRoutes_agree_wildcard :
    routeReferencesGateway shopRoute wildcardGateway = true ∧
      ∃ l ∈ wildcardGateway.listeners, listenerUnderDomain l "foo.com" = true ∧
        listenerAttachedRoutes wildcardGateway l [shopRoute] = 1 :=
  ⟨by decide, ((attachedRoutes_agree wildcardGateway ⟨"foo.com", "gate.foo.com", "cert", "proxy"⟩
    shopRoute (by decide)).1 (by decide)).mp ⟨"shop.foo.com", by decide, by decide⟩⟩

end Gateway

end NetbirdOperator
