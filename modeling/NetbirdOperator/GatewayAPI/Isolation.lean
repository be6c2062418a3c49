import NetbirdOperator.GatewayAPI.RouteStatus

/-!
# Two routes of one namespace

The children of a route are applied by name and deleted by label. A child's name ends in a digest of
the route's name and the hostname, so different pairs have different children as long as the digests
differ. The label is the route's name if it fits in a label, and else a beginning of it with a
digest of the whole, `safeName`.

`safeName` is injective on the names that fit and, up to digests, on those that do not, but not on
the two together: a short name can be spelled like the shortened form of a long one. Then a pass
over the one route lists the children of the other as its own, and deletes them
(`children_deleted_by_namesake`). That is the only way two routes can get at each other
(`routes_isolated`).

## Assumptions

A digest has eight characters, and digests that should differ do: those of the two names, and those
of the pairs of route and hostname that a run translates (`InPlay`).

## Main results

* `GatewayAPI.safeName_ne` — labels differ unless one name is the shortened form of the other
* `GatewayAPI.sameChildren_closed` — the writes of a pass leave another route's services alone
* `GatewayAPI.named_run` — services stay named and labelled after their pairs
* `GatewayAPI.children_deleted_by_namesake` — a route that deletes the children of another
* `GatewayAPI.routes_isolated` — routes of other names do not get at each other's children
-/

namespace NetbirdOperator

open ControlLoop Strings

namespace GatewayAPI

open Pass

variable {digest : String → String} {w w' : World} {route : HTTPRoute} {ns n n' n₁ n₂ h h' : String}
  {pairs : String → String → Prop} {s t : ReverseProxyService}

/-! ### Names -/

/-- Texts that end in digests of one length are different if the digests are. -/
theorem digest_eq_of_append_eq (hlen : ∀ x, (digest x).length = 8) {a b x y : String}
    (heq : a ++ digest x = b ++ digest y) : digest x = digest y := by
  have hchars : a.toList ++ (digest x).toList = b.toList ++ (digest y).toList := by
    rw [← String.toList_append, heq, String.toList_append]
  have hsame : (digest x).toList.length = (digest y).toList.length := by
    rw [String.length_toList, String.length_toList, hlen, hlen]
  exact String.toList_inj.mp (List.append_inj' hchars hsame).2

/-- Children of the same name were named with the same digest. -/
theorem digest_eq_of_routeChildName_eq (hlen : ∀ x, (digest x).length = 8)
    (heq : routeChildName digest n h = routeChildName digest n' h') :
    digest (n ++ "\x00" ++ h) = digest (n' ++ "\x00" ++ h') :=
  digest_eq_of_append_eq hlen heq

/-- The short name is spelled like the shortened form of the long one. -/
def Capped (digest : String → String) (short long : String) : Prop :=
  short.length ≤ labelValueMaxLen ∧ labelValueMaxLen < long.length ∧
    safeName digest long labelValueMaxLen = short

instance : Decidable (Capped digest n n') :=
  inferInstanceAs (Decidable (_ ∧ _ ∧ _))

theorem safeName_of_le {max : ℕ} (hle : n.length ≤ max) : safeName digest n max = n := by
  rw [safeName, if_pos hle]

theorem safeName_of_lt (digest : String → String) {max : ℕ} (hlt : max < n.length) :
    ∃ head, safeName digest n max = head ++ digest n := by
  rw [safeName, if_neg (Nat.not_le.mpr hlt)]
  exact ⟨_, String.append_assoc.symm⟩

/-- **Labels.** Different names with different digests have different labels, unless one is the
shortened form of the other. -/
theorem safeName_ne (hlen : ∀ x, (digest x).length = 8) (hne : n₁ ≠ n₂)
    (hdigest : digest n₁ ≠ digest n₂) (h₁₂ : ¬ Capped digest n₁ n₂) (h₂₁ : ¬ Capped digest n₂ n₁) :
    safeName digest n₁ labelValueMaxLen ≠ safeName digest n₂ labelValueMaxLen := by
  intro heq
  rcases Nat.lt_or_ge labelValueMaxLen n₁.length with hlt₁ | hle₁ <;>
    rcases Nat.lt_or_ge labelValueMaxLen n₂.length with hlt₂ | hle₂
  · obtain ⟨a, ha⟩ := safeName_of_lt digest hlt₁
    obtain ⟨b, hb⟩ := safeName_of_lt digest hlt₂
    rw [ha, hb] at heq
    exact hdigest (digest_eq_of_append_eq hlen heq)
  · exact h₂₁ ⟨hle₂, hlt₁, heq.trans (safeName_of_le hle₂)⟩
  · exact h₁₂ ⟨hle₁, hlt₂, heq.symm.trans (safeName_of_le hle₁)⟩
  · rw [safeName_of_le hle₁, safeName_of_le hle₂] at heq
    exact hne heq

/-! ### What services are named after -/

/-- The service was created for the pair of route and hostname. -/
structure CreatedFor (digest : String → String) (n h : String) (s : ReverseProxyService) :
    Prop where
  owner : s.owner = some n
  name : s.name = routeChildName digest n h
  label : s.httpRoute = some (safeName digest n labelValueMaxLen)

/-- Every service of the namespace was created for some pair. -/
def Named (digest : String → String) (pairs : String → String → Prop) (ns : String) (w : World) :
    Prop :=
  ∀ s ∈ w.services, s.ns = ns → ∃ n h, pairs n h ∧ CreatedFor digest n h s

/-- The digests of different pairs are different. -/
def DistinctDigests (digest : String → String) (pairs : String → String → Prop) : Prop :=
  ∀ n h n' h', pairs n h → pairs n' h' →
    digest (n ++ "\x00" ++ h) = digest (n' ++ "\x00" ++ h') → n = n' ∧ h = h'

/-- Services of one name were created for one route. -/
theorem CreatedFor.route_eq (hlen : ∀ x, (digest x).length = 8)
    (hdistinct : DistinctDigests digest pairs) (hs : CreatedFor digest n h s)
    (ht : CreatedFor digest n' h' t) (hp : pairs n h) (hp' : pairs n' h')
    (hname : s.name = t.name) :
    n = n' := by
  rw [hs.name, ht.name] at hname
  exact (hdistinct n h n' h' hp hp' (digest_eq_of_routeChildName_eq hlen hname)).1

theorem createdFor_childOf {cfg : GatewayProxy} {backends : List ReverseProxyBackend} :
    CreatedFor digest route.name h (childOf digest route cfg backends h) :=
  ⟨rfl, rfl, rfl⟩

/-! ### A pass -/

theorem mem_drop :
    t ∈ (w.drop s).services ↔ t ∈ w.services ∧ ¬ (t.ns = s.ns ∧ t.name = s.name) := by
  rw [World.drop, List.mem_filter, decide_eq_true_iff]

/-- Applying a service does nothing to one that is another, by its name and as a whole. -/
theorem mem_applyService_of_ne {services : List ReverseProxyService} (hne : t ≠ s)
    (hkey : t ∈ services → ¬ (t.ns = s.ns ∧ t.name = s.name)) :
    t ∈ applyService s services ↔ t ∈ services := by
  refine ⟨fun ht => (mem_applyService ht).resolve_right hne, fun ht => ?_⟩
  rw [applyService]
  split
  · exact List.mem_map.mpr ⟨t, ht, if_neg (hkey ht)⟩
  · exact List.mem_append_left _ ht

/-- Passes name and label what they create. -/
theorem named_closed (hplay : ∀ gw parent cfg h, attachment w route = some (gw, parent) →
    gatewayProxyConfig gw = some cfg → h ∈ admittedHostnames gw route cfg → route.ns = ns →
      pairs route.name h) : Closed digest route w (Named digest pairs ns) where
  drop _ _ _ _ _ _ hw t ht := hw t (mem_drop.mp ht).1
  apply gw parent cfg backends h hattached hcfg hh _ hw t ht hns := by
    rcases mem_applyService ht with ht | rfl
    · exact hw t ht hns
    · exact ⟨route.name, h, hplay gw parent cfg h hattached hcfg hh hns, createdFor_childOf⟩
  condition _ _ _ hw := hw

/-- The services of the namespace that belong to the route `n`, compared with those of `w₀`. -/
def SameChildren (ns n : String) (w₀ w : World) : Prop :=
  ∀ t : ReverseProxyService, t.ns = ns → t.owner = some n → (t ∈ w.services ↔ t ∈ w₀.services)

/-- A pass over a route with another name and another label leaves the children of `n` alone. -/
theorem sameChildren_closed {w₀ : World} (hlen : ∀ x, (digest x).length = 8)
    (hdistinct : DistinctDigests digest pairs) (hne : route.name ≠ n)
    (hlabel : safeName digest route.name labelValueMaxLen ≠ safeName digest n labelValueMaxLen)
    (hplay : ∀ gw parent cfg h, attachment w route = some (gw, parent) →
      gatewayProxyConfig gw = some cfg → h ∈ admittedHostnames gw route cfg → route.ns = ns →
        pairs route.name h) :
    Closed digest route w fun w' => Named digest pairs ns w' ∧ SameChildren ns n w₀ w' where
  drop w₁ hw₁ s hs hchild w' hw' := by
    refine ⟨(named_closed hplay).drop w₁ hw₁.1 s hs hchild w' hw'.1, fun t hns howner => ?_⟩
    rw [mem_drop, and_iff_left_of_imp, hw'.2 t hns howner]
    -- a child of `n` with the name of a listed service would have the route's label
    rintro ht ⟨hns', hname⟩
    obtain ⟨hlisted, hhttp⟩ : s.ns = route.ns ∧
        s.httpRoute = some (httpRouteLabelValue digest route) := by simpa [isChild] using hchild
    obtain ⟨nt, ht', hpt, hct⟩ := hw'.1 t ht hns
    obtain ⟨nx, hx, hpx, hcx⟩ := hw₁.1 s hs (hns'.symm.trans hns)
    obtain rfl : n = nt := Option.some.inj (howner.symm.trans hct.owner)
    obtain rfl := hct.route_eq hlen hdistinct hcx hpt hpx hname
    exact hlabel (Option.some.inj (hhttp.symm.trans hcx.label))
  apply gw parent cfg backends h hattached hcfg hh w' hw' := by
    refine ⟨(named_closed hplay).apply gw parent cfg backends h hattached hcfg hh w' hw'.1,
      fun t hns howner => ?_⟩
    rw [World.apply, mem_applyService_of_ne, hw'.2 t hns howner]
    · rintro rfl
      exact hne (Option.some.inj howner)
    · rintro ht ⟨hns', hname⟩
      obtain ⟨nt, ht', hpt, hct⟩ := hw'.1 t ht hns
      obtain rfl : n = nt := Option.some.inj (howner.symm.trans hct.owner)
      have hp := hplay gw parent cfg h hattached hcfg hh (hns'.symm.trans hns)
      exact hne (createdFor_childOf.route_eq hlen hdistinct hct hp hpt hname.symm)
  condition parent cond w' hw' := hw'

/-! ### Runs -/

/-- **The pairs in play** in a namespace: those of a route over which there is a pass, and a
hostname that its Gateway admits at that time. -/
def InPlay (digest : String → String) (ns : String) (es : List Event) (n h : String) : Prop :=
  ∃ pre fault post, es = pre ++ .pass ns n fault :: post ∧
    ∃ route gw parent cfg, (run (step digest) World.empty pre).getRoute ns n = some route ∧
      attachment (run (step digest) World.empty pre) route = some (gw, parent) ∧
      gatewayProxyConfig gw = some cfg ∧ h ∈ admittedHostnames gw route cfg

theorem key_of_getRoute {name : String} (hroute : w.getRoute ns name = some route) :
    route.ns = ns ∧ route.name = name := by
  simpa using List.find?_some hroute

theorem Named.step (hw : Named digest pairs ns w) (e : Event)
    (hplay : ∀ n fault, e = .pass ns n fault → ∀ route gw parent cfg h,
      w.getRoute ns n = some route → attachment w route = some (gw, parent) →
        gatewayProxyConfig gw = some cfg → h ∈ admittedHostnames gw route cfg → pairs n h) :
    Named digest pairs ns (step digest w e) := by
  cases e with
  | putRoute | setGateways | setClasses | otherStatus => exact hw
  | deleteRoute ns' name => exact fun s hs => hw s (List.mem_of_mem_filter hs)
  | pass ns' name fault =>
    refine reconcile_keeps
      (fun route hroute => named_closed fun gw parent cfg h hatt hcfg hh hns => ?_)
      hw
    obtain ⟨rfl, rfl⟩ := key_of_getRoute hroute
    subst hns
    exact hplay route.name fault rfl route gw parent cfg h hroute hatt hcfg hh

/-- Along a run, services are named after the pairs in play. -/
theorem named_run (digest : String → String) (ns : String) {es pre post : List Event}
    (hes : es = pre ++ post) :
    Named digest (InPlay digest ns es) ns (run (step digest) World.empty pre) := by
  have halong : Along pre fun fs e => ∃ rest, es = fs ++ e :: rest := by
    rintro fs e rest rfl
    exact ⟨rest ++ post, by rw [hes, List.append_assoc, List.cons_append]⟩
  refine run_induction
    (I := fun fs => Named digest (InPlay digest ns es) ns (run (step digest) World.empty fs)) halong
    (by simp [Named, World.empty]) fun fs e hfs he => ?_
  obtain ⟨rest, hrest⟩ := he
  rw [run_concat]
  refine hfs.step e fun n fault hpass route gw parent cfg h hroute hatt hcfg hh => ?_
  subst hpass
  exact ⟨fs, fault, rest, hrest, route, gw, parent, cfg, hroute, hatt, hcfg, hh⟩

/-- **Isolation.** In every run, a pass over a route, wherever it ends, neither creates nor changes
nor deletes a service of a route with another name, provided the digests that should differ do and
neither name is the shortened form of the other. -/
theorem routes_isolated (digest : String → String) (es : List Event) (ns n₁ n₂ : String)
    (hlen : ∀ x, (digest x).length = 8) (hne : n₁ ≠ n₂) (hdigest : digest n₁ ≠ digest n₂)
    (hdistinct : DistinctDigests digest (InPlay digest ns es))
    (h₁₂ : ¬ Capped digest n₁ n₂) (h₂₁ : ¬ Capped digest n₂ n₁)
    (pre post : List Event) (fault : Call → Option Fault)
    (hes : es = pre ++ .pass ns n₁ fault :: post) :
    SameChildren ns n₂ (run (step digest) World.empty pre)
      (run (step digest) World.empty (pre ++ [.pass ns n₁ fault])) := by
  rw [run_concat]
  let w := run (step digest) World.empty pre
  let w' := step digest w (.pass ns n₁ fault)
  suffices hkept : Named digest (InPlay digest ns es) ns w' ∧ SameChildren ns n₂ w w' from hkept.2
  refine reconcile_keeps (Q := fun w' => Named digest (InPlay digest ns es) ns w' ∧
    SameChildren ns n₂ w w') (fun route hroute => ?_)
    ⟨named_run digest ns hes, fun _ _ _ => Iff.rfl⟩
  obtain ⟨hns, hname⟩ := key_of_getRoute hroute
  refine sameChildren_closed hlen hdistinct (hname ▸ hne)
    (hname ▸ safeName_ne hlen hne hdigest h₁₂ h₂₁) fun gw parent cfg h hatt hcfg hh _ => ?_
  rw [hname]
  exact ⟨pre, fault, post, hes, route, gw, parent, cfg, hroute, hatt, hcfg, hh⟩

/-! ### A namesake -/

def longName : String := "checkout-checkout-checkout-checkout-checkout-checkout-checkout-v2"

/-- What `longName` is shortened to. -/
def shortName : String := "checkout-checkout-checkout-checkout-checkout-checkout-09ccff1b"

/-- The beginnings of the SHA-256 digests of the two names, and of `longName` with a hostname. -/
def sha (s : String) : String :=
  if s = longName then "09ccff1b" else if s = shortName then "e51f8c48" else "7e2c948d"

/-- A Gateway, and a route with the long name. -/
def longRoute : List Event :=
  [.setClasses [⟨"netbird", gatewayController⟩], .setGateways [sampleGateway],
    .putRoute "edge" longName [{ name := "main" }] ["shop.foo.com"] shopRules]

/-- The route is translated. Then there is another, which is attached to nothing. -/
def twoRoutes (other : String) : List Event :=
  longRoute ++ [.pass "edge" longName calm.fault, .putRoute "edge" other [] [] []]

theorem length_sha (s : String) : (sha s).length = 8 := by
  unfold sha
  split
  · decide
  · split <;> decide

/-- What is found under the name of a route that was just put in place is what was put. -/
theorem parentRefs_of_putRoute (digest : String → String) {name : String}
    {parentRefs : List ParentReference} {hostnames : List String} {rules : List HTTPRouteRule}
    (h : (step digest w (.putRoute ns name parentRefs hostnames rules)).getRoute ns name =
      some route) : route.parentRefs = parentRefs := by
  simp only [step, World.getRoute, putRoute] at h
  split at h
  · rw [List.find?_map, Option.map_eq_some_iff] at h
    obtain ⟨r, hr, rfl⟩ := h
    have hkey := List.find?_some hr
    simp only [Function.comp_apply] at hkey
    split at hkey
    · next hr => rw [if_pos hr]
    · next hr => exact absurd (of_decide_eq_true hkey) hr
  · next hnone =>
    have hold : w.routes.find? (fun r => decide (r.ns = ns ∧ r.name = name)) = none := by
      simpa using hnone
    rw [List.find?_append, hold] at h
    simp only [Option.none_or, List.find?_singleton, true_and, decide_true, if_true] at h
    obtain rfl := Option.some.inj h
    rfl

/-- The one pair in play, also after a pass over the other route. -/
theorem inPlay_twoRoutes {other : String}
    (hplay : InPlay sha "edge" (twoRoutes other ++ [.pass "edge" other calm.fault]) n h) :
    n = longName ∧ h = "shop.foo.com" := by
  obtain ⟨pre, fault, post, hes, route, gw, parent, cfg, hroute, hatt, hcfg, hh⟩ := hplay
  -- of the six events, the fourth and the last are passes
  rcases pre with _ | ⟨a, _ | ⟨b, _ | ⟨c, _ | ⟨d, _ | ⟨e, _ | ⟨f, pre⟩⟩⟩⟩⟩⟩ <;>
    simp [twoRoutes, longRoute] at hes
  · obtain ⟨rfl, rfl, rfl, ⟨rfl, -⟩, -⟩ := hes
    let long : HTTPRoute :=
      ⟨"edge", longName, 1, [{ name := "main" }], ["shop.foo.com"], shopRules, []⟩
    have hfound : (run (step sha) World.empty longRoute).getRoute "edge" longName = some long := by
      decide +kernel
    have hgw : attachment (run (step sha) World.empty longRoute) long =
        some (sampleGateway, { name := "main" }) := by decide +kernel
    have hproxy : gatewayProxyConfig sampleGateway =
        some ⟨"foo.com", "gate.foo.com", "cert", "proxy"⟩ := by decide
    obtain rfl := Option.some.inj (hfound.symm.trans hroute)
    obtain ⟨rfl, -⟩ := Prod.mk.inj (Option.some.inj (hgw.symm.trans hatt))
    obtain rfl := Option.some.inj (hproxy.symm.trans hcfg)
    have hadmitted : admittedHostnames sampleGateway long
        ⟨"foo.com", "gate.foo.com", "cert", "proxy"⟩ = ["shop.foo.com"] := by decide +kernel
    rw [hadmitted, List.mem_singleton] at hh
    exact ⟨rfl, hh⟩
  · obtain ⟨rfl, rfl, rfl, rfl, rfl, ⟨rfl, -⟩, -⟩ := hes
    have hrefs : route.parentRefs = [] := parentRefs_of_putRoute sha hroute
    rw [attachment, hrefs] at hatt
    simp at hatt

/-- With one pair in play, all digests that should differ do. -/
theorem distinctDigests_twoRoutes (other : String) :
    DistinctDigests sha
      (InPlay sha "edge" (twoRoutes other ++ [.pass "edge" other calm.fault])) := by
  intro n h n' h' hplay hplay' _
  obtain ⟨rfl, rfl⟩ := inPlay_twoRoutes hplay
  obtain ⟨rfl, rfl⟩ := inPlay_twoRoutes hplay'
  exact ⟨rfl, rfl⟩

/-- **A namesake.** The digests that should differ do, and a pass over the route with the short name
deletes the child of the other. -/
theorem children_deleted_by_namesake :
    shortName ≠ longName ∧ sha shortName ≠ sha longName ∧
      DistinctDigests sha
        (InPlay sha "edge" (twoRoutes shortName ++ [.pass "edge" shortName calm.fault])) ∧
      ((run (step sha) World.empty (twoRoutes shortName)).services.map
        fun s => (s.owner, s.domain)) = [(some longName, "shop.foo.com")] ∧
      (run (step sha) World.empty
        (twoRoutes shortName ++ [.pass "edge" shortName calm.fault])).services = [] :=
  ⟨by decide, by decide, distinctDigests_twoRoutes shortName, by decide +kernel,
    by decide +kernel⟩

/-- A pass over a route with another name leaves the child alone. -/
theorem routes_isolated_cart :
    SameChildren "edge" longName (run (step sha) World.empty (twoRoutes "cart"))
      (run (step sha) World.empty (twoRoutes "cart" ++ [.pass "edge" "cart" calm.fault])) :=
  routes_isolated sha (twoRoutes "cart" ++ [.pass "edge" "cart" calm.fault]) "edge" "cart" longName
    length_sha (by decide) (by decide) (distinctDigests_twoRoutes "cart") (by decide +kernel)
    (by decide +kernel) (twoRoutes "cart") [] calm.fault rfl

end GatewayAPI

end NetbirdOperator
