import NetbirdOperator.ControlLoop.Run
import NetbirdOperator.GatewayAPI.Exposure

/-!
# What the status of a route says

`Truthful` is what a reader of a route's status may expect after a pass: the controller's entry says
`Accepted` exactly if there is something the route was translated to, and then it names the parent
the pass resolved and the generation it saw.

The pass sets the condition on three of its exits. On the other two, for a route that is attached to
no Gateway of the class, or to one with no usable listener, it deletes the children and returns, and
the status keeps what it said before. The entry itself is found by the controller's name and kept
when the route moves to another Gateway, together with the parent it was made for
(`stale_status_after_detach`). `FreshStatus` is what the old status must not say for the new one to
be true, and it is the whole difference (`route_status_truthful_iff`).

## Main results

* `GatewayAPI.Orderly.step` — labels follow owners, and each route has one entry of the controller
* `GatewayAPI.stale_status_after_detach` — two runs after which the status is wrong
* `GatewayAPI.route_status_truthful_iff` — when it is right
-/

namespace NetbirdOperator

open ControlLoop Strings

namespace GatewayAPI

open Pass

variable {digest : String → String} {w w' : World} {route : HTTPRoute} {ns name : String}
  {parent : ParentReference} {cond : AcceptedCondition} {parents : List RouteParentStatus}

/-! ### Runs -/

/-- What happens: a route is created or edited, or deleted together with what it owns; Gateways and
classes change; another controller writes its entries of a route's status; a pass. -/
inductive Event where
  | putRoute (ns name : String) (parentRefs : List ParentReference) (hostnames : List String)
      (rules : List HTTPRouteRule)
  | deleteRoute (ns name : String)
  | setGateways (gateways : List Gateway)
  | setClasses (classes : List GatewayClass)
  | otherStatus (ns name : String) (entries : List RouteParentStatus)
  | pass (ns name : String) (fault : Call → Option Fault)

/-- The entry is one of this controller. -/
def RouteParentStatus.own (st : RouteParentStatus) : Bool := st.controllerName = gatewayController

/-- The routes with one of them edited, or created if it is not there. -/
def putRoute (ns name : String) (parentRefs : List ParentReference) (hostnames : List String)
    (rules : List HTTPRouteRule) (routes : List HTTPRoute) : List HTTPRoute :=
  if routes.any fun r => r.ns = ns ∧ r.name = name then
    routes.map fun r =>
      if r.ns = ns ∧ r.name = name then
        { r with
          generation := r.generation + 1
          parentRefs := parentRefs, hostnames := hostnames, rules := rules }
      else r
  else routes ++ [⟨ns, name, 1, parentRefs, hostnames, rules, []⟩]

/-- The effect of an event. The children of a deleted route are collected with it. -/
def step (digest : String → String) (w : World) : Event → World
  | .putRoute ns name parentRefs hostnames rules =>
    { w with routes := putRoute ns name parentRefs hostnames rules w.routes }
  | .deleteRoute ns name =>
    { w with
      routes := w.routes.filter fun r => ¬ (r.ns = ns ∧ r.name = name)
      services := w.services.filter fun s => ¬ (s.ns = ns ∧ s.owner = some name) }
  | .setGateways gateways => { w with gateways := gateways }
  | .setClasses classes => { w with classes := classes }
  | .otherStatus ns name entries =>
    { w with
      routes := w.routes.map fun r =>
        if r.ns = ns ∧ r.name = name then
          { r with
            parents := r.parents.filter RouteParentStatus.own ++ entries.filter fun st => ¬ st.own }
        else r }
  | .pass ns name fault => (reconcile ⟨fault, digest⟩ ns name w).2

/-- Nothing is there yet. -/
def World.empty : World := ⟨[], [], [], []⟩

/-! ### The controller's entry -/

/-- The entries of this controller. -/
def ownEntries (parents : List RouteParentStatus) : List RouteParentStatus :=
  parents.filter RouteParentStatus.own

/-- The controller's entry says that the route is accepted. -/
def RouteParentStatus.SaysAccepted (st : RouteParentStatus) : Prop :=
  st.own = true ∧ ∃ c, st.accepted = some c ∧ c.status = true

/-- The first own entry has the condition; if there was none, the new one names the parent. -/
theorem ownEntries_setAccepted (parent : ParentReference) (cond : AcceptedCondition)
    (parents : List RouteParentStatus) :
    ownEntries (setAccepted parent cond parents) =
      match ownEntries parents with
      | [] => [⟨parent, gatewayController, some cond⟩]
      | st :: rest => { st with accepted := some cond } :: rest := by
  induction parents with
  | nil => simp [setAccepted, ownEntries, RouteParentStatus.own]
  | cons st rest ih =>
    by_cases hst : st.controllerName = gatewayController
    · simp [setAccepted, ownEntries, RouteParentStatus.own, hst]
    · have hcons : ∀ l, ownEntries (st :: l) = ownEntries l := fun l => by
        simp [ownEntries, RouteParentStatus.own, hst]
      rw [setAccepted, if_neg hst, hcons, hcons, ih]

/-! ### What is true of every run -/

/-- A service is labelled for the route that owns it, and a route has at most one entry of the
controller. -/
structure Orderly (digest : String → String) (w : World) : Prop where
  labelled : ∀ s ∈ w.services, ∀ n, s.owner = some n →
    s.httpRoute = some (safeName digest n labelValueMaxLen)
  single : ∀ r ∈ w.routes, (ownEntries r.parents).length ≤ 1

/-- Setting the condition adds an entry only where there is none. -/
theorem length_ownEntries_setAccepted (h : (ownEntries parents).length ≤ 1) :
    (ownEntries (setAccepted parent cond parents)).length ≤ 1 := by
  rw [ownEntries_setAccepted]
  cases hown : ownEntries parents with
  | nil => simp
  | cons st rest => simpa [hown] using h

theorem orderly_closed (hroute : (ownEntries route.parents).length ≤ 1) :
    Closed digest route w (Orderly digest) where
  drop _ _ _ _ _ _ hw := ⟨fun t ht => hw.labelled t (List.mem_of_mem_filter ht), hw.single⟩
  apply gw parent cfg backends h _ _ _ w hw := by
    refine ⟨fun t ht n hn => ?_, hw.single⟩
    rcases mem_applyService ht with ht | rfl
    · exact hw.labelled t ht n hn
    · obtain rfl : route.name = n := Option.some.inj hn
      rfl
  condition parent cond w hw := by
    refine ⟨hw.labelled, fun r hr => ?_⟩
    obtain ⟨r₀, hr₀, rfl⟩ := List.mem_map.mp hr
    split
    · exact length_ownEntries_setAccepted hroute
    · exact hw.single r₀ hr₀

theorem mem_routes_of_getRoute (h : w.getRoute ns name = some route) : route ∈ w.routes :=
  List.mem_of_find?_eq_some h

theorem Orderly.step (h : Orderly digest w) (e : Event) : Orderly digest (step digest w e) := by
  cases e with
  | putRoute ns name parentRefs hostnames rules =>
    refine ⟨h.labelled, fun r hr => ?_⟩
    simp only [GatewayAPI.step, putRoute] at hr
    split at hr
    · obtain ⟨r₀, hr₀, rfl⟩ := List.mem_map.mp hr
      split <;> exact h.single r₀ hr₀
    · rcases List.mem_append.mp hr with hr | hr
      · exact h.single r hr
      · obtain rfl := List.mem_singleton.mp hr
        simp [ownEntries]
  | deleteRoute ns name =>
    exact ⟨fun s hs => h.labelled s (List.mem_of_mem_filter hs),
      fun r hr => h.single r (List.mem_of_mem_filter hr)⟩
  | setGateways gateways => exact ⟨h.labelled, h.single⟩
  | setClasses classes => exact ⟨h.labelled, h.single⟩
  | otherStatus ns name entries =>
    refine ⟨h.labelled, fun r hr => ?_⟩
    obtain ⟨r₀, hr₀, rfl⟩ := List.mem_map.mp hr
    split
    · have hown : ownEntries (r₀.parents.filter RouteParentStatus.own ++
          entries.filter fun st => ¬ st.own) = ownEntries r₀.parents := by
        simp [ownEntries, List.filter_append, List.filter_filter]
      rw [hown]
      exact h.single r₀ hr₀
    · exact h.single r₀ hr₀
  | pass ns name fault =>
    exact reconcile_keeps (fun route hroute =>
      orderly_closed (h.single route (mem_routes_of_getRoute hroute))) h

theorem orderly_run (digest : String → String) (es : List Event) :
    Orderly digest (run (step digest) World.empty es) :=
  run_keeps ⟨by simp [World.empty], by simp [World.empty]⟩ fun _ e h => h.step e

/-! ### The truth about a route -/

/-- The attachment of a route is of no use: there is no Gateway, or it has no proxy. -/
def Unusable (w : World) (route : HTTPRoute) : Prop :=
  ∀ gw parent, attachment w route = some (gw, parent) → gatewayProxyConfig gw = none

/-- The service is a child of the route. -/
def HTTPRoute.Owns (route : HTTPRoute) (s : ReverseProxyService) : Prop :=
  s.ns = route.ns ∧ s.owner = some route.name

/-- **What the status should say** of `route` after a pass that started in `w` and left `w'`. -/
structure Truthful (w w' : World) (route : HTTPRoute) : Prop where
  accepted_iff : (∃ st ∈ route.parents, st.SaysAccepted) ↔ ∃ s ∈ w'.services, route.Owns s
  parent : ∀ st ∈ route.parents, st.own = true → ∀ c, st.accepted = some c → c.status = true →
    (∃ gw, attachment w route = some (gw, st.parentRef)) ∧ c.observedGeneration = route.generation
  detached : Unusable w route → ∀ st ∈ route.parents, ¬ st.SaysAccepted

/-- **The condition on a pass.** A route whose attachment is of no use does not say it is accepted;
a route that will be accepted has no entry for another parent than the one that is resolved. -/
structure FreshStatus (w : World) (route : HTTPRoute) : Prop where
  detached : Unusable w route → ∀ st ∈ route.parents, ¬ st.SaysAccepted
  parent : ∀ gw parent cfg backends, attachment w route = some (gw, parent) →
    gatewayProxyConfig gw = some cfg → routeBackends route = .ok backends →
      admittedHostnames gw route cfg ≠ [] →
        ∀ st ∈ route.parents, st.own = true → st.parentRef = parent

/-- Once the condition is set, there is one entry of the controller. It names the parent unless
there was one before that names another. -/
theorem own_setAccepted (parent : ParentReference) (cond : AcceptedCondition)
    (h : (ownEntries parents).length ≤ 1) :
    ∃ p, (∀ st, (st ∈ setAccepted parent cond parents ∧ st.own = true) ↔
        st = ⟨p, gatewayController, some cond⟩) ∧
      (p = parent ↔ ∀ st ∈ parents, st.own = true → st.parentRef = parent) := by
  have hset := ownEntries_setAccepted parent cond parents
  have hmem : ∀ (l : List RouteParentStatus) st, (st ∈ l ∧ st.own = true) ↔ st ∈ ownEntries l :=
    fun l st => List.mem_filter.symm
  match hown : ownEntries parents with
  | [] =>
    rw [hown] at hset
    refine ⟨parent, fun st => by rw [hmem, hset, List.mem_singleton], iff_of_true rfl ?_⟩
    intro st hst howned
    exact absurd ((hmem parents st).mp ⟨hst, howned⟩) (by simp [hown])
  | [old] =>
    rw [hown] at hset
    have hold : old.controllerName = gatewayController := by
      have := ((hmem parents old).mpr (by simp [hown])).2
      simpa [RouteParentStatus.own] using this
    refine ⟨old.parentRef, fun st => ?_, ⟨fun hp st hst howned => ?_, fun hall => ?_⟩⟩
    · rw [hmem, hset, List.mem_singleton, ← hold]
    · have := (hmem parents st).mp ⟨hst, howned⟩
      rw [hown, List.mem_singleton] at this
      exact this ▸ hp
    · obtain ⟨hmem', howned⟩ := (hmem parents old).mpr (by simp [hown])
      exact hall old hmem' howned
  | _ :: _ :: _ => simp [hown] at h

theorem getRoute_withCondition (h : w.getRoute ns name = some route) :
    (w.withCondition route parent cond).getRoute ns name =
      some { route with parents := setAccepted parent cond route.parents } := by
  have hkey : route.ns = ns ∧ route.name = name := by
    simpa using List.find?_some h
  rw [World.getRoute, World.withCondition, List.find?_map]
  have hsame : ((fun r : HTTPRoute => decide (r.ns = ns ∧ r.name = name)) ∘ fun r =>
      if r.ns = route.ns ∧ r.name = route.name then
        { r with parents := setAccepted parent cond route.parents }
      else r) = fun r => decide (r.ns = ns ∧ r.name = name) := by
    funext r
    simp only [Function.comp_apply]
    split <;> rfl
  rw [hsame]
  rw [World.getRoute] at h
  rw [h]
  simp [hkey]

/-- A child of the route that survives pruning has a desired name. -/
theorem Pruned.desired {desired : List String} (h : Pruned digest route desired w w')
    (hlabel : ∀ s ∈ w.services, ∀ n, s.owner = some n →
      s.httpRoute = some (safeName digest n labelValueMaxLen)) :
    ∀ s ∈ w'.services, route.Owns s → s.name ∈ desired := by
  intro s hs howns
  have hhttp := hlabel s (h.sub s hs) route.name howns.2
  exact h.gone s hs (by simp [isChild, howns.1, hhttp, httpRouteLabelValue])

/-- Children are labelled for the route, so applying them keeps labels in order. -/
theorem Applied.labelled {cfg : GatewayProxy} {backends : List ReverseProxyBackend}
    {hostnames : List String} {any : Prop}
    (h : Applied digest route cfg backends hostnames any w w')
    (hlabel : ∀ s ∈ w.services, ∀ n, s.owner = some n →
      s.httpRoute = some (safeName digest n labelValueMaxLen)) :
    ∀ s ∈ w'.services, ∀ n, s.owner = some n →
      s.httpRoute = some (safeName digest n labelValueMaxLen) := by
  intro s hs n hn
  obtain hs | ⟨host, -, rfl⟩ := h.sub s hs
  · exact hlabel s hs n hn
  · obtain rfl : route.name = n := Option.some.inj hn
    rfl

/-- With the condition set to what the children are, the one thing that can be wrong is the parent
an older entry names. -/
theorem truthful_withCondition {gw : Gateway} {cfg : GatewayProxy} (h : Orderly digest w)
    (hroute : w.getRoute ns name = some route) (hroutes : w'.routes = w.routes)
    (hattached : attachment w route = some (gw, parent)) (hcfg : gatewayProxyConfig gw = some cfg)
    (hgen : cond.observedGeneration = route.generation)
    (hchildren : cond.status = true ↔ ∃ s ∈ w'.services, route.Owns s) :
    (∃ r, (w'.withCondition route parent cond).getRoute ns name = some r ∧
        Truthful w (w'.withCondition route parent cond) r) ↔
      (cond.status = true → ∀ st ∈ route.parents, st.own = true → st.parentRef = parent) := by
  have hget : (w'.withCondition route parent cond).getRoute ns name =
      some { route with parents := setAccepted parent cond route.parents } :=
    getRoute_withCondition (by rw [World.getRoute, hroutes]; exact hroute)
  obtain ⟨p, hentry, hp⟩ := own_setAccepted parent cond
    (h.single route (mem_routes_of_getRoute hroute))
  have husable : ¬ Unusable w route := fun hnone => by
    have := hnone gw parent hattached
    simp [hcfg] at this
  constructor
  · rintro ⟨r, hr, htruth⟩ hstatus
    obtain rfl := Option.some.inj (hget.symm.trans hr)
    obtain ⟨hmem, hown⟩ := (hentry _).mpr rfl
    obtain ⟨⟨gw', hgw'⟩, -⟩ := htruth.parent _ hmem hown cond rfl hstatus
    refine hp.mp ?_
    exact (Prod.mk.inj (Option.some.inj (hgw'.symm.trans hattached))).2
  · intro hparent
    refine ⟨_, hget, ?_, fun st hst hown c hc htrue => ?_, fun hnone => absurd hnone husable⟩
    · have hsays : (∃ st ∈ setAccepted parent cond route.parents, st.SaysAccepted) ↔
          cond.status = true := by
        constructor
        · rintro ⟨st, hst, hown, c, hc, htrue⟩
          obtain rfl := (hentry st).mp ⟨hst, hown⟩
          obtain rfl : cond = c := Option.some.inj hc
          exact htrue
        · intro htrue
          obtain ⟨hmem, hown⟩ := (hentry _).mpr rfl
          exact ⟨_, hmem, hown, cond, rfl, htrue⟩
      exact hsays.trans hchildren
    · obtain rfl := (hentry st).mp ⟨hst, hown⟩
      obtain rfl : cond = c := Option.some.inj hc
      exact ⟨⟨gw, by rw [hp.mpr (hparent htrue)]; exact hattached⟩, hgen⟩

theorem freshStatus_of_usable {gw : Gateway} {cfg : GatewayProxy}
    (hattached : attachment w route = some (gw, parent)) (hcfg : gatewayProxyConfig gw = some cfg) :
    FreshStatus w route ↔
      ((∃ backends, routeBackends route = .ok backends) ∧ admittedHostnames gw route cfg ≠ [] →
        ∀ st ∈ route.parents, st.own = true → st.parentRef = parent) := by
  constructor
  · rintro hfresh ⟨⟨backends, hback⟩, hne⟩
    exact hfresh.parent gw parent cfg backends hattached hcfg hback hne
  · refine fun h => ⟨fun hnone => ?_, fun gw' parent' cfg' backends hatt hcfg' hback hne => ?_⟩
    · have := hnone gw parent hattached
      simp [hcfg] at this
    · obtain ⟨rfl, rfl⟩ := Prod.mk.inj (Option.some.inj (hattached.symm.trans hatt))
      obtain rfl := Option.some.inj (hcfg.symm.trans hcfg')
      exact h ⟨⟨backends, hback⟩, hne⟩

theorem truthful_iff_of_outcome (h : Orderly digest w) (hroute : w.getRoute ns name = some route)
    (hout : Outcome digest route w w') :
    (∃ r, w'.getRoute ns name = some r ∧ Truthful w w' r) ↔ FreshStatus w route := by
  cases hout with
  | unusable hnone pruned =>
    have hget : w'.getRoute ns name = some route := by
      rw [World.getRoute, pruned.routes]
      exact hroute
    have hchildren : ¬ ∃ s ∈ w'.services, route.Owns s := by
      rintro ⟨s, hs, howns⟩
      simpa using pruned.desired h.labelled s hs howns
    constructor
    · rintro ⟨r, hr, htruth⟩
      obtain rfl := Option.some.inj (hget.symm.trans hr)
      refine ⟨htruth.detached, fun gw parent cfg _ hatt hcfg => ?_⟩
      exact absurd (hnone gw parent hatt) (by simp [hcfg])
    · intro hfresh
      have hnot := hfresh.detached hnone
      refine ⟨route, hget, iff_of_false ?_ hchildren, fun st hst hown c hc htrue => ?_,
        fun _ => hnot⟩
      · rintro ⟨st, hst, hsays⟩
        exact hnot st hst hsays
      · exact absurd ⟨hown, c, hc, htrue⟩ (hnot st hst)
  | rejected gw parent cfg unsupported w₁ hattached hcfg hback pruned status =>
    subst status
    rw [freshStatus_of_usable hattached hcfg,
      truthful_withCondition h hroute pruned.routes hattached hcfg rfl]
    · simp [hback]
    · simp only [Bool.false_eq_true, false_iff]
      rintro ⟨s, hs, howns⟩
      simpa using pruned.desired h.labelled s hs howns
  | translated gw parent cfg backends w₁ w₂ hattached hcfg hback applied pruned status =>
    obtain ⟨reason, message, rfl⟩ := status
    have hroutes : w₂.routes = w.routes := pruned.routes.trans applied.routes
    rw [freshStatus_of_usable hattached hcfg,
      truthful_withCondition h hroute hroutes hattached hcfg rfl]
    · simp [hback]
    · rw [decide_eq_true_iff]
      constructor
      · intro hne
        obtain ⟨h, hh, hmem⟩ := applied.child hne
        exact ⟨_, pruned.kept _ hmem (List.mem_map_of_mem hh), rfl, rfl⟩
      · rintro ⟨s, hs, howns⟩ hnil
        have hdesired := pruned.desired (applied.labelled h.labelled) s hs howns
        simp [hnil] at hdesired

/-- **The status of a route.** In every run, a pass over a route that returns no error leaves a
status that tells the truth if and only if the old status was fresh. -/
theorem route_status_truthful_iff (digest : String → String) (es : List Event) (ns name : String)
    (fault : Call → Option Fault) (route : HTTPRoute) (result : Result)
    (hroute : (run (step digest) World.empty es).getRoute ns name = some route)
    (hok : (reconcile ⟨fault, digest⟩ ns name (run (step digest) World.empty es)).1 = .ok result) :
    (∃ r, (run (step digest) World.empty (es ++ [.pass ns name fault])).getRoute ns name = some r ∧
        Truthful (run (step digest) World.empty es)
          (run (step digest) World.empty (es ++ [.pass ns name fault])) r) ↔
      FreshStatus (run (step digest) World.empty es) route := by
  rw [run_concat]
  have hpass : Triple (fun w => w = run (step digest) World.empty es)
      (reconcile ⟨fault, digest⟩ ns name)
      (fun _ => Outcome digest route (run (step digest) World.empty es)) fun _ _ => True :=
    reconcile_outcome hroute
  exact truthful_iff_of_outcome (orderly_run digest es) hroute (hpass.ok rfl (Prod.ext hok rfl))

/-! ### A route that moves -/

/-- The rule of the sample route. -/
def shopRules : List HTTPRouteRule := [⟨[], [], [{ name := "shop", port := some 80 }]⟩]

/-- A route is attached to the sample Gateway. -/
def attachRoute : List Event :=
  [.setClasses [⟨"netbird", gatewayController⟩], .setGateways [sampleGateway],
    .putRoute "edge" "shop" [{ name := "main" }] ["shop.foo.com"] shopRules]

/-- A first pass finds a fresh status, and leaves a true one. -/
theorem route_status_truthful_first :
    ∃ r, (run (step calm.digest) World.empty
        (attachRoute ++ [.pass "edge" "shop" calm.fault])).getRoute "edge" "shop" = some r ∧
      Truthful (run (step calm.digest) World.empty attachRoute)
        (run (step calm.digest) World.empty
          (attachRoute ++ [.pass "edge" "shop" calm.fault])) r :=
  (route_status_truthful_iff calm.digest attachRoute "edge" "shop" calm.fault
    ⟨"edge", "shop", 1, [{ name := "main" }], ["shop.foo.com"], shopRules, []⟩
    ⟨some resyncInterval⟩ (by decide +kernel) (by decide +kernel)).mpr ⟨by simp, by simp⟩

/-- The route is translated, and then its Gateway goes away. -/
def detachRoute : List Event :=
  attachRoute ++ [.pass "edge" "shop" calm.fault, .setGateways []]

/-- The route is translated, and then it moves to a second Gateway. -/
def moveRoute : List Event :=
  attachRoute ++ [.pass "edge" "shop" calm.fault,
    .setGateways [sampleGateway, { sampleGateway with name := "second" }],
    .putRoute "edge" "shop" [{ name := "second" }] ["shop.foo.com"] shopRules]

/-- The world after a pass that follows the events. -/
def afterPass (es : List Event) : World :=
  run (step calm.digest) World.empty (es ++ [.pass "edge" "shop" calm.fault])

/-- **Last-good status.** A pass over a detached route succeeds, deletes its only child and leaves
it accepted; a pass over a route that moved succeeds and reports the Gateway it came from. -/
theorem stale_status_after_detach :
    ((reconcile calm "edge" "shop" (run (step calm.digest) World.empty detachRoute)).1 =
        .ok ⟨none⟩ ∧ (afterPass detachRoute).services = [] ∧
      ¬ ∃ r, (afterPass detachRoute).getRoute "edge" "shop" = some r ∧
        Truthful (run (step calm.digest) World.empty detachRoute) (afterPass detachRoute) r) ∧
    ((reconcile calm "edge" "shop" (run (step calm.digest) World.empty moveRoute)).1 =
        .ok ⟨some resyncInterval⟩ ∧
      ¬ ∃ r, (afterPass moveRoute).getRoute "edge" "shop" = some r ∧
        Truthful (run (step calm.digest) World.empty moveRoute) (afterPass moveRoute) r) := by
  have hservices : (afterPass detachRoute).services = [] := by decide +kernel
  refine ⟨⟨by decide +kernel, hservices, ?_⟩, by decide +kernel, ?_⟩
  · rintro ⟨r, hr, htruth⟩
    have hparents : ((afterPass detachRoute).getRoute "edge" "shop").map HTTPRoute.parents =
        some [⟨{ name := "main" }, gatewayController,
          some ⟨true, "Accepted", "Translated to a NetBird ReverseProxyService", 1⟩⟩] := by
      decide +kernel
    rw [hr] at hparents
    have hparents := Option.some.inj hparents
    obtain ⟨s, hs, -⟩ := htruth.accepted_iff.mp
      ⟨_, by rw [hparents]; exact List.mem_cons_self, rfl, _, rfl, rfl⟩
    rw [hservices] at hs
    exact absurd hs (by simp)
  · rintro ⟨r, hr, htruth⟩
    have hroute : ((afterPass moveRoute).getRoute "edge" "shop").map
        (fun r => (r.parentRefs, r.parents)) =
        some ([{ name := "second" }], [⟨{ name := "main" }, gatewayController,
          some ⟨true, "Accepted", "Translated to a NetBird ReverseProxyService", 2⟩⟩]) := by
      decide +kernel
    rw [hr] at hroute
    obtain ⟨hrefs, hparents⟩ := Prod.mk.inj (Option.some.inj hroute)
    obtain ⟨⟨gw, hgw⟩, -⟩ := htruth.parent _ (by rw [hparents]; exact List.mem_cons_self) rfl _ rfl
      rfl
    have hmem := (names_of_attachment hgw).1
    rw [hrefs] at hmem
    exact absurd hmem (by decide +kernel)

end GatewayAPI

end NetbirdOperator
