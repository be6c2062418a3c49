import NetbirdOperator.ControlLoop.Queue
import NetbirdOperator.Gateway.Model
import NetbirdOperator.GatewayAPI.Convergence

/-!
# Routes at rest

When `HTTPRouteReconciler` runs over a route (`SetupWithManager` and `routesForGateway` of
`internal/controller/gateway_controller.go`): when the route has changed, when a service it controls
has, and when a Gateway that one of its parents names has. A pass also reads the classes of the
Gateways, and nobody watches those for it.

Users, the other controllers and the garbage collector may leave any world behind. The watches see
what is not the same before and after. So the question is only what the controller relies on, and
`Orderly` is the answer: the classes leave the attachment
of a route at rest as it was, routes of one namespace have different labels, and what carries the
label of a route is controlled by it. Under these a route at rest has exactly the children it should
have and its condition says so (`InSync`), in every state of every run, whichever calls fail and
without any timer.

## Scope

The periodic resync of the informers, many hours apart, is left out. The list request behind
`routesForGateway` may fail, and then nobody is woken.

## Main results

* `GatewayAPI.inSync_of_not_woken` — what nobody is woken for concerns no route
* `GatewayAPI.inSync_of_pass` — a pass that returns no error leaves its route in sync
* `GatewayAPI.RouteQueue.routes_at_rest` — routes at rest are in sync in every run
-/

namespace NetbirdOperator

open ControlLoop

namespace GatewayAPI

open Pass

variable {digest : String → String} {env : Env} {w w' : World} {route : HTTPRoute}
  {ns name : String} {s : ReverseProxyService} {listed : Bool}

/-! ### Whom the watches wake -/

/-- What a route is kept under. -/
def HTTPRoute.key (route : HTTPRoute) : String × String := (route.ns, route.name)

/-- What a Gateway is kept under. -/
def Gateway.key (gw : Gateway) : String × String := (gw.ns, gw.name)

/-- The route that controls a service. -/
def ReverseProxyService.controller (s : ReverseProxyService) : Option (String × String) :=
  s.owner.map fun owner => (s.ns, owner)

/-- `routesForGateway`: the routes that name the Gateway, or none if they cannot be `listed`. -/
def routesForGateway (listed : Bool) (w : World) (gw : Gateway) : List (String × String) :=
  if listed then
    (w.routes.filter fun route => NetbirdOperator.Gateway.routeReferencesGateway route gw).map
      HTTPRoute.key
  else []

/-- The routes that are woken when the world changes from `w` to `w'`: those that changed, those
that control a service that changed, and those that name a Gateway that changed. -/
def woken (listed : Bool) (w w' : World) : List (String × String) :=
  (changed w.routes w'.routes).map HTTPRoute.key ++
    ((changed w.services w'.services).filterMap ReverseProxyService.controller ++
      (changed w.gateways w'.gateways).flatMap (routesForGateway listed w'))

theorem not_mem_changed_routes (hnot : route.key ∉ woken listed w w') :
    route ∉ changed w.routes w'.routes :=
  fun hmem => hnot (List.mem_append_left _ (List.mem_map_of_mem hmem))

theorem not_mem_changed_services {k : String × String} (hnot : k ∉ woken listed w w')
    (hcontroller : s.controller = some k) : s ∉ changed w.services w'.services :=
  fun hmem => hnot (List.mem_append_right _ (List.mem_append_left _
    (List.mem_filterMap.mpr ⟨s, hmem, hcontroller⟩)))

theorem not_mem_changed_gateways {gw : Gateway} (hnot : route.key ∉ woken true w w')
    (hroute : route ∈ w'.routes)
    (hrefers : NetbirdOperator.Gateway.routeReferencesGateway route gw = true) :
    gw ∉ changed w.gateways w'.gateways := by
  intro hmem
  refine hnot (List.mem_append_right _ (List.mem_append_right _ (List.mem_flatMap.mpr
    ⟨gw, hmem, ?_⟩)))
  rw [routesForGateway, if_pos rfl]
  exact List.mem_map_of_mem (List.mem_filter.mpr ⟨hroute, hrefers⟩)

/-! ### In sync -/

/-- **Nothing is left to do for a route**: what carries its label is wanted, what is wanted is
there, and the condition is set. -/
structure InSync (digest : String → String) (w : World) (route : HTTPRoute) : Prop where
  only : ∀ s ∈ w.services, isChild digest route s = true → s ∈ wanted digest w route
  all : ∀ s ∈ wanted digest w route, s ∈ w.services
  reported : route.reported ((verdict w route).condition digest route) = route

/-- What is true of every world: names and labels tell routes apart, and a service carries the label
of a route only if the route controls it. -/
structure Tidy (digest : String → String) (w : World) : Prop where
  services : UniqueKeys ReverseProxyService.key w.services
  gateways : UniqueKeys Gateway.key w.gateways
  routes : UniqueKeys HTTPRoute.key w.routes
  labels : ∀ k ∈ w.routes.map HTTPRoute.key, ∀ k' ∈ w.routes.map HTTPRoute.key, k.1 = k'.1 →
    safeName digest k.2 labelValueMaxLen = safeName digest k'.2 labelValueMaxLen → k = k'
  attributed : ∀ s ∈ w.services, ∀ k ∈ w.routes.map HTTPRoute.key, s.ns = k.1 →
    s.httpRoute = some (safeName digest k.2 labelValueMaxLen) → s.owner = some k.2

theorem routeKey_of_getRoute (h : w.getRoute ns name = some route) : route.key = (ns, name) := by
  obtain ⟨hns, hname⟩ := key_of_getRoute h
  rw [HTTPRoute.key, hns, hname]

theorem controller_of_wanted (hs : s ∈ wanted digest w route) :
    s.controller = some route.key := by
  obtain ⟨cfg, backends, h, rfl⟩ := childOf_of_wanted hs
  rfl

theorem Tidy.controller (hw : Tidy digest w) (hroute : route ∈ w.routes)
    (hs : s ∈ w.services) (hchild : isChild digest route s = true) :
    s.controller = some route.key := by
  rw [isChild, decide_eq_true_iff] at hchild
  have howner := hw.attributed s hs route.key (List.mem_map_of_mem hroute) hchild.1 hchild.2
  rw [ReverseProxyService.controller, howner, hchild.1]
  rfl

theorem getRoute_of_not_woken (hw : Tidy digest w) (hnot : (ns, name) ∉ woken listed w w') :
    w'.getRoute ns name = w.getRoute ns name := by
  refine find?_eq_of_not_changed (fun r hr r' hr' hkey hkey' => ?_) fun r hr => ?_
  · refine hw.routes.eq hr hr' ?_
    rw [decide_eq_true_iff] at hkey hkey'
    rw [HTTPRoute.key, HTTPRoute.key, hkey.1, hkey.2, hkey'.1, hkey'.2]
  · refine decide_eq_false fun hkey => ?_
    have hsame : r.key = (ns, name) := by rw [HTTPRoute.key, hkey.1, hkey.2]
    exact not_mem_changed_routes (by rw [hsame]; exact hnot) hr

theorem getGateway_of_not_woken (hw : Tidy digest w) (hnot : route.key ∉ woken true w w')
    (hroute : route ∈ w'.routes) {p : ParentReference} (hp : p ∈ route.parentRefs) :
    w'.getGateway (p.ns.getD route.ns) p.name = w.getGateway (p.ns.getD route.ns) p.name := by
  refine find?_eq_of_not_changed (fun g hg g' hg' hkey hkey' => ?_) fun g hg => ?_
  · refine hw.gateways.eq hg hg' ?_
    rw [decide_eq_true_iff] at hkey hkey'
    rw [Gateway.key, Gateway.key, hkey.1, hkey.2, hkey'.1, hkey'.2]
  · refine decide_eq_false fun hkey => not_mem_changed_gateways hnot hroute ?_ hg
    exact List.any_eq_true.mpr ⟨p, hp, by simp [hkey]⟩

/-- The classes the world has do not matter to the attachment, compared with those of `w`. -/
def SameAttachment (w w' : World) (route : HTTPRoute) : Prop :=
  attachment { w' with classes := w.classes } route = attachment w' route

theorem findSome?_congr {α β : Type} {f g : α → Option β} {as : List α}
    (h : ∀ a ∈ as, f a = g a) : as.findSome? f = as.findSome? g := by
  induction as with
  | nil => rfl
  | cons a as ih =>
    obtain ⟨ha, has⟩ := List.forall_mem_cons.mp h
    rw [List.findSome?_cons, List.findSome?_cons, ha, ih has]

theorem attachment_of_not_woken (hw : Tidy digest w) (hnot : route.key ∉ woken true w w')
    (hroute : route ∈ w'.routes) (hclasses : SameAttachment w w' route) :
    attachment w' route = attachment w route := by
  rw [← hclasses, attachment, attachment]
  refine findSome?_congr fun p hp => ?_
  rw [attach, attach, ← getGateway_of_not_woken hw hnot hroute hp]
  rfl

/-- **What nobody is woken for concerns no route.** A route that is not woken is in sync after a
change if it was before. -/
theorem inSync_of_not_woken (hw : Tidy digest w) (hw' : Tidy digest w')
    (hnot : route.key ∉ woken true w w') (hroute : route ∈ w'.routes)
    (hclasses : SameAttachment w w' route) (h : InSync digest w route) :
    InSync digest w' route := by
  have hverdict : verdict w' route = verdict w route := by
    rw [verdict, verdict, attachment_of_not_woken hw hnot hroute hclasses]
  have hwanted : wanted digest w' route = wanted digest w route := by
    rw [wanted, wanted, hverdict]
  refine ⟨fun s hs hchild => ?_, fun s hs => ?_, by rw [hverdict]; exact h.reported⟩
  · have hsame := not_mem_changed_services hnot (hw'.controller hroute hs hchild)
    rw [hwanted]
    exact h.only s (mem_before_of_not_changed hs hsame) hchild
  · rw [hwanted] at hs
    have hsame := not_mem_changed_services hnot (controller_of_wanted hs)
    exact mem_after_of_not_changed (h.all s hs) hsame

theorem nodup_wanted (digest : String → String) (w : World) (route : HTTPRoute) :
    (wanted digest w route).Nodup := by
  rw [wanted]
  cases hv : verdict w route with
  | unusable => exact List.nodup_nil
  | rejected parent unsupported => exact List.nodup_nil
  | translated gw parent cfg backends =>
    refine (nodup_admittedHostnames gw route cfg).map fun h h' hsame => ?_
    exact congrArg (fun s => s.domain) hsame

/-- The children of a route in sync are the ones it should have. -/
theorem InSync.childrenOf (hw : Tidy digest w) (h : InSync digest w route) :
    ChildrenOf w route (w.services.filter (isChild digest route)) := by
  refine childrenOf_wanted ((List.perm_ext_iff_of_nodup (hw.services.nodup.filter _)
    (nodup_wanted digest w route)).mpr fun s => ?_)
  rw [List.mem_filter]
  exact ⟨fun hs => h.only s hs.1 hs.2, fun hs => ⟨h.all s hs, isChild_of_wanted hs⟩⟩

/-! ### A pass -/

theorem InSync.stable (hw : Tidy digest w) (hroute : w.getRoute ns name = some route)
    (h : InSync digest w route) : Stable digest w route where
  pruned s hs hchild := List.mem_map_of_mem (h.only s hs hchild)
  applied s hs := by
    rw [World.apply, applyService_eq_put, hw.services.put_of_mem (h.all s hs)]
  reported := by
    have hreported := h.reported
    cases hc : (verdict w route).condition digest route with
    | none => rfl
    | some pc =>
      rw [hc] at hreported
      have hparents : setAccepted pc.1 pc.2 route.parents = route.parents :=
        congrArg HTTPRoute.parents hreported
      rw [World.report, World.withCondition, hparents]
      have hsame : ∀ r ∈ w.routes, (if r.ns = route.ns ∧ r.name = route.name then
          { r with parents := route.parents } else r) = r := by
        intro r hr
        split
        · next hkey =>
          have : r = route := hw.routes.eq hr (mem_routes_of_getRoute hroute)
            (by rw [HTTPRoute.key, HTTPRoute.key, hkey.1, hkey.2])
          rw [this]
        · rfl
      rw [List.map_congr_left hsame, List.map_id']

/-- A pass over a route in sync changes nothing, wherever it gives up. -/
theorem reconcile_of_inSync (env : Env) (hw : Tidy env.digest w)
    (hroute : w.getRoute ns name = some route) (h : InSync env.digest w route) :
    (reconcile env ns name w).2 = w :=
  reconcile_stable hroute (h.stable hw hroute)

theorem reported_reported (c : Option (ParentReference × AcceptedCondition)) :
    (route.reported c).reported c = route.reported c := by
  cases c with
  | none => rfl
  | some pc => simp only [HTTPRoute.reported, setAccepted_setAccepted]

theorem getRoute_settled (hroute : w.getRoute ns name = some route) :
    (w.settled digest route).getRoute ns name =
      some (route.reported ((verdict w route).condition digest route)) :=
  getRoute_report (w := ⟨w.classes, w.gateways, w.routes, _⟩) _ hroute

/-- **A pass that returns no error leaves its route in sync.** -/
theorem inSync_of_pass (env : Env) (hw : Tidy env.digest w)
    (hlen : ∀ x, (env.digest x).length = 8) (hroute : w.getRoute ns name = some route)
    (hdigest : DigestsDiffer env.digest w route)
    {r : Result} (hrun : reconcile env ns name w = (.ok r, w')) {route' : HTTPRoute}
    (hroute' : w'.getRoute ns name = some route') : InSync env.digest w' route' := by
  obtain rfl := (reconcile_converges hroute hw.services).ok rfl hrun
  obtain rfl := Option.some.inj ((getRoute_settled hroute).symm.trans hroute')
  have hverdict : verdict (w.settled env.digest route)
      (route.reported ((verdict w route).condition env.digest route)) = verdict w route := by
    rw [World.settled, verdict_report]
    rfl
  have hwanted : wanted env.digest (w.settled env.digest route)
      (route.reported ((verdict w route).condition env.digest route)) =
        wanted env.digest w route := by
    rw [wanted, hverdict, children_reported]
    rfl
  have hunique := unique_wanted hlen hdigest
  have hchildren : ((w.settled env.digest route).services.filter (isChild env.digest route)).Perm
      (wanted env.digest w route) := by
    rw [World.settled, services_report]
    exact perm_converge hw.services hunique fun s hs => isChild_of_wanted hs
  refine ⟨fun s hs hchild => ?_, fun s hs => ?_, ?_⟩
  · rw [hwanted]
    rw [isChild_reported] at hchild
    exact hchildren.subset (List.mem_filter.mpr ⟨hs, hchild⟩)
  · rw [hwanted] at hs
    exact (List.mem_filter.mp (hchildren.symm.subset hs)).1
  · rw [hverdict, condition_reported, reported_reported]

theorem routeKeys_withCondition (w : World) (route : HTTPRoute) (parent : ParentReference)
    (cond : AcceptedCondition) :
    (w.withCondition route parent cond).routes.map HTTPRoute.key = w.routes.map HTTPRoute.key := by
  rw [World.withCondition, List.map_map]
  refine List.map_congr_left fun r _ => ?_
  show HTTPRoute.key (if _ then _ else _) = r.key
  split <;> rfl

/-- A pass keeps the world well formed, wherever it gives up. -/
theorem Tidy.pass (env : Env) (hw : Tidy env.digest w) (ns name : String) :
    Tidy env.digest (reconcile env ns name w).2 := by
  have hkept : Tidy env.digest (reconcile env ns name w).2 ∧
      (reconcile env ns name w).2.routes.map HTTPRoute.key = w.routes.map HTTPRoute.key := by
    refine reconcile_keeps (Q := fun w₁ => Tidy env.digest w₁ ∧
      w₁.routes.map HTTPRoute.key = w.routes.map HTTPRoute.key) (fun route hroute => ?_) ⟨hw, rfl⟩
    refine ⟨?_, ?_, ?_⟩
    · rintro _ - s - - w₁ ⟨h₁, hkeys⟩
      refine ⟨⟨h₁.services.filter _, h₁.gateways, h₁.routes, h₁.labels, fun t ht => ?_⟩, hkeys⟩
      exact h₁.attributed t (List.mem_of_mem_filter ht)
    · rintro gw parent cfg backends h - - - w₁ ⟨h₁, hkeys⟩
      have hservices : UniqueKeys ReverseProxyService.key
          (w₁.apply (childOf env.digest route cfg backends h)).services := by
        rw [World.apply, applyService_eq_put]
        exact h₁.services.put _
      refine ⟨⟨hservices, h₁.gateways, h₁.routes, h₁.labels, fun t ht k hk hns hlabel => ?_⟩,
        hkeys⟩
      rcases mem_applyService ht with ht | rfl
      · exact h₁.attributed t ht k hk hns hlabel
      · -- A child carries the label of its own route, which is that of no other.
        have hmem : route.key ∈ w₁.routes.map HTTPRoute.key := by
          rw [hkeys]
          exact List.mem_map_of_mem (mem_routes_of_getRoute hroute)
        have hsame := h₁.labels route.key hmem k hk hns (Option.some.inj hlabel)
        rw [← hsame]
        rfl
    · rintro parent cond w₁ ⟨h₁, hkeys⟩
      have hsame := routeKeys_withCondition w₁ route parent cond
      refine ⟨⟨h₁.services, h₁.gateways, ?_, ?_, ?_⟩, hsame.trans hkeys⟩
      · rw [UniqueKeys, hsame]
        exact h₁.routes
      · rw [hsame]
        exact h₁.labels
      · rw [hsame]
        exact h₁.attributed
  exact hkept.1

/-! ### Runs -/

namespace RouteQueue

/-- What the queue makes of the outcome of a pass. -/
def ending : Except Err Result → Ending
  | .error _ => .failed
  | .ok ⟨some _⟩ => .again
  | .ok ⟨none⟩ => .done

/-- The controller. The inputs of a pass are the calls that fail. -/
def controller (digest : String → String) :
    Controller World (String × String) (Call → Option Fault) where
  pass k fault w :=
    (ending (reconcile ⟨fault, digest⟩ k.1 k.2 w).1, (reconcile ⟨fault, digest⟩ k.1 k.2 w).2)
  woken := woken

abbrev Event := Controller.Event World (String × String) (Call → Option Fault)

/-- The effect of an event. -/
def step (digest : String → String) :
    Queued World (String × String) → Event → Queued World (String × String) :=
  (controller digest).step

/-- The controller starts: every route is awake. -/
def start (w : World) : Queued World (String × String) := .start w (w.routes.map HTTPRoute.key)

/-- **What the controller relies on.** Names and labels stay apart; a change of Gateways is listed;
and the classes leave the attachment of routes at rest as it was. The digests of the hostnames of a
route differ. -/
def Orderly (digest : String → String) (s : Queued World (String × String)) : Event → Prop
  | .others w listed _ => Tidy digest w ∧ (listed = true ∨ w.gateways = s.world.gateways) ∧
      ∀ route ∈ w.routes, route.key ∉ s.awake → SameAttachment s.world w route
  | .pass k _ _ => ∀ route, s.world.getRoute k.1 k.2 = some route →
      DigestsDiffer digest s.world route

/-- There is nothing to do for the route with that key. -/
def Idle (digest : String → String) (w : World) (k : String × String) : Prop :=
  ∀ route, w.getRoute k.1 k.2 = some route → InSync digest w route

/-- Where the Gateways stay, it does not matter whether the routes can be listed. -/
theorem woken_of_gateways (h : w'.gateways = w.gateways) : woken listed w w' = woken true w w' := by
  rw [woken, woken, h, changed_self]
  rfl

theorem idle_of_not_woken {k : String × String} (hw : Tidy digest w)
    (hw' : Tidy digest w') (hlisted : listed = true ∨ w'.gateways = w.gateways)
    (hnot : k ∉ woken listed w w')
    (hclasses : ∀ route ∈ w'.routes, route.key = k → SameAttachment w w' route)
    (h : Idle digest w k) : Idle digest w' k := by
  replace hnot : k ∉ woken true w w' := by
    rcases hlisted with rfl | hsame
    · exact hnot
    · rwa [← woken_of_gateways hsame]
  intro route hroute
  have hkey : route.key = k := routeKey_of_getRoute hroute
  have hmem := mem_routes_of_getRoute hroute
  have hbefore := (getRoute_of_not_woken hw hnot).symm.trans hroute
  exact inSync_of_not_woken hw hw' (hkey ▸ hnot) hmem (hclasses route hmem hkey) (h route hbefore)

theorem idle_of_pass (hlen : ∀ x, (digest x).length = 8) (hw : Tidy digest w)
    (fault : Call → Option Fault)
    (hdigest : ∀ route, w.getRoute ns name = some route → DigestsDiffer digest w route)
    (hend : ending (reconcile ⟨fault, digest⟩ ns name w).1 ≠ .failed) :
    Idle digest (reconcile ⟨fault, digest⟩ ns name w).2 (ns, name) := by
  intro route' hroute'
  cases hroute : w.getRoute ns name with
  | none =>
    rw [reconcile_of_none hroute] at hroute'
    exact absurd (hroute.symm.trans hroute') (by simp)
  | some route =>
    rcases hrun : reconcile ⟨fault, digest⟩ ns name w with ⟨r, w'⟩
    rw [hrun] at hroute' hend
    cases r with
    | error e => exact absurd rfl hend
    | ok r =>
      exact inSync_of_pass ⟨fault, digest⟩ hw hlen hroute (hdigest route hroute) hrun hroute'

/-- The classes and the Gateways are not the controller's to change. -/
theorem frame_of_pass (env : Env) (ns name : String) (w : World) :
    (reconcile env ns name w).2.classes = w.classes ∧
      (reconcile env ns name w).2.gateways = w.gateways :=
  reconcile_keeps (Q := fun v : World => v.classes = w.classes ∧ v.gateways = w.gateways)
    (fun _ _ => ⟨fun _ _ _ _ _ _ h => h, fun _ _ _ _ _ _ _ _ _ h => h, fun _ _ _ h => h⟩)
    ⟨rfl, rfl⟩

/-- The routes come to rest. -/
theorem rests (hlen : ∀ x, (digest x).length = 8) :
    (controller digest).Rests (Tidy digest) (Idle digest) (Orderly digest) where
  good s e hw he := by
    cases e with
    | others w listed also => exact he.1
    | pass k fault listed => exact hw.pass ⟨fault, digest⟩ k.1 k.2
  passed s k fault listed hw he hend _ := idle_of_pass hlen hw fault he hend
  kept s e k hw he hw' hawake hnot hidle := by
    cases e with
    | others w listed also =>
      obtain ⟨-, hlisted, hclasses⟩ := he
      exact idle_of_not_woken hw hw' hlisted hnot
        (fun route hroute hkey => hclasses route hroute (hkey ▸ hawake)) hidle
    | pass k' fault listed =>
      obtain ⟨hclasses, hgateways⟩ := frame_of_pass ⟨fault, digest⟩ k'.1 k'.2 s.world
      refine idle_of_not_woken hw hw' (.inr hgateways) hnot (fun route _ _ => ?_) hidle
      rw [SameAttachment, ← hclasses]
      rfl

theorem atRest_start (w : World) : AtRest (Idle digest) (start w) := by
  refine fun k hk route hroute => absurd ?_ hk
  rw [← show route.key = k from routeKey_of_getRoute hroute]
  exact List.mem_map_of_mem (mem_routes_of_getRoute hroute)

/-- **Routes at rest are in sync.** In every state of every orderly run, a route that is not awake
has exactly the children it should have, its condition says what it should, and a pass over it would
change nothing, wherever it gave up. -/
theorem routes_at_rest (digest : String → String) (hlen : ∀ x, (digest x).length = 8) (w : World)
    (hw : Tidy digest w) (es : List Event)
    (h : Along es fun pre e => Orderly digest (run (step digest) (start w) pre) e) :
    ∀ pre post, es = pre ++ post → ∀ ns name route,
      (run (step digest) (start w) pre).world.getRoute ns name = some route →
      (ns, name) ∉ (run (step digest) (start w) pre).awake →
        ChildrenOf (run (step digest) (start w) pre).world route
            ((run (step digest) (start w) pre).world.services.filter (isChild digest route)) ∧
          InSync digest (run (step digest) (start w) pre).world route ∧
          ∀ fault, (reconcile ⟨fault, digest⟩ ns name
            (run (step digest) (start w) pre).world).2 =
              (run (step digest) (start w) pre).world := by
  rintro pre post rfl ns name route hroute hrest
  obtain ⟨htidy, hatRest⟩ := (rests hlen).run (s := start w) hw (atRest_start w) h.left
  have hsync := hatRest (ns, name) hrest route hroute
  exact ⟨hsync.childrenOf htidy, hsync, fun fault =>
    reconcile_of_inSync ⟨fault, digest⟩ htidy hroute hsync⟩

/-- The first pass writes, which wakes the route, and the second finds nothing to do. -/
def twoPasses : List Event :=
  [.pass ("edge", "shop") calm.fault true, .pass ("edge", "shop") calm.fault true]

theorem tidy_sample : Tidy calm.digest (worldOf (routeTo toRedirect)) where
  services := by unfold UniqueKeys; decide
  gateways := by unfold UniqueKeys; decide
  routes := by unfold UniqueKeys; decide
  labels := by decide
  attributed := by decide

/-- A route with one child has no digests to tell apart. -/
theorem digestsDiffer_of_domain {h : String}
    (hone : (wanted digest w route).map (fun s => s.domain) = [h]) :
    DigestsDiffer digest w route := by
  have hdomain : ∀ s ∈ wanted digest w route, s.domain = h := by
    intro s hs
    have hmem := List.mem_map_of_mem (f := fun s => s.domain) hs
    rw [hone] at hmem
    exact List.mem_singleton.mp hmem
  intro s hs t ht _
  rw [hdomain s hs, hdomain t ht]

/-- After the two passes the sample route is at rest, and in sync. -/
theorem routes_at_rest_twoPasses :
    ((run (step calm.digest) (start (worldOf (routeTo toRedirect))) twoPasses).world.services.map
      fun s => s.domain) = ["shop.foo.com"] ∧
    ∃ route, (run (step calm.digest) (start (worldOf (routeTo toRedirect)))
        twoPasses).world.getRoute "edge" "shop" = some route ∧
      InSync calm.digest (run (step calm.digest) (start (worldOf (routeTo toRedirect)))
        twoPasses).world route := by
  have hone : ∀ (w : World) route, ((w.getRoute "edge" "shop").map fun r =>
      (wanted calm.digest w r).map fun s => s.domain) = some ["shop.foo.com"] →
        w.getRoute "edge" "shop" = some route → DigestsDiffer calm.digest w route := by
    intro w route hmap hroute
    rw [hroute] at hmap
    exact digestsDiffer_of_domain (Option.some.inj hmap)
  have horderly : Along twoPasses fun pre e =>
      Orderly calm.digest (run (step calm.digest) (start (worldOf (routeTo toRedirect))) pre) e :=
    along_cons.mpr ⟨fun route => hone _ route (by decide), along_cons.mpr
      ⟨fun route => hone _ route (by decide +kernel), along_nil⟩⟩
  refine ⟨by decide +kernel, ?_⟩
  obtain ⟨route, hroute⟩ : ∃ route, (run (step calm.digest) (start (worldOf (routeTo toRedirect)))
      twoPasses).world.getRoute "edge" "shop" = some route :=
    Option.isSome_iff_exists.mp (by decide +kernel)
  exact ⟨route, hroute, (routes_at_rest calm.digest (fun _ => by simp only [calm]; decide) _
    tidy_sample twoPasses horderly twoPasses [] (List.append_nil _).symm "edge" "shop" route hroute
    (by decide +kernel)).2.1⟩

end RouteQueue

end GatewayAPI

end NetbirdOperator
