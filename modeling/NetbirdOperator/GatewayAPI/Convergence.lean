import NetbirdOperator.ControlLoop.Desired
import NetbirdOperator.GatewayAPI.Isolation

/-!
# A pass converges

What a pass over a route that returns no error leaves, whatever services there were before. The
children are applied under their names and pruned by their label, so the services after a pass are
`ControlLoop.converge` of the children that are wanted (`reconcile_converges`), and the general
facts about it apply. There is one set of wanted children for all the exits: it is empty unless the
route is attached to a Gateway that has a proxy configuration and is translatable.

The status is the other thing a pass writes. It is a function of the same inputs, and setting it
twice is setting it once, so a second pass leaves the world as it is at every one of its steps
(`second_pass`). It may give up at any of them.

## Assumptions

Services are kept by namespace and name. A digest has eight characters, and those of the route's
hostnames differ.

## Main results

* `GatewayAPI.reconcile_converges` — the world a pass leaves
* `GatewayAPI.second_pass` — doing it again changes nothing
* `GatewayAPI.translation_converges` — the children after a pass are the wanted ones
-/

namespace NetbirdOperator

open ControlLoop

namespace GatewayAPI

open Pass

variable {env : Env} {digest : String → String} {w : World} {route : HTTPRoute}
  {ns name : String} {gw : Gateway} {cfg : GatewayProxy} {s t : ReverseProxyService}

/-! ### What a pass decides -/

/-- What a pass decides about a route. -/
inductive Verdict where
  | unusable
  | rejected (parent : ParentReference) (unsupported : String)
  | translated (gw : Gateway) (parent : ParentReference) (cfg : GatewayProxy)
      (backends : List ReverseProxyBackend)

/-- The first parent of the class, its proxy configuration, and the backends of the route. -/
def verdict (w : World) (route : HTTPRoute) : Verdict :=
  match attachment w route with
  | none => .unusable
  | some (gw, parent) =>
    match gatewayProxyConfig gw with
    | none => .unusable
    | some cfg =>
      match routeBackends route with
      | .error unsupported => .rejected parent unsupported
      | .ok backends => .translated gw parent cfg backends

section Verdict

variable {parent : ParentReference}

theorem verdict_of_unusable (h : ∀ gw parent, attachment w route = some (gw, parent) →
    gatewayProxyConfig gw = none) : verdict w route = .unusable := by
  cases hattached : attachment w route with
  | none => simp only [verdict, hattached]
  | some found => simp only [verdict, hattached, h found.1 found.2 hattached]

theorem verdict_of_error {unsupported : String} (h : attachment w route = some (gw, parent))
    (hcfg : gatewayProxyConfig gw = some cfg) (hback : routeBackends route = .error unsupported) :
    verdict w route = .rejected parent unsupported := by
  simp only [verdict, h, hcfg, hback]

theorem verdict_of_ok {backends : List ReverseProxyBackend}
    (h : attachment w route = some (gw, parent)) (hcfg : gatewayProxyConfig gw = some cfg)
    (hback : routeBackends route = .ok backends) :
    verdict w route = .translated gw parent cfg backends := by
  simp only [verdict, h, hcfg, hback]

end Verdict

/-- The children a verdict asks for. -/
def Verdict.children (digest : String → String) (route : HTTPRoute) :
    Verdict → List ReverseProxyService
  | .translated gw _ cfg backends =>
    (admittedHostnames gw route cfg).map (childOf digest route cfg backends)
  | _ => []

/-- The condition a verdict asks for, under its parent. -/
def Verdict.condition (digest : String → String) (route : HTTPRoute) :
    Verdict → Option (ParentReference × AcceptedCondition)
  | .unusable => none
  | .rejected parent unsupported =>
    some (parent, ⟨false, "UnsupportedValue", unsupported, route.generation⟩)
  | .translated gw parent cfg _ =>
    let c := GatewayAPI.translated route cfg
      ((admittedHostnames gw route cfg).map (routeChildName digest route.name))
    some (parent, ⟨c.1, c.2.1, c.2.2, route.generation⟩)

/-- **The children a route should have.** -/
def wanted (digest : String → String) (w : World) (route : HTTPRoute) : List ReverseProxyService :=
  (verdict w route).children digest route

/-! ### Services by their keys -/

/-- What a service is kept under. -/
def ReverseProxyService.key (s : ReverseProxyService) : String × String := (s.ns, s.name)

theorem key_eq_iff : s.key = t.key ↔ s.ns = t.ns ∧ s.name = t.name :=
  Prod.ext_iff

theorem applyService_eq_put (s : ReverseProxyService) (services : List ReverseProxyService) :
    applyService s services = put ReverseProxyService.key s services := by
  have hany : (services.any fun t => t.ns = s.ns ∧ t.name = s.name) = true ↔
      s.key ∈ services.map ReverseProxyService.key := by
    rw [List.any_eq_true, List.mem_map]
    simp only [decide_eq_true_eq, key_eq_iff]
  rw [applyService, put]
  simp only [hany, key_eq_iff]

/-! ### What the loops leave -/

theorem applyChildren_eq (backends : List ReverseProxyBackend) (hostnames : List String) :
    Triple (fun w' => w' = w) (applyChildren env route cfg backends hostnames)
      (fun _ w' => w' = { w with
        services := putAll ReverseProxyService.key
          (hostnames.map (childOf env.digest route cfg backends)) w.services })
      fun _ _ => True := by
  induction hostnames generalizing w with
  | nil => exact fun _ h => h
  | cons h rest ih =>
    refine Triple.bind (call_triple fun _ _ _ => trivial) fun _ => ?_
    refine Triple.bind (Q := fun _ w' => w' = { w with
      services := put ReverseProxyService.key (childOf env.digest route cfg backends h)
        w.services }) ?_ fun _ => ih
    rintro w' rfl
    show World.mk _ _ _ _ = World.mk _ _ _ _
    rw [applyService_eq_put]

theorem deleteUndesired_eq (desired : List String) (children : List ReverseProxyService) :
    Triple (fun w' => w' = w) (deleteUndesired env desired children)
      (fun _ w' => w' = { w with
        services := w.services.filter fun t =>
          ∀ s ∈ children, s.name ∈ desired ∨ t.key ≠ s.key })
      fun _ _ => True := by
  induction children generalizing w with
  | nil =>
    rintro w' rfl
    have hall : (w'.services.filter fun t => ∀ s ∈ ([] : List ReverseProxyService),
        s.name ∈ desired ∨ t.key ≠ s.key) = w'.services :=
      List.filter_eq_self.mpr fun t _ => by simp
    rw [hall]
    rfl
  | cons s rest ih =>
    rw [deleteUndesired]
    split
    · next hs =>
      have hs : s.name ∈ desired := by simpa using hs
      refine ih.conseq (fun _ h => h) (fun _ w' h => ?_) fun _ _ h => h
      simp only [h, List.forall_mem_cons, hs, true_or, true_and]
    · next hs =>
      have hs : s.name ∉ desired := by simpa using hs
      refine Triple.bind (call_triple fun _ _ _ => trivial) fun _ => ?_
      refine Triple.bind (Q := fun _ w' => w' = w.drop s) (fun w' h => by rw [h]; rfl) fun _ => ?_
      refine ih.conseq (fun _ h => h) (fun _ w' h => ?_) fun _ _ h => h
      rw [h, World.drop, List.filter_filter]
      simp only [List.forall_mem_cons, hs, false_or, Bool.decide_and, Bool.and_comm, ne_eq,
        key_eq_iff]

theorem prune_eq (hkeys : UniqueKeys ReverseProxyService.key w.services) (desired : List String) :
    Triple (fun w' => w' = w) (prune env route desired)
      (fun _ w' => w' = { w with
        services := pruneTo ReverseProxyService.key (isChild env.digest route)
          (desired.map fun name => (route.ns, name)) w.services })
      fun _ _ => True := by
  refine prune_triple ((deleteUndesired_eq desired _).conseq (fun _ h => h) (fun _ w' h => ?_)
    fun _ _ h => h)
  rw [h, ← filter_listed hkeys]
  congr 1
  refine List.filter_congr fun t _ => decide_eq_decide.mpr ?_
  refine forall_congr' fun s => forall_congr' fun hs => or_congr_left ?_
  -- The listed services are in the route's namespace, so their names are their keys.
  have hchild := (List.mem_filter.mp hs).2
  rw [isChild, decide_eq_true_iff] at hchild
  rw [ReverseProxyService.key, hchild.1, List.mem_map]
  simp

/-! ### The wanted children -/

theorem isChild_childOf (backends : List ReverseProxyBackend) (h : String) :
    isChild digest route (childOf digest route cfg backends h) = true := by
  rw [isChild, decide_eq_true_iff]
  exact ⟨rfl, rfl⟩

theorem childOf_of_wanted (hs : s ∈ wanted digest w route) :
    ∃ cfg backends h, s = childOf digest route cfg backends h := by
  rw [wanted] at hs
  cases hv : verdict w route with
  | unusable => simp [hv, Verdict.children] at hs
  | rejected parent unsupported => simp [hv, Verdict.children] at hs
  | translated gw parent cfg backends =>
    rw [hv] at hs
    obtain ⟨h, -, rfl⟩ := List.mem_map.mp hs
    exact ⟨cfg, backends, h, rfl⟩

theorem isChild_of_wanted (hs : s ∈ wanted digest w route) : isChild digest route s = true := by
  obtain ⟨cfg, backends, h, rfl⟩ := childOf_of_wanted hs
  exact isChild_childOf backends h

theorem nodup_admittedHostnames (gw : Gateway) (route : HTTPRoute) (cfg : GatewayProxy) :
    (admittedHostnames gw route cfg).Nodup := by
  by_cases hdecl : route.hostnames = []
  · rw [admittedHostnames_inherited hdecl]
    exact nodup_eraseDups _
  · rw [admittedHostnames_declared hdecl]
    exact nodup_eraseDups _

/-- The digests of the route's hostnames differ. -/
def DigestsDiffer (digest : String → String) (w : World) (route : HTTPRoute) : Prop :=
  ∀ s ∈ wanted digest w route, ∀ t ∈ wanted digest w route,
    digest (route.name ++ "\x00" ++ s.domain) = digest (route.name ++ "\x00" ++ t.domain) →
      s.domain = t.domain

/-- Wanted children have different names. -/
theorem unique_wanted (hlen : ∀ x, (digest x).length = 8) (hdigest : DigestsDiffer digest w route) :
    UniqueKeys ReverseProxyService.key (wanted digest w route) := by
  rw [DigestsDiffer, wanted] at hdigest
  rw [wanted]
  cases hv : verdict w route with
  | unusable => exact List.nodup_nil
  | rejected parent unsupported => exact List.nodup_nil
  | translated gw parent cfg backends =>
    rw [hv] at hdigest
    show (((admittedHostnames gw route cfg).map (childOf digest route cfg backends)).map _).Nodup
    rw [List.map_map]
    refine List.Nodup.map_on (fun h hh h' hh' hkey => ?_) (nodup_admittedHostnames gw route cfg)
    have hname : routeChildName digest route.name h = routeChildName digest route.name h' :=
      (Prod.mk.inj hkey).2
    exact hdigest _ (List.mem_map_of_mem hh) _ (List.mem_map_of_mem hh')
      (digest_eq_of_routeChildName_eq hlen hname)

/-! ### The world a pass leaves -/

/-- The world with the condition a verdict asks for. -/
def World.report (w : World) (route : HTTPRoute) :
    Option (ParentReference × AcceptedCondition) → World
  | none => w
  | some (parent, cond) => w.withCondition route parent cond

/-- **The world a pass leaves**: the wanted children in place of the others, and the condition. -/
def World.settled (w : World) (digest : String → String) (route : HTTPRoute) : World :=
  World.report { w with
    services := converge ReverseProxyService.key (isChild digest route) (wanted digest w route)
      w.services } route ((verdict w route).condition digest route)

theorem translate_settled {parent : ParentReference}
    (hkeys : UniqueKeys ReverseProxyService.key w.services)
    (hattached : attachment w route = some (gw, parent))
    (hcfg : gatewayProxyConfig gw = some cfg) :
    Triple (fun w' => w' = w) (translate env route gw parent cfg)
      (fun _ w' => w' = w.settled env.digest route) fun _ _ => True := by
  rw [translate]
  cases hback : routeBackends route with
  | error unsupported =>
    have hverdict := verdict_of_error hattached hcfg hback
    refine Triple.bind (prune_eq hkeys []) fun _ => ?_
    refine Triple.bind (setRouteCondition_ok parent false "UnsupportedValue" unsupported)
      fun _ w' h => ?_
    show w' = w.settled env.digest route
    rw [h, World.settled, wanted, hverdict]
    rfl
  | ok backends =>
    have hverdict := verdict_of_ok hattached hcfg hback
    refine Triple.bind (applyChildren_eq backends _) fun _ => ?_
    refine Triple.bind (prune_eq (hkeys.putAll _) _) fun _ => ?_
    refine Triple.bind (setRouteCondition_ok parent _ _ _) fun _ w' h => ?_
    show w' = w.settled env.digest route
    rw [h, World.settled, wanted, hverdict, converge, Verdict.children, List.map_map, List.map_map]
    rfl

/-- **A pass that returns no error settles the world.** -/
theorem reconcile_converges (hroute : w.getRoute ns name = some route)
    (hkeys : UniqueKeys ReverseProxyService.key w.services) :
    Triple (fun w' => w' = w) (reconcile env ns name)
      (fun _ w' => w' = w.settled env.digest route) fun _ _ => True := by
  refine reconcile_rule hroute (fun _ => trivial) (fun hnone => ?_)
    fun gw parent cfg hattached hcfg => translate_settled hkeys hattached hcfg
  refine (prune_eq hkeys []).conseq (fun _ h => h) (fun _ w' h => ?_) fun _ _ h => h
  rw [h, World.settled, wanted, verdict_of_unusable hnone]
  rfl

/-! ### A second pass -/

/-- **Nothing is left to do** for the route: what carries its label is wanted, what is wanted is
there, and the condition is set. -/
structure Stable (digest : String → String) (w : World) (route : HTTPRoute) : Prop where
  pruned : ∀ s ∈ w.services, isChild digest route s = true →
    s.key ∈ (wanted digest w route).map ReverseProxyService.key
  applied : ∀ s ∈ wanted digest w route, w.apply s = w
  reported : w.report route ((verdict w route).condition digest route) = w

theorem prune_stable {desired : List String}
    (h : ∀ s ∈ w.services, isChild env.digest route s = true → s.name ∈ desired) :
    Triple (fun w' => w' = w) (prune env route desired) (fun _ w' => w' = w)
      fun _ w' => w' = w := by
  refine prune_keeps ?_
  rintro w₁ rfl s hs hchild hnot
  exact absurd (h s hs hchild) hnot

theorem setRouteCondition_stable {parent : ParentReference} {status : Bool}
    {reason message : String}
    (h : w.withCondition route parent ⟨status, reason, message, route.generation⟩ = w) :
    Triple (fun w' => w' = w) (setRouteCondition env route parent status reason message)
      (fun _ w' => w' = w) fun _ w' => w' = w := by
  refine Triple.bind (call_triple fun _ _ h => h) fun _ => ?_
  rintro w' rfl
  exact h

theorem translate_stable {parent : ParentReference} (h : Stable env.digest w route)
    (hattached : attachment w route = some (gw, parent))
    (hcfg : gatewayProxyConfig gw = some cfg) :
    Triple (fun w' => w' = w) (translate env route gw parent cfg) (fun _ w' => w' = w)
      fun _ w' => w' = w := by
  obtain ⟨hpruned, happlied, hreported⟩ := h
  rw [wanted] at hpruned happlied
  rw [translate]
  cases hback : routeBackends route with
  | error unsupported =>
    rw [verdict_of_error hattached hcfg hback] at hpruned hreported
    refine Triple.bind (prune_stable fun s hs hchild => ?_) fun _ =>
      Triple.bind (setRouteCondition_stable hreported) fun _ _ h => h
    exact absurd (hpruned s hs hchild) List.not_mem_nil
  | ok backends =>
    rw [verdict_of_ok hattached hcfg hback] at hpruned happlied hreported
    refine Triple.bind (applyChildren_keeps fun h hh => ?_) fun _ =>
      Triple.bind (prune_stable fun s hs hchild => ?_) fun _ =>
        Triple.bind (setRouteCondition_stable hreported) fun _ _ h => h
    · rintro w' rfl
      exact happlied _ (List.mem_map_of_mem hh)
    · obtain ⟨c, hc, hkey⟩ := List.mem_map.mp (hpruned s hs hchild)
      obtain ⟨h, hh, rfl⟩ := List.mem_map.mp hc
      rw [← (key_eq_iff.mp hkey).2]
      exact List.mem_map_of_mem hh

/-- A pass over a route for which nothing is left to do changes nothing, wherever it gives up. -/
theorem reconcile_stable (hroute : w.getRoute ns name = some route)
    (h : Stable env.digest w route) : (reconcile env ns name w).2 = w := by
  refine Triple.final (P := fun w' => w' = w) (G := fun w' => w' = w) ?_ rfl
  refine reconcile_rule hroute (fun _ => rfl) (fun hnone => prune_stable fun s hs hchild => ?_)
    fun gw parent cfg hattached hcfg => translate_stable h hattached hcfg
  have hwanted := h.pruned s hs hchild
  rw [wanted, verdict_of_unusable hnone] at hwanted
  exact absurd hwanted List.not_mem_nil

theorem setAccepted_setAccepted (parent : ParentReference) (cond : AcceptedCondition)
    (parents : List RouteParentStatus) :
    setAccepted parent cond (setAccepted parent cond parents) =
      setAccepted parent cond parents := by
  induction parents with
  | nil => rfl
  | cons st rest ih =>
    rw [setAccepted]
    by_cases hown : st.controllerName = gatewayController
    · rw [if_pos hown, setAccepted, if_pos hown]
    · rw [if_neg hown, setAccepted, if_neg hown, ih]

/-- Setting the condition twice is setting it once. -/
theorem withCondition_withCondition (w : World) (route : HTTPRoute) (parent : ParentReference)
    (cond : AcceptedCondition) :
    (w.withCondition route parent cond).withCondition
        { route with parents := setAccepted parent cond route.parents } parent cond =
      w.withCondition route parent cond := by
  rw [World.withCondition, World.withCondition]
  congr 1
  dsimp only
  rw [List.map_map]
  refine List.map_congr_left fun r _ => ?_
  by_cases hkey : r.ns = route.ns ∧ r.name = route.name
  · simp only [Function.comp_apply, hkey, and_self, if_true, setAccepted_setAccepted]
  · simp only [Function.comp_apply, hkey, if_false]

/-- The route as a pass leaves it: its status may have changed. -/
def HTTPRoute.reported (route : HTTPRoute) :
    Option (ParentReference × AcceptedCondition) → HTTPRoute
  | none => route
  | some (parent, cond) => { route with parents := setAccepted parent cond route.parents }

section Report

variable (c : Option (ParentReference × AcceptedCondition))

theorem services_report : (w.report route c).services = w.services := by
  cases c <;> rfl

theorem classes_report : (w.report route c).classes = w.classes := by
  cases c <;> rfl

theorem gateways_report : (w.report route c).gateways = w.gateways := by
  cases c <;> rfl

theorem getRoute_report (hroute : w.getRoute ns name = some route) :
    (w.report route c).getRoute ns name = some (route.reported c) := by
  cases c with
  | none => exact hroute
  | some pc => exact getRoute_withCondition hroute

theorem report_report : (w.report route c).report (route.reported c) c = w.report route c := by
  cases c with
  | none => rfl
  | some pc => exact withCondition_withCondition w route pc.1 pc.2

/-- Nothing a pass writes decides about the route. -/
theorem verdict_report : verdict (w.report route c) (route.reported c) = verdict w route := by
  cases c <;> rfl

theorem children_reported (v : Verdict) :
    v.children digest (route.reported c) = v.children digest route := by
  cases c <;> cases v <;> rfl

theorem condition_reported (v : Verdict) :
    v.condition digest (route.reported c) = v.condition digest route := by
  cases c <;> cases v <;> rfl

theorem isChild_reported : isChild digest (route.reported c) = isChild digest route := by
  cases c <;> rfl

end Report

/-- **After a pass nothing is left to do.** -/
theorem settled_stable (hkeys : UniqueKeys ReverseProxyService.key w.services)
    (hlen : ∀ x, (digest x).length = 8) (hdigest : DigestsDiffer digest w route) :
    Stable digest (w.settled digest route)
      (route.reported ((verdict w route).condition digest route)) := by
  have hwanted : wanted digest (w.settled digest route)
      (route.reported ((verdict w route).condition digest route)) = wanted digest w route := by
    rw [wanted, World.settled, verdict_report, children_reported]
    rfl
  have hunique := unique_wanted hlen hdigest
  refine ⟨?_, ?_, ?_⟩
  · rw [hwanted, isChild_reported, World.settled, services_report]
    exact fun s hs hchild => key_mem_of_converge hs hchild
  · rw [hwanted]
    intro s hs
    have hput : applyService s (w.settled digest route).services =
        (w.settled digest route).services := by
      rw [applyService_eq_put, World.settled, services_report]
      exact put_converge hkeys hunique hs
    rw [World.apply, hput]
  · rw [condition_reported, World.settled, verdict_report]
    exact report_report _

/-- **A second pass changes nothing**, wherever it gives up. -/
theorem second_pass (hroute : w.getRoute ns name = some route)
    (hkeys : UniqueKeys ReverseProxyService.key w.services)
    (hlen : ∀ x, (env.digest x).length = 8) (hdigest : DigestsDiffer env.digest w route) :
    (reconcile env ns name (w.settled env.digest route)).2 = w.settled env.digest route :=
  reconcile_stable (getRoute_report _ hroute) (settled_stable hkeys hlen hdigest)

/-! ### The children after a pass -/

/-- The address of the cluster is made of the domain. -/
theorem clusterAddress_of_gatewayProxyConfig (h : gatewayProxyConfig gw = some cfg) :
    cfg.clusterAddress = "gate." ++ cfg.domain := by
  obtain ⟨l, -, hl⟩ := List.exists_of_findSome?_eq_some h
  rw [proxyOfListener] at hl
  split_ifs at hl
  split at hl
  · split at hl
    · cases hl
    · split_ifs at hl
      rw [← Option.some.inj hl]
  · cases hl

/-- The route is translated: its first parent of the operator's class has a proxy configuration,
and its rules are accepted. -/
def Translates (w : World) (route : HTTPRoute) (gw : Gateway) (cfg : GatewayProxy)
    (backends : List ReverseProxyBackend) : Prop :=
  (∃ parent, attachment w route = some (gw, parent)) ∧ gatewayProxyConfig gw = some cfg ∧
    routeBackends route = .ok backends

theorem wanted_of_translates {backends : List ReverseProxyBackend}
    (h : Translates w route gw cfg backends) :
    wanted digest w route =
      (admittedHostnames gw route cfg).map (childOf digest route cfg backends) := by
  obtain ⟨⟨parent, hattached⟩, hcfg, hback⟩ := h
  rw [wanted, verdict_of_ok hattached hcfg hback]
  rfl

theorem wanted_of_not_translates
    (h : ∀ gw cfg backends, ¬ Translates w route gw cfg backends) : wanted digest w route = [] := by
  rw [wanted]
  by_cases hnone : ∀ gw parent, attachment w route = some (gw, parent) →
      gatewayProxyConfig gw = none
  · rw [verdict_of_unusable hnone]
    rfl
  · push Not at hnone
    obtain ⟨gw, parent, hattached, hsome⟩ := hnone
    obtain ⟨cfg, hcfg⟩ := Option.ne_none_iff_exists'.mp hsome
    cases hback : routeBackends route with
    | error unsupported =>
      rw [verdict_of_error hattached hcfg hback]
      rfl
    | ok backends => exact absurd ⟨⟨parent, hattached⟩, hcfg, hback⟩ (h gw cfg backends)

/-- **The children of a route**: one for each admitted hostname if it is translated, and none if it
is not. -/
structure ChildrenOf (w : World) (route : HTTPRoute) (children : List ReverseProxyService) :
    Prop where
  each : ∀ gw cfg backends, Translates w route gw cfg backends →
    (admittedHostnames gw route cfg).Nodup ∧
    (children.map fun s => s.domain).Perm (admittedHostnames gw route cfg) ∧
    ∀ s ∈ children, s.proxyCluster = "gate." ++ cfg.domain ∧ s.backends = backends
  otherwise : (∀ gw cfg backends, ¬ Translates w route gw cfg backends) → children = []

theorem childrenOf_wanted {children : List ReverseProxyService}
    (h : children.Perm (wanted digest w route)) : ChildrenOf w route children := by
  refine ⟨fun gw cfg backends htr => ?_, fun hnot => ?_⟩
  · rw [wanted_of_translates htr] at h
    refine ⟨nodup_admittedHostnames gw route cfg, ?_, fun s hs => ?_⟩
    · have hdomains := h.map fun s => s.domain
      rw [List.map_map] at hdomains
      exact hdomains.trans (List.Perm.of_eq (List.map_id _))
    · obtain ⟨hostname, -, rfl⟩ := List.mem_map.mp (h.subset hs)
      exact ⟨clusterAddress_of_gatewayProxyConfig htr.2.1, rfl⟩
  · rw [wanted_of_not_translates hnot] at h
    exact h.eq_nil

/-- Neither a child of the route by its label nor under the name of one that is wanted. -/
def Foreign (digest : String → String) (w : World) (route : HTTPRoute) (s : ReverseProxyService) :
    Bool :=
  isChild digest route s = false ∧ s.key ∉ (wanted digest w route).map ReverseProxyService.key

theorem settled_foreign (w : World) (route : HTTPRoute) :
    (w.settled digest route).services.filter (Foreign digest w route) =
      w.services.filter (Foreign digest w route) := by
  rw [World.settled, services_report]
  exact filter_converge (fun s hs => of_decide_eq_true hs) w.services

/-- **A pass converges.** If it returns no error, the services that carry the route's label are its
children, all that is foreign to the route is as it was, and another pass changes nothing. -/
theorem translation_converges (env : Env) (w w' : World) (ns name : String) (route : HTTPRoute)
    (r : Result) (hroute : w.getRoute ns name = some route)
    (hkeys : UniqueKeys ReverseProxyService.key w.services)
    (hlen : ∀ x, (env.digest x).length = 8) (hdigest : DigestsDiffer env.digest w route)
    (hrun : reconcile env ns name w = (.ok r, w')) :
    ChildrenOf w route (w'.services.filter (isChild env.digest route)) ∧
    w'.services.filter (Foreign env.digest w route) =
      w.services.filter (Foreign env.digest w route) ∧
    w'.classes = w.classes ∧ w'.gateways = w.gateways ∧
    ∀ env' : Env, env'.digest = env.digest → (reconcile env' ns name w').2 = w' := by
  obtain rfl := (reconcile_converges hroute hkeys).ok rfl hrun
  have hchildren : ((w.settled env.digest route).services.filter (isChild env.digest route)).Perm
      (wanted env.digest w route) := by
    rw [World.settled, services_report]
    exact perm_converge hkeys (unique_wanted hlen hdigest) fun s hs => isChild_of_wanted hs
  refine ⟨childrenOf_wanted hchildren, settled_foreign w route, ?_, ?_, ?_⟩
  · exact classes_report _
  · exact gateways_report _
  · intro env' hsame
    rw [← hsame] at hlen hdigest ⊢
    exact second_pass hroute hkeys hlen hdigest

/-- What an earlier translation left, under a hostname that is gone, and a service of a user. -/
def olderServices : List ReverseProxyService :=
  [⟨"edge", "shop-old-foo-com-0a1b2c3d", some "shop", some "shop", "old.foo.com", "gate.foo.com",
      true, []⟩,
    ⟨"edge", "manual", none, none, "manual.foo.com", "gate.foo.com", false, []⟩]

def olderWorld : World := { worldOf (routeTo toRedirect) with services := olderServices }

theorem wanted_olderWorld :
    (wanted calm.digest olderWorld (routeTo toRedirect)).map (fun s => s.domain) =
      ["shop.foo.com"] := by
  decide

/-- The child of the hostname that is gone is pruned, the user's service stays. -/
theorem translation_converges_renamed :
    ChildrenOf olderWorld (routeTo toRedirect)
        ((reconcile calm "edge" "shop" olderWorld).2.services.filter
          (isChild calm.digest (routeTo toRedirect))) ∧
      (reconcile calm "edge" "shop" olderWorld).2.services.map (fun s => s.domain) =
        ["manual.foo.com", "shop.foo.com"] := by
  have hdigest : DigestsDiffer calm.digest olderWorld (routeTo toRedirect) := by
    intro s hs t ht _
    have hone : ∀ u ∈ wanted calm.digest olderWorld (routeTo toRedirect),
        u.domain = "shop.foo.com" := by
      intro u hu
      have hmem := List.mem_map_of_mem (f := fun s => s.domain) hu
      rw [wanted_olderWorld] at hmem
      exact List.mem_singleton.mp hmem
    rw [hone s hs, hone t ht]
  have hlen : ∀ x, (calm.digest x).length = 8 := fun _ => by simp only [calm]; decide
  refine ⟨(translation_converges calm olderWorld _ "edge" "shop" (routeTo toRedirect)
    ⟨some resyncInterval⟩ (by decide) (by unfold UniqueKeys; decide) hlen hdigest
    (Prod.ext (by decide) rfl)).1, by decide⟩

end GatewayAPI

end NetbirdOperator
