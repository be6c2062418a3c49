import NetbirdOperator.GatewayAPI.Model

/-!
# What a pass over a route leaves behind

Two ways to reason about `HTTPRouteReconciler.Reconcile`. `Closed` lists the writes a pass can make;
what survives each of them survives every pass, wherever it gives up (`reconcile_keeps`). `Outcome`
lists the exits of a pass that returns no error, each with the services and the status it leaves
(`reconcile_outcome`).

A pass resolves the first parent that is a Gateway of the operator's class (`attachment`); without
one, or if its Gateway has no proxy configuration, it deletes the children and is done. Otherwise it
translates the route or finds that it cannot, and writes the status either way.

## Main results

* `GatewayAPI.reconcile_keeps` — what survives each write survives every pass
* `GatewayAPI.reconcile_outcome` — a pass that returns no error takes one of the exits
-/

namespace NetbirdOperator

open ControlLoop Strings

namespace GatewayAPI

open Pass

variable {env : Env} {w w' : World} {gw : Gateway} {route : HTTPRoute} {cfg : GatewayProxy}
  {ns name : String}

/-! ### The parent -/

/-- The Gateway a parent reference leads to, if it is one of the operator's class. -/
def attach (w : World) (routeNs : String) (p : ParentReference) :
    Option (Gateway × ParentReference) :=
  (w.getGateway (p.ns.getD routeNs) p.name).bind fun gw =>
    (w.getClass gw.gatewayClassName).bind fun gc =>
      if gc.controllerName ≠ gatewayController then none else some (gw, p)

/-- The first parent that is a Gateway of the operator's class. -/
def attachment (w : World) (route : HTTPRoute) : Option (Gateway × ParentReference) :=
  route.parentRefs.findSome? (attach w route.ns)

theorem resolveFrom_triple (routeNs : String) (ps : List ParentReference) (i : ℕ) :
    Triple (fun w' => w' = w) (resolveFrom env routeNs i ps)
      (fun r w' => w' = w ∧ r = ps.findSome? (attach w routeNs)) fun _ w' => w' = w := by
  induction ps generalizing i with
  | nil => exact fun _ hw => ⟨hw, rfl⟩
  | cons p ps ih =>
    rw [resolveFrom]
    refine Triple.bind (call_triple fun _ _ h => h) fun _ => ?_
    refine Triple.bind (Q := fun found w' => w' = w ∧
      found = w.getGateway (p.ns.getD routeNs) p.name) (fun w' h => ⟨h, by rw [h]⟩) fun found => ?_
    refine Triple.assume fun hfound => ?_
    have hnext : attach w routeNs p = none → Triple (fun w' => w' = w)
        (resolveFrom env routeNs (i + 1) ps)
        (fun r w' => w' = w ∧ r = (p :: ps).findSome? (attach w routeNs)) fun _ w' => w' = w := by
      intro hnone
      rw [List.findSome?_cons_of_isNone (by rw [hnone]; rfl)]
      exact ih (i + 1)
    cases found with
    | none => exact hnext (by rw [attach, ← hfound, Option.bind_none])
    | some gw =>
      refine Triple.bind (call_triple fun _ _ h => h) fun _ => ?_
      refine Triple.bind (Q := fun found w' => w' = w ∧ found = w.getClass gw.gatewayClassName)
        (fun w' h => ⟨h, by rw [h]⟩) fun class? => ?_
      refine Triple.assume fun hclass => ?_
      have hattach : attach w routeNs p = (w.getClass gw.gatewayClassName).bind fun gc =>
          if gc.controllerName ≠ gatewayController then none else some (gw, p) := by
        rw [attach, ← hfound, Option.bind_some]
      rw [← hclass] at hattach
      cases class? with
      | none => exact hnext hattach
      | some gc =>
        rw [Option.bind_some] at hattach
        dsimp only
        split
        · next hname => exact hnext (by rw [hattach, if_pos hname])
        · next hname =>
          rw [if_neg hname] at hattach
          exact fun w' hw => ⟨hw, by rw [List.findSome?_cons, hattach]⟩

/-- **The parent** is the first that is a Gateway of the class. Finding it changes nothing. -/
theorem resolveGateway_triple (route : HTTPRoute) :
    Triple (fun w' => w' = w) (resolveGateway env route)
      (fun r w' => w' = w ∧ r = attachment w route) fun _ w' => w' = w :=
  resolveFrom_triple route.ns route.parentRefs 0

/-- **A pass over a route** from a given world: it prunes if the route is attached to no Gateway it
can use, and translates otherwise. Reading the route and its parents changes nothing. -/
theorem reconcile_rule {Q : World → Prop} {E : Err → World → Prop}
    (hroute : w.getRoute ns name = some route) (hE : ∀ e, E e w)
    (hprune : (∀ gw parent, attachment w route = some (gw, parent) →
        gatewayProxyConfig gw = none) →
      Triple (fun w' => w' = w) (prune env route []) (fun _ => Q) E)
    (htranslate : ∀ gw parent cfg, attachment w route = some (gw, parent) →
      gatewayProxyConfig gw = some cfg →
      Triple (fun w' => w' = w) (translate env route gw parent cfg) (fun _ => Q) E) :
    Triple (fun w' => w' = w) (reconcile env ns name) (fun _ => Q) E := by
  refine Triple.bind (call_triple fun e w' h => by rw [h]; exact hE e) fun _ => ?_
  refine Triple.bind (Q := fun found w' => w' = w ∧ found = some route)
    (fun w' h => ⟨h, by rw [h]; exact hroute⟩) fun found => Triple.assume fun hfound => ?_
  subst hfound
  refine Triple.bind ((resolveGateway_triple route).conseq (fun _ h => h) (fun _ _ h => h)
    fun e w' h => by rw [h]; exact hE e) fun attached => Triple.assume fun hattached => ?_
  match attached with
  | none =>
    refine (hprune fun gw parent h => ?_).bind fun _ _ h => h
    cases hattached.trans h
  | some (gw, parent) =>
    dsimp only
    cases hcfg : gatewayProxyConfig gw with
    | none =>
      refine (hprune fun gw' parent' h => ?_).bind fun _ _ h => h
      obtain ⟨rfl, -⟩ := Prod.mk.inj (Option.some.inj (hattached.trans h))
      exact hcfg
    | some cfg => exact htranslate gw parent cfg hattached.symm hcfg

/-! ### What survives a pass -/

/-- The world without the service of that name. -/
def World.drop (w : World) (s : ReverseProxyService) : World :=
  { w with services := w.services.filter fun t => ¬ (t.ns = s.ns ∧ t.name = s.name) }

/-- The world with a service applied. -/
def World.apply (w : World) (s : ReverseProxyService) : World :=
  { w with services := applyService s w.services }

/-- The world with the condition of a route set. -/
def World.withCondition (w : World) (route : HTTPRoute) (parent : ParentReference)
    (cond : AcceptedCondition) : World :=
  { w with
    routes := w.routes.map fun r =>
      if r.ns = route.ns ∧ r.name = route.name then
        { r with parents := setAccepted parent cond route.parents }
      else r }

/-- **The writes of a pass** over a route, started in `w₀`: it drops services with the route's
label, applies children of the route for admitted hostnames, and sets the condition. `Q` survives
each. -/
structure Closed (digest : String → String) (route : HTTPRoute) (w₀ : World) (Q : World → Prop) :
    Prop where
  drop : ∀ w₁, Q w₁ → ∀ s ∈ w₁.services, isChild digest route s = true → ∀ w, Q w → Q (w.drop s)
  apply : ∀ gw parent cfg backends h, attachment w₀ route = some (gw, parent) →
    gatewayProxyConfig gw = some cfg → h ∈ admittedHostnames gw route cfg →
      ∀ w, Q w → Q (w.apply (childOf digest route cfg backends h))
  condition : ∀ parent cond w, Q w → Q (w.withCondition route parent cond)

section Keeps

variable {Q : World → Prop}

theorem deleteUndesired_keeps {desired : List String} {children : List ReverseProxyService}
    (hQ : ∀ s ∈ children, s.name ∉ desired → ∀ w, Q w → Q (w.drop s)) :
    Triple Q (deleteUndesired env desired children) (fun _ => Q) fun _ => Q := by
  induction children with
  | nil => exact fun _ h => h
  | cons s rest ih =>
    have hrest := ih fun t ht => hQ t (List.mem_cons_of_mem s ht)
    rw [deleteUndesired]
    split
    · exact hrest
    · next hs =>
      refine Triple.bind (call_triple fun _ _ h => h) fun _ => Triple.bind ?_ fun _ => hrest
      exact fun w h => hQ s List.mem_cons_self (by simpa using hs) w h

theorem prune_keeps {desired : List String}
    (hQ : ∀ w₁, Q w₁ → ∀ s ∈ w₁.services, isChild env.digest route s = true →
      s.name ∉ desired → ∀ w, Q w → Q (w.drop s)) :
    Triple Q (prune env route desired) (fun _ => Q) fun _ => Q := by
  refine Triple.bind (call_triple fun _ _ h => h) fun _ => ?_
  refine Triple.bind (Q := fun children w => Q w ∧
    ∀ s ∈ children, s.name ∉ desired → ∀ w, Q w → Q (w.drop s))
    (fun w₁ h => ⟨h, fun s hs => ?_⟩) fun children => Triple.assume deleteUndesired_keeps
  obtain ⟨hmem, hchild⟩ := List.mem_filter.mp hs
  exact hQ w₁ h s hmem hchild

theorem applyChildren_keeps {backends : List ReverseProxyBackend} {hostnames : List String}
    (hQ : ∀ h ∈ hostnames, ∀ w, Q w → Q (w.apply (childOf env.digest route cfg backends h))) :
    Triple Q (applyChildren env route cfg backends hostnames) (fun _ => Q) fun _ => Q := by
  induction hostnames with
  | nil => exact fun _ h => h
  | cons h rest ih =>
    refine Triple.bind (call_triple fun _ _ hw => hw) fun _ => ?_
    refine Triple.bind (Q := fun _ => Q) (fun w hw => hQ h List.mem_cons_self w hw) fun _ => ?_
    exact ih fun x hx => hQ x (List.mem_cons_of_mem h hx)

theorem setRouteCondition_keeps {parent : ParentReference} {status : Bool} {reason message : String}
    (hQ : ∀ cond w, Q w → Q (w.withCondition route parent cond)) :
    Triple Q (setRouteCondition env route parent status reason message) (fun _ => Q)
      fun _ => Q :=
  Triple.bind (call_triple fun _ _ h => h) fun _ w h => hQ _ w h

theorem translate_keeps {parent : ParentReference} (hQ : Closed env.digest route w Q)
    (hattached : attachment w route = some (gw, parent))
    (hcfg : gatewayProxyConfig gw = some cfg) :
    Triple Q (translate env route gw parent cfg) (fun _ => Q) fun _ => Q := by
  have hprune : ∀ desired, Triple Q (prune env route desired) (fun _ => Q) fun _ => Q := fun _ =>
    prune_keeps fun w₁ h₁ s hs hchild _ => hQ.drop w₁ h₁ s hs hchild
  have hstatus : ∀ status reason message r, Triple Q
      (do setRouteCondition env route parent status reason message; pure r : M Result)
      (fun _ => Q) fun _ => Q := fun _ _ _ _ =>
    Triple.bind (setRouteCondition_keeps (hQ.condition parent)) fun _ _ h => h
  rw [translate]
  cases routeBackends route with
  | error unsupported => exact Triple.bind (hprune _) fun _ => hstatus _ _ _ _
  | ok backends =>
    refine Triple.bind (applyChildren_keeps fun h hh => ?_) fun _ =>
      Triple.bind (hprune _) fun _ => hstatus _ _ _ _
    exact hQ.apply gw parent cfg backends h hattached hcfg hh

theorem reconcile_keeps_triple (hroute : w.getRoute ns name = some route)
    (hQ : Closed env.digest route w Q) (h0 : Q w) :
    Triple (fun w' => w' = w) (reconcile env ns name) (fun _ => Q) fun _ => Q := by
  have hsame : ∀ w', w' = w → Q w' := fun w' h => h ▸ h0
  refine reconcile_rule hroute (fun _ => h0) (fun _ => ?_) fun gw parent cfg hattached hcfg =>
    (translate_keeps hQ hattached hcfg).of_pre hsame
  refine Triple.of_pre (prune_keeps fun w₁ h₁ s hs hchild _ => ?_) hsame
  exact hQ.drop w₁ h₁ s hs hchild

/-- A pass over a route that is not there does nothing. -/
theorem reconcile_of_none (h : w.getRoute ns name = none) : (reconcile env ns name w).2 = w := by
  refine Triple.final (P := fun w' => w' = w) (G := fun w' => w' = w) ?_ rfl
  refine Triple.bind (call_triple fun _ _ h => h) fun _ => ?_
  refine Triple.bind (Q := fun found w' => w' = w ∧ found = none)
    (fun w' hw => ⟨hw, by rw [hw]; exact h⟩) fun found => Triple.assume fun hfound => ?_
  subst hfound
  exact fun _ hw => hw

/-- **What survives each write of a pass survives the pass**, wherever it gives up. -/
theorem reconcile_keeps
    (hQ : ∀ route, w.getRoute ns name = some route → Closed env.digest route w Q) (h0 : Q w) :
    Q (reconcile env ns name w).2 := by
  cases hroute : w.getRoute ns name with
  | none =>
    rw [reconcile_of_none hroute]
    exact h0
  | some route => exact (reconcile_keeps_triple hroute (hQ route hroute) h0).final rfl

end Keeps

/-! ### What the loops leave -/

/-- Some services are gone: those of `gone` that are not desired. Those with a desired name are
not. -/
structure Removed (desired : List String) (gone : ReverseProxyService → Prop) (w w' : World) :
    Prop where
  routes : w'.routes = w.routes
  sub : ∀ s ∈ w'.services, s ∈ w.services
  gone : ∀ s ∈ w'.services, gone s → s.name ∈ desired
  kept : ∀ s ∈ w.services, s.name ∈ desired → s ∈ w'.services

theorem deleteUndesired_ok {desired : List String} (children : List ReverseProxyService)
    (gone : ReverseProxyService → Prop) :
    Triple (Removed desired gone w) (deleteUndesired env desired children)
      (fun _ => Removed desired (fun s => gone s ∨ s ∈ children) w) fun _ _ => True := by
  induction children generalizing gone with
  | nil =>
    intro w' h
    exact ⟨h.routes, h.sub, fun s hs hg => h.gone s hs (hg.resolve_right (by simp)), h.kept⟩
  | cons t rest ih =>
    have hmono : ∀ w', Removed desired (fun s => (gone s ∨ s = t) ∨ s ∈ rest) w w' →
        Removed desired (fun s => gone s ∨ s ∈ t :: rest) w w' := fun w' h =>
      ⟨h.routes, h.sub, fun s hs hg => h.gone s hs (by simpa [or_assoc] using hg), h.kept⟩
    have hrest := (ih fun s => gone s ∨ s = t).conseq (fun _ => id) (fun _ => hmono) fun _ _ => id
    rw [deleteUndesired]
    split
    · next ht =>
      have ht : t.name ∈ desired := by simpa using ht
      refine hrest.of_pre fun w' h => ⟨h.routes, h.sub, fun s hs hg => ?_, h.kept⟩
      rcases hg with hg | rfl
      · exact h.gone s hs hg
      · exact ht
    · next ht =>
      have ht : t.name ∉ desired := by simpa using ht
      refine Triple.bind (call_triple fun _ _ _ => trivial) fun _ => ?_
      refine Triple.bind (fun w' h => ?_) fun _ => hrest
      refine ⟨h.routes, fun s hs => h.sub s (List.mem_of_mem_filter hs), fun s hs hg => ?_,
        fun s hs hd => ?_⟩
      · rcases hg with hg | rfl
        · exact h.gone s (List.mem_of_mem_filter hs) hg
        · simp at hs
      · refine List.mem_filter.mpr ⟨h.kept s hs hd, ?_⟩
        have hne : s.name ≠ t.name := fun heq => ht (heq ▸ hd)
        simp [hne]

/-- **What pruning leaves**: of the services labelled for the route, those that are desired. -/
def Pruned (digest : String → String) (route : HTTPRoute) (desired : List String) :
    World → World → Prop :=
  Removed desired fun s => isChild digest route s = true

/-- Pruning goes through the services that are labelled for the route. -/
theorem prune_triple {desired : List String} {Q : Unit → World → Prop}
    (h : Triple (fun w' => w' = w)
      (deleteUndesired env desired (w.services.filter (isChild env.digest route))) Q
      fun _ _ => True) :
    Triple (fun w' => w' = w) (prune env route desired) Q fun _ _ => True := by
  refine Triple.bind (call_triple fun _ _ _ => trivial) fun _ => ?_
  refine Triple.bind (Q := fun children w' => w' = w ∧
    children = w.services.filter (isChild env.digest route)) (fun w' h => ⟨h, by rw [h]⟩)
    fun children => Triple.assume fun hchildren => ?_
  rw [hchildren]
  exact h

theorem prune_ok (desired : List String) :
    Triple (fun w' => w' = w) (prune env route desired)
      (fun _ => Pruned env.digest route desired w) fun _ _ => True := by
  refine prune_triple ((deleteUndesired_ok (w := w) _ fun _ => False).conseq ?_ (fun _ w' h => ?_)
    fun _ _ => id)
  · rintro w' rfl
    exact ⟨rfl, fun _ => id, fun _ _ => False.elim, fun _ hs _ => hs⟩
  · exact ⟨h.routes, h.sub, fun s hs hchild =>
      h.gone s hs (Or.inr (List.mem_filter.mpr ⟨h.sub s hs, hchild⟩)), h.kept⟩

theorem mem_applyService {s t : ReverseProxyService} {services : List ReverseProxyService}
    (h : t ∈ applyService s services) : t ∈ services ∨ t = s := by
  rw [applyService] at h
  split at h
  · obtain ⟨u, hu, rfl⟩ := List.mem_map.mp h
    split
    · exact Or.inr rfl
    · exact Or.inl hu
  · rcases List.mem_append.mp h with h | h
    · exact Or.inl h
    · exact Or.inr (List.mem_singleton.mp h)

theorem mem_applyService_self (s : ReverseProxyService) (services : List ReverseProxyService) :
    s ∈ applyService s services := by
  rw [applyService]
  split
  · next h =>
    obtain ⟨t, ht, hkey⟩ := List.any_eq_true.mp h
    exact List.mem_map.mpr ⟨t, ht, if_pos (by simpa using hkey)⟩
  · exact List.mem_append_right _ List.mem_cons_self

/-- **What the applies leave**: nothing new but children for `hostnames`, and one of them if
`any`. -/
structure Applied (digest : String → String) (route : HTTPRoute) (cfg : GatewayProxy)
    (backends : List ReverseProxyBackend) (hostnames : List String) (any : Prop) (w w' : World) :
    Prop where
  routes : w'.routes = w.routes
  sub : ∀ s ∈ w'.services,
    s ∈ w.services ∨ ∃ h ∈ hostnames, s = childOf digest route cfg backends h
  child : any → ∃ h ∈ hostnames, childOf digest route cfg backends h ∈ w'.services

theorem applyChildren_applied {backends : List ReverseProxyBackend} {all hostnames : List String}
    (any : Prop) (hsub : hostnames ⊆ all) :
    Triple (Applied env.digest route cfg backends all any w)
      (applyChildren env route cfg backends hostnames)
      (fun _ => Applied env.digest route cfg backends all (any ∨ hostnames ≠ []) w)
      fun _ _ => True := by
  induction hostnames generalizing any with
  | nil => exact fun w' h => ⟨h.routes, h.sub, fun ha => h.child (ha.resolve_right (by simp))⟩
  | cons h rest ih =>
    refine Triple.bind (call_triple fun _ _ _ => trivial) fun _ => ?_
    refine Triple.bind (Q := fun _ => Applied env.digest route cfg backends all True w)
      (fun w' hw => ?_) fun _ => ?_
    · refine ⟨hw.routes, fun s hs => ?_, fun _ => ⟨h, hsub List.mem_cons_self, ?_⟩⟩
      · rcases mem_applyService hs with hs | rfl
        · exact hw.sub s hs
        · exact Or.inr ⟨h, hsub List.mem_cons_self, rfl⟩
      · exact mem_applyService_self _ _
    · refine (ih True fun x hx => hsub (List.mem_cons_of_mem h hx)).conseq (fun _ => id)
        (fun _ w' hw => ?_) fun _ _ => id
      exact ⟨hw.routes, hw.sub, fun _ => hw.child (Or.inl trivial)⟩

theorem applyChildren_ok (backends : List ReverseProxyBackend) (hostnames : List String) :
    Triple (fun w' => w' = w) (applyChildren env route cfg backends hostnames)
      (fun _ => Applied env.digest route cfg backends hostnames (hostnames ≠ []) w)
      fun _ _ => True := by
  refine (applyChildren_applied (w := w) False fun _ => id).conseq ?_ (fun _ w' h => ?_)
    fun _ _ => id
  · rintro w' rfl
    exact ⟨rfl, fun _ => Or.inl, False.elim⟩
  · exact ⟨h.routes, h.sub, fun hne => h.child (Or.inr hne)⟩

/-! ### The exits -/

theorem setRouteCondition_ok (parent : ParentReference) (status : Bool) (reason message : String) :
    Triple (fun w' => w' = w) (setRouteCondition env route parent status reason message)
      (fun _ w' => w' = w.withCondition route parent ⟨status, reason, message, route.generation⟩)
      fun _ _ => True :=
  Triple.bind (call_triple fun _ _ _ => trivial) fun _ w' hw => by rw [hw]; rfl

/-- **The exits of a pass**, with what each of them leaves. -/
inductive Outcome (digest : String → String) (route : HTTPRoute) (w w' : World) : Prop
  | unusable (hnone : ∀ gw parent, attachment w route = some (gw, parent) →
      gatewayProxyConfig gw = none) (pruned : Pruned digest route [] w w')
  | rejected (gw : Gateway) (parent : ParentReference) (cfg : GatewayProxy) (unsupported : String)
      (w₁ : World) (hattached : attachment w route = some (gw, parent))
      (hcfg : gatewayProxyConfig gw = some cfg) (hback : routeBackends route = .error unsupported)
      (pruned : Pruned digest route [] w w₁)
      (status : w' = w₁.withCondition route parent
        ⟨false, "UnsupportedValue", unsupported, route.generation⟩)
  | translated (gw : Gateway) (parent : ParentReference) (cfg : GatewayProxy)
      (backends : List ReverseProxyBackend) (w₁ w₂ : World)
      (hattached : attachment w route = some (gw, parent))
      (hcfg : gatewayProxyConfig gw = some cfg) (hback : routeBackends route = .ok backends)
      (applied : Applied digest route cfg backends (admittedHostnames gw route cfg)
        (admittedHostnames gw route cfg ≠ []) w w₁)
      (pruned : Pruned digest route
        ((admittedHostnames gw route cfg).map (routeChildName digest route.name)) w₁ w₂)
      (status : ∃ reason message, w' = w₂.withCondition route parent
        ⟨decide (admittedHostnames gw route cfg ≠ []), reason, message, route.generation⟩)

theorem translated_fst (desired : List String) :
    (translated route cfg desired).1 = decide (desired ≠ []) := by
  unfold translated
  split
  · next h => simp [h]
  · next h => split <;> simp_all

theorem translate_outcome {parent : ParentReference}
    (hattached : attachment w route = some (gw, parent))
    (hcfg : gatewayProxyConfig gw = some cfg) :
    Triple (fun w' => w' = w) (translate env route gw parent cfg)
      (fun _ => Outcome env.digest route w) fun _ _ => True := by
  rw [translate]
  cases hback : routeBackends route with
  | error unsupported =>
    refine Triple.bind (prune_ok []) fun _ => ?_
    refine Triple.bind (Triple.relate fun w₁ =>
      setRouteCondition_ok parent false "UnsupportedValue" unsupported) fun _ => ?_
    rintro w' ⟨w₁, hpruned, hw'⟩
    exact .rejected gw parent cfg unsupported w₁ hattached hcfg hback hpruned hw'
  | ok backends =>
    refine Triple.bind (applyChildren_ok backends _) fun _ => ?_
    refine Triple.bind (Triple.relate fun w₁ => prune_ok _) fun _ => ?_
    refine Triple.bind (Triple.relate fun w₂ => setRouteCondition_ok parent _ _ _) fun _ => ?_
    rintro w' ⟨w₂, ⟨w₁, happlied, hpruned⟩, hw'⟩
    have hstatus : (translated route cfg
        ((admittedHostnames gw route cfg).map (routeChildName env.digest route.name))).1 =
        decide (admittedHostnames gw route cfg ≠ []) := by
      rw [translated_fst]
      simp
    rw [hstatus] at hw'
    exact .translated gw parent cfg backends w₁ w₂ hattached hcfg hback happlied hpruned
      ⟨_, _, hw'⟩

/-- **Every pass that returns no error takes one of the exits.** -/
theorem reconcile_outcome (hroute : w.getRoute ns name = some route) :
    Triple (fun w' => w' = w) (reconcile env ns name)
      (fun _ => Outcome env.digest route w) fun _ _ => True :=
  reconcile_rule hroute (fun _ => trivial)
    (fun hnone => (prune_ok []).conseq (fun _ h => h) (fun _ _ h => .unusable hnone h)
      fun _ _ h => h)
    fun _ _ _ hattached hcfg => translate_outcome hattached hcfg

end GatewayAPI

end NetbirdOperator
