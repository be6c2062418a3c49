import NetbirdOperator.ControlLoop.Desired
import NetbirdOperator.ControlLoop.Queue
import NetbirdOperator.Gateway.Status

/-!
# Gateways at rest

When `GatewayReconciler` runs over a Gateway (`SetupWithManager`, `gatewaysForClass` and
`gatewaysForParams` of `internal/controller/gateway_controller.go`): when the Gateway has changed,
when its cluster has, when its class has, and when parameters of the name it refers to have. With
these four watches nothing that a Gateway's acceptance, its cluster and its conditions depend on
goes unnoticed. A Gateway of the operator's class that is not awake is translated: its cluster is
there with what its listeners and its parameters ask for (`Carries`), and its conditions say so for
its current generation (`Settled`).

A pass that asks to be repeated after `dependencyRetry` counts as one that failed. So a Gateway that
cannot be translated is never at rest.

## Scope

The listeners' entries of the status are not part of `Settled`. They depend on the routes and on the
Secrets, which the controller does not watch; only the next periodic pass brings them up to date.
The same goes for an address that the cluster no longer has. A cluster of a Gateway's name is taken
to carry the Gateway as its controller, as every pass applies it.

## Main results

* `Gateway.translation_of_not_woken`, `settled_of_pass` — what nobody is woken for, and what a pass
  leaves
* `Gateway.GatewayQueue.gateways_at_rest` — Gateways at rest are settled in every run
-/

namespace NetbirdOperator

open ControlLoop

namespace Gateway

open Pass
open GatewayAPI (GatewayClass GatewayProxy gatewayController gatewayProxyConfig)
open ReverseProxyCluster (CR)

variable {w w' : World} {env : Env} {gw : GatewayObject} {ns name : String} {listed : Bool}
  {cfg : GatewayProxy} {params : ParametersSpec}

/-! ### Whom the watches wake -/

/-- What a Gateway is kept under. -/
def GatewayObject.key (gw : GatewayObject) : String × String := (gw.ns, gw.name)

def Parameters.key (params : Parameters) : String × String := (params.ns, params.name)

/-- `gatewaysForClass`: the Gateways of the class, or none if they cannot be `listed`. -/
def gatewaysForClass (listed : Bool) (w : World) (gc : GatewayClass) : List (String × String) :=
  if listed then
    (w.gateways.filter fun gw => gw.gatewayClassName = gc.name).map GatewayObject.key
  else []

/-- `gatewaysForParams`: the Gateways of the namespace with a reference of that name, of whatever
kind, or none if they cannot be `listed`. -/
def gatewaysForParams (listed : Bool) (w : World) (params : Parameters) : List (String × String) :=
  if listed then
    (w.gateways.filter fun gw => gw.ns = params.ns ∧
      gw.parametersRef.any fun ref => ref.name = params.name).map GatewayObject.key
  else []

/-- The Gateways that control the cluster. -/
def gatewaysOfCluster (w : World) (rpc : Entry CR) : List (String × String) :=
  (w.gateways.filter fun gw => isAt gw.ns (proxyClusterNameForGateway gw.toGateway) rpc.val).map
    GatewayObject.key

/-- The Gateways that are woken when the world changes from `w` to `w'`. -/
def woken (listed : Bool) (w w' : World) : List (String × String) :=
  (changed w.gateways w'.gateways).map GatewayObject.key ++
    ((changed w.proxies.rpcs.entries w'.proxies.rpcs.entries).flatMap (gatewaysOfCluster w') ++
      ((changed w.classes w'.classes).flatMap (gatewaysForClass listed w') ++
        (changed w.parameters w'.parameters).flatMap (gatewaysForParams listed w')))

/-- What is true of every world: names tell objects of a kind apart. -/
structure Tidy (w : World) : Prop where
  gateways : UniqueKeys GatewayObject.key w.gateways
  classes : UniqueKeys GatewayClass.name w.classes
  parameters : UniqueKeys Parameters.key w.parameters
  clusters : Valid w

theorem mem_gateways_of_getGateway (h : w.getGateway ns name = some gw) : gw ∈ w.gateways :=
  List.mem_of_find?_eq_some h

theorem key_of_getGateway (h : w.getGateway ns name = some gw) : gw.key = (ns, name) := by
  have hkey : gw.ns = ns ∧ gw.name = name := by simpa using List.find?_some h
  rw [GatewayObject.key, hkey.1, hkey.2]

theorem getGateway_of_not_woken (hw : Tidy w) (hnot : (ns, name) ∉ woken listed w w') :
    w'.getGateway ns name = w.getGateway ns name := by
  refine find?_eq_of_not_changed (fun g hg g' hg' hkey hkey' => ?_) fun g hg => ?_
  · refine hw.gateways.eq hg hg' ?_
    rw [decide_eq_true_iff] at hkey hkey'
    rw [GatewayObject.key, GatewayObject.key, hkey.1, hkey.2, hkey'.1, hkey'.2]
  · refine decide_eq_false fun hkey => hnot (List.mem_append_left _ ?_)
    have hmem := List.mem_map_of_mem (f := GatewayObject.key) hg
    rwa [GatewayObject.key, hkey.1, hkey.2] at hmem

theorem getCluster_of_not_woken (hw : Tidy w) (hgw : gw ∈ w'.gateways)
    (hnot : gw.key ∉ woken listed w w') :
    w'.getCluster gw.ns (proxyClusterNameForGateway gw.toGateway) =
      w.getCluster gw.ns (proxyClusterNameForGateway gw.toGateway) := by
  refine find?_eq_of_not_changed (fun e he f hf hkey hkey' => ?_) fun e he => ?_
  · simp only [isAt, decide_eq_true_iff] at hkey hkey'
    exact hw.clusters.unique e he f hf (hkey.1.trans hkey'.1.symm) (hkey.2.trans hkey'.2.symm)
  · by_contra hat
    refine hnot (List.mem_append_right _ (List.mem_append_left _ (List.mem_flatMap.mpr
      ⟨e, he, List.mem_map_of_mem (List.mem_filter.mpr ⟨hgw, ?_⟩)⟩)))
    exact Bool.of_not_eq_false hat

theorem getClass_of_not_woken (hw : Tidy w) (hgw : gw ∈ w'.gateways)
    (hnot : gw.key ∉ woken true w w') :
    w'.getClass gw.gatewayClassName = w.getClass gw.gatewayClassName := by
  refine find?_eq_of_not_changed (fun c hc c' hc' hkey hkey' => ?_) fun c hc => ?_
  · rw [decide_eq_true_iff] at hkey hkey'
    exact hw.classes.eq hc hc' (hkey.trans hkey'.symm)
  · refine decide_eq_false fun hkey => ?_
    refine hnot (List.mem_append_right _ (List.mem_append_right _ (List.mem_append_left _
      (List.mem_flatMap.mpr ⟨c, hc, ?_⟩))))
    rw [gatewaysForClass, if_pos rfl]
    exact List.mem_map_of_mem (List.mem_filter.mpr ⟨hgw, decide_eq_true hkey.symm⟩)

theorem getParameters_of_not_woken (hw : Tidy w) (hgw : gw ∈ w'.gateways)
    (hnot : gw.key ∉ woken true w w') {ref : ParametersReference}
    (href : gw.parametersRef = some ref) :
    w'.getParameters gw.ns ref.name = w.getParameters gw.ns ref.name := by
  refine find?_eq_of_not_changed (fun p hp p' hp' hkey hkey' => ?_) fun p hp => ?_
  · refine hw.parameters.eq hp hp' ?_
    rw [decide_eq_true_iff] at hkey hkey'
    rw [Parameters.key, Parameters.key, hkey.1, hkey.2, hkey'.1, hkey'.2]
  · refine decide_eq_false fun hkey => ?_
    refine hnot (List.mem_append_right _ (List.mem_append_right _ (List.mem_append_right _
      (List.mem_flatMap.mpr ⟨p, hp, ?_⟩))))
    rw [gatewaysForParams, if_pos rfl]
    exact List.mem_map_of_mem (List.mem_filter.mpr ⟨hgw, by simp [href, hkey.1, hkey.2]⟩)

/-- **What nobody is woken for** does not change how a Gateway is translated. -/
theorem translation_of_not_woken (hw : Tidy w) (hgw : gw ∈ w'.gateways)
    (hnot : gw.key ∉ woken true w w') : translation env w' gw = translation env w gw := by
  have hparams : resolveGatewayParams env w' gw = resolveGatewayParams env w gw := by
    cases href : gw.parametersRef with
    | none => rw [resolveGatewayParams, resolveGatewayParams, href]
    | some ref =>
      rw [resolveGatewayParams, resolveGatewayParams]
      simp only [href, getParameters_of_not_woken hw hgw hnot href]
  rw [translation, translation, getClass_of_not_woken hw hgw hnot, hparams]

/-! ### Settled -/

/-- The class of the Gateway is one of the operator's. -/
def Own (w : World) (gw : GatewayObject) : Prop :=
  ∃ gc, w.getClass gw.gatewayClassName = some gc ∧ gc.controllerName = gatewayController

/-- The specification has what the listeners and the parameters ask for. A field they leave empty is
not asked for. -/
structure Carries (cfg : GatewayProxy) (params : ParametersSpec) (spec : ReverseProxyCluster.Spec) :
    Prop where
  clusterAddress : spec.clusterAddress = cfg.clusterAddress
  domain : spec.domain = cfg.domain
  certSecretName : cfg.certSecret ≠ "" → spec.certSecretName = cfg.certSecret
  isPrivate : spec.isPrivate = params.isPrivate
  image : params.image ≠ "" → spec.image = params.image
  logLevel : params.logLevel ≠ "" → spec.logLevel = params.logLevel
  replicas : params.replicas.isSome → spec.replicas = params.replicas
  groups : params.groups ≠ [] → spec.groups = groupRefACs params.groups
  serviceAnnotations : ∀ key ∈ params.serviceAnnotations,
    spec.serviceAnnotations.lookup key = params.serviceAnnotations.lookup key

theorem carries_clusterSpec (cfg : GatewayProxy) (params : ParametersSpec)
    (rest : ReverseProxyCluster.Spec) : Carries cfg params (clusterSpec cfg params rest) where
  clusterAddress := rfl
  domain := rfl
  certSecretName h := if_pos h
  isPrivate := rfl
  image h := if_pos h
  logLevel h := if_pos h
  replicas h := if_pos h
  groups h := if_pos h
  serviceAnnotations _ := Finmap.lookup_union_left

/-- The Gateway and its cluster agree: the cluster has what the Gateway asks for, and the Gateway's
status says what the cluster's says. -/
structure Mirrors (gw : GatewayObject) (cfg : GatewayProxy) (params : ParametersSpec) (rpc : CR) :
    Prop where
  carries : Carries cfg params rpc.spec
  accepted : gw.status.accepted =
    some ⟨true, "Accepted", "Translated to a NetBird ReverseProxyCluster", gw.generation⟩
  programmed : ∃ cond, gw.status.programmed = some cond ∧ cond.status = ready rpc ∧
    cond.observedGeneration = gw.generation
  addresses : rpc.status.loadBalancerIP ≠ "" → gw.status.addresses = [rpc.status.loadBalancerIP]

/-- **Nothing is left to do for a Gateway.** If it is of the operator's class, it is translated to a
cluster that is there and agrees with it. -/
def Settled (w : World) (gw : GatewayObject) : Prop :=
  Own w gw → ∃ cfg params rpc, translation calmGateway w gw = some (cfg, params) ∧
    w.getCluster gw.ns (proxyClusterNameForGateway gw.toGateway) = some rpc ∧
    Mirrors gw cfg params rpc.val

theorem settled_of_not_woken (hw : Tidy w) (hgw : gw ∈ w'.gateways)
    (hnot : gw.key ∉ woken true w w') (h : Settled w gw) : Settled w' gw := by
  rw [Settled, Own, translation_of_not_woken hw hgw hnot, getCluster_of_not_woken hw hgw hnot,
    getClass_of_not_woken hw hgw hnot]
  exact h

/-! ### A pass -/

/-- What a pass accepts, a pass without failures accepts. -/
theorem translation_calm (h : translation env w gw = some (cfg, params)) :
    translation calmGateway w gw = some (cfg, params) := by
  rw [translation] at h ⊢
  cases hclass : w.getClass gw.gatewayClassName with
  | none => simp [hclass] at h
  | some gc =>
    simp only [hclass] at h ⊢
    split at h
    · simp at h
    next hown =>
    rw [if_neg hown]
    have hparams : ∀ p, resolveGatewayParams env w gw = .ok p →
        resolveGatewayParams calmGateway w gw = .ok p := by
      intro p
      rw [resolveGatewayParams, resolveGatewayParams]
      cases gw.parametersRef with
      | none => exact id
      | some ref =>
        dsimp only
        split
        · exact id
        cases env.fault .getParameters with
        | none => exact id
        | some f => simp
    split at h
    · simp at h
    next p hok => rw [hparams p hok]; exact h

/-- The cluster of a Gateway that has just been applied. -/
theorem carries_of_applied (hw : Valid w) {rpc : Entry CR}
    (h : (w.applied env gw cfg params).getCluster gw.ns
      (proxyClusterNameForGateway gw.toGateway) = some rpc) :
    Carries cfg params rpc.val.spec := by
  have hat := Store.prop_of_first h
  have hmem : rpc ∈ applyCluster env gw.toGateway cfg params w.proxies.rpcs :=
    Store.mem_of_first h
  rw [applyCluster] at hmem
  cases hfirst : w.proxies.rpcs.first
      (isAt gw.ns (proxyClusterNameForGateway gw.toGateway)) with
  | none =>
    have hfree : ∀ e ∈ w.proxies.rpcs,
        isAt gw.ns (proxyClusterNameForGateway gw.toGateway) e.val = false :=
      Store.first_eq_none.mp hfirst
    simp only [hfirst, Store.submit] at hmem
    split at hmem
    · exact absurd hat (by simp [hfree rpc hmem])
    · rcases Store.mem_create.mp hmem with hold | rfl
      · exact absurd hat (by simp [hfree rpc hold])
      · exact carries_clusterSpec cfg params _
  | some old =>
    have hsame : rpc ∈ w.proxies.rpcs → rpc = old := by
      intro hrpc
      have holdAt := Store.prop_of_first hfirst
      simp only [isAt, decide_eq_true_iff] at hat holdAt
      exact hw.unique rpc hrpc old (Store.mem_of_first hfirst) (hat.1.trans holdAt.1.symm)
        (hat.2.trans holdAt.2.symm)
    simp only [hfirst] at hmem
    split at hmem
    · next hspec =>
      rw [hsame hmem, hspec]
      exact carries_clusterSpec cfg params _
    · rw [Store.submit, Store.get_of_mem (Store.mem_of_first hfirst)] at hmem
      rcases Store.mem_update.mp hmem with ⟨hrpc, hne⟩ | ⟨rfl, -⟩
      · exact absurd (congrArg Entry.id (hsame hrpc)) hne
      · exact carries_clusterSpec cfg params _

/-- What the queue makes of the outcome of a pass. One that asks to be repeated soon counts as
failed. -/
def ending : Except Err Result → Ending
  | .error _ => .failed
  | .ok ⟨some t⟩ => if t = resyncInterval then .again else .failed
  | .ok ⟨none⟩ => .done

/-- **A pass leaves its Gateway settled**, unless it fails or asks to be repeated soon. -/
theorem settled_of_pass (hw : Tidy w) (hgw : w.getGateway ns name = some gw)
    (hend : ending (reconcile env ns name w).1 ≠ .failed) {gw' : GatewayObject}
    (hgw' : (reconcile env ns name w).2.getGateway ns name = some gw') :
    Settled (reconcile env ns name w).2 gw' := by
  rcases hrun : reconcile env ns name w with ⟨r, w'⟩
  rw [hrun] at hend hgw'
  cases r with
  | error e => exact absurd rfl hend
  | ok r =>
    rintro ⟨gc, hgc, hown⟩
    cases (reconcile_exit hgw).ok rfl hrun with
    | ignored hnone hforeign hw' =>
      subst hw'
      obtain rfl := Option.some.inj (hgw.symm.trans hgw')
      exact absurd hown (hforeign gc hgc)
    | refused hnone hr cond hw' =>
      subst hr
      exact absurd (show ending (.ok ⟨some dependencyRetry⟩) = .failed by decide) hend
    | translated cfg params hcfg rpc hrpc hw' =>
      subst hw'
      obtain rfl := Option.some.inj ((getGateway_withStatus hgw).symm.trans hgw')
      refine ⟨cfg, params, rpc, translation_calm hcfg, hrpc, carries_of_applied hw.clusters hrpc,
        rfl, ?_, fun hip => ?_⟩
      · simp only [syncedStatus]
        cases hready : ready rpc.val with
        | true => exact ⟨_, rfl, rfl, rfl⟩
        | false => exact ⟨_, rfl, rfl, rfl⟩
      · simp only [syncedStatus, if_pos hip]

/-- A pass keeps what its two writes keep. -/
theorem reconcile_keeps {Q : World → Prop} (env : Env) (ns name : String)
    (happlied : ∀ gw cfg params w', Q w' → Q (w'.applied env gw cfg params))
    (hstatus : ∀ gw status w', Q w' → Q (w'.withStatus gw status)) :
    Keeps Q (reconcile env ns name) := by
  have hcall : ∀ c, Keeps Q (call env c) := fun c => call_triple fun _ _ h => h
  have hupdate : ∀ gw status, Keeps Q (updateStatus env gw status) := fun gw status =>
    updateStatus_keeps (hstatus gw status)
  refine (hcall _).bind fun _ => (keeps_read _).bind fun found => ?_
  cases found with
  | none => exact keeps_pure _
  | some gw =>
    refine (hcall _).bind fun _ => (keeps_read _).bind fun gc => ?_
    cases gc with
    | none => exact keeps_pure _
    | some gc =>
      dsimp only
      split
      · exact keeps_pure _
      refine (keeps_read _).bind fun params => ?_
      cases params with
      | error msg => exact (hupdate _ _).bind fun _ => keeps_pure _
      | ok params =>
        cases gatewayProxyConfig gw.toGateway with
        | none => exact (hupdate _ _).bind fun _ => keeps_pure _
        | some cfg =>
          refine (hcall _).bind fun _ => ?_
          refine (keeps_modify (happlied gw cfg params.spec)).bind fun _ => ?_
          refine (hcall _).bind fun _ => (keeps_read _).bind fun rpc => ?_
          cases rpc with
          | none => exact keeps_throw _
          | some rpc =>
            refine ((keeps_read _).bind fun status => hupdate gw status).bind fun _ => ?_
            exact keeps_pure _

theorem gatewayKeys_withStatus (w : World) (gw : GatewayObject) (status : Status) :
    (w.withStatus gw status).gateways.map GatewayObject.key =
      w.gateways.map GatewayObject.key := by
  rw [World.withStatus, List.map_map]
  refine List.map_congr_left fun g _ => ?_
  show GatewayObject.key (if _ then _ else _) = g.key
  split <;> rfl

/-- The classes and the parameters are not the controller's to change, nor the names of Gateways. -/
theorem frame_of_pass (env : Env) (ns name : String) (w : World) :
    (reconcile env ns name w).2.classes = w.classes ∧
      (reconcile env ns name w).2.parameters = w.parameters ∧
      (reconcile env ns name w).2.gateways.map GatewayObject.key =
        w.gateways.map GatewayObject.key :=
  Triple.final (G := fun v : World => v.classes = w.classes ∧ v.parameters = w.parameters ∧
      v.gateways.map GatewayObject.key = w.gateways.map GatewayObject.key)
    (reconcile_keeps env ns name (fun _ _ _ _ h => h) fun gw status w' h =>
      ⟨h.1, h.2.1, (gatewayKeys_withStatus w' gw status).trans h.2.2⟩) ⟨rfl, rfl, rfl⟩

theorem Tidy.pass (hw : Tidy w) (env : Env) (ns name : String) :
    Tidy (reconcile env ns name w).2 := by
  obtain ⟨hclasses, hparams, hkeys⟩ := frame_of_pass env ns name w
  refine ⟨?_, by rw [hclasses]; exact hw.classes, by rw [hparams]; exact hw.parameters, ?_⟩
  · rw [UniqueKeys, hkeys]
    exact hw.gateways
  · show Valid (Gateway.step allIPv4 w (.gatewayPass ns name env))
    exact hw.clusters.step _

/-! ### Runs -/

namespace GatewayQueue

/-- The controller. -/
def controller : Controller World (String × String) Env where
  pass k env w := (ending (reconcile env k.1 k.2 w).1, (reconcile env k.1 k.2 w).2)
  woken := woken

abbrev Event := Controller.Event World (String × String) Env

/-- The effect of an event. -/
def step : Queued World (String × String) → Event → Queued World (String × String) :=
  controller.step

/-- The controller starts: every Gateway is awake. -/
def start (w : World) : Queued World (String × String) :=
  .start w (w.gateways.map GatewayObject.key)

/-- **What the controller relies on.** Names stay apart, and a change of classes or parameters is
listed. -/
def Orderly (s : Queued World (String × String)) : Event → Prop
  | .others w listed _ => Tidy w ∧
      (listed = true ∨ w.classes = s.world.classes ∧ w.parameters = s.world.parameters)
  | .pass _ _ _ => True

/-- There is nothing to do for the Gateway with that key. -/
def Idle (w : World) (k : String × String) : Prop :=
  ∀ gw, w.getGateway k.1 k.2 = some gw → Settled w gw

/-- Where classes and parameters stay, it does not matter whether the Gateways can be listed. -/
theorem woken_of_same (hclasses : w'.classes = w.classes) (hparams : w'.parameters = w.parameters) :
    woken listed w w' = woken true w w' := by
  rw [woken, woken, hclasses, hparams, changed_self, changed_self]
  rfl

theorem idle_of_not_woken {k : String × String} (hw : Tidy w)
    (hlisted : listed = true ∨ w'.classes = w.classes ∧ w'.parameters = w.parameters)
    (hnot : k ∉ woken listed w w') (h : Idle w k) : Idle w' k := by
  replace hnot : k ∉ woken true w w' := by
    rcases hlisted with rfl | ⟨hclasses, hparams⟩
    · exact hnot
    · rwa [← woken_of_same hclasses hparams]
  intro gw hgw
  have hkey : gw.key = k := key_of_getGateway hgw
  have hbefore := (getGateway_of_not_woken hw hnot).symm.trans hgw
  exact settled_of_not_woken hw (mem_gateways_of_getGateway hgw) (hkey ▸ hnot) (h gw hbefore)

/-- The Gateways come to rest. -/
theorem rests : controller.Rests Tidy Idle Orderly where
  good s e hw he := by
    cases e with
    | others w listed also => exact he.1
    | pass k env listed => exact hw.pass env k.1 k.2
  passed s k env listed hw _ hend _ gw' hgw' := by
    cases hgw : s.world.getGateway k.1 k.2 with
    | none =>
      have hsame : (controller.pass k env s.world).2 = s.world := reconcile_of_none hgw
      rw [hsame, hgw] at hgw'
      exact absurd hgw' (by simp)
    | some gw => exact settled_of_pass hw hgw hend hgw'
  kept s e k hw he _ _ hnot hidle := by
    cases e with
    | others w listed also => exact idle_of_not_woken hw he.2 hnot hidle
    | pass k' env listed =>
      obtain ⟨hclasses, hparams, -⟩ := frame_of_pass env k'.1 k'.2 s.world
      exact idle_of_not_woken hw (.inr ⟨hclasses, hparams⟩) hnot hidle

theorem atRest_start (w : World) : AtRest Idle (start w) := by
  refine fun k hk gw hgw => absurd ?_ hk
  rw [← show gw.key = k from key_of_getGateway hgw]
  exact List.mem_map_of_mem (mem_gateways_of_getGateway hgw)

/-- **Gateways at rest are settled.** In every state of every orderly run, a Gateway of the
operator's class that is not awake is translated: its cluster has what its listeners and its
parameters ask for, and its conditions, of its current generation, say what the cluster's says. -/
theorem gateways_at_rest (w : World) (hw : Tidy w) (es : List Event)
    (h : Along es fun pre e => Orderly (run step (start w) pre) e) :
    ∀ pre post, es = pre ++ post → ∀ ns name gw,
      (run step (start w) pre).world.getGateway ns name = some gw →
      Own (run step (start w) pre).world gw → (ns, name) ∉ (run step (start w) pre).awake →
        ∃ cfg params rpc, gatewayProxyConfig gw.toGateway = some cfg ∧
          resolveGatewayParams calmGateway (run step (start w) pre).world gw = .ok params ∧
          (run step (start w) pre).world.getCluster gw.ns
            (proxyClusterNameForGateway gw.toGateway) = some rpc ∧
          Mirrors gw cfg params.spec rpc.val := by
  rintro pre post rfl ns name gw hgw hown hrest
  obtain ⟨-, hatRest⟩ := rests.run (s := start w) hw (atRest_start w) h.left
  obtain ⟨cfg, _, rpc, htrans, hrpc, hmirrors⟩ := hatRest (ns, name) hrest gw hgw hown
  obtain ⟨hcfg, params, hparams, rfl⟩ := of_translation htrans
  exact ⟨cfg, params, rpc, hcfg, hparams, hrpc, hmirrors⟩

/-- A Gateway with its class and its parameters. -/
def edgeWorld : World :=
  run (Gateway.step allIPv4) emptyStart
    [.setClasses [⟨"netbird", gatewayController⟩],
      .setParameters [⟨"edge", "params", { replicas := some 2, isPrivate := true }⟩],
      edgeGateway [edgeListener]]

theorem tidy_edgeWorld : Tidy edgeWorld :=
  ⟨by unfold UniqueKeys; decide, by unfold UniqueKeys; decide, by unfold UniqueKeys; decide,
    valid_run (valid_start .empty [] .empty) _⟩

/-- The first pass creates the cluster and writes the status, which wakes the Gateway; the second
finds nothing to do. -/
def twoPasses : List Event :=
  [.pass ("edge", "gw") calmGateway true, .pass ("edge", "gw") calmGateway true]

/-- After the two passes the Gateway is at rest, and settled. -/
theorem gateways_at_rest_twoPasses :
    ∃ gw, (run step (start edgeWorld) twoPasses).world.getGateway "edge" "gw" = some gw ∧
      ∃ cfg params rpc, gatewayProxyConfig gw.toGateway = some cfg ∧
        resolveGatewayParams calmGateway (run step (start edgeWorld) twoPasses).world gw =
          .ok params ∧
        (run step (start edgeWorld) twoPasses).world.getCluster gw.ns
          (proxyClusterNameForGateway gw.toGateway) = some rpc ∧
        Mirrors gw cfg params.spec rpc.val := by
  obtain ⟨gw, hgw, hclass⟩ : ∃ gw ∈ (run step (start edgeWorld) twoPasses).world.getGateway
      "edge" "gw", (run step (start edgeWorld) twoPasses).world.getClass gw.gatewayClassName =
        some ⟨"netbird", gatewayController⟩ := by decide +kernel
  have horderly : Along twoPasses fun pre e => Orderly (run step (start edgeWorld) pre) e :=
    along_cons.mpr ⟨trivial, along_cons.mpr ⟨trivial, along_nil⟩⟩
  exact ⟨gw, hgw, gateways_at_rest edgeWorld tidy_edgeWorld twoPasses horderly twoPasses []
    (List.append_nil _).symm "edge" "gw" gw hgw ⟨_, hclass, rfl⟩ (by decide +kernel)⟩

end GatewayQueue

end Gateway

end NetbirdOperator
