import NetbirdOperator.ControlLoop.Run
import NetbirdOperator.Gateway.Model
import NetbirdOperator.LoadBalancer.Effects
import NetbirdOperator.ReverseProxyCluster.Status

/-!
# What the passes do to Gateways and clusters

Two descriptions. `Exit` lists the ways a pass over a Gateway ends without an error, with the world
it leaves. `Origin` says of a cluster where it comes from, whichever of the events happened, the
passes of both controllers with any outcome included; everything that is proved of a run is read off
it.

## Main results

* `Gateway.reconcile_exit` — a pass that returns no error takes one of the exits
* `Gateway.origin_of_step` — the one case analysis of the events, as far as the clusters go
* `Gateway.valid_run` — every state of a run is valid
-/

namespace NetbirdOperator

open ControlLoop

namespace Gateway

open Pass
open GatewayAPI (GatewayProxy gatewayController gatewayProxyConfig proxyOfListener)
open LoadBalancer (ObjectKey)
open ReverseProxyCluster (CR IPFamily Own Safe)

variable {ipFamilyOf : String → Option IPFamily} {w w' : World} {env : Env} {gw : GatewayObject}
  {ns name : String}

/-! ### A pass over a Gateway -/

/-- The proxy configuration and the parameters of a Gateway that a pass accepts: its class is the
operator's, the parameters are there, and a listener makes a configuration. -/
def translation (env : Env) (w : World) (gw : GatewayObject) :
    Option (GatewayProxy × ParametersSpec) :=
  match w.getClass gw.gatewayClassName with
  | none => none
  | some gc =>
    if gc.controllerName ≠ gatewayController then none
    else
      match resolveGatewayParams env w gw with
      | .error _ => none
      | .ok params => (gatewayProxyConfig gw.toGateway).map fun cfg => (cfg, params.spec)

/-- The world with the cluster of a Gateway applied. -/
def World.applied (w : World) (env : Env) (gw : GatewayObject) (cfg : GatewayProxy)
    (params : ParametersSpec) : World :=
  { w with
    proxies := { w.proxies with rpcs := applyCluster env gw.toGateway cfg params w.proxies.rpcs } }

/-- The world with the status of a Gateway written. -/
def World.withStatus (w : World) (gw : GatewayObject) (status : Status) : World :=
  { w with
    gateways := w.gateways.map fun g =>
      if g.ns = gw.ns ∧ g.name = gw.name then { g with status := status } else g }

/-- The exits of a pass over `gw` that returns no error. -/
inductive Exit (env : Env) (w : World) (gw : GatewayObject) (r : Result) (w' : World) : Prop
  | ignored (hnone : translation env w gw = none)
      (hforeign : ∀ gc, w.getClass gw.gatewayClassName = some gc →
        gc.controllerName ≠ gatewayController)
      (hw : w' = w)
  | refused (hnone : translation env w gw = none) (hr : r = ⟨some dependencyRetry⟩)
      (cond : StatusCondition)
      (hw : w' = w.withStatus gw { gw.status with accepted := some cond })
  | translated (cfg : GatewayProxy) (params : ParametersSpec)
      (hcfg : translation env w gw = some (cfg, params)) (rpc : Entry CR)
      (hrpc : (w.applied env gw cfg params).getCluster gw.ns
        (proxyClusterNameForGateway gw.toGateway) = some rpc)
      (hw : w' = (w.applied env gw cfg params).withStatus gw
        (syncedStatus env (w.applied env gw cfg params) gw cfg rpc.val))

theorem updateStatus_triple {status : Status} :
    Triple (fun w' => w' = w) (updateStatus env gw status)
      (fun _ w' => w' = w.withStatus gw status) fun _ _ => True := by
  refine Triple.bind (call_triple fun _ _ _ => trivial) fun _ => ?_
  rintro w' rfl
  rfl

theorem fail_triple (hnone : translation env w gw = none) (reason msg : String) :
    Triple (fun w' => w' = w) (fail env gw reason msg) (Exit env w gw)
      fun _ _ => True :=
  updateStatus_triple.bind fun _ _ hw => .refused hnone rfl _ hw

theorem translate_triple {cfg : GatewayProxy} {params : ParametersSpec}
    (hcfg : translation env w gw = some (cfg, params)) :
    Triple (fun w' => w' = w) (translate env gw cfg params) (Exit env w gw)
      fun _ _ => True := by
  refine Triple.bind (call_triple fun _ _ _ => trivial) fun _ => ?_
  refine Triple.bind (Q := fun _ w' => w' = w.applied env gw cfg params) ?_ fun _ => ?_
  · rintro w' rfl
    rfl
  refine Triple.bind (call_triple fun _ _ _ => trivial) fun _ => ?_
  refine Triple.bind (Q := fun rpc w' => w' = w.applied env gw cfg params ∧
    rpc = (w.applied env gw cfg params).getCluster gw.ns
      (proxyClusterNameForGateway gw.toGateway)) ?_ fun rpc => ?_
  · rintro w' rfl
    exact ⟨rfl, rfl⟩
  refine Triple.assume fun hrpc => ?_
  cases rpc with
  | none => exact fun _ _ => trivial
  | some rpc =>
    refine Triple.bind (Q := fun _ w' => w' = (w.applied env gw cfg params).withStatus gw
      (syncedStatus env (w.applied env gw cfg params) gw cfg rpc.val)) ?_ fun _ _ hw =>
        .translated cfg params hcfg rpc hrpc.symm hw
    refine Triple.bind (Q := fun status w' => w' = w.applied env gw cfg params ∧
      status = syncedStatus env (w.applied env gw cfg params) gw cfg rpc.val) ?_ fun status => ?_
    · rintro w' rfl
      exact ⟨rfl, rfl⟩
    refine Triple.assume ?_
    rintro rfl
    exact updateStatus_triple

/-- **The exits of a pass over a Gateway.** -/
theorem reconcile_exit (hgw : w.getGateway ns name = some gw) :
    Triple (fun w' => w' = w) (reconcile env ns name) (Exit env w gw)
      fun _ _ => True := by
  refine Triple.bind (call_triple fun _ _ _ => trivial) fun _ => ?_
  refine Triple.bind (Q := fun answer w' => w' = w ∧ answer = some gw) ?_ fun answer => ?_
  · rintro w' rfl
    exact ⟨rfl, hgw⟩
  refine Triple.assume ?_
  rintro rfl
  refine Triple.bind (call_triple fun _ _ _ => trivial) fun _ => ?_
  refine Triple.bind (Q := fun answer w' => w' = w ∧ w.getClass gw.gatewayClassName = answer) ?_
    fun answer => Triple.assume fun hclass => ?_
  · rintro w' rfl
    exact ⟨rfl, rfl⟩
  cases answer with
  | none =>
    exact fun _ hw => .ignored (by simp only [translation, hclass]) (by simp [hclass]) hw
  | some gc =>
    dsimp only
    split
    · next hother =>
      exact fun _ hw => .ignored (by simp only [translation, hclass, if_pos hother])
        (by simpa [hclass] using hother) hw
    · next hown =>
      refine Triple.bind (Q := fun params w' => w' = w ∧ resolveGatewayParams env w gw = params) ?_
        fun params => Triple.assume fun hparams => ?_
      · rintro w' rfl
        exact ⟨rfl, rfl⟩
      cases params with
      | error msg =>
        exact fail_triple (by simp only [translation, hclass, if_neg hown, hparams]) _ _
      | ok params =>
        cases hcfg : gatewayProxyConfig gw.toGateway with
        | none =>
          refine fail_triple ?_ _ _
          simp only [translation, hclass, if_neg hown, hparams, hcfg, Option.map_none]
        | some cfg =>
          refine translate_triple ?_
          simp only [translation, hclass, if_neg hown, hparams, hcfg, Option.map_some]

/-! ### What any pass over a Gateway writes -/

/-- The clusters are as they were, or the cluster of a Gateway has been applied to them; the
Services are as they were. -/
def Wrote (w w' : World) : Prop :=
  w'.ingress = w.ingress ∧ (w'.proxies.rpcs = w.proxies.rpcs ∨ ∃ env gw cfg params,
    gatewayProxyConfig gw = some cfg ∧
      w'.proxies.rpcs = applyCluster env gw cfg params w.proxies.rpcs)

theorem updateStatus_keeps {Q : World → Prop} {status : Status}
    (hQ : ∀ w', Q w' → Q (w'.withStatus gw status)) :
    Triple Q (updateStatus env gw status) (fun _ => Q) fun _ => Q :=
  Triple.bind (call_triple fun _ _ h => h) fun _ w' h => hQ w' h

theorem translate_wrote {cfg : GatewayProxy} (hcfg : gatewayProxyConfig gw.toGateway = some cfg)
    (params : ParametersSpec) :
    Triple (fun w' => w' = w) (translate env gw cfg params) (fun _ => Wrote w)
      fun _ => Wrote w := by
  refine Triple.bind (call_triple fun w' _ hw => hw ▸ ⟨rfl, .inl rfl⟩) fun _ => ?_
  refine Triple.bind (Q := fun _ => Wrote w) ?_ fun _ => ?_
  · rintro w' rfl
    exact ⟨rfl, .inr ⟨env, gw.toGateway, cfg, params, hcfg, rfl⟩⟩
  refine Triple.bind (call_triple fun _ _ h => h) fun _ => ?_
  refine Triple.bind (Q := fun _ => Wrote w) (fun _ h => h) fun rpc => ?_
  cases rpc with
  | none => exact fun _ h => h
  | some rpc =>
    refine Triple.bind (Q := fun _ => Wrote w) ?_ fun _ _ h => h
    exact Triple.bind (Q := fun _ => Wrote w) (fun _ h => h) fun _ =>
      updateStatus_keeps fun _ h => h

theorem reconcile_wrote (env : Env) (ns name : String) (w : World) :
    Wrote w (reconcile env ns name w).2 := by
  have hsame : ∀ w', w' = w → Wrote w w' := by
    rintro w' rfl
    exact ⟨rfl, .inl rfl⟩
  refine Triple.final (P := fun w' => w' = w) ?_ rfl
  refine Triple.bind (call_triple fun _ => hsame) fun _ => ?_
  refine Triple.bind (Q := fun _ w' => w' = w) (fun _ h => h) fun found => ?_
  cases found with
  | none => exact hsame
  | some gw =>
    refine Triple.bind (call_triple fun _ => hsame) fun _ => ?_
    refine Triple.bind (Q := fun _ w' => w' = w) (fun _ h => h) fun gc => ?_
    have hfail : ∀ reason msg, Triple (fun w' => w' = w) (fail env gw reason msg)
        (fun _ => Wrote w) fun _ => Wrote w := fun _ _ =>
      Triple.bind ((updateStatus_keeps fun _ h => h).of_pre hsame) fun _ _ h => h
    cases gc with
    | none => exact hsame
    | some gc =>
      dsimp only
      split
      · exact hsame
      refine Triple.bind (Q := fun _ w' => w' = w) (fun _ h => h) fun params => ?_
      cases params with
      | error msg => exact hfail _ _
      | ok _ =>
        cases hcfg : gatewayProxyConfig gw.toGateway with
        | none => exact hfail _ _
        | some cfg => exact translate_wrote hcfg _

theorem clusterAddress_ne_empty {g : GatewayAPI.Gateway} {cfg : GatewayProxy}
    (h : gatewayProxyConfig g = some cfg) : cfg.clusterAddress ≠ "" := by
  obtain ⟨l, -, hl⟩ := List.exists_of_findSome?_eq_some h
  unfold proxyOfListener at hl
  split at hl
  · split at hl
    · split at hl
      · simp at hl
      · split at hl
        · simp at hl
        · obtain rfl := Option.some.inj hl
          simp
    · simp at hl
  · simp at hl

/-- Applying a cluster is one admissible user event, or none. -/
theorem applyCluster_cases {g : GatewayAPI.Gateway} {cfg : GatewayProxy}
    (h : gatewayProxyConfig g = some cfg) (params : ParametersSpec) (rpcs : Store CR) :
    applyCluster env g cfg params rpcs = rpcs ∨
      ∃ ev, admits ev = true ∧ applyCluster env g cfg params rpcs = rpcs.submit {} ev := by
  have haddr := clusterAddress_ne_empty h
  rw [applyCluster]
  split
  · exact .inr ⟨_, by simpa [admits, clusterSpec] using haddr, rfl⟩
  · dsimp only
    split
    · exact .inl rfl
    · exact .inr ⟨_, by simpa [admits, clusterSpec] using haddr, rfl⟩

/-! ### Where a cluster comes from -/

/-- No key of a deletion has been lost. -/
structure KeysKept (o o' : CR) : Prop where
  token : o.status.tokenID.isSome → o'.status.tokenID.isSome
  domain : o.status.domainID.isSome → o'.status.domainID.isSome
  address : o.status.clusterAddress ≠ "" → o'.status.clusterAddress ≠ ""

/-- The Service of the cluster of that name. -/
def serviceOf (ns name : String) : ObjectKey := ⟨ns, "reverseproxycluster-" ++ name⟩

theorem serviceKey_eq (rpc : CR) : serviceKey rpc = serviceOf rpc.ns rpc.name := rfl

/-- Where a cluster of the next state comes from: it is new, under a name that was free; or it was
there, and the address it has on record is the one it had or one its Service has. -/
inductive Origin (w : World) (e : Entry CR) : Prop
  | fresh (hid : e.id = w.proxies.rpcs.next) (hstatus : e.val.status = {})
      (hfree : ∀ b ∈ w.proxies.rpcs, ¬ (b.val.ns = e.val.ns ∧ b.val.name = e.val.name))
  | kept (b : Entry CR) (hb : b ∈ w.proxies.rpcs) (hid : b.id = e.id) (hns : b.val.ns = e.val.ns)
      (hname : b.val.name = e.val.name) (hkeys : KeysKept b.val e.val)
      (hip : e.val.status.loadBalancerIP = b.val.status.loadBalancerIP ∨
        e.val.status.loadBalancerIP ∈ w.ingress (serviceOf e.val.ns e.val.name))

/-- What every state of a run has in common: a name denotes one cluster, and every cluster asks for
an address. -/
structure Valid (w : World) : Prop where
  unique : ∀ e ∈ w.proxies.rpcs, ∀ f ∈ w.proxies.rpcs,
    e.val.ns = f.val.ns → e.val.name = f.val.name → e = f
  address : ∀ e ∈ w.proxies.rpcs, e.val.spec.clusterAddress ≠ ""

theorem Origin.of_mem {e : Entry CR} (h : e ∈ w.proxies.rpcs) : Origin w e :=
  .kept e h rfl rfl rfl ⟨id, id, id⟩ (.inl rfl)

theorem origin_of_mem_submit {e : Entry CR} {ev : UserEvent ReverseProxyCluster.Spec}
    (h : e ∈ w.proxies.rpcs.submit {} ev) : Origin w e := by
  rcases Store.origin_of_mem_submit h with ⟨hid, hstatus, hfree⟩ | ⟨b, hb, hid, hns, hname, hstatus⟩
  · exact .fresh hid hstatus hfree
  · have hkeys : KeysKept b.val e.val := by constructor <;> rw [hstatus] <;> exact id
    exact .kept b hb hid hns hname hkeys (.inl (by rw [hstatus]))

theorem address_of_mem_submit (hw : Valid w) {e : Entry CR}
    {ev : UserEvent ReverseProxyCluster.Spec} (hev : admits ev = true)
    (h : e ∈ w.proxies.rpcs.submit {} ev) : e.val.spec.clusterAddress ≠ "" := by
  refine Store.spec_of_mem_submit (P := fun spec => spec.clusterAddress ≠ "") hw.address ?_ ?_ h
  · rintro ns name spec rfl
    simpa [admits] using hev
  · rintro uid spec rfl
    simpa [admits] using hev

/-- The addresses a cluster's pass reads are ingress IPs of its Service. -/
theorem mem_ingress_of_observed {uid : ℕ} {o : CR} {cenv : ReverseProxyCluster.Env}
    {answered : Bool} {fa : ReverseProxyCluster.FamilyAddress}
    (hget : w.proxies.rpcs.get uid = some o)
    (h : fa ∈ ReverseProxyCluster.serviceAddresses
      (observed ipFamilyOf w uid cenv answered).ingress) :
    fa.address ∈ w.ingress (serviceOf o.ns o.name) := by
  have hmem := ReverseProxyCluster.mem_of_mem_serviceAddresses h
  simp only [observed, hget] at hmem
  rw [← serviceKey_eq]
  split at hmem
  · exact (LoadBalancer.mem_lbIngressAddresses.mp hmem).1
  · simp at hmem

/-- A pass over a cluster that is not there leaves none behind. -/
theorem clusterPass_of_none {uid : ℕ} {cenv : ReverseProxyCluster.Env} {answered : Bool}
    (h : w.proxies.rpcs.get uid = none) :
    (clusterPass ipFamilyOf w uid cenv answered).2 = w.proxies := by
  rcases ReverseProxyCluster.reconcile_cases (observed ipFamilyOf w uid cenv answered) uid
    w.proxies with ⟨-, hstep⟩ | ⟨o, ho, -⟩
  · exact hstep
  · exact absurd (h.symm.trans ho) (by simp)

/-- The object of a cluster's pass, whatever its outcome. -/
theorem origin_of_clusterPass (hw : Valid w) {uid : ℕ} {cenv : ReverseProxyCluster.Env}
    {answered : Bool} {e : Entry CR}
    (h : e ∈ (clusterPass ipFamilyOf w uid cenv answered).2.rpcs) :
    Origin w e ∧ e.val.spec.clusterAddress ≠ "" := by
  have hothers : e.id ≠ uid → e ∈ w.proxies.rpcs := fun hne =>
    (Store.mem_iff_of_delete_eq (ReverseProxyCluster.reconcile_others _ uid w.proxies) hne).mp h
  by_cases hid : e.id = uid
  swap
  · exact ⟨.of_mem (hothers hid), hw.address e (hothers hid)⟩
  subst hid
  cases hget : w.proxies.rpcs.get e.id with
  | none =>
    rw [clusterPass_of_none hget] at h
    exact ⟨.of_mem h, hw.address e h⟩
  | some o =>
    have hmem := Store.get_eq_some.mp hget
    have hsafe : (clusterPass ipFamilyOf w e.id cenv answered).2.rpcs.get e.id = none ∨
        Own e.id (Safe (observed ipFamilyOf w e.id cenv answered) o)
          (clusterPass ipFamilyOf w e.id cenv answered).2 := by
      refine Triple.final (P := fun v => v = w.proxies)
        (G := fun v : ReverseProxyCluster.World => v.rpcs.get e.id = none ∨
          Own e.id (Safe (observed ipFamilyOf w e.id cenv answered) o) v) ?_ rfl
      refine (ReverseProxyCluster.reconcile_status (hw.address _ hmem) hget).conseq
        (fun _ h => h) ?_ fun _ _ h => .inr h
      rintro _ v (hgone | ⟨-, hown⟩)
      · exact .inl hgone
      · exact .inr (hown.mono fun _ hdone => ⟨hdone.1, hdone.2.tried⟩)
    rcases hsafe with hgone | ⟨o', ho', hkept, htried⟩
    · exact absurd rfl (Store.get_eq_none.mp hgone e h)
    · obtain rfl := Store.val_eq_of_get ho' h rfl
      refine ⟨.kept ⟨e.id, o⟩ hmem rfl hkept.ns.symm hkept.name.symm
        ⟨hkept.token, hkept.domain, hkept.address⟩ ?_, hkept.spec ▸ hw.address _ hmem⟩
      refine htried.imp_right ?_
      rintro ⟨fa, hfa, hip⟩
      rw [hip, hkept.ns, hkept.name]
      exact mem_ingress_of_observed hget hfa

/-- **Where a cluster comes from.** The one case analysis of the events. -/
theorem origin_of_step (hw : Valid w) (ev : Event) {e : Entry CR}
    (h : e ∈ (step ipFamilyOf w ev).proxies.rpcs) :
    Origin w e ∧ e.val.spec.clusterAddress ≠ "" := by
  have hold : e ∈ w.proxies.rpcs → Origin w e ∧ e.val.spec.clusterAddress ≠ "" :=
    fun he => ⟨.of_mem he, hw.address e he⟩
  have hsubmit : ∀ ev, admits ev = true → e ∈ w.proxies.rpcs.submit {} ev →
      Origin w e ∧ e.val.spec.clusterAddress ≠ "" :=
    fun ev hev he => ⟨origin_of_mem_submit he, address_of_mem_submit hw hev he⟩
  cases ev with
  | user ev =>
    rw [step] at h
    split at h
    · next hev => exact hsubmit ev hev h
    · exact hold h
  | enroll c =>
    refine hold ?_
    simp only [step, account, ReverseProxyCluster.step] at h
    split at h <;> exact h
  | foreignCreate r =>
    refine hold ?_
    simp only [step, account, ReverseProxyCluster.step] at h
    split at h <;> exact h
  | clusterPass uid cenv answered => exact origin_of_clusterPass hw h
  | gatewayPass ns name env =>
    obtain ⟨-, hsame | ⟨_, g, cfg, params, hcfg, happlied⟩⟩ := reconcile_wrote env ns name w
    · exact hold (hsame ▸ h)
    · rw [step, happlied] at h
      rcases applyCluster_cases hcfg params w.proxies.rpcs with hsame | ⟨ev, hev, hev'⟩
      · exact hold (hsame ▸ h)
      · exact hsubmit ev hev (hev' ▸ h)
  | putGateway _ _ => exact hold h
  | removeGateway _ _ => exact hold h
  | setClasses _ => exact hold h
  | setParameters _ => exact hold h
  | setRoutes _ => exact hold h
  | setSecrets _ => exact hold h
  | setIngress _ _ => exact hold h
  | unenroll _ => exact hold h
  | foreignDelete _ => exact hold h

/-! ### What is true of every run -/

theorem Valid.step (hw : Valid w) (ev : Event) : Valid (Gateway.step ipFamilyOf w ev) := by
  refine ⟨fun e he f hf hns hname => ?_, fun e he => (origin_of_step hw ev he).2⟩
  refine Store.eq_of_id_eq he hf ?_
  rcases (origin_of_step hw ev he).1 with ⟨hid, -, hfree⟩ | ⟨b, hb, hid, hbns, hbname, -, -⟩ <;>
    rcases (origin_of_step hw ev hf).1 with ⟨hid', -, hfree'⟩ | ⟨c, hc, hid', hcns, hcname, -, -⟩
  · rw [hid, hid']
  · exact absurd ⟨hcns.trans hns.symm, hcname.trans hname.symm⟩ (hfree c hc)
  · exact absurd ⟨hbns.trans hns, hbname.trans hname⟩ (hfree' b hb)
  · have heq := hw.unique b hb c hc (by rw [hbns, hns, hcns]) (by rw [hbname, hname, hcname])
    rw [← hid, ← hid', heq]

theorem valid_run {s : World} (hs : Valid s) (es : List Event) :
    Valid (run (step ipFamilyOf) s es) :=
  run_keeps hs fun _ ev hw => hw.step ev

theorem valid_start (domains : Store ReverseProxyCluster.Registration)
    (clusters : List ReverseProxyCluster.ProxyCluster)
    (tokens : Store ReverseProxyCluster.ProxyToken) :
    Valid (World.start domains clusters tokens) := by
  constructor
  · intro e he
    simp [World.start, ReverseProxyCluster.World.initial, Store.empty, Store.mem_def] at he
  · intro e he
    simp [World.start, ReverseProxyCluster.World.initial, Store.empty, Store.mem_def] at he

end Gateway

end NetbirdOperator
