import NetbirdOperator.Gateway.Effects

/-!
# Last-good values

Two controllers in a row report the addresses of a proxy. The ReverseProxyCluster records one of its
Service's ingress IPs, and the Gateway copies that record. Neither may show an address the Service
no longer has, or a Gateway as programmed that is not.

The chain meets at `Current`: what the cluster has on record is an address of its Service, or
nothing. A pass over the cluster establishes it, everything but a change of the Service's addresses
keeps it, and a pass over the Gateway copies from it. Two exits break the chain, both by leaving a
field as it was. A cluster's pass that finds no address resets the connectivity and keeps the
address (`ReverseProxyCluster.Ended.waiting`), and a Gateway's pass has nothing to copy then, or
does not accept the Gateway, and keeps its addresses and its `Programmed` condition. `Sound` asks of
each pass that the field such an exit would leave is one that is true.

The keys of a deletion are the opposite case: they have to stay, and they do, in every run.

## Main results

* `Gateway.Current.step` — only the Service makes a record stale
* `Gateway.status_truthful` — sound passes report the truth, and no event loses a key
* `Gateway.last_good_values_shown` — a proxy that lost its address, a Gateway that lost its listener
-/

namespace NetbirdOperator

open ControlLoop

namespace Gateway

open Pass
open GatewayAPI (GatewayProxy gatewayController gatewayProxyConfig)
open LoadBalancer (ObjectKey)
open ReverseProxyCluster (CR IPFamily found)

variable {ipFamilyOf : String → Option IPFamily} {w w' : World} {env : Env} {gw : GatewayObject}
  {ns name : String}

/-! ### What stays -/

/-- No event loses a key of a cluster that is there before and after it. -/
def KeepsKeys (w w' : World) : Prop :=
  ∀ uid o o', w.proxies.rpcs.get uid = some o → w'.proxies.rpcs.get uid = some o' → KeysKept o o'

theorem Valid.keepsKeys (hw : Valid w) (ev : Event) :
    KeepsKeys w (Gateway.step ipFamilyOf w ev) := by
  intro uid o o' ho ho'
  have hmem := Store.get_eq_some.mp ho
  rcases (origin_of_step hw ev (Store.get_eq_some.mp ho')).1 with
    ⟨hid, -, -⟩ | ⟨b, hb, hid, -, -, hkeys, -⟩
  · have hlt : uid < w.proxies.rpcs.next := Store.id_lt_next hmem
    exact absurd hid (Nat.ne_of_lt hlt)
  · rwa [Store.eq_of_id_eq hb hmem hid] at hkeys

/-- The clusters of that name have nothing on record, or an ingress IP of their Service. -/
def Current (w : World) (ns name : String) : Prop :=
  ∀ e ∈ w.proxies.rpcs, e.val.ns = ns → e.val.name = name →
    e.val.status.loadBalancerIP = "" ∨
      e.val.status.loadBalancerIP ∈ w.ingress (serviceOf ns name)

theorem ingress_step (ev : Event) (ns name : String)
    (hev : ∀ ips, ev ≠ .setIngress (serviceOf ns name) ips) :
    (step ipFamilyOf w ev).ingress (serviceOf ns name) = w.ingress (serviceOf ns name) := by
  cases ev with
  | setIngress service ips =>
    refine Function.update_of_ne ?_ _ _
    rintro rfl
    exact hev ips rfl
  | gatewayPass ns' name' env => exact congrFun (reconcile_wrote env ns' name' w).1 _
  | user ev =>
    rw [step]
    split <;> rfl
  | _ => rfl

/-- **Only the Service makes a record stale.** -/
theorem Current.step (hw : Valid w) (h : Current w ns name) {ev : Event}
    (hev : ∀ ips, ev ≠ .setIngress (serviceOf ns name) ips) :
    Current (Gateway.step ipFamilyOf w ev) ns name := by
  intro e he hns hname
  rw [ingress_step ev ns name hev]
  rcases (origin_of_step hw ev he).1 with ⟨-, hstatus, -⟩ | ⟨b, hb, -, hbns, hbname, -, hip⟩
  · exact .inl (by rw [hstatus])
  · rw [hns, hname] at hip
    rcases hip with hip | hip
    · rw [hip]
      exact h b hb (hbns.trans hns) (hbname.trans hname)
    · exact .inr hip

/-! ### What is to hold, and when it does -/

/-- The Service of the proxy of a Gateway. -/
def proxyService (gw : GatewayObject) : ObjectKey :=
  serviceOf gw.ns (proxyClusterNameForGateway gw.toGateway)

/-- A condition of the Gateway is there and true. -/
def holds (cond : Option StatusCondition) : Bool := cond.any StatusCondition.status

section Runs

variable (ipFamilyOf)

/-- **The condition on a pass.** A cluster's pass that will find no address of the Service finds
nothing on record either, or something that is true. A Gateway's pass finds no stale address in the
Gateway's status, unless it will copy one over it; and it does not find the Gateway programmed,
unless it accepts it. -/
def Sound (w : World) : Event → Prop
  | .clusterPass uid _ answered => ∀ o ∈ w.proxies.rpcs.get uid, o.deleting = false →
      (answered = true ∧ usable ipFamilyOf w o ≠ []) ∨ o.status.loadBalancerIP = "" ∨
        o.status.loadBalancerIP ∈ w.ingress (serviceKey o)
  | .gatewayPass ns name env => ∀ gw ∈ w.getGateway ns name,
      (((translation env w gw).isSome = true ∧
          ∃ rpc ∈ w.getCluster gw.ns (proxyClusterNameForGateway gw.toGateway),
            rpc.val.status.loadBalancerIP ≠ "") ∨
        ∀ a ∈ gw.status.addresses, a ∈ w.ingress (proxyService gw)) ∧
      ((translation env w gw).isSome = true ∨ holds gw.status.programmed = false)
  | _ => True

/-- A pass over the cluster of that name has returned no error, and the addresses of its Service
have not changed since. -/
def Reported (s : World) (es : List Event) (ns name : String) : Prop :=
  ∃ pre uid cenv answered post, es = pre ++ .clusterPass uid cenv answered :: post ∧
    (∃ o, (run (step ipFamilyOf) s pre).proxies.rpcs.get uid = some o ∧ o.ns = ns ∧ o.name = name) ∧
    (clusterPass ipFamilyOf (run (step ipFamilyOf) s pre) uid cenv answered).1.isOk = true ∧
    ∀ ev ∈ post, ∀ ips, ev ≠ .setIngress (serviceOf ns name) ips

/-- What a cluster's pass that returned no error leaves: the address on record is one the Service
has now, and the connectivity is reset unless the cluster was resolved in this pass. -/
def ClusterTruthful (w : World) (uid : ℕ) (cenv : ReverseProxyCluster.Env) (answered : Bool)
    (o : CR) : Prop :=
  (o.status.loadBalancerIP = "" ∨ o.status.loadBalancerIP ∈ w.ingress (serviceKey o)) ∧
    ((o.status.online = false ∧ o.status.connectedProxies = 0) ∨
      ∃ c, found (observed ipFamilyOf w uid cenv answered) w.proxies o = .ok (some c) ∧
        o.status.online = c.online ∧ o.status.connectedProxies = c.connectedProxies)

/-- What a Gateway's pass that returned no error leaves. If the cluster has reported, what it has on
record and the Gateway's addresses are ones the Service has now. The Gateway is programmed only if
this pass accepted it and found its cluster ready. -/
def GatewayTruthful (s : World) (es : List Event) (env : Env) (w w' : World) (gw : GatewayObject) :
    Prop :=
  (Reported ipFamilyOf s es gw.ns (proxyClusterNameForGateway gw.toGateway) →
      Current w' gw.ns (proxyClusterNameForGateway gw.toGateway) ∧
        ∀ a ∈ gw.status.addresses, a ∈ w'.ingress (proxyService gw)) ∧
    (holds gw.status.programmed = true →
      (translation env w gw).isSome = true ∧ holds gw.status.accepted = true ∧
        ∃ rpc, w'.getCluster gw.ns (proxyClusterNameForGateway gw.toGateway) = some rpc ∧
          ready rpc.val = true)

/-- What is to hold of an event after the events `es`. -/
def Truthful (s : World) (es : List Event) (ev : Event) : Prop :=
  let w := run (step ipFamilyOf) s es
  let w' := step ipFamilyOf w ev
  match ev with
  | .clusterPass uid cenv answered =>
    (clusterPass ipFamilyOf w uid cenv answered).1.isOk = true →
      ∀ o, w'.proxies.rpcs.get uid = some o → ClusterTruthful ipFamilyOf w uid cenv answered o
  | .gatewayPass ns name env =>
    (reconcile env ns name w).1.isOk = true →
      ∀ gw, w'.getGateway ns name = some gw → GatewayTruthful ipFamilyOf s es env w w' gw
  | _ => True

end Runs

/-- **A sound pass over a cluster** that returns no error. -/
theorem clusterTruthful_of_sound (hw : Valid w) {uid : ℕ} {cenv : ReverseProxyCluster.Env}
    {answered : Bool} (hsound : Sound ipFamilyOf w (.clusterPass uid cenv answered))
    (hok : (clusterPass ipFamilyOf w uid cenv answered).1.isOk = true) {o o' : CR}
    (ho : w.proxies.rpcs.get uid = some o)
    (ho' : (clusterPass ipFamilyOf w uid cenv answered).2.rpcs.get uid = some o') :
    ClusterTruthful ipFamilyOf w uid cenv answered o' := by
  have hmem := Store.get_eq_some.mp ho
  rcases hpass : clusterPass ipFamilyOf w uid cenv answered with ⟨r, v⟩
  rw [hpass] at hok ho'
  cases r with
  | error e => simp [Except.isOk, Except.toBool] at hok
  | ok r =>
    rcases (ReverseProxyCluster.reconcile_status (hw.address _ hmem) ho).ok rfl hpass with
      hgone | ⟨hlive, o'', ho'', hkept, hended⟩
    · exact absurd (hgone.symm.trans ho') (by simp)
    obtain rfl := Option.some.inj (ho''.symm.trans ho')
    have hkey : serviceKey o'' = serviceKey o := by
      rw [serviceKey_eq, serviceKey_eq, hkept.ns, hkept.name]
    rw [ClusterTruthful, hkey]
    cases hended with
    | waiting hnone hip hoff =>
      refine ⟨?_, .inl hoff⟩
      rw [hip]
      refine (hsound o ho hlive).resolve_left ?_
      rintro ⟨rfl, hsome⟩
      rw [ReverseProxyCluster.serviceAddresses_eq_nil] at hnone
      simp only [observed, ho, if_true] at hnone
      exact hsome hnone
    | absent fa hfa hip hoff =>
      exact ⟨.inr (hip ▸ mem_ingress_of_observed ho hfa), .inl hoff⟩
    | resolved fa hfa hip c hc hseen =>
      refine ⟨.inr (hip ▸ mem_ingress_of_observed ho hfa), .inr ⟨c, ?_, hseen⟩⟩
      rw [found, hkept.spec]
      exact hc

/-- A sound pass over a cluster makes its record current. -/
theorem current_of_sound (hw : Valid w) {uid : ℕ} {cenv : ReverseProxyCluster.Env}
    {answered : Bool} (hsound : Sound ipFamilyOf w (.clusterPass uid cenv answered))
    (hok : (clusterPass ipFamilyOf w uid cenv answered).1.isOk = true) {o : CR}
    (ho : w.proxies.rpcs.get uid = some o) :
    Current (step ipFamilyOf w (.clusterPass uid cenv answered)) o.ns o.name := by
  intro e he hns hname
  rcases (origin_of_step hw _ he).1 with ⟨-, hstatus, -⟩ | ⟨b, hb, hid, hbns, hbname, -, -⟩
  · exact .inl (by rw [hstatus])
  · have hbo := hw.unique b hb ⟨uid, o⟩ (Store.get_eq_some.mp ho) (hbns.trans hns)
      (hbname.trans hname)
    obtain rfl : e.id = uid := by rw [← hid, hbo]
    have htrue := clusterTruthful_of_sound hw hsound hok ho (Store.get_of_mem he)
    rw [← hns, ← hname, ← serviceKey_eq]
    exact htrue.1

/-- Once a cluster has reported, what it has on record stays current. -/
theorem Reported.current {s : World} {es : List Event} (hs : Valid s)
    (hsound : Along es fun pre ev => Sound ipFamilyOf (run (step ipFamilyOf) s pre) ev)
    (h : Reported ipFamilyOf s es ns name) : Current (run (step ipFamilyOf) s es) ns name := by
  obtain ⟨pre, uid, cenv, answered, post, rfl, ⟨o, ho, rfl, rfl⟩, hok, hpost⟩ := h
  have hpre : Valid (run (step ipFamilyOf) s pre) := valid_run hs pre
  have hcurrent := current_of_sound hpre (hsound pre _ post rfl) hok ho
  rw [run_append, run_cons]
  refine (run_invariant (I := fun w => Valid w ∧ Current w o.ns o.name)
    (C := fun _ ev => ∀ ips, ev ≠ .setIngress (serviceOf o.ns o.name) ips)
    (along_of_forall hpost) ⟨hpre.step _, hcurrent⟩ ?_).2
  exact fun w ev hw hev => ⟨hw.1.step ev, hw.2.step hw.1 hev⟩

/-! ### The Gateway's copy -/

theorem getGateway_withStatus {status : Status} (h : w.getGateway ns name = some gw) :
    (w.withStatus gw status).getGateway ns name = some { gw with status := status } := by
  have hkey : gw.ns = ns ∧ gw.name = name := by simpa using List.find?_some h
  rw [World.getGateway, World.withStatus, List.find?_map]
  have hcomp : ((fun g : GatewayObject => decide (g.ns = ns ∧ g.name = name)) ∘ fun g =>
      if g.ns = gw.ns ∧ g.name = gw.name then { g with status := status } else g) =
      fun g => decide (g.ns = ns ∧ g.name = name) := by
    funext g
    simp only [Function.comp_apply]
    split <;> rfl
  rw [hcomp]
  rw [World.getGateway] at h
  rw [h, Option.map_some, if_pos ⟨rfl, rfl⟩]

/-- Applying the cluster of a Gateway writes no status. -/
theorem status_of_applied {cfg : GatewayProxy} {params : ParametersSpec} (hw : Valid w)
    (hcfg : gatewayProxyConfig gw.toGateway = some cfg) {rpc rpc' : Entry CR}
    (hrpc : w.getCluster ns name = some rpc)
    (hrpc' : (w.applied env gw cfg params).getCluster ns name = some rpc') :
    rpc'.val.status = rpc.val.status := by
  have hat : rpc.val.ns = ns ∧ rpc.val.name = name := by
    simpa [isAt] using Store.prop_of_first hrpc
  have hat' : rpc'.val.ns = ns ∧ rpc'.val.name = name := by
    simpa [isAt] using Store.prop_of_first hrpc'
  have hmem := Store.mem_of_first hrpc
  have hmem' : rpc' ∈ applyCluster env gw.toGateway cfg params w.proxies.rpcs :=
    Store.mem_of_first hrpc'
  have hsame : ∀ b ∈ w.proxies.rpcs, b.val.ns = rpc'.val.ns → b.val.name = rpc'.val.name →
      b = rpc := fun b hb hns hname =>
    hw.unique b hb rpc hmem (by rw [hns, hat'.1, hat.1]) (by rw [hname, hat'.2, hat.2])
  rcases applyCluster_cases hcfg params w.proxies.rpcs with heq | ⟨ev, -, heq⟩ <;> rw [heq] at hmem'
  · rw [hsame rpc' hmem' rfl rfl]
  · rcases Store.origin_of_mem_submit hmem' with ⟨-, -, hfree⟩ | ⟨b, hb, -, hns, hname, hstatus⟩
    · exact absurd ⟨hat.1.trans hat'.1.symm, hat.2.trans hat'.2.symm⟩ (hfree rpc hmem)
    · rw [hstatus, hsame b hb hns hname]

/-- What a Gateway is translated from. -/
theorem of_translation {cfg : GatewayProxy} {params : ParametersSpec}
    (h : translation env w gw = some (cfg, params)) :
    gatewayProxyConfig gw.toGateway = some cfg ∧
      ∃ p, resolveGatewayParams env w gw = .ok p ∧ p.spec = params := by
  unfold translation at h
  split at h
  · simp at h
  · split at h
    · simp at h
    · split at h
      · simp at h
      · next p hp =>
        obtain ⟨cfg', hcfg, hpair⟩ := Option.map_eq_some_iff.mp h
        obtain ⟨rfl, rfl⟩ := Prod.mk.inj hpair
        exact ⟨hcfg, p, hp, rfl⟩

/-- A pass over a Gateway that is not there leaves none behind. -/
theorem reconcile_of_none (h : w.getGateway ns name = none) : (reconcile env ns name w).2 = w := by
  refine Triple.final (P := fun w' => w' = w) (G := fun w' => w' = w) ?_ rfl
  refine Triple.bind (call_triple fun _ _ h => h) fun _ => ?_
  refine Triple.bind (Q := fun answer w' => w' = w ∧ answer = none) ?_ fun answer => ?_
  · rintro w' rfl
    exact ⟨rfl, h⟩
  refine Triple.assume ?_
  rintro rfl
  exact fun _ h => h

/-- **A sound pass over a Gateway** that returns no error, given what `Current` says of its cluster
once that has reported. -/
theorem gatewayTruthful_of_exit {s : World} {es : List Event} (hw : Valid w)
    (hgw : w.getGateway ns name = some gw) (hsound : Sound ipFamilyOf w (.gatewayPass ns name env))
    (hcurrent : Reported ipFamilyOf s es gw.ns (proxyClusterNameForGateway gw.toGateway) →
      Current w gw.ns (proxyClusterNameForGateway gw.toGateway))
    (hpass : (reconcile env ns name w).2 = w') {r : Result} (hexit : Exit env w gw r w')
    {gw' : GatewayObject} (hgw' : w'.getGateway ns name = some gw') :
    GatewayTruthful ipFamilyOf s es env w w' gw' := by
  obtain ⟨haddrs, hprog⟩ := hsound gw hgw
  have hafter : Reported ipFamilyOf s es gw.ns (proxyClusterNameForGateway gw.toGateway) →
      Current w' gw.ns (proxyClusterNameForGateway gw.toGateway) := by
    intro hreported
    have hcur : Current (step ipFamilyOf w (.gatewayPass ns name env)) gw.ns
        (proxyClusterNameForGateway gw.toGateway) :=
      (hcurrent hreported).step hw fun _ => by simp
    rwa [step, hpass] at hcur
  cases hexit with
  | ignored hnone hforeign hw' =>
    subst hw'
    obtain rfl := Option.some.inj (hgw.symm.trans hgw')
    rw [hnone] at haddrs hprog
    refine ⟨fun hreported => ⟨hafter hreported, haddrs.resolve_left (by simp)⟩, fun htrue => ?_⟩
    exact absurd (htrue.symm.trans (hprog.resolve_left (by simp))) (by simp)
  | refused hnone hr cond hw' =>
    subst hw'
    obtain rfl := Option.some.inj ((getGateway_withStatus hgw).symm.trans hgw')
    rw [hnone] at haddrs hprog
    refine ⟨fun hreported => ⟨hafter hreported, haddrs.resolve_left (by simp)⟩, fun htrue => ?_⟩
    exact absurd (htrue.symm.trans (hprog.resolve_left (by simp))) (by simp)
  | translated cfg params hcfg rpc hrpc hw' =>
    subst hw'
    obtain rfl := Option.some.inj ((getGateway_withStatus hgw).symm.trans hgw')
    have hat : rpc.val.ns = gw.ns ∧ rpc.val.name = proxyClusterNameForGateway gw.toGateway := by
      simpa [isAt] using Store.prop_of_first hrpc
    refine ⟨fun hreported => ⟨hafter hreported, fun a ha => ?_⟩,
      fun htrue => ⟨?_, rfl, rpc, hrpc, ?_⟩⟩
    · simp only [syncedStatus] at ha
      split at ha
      · next hip =>
        -- The copy: what the cluster has on record is current, and applying it did not change that.
        obtain rfl := List.mem_singleton.mp ha
        exact (hafter hreported rpc (Store.mem_of_first hrpc) hat.1 hat.2).resolve_left hip
      · next hip =>
        refine haddrs.resolve_left ?_ a ha
        rintro ⟨-, rpc₀, hrpc₀, hne⟩
        rw [status_of_applied hw (of_translation hcfg).1 hrpc₀ hrpc] at hip
        exact hip hne
    · show (translation env w gw).isSome = true
      rw [hcfg]
      rfl
    · by_contra hready
      simp [syncedStatus, holds, hready] at htrue

/-- A pass over a Gateway that returns no error leaves through one of the exits. -/
theorem exit_of_isOk (hgw : w.getGateway ns name = some gw)
    (hok : (reconcile env ns name w).1.isOk = true) :
    ∃ r, Exit env w gw r (reconcile env ns name w).2 := by
  rcases hpass : reconcile env ns name w with ⟨r, v⟩
  rw [hpass] at hok
  cases r with
  | error e => simp [Except.isOk, Except.toBool] at hok
  | ok r => exact ⟨r, (reconcile_exit hgw).ok rfl hpass⟩

/-- **A sound event after sound events.** A pass over an object that is not there finds nothing to
report on. -/
theorem truthful_of_sound {s : World} {es : List Event} {ev : Event} (hs : Valid s)
    (hsound : Along es fun pre ev => Sound ipFamilyOf (run (step ipFamilyOf) s pre) ev)
    (hev : Sound ipFamilyOf (run (step ipFamilyOf) s es) ev) : Truthful ipFamilyOf s es ev := by
  have hw : Valid (run (step ipFamilyOf) s es) := valid_run hs es
  cases ev with
  | clusterPass uid cenv answered =>
    intro hok o' ho'
    cases ho : (run (step ipFamilyOf) s es).proxies.rpcs.get uid with
    | none =>
      rw [step, clusterPass_of_none ho] at ho'
      exact absurd (ho.symm.trans ho') (by simp)
    | some o => exact clusterTruthful_of_sound hw hev hok ho ho'
  | gatewayPass ns name env =>
    intro hok gw' hgw'
    cases hgw : (run (step ipFamilyOf) s es).getGateway ns name with
    | none =>
      rw [step, reconcile_of_none hgw] at hgw'
      exact absurd (hgw.symm.trans hgw') (by simp)
    | some gw =>
      obtain ⟨r, hexit⟩ := exit_of_isOk hgw hok
      exact gatewayTruthful_of_exit hw hgw hev (Reported.current hs hsound) rfl hexit hgw'
  | _ => trivial

/-- **Statuses tell the truth, and keep the keys.** In every run whose passes are sound, each pass
that returns no error leaves a status without last-good values. In every run at all, no event loses
a key of a deletion. -/
theorem status_truthful (domains : Store ReverseProxyCluster.Registration)
    (clusters : List ReverseProxyCluster.ProxyCluster)
    (tokens : Store ReverseProxyCluster.ProxyToken) (es : List Event) :
    ((Along es fun pre ev =>
        Sound ipFamilyOf (run (step ipFamilyOf) (World.start domains clusters tokens) pre) ev) →
      Along es (Truthful ipFamilyOf (World.start domains clusters tokens))) ∧
    Along es fun pre ev =>
      KeepsKeys (run (step ipFamilyOf) (World.start domains clusters tokens) pre)
        (run (step ipFamilyOf) (World.start domains clusters tokens) (pre ++ [ev])) := by
  have hs := valid_start domains clusters tokens
  generalize World.start domains clusters tokens = s at hs ⊢
  refine ⟨fun hsound pre ev post hes => ?_, fun pre ev post _ => ?_⟩
  · have hpre : Along pre fun pre ev => Sound ipFamilyOf (run (step ipFamilyOf) s pre) ev := by
      rw [hes] at hsound
      exact hsound.left
    exact truthful_of_sound hs hpre (hsound pre ev post hes)
  · dsimp only
    rw [run_concat]
    exact (valid_run hs pre).keepsKeys ev

/-! ### Two runs -/

instance (f : String → Option IPFamily) (w : World) (ev : Event) : Decidable (Sound f w ev) := by
  cases ev <;> dsimp only [Sound] <;> infer_instance

def emptyStart : World := .start .empty [] .empty

/-- Every address is one of IPv4. -/
def allIPv4 : String → Option IPFamily := fun _ => some .ipv4

/-- Passes without failures, at the start of the operator's time. -/
def calmCluster : ReverseProxyCluster.Env := ⟨0, [], none, fun _ => none⟩

def calmGateway : Env := ⟨fun _ => none, fun _ => "", id⟩

/-- A Gateway with these listeners, and the passes over it and its cluster. -/
def edgeGateway (listeners : List GatewayAPI.Listener) : Event :=
  .putGateway ⟨"edge", "gw", "netbird", listeners⟩ (some ⟨apiGroup, paramsKind, "params"⟩)

def edgeListener : GatewayAPI.Listener :=
  { name := "https", hostname := some "a.io", port := 443, protocol := .https, tls := some ⟨["c"]⟩ }

def edgeIngress (ips : List String) : Event :=
  .setIngress ⟨"edge", "reverseproxycluster-gateway-gw"⟩ ips

def edgePass : Event := .gatewayPass "edge" "gw" calmGateway

def proxyPass : Event := .clusterPass 0 calmCluster true

/-- A Gateway is created, its proxy gets an address and enrolls, and both report it. -/
def bringUp : List Event :=
  [.setClasses [⟨"netbird", gatewayController⟩], .setParameters [⟨"edge", "params", {}⟩],
    edgeGateway [edgeListener], edgePass, edgeIngress ["10.0.0.1"], .enroll ⟨"gate.a.io", true, 1⟩,
    proxyPass, edgePass]

theorem status_truthful_bringUp :
    (Along bringUp fun pre ev => Sound allIPv4 (run (step allIPv4) emptyStart pre) ev) ∧
      Along bringUp (Truthful allIPv4 emptyStart) := by
  have hsound : Along bringUp fun pre ev =>
      Sound allIPv4 (run (step allIPv4) emptyStart pre) ev := by decide +kernel
  exact ⟨hsound, (status_truthful .empty [] .empty bringUp).1 hsound⟩

/-- **Last-good values.** The Service loses its only address: the pass over the cluster keeps the
old one on record, and the Gateway's pass after it keeps it among the Gateway's addresses. The
Gateway loses its listener: the pass that no longer accepts it leaves it programmed. No call fails.
-/
theorem last_good_values_shown :
    ¬ Truthful allIPv4 emptyStart (bringUp ++ [edgeIngress []]) proxyPass ∧
    ¬ Truthful allIPv4 emptyStart (bringUp ++ [edgeIngress [], proxyPass]) edgePass ∧
    ¬ Truthful allIPv4 emptyStart (bringUp ++ [edgeGateway []]) edgePass := by
  refine ⟨fun h => ?_, fun h => ?_, fun h => ?_⟩
  · have hstale : ∃ o ∈ (run (step allIPv4) emptyStart
        (bringUp ++ [edgeIngress [], proxyPass])).proxies.rpcs.get 0,
        o.status.loadBalancerIP ≠ "" ∧ o.status.loadBalancerIP ∉ (run (step allIPv4) emptyStart
          (bringUp ++ [edgeIngress []])).ingress (serviceKey o) := by decide +kernel
    obtain ⟨o, ho, hne, hgone⟩ := hstale
    exact (h (by decide +kernel) o ho).1.elim hne hgone
  · have hstale : ∃ gw ∈ (run (step allIPv4) emptyStart
        (bringUp ++ [edgeIngress [], proxyPass, edgePass])).getGateway "edge" "gw",
        gw.ns = "edge" ∧ gw.name = "gw" ∧ ∃ a ∈ gw.status.addresses, a ∉ (run (step allIPv4)
          emptyStart (bringUp ++ [edgeIngress [], proxyPass, edgePass])).ingress
            (proxyService gw) := by decide +kernel
    obtain ⟨gw, hgw, hns, hname, a, ha, hgone⟩ := hstale
    refine hgone (((h (by decide +kernel) gw hgw).1 ?_).2 a ha)
    refine ⟨bringUp ++ [edgeIngress []], 0, calmCluster, true, [], rfl, ?_, by decide +kernel,
      by simp⟩
    rw [proxyClusterNameForGateway, hns, hname]
    have hcluster : ∃ o ∈ (run (step allIPv4) emptyStart
        (bringUp ++ [edgeIngress []])).proxies.rpcs.get 0,
        o.ns = "edge" ∧ o.name = "gateway-" ++ "gw" := by decide +kernel
    exact hcluster
  · have hstale : ∃ gw ∈ (run (step allIPv4) emptyStart
        (bringUp ++ [edgeGateway [], edgePass])).getGateway "edge" "gw",
        holds gw.status.programmed = true ∧ translation calmGateway (run (step allIPv4) emptyStart
          (bringUp ++ [edgeGateway []])) gw = none := by decide +kernel
    obtain ⟨gw, hgw, hprog, hnone⟩ := hstale
    have haccepted := ((h (by decide +kernel) gw hgw).2 hprog).1
    rw [hnone] at haccepted
    exact absurd haccepted (by simp)

end Gateway

end NetbirdOperator
