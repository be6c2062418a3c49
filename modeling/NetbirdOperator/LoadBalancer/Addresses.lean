import NetbirdOperator.LoadBalancer.Children

/-!
# The address that is published and the address that is routed

Two controllers look at the addresses of a proxy's Service. The ReverseProxyCluster controller
publishes one of each family under the cluster address; the LoadBalancer controller makes one of
each family routable in the mesh and publishes it under the Service's name. For the proxy to be
reached they have to choose the same one.

They reduce the list differently. `serviceAddresses` keeps the first address of a family; the loop
of the LoadBalancer controller applies every address under the family's one child, so that the last
one stays and the child passes through all of them. The two agree, and a pass leaves the children
alone, exactly if no family has two addresses.

## Main results

* `LoadBalancer.reconcile_wrote` — what any pass has applied, wherever it gives up
* `LoadBalancer.addresses_consistent_iff` — when both controllers use one address
* `LoadBalancer.second_address_splits` — a family with two addresses
-/

namespace NetbirdOperator

open ControlLoop

namespace LoadBalancer

open Pass
open ReverseProxyCluster (IPFamily FamilyAddress RecordEnv applyRecords serviceAddresses addressKey
  proxyResourceName familyRecord)

variable {env : Env} {w w' : World} {key : ObjectKey} {svc : Service} {ns : Annotations}
  {plan : Plan} {fas : List FamilyAddress}

/-! ### What is asked for -/

/-- The child a write goes to, by kind and key. -/
def Write.target : Write → Bool × ObjectKey
  | .resource key _ => (true, key)
  | .record key _ => (false, key)

/-- The address it gives the child. -/
def Write.address : Write → String
  | .resource _ child => child.spec.address
  | .record _ child => child.spec.content

/-- The child is already as it is written. -/
def Write.Holds (w : World) : Write → Prop
  | .resource key child => w.resources.lookup key = some child
  | .record key child => w.records.lookup key = some child

/-- What a pass applies to the children, in order. -/
def writes (env : Env) (key : ObjectKey) (w : World) : List Write :=
  (reconcile env key w).2.applied.drop w.applied.length

/-- For each family of the Service's addresses there is one that the proxy's record publishes, the
NetworkResource routes and the Service's own record publishes. -/
def Agrees (renv : RecordEnv) (key : ObjectKey) (fas : List FamilyAddress) (w : World)
    (records : Objects (Child DNSRecord.Spec)) : Prop :=
  ∀ fa ∈ fas, ∃ address,
    (w.resources.lookup (childKeyOf key fa.family)).map (fun c => c.spec.address) = some address ∧
    (w.records.lookup (childKeyOf key fa.family)).map (fun c => c.spec.content) = some address ∧
    (records.lookup (addressKey renv.rpc (recordTypeOf fa.family))).map (fun c => c.spec.content) =
      some address

/-- One address for both controllers, throughout a pass and after it: `w'` is what the pass over the
Service leaves, `records` what the proxy's controller does. -/
structure Consistent (env : Env) (renv : RecordEnv) (key : ObjectKey) (fas : List FamilyAddress)
    (w w' : World) (records : Objects (Child DNSRecord.Spec)) : Prop where
  agrees : Agrees renv key fas w' records
  once : ∀ x ∈ writes env key w, ∀ y ∈ writes env key w, x.target = y.target →
    x.address = y.address
  stable : ∀ fault, ∀ x ∈ writes { env with fault := fault } key w', x.Holds w'

/-- No family has two addresses. -/
def OnePerFamily (fas : List FamilyAddress) : Prop :=
  ∀ fa ∈ fas, ∀ fa' ∈ fas, fa.family = fa'.family → fa.address = fa'.address

instance : Decidable (OnePerFamily fas) :=
  inferInstanceAs (Decidable (∀ fa ∈ fas, ∀ fa' ∈ fas, _ → _))

theorem OnePerFamily.eq (h : OnePerFamily fas) {fa fa' : FamilyAddress} (hfa : fa ∈ fas)
    (hfa' : fa' ∈ fas) (hf : fa.family = fa'.family) : fa = fa' := by
  have ha := h fa hfa fa' hfa' hf
  cases fa
  cases fa'
  simp_all

/-! ### What a pass has applied -/

/-- The two writes for an address. -/
def writesFor (plan : Plan) (fa : FamilyAddress) : List Write :=
  [.resource (plan.childKey fa.family) (plan.resource fa),
    .record (plan.childKey fa.family) (plan.record (recordTypeOf fa.family) fa)]

/-- The world has `n` writes, and then some of the plan. -/
def Wrote (plan : Plan) (fas : List FamilyAddress) (before : List Write) (w : World) : Prop :=
  ∃ xs, w.applied = before ++ xs ∧ ∀ x ∈ xs, ∃ fa ∈ fas, x ∈ writesFor plan fa

theorem Wrote.concat {before : List Write} {x : Write} {fa : FamilyAddress}
    (h : Wrote plan fas before w) (hw' : w'.applied = w.applied ++ [x]) (hfa : fa ∈ fas)
    (hx : x ∈ writesFor plan fa) : Wrote plan fas before w' := by
  obtain ⟨xs, hxs, hall⟩ := h
  refine ⟨xs ++ [x], by rw [hw', hxs, List.append_assoc], ?_⟩
  intro y hy
  rcases List.mem_append.mp hy with hy | hy
  · exact hall y hy
  · exact ⟨fa, hfa, List.mem_singleton.mp hy ▸ hx⟩

theorem fanOut_wrote (hfas : ∀ fa ∈ fas, env.ipFamilyOf fa.address = some fa.family)
    {before : List Write} :
    Triple (Wrote plan fas before) (fanOut env plan fas) (fun _ => Wrote plan fas before)
      fun _ => Wrote plan fas before := by
  refine Triple.bind (applyChildren_keeps ?_ ?_ 0) fun _ => ?_
  · exact fun fa hfa w h => h.concat rfl hfa (by simp [writesFor])
  · intro fa hfa type htype w h
    rw [dnsRecordTypeFor, hfas fa hfa] at htype
    obtain rfl := Option.some.inj htype
    exact h.concat rfl hfa (by simp [writesFor])
  · exact Triple.bind (prune_keeps (fun _ _ h => h) (fun _ _ h => h) _) fun _ _ h => h

/-- The plan of a pass, given the Network it finds. -/
def planOf (env : Env) (key : ObjectKey) (svc : Service) (ns : Annotations)
    (network : CrossNamespaceReference) : Plan :=
  ⟨key, network, ⟨env.cfg.dnsZone, env.cfg.ns⟩, groupReferences (resourceGroups env.cfg svc ns)⟩

section Pass

variable {network : CrossNamespaceReference}

/-- What the pass has applied so far, if it started with `w`. -/
abbrev Progress (env : Env) (key : ObjectKey) (svc : Service) (ns : Annotations)
    (network : CrossNamespaceReference) (w : World) : World → Prop :=
  Wrote (planOf env key svc ns network) (lbIngressAddresses env.ipFamilyOf svc) w.applied

theorem progress_of_eq (h : w'.applied = w.applied) : Progress env key svc ns network w w' :=
  ⟨[], by rw [h, List.append_nil], by simp⟩

theorem advertise_wrote
    (hnetwork : w.networks.find? (fun n => n.name = env.cfg.network) = some network) :
    Triple (fun v => v = w) (advertise env key svc ns (lbIngressAddresses env.ipFamilyOf svc))
      (fun _ => Progress env key svc ns network w) fun _ => Progress env key svc ns network w := by
  have hfas : ∀ fa ∈ lbIngressAddresses env.ipFamilyOf svc,
      env.ipFamilyOf fa.address = some fa.family :=
    fun fa hfa => (mem_lbIngressAddresses.mp hfa).2.2
  refine Triple.bind resolveNetwork_ok fun found => Triple.assume fun hfound => ?_
  cases found with
  | error e => exact fun v hv => progress_of_eq (by rw [hv])
  | ok found =>
    obtain rfl : network = found := Option.some.inj (hnetwork.symm.trans (hfound found rfl))
    refine Triple.bind ensureZone_ok fun zone => Triple.assume fun hzone => ?_
    cases zone with
    | error e => exact fun v hv => progress_of_eq (by rw [hv])
    | ok zone =>
      obtain rfl := hzone zone rfl
      exact (fanOut_wrote hfas).of_pre fun v hv => progress_of_eq (by rw [hv])

/-- **What any pass has applied**, wherever it gives up: children of its plan, for addresses the
Service has. -/
theorem reconcile_wrote (hsvc : w.services.lookup key = some svc)
    (hns : w.namespaces.lookup key.ns = some ns)
    (hnetwork : w.networks.find? (fun n => n.name = env.cfg.network) = some network) :
    Progress env key svc ns network w (reconcile env key w).2 := by
  refine Triple.final (P := fun v => v = w) ?_ rfl
  refine reconcile_rule hsvc hns (fun _ => progress_of_eq rfl) ?_
  rw [reconcileService]
  split
  · split
    · exact fun v hv => progress_of_eq (by rw [hv])
    · next fa rest hsome =>
      rw [← hsome]
      exact advertise_wrote hnetwork
  · refine Triple.of_pre (P := Progress env key svc ns network w) ?_
      fun v hv => progress_of_eq (by rw [hv])
    exact Triple.bind (prune_keeps (fun _ _ h => h) (fun _ _ h => h) []) fun _ _ h => h

end Pass

/-! ### A pass that fans out -/

/-- What is known once a pass has fanned out. -/
structure FannedOut (env : Env) (key : ObjectKey) (svc : Service) (ns : Annotations)
    (network : CrossNamespaceReference) (w w' : World) : Prop where
  frame : w'.services = w.services ∧ w'.namespaces = w.namespaces ∧ w'.networks = w.networks
  found : w.networks.find? (fun n => n.name = env.cfg.network) = some network
  applied : w'.applied = w.applied ++
    (lbIngressAddresses env.ipFamilyOf svc).flatMap (writesFor (planOf env key svc ns network))
  resources : Settled key (fun f => (lastOf f (lbIngressAddresses env.ipFamilyOf svc)).map
    (planOf env key svc ns network).resource) w.resources w'.resources
  records : Settled key (fun f => (lastOf f (lbIngressAddresses env.ipFamilyOf svc)).map
    ((planOf env key svc ns network).record (recordTypeOf f))) w.records w'.records

theorem fannedOut_of_reconcile (hsvc : w.services.lookup key = some svc)
    (hns : w.namespaces.lookup key.ns = some ns)
    (hrun : reconcile env key w = (.ok ⟨some resyncInterval⟩, w')) :
    ∃ network, FannedOut env key svc ns network w w' := by
  have hfas : ∀ fa ∈ lbIngressAddresses env.ipFamilyOf svc,
      env.ipFamilyOf fa.address = some fa.family :=
    fun fa hfa => (mem_lbIngressAddresses.mp hfa).2.2
  cases (reconcile_outcome hsvc hns).ok rfl hrun with
  | fannedOut network zone zones hadv hsome hnetwork hzone hpruned =>
    subst hzone
    have hframe := hpruned.frame
    rw [applyAll_eq] at hframe
    refine ⟨network, ⟨?_, ?_, ?_⟩, hnetwork, ?_,
      settled_resources (w := { w with zones := zones }) (planOf env key svc ns network) hfas
        hpruned,
      settled_records (w := { w with zones := zones }) (planOf env key svc ns network) hfas hpruned⟩
    all_goals rw [hframe]
    rfl

/-- The first address of a family is there if any is. -/
theorem exists_find? {fa : FamilyAddress} (hfa : fa ∈ fas) :
    ∃ first ∈ fas, first.family = fa.family ∧
      fas.find? (fun a => a.family = fa.family) = some first := by
  have hsome : (fas.find? fun a => a.family = fa.family).isSome := by
    rw [List.find?_isSome]
    exact ⟨fa, hfa, by simp⟩
  obtain ⟨first, hfirst⟩ := Option.isSome_iff_exists.mp hsome
  exact ⟨first, List.mem_of_find?_eq_some hfirst, by simpa using List.find?_some hfirst, hfirst⟩

section Consistency

variable {network : CrossNamespaceReference} (h : FannedOut env key svc ns network w w')

/-- A write for an address goes to the child of its family. -/
theorem target_of_mem {fa : FamilyAddress} {x : Write} (hx : x ∈ writesFor plan fa) :
    x.target.2 = plan.childKey fa.family ∧ x.address = fa.address := by
  simp only [writesFor, List.mem_cons, List.not_mem_nil, or_false] at hx
  rcases hx with rfl | rfl <;> exact ⟨rfl, rfl⟩

include h

/-- Every child is applied with one address only, exactly if no family has two. -/
theorem once_iff (hrun : (reconcile env key w).2 = w') :
    (∀ x ∈ writes env key w, ∀ y ∈ writes env key w, x.target = y.target →
        x.address = y.address) ↔
      OnePerFamily (lbIngressAddresses env.ipFamilyOf svc) := by
  rw [writes, hrun, h.applied, List.drop_left]
  simp only [List.mem_flatMap]
  constructor
  · intro honce fa hfa fa' hfa' hfam
    exact honce (.resource _ ((planOf env key svc ns network).resource fa))
      ⟨fa, hfa, List.mem_cons_self⟩
      (.resource _ ((planOf env key svc ns network).resource fa'))
      ⟨fa', hfa', List.mem_cons_self⟩ (by simp [Write.target, hfam])
  · rintro hone x ⟨fa, hfa, hx⟩ y ⟨fa', hfa', hy⟩ htarget
    obtain ⟨hxt, hxa⟩ := target_of_mem hx
    obtain ⟨hyt, hya⟩ := target_of_mem hy
    have hfam : fa.family = fa'.family := childKey_inj.mp (by rw [← hxt, ← hyt, htarget])
    rw [hxa, hya]
    exact hone fa hfa fa' hfa' hfam

variable (hone : OnePerFamily (lbIngressAddresses env.ipFamilyOf svc))

include hone

/-- With one address for each family, the children are as a write for it has them. -/
theorem holds_of_onePerFamily {x : Write} {fa : FamilyAddress}
    (hfa : fa ∈ lbIngressAddresses env.ipFamilyOf svc)
    (hx : x ∈ writesFor (planOf env key svc ns network) fa) : x.Holds w' := by
  obtain ⟨last, hlast⟩ := Option.isSome_iff_exists.mp (lastOf_isSome.mpr ⟨fa, hfa, rfl⟩)
  obtain ⟨hmem, hfam⟩ := lastOf_eq_some hlast
  obtain rfl : last = fa := hone.eq hmem hfa hfam
  simp only [writesFor, List.mem_cons, List.not_mem_nil, or_false] at hx
  rcases hx with rfl | rfl
  · exact h.resources.wanted last.family _ (by rw [hlast]; rfl)
  · exact h.records.wanted last.family _ (by rw [hlast]; rfl)

/-- A later pass over the Service writes the children as they are, whichever of its calls fail. -/
theorem stable_of_onePerFamily (hsvc : w.services.lookup key = some svc)
    (hns : w.namespaces.lookup key.ns = some ns) (fault : Call → Option Fault) :
    ∀ x ∈ writes { env with fault := fault } key w', x.Holds w' := by
  have hwrote : Progress { env with fault := fault } key svc ns network w'
      (reconcile { env with fault := fault } key w').2 :=
    reconcile_wrote (by rw [h.frame.1]; exact hsvc) (by rw [h.frame.2.1]; exact hns)
      (by rw [h.frame.2.2]; exact h.found)
  obtain ⟨xs, hxs, hall⟩ := hwrote
  rw [writes, hxs, List.drop_left]
  intro x hx
  obtain ⟨fa, hfa, hx⟩ := hall x hx
  exact holds_of_onePerFamily h hone hfa hx

/-- The proxy's records have the address the children have. -/
theorem agrees_of_onePerFamily {renv : RecordEnv} {before records : Objects (Child DNSRecord.Spec)}
    (hip : renv.ipFamilyOf = env.ipFamilyOf)
    (hrecords :
      applyRecords renv (serviceAddresses (lbIngressAddresses env.ipFamilyOf svc)) before =
        (.ok (), records)) :
    Agrees renv key (lbIngressAddresses env.ipFamilyOf svc) w' records := by
  have htyped : ∀ a ∈ serviceAddresses (lbIngressAddresses env.ipFamilyOf svc),
      renv.ipFamilyOf a.address = some a.family := by
    intro a ha
    rw [hip]
    exact (mem_lbIngressAddresses.mp (ReverseProxyCluster.mem_of_mem_serviceAddresses ha)).2.2
  intro fa hfa
  have hres : w'.resources.lookup (childKeyOf key fa.family) = _ :=
    holds_of_onePerFamily h hone hfa List.mem_cons_self
  have hrec : w'.records.lookup (childKeyOf key fa.family) = _ :=
    holds_of_onePerFamily h hone hfa (List.mem_cons_of_mem _ List.mem_cons_self)
  -- The proxy's controller takes the first address of the family, which is the only one.
  obtain ⟨first, hfirst, hfam, hfind⟩ := exists_find? hfa
  obtain rfl : first = fa := hone.eq hfirst hfa hfam
  have hproxy := (ReverseProxyCluster.applyRecords_ok htyped).ok rfl hrecords first.family
  rw [ReverseProxyCluster.find?_serviceAddresses, hfind] at hproxy
  rw [hres, hrec, hproxy]
  exact ⟨first.address, rfl, rfl, rfl⟩

end Consistency

/-- The key of a proxy's Service. -/
def proxyServiceKey (rpc : ReverseProxyCluster.CR) : ObjectKey := ⟨rpc.ns, proxyResourceName rpc⟩

/-- **When both controllers use one address**, after a pass of each over a proxy's Service: no
family of its addresses has two. -/
theorem addresses_consistent_iff (env : Env) (renv : RecordEnv) (svc : Service) (ns : Annotations)
    (w w' : World) (before records : Objects (Child DNSRecord.Spec))
    (hip : renv.ipFamilyOf = env.ipFamilyOf)
    (hsvc : w.services.lookup (proxyServiceKey renv.rpc) = some svc)
    (hns : w.namespaces.lookup (proxyServiceKey renv.rpc).ns = some ns)
    (hrun : reconcile env (proxyServiceKey renv.rpc) w = (.ok ⟨some resyncInterval⟩, w'))
    (hrecords :
      applyRecords renv (serviceAddresses (lbIngressAddresses env.ipFamilyOf svc)) before =
        (.ok (), records)) :
    Consistent env renv (proxyServiceKey renv.rpc) (lbIngressAddresses env.ipFamilyOf svc) w w'
        records ↔
      OnePerFamily (lbIngressAddresses env.ipFamilyOf svc) := by
  obtain ⟨network, hfan⟩ := fannedOut_of_reconcile hsvc hns hrun
  have honce := once_iff hfan (by rw [hrun])
  constructor
  · intro h
    exact honce.mp h.once
  · intro hone
    exact ⟨agrees_of_onePerFamily hfan hone hip hrecords, honce.mpr hone,
      stable_of_onePerFamily hfan hone hsvc hns⟩

/-! ### Samples -/

/-- A proxy with its zone; the addresses are classified as in `sampleEnv`. -/
def sampleProxy : RecordEnv where
  ipFamilyOf := sampleEnv.ipFamilyOf
  rpc :=
    { ns := "shop", name := "gate", generation := 1, deleting := false, finalizer := true
      spec := { clusterAddress := "gate.foo.com", domain := "foo.com" }, status := {} }
  zone := ⟨"foo.com", "shop"⟩
  fault _ := none

/-- A cluster with the proxy's Service. -/
def proxyWorld (ingress : List String) : World :=
  { sampleWorld (sampleService []) {} with
    services := (∅ : Objects Service).insert (proxyServiceKey sampleProxy.rpc)
      (sampleService ingress) }

/-- The proxy's records for these addresses. -/
def proxyRecords (ingress : List String) : Objects (Child DNSRecord.Spec) :=
  (applyRecords sampleProxy (serviceAddresses
    (lbIngressAddresses sampleEnv.ipFamilyOf (sampleService ingress))) ∅).2

theorem addresses_consistent_dualstack :
    Consistent sampleEnv sampleProxy (proxyServiceKey sampleProxy.rpc)
      (lbIngressAddresses sampleEnv.ipFamilyOf (sampleService ["192.0.2.10", "2001:db8::10"]))
      (proxyWorld ["192.0.2.10", "2001:db8::10"])
      (reconcile sampleEnv (proxyServiceKey sampleProxy.rpc)
        (proxyWorld ["192.0.2.10", "2001:db8::10"])).2
      (proxyRecords ["192.0.2.10", "2001:db8::10"]) := by
  refine (addresses_consistent_iff sampleEnv sampleProxy _ {} _ _ ∅ _ rfl (by decide) (by decide)
    (Prod.ext (by decide +kernel) rfl) (Prod.ext (by decide +kernel) rfl)).mpr ?_
  decide

/-- Two addresses of one family. -/
def twoAddresses : List String := ["192.0.2.10", "192.0.2.20"]

/-- **A family with two addresses.** The proxy's record has the first, the NetworkResource and the
Service's record have the second. A pass over the Service as it is gives the child the first again
on its way. -/
theorem second_address_splits :
    let key := proxyServiceKey sampleProxy.rpc
    let w' := (reconcile sampleEnv key (proxyWorld twoAddresses)).2
    (reconcile sampleEnv key (proxyWorld twoAddresses)).1 = .ok ⟨some resyncInterval⟩ ∧
      ((proxyRecords twoAddresses).lookup (addressKey sampleProxy.rpc .a)).map
        (fun c => c.spec.content) = some "192.0.2.10" ∧
      (w'.resources.lookup (childKeyOf key .ipv4)).map (fun c => c.spec.address) =
        some "192.0.2.20" ∧
      (w'.records.lookup (childKeyOf key .ipv4)).map (fun c => c.spec.content) =
        some "192.0.2.20" ∧
      (writes sampleEnv key w').map Write.address =
        ["192.0.2.10", "192.0.2.10", "192.0.2.20", "192.0.2.20"] := by
  decide +kernel

end LoadBalancer

end NetbirdOperator
