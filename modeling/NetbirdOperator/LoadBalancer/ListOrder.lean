import NetbirdOperator.LoadBalancer.Addresses

/-!
# The order of lists

The client promises no order for what a List call returns. A pass over a Service lists three kinds.
The order of the children only decides in which order `prune` deletes them. The order of the
Networks decides more: `resolveNetwork` takes the first one of the configured name, whatever its
namespace, and the children refer to it.

Two runs are compared by their writes, `World.applied`. What a pass writes is a function of the
Network it found (`reconcile_applied`), and the first child names that Network. So the order cannot
be seen in the writes exactly if the pass does not get as far as a child, or if the name is that of
one Network only (`writes_reordered_iff`). Elsewhere a second Network of that name, in a namespace
the operator does not own, can take over the reference of every child, which the API then refuses to
change.

## Main results

* `LoadBalancer.reconcile_applied` — what a pass writes, by the Network it found
* `LoadBalancer.writes_reordered_iff` — when the order does not show
-/

namespace NetbirdOperator

open ControlLoop

namespace LoadBalancer

open Pass
open ReverseProxyCluster (IPFamily FamilyAddress)

variable {env : Env} {w w' : World} {key : ObjectKey} {svc : Service} {ns : Annotations}
  {plan : Plan} {α β : Type}

/-! ### The writes of a pass -/

/-- The writes of the loop over the addresses, up to the first call that fails. -/
def childWrites (env : Env) (plan : Plan) : ℕ → List FamilyAddress → List Write
  | _, [] => []
  | i, fa :: rest =>
    match dnsRecordTypeFor env.ipFamilyOf fa.address with
    | none => childWrites env plan (i + 1) rest
    | some type =>
      if env.fault (.applyResource i) = none then
        .resource (plan.childKey fa.family) (plan.resource fa) ::
          if env.fault (.applyRecord i) = none then
            .record (plan.childKey fa.family) (plan.record type fa) ::
              childWrites env plan (i + 1) rest
          else []
      else []

theorem applyChildren_applied (i : ℕ) (fas : List FamilyAddress) (w : World) :
    (applyChildren env plan i fas w).2.applied = w.applied ++ childWrites env plan i fas := by
  induction fas generalizing i w with
  | nil => exact (List.append_nil _).symm
  | cons fa fas ih =>
    rw [applyChildren, childWrites]
    cases dnsRecordTypeFor env.ipFamilyOf fa.address with
    | none => exact ih (i + 1) w
    | some type =>
      dsimp only
      by_cases hres : env.fault (.applyResource i) = none
      · rw [if_pos hres, bind_of_ok (call_of_none hres w), bind_of_ok (modify_apply _ w)]
        by_cases hrec : env.fault (.applyRecord i) = none
        · rw [if_pos hrec, bind_of_ok (call_of_none hrec _), bind_of_ok (modify_apply _ _), ih]
          simp [World.applyRecord, World.applyResource]
        · obtain ⟨e, he⟩ := call_of_ne_none hrec
            (w.applyResource (plan.childKey fa.family) (plan.resource fa))
          rw [if_neg hrec, bind_of_error he]
          rfl
      · obtain ⟨e, he⟩ := call_of_ne_none hres w
        rw [if_neg hres, bind_of_error he, List.append_nil]

/-- What follows a pass without a write to a child adds none. -/
theorem applied_bind {m : M α} {f : α → M β} (hf : ∀ a w, (f a w).2.applied = w.applied)
    (w : World) : ((m >>= f) w).2.applied = (m w).2.applied := by
  rcases hm : m w with ⟨r, w'⟩
  cases r with
  | ok a => rw [bind_of_ok hm, hf]
  | error e => rw [bind_of_error hm]

theorem prune_applied (desired : List String) (w : World) :
    (prune env key desired w).2.applied = w.applied :=
  (prune_keeps (Q := fun w' => w'.applied = w.applied) (fun _ _ h => h) (fun _ _ h => h)
    desired).final rfl

theorem fanOut_applied (fas : List FamilyAddress) (w : World) :
    (fanOut env plan fas w).2.applied = w.applied ++ childWrites env plan 0 fas := by
  rw [fanOut, applied_bind (fun _ w => ?_) w, applyChildren_applied]
  rw [applied_bind (fun _ _ => rfl) w, prune_applied]

/-- The first listed Network of the configured name. -/
def firstNetwork (env : Env) (w : World) : Option CrossNamespaceReference :=
  w.networks.find? fun n => n.name = env.cfg.network

/-- The calls before the first child succeed, and a zone is configured. -/
structure Proceeds (env : Env) : Prop where
  networks : env.fault .listNetworks = none
  configured : env.cfg.dnsZone ≠ ""
  zone : env.fault .applyZone = none

theorem resolveNetwork_eq (h : env.fault .listNetworks = none) (w : World) :
    resolveNetwork env w =
      (match firstNetwork env w with
      | some network => .ok network
      | none => .error (.dependencyNotReady ("dependency not ready: Network \"" ++
          env.cfg.network ++ "\" not found")), w) := by
  rw [resolveNetwork, bind_of_ok (call_of_none h w), bind_of_ok (read_apply _ w)]
  show (match firstNetwork env w with
    | some network => _
    | none => _ : M CrossNamespaceReference) w = _
  cases firstNetwork env w <;> rfl

theorem advertise_applied_of_proceeds (h : Proceeds env) (fas : List FamilyAddress) (w : World) :
    (advertise env key svc ns fas w).2.applied = w.applied ++
      ((firstNetwork env w).elim [] fun network =>
        childWrites env (planOf env key svc ns network) 0 fas) := by
  rw [advertise, bind_of_ok (observe_apply _ w), resolveNetwork_eq h.networks w]
  cases firstNetwork env w with
  | none => exact (List.append_nil _).symm
  | some network =>
    dsimp only
    rw [bind_of_ok (observe_apply _ w), ensureZone, if_neg h.configured,
      bind_of_ok (call_of_none h.zone w), bind_of_ok (modify_apply _ w)]
    exact fanOut_applied _ _

theorem advertise_applied_of_not (h : ¬ Proceeds env) (fas : List FamilyAddress) (w : World) :
    (advertise env key svc ns fas w).2.applied = w.applied := by
  have hzone : env.fault .listNetworks = none → ∃ e, ensureZone env w = (.error e, w) := by
    intro hlist
    rw [ensureZone]
    split
    · exact ⟨_, rfl⟩
    · next hconfigured =>
      obtain ⟨e, he⟩ := call_of_ne_none (fun hzone => h ⟨hlist, hconfigured, hzone⟩) w
      exact ⟨e, bind_of_error he⟩
  rw [advertise, bind_of_ok (observe_apply _ w)]
  by_cases hlist : env.fault .listNetworks = none
  · rw [resolveNetwork_eq hlist w]
    cases firstNetwork env w with
    | none => rfl
    | some network =>
      obtain ⟨e, he⟩ := hzone hlist
      dsimp only
      rw [bind_of_ok (observe_apply _ w), he]
      rfl
  · obtain ⟨e, he⟩ := call_of_ne_none hlist w
    rw [resolveNetwork, bind_of_error he]
    rfl

/-! ### Two runs -/

/-- The same cluster, with its lists in another order. -/
structure Reordered (w w' : World) : Prop where
  services : w'.services.entries.Perm w.services.entries
  namespaces : w'.namespaces.entries.Perm w.namespaces.entries
  networks : w'.networks.Perm w.networks
  zones : w'.zones.entries.Perm w.zones.entries
  resources : w'.resources.entries.Perm w.resources.entries
  records : w'.records.entries.Perm w.records.entries
  applied : w'.applied = w.applied

theorem Reordered.refl (w : World) : Reordered w w := ⟨.rfl, .rfl, .rfl, .rfl, .rfl, .rfl, rfl⟩

/-- A pass over the Service applies a child as soon as it has found a Network: the Service is
advertised and has an address, and the calls up to the apply of its first NetworkResource succeed.
-/
structure ReachesChild (env : Env) (svc : Service) (ns : Annotations) : Prop where
  advertised : advertised env.cfg svc ns = true
  address : lbIngressAddresses env.ipFamilyOf svc ≠ []
  proceeds : Proceeds env
  first : env.fault (.applyResource 0) = none

/-- The first address has a family, so it is the first child that decides whether any is written. -/
theorem childWrites_first {fa : FamilyAddress} {rest : List FamilyAddress}
    (h : lbIngressAddresses env.ipFamilyOf svc = fa :: rest) (plan : Plan) :
    ∃ more, childWrites env plan 0 (fa :: rest) =
      if env.fault (.applyResource 0) = none then
        .resource (plan.childKey fa.family) (plan.resource fa) :: more
      else [] := by
  have hmem : fa ∈ lbIngressAddresses env.ipFamilyOf svc := h ▸ List.mem_cons_self
  have htype : dnsRecordTypeFor env.ipFamilyOf fa.address = some (recordTypeOf fa.family) :=
    congrArg (Option.map recordTypeOf) (mem_lbIngressAddresses.mp hmem).2.2
  rw [childWrites, htype]
  exact ⟨_, rfl⟩

theorem reconcileService_applied (h : ReachesChild env svc ns) (w : World) :
    (reconcileService env key svc ns w).2.applied = w.applied ++
      ((firstNetwork env w).elim [] fun network => childWrites env (planOf env key svc ns network) 0
        (lbIngressAddresses env.ipFamilyOf svc)) := by
  rw [reconcileService, if_pos h.advertised]
  cases hfas : lbIngressAddresses env.ipFamilyOf svc with
  | nil => exact absurd hfas h.address
  | cons fa rest => exact advertise_applied_of_proceeds h.proceeds _ w

theorem reconcileService_unapplied (h : ¬ ReachesChild env svc ns) (w : World) :
    (reconcileService env key svc ns w).2.applied = w.applied := by
  rw [reconcileService]
  split
  swap
  · exact (applied_bind (fun _ _ => rfl) w).trans (prune_applied [] w)
  next hadvertised =>
  cases hfas : lbIngressAddresses env.ipFamilyOf svc with
  | nil => rfl
  | cons fa rest =>
    by_cases hproceeds : Proceeds env
    swap
    · exact advertise_applied_of_not hproceeds _ w
    have hfirst : env.fault (.applyResource 0) ≠ none := fun hfirst =>
      h ⟨hadvertised, by simp [hfas], hproceeds, hfirst⟩
    refine (advertise_applied_of_proceeds hproceeds _ w).trans ?_
    cases firstNetwork env w with
    | none => exact List.append_nil _
    | some network =>
      obtain ⟨more, hwrites⟩ := childWrites_first hfas (planOf env key svc ns network)
      rw [Option.elim_some, hwrites, if_neg hfirst, List.append_nil]

/-- The Service and its namespace, as far as a pass gets to read them. -/
def seen (env : Env) (key : ObjectKey) (w : World) : Option (Service × Annotations) :=
  if env.fault .getService = none ∧ env.fault .getNamespace = none then
    (w.services.lookup key).bind fun svc => (w.namespaces.lookup key.ns).map fun ns => (svc, ns)
  else none

theorem Reordered.seen_eq (h : Reordered w w') : seen env key w' = seen env key w := by
  rw [seen, seen, AList.perm_lookup h.services, AList.perm_lookup h.namespaces]

theorem reconcile_of_seen (h : seen env key w = some (svc, ns)) :
    reconcile env key w = reconcileService env key svc ns w := by
  rw [seen] at h
  split_ifs at h with hget
  obtain ⟨svc', hsvc, h⟩ := Option.bind_eq_some_iff.mp h
  obtain ⟨ns', hns, h⟩ := Option.map_eq_some_iff.mp h
  obtain ⟨rfl, rfl⟩ := Prod.mk.inj h
  have hreadSvc : (Pass.read fun w => w.services.lookup key : M (Option Service)) w =
      (.ok (some svc'), w) := by rw [read_apply, hsvc]
  have hreadNs : (Pass.read fun w => w.namespaces.lookup key.ns : M (Option Annotations)) w =
      (.ok (some ns'), w) := by rw [read_apply, hns]
  exact (bind_of_ok (call_of_none hget.1 w)).trans <| (bind_of_ok hreadSvc).trans <|
    (bind_of_ok (call_of_none hget.2 w)).trans (bind_of_ok hreadNs)

theorem reconcile_of_unseen (h : seen env key w = none) : (reconcile env key w).2 = w := by
  rw [reconcile]
  by_cases hget : env.fault .getService = none
  swap
  · obtain ⟨e, he⟩ := call_of_ne_none hget w
    rw [bind_of_error he]
  rw [bind_of_ok (call_of_none hget w), bind_of_ok (read_apply _ w)]
  cases hsvc : w.services.lookup key with
  | none => rfl
  | some svc =>
    by_cases hget' : env.fault .getNamespace = none
    swap
    · obtain ⟨e, he⟩ := call_of_ne_none hget' w
      exact congrArg Prod.snd (bind_of_error he)
    refine (congrArg Prod.snd (bind_of_ok (call_of_none hget' w))).trans ?_
    rw [bind_of_ok (read_apply _ w)]
    cases hns : w.namespaces.lookup key.ns with
    | none => rfl
    | some ns =>
      rw [seen, if_pos ⟨hget, hget'⟩, hsvc, hns] at h
      cases h

/-- **What a pass writes**, in every order of the lists: nothing to any child unless it reaches one,
and then what the Network it found decides. -/
theorem reconcile_applied (env : Env) (key : ObjectKey) (w : World) :
    (∀ w', Reordered w w' → (reconcile env key w').2.applied = w.applied) ∧
        (∀ svc ns, seen env key w = some (svc, ns) → ¬ ReachesChild env svc ns) ∨
    ∃ svc ns, seen env key w = some (svc, ns) ∧ ReachesChild env svc ns ∧
      ∀ w', Reordered w w' → (reconcile env key w').2.applied = w.applied ++
        ((firstNetwork env w').elim [] fun network => childWrites env
          (planOf env key svc ns network) 0 (lbIngressAddresses env.ipFamilyOf svc)) := by
  cases hseen : seen env key w with
  | none =>
    refine Or.inl ⟨fun w' h => ?_, fun _ _ h => by cases h⟩
    rw [reconcile_of_unseen (h.seen_eq.trans hseen), h.applied]
  | some found =>
    obtain ⟨svc, ns⟩ := found
    have hrun : ∀ w', Reordered w w' → reconcile env key w' = reconcileService env key svc ns w' :=
      fun w' h => reconcile_of_seen (h.seen_eq.trans hseen)
    by_cases hreach : ReachesChild env svc ns
    · refine Or.inr ⟨svc, ns, rfl, hreach, fun w' h => ?_⟩
      rw [hrun w' h, reconcileService_applied hreach, h.applied]
    · refine Or.inl ⟨fun w' h => ?_, fun svc' ns' h => ?_⟩
      · rw [hrun w' h, reconcileService_unapplied hreach, h.applied]
      · obtain ⟨rfl, rfl⟩ := Prod.mk.inj (Option.some.inj h)
        exact hreach

/-! ### When the order shows -/

/-- The first child names the Network, so the writes for two Networks differ. -/
theorem ReachesChild.network_inj (h : ReachesChild env svc ns) {n m : CrossNamespaceReference}
    (hwrites : childWrites env (planOf env key svc ns n) 0 (lbIngressAddresses env.ipFamilyOf svc) =
      childWrites env (planOf env key svc ns m) 0 (lbIngressAddresses env.ipFamilyOf svc)) :
    n = m := by
  cases hfas : lbIngressAddresses env.ipFamilyOf svc with
  | nil => exact absurd hfas h.address
  | cons fa rest =>
    obtain ⟨more, hn⟩ := childWrites_first hfas (planOf env key svc ns n)
    obtain ⟨more', hm⟩ := childWrites_first hfas (planOf env key svc ns m)
    rw [hfas, hn, hm, if_pos h.first, if_pos h.first] at hwrites
    have hchild := (Write.resource.inj (List.cons.inj hwrites).1).2
    exact congrArg (fun c : Child ResourceSpec => c.spec.networkRef) hchild

/-- The Networks of the configured name are one. -/
def OneNetwork (env : Env) (w : World) : Prop :=
  ∀ n ∈ w.networks, ∀ m ∈ w.networks,
    n.name = env.cfg.network → m.name = env.cfg.network → n = m

theorem firstNetwork_eq_some {n : CrossNamespaceReference} (h : firstNetwork env w = some n) :
    n ∈ w.networks ∧ n.name = env.cfg.network :=
  ⟨List.mem_of_find?_eq_some h, by simpa using List.find?_some h⟩

theorem Reordered.first_none (hw : Reordered w w') (h : firstNetwork env w = none) :
    firstNetwork env w' = none := by
  rw [firstNetwork, List.find?_eq_none] at h ⊢
  exact fun n hn => h n (hw.networks.mem_iff.mp hn)

/-- If there is one, it is found in every order. -/
theorem OneNetwork.first_eq (h : OneNetwork env w) (hw : Reordered w w') :
    firstNetwork env w' = firstNetwork env w := by
  cases hfirst : firstNetwork env w with
  | none => exact hw.first_none hfirst
  | some n =>
    obtain ⟨hn, hname⟩ := firstNetwork_eq_some hfirst
    cases hfirst' : firstNetwork env w' with
    | none =>
      rw [firstNetwork, List.find?_eq_none] at hfirst'
      exact absurd hname (by simpa using hfirst' n (hw.networks.mem_iff.mpr hn))
    | some m =>
      obtain ⟨hm, hname'⟩ := firstNetwork_eq_some hfirst'
      rw [h n hn m (hw.networks.mem_iff.mp hm) hname hname']

/-- Any Network of the name comes first in some order. -/
theorem exists_reordered_first {n : CrossNamespaceReference} (hn : n ∈ w.networks)
    (hname : n.name = env.cfg.network) :
    ∃ w', Reordered w w' ∧ firstNetwork env w' = some n := by
  refine ⟨{ w with networks := n :: w.networks.erase n },
    ⟨.rfl, .rfl, (List.perm_cons_erase hn).symm, .rfl, .rfl, .rfl, rfl⟩, ?_⟩
  exact List.find?_cons_of_pos (by simpa using hname)

/-- **When the order of lists does not show**: a pass writes the same in every order exactly if it
does not get as far as a child, or the Networks of the configured name are one. -/
theorem writes_reordered_iff (env : Env) (key : ObjectKey) (w : World) :
    (∀ w', Reordered w w' →
      (reconcile env key w').2.applied = (reconcile env key w).2.applied) ↔
    ∀ svc ns, seen env key w = some (svc, ns) → ReachesChild env svc ns → OneNetwork env w := by
  rcases reconcile_applied env key w with ⟨hnone, hnot⟩ | ⟨svc, ns, hseen, hreach, happlied⟩
  · refine iff_of_true (fun w' h => ?_) fun svc ns hseen h => absurd h (hnot svc ns hseen)
    exact (hnone w' h).trans (hnone w (.refl w)).symm
  · have hw := happlied w (.refl w)
    constructor
    · intro h _ _ _ _ m hm m' hm' hname hname'
      -- Each Network of the name comes first in some order, and the writes say which did.
      obtain ⟨v, hv, hfirst⟩ := exists_reordered_first hm hname
      obtain ⟨v', hv', hfirst'⟩ := exists_reordered_first hm' hname'
      have hsame := (h v hv).trans (h v' hv').symm
      rw [happlied v hv, happlied v' hv', hfirst, hfirst'] at hsame
      exact hreach.network_inj (List.append_cancel_left hsame)
    · intro hone w' h
      rw [happlied w' h, hw, (hone svc ns hseen hreach).first_eq h]

/-! ### Samples -/

/-- The cluster of the samples, with a second Network of the configured name in a namespace that the
operator does not own. -/
def squattedWorld (networks : List CrossNamespaceReference) : World :=
  { sampleWorld (sampleService ["192.0.2.10"]) {} with networks := networks }

/-- The Network the first child was applied with. -/
def appliedNetwork (w : World) : Option CrossNamespaceReference :=
  w.applied.findSome? fun write =>
    match write with
    | .resource _ child => some child.spec.networkRef
    | .record _ _ => none

/-- A Network of another name elsewhere changes nothing. -/
theorem writes_reordered_one :
    ∀ w', Reordered (squattedWorld [⟨"mesh", "netbird"⟩, ⟨"lab", "tenant"⟩]) w' →
      (reconcile sampleEnv sampleKey w').2.applied =
        (reconcile sampleEnv sampleKey
          (squattedWorld [⟨"mesh", "netbird"⟩, ⟨"lab", "tenant"⟩])).2.applied := by
  refine (writes_reordered_iff sampleEnv sampleKey _).mpr fun _ _ _ _ => ?_
  show ∀ n ∈ [(⟨"mesh", "netbird"⟩ : CrossNamespaceReference), ⟨"lab", "tenant"⟩],
    ∀ m ∈ [(⟨"mesh", "netbird"⟩ : CrossNamespaceReference), ⟨"lab", "tenant"⟩],
      n.name = "mesh" → m.name = "mesh" → n = m
  decide

/-- **A Network of the same name elsewhere.** Two passes over one cluster, with no failed call, give
the child of the Service different references. -/
theorem network_by_list_order :
    Reordered (squattedWorld [⟨"mesh", "netbird"⟩, ⟨"mesh", "tenant"⟩])
        (squattedWorld [⟨"mesh", "tenant"⟩, ⟨"mesh", "netbird"⟩]) ∧
      appliedNetwork (reconcile sampleEnv sampleKey
        (squattedWorld [⟨"mesh", "netbird"⟩, ⟨"mesh", "tenant"⟩])).2 =
          some ⟨"mesh", "netbird"⟩ ∧
      appliedNetwork (reconcile sampleEnv sampleKey
        (squattedWorld [⟨"mesh", "tenant"⟩, ⟨"mesh", "netbird"⟩])).2 =
          some ⟨"mesh", "tenant"⟩ :=
  ⟨⟨.rfl, .rfl, .swap _ _ _, .rfl, .rfl, .rfl, rfl⟩, by decide +kernel, by decide +kernel⟩

end LoadBalancer

end NetbirdOperator
