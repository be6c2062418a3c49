import NetbirdOperator.ControlLoop.Keyed
import NetbirdOperator.LoadBalancer.Model

/-!
# What a pass over a Service leaves behind

As for the other controllers there are two ways to reason about a pass. `Closed` lists the writes a
pass over one Service can make; what survives each of them survives every pass, wherever it gives up
(`reconcile_keeps`). `Outcome` lists the exits of a pass that returns no error
(`reconcile_outcome`).

Two of the exits write to the children. `Pruned` says what the two loops of `prune` leave, by what a
lookup answers afterwards; `applyAll` is what the loop over the addresses does. That loop visits
each family as often as it has addresses, always under the same two keys, so of each family the last
address stays.

## Main results

* `LoadBalancer.prune_ok`, `applyChildren_ok` — the two loops
* `LoadBalancer.lookup_applyAll_resources`, `lookup_applyAll_records` — the last address stays
* `LoadBalancer.reconcile_keeps` — what survives each write survives every pass
* `LoadBalancer.reconcile_outcome` — a pass that returns no error takes one of the exits
-/

namespace NetbirdOperator

open ControlLoop

namespace LoadBalancer

open Pass
open ReverseProxyCluster (IPFamily FamilyAddress)

variable {env : Env} {w w' : World} {key : ObjectKey} {svc : Service} {ns : Annotations}
  {plan : Plan} {S : Type}

/-! ### Names -/

/-- The end of a child's name. -/
def familySuffix : IPFamily → List Char
  | .ipv4 => ['-', 'i', 'p', 'v', '4']
  | .ipv6 => ['-', 'i', 'p', 'v', '6']

theorem toList_childName (a : String) (f : IPFamily) :
    (childName a f).toList = a.toList ++ familySuffix f := by
  cases f <;> simp [childName, familySuffix]

theorem childName_inj {a b : String} {f g : IPFamily} (h : childName a f = childName b g) :
    a = b ∧ f = g := by
  have hlist := congrArg String.toList h
  rw [toList_childName, toList_childName] at hlist
  -- The two ends are of one length, so they are split off together.
  obtain ⟨hab, hends⟩ := List.append_inj' hlist (by cases f <;> cases g <;> rfl)
  refine ⟨String.toList_injective hab, ?_⟩
  cases f <;> cases g <;> simp_all [familySuffix]

theorem childKey_inj {f g : IPFamily} : plan.childKey f = plan.childKey g ↔ f = g :=
  ⟨fun h => (childName_inj (congrArg ObjectKey.name h)).2, fun h => h ▸ rfl⟩

/-! ### Ingress addresses -/

/-- An address of the Service, under the family it has. -/
theorem mem_lbIngressAddresses {ipFamilyOf : String → Option IPFamily} {fa : FamilyAddress} :
    fa ∈ lbIngressAddresses ipFamilyOf svc ↔
      fa.address ∈ svc.ingress ∧ fa.address ≠ "" ∧ ipFamilyOf fa.address = some fa.family := by
  simp only [lbIngressAddresses, List.mem_filterMap, ingressAddress]
  constructor
  · rintro ⟨ip, hip, h⟩
    split_ifs at h with hne
    obtain ⟨f, hf, rfl⟩ := Option.map_eq_some_iff.mp h
    exact ⟨hip, hne, hf⟩
  · rintro ⟨hip, hne, hf⟩
    exact ⟨fa.address, hip, by rw [if_neg hne, hf]; rfl⟩

/-! ### Pruning -/

theorem mem_labelled {objects : Objects (Child S)} {k : ObjectKey} :
    k ∈ labelled key objects ↔
      k.ns = key.ns ∧ ∃ c, objects.lookup k = some c ∧ c.loadBalancer = some key.name := by
  simp only [labelled, List.mem_map, List.mem_filter, decide_eq_true_eq]
  constructor
  · rintro ⟨⟨k', c⟩, ⟨hmem, hns, hlabel⟩, rfl⟩
    exact ⟨hns, c, AList.mem_lookup_iff.mpr hmem, hlabel⟩
  · rintro ⟨hns, c, hlookup, hlabel⟩
    exact ⟨⟨k, c⟩, ⟨AList.mem_lookup_iff.mp hlookup, hns, hlabel⟩, rfl⟩

theorem deleteUndesired_ok {c : ObjectKey → Call} {delete : ObjectKey → World → World}
    {desired : List String} (ks : List ObjectKey) :
    Triple (fun w' => w' = w) (deleteUndesired env c delete desired ks)
      (fun _ w' =>
        w' = (ks.filter fun k => k.name ∉ desired).foldl (fun w k => delete k w) w)
      fun _ _ => True := by
  induction ks generalizing w with
  | nil => exact fun _ hw => hw
  | cons k ks ih =>
    rw [deleteUndesired]
    by_cases hk : k.name ∈ desired
    · rw [if_pos (by simpa using hk), List.filter_cons_of_neg (by simpa using hk)]
      exact ih
    · rw [if_neg (by simpa using hk), List.filter_cons_of_pos (by simpa using hk), List.foldl_cons]
      refine Triple.bind (call_triple fun _ _ _ => trivial) fun _ => ?_
      refine Triple.bind (Q := fun _ w' => w' = delete k w) (fun w' hw => by rw [hw]; rfl)
        fun _ => ?_
      exact ih

theorem foldl_deleteResource (ks : List ObjectKey) (w : World) :
    ks.foldl (fun w k => World.deleteResource k w) w =
      { w with resources := ks.foldl (fun s k => s.erase k) w.resources } := by
  induction ks generalizing w with
  | nil => rfl
  | cons k ks ih => rw [List.foldl_cons, ih]; rfl

theorem foldl_deleteRecord (ks : List ObjectKey) (w : World) :
    ks.foldl (fun w k => World.deleteRecord k w) w =
      { w with records := ks.foldl (fun s k => s.erase k) w.records } := by
  induction ks generalizing w with
  | nil => rfl
  | cons k ks ih => rw [List.foldl_cons, ih]; rfl

/-- The object is not a child of the Service, or is desired. -/
def keep (key : ObjectKey) (desired : List String) (k : ObjectKey) (c : Child S) : Bool :=
  ¬ (k.ns = key.ns ∧ c.loadBalancer = some key.name ∧ k.name ∉ desired)

/-- Deleting what is labelled and not desired keeps the rest. -/
theorem lookup_foldl_erase_labelled (objects : Objects (Child S)) (desired : List String)
    (k : ObjectKey) :
    (((labelled key objects).filter fun k => k.name ∉ desired).foldl (fun s k => s.erase k)
        objects).lookup k = (objects.lookup k).filter (keep key desired k) := by
  rw [lookup_foldl_erase]
  simp only [List.mem_filter, mem_labelled, decide_eq_true_eq]
  cases hlookup : objects.lookup k with
  | none => simp
  | some c =>
    rw [Option.filter_some]
    by_cases hkeep : k.ns = key.ns ∧ c.loadBalancer = some key.name ∧ k.name ∉ desired
    · rw [if_pos ⟨⟨hkeep.1, c, rfl, hkeep.2.1⟩, hkeep.2.2⟩, if_neg (by simpa [keep] using hkeep)]
    · rw [if_neg, if_pos (show keep key desired k c = true from decide_eq_true hkeep)]
      rintro ⟨⟨hns, c', hc', hlabel⟩, hname⟩
      obtain rfl := Option.some.inj hc'
      exact hkeep ⟨hns, hlabel, hname⟩

/-- What `prune` leaves: of each kind, the objects that are to be kept. -/
structure Pruned (key : ObjectKey) (desired : List String) (w w' : World) : Prop where
  frame : w' = { w with resources := w'.resources, records := w'.records }
  resources : ∀ k, w'.resources.lookup k = (w.resources.lookup k).filter (keep key desired k)
  records : ∀ k, w'.records.lookup k = (w.records.lookup k).filter (keep key desired k)

theorem prune_ok (desired : List String) :
    Triple (fun w' => w' = w) (prune env key desired) (fun _ => Pruned key desired w)
      fun _ _ => True := by
  refine Triple.bind (call_triple fun _ _ _ => trivial) fun _ => ?_
  refine Triple.bind (Q := fun ks w' => w' = w ∧ ks = labelled key w.resources)
    (fun w' hw => ⟨hw, by rw [hw]⟩) fun ks => Triple.assume fun hks => ?_
  subst hks
  refine Triple.bind (deleteUndesired_ok _) fun _ => ?_
  rw [foldl_deleteResource]
  refine Triple.bind (call_triple fun _ _ _ => trivial) fun _ => ?_
  refine Triple.bind (Q := fun ks w' => w' = _ ∧ ks = labelled key w.records)
    (fun w' hw => ⟨hw, by rw [hw]⟩) fun ks => Triple.assume fun hks => ?_
  subst hks
  refine (deleteUndesired_ok _).conseq (fun _ h => h) (fun _ w' hw => ?_) fun _ _ _ => trivial
  rw [foldl_deleteRecord] at hw
  subst hw
  exact ⟨rfl, lookup_foldl_erase_labelled _ _, lookup_foldl_erase_labelled _ _⟩

/-! ### Applying the children -/

/-- The two writes for an address. -/
def applyOne (plan : Plan) (w : World) (fa : FamilyAddress) : World :=
  (w.applyResource (plan.childKey fa.family) (plan.resource fa)).applyRecord
    (plan.childKey fa.family) (plan.record (recordTypeOf fa.family) fa)

/-- The writes for a list of addresses. -/
def applyAll (plan : Plan) (fas : List FamilyAddress) (w : World) : World :=
  fas.foldl (applyOne plan) w

theorem applyAll_eq (fas : List FamilyAddress) (w : World) :
    applyAll plan fas w =
      { w with
        resources := fas.foldl
          (fun s fa => s.insert (plan.childKey fa.family) (plan.resource fa)) w.resources
        records := fas.foldl
          (fun s fa => s.insert (plan.childKey fa.family) (plan.record (recordTypeOf fa.family) fa))
          w.records
        applied := w.applied ++ fas.flatMap fun fa =>
          [.resource (plan.childKey fa.family) (plan.resource fa),
            .record (plan.childKey fa.family) (plan.record (recordTypeOf fa.family) fa)] } := by
  induction fas generalizing w with
  | nil => simp [applyAll]
  | cons fa fas ih =>
    rw [applyAll, List.foldl_cons, ← applyAll, ih]
    simp [applyOne, World.applyResource, World.applyRecord]

/-- The last address of a family. -/
def lastOf (f : IPFamily) (fas : List FamilyAddress) : Option FamilyAddress :=
  fas.reverse.find? fun fa => fa.family = f

theorem lastOf_eq_some {f : IPFamily} {fas : List FamilyAddress} {fa : FamilyAddress}
    (h : lastOf f fas = some fa) : fa ∈ fas ∧ fa.family = f :=
  ⟨List.mem_reverse.mp (List.mem_of_find?_eq_some h), by simpa using List.find?_some h⟩

theorem lastOf_isSome {f : IPFamily} {fas : List FamilyAddress} :
    (lastOf f fas).isSome ↔ ∃ fa ∈ fas, fa.family = f := by
  simp [lastOf]

theorem find?_childKey (f : IPFamily) (fas : List FamilyAddress) :
    (fas.reverse.find? fun fa => plan.childKey fa.family = plan.childKey f) = lastOf f fas := by
  simp only [childKey_inj]
  rfl

/-- **The last address stays**, as a NetworkResource. -/
theorem lookup_applyAll_resources (fas : List FamilyAddress) (f : IPFamily) :
    (applyAll plan fas w).resources.lookup (plan.childKey f) =
      ((lastOf f fas).map plan.resource).or (w.resources.lookup (plan.childKey f)) := by
  rw [applyAll_eq, lookup_foldl_insert, find?_childKey]

/-- **The last address stays**, as a DNSRecord. -/
theorem lookup_applyAll_records (fas : List FamilyAddress) (f : IPFamily) :
    (applyAll plan fas w).records.lookup (plan.childKey f) =
      ((lastOf f fas).map (plan.record (recordTypeOf f))).or
        (w.records.lookup (plan.childKey f)) := by
  rw [applyAll_eq, lookup_foldl_insert, find?_childKey]
  cases h : lastOf f fas with
  | none => rfl
  | some fa => rw [← (lastOf_eq_some h).2]; rfl

/-- A key that is no child of the plan answers as before. -/
theorem lookup_applyAll_of_ne {fas : List FamilyAddress} {k : ObjectKey}
    (h : ∀ fa ∈ fas, plan.childKey fa.family ≠ k) :
    (applyAll plan fas w).resources.lookup k = w.resources.lookup k ∧
      (applyAll plan fas w).records.lookup k = w.records.lookup k := by
  have hnone : (fas.reverse.find? fun fa => plan.childKey fa.family = k) = none := by
    rw [List.find?_eq_none]
    intro fa hfa
    simpa using h fa (List.mem_reverse.mp hfa)
  rw [applyAll_eq, lookup_foldl_insert, lookup_foldl_insert, hnone]
  exact ⟨rfl, rfl⟩

theorem applyChildren_ok {fas : List FamilyAddress}
    (hfas : ∀ fa ∈ fas, env.ipFamilyOf fa.address = some fa.family) (i : ℕ) :
    Triple (fun w' => w' = w) (applyChildren env plan i fas)
      (fun _ w' => w' = applyAll plan fas w) fun _ _ => True := by
  induction fas generalizing i w with
  | nil => exact fun _ hw => hw
  | cons fa fas ih =>
    have htype : dnsRecordTypeFor env.ipFamilyOf fa.address = some (recordTypeOf fa.family) := by
      rw [dnsRecordTypeFor, hfas fa List.mem_cons_self]
      rfl
    rw [applyChildren, htype]
    refine Triple.bind (call_triple fun _ _ _ => trivial) fun _ => ?_
    refine Triple.bind (Q := fun _ w' => w' = _) (fun w' hw => by rw [hw]; rfl) fun _ => ?_
    refine Triple.bind (call_triple fun _ _ _ => trivial) fun _ => ?_
    refine Triple.bind (Q := fun _ w' => w' = applyOne plan w fa) (fun w' hw => by rw [hw]; rfl)
      fun _ => ?_
    exact ih (fun fa hfa => hfas fa (List.mem_cons_of_mem _ hfa)) (i + 1)

theorem mem_desiredNames {fas : List FamilyAddress} {name : String}
    (hfas : ∀ fa ∈ fas, env.ipFamilyOf fa.address = some fa.family) :
    name ∈ desiredNames env.ipFamilyOf key.name fas ↔
      ∃ fa ∈ fas, childName key.name fa.family = name := by
  have hall : (fas.filter fun fa => (dnsRecordTypeFor env.ipFamilyOf fa.address).isSome) = fas := by
    rw [List.filter_eq_self]
    intro fa hfa
    rw [dnsRecordTypeFor, hfas fa hfa]
    rfl
  rw [desiredNames, hall, List.mem_map]

/-! ### The exits -/

/-- How a pass that returns no error ends, on a Service that is there and has a Namespace. -/
inductive Outcome (env : Env) (key : ObjectKey) (svc : Service) (ns : Annotations) (w : World) :
    Result → World → Prop
  | withdrawn {w' : World} (hadv : advertised env.cfg svc ns = false)
      (hpruned : Pruned key [] w w') : Outcome env key svc ns w ⟨none⟩ w'
  | waiting (hadv : advertised env.cfg svc ns = true)
      (hnone : lbIngressAddresses env.ipFamilyOf svc = []) : Outcome env key svc ns w ⟨none⟩ w
  | dependency {w' : World} (hadv : advertised env.cfg svc ns = true)
      (hsome : lbIngressAddresses env.ipFamilyOf svc ≠ [])
      (hframe : w' = { w with zones := w'.zones }) :
      Outcome env key svc ns w ⟨some dependencyRetry⟩ w'
  | fannedOut {w' : World} (network zone : CrossNamespaceReference) (zones : Objects DNSZone.Spec)
      (hadv : advertised env.cfg svc ns = true)
      (hsome : lbIngressAddresses env.ipFamilyOf svc ≠ [])
      (hnetwork : w.networks.find? (fun n => n.name = env.cfg.network) = some network)
      (hzone : zone = ⟨env.cfg.dnsZone, env.cfg.ns⟩)
      (hpruned : Pruned key
        (desiredNames env.ipFamilyOf key.name (lbIngressAddresses env.ipFamilyOf svc))
        (applyAll ⟨key, network, zone, groupReferences (resourceGroups env.cfg svc ns)⟩
          (lbIngressAddresses env.ipFamilyOf svc) { w with zones := zones }) w') :
      Outcome env key svc ns w ⟨some resyncInterval⟩ w'

theorem resolveNetwork_ok {E : Err → World → Prop} :
    Triple (fun w' => w' = w) (Pass.observe (resolveNetwork env))
      (fun r w' => w' = w ∧ ∀ network, r = .ok network →
        w.networks.find? (fun n => n.name = env.cfg.network) = some network) E := by
  refine Triple.observe ?_
  refine Triple.bind (call_triple fun _ _ h => ⟨h, by simp⟩) fun _ => ?_
  refine Triple.bind (Q := fun found w' => w' = w ∧
    found = w.networks.find? (fun n => n.name = env.cfg.network)) (fun w' h => ⟨h, by rw [h]⟩)
    fun found => Triple.assume fun hfound => ?_
  cases found with
  | none => exact fun w' hw => ⟨hw, by simp⟩
  | some network => exact fun w' hw => ⟨hw, fun n hn => hfound.symm.trans (by simpa using hn)⟩

theorem ensureZone_ok {E : Err → World → Prop} :
    Triple (fun w' => w' = w) (Pass.observe (ensureZone env))
      (fun r w' => w' = { w with zones := w'.zones } ∧
        ∀ zone, r = .ok zone → zone = ⟨env.cfg.dnsZone, env.cfg.ns⟩) E := by
  refine Triple.observe ?_
  rw [ensureZone]
  split
  · exact fun w' hw => ⟨by rw [hw], by simp⟩
  · refine Triple.bind (call_triple fun _ _ h => ⟨by rw [h], by simp⟩) fun _ => ?_
    refine Triple.bind (Q := fun _ w' => w' = { w with zones := w'.zones })
      (fun w' hw => by rw [hw]; rfl) fun _ => ?_
    exact fun w' hw => ⟨hw, fun zone hzone => (Except.ok.inj hzone).symm⟩

theorem fanOut_ok {fas : List FamilyAddress}
    (hfas : ∀ fa ∈ fas, env.ipFamilyOf fa.address = some fa.family) :
    Triple (fun w' => w' = w) (fanOut env plan fas)
      (fun r w' => r = ⟨some resyncInterval⟩ ∧
        Pruned plan.key (desiredNames env.ipFamilyOf plan.key.name fas) (applyAll plan fas w) w')
      fun _ _ => True := by
  refine Triple.bind (applyChildren_ok hfas 0) fun _ => ?_
  exact Triple.bind (prune_ok _) fun _ w' hpruned => ⟨rfl, hpruned⟩

theorem advertise_outcome (hadv : advertised env.cfg svc ns = true)
    (hsome : lbIngressAddresses env.ipFamilyOf svc ≠ []) :
    Triple (fun w' => w' = w)
      (advertise env key svc ns (lbIngressAddresses env.ipFamilyOf svc))
      (Outcome env key svc ns w) fun _ _ => True := by
  have htyped : ∀ fa ∈ lbIngressAddresses env.ipFamilyOf svc,
      env.ipFamilyOf fa.address = some fa.family :=
    fun fa hfa => (mem_lbIngressAddresses.mp hfa).2.2
  refine Triple.bind resolveNetwork_ok fun network => Triple.assume fun hnetwork => ?_
  cases network with
  | error e => exact fun w' hw => .dependency hadv hsome (by rw [hw])
  | ok network =>
    refine Triple.bind ensureZone_ok fun zone => Triple.assume fun hzone => ?_
    cases zone with
    | error e => exact fun w' hw => .dependency hadv hsome hw
    | ok zone =>
      -- Only the zones have changed so far; from here on the pass starts in that world.
      intro w₁ hw₁
      refine ((fanOut_ok htyped).conseq (fun _ h => h) ?_ fun _ _ _ => trivial) w₁ rfl
      rintro r w' ⟨rfl, hpruned⟩
      rw [hw₁] at hpruned
      exact .fannedOut network zone w₁.zones hadv hsome (hnetwork network rfl) (hzone zone rfl)
        hpruned

theorem reconcileService_outcome :
    Triple (fun w' => w' = w) (reconcileService env key svc ns) (Outcome env key svc ns w)
      fun _ _ => True := by
  rw [reconcileService]
  split
  · next hadv =>
    split
    · next hnone => exact fun w' hw => hw ▸ .waiting hadv hnone
    · next fa rest hsome =>
      rw [← hsome]
      exact advertise_outcome hadv (by rw [hsome]; exact List.cons_ne_nil _ _)
  · next hadv =>
    refine Triple.bind (prune_ok []) fun _ w' hpruned => ?_
    exact .withdrawn (by simpa using hadv) hpruned

/-- A pass over a Service that is there, from a given world: reading the Service and its namespace
changes nothing. -/
theorem reconcile_rule {Q : Result → World → Prop} {E : Err → World → Prop}
    (hsvc : w.services.lookup key = some svc) (hns : w.namespaces.lookup key.ns = some ns)
    (hE : ∀ e, E e w) (h : Triple (fun w' => w' = w) (reconcileService env key svc ns) Q E) :
    Triple (fun w' => w' = w) (reconcile env key) Q E := by
  have hcall : ∀ c, Triple (fun w' => w' = w) (call env c) (fun _ w' => w' = w) E := fun c =>
    call_triple fun e w' hw => by rw [hw]; exact hE e
  refine Triple.bind (hcall _) fun _ => ?_
  refine Triple.bind (Q := fun found w' => w' = w ∧ found = some svc)
    (fun w' h => ⟨h, by rw [h]; exact hsvc⟩) fun found => Triple.assume fun hfound => ?_
  subst hfound
  refine Triple.bind (hcall _) fun _ => ?_
  refine Triple.bind (Q := fun found w' => w' = w ∧ found = some ns)
    (fun w' h => ⟨h, by rw [h]; exact hns⟩) fun found => Triple.assume fun hfound => ?_
  subst hfound
  exact h

/-- **Every pass that returns no error takes one of the exits.** -/
theorem reconcile_outcome (hsvc : w.services.lookup key = some svc)
    (hns : w.namespaces.lookup key.ns = some ns) :
    Triple (fun w' => w' = w) (reconcile env key) (Outcome env key svc ns w) fun _ _ => True :=
  reconcile_rule hsvc hns (fun _ => trivial) reconcileService_outcome

/-! ### What survives a pass -/

/-- **The writes of a pass** over a Service: the zone, the children of that Service, and deletions.
`Q` survives each. -/
structure Closed (key : ObjectKey) (Q : World → Prop) : Prop where
  zones : ∀ w zones, Q w → Q { w with zones := zones }
  resource : ∀ w (plan : Plan) fa, plan.key = key → Q w →
    Q (w.applyResource (plan.childKey fa.family) (plan.resource fa))
  record : ∀ w (plan : Plan) type fa, plan.key = key → Q w →
    Q (w.applyRecord (plan.childKey fa.family) (plan.record type fa))
  deleteResource : ∀ w k, Q w → Q (World.deleteResource k w)
  deleteRecord : ∀ w k, Q w → Q (World.deleteRecord k w)

section Keeps

variable {Q : World → Prop}

theorem deleteUndesired_keeps {c : ObjectKey → Call} {delete : ObjectKey → World → World}
    {desired : List String} (hQ : ∀ w k, Q w → Q (delete k w)) (ks : List ObjectKey) :
    Triple Q (deleteUndesired env c delete desired ks) (fun _ => Q) fun _ => Q := by
  induction ks with
  | nil => exact fun _ h => h
  | cons k ks ih =>
    rw [deleteUndesired]
    split
    · exact ih
    · refine Triple.bind (call_triple fun _ _ h => h) fun _ => ?_
      exact Triple.bind (Q := fun _ => Q) (fun w h => hQ w k h) fun _ => ih

theorem prune_keeps (hres : ∀ w k, Q w → Q (World.deleteResource k w))
    (hrec : ∀ w k, Q w → Q (World.deleteRecord k w)) (desired : List String) :
    Triple Q (prune env key desired) (fun _ => Q) fun _ => Q := by
  refine Triple.bind (call_triple fun _ _ h => h) fun _ => ?_
  refine Triple.bind (Q := fun _ => Q) (fun _ h => h) fun _ => ?_
  refine Triple.bind (deleteUndesired_keeps hres _) fun _ => ?_
  refine Triple.bind (call_triple fun _ _ h => h) fun _ => ?_
  refine Triple.bind (Q := fun _ => Q) (fun _ h => h) fun _ => ?_
  exact deleteUndesired_keeps hrec _

theorem applyChildren_keeps {fas : List FamilyAddress}
    (hres : ∀ fa ∈ fas, ∀ w, Q w → Q (w.applyResource (plan.childKey fa.family) (plan.resource fa)))
    (hrec : ∀ fa ∈ fas, ∀ type, dnsRecordTypeFor env.ipFamilyOf fa.address = some type →
      ∀ w, Q w → Q (w.applyRecord (plan.childKey fa.family) (plan.record type fa))) (i : ℕ) :
    Triple Q (applyChildren env plan i fas) (fun _ => Q) fun _ => Q := by
  induction fas generalizing i with
  | nil => exact fun _ h => h
  | cons fa fas ih =>
    have hrest := fun i => ih (fun fa hfa => hres fa (List.mem_cons_of_mem _ hfa))
      (fun fa hfa => hrec fa (List.mem_cons_of_mem _ hfa)) i
    rw [applyChildren]
    split
    · exact hrest (i + 1)
    · next type htype =>
      refine Triple.bind (call_triple fun _ _ h => h) fun _ => ?_
      refine Triple.bind (Q := fun _ => Q) (hres fa List.mem_cons_self) fun _ => ?_
      refine Triple.bind (call_triple fun _ _ h => h) fun _ => ?_
      refine Triple.bind (Q := fun _ => Q) (hrec fa List.mem_cons_self type htype) fun _ => ?_
      exact hrest (i + 1)

theorem resolveNetwork_keeps : Triple Q (resolveNetwork env) (fun _ => Q) fun _ => Q := by
  refine Triple.bind (call_triple fun _ _ h => h) fun _ => ?_
  refine Triple.bind (Q := fun _ => Q) (fun _ h => h) fun found => ?_
  cases found <;> exact fun _ h => h

theorem ensureZone_keeps (h : Closed key Q) :
    Triple Q (ensureZone env) (fun _ => Q) fun _ => Q := by
  rw [ensureZone]
  split
  · exact fun _ h => h
  · refine Triple.bind (call_triple fun _ _ h => h) fun _ => ?_
    exact Triple.bind (Q := fun _ => Q) (fun w hw => h.zones w _ hw) fun _ _ h => h

theorem advertise_keeps (h : Closed key Q) (ingress : List FamilyAddress) :
    Triple Q (advertise env key svc ns ingress) (fun _ => Q) fun _ => Q := by
  refine Triple.bind (Q := fun _ => Q) (Triple.observe resolveNetwork_keeps) fun network => ?_
  cases network with
  | error e => exact fun _ h => h
  | ok network =>
    refine Triple.bind (Q := fun _ => Q) (Triple.observe (ensureZone_keeps h)) fun zone => ?_
    cases zone with
    | error e => exact fun _ h => h
    | ok zone =>
      refine Triple.bind (applyChildren_keeps (fun fa _ w hw => h.resource w _ fa rfl hw)
        (fun fa _ type _ w hw => h.record w _ type fa rfl hw) 0) fun _ => ?_
      exact Triple.bind (prune_keeps h.deleteResource h.deleteRecord _) fun _ _ h => h

/-- **What survives each write survives every pass**, wherever it gives up. -/
theorem reconcile_keeps (h : Closed key Q) :
    Triple Q (reconcile env key) (fun _ => Q) fun _ => Q := by
  refine Triple.bind (call_triple fun _ _ h => h) fun _ => ?_
  refine Triple.bind (Q := fun _ => Q) (fun _ h => h) fun svc => ?_
  cases svc with
  | none => exact fun _ h => h
  | some svc =>
    refine Triple.bind (call_triple fun _ _ h => h) fun _ => ?_
    refine Triple.bind (Q := fun _ => Q) (fun _ h => h) fun ns => ?_
    cases ns with
    | none => exact fun _ h => h
    | some ns =>
      dsimp only
      rw [reconcileService]
      split
      · split
        · exact fun _ h => h
        · exact advertise_keeps h _
      · exact Triple.bind (prune_keeps h.deleteResource h.deleteRecord []) fun _ _ h => h

end Keeps

end LoadBalancer

end NetbirdOperator
