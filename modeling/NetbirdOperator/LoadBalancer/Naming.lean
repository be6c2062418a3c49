import NetbirdOperator.LoadBalancer.WakeUps
import NetbirdOperator.NetworkRouter.Model

/-!
# Names that identify their owner

Inside the cluster an object is known by its namespace and its name. NetBird has one flat space of
names, so the operator joins the two with a hyphen: the name a Service is published under, the name
of its NetworkResources, and the name of the group of a router's deployed peers. Namespaces and
names may have hyphens of their own, and then the place of the joining one is lost.

Exactly one thing can go wrong. Two owners get one name when a part behind a hyphen has moved from
the name of the one to the namespace of the other (`Apart`). As long as no two Services stand in
that relation, a published name belongs to one Service in every state of every run.

## Main results

* `LoadBalancer.names_identify_iff` — names identify owners that are apart, in every run
* `LoadBalancer.published_name_merged` — two Services under one name
-/

namespace NetbirdOperator

open ControlLoop Strings

namespace LoadBalancer

open Pass
open ReverseProxyCluster (IPFamily FamilyAddress)

variable {env : Env} {w w' : World} {key k k' : ObjectKey}

/-! ### Owners -/

/-- The names derived from two namespaces and names differ: the published name in any one zone, the
names of the NetworkResources, and the names of the groups of deployed routers. -/
structure Identified (k k' : ObjectKey) : Prop where
  fqdn : ∀ zoneDomain,
    serviceFQDN k.name k.ns zoneDomain ≠ serviceFQDN k'.name k'.ns zoneDomain
  resource : ∀ (plan plan' : Plan) (fa fa' : FamilyAddress), plan.key = k → plan'.key = k' →
    (plan.resource fa).spec.name ≠ (plan'.resource fa').spec.name
  group : ∀ o o' : NetworkRouter.CR, o.ns = k.ns → o.name = k.name → o'.ns = k'.ns →
    o'.name = k'.name → NetworkRouter.groupName o ≠ NetworkRouter.groupName o'

/-- The published names of two Services differ. -/
def ApartServices (k k' : ObjectKey) : Prop :=
  ¬ Shifted k.name k.ns k'.name k'.ns ∧ ¬ Shifted k'.name k'.ns k.name k.ns

/-- Nothing was moved across the hyphen, in either order of name and namespace. -/
def Apart (k k' : ObjectKey) : Prop :=
  ApartServices k k' ∧ ¬ Shifted k.ns k.name k'.ns k'.name ∧ ¬ Shifted k'.ns k'.name k.ns k.name

instance (k k' : ObjectKey) : Decidable (ApartServices k k') := inferInstanceAs (Decidable (_ ∧ _))

/-- A published name tells two Services apart unless a part was moved. -/
theorem serviceFQDN_eq_iff (k k' : ObjectKey) {zoneDomain : String} :
    serviceFQDN k.name k.ns zoneDomain = serviceFQDN k'.name k'.ns zoneDomain ↔
      k = k' ∨ ¬ ApartServices k k' := by
  rw [serviceFQDN, serviceFQDN, String.append_left_inj, String.append_left_inj, hyphen_join_eq_iff,
    ApartServices, ObjectKey.ext_iff]
  tauto

theorem length_familyText (f : IPFamily) : (familyText f).toList.length = 4 := by
  cases f <;> rfl

theorem familyText_injective : Function.Injective familyText := by
  intro f g h
  cases f <;> cases g <;> first | rfl | simp [familyText] at h

theorem resourceName_eq_iff {plan plan' : Plan} {fa fa' : FamilyAddress} :
    (plan.resource fa).spec.name = (plan'.resource fa').spec.name ↔
      (plan.key = plan'.key ∨ ¬ ApartServices plan.key plan'.key) ∧ fa.family = fa'.family := by
  have hjoin : plan.key.name ++ "-" ++ plan.key.ns = plan'.key.name ++ "-" ++ plan'.key.ns ↔
      plan.key = plan'.key ∨ ¬ ApartServices plan.key plan'.key := by
    rw [hyphen_join_eq_iff, ApartServices, ObjectKey.ext_iff]
    tauto
  have hname : ∀ (p : Plan) (a : FamilyAddress), (p.resource a).spec.name.toList =
      (p.key.name ++ "-" ++ p.key.ns ++ "-").toList ++ (familyText a.family).toList :=
    fun p a => String.toList_append
  rw [← String.toList_inj, hname, hname]
  constructor
  · intro h
    -- The families have texts of one length, so they are split off together.
    obtain ⟨hl, hr⟩ := List.append_inj' h (by rw [length_familyText, length_familyText])
    rw [String.toList_inj, String.append_left_inj] at hl
    exact ⟨hjoin.mp hl, familyText_injective (String.toList_injective hr)⟩
  · rintro ⟨h, hf⟩
    rw [hjoin.mpr h, hf]

theorem groupName_eq_iff {o o' : NetworkRouter.CR} :
    NetworkRouter.groupName o = NetworkRouter.groupName o' ↔
      (o.ns = o'.ns ∧ o.name = o'.name) ∨
        Shifted o.ns o.name o'.ns o'.name ∨ Shifted o'.ns o'.name o.ns o.name := by
  -- The prefix is a variable here, since a rewrite would try to evaluate a literal.
  have hassoc : ∀ p a b : String, p ++ a ++ "-" ++ b = p ++ (a ++ "-" ++ b) := by
    intro p a b
    rw [String.append_assoc, String.append_assoc, String.append_assoc]
  have hname : ∀ o : NetworkRouter.CR,
      NetworkRouter.groupName o = "networkrouter-" ++ (o.ns ++ "-" ++ o.name) :=
    fun o => hassoc _ o.ns o.name
  rw [hname, hname, String.append_right_inj, hyphen_join_eq_iff]

/-- A NetworkRouter of that namespace and name. -/
def routerAt (k : ObjectKey) : NetworkRouter.CR where
  ns := k.ns
  name := k.name
  generation := 1
  deleting := false
  finalizer := false
  spec := { networkRef := ⟨"", ""⟩, peers := {}, enabled := true, masquerade := true, metric := 0 }
  status := {}

/-- **The derived names identify two owners exactly if the owners are apart.** -/
theorem identified_iff : Identified k k' ↔ k ≠ k' ∧ Apart k k' := by
  constructor
  · intro h
    have hfqdn := mt (serviceFQDN_eq_iff k k').mpr (h.fqdn "")
    have hgroup := mt groupName_eq_iff.mpr (h.group (routerAt k) (routerAt k') rfl rfl rfl rfl)
    simp only [routerAt] at hgroup
    rw [Apart]
    tauto
  · rintro ⟨hne, hsvc, hgroup⟩
    refine ⟨fun zoneDomain heq => ?_, ?_, ?_⟩
    · exact ((serviceFQDN_eq_iff k k').mp heq).elim hne (not_not_intro hsvc)
    · rintro plan plan' fa fa' rfl rfl heq
      exact (resourceName_eq_iff.mp heq).1.elim hne (not_not_intro hsvc)
    · intro o o' hns hname hns' hname' heq
      rw [groupName_eq_iff, hns, hname, hns', hname'] at heq
      rcases heq with ⟨hns, hname⟩ | h | h
      · exact hne (ObjectKey.ext hns hname)
      · exact hgroup.1 h
      · exact hgroup.2 h

/-! ### Published names -/

/-- The records of the Services `owners` have the names the controller gives them. -/
def Named (owners : Set ObjectKey) (w : World) : Prop :=
  ∀ k c svcName, w.records.lookup k = some c → c.loadBalancer = some svcName →
    (⟨k.ns, svcName⟩ : ObjectKey) ∈ owners ∧
      c.spec.name = serviceFQDN svcName k.ns c.spec.zoneRef.name

/-- Two records of one name, in zones of one domain, are records of the same Service. -/
def OneService (w : World) : Prop :=
  ∀ k c k' c' svcName svcName', w.records.lookup k = some c → c.loadBalancer = some svcName →
    w.records.lookup k' = some c' → c'.loadBalancer = some svcName' →
    c.spec.zoneRef.name = c'.spec.zoneRef.name → c.spec.name = c'.spec.name →
    (⟨k.ns, svcName⟩ : ObjectKey) = ⟨k'.ns, svcName'⟩

variable {owners : Set ObjectKey}

theorem Named.oneService (h : Named owners w) (hapart : owners.Pairwise ApartServices) :
    OneService w := by
  intro k c k' c' svcName svcName' hk hc hk' hc' hzone hname
  obtain ⟨hmem, hfqdn⟩ := h k c svcName hk hc
  obtain ⟨hmem', hfqdn'⟩ := h k' c' svcName' hk' hc'
  rw [hfqdn, hfqdn', ← hzone] at hname
  by_contra hne
  exact ((serviceFQDN_eq_iff ⟨k.ns, svcName⟩ ⟨k'.ns, svcName'⟩).mp hname).elim hne
    (not_not_intro (hapart hmem hmem' hne))

theorem closed_named (hkey : key ∈ owners) : Closed key (Named owners) where
  zones _ _ h := h
  resource _ _ _ _ h := h
  record w plan type fa hplan h := by
    intro k c svcName hk hc
    rw [World.applyRecord, lookup_insert_eq] at hk
    split at hk
    · next heq =>
      obtain rfl := Option.some.inj hk
      obtain rfl := Option.some.inj hc
      subst hplan heq
      exact ⟨hkey, rfl⟩
    · exact h k c svcName hk hc
  deleteResource _ _ h := h
  deleteRecord _ _ h := fun k c svcName hk hc => h k c svcName (lookup_of_erase hk) hc

/-- Nobody but the controller names a record, and the Services are among `owners`. -/
def Unrenamed (owners : Set ObjectKey) (s : State) : Event → Prop
  | .putService key _ => key ∈ owners
  | .editRecord key spec => ∀ c, s.world.records.lookup key = some c →
      spec.zoneRef.name = c.spec.zoneRef.name ∧ spec.name = c.spec.name
  | _ => True

/-- The Services of the cluster are among `owners`, and their records are named after them. -/
structure Published (owners : Set ObjectKey) (w : World) : Prop where
  services : ∀ key svc, w.services.lookup key = some svc → key ∈ owners
  named : Named owners w

theorem Published.reconcile (h : Published owners w) (env : Env) (key : ObjectKey) :
    Published owners (reconcile env key w).2 := by
  cases hsvc : w.services.lookup key with
  | none =>
    rw [reconcile_of_idle fun svc ns hsome _ => absurd (hsvc.symm.trans hsome) (by simp)]
    exact h
  | some svc =>
    refine ⟨?_, (reconcile_keeps (closed_named (h.services key svc hsvc))).final h.named⟩
    rw [(reconcile_frame env key w).1]
    exact h.services

/-- **One event** keeps the names of the records. -/
theorem Published.step {s : State} (h : Published owners s.world) (e : Event)
    (he : Unrenamed owners s e) : Published owners (step env s e).world := by
  cases e with
  | putService key svc =>
    refine ⟨fun k svc' hk => ?_, h.named⟩
    rw [show (LoadBalancer.step env s (.putService key svc)).world.services =
      s.world.services.insert key svc from rfl, lookup_insert_eq] at hk
    split at hk
    · next heq => exact heq ▸ he
    · exact h.services k svc' hk
  | removeService key =>
    refine ⟨fun k svc' hk => ?_, h.named⟩
    rw [show (LoadBalancer.step env s (.removeService key)).world.services =
      s.world.services.erase key from rfl, lookup_erase_eq] at hk
    split at hk
    · cases hk
    · exact h.services k svc' hk
  | putNamespace name ns => exact ⟨h.services, h.named⟩
  | removeNamespace name => exact ⟨h.services, h.named⟩
  | setNetworks networks => exact ⟨h.services, h.named⟩
  | editResource key spec => exact ⟨h.services, h.named⟩
  | editRecord key spec =>
    refine ⟨h.services, fun k c svcName hk hc => ?_⟩
    rw [show (LoadBalancer.step env s (.editRecord key spec)).world.records =
      edit s.world.records key spec from rfl, edit] at hk
    split at hk
    · exact h.named k c svcName hk hc
    · next old hold =>
      rw [lookup_insert_eq] at hk
      split at hk
      · next heq =>
        obtain rfl := Option.some.inj hk
        obtain ⟨hzone, hname⟩ := he old hold
        rw [hzone, hname, ← heq]
        exact h.named key old svcName hold hc
      · exact h.named k c svcName hk hc
  | removeResource key => exact ⟨h.services, h.named⟩
  | removeRecord key =>
    exact ⟨h.services, fun k c svcName hk hc => h.named k c svcName (lookup_of_erase hk) hc⟩
  | pass key fault =>
    simp only [LoadBalancer.step]
    split
    · exact h.reconcile { env with fault := fault } key
    · exact h

/-- **Names identify owners that are apart.** The derived names of two owners differ exactly if the
owners do and nothing was moved across the hyphen; and while no two Services of a cluster come from
each other by such a move, a published name belongs to one Service in every state. -/
theorem names_identify_iff (k k' : ObjectKey) (env : Env) (w : World) (owners : Set ObjectKey)
    (es : List Event) :
    (Identified k k' ↔ k ≠ k' ∧ Apart k k') ∧
      (owners.Pairwise ApartServices → Published owners w →
        (Along es fun pre e => Unrenamed owners (run (step env) (State.start w) pre) e) →
        ∀ pre post, es = pre ++ post →
          OneService (run (step env) (State.start w) pre).world) := by
  refine ⟨identified_iff, ?_⟩
  rintro hapart hw hes pre post rfl
  have h : Published owners (run (step env) (State.start w) pre).world :=
    run_invariant (C := Unrenamed owners) (I := fun s => Published owners s.world) hes.left hw
      fun s e hs he => hs.step e he
  exact h.named.oneService hapart

/-- A cluster with these Services, their Namespaces, and no children. -/
def clusterOf (services : List (ObjectKey × Service)) : World :=
  { sampleWorld (sampleService []) {} with
    services := services.foldl (fun s e => s.insert e.1 e.2) ∅
    namespaces := services.foldl (fun s e => s.insert e.1.ns {}) ∅ }

/-- A pass over each of the Services. -/
def passOver (keys : List ObjectKey) : List Event := keys.map fun k => .pass k calm

/-- Two Services of one namespace. -/
def neighbours : List (ObjectKey × Service) :=
  [(⟨"shop", "web"⟩, sampleService ["192.0.2.10"]), (⟨"shop", "api"⟩, sampleService ["192.0.2.20"])]

theorem names_identify_neighbours :
    OneService (run (step sampleEnv) (State.start (clusterOf neighbours))
      (passOver (neighbours.map Prod.fst))).world := by
  refine (names_identify_iff ⟨"shop", "web"⟩ ⟨"shop", "api"⟩ sampleEnv (clusterOf neighbours)
    {k | k ∈ neighbours.map Prod.fst} _).2 ?_ ⟨?_, ?_⟩ ?_ _ [] (List.append_nil _).symm
  · have : ∀ k ∈ neighbours.map Prod.fst, ∀ k' ∈ neighbours.map Prod.fst, k ≠ k' →
        ApartServices k k' := by decide
    exact fun k hk k' hk' => this k hk k' hk'
  · have hkeys : ∀ k ∈ (clusterOf neighbours).services.keys, k ∈ neighbours.map Prod.fst := by
      decide
    exact fun k svc hk => hkeys k (AList.lookup_isSome.mp (by rw [hk]; rfl))
  · intro k c svcName hk
    cases hk
  · rintro pre e post hes
    obtain ⟨k, -, rfl⟩ := List.mem_map.mp (show e ∈ passOver _ by rw [hes]; simp)
    trivial

/-- A label of RFC 1035, as the name of a Service or of a Namespace. -/
def IsLabel (s : String) : Bool :=
  s.toList.all (fun c => c.isLower || c.isDigit || c = '-') && s.toList.head?.any Char.isLower &&
    s.toList.getLast?.all (fun c => c ≠ '-') && s.length ≤ 63

/-- Two Services of two namespaces. -/
def merged : List (ObjectKey × Service) :=
  [(⟨"shop-eu", "web"⟩, sampleService ["192.0.2.10"]),
    (⟨"eu", "web-shop"⟩, sampleService ["192.0.2.20"])]

/-- The record of a Service for its address. -/
def recordOf (key : ObjectKey) (ip : String) : Child DNSRecord.Spec :=
  Plan.record ⟨key, ⟨"mesh", "netbird"⟩, ⟨"kube.example.com", "netbird"⟩, []⟩ .a ⟨.ipv4, ip⟩

/-- **Two Services under one name.** Both are published, and the name has the addresses of both. Two
NetworkRouters get one group name in the same way. -/
theorem published_name_merged :
    let w := (run (step sampleEnv) (State.start (clusterOf merged))
      (passOver (merged.map Prod.fst))).world
    (∀ e ∈ merged, IsLabel e.1.ns = true ∧ IsLabel e.1.name = true) ∧
      (∀ zoneDomain, serviceFQDN "web" "shop-eu" zoneDomain =
        serviceFQDN "web-shop" "eu" zoneDomain) ∧
      w.records.lookup ⟨"shop-eu", "web-ipv4"⟩ = some (recordOf ⟨"shop-eu", "web"⟩ "192.0.2.10") ∧
      w.records.lookup ⟨"eu", "web-shop-ipv4"⟩ =
        some (recordOf ⟨"eu", "web-shop"⟩ "192.0.2.20") ∧
      ¬ OneService w ∧
      NetworkRouter.groupName (routerAt ⟨"shop", "eu-web"⟩) =
        NetworkRouter.groupName (routerAt ⟨"shop-eu", "web"⟩) := by
  intro w
  have heu : w.records.lookup ⟨"shop-eu", "web-ipv4"⟩ =
      some (recordOf ⟨"shop-eu", "web"⟩ "192.0.2.10") := by decide +kernel
  have hshop : w.records.lookup ⟨"eu", "web-shop-ipv4"⟩ =
      some (recordOf ⟨"eu", "web-shop"⟩ "192.0.2.20") := by decide +kernel
  refine ⟨by decide, fun zoneDomain => ?_, heu, hshop, fun h => ?_, by decide⟩
  · exact (serviceFQDN_eq_iff ⟨"shop-eu", "web"⟩ ⟨"eu", "web-shop"⟩).mpr (.inr (by decide))
  · exact absurd (h _ _ _ _ _ _ heu rfl hshop rfl rfl (by decide)) (by decide)

end LoadBalancer

end NetbirdOperator
