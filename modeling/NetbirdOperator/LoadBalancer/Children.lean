import NetbirdOperator.LoadBalancer.Effects
import NetbirdOperator.ReverseProxyCluster.Records

/-!
# Children and addresses

A Service that is advertised is to have one NetworkResource and one DNSRecord for each IP family of
its addresses, and a Service that is not advertised none. Applying goes by name and pruning by
label, so the state after a pass is described once for both kinds: `Settled` says that the wanted
children are in place, and that of everything else exactly what carries the Service's label is gone.
Both exits that write to the children leave such a state, whatever was there before.

One exit does not write. A Service that is to be advertised but has no address left is taken for one
that waits for its first, and keeps what it has.

## Main results

* `LoadBalancer.settled_of_withdrawn`, `settled_resources`, `settled_records` — the two exits that
  write
* `LoadBalancer.children_match_iff` — when the children match the addresses after a pass
* `LoadBalancer.released_address_kept` — children of an address the Service lost
-/

namespace NetbirdOperator

open ControlLoop

namespace LoadBalancer

open ReverseProxyCluster (IPFamily FamilyAddress)

variable {S : Type} {env : Env} {key : ObjectKey} {svc : Service} {ns : Annotations}
  {w w' : World} {before applied after : Objects (Child S)} {want : IPFamily → Option (Child S)}

/-! ### What is asked for -/

theorem childKeyOf_inj {key' : ObjectKey} {f g : IPFamily}
    (h : childKeyOf key f = childKeyOf key' g) : key = key' ∧ f = g := by
  obtain ⟨hns, hname⟩ := ObjectKey.mk.inj h
  obtain ⟨hname, hf⟩ := childName_inj hname
  exact ⟨by cases key; cases key'; simp_all, hf⟩

/-- The object carries the label of the Service, in its namespace. -/
def Labelled (key k : ObjectKey) (c : Child S) : Prop :=
  k.ns = key.ns ∧ c.loadBalancer = some key.name

/-- The Service is to have children for the family. -/
def Wanted (env : Env) (svc : Service) (ns : Annotations) (f : IPFamily) : Prop :=
  advertised env.cfg svc ns = true ∧
    ∃ ip ∈ svc.ingress, ip ≠ "" ∧ env.ipFamilyOf ip = some f

/-- The objects with the Service's label are one for each of the families, and fit it. -/
structure Exactly (key : ObjectKey) (families : IPFamily → Prop) (fits : IPFamily → S → Prop)
    (objects : Objects (Child S)) : Prop where
  present : ∀ f, families f →
    ∃ c, objects.lookup (childKeyOf key f) = some c ∧ Labelled key (childKeyOf key f) c
  only : ∀ k c, objects.lookup k = some c → Labelled key k c →
    ∃ f, families f ∧ k = childKeyOf key f ∧ fits f c.spec

/-- The children match the addresses the Service has. -/
structure Matches (env : Env) (key : ObjectKey) (svc : Service) (ns : Annotations) (w : World) :
    Prop where
  resources : Exactly key (Wanted env svc ns)
    (fun f s => s.address ∈ svc.ingress ∧ env.ipFamilyOf s.address = some f) w.resources
  records : Exactly key (Wanted env svc ns)
    (fun f s => s.content ∈ svc.ingress ∧ env.ipFamilyOf s.content = some f ∧
      s.type = recordTypeOf f) w.records
  oneName : ∀ k k' c c', w.records.lookup k = some c → Labelled key k c →
    w.records.lookup k' = some c' → Labelled key k' c' → c.spec.name = c'.spec.name

/-- A record of a ReverseProxyCluster. -/
def IsProxyRecord (k : ObjectKey) (c : Child DNSRecord.Spec) : Prop :=
  c.loadBalancer = none ∧ ∃ rpc : ReverseProxyCluster.CR, k.ns = rpc.ns ∧
    (k.name = ReverseProxyCluster.catchAllName rpc ∨
      ∃ type, k.name = ReverseProxyCluster.proxyAddressRecordName rpc type)

/-- Of the objects in `p`, none is added, changed or removed. -/
def Same (p : ObjectKey → Child S → Prop) (before after : Objects (Child S)) : Prop :=
  ∀ k c, p k c → (after.lookup k = some c ↔ before.lookup k = some c)

/-- A child of a Service other than `key`. -/
def IsOthers (key k : ObjectKey) (c : Child S) : Prop :=
  ∃ other f, other ≠ key ∧ k = childKeyOf other f ∧ c.loadBalancer = some other.name

/-- The children of other Services and the records of proxies are untouched. -/
structure Untouched (key : ObjectKey) (w w' : World) : Prop where
  resources : Same (IsOthers key) w.resources w'.resources
  records : Same (IsOthers key) w.records w'.records
  proxies : Same IsProxyRecord w.records w'.records

/-- The Service has a child, by the label. -/
def HasChild (key : ObjectKey) (w : World) : Prop :=
  (∃ k c, w.resources.lookup k = some c ∧ Labelled key k c) ∨
    ∃ k c, w.records.lookup k = some c ∧ Labelled key k c

/-! ### What the writing exits leave -/

/-- The wanted children are in place, and what else carries the label is gone. -/
structure Settled (key : ObjectKey) (want : IPFamily → Option (Child S))
    (before after : Objects (Child S)) : Prop where
  wanted : ∀ f c, want f = some c → after.lookup (childKeyOf key f) = some c
  rest : ∀ k, (∀ f, want f ≠ none → childKeyOf key f ≠ k) →
    after.lookup k = (before.lookup k).filter (keep key [] k)

/-- Applying the wanted children and then keeping what is desired settles. -/
theorem settled_of_filter {desired : List String}
    (hwanted : ∀ f c, want f = some c → applied.lookup (childKeyOf key f) = some c)
    (hrest : ∀ k, (∀ f, want f ≠ none → childKeyOf key f ≠ k) →
      applied.lookup k = before.lookup k)
    (hdesired : ∀ name, name ∈ desired ↔ ∃ f, want f ≠ none ∧ childName key.name f = name)
    (hafter : ∀ k, after.lookup k = (applied.lookup k).filter (keep key desired k)) :
    Settled key want before after where
  wanted := by
    intro f c hf
    have hname : childName key.name f ∈ desired := (hdesired _).mpr ⟨f, by simp [hf], rfl⟩
    rw [hafter, hwanted f c hf, Option.filter_some, if_pos]
    simp [keep, childKeyOf, hname]
  rest := by
    intro k hk
    rw [hafter, hrest k hk]
    -- Of this namespace, a desired name would be that of a wanted child.
    have hkeep : keep (S := S) key desired k = keep key [] k := by
      funext c
      by_cases hns : k.ns = key.ns
      · have hname : k.name ∉ desired := by
          rw [hdesired]
          rintro ⟨f, hf, hname⟩
          exact hk f hf (by cases k; simp_all [childKeyOf])
        simp [keep, hname]
      · simp [keep, hns]
    rw [hkeep]

theorem Settled.eq_of_labelled (h : Settled key want before after) {k : ObjectKey} {c : Child S}
    (hk : after.lookup k = some c) (hc : Labelled key k c) :
    ∃ f, want f = some c ∧ k = childKeyOf key f := by
  by_cases hwant : ∃ f, want f ≠ none ∧ childKeyOf key f = k
  · obtain ⟨f, hf, rfl⟩ := hwant
    obtain ⟨c', hc'⟩ := Option.ne_none_iff_exists'.mp hf
    rw [h.wanted f c' hc'] at hk
    exact ⟨f, hc'.trans hk, rfl⟩
  · rw [h.rest k fun f hf hfk => hwant ⟨f, hf, hfk⟩] at hk
    have hkeep := (Option.filter_eq_some_iff.mp hk).2
    simp [keep, hc.1, hc.2] at hkeep

theorem Settled.exactly (h : Settled key want before after) {families : IPFamily → Prop}
    {fits : IPFamily → S → Prop} (hfam : ∀ f, families f ↔ (want f).isSome)
    (hfits : ∀ f c, want f = some c → c.loadBalancer = some key.name ∧ fits f c.spec) :
    Exactly key families fits after where
  present := by
    intro f hf
    obtain ⟨c, hc⟩ := Option.isSome_iff_exists.mp ((hfam f).mp hf)
    exact ⟨c, h.wanted f c hc, rfl, (hfits f c hc).1⟩
  only := by
    intro k c hk hc
    obtain ⟨f, hf, rfl⟩ := h.eq_of_labelled hk hc
    exact ⟨f, (hfam f).mpr (by rw [hf]; rfl), rfl, (hfits f c hf).2⟩

/-- What has another key and not the label stays. -/
theorem Settled.same (h : Settled key want before after) {p : ObjectKey → Child S → Prop}
    (hkey : ∀ k c, p k c → ∀ f, childKeyOf key f ≠ k) (hlabel : ∀ k c, p k c → ¬ Labelled key k c) :
    Same p before after := by
  intro k c hp
  rw [h.rest k fun f _ => hkey k c hp f, Option.filter_eq_some_iff]
  exact ⟨fun hk => hk.1, fun hk => ⟨hk, decide_eq_true fun hl => hlabel k c hp ⟨hl.1, hl.2.1⟩⟩⟩

/-! ### The names of the others -/

theorem IsOthers.childKeyOf_ne {k : ObjectKey} {c : Child S} (h : IsOthers key k c) (f : IPFamily) :
    childKeyOf key f ≠ k := by
  obtain ⟨other, g, hne, rfl, -⟩ := h
  exact fun heq => hne (childKeyOf_inj heq).1.symm

theorem IsOthers.not_labelled {k : ObjectKey} {c : Child S} (h : IsOthers key k c) :
    ¬ Labelled key k c := by
  obtain ⟨other, g, hne, rfl, hlabel⟩ := h
  rintro ⟨hns, hname⟩
  have hname := Option.some.inj (hlabel.symm.trans hname)
  exact hne (by cases key; cases other; simp_all [childKeyOf])

theorem getLast?_childName (name : String) (f : IPFamily) :
    (childName name f).toList.getLast? = some '4' ∨
      (childName name f).toList.getLast? = some '6' := by
  rw [toList_childName]
  cases f <;> simp [familySuffix]

theorem IsProxyRecord.childKeyOf_ne {k : ObjectKey} {c : Child DNSRecord.Spec}
    (h : IsProxyRecord k c) (f : IPFamily) : childKeyOf key f ≠ k := by
  rintro rfl
  obtain ⟨-, rpc, -, hname⟩ := h
  -- The names of the proxy's records end in a letter.
  have hlast := getLast?_childName key.name f
  rcases hname with hname | ⟨type, hname⟩
  · rw [show childName key.name f = _ from hname, ReverseProxyCluster.catchAllName] at hlast
    simp at hlast
  · rw [show childName key.name f = _ from hname,
      ReverseProxyCluster.proxyAddressRecordName] at hlast
    cases type <;> simp [ReverseProxyCluster.lowerType] at hlast

theorem IsProxyRecord.not_labelled {k : ObjectKey} {c : Child DNSRecord.Spec}
    (h : IsProxyRecord k c) : ¬ Labelled key k c := by
  rintro ⟨-, hlabel⟩
  rw [h.1] at hlabel
  cases hlabel

theorem untouched_of_settled {wantResource : IPFamily → Option (Child ResourceSpec)}
    {wantRecord : IPFamily → Option (Child DNSRecord.Spec)}
    (hres : Settled key wantResource w.resources w'.resources)
    (hrec : Settled key wantRecord w.records w'.records) : Untouched key w w' where
  resources := hres.same (fun _ _ h => h.childKeyOf_ne) fun _ _ h => h.not_labelled
  records := hrec.same (fun _ _ h => h.childKeyOf_ne) fun _ _ h => h.not_labelled
  proxies := hrec.same (fun _ _ h => h.childKeyOf_ne) fun _ _ h => h.not_labelled

/-! ### The exits -/

theorem settled_of_withdrawn (h : Pruned key [] w w') :
    Settled key (fun _ => none) w.resources w'.resources ∧
      Settled key (fun _ => none) w.records w'.records :=
  ⟨⟨by simp, fun k _ => h.resources k⟩, ⟨by simp, fun k _ => h.records k⟩⟩

/-- The families of a list of addresses, by what is wanted for them. -/
theorem wanted_iff (hadv : advertised env.cfg svc ns = true) (f : IPFamily) :
    Wanted env svc ns f ↔ (lastOf f (lbIngressAddresses env.ipFamilyOf svc)).isSome := by
  rw [lastOf_isSome, Wanted]
  constructor
  · rintro ⟨-, ip, hip, hne, hf⟩
    exact ⟨⟨f, ip⟩, mem_lbIngressAddresses.mpr ⟨hip, hne, hf⟩, rfl⟩
  · rintro ⟨fa, hfa, rfl⟩
    obtain ⟨hip, hne, hf⟩ := mem_lbIngressAddresses.mp hfa
    exact ⟨hadv, fa.address, hip, hne, hf⟩

section FanOut

variable {plan : Plan} {fas : List FamilyAddress}
  (hfas : ∀ fa ∈ fas, env.ipFamilyOf fa.address = some fa.family)
  (hpruned : Pruned plan.key (desiredNames env.ipFamilyOf plan.key.name fas)
    (applyAll plan fas w) w')

include hfas in
theorem mem_desiredNames_iff {g : FamilyAddress → Child S} (name : String) :
    name ∈ desiredNames env.ipFamilyOf plan.key.name fas ↔
      ∃ f, (lastOf f fas).map g ≠ none ∧ childName plan.key.name f = name := by
  rw [mem_desiredNames hfas]
  simp only [ne_eq, Option.map_eq_none_iff, ← Option.isSome_iff_ne_none, lastOf_isSome]
  constructor
  · rintro ⟨fa, hfa, hname⟩
    exact ⟨fa.family, ⟨fa, hfa, rfl⟩, hname⟩
  · rintro ⟨f, ⟨fa, hfa, rfl⟩, hname⟩
    exact ⟨fa, hfa, hname⟩

theorem childKey_ne_of_rest {g : FamilyAddress → Child S} {k : ObjectKey}
    (hk : ∀ f, (lastOf f fas).map g ≠ none → childKeyOf plan.key f ≠ k) :
    ∀ fa ∈ fas, plan.childKey fa.family ≠ k := by
  intro fa hfa
  refine hk fa.family ?_
  simp only [ne_eq, Option.map_eq_none_iff, ← Option.isSome_iff_ne_none, lastOf_isSome]
  exact ⟨fa, hfa, rfl⟩

include hfas hpruned

variable (plan)

theorem settled_resources :
    Settled plan.key (fun f => (lastOf f fas).map plan.resource) w.resources w'.resources := by
  refine settled_of_filter ?_ ?_ (mem_desiredNames_iff hfas) hpruned.resources
  · intro f c hf
    exact (lookup_applyAll_resources fas f).trans (by rw [hf]; rfl)
  · exact fun k hk => (lookup_applyAll_of_ne (childKey_ne_of_rest hk)).1

theorem settled_records :
    Settled plan.key (fun f => (lastOf f fas).map (plan.record (recordTypeOf f))) w.records
      w'.records := by
  refine settled_of_filter ?_ ?_ (fun name => ?_) hpruned.records
  · intro f c hf
    exact (lookup_applyAll_records fas f).trans (by rw [hf]; rfl)
  · intro k hk
    refine (lookup_applyAll_of_ne fun fa hfa => hk fa.family ?_).2
    simp only [ne_eq, Option.map_eq_none_iff, ← Option.isSome_iff_ne_none, lastOf_isSome]
    exact ⟨fa, hfa, rfl⟩
  · rw [mem_desiredNames_iff (g := plan.resource) hfas]
    simp only [ne_eq, Option.map_eq_none_iff]

end FanOut

/-- A pass that withdraws the Service leaves it without children. -/
theorem matches_of_withdrawn (hadv : advertised env.cfg svc ns = false) (h : Pruned key [] w w') :
    Matches env key svc ns w' ∧ Untouched key w w' := by
  obtain ⟨hres, hrec⟩ := settled_of_withdrawn h
  have hfam : ∀ f, ¬ Wanted env svc ns f := fun f hf => absurd hf.1 (by simp [hadv])
  refine ⟨⟨hres.exactly (by simp [hfam]) (by simp), hrec.exactly (by simp [hfam]) (by simp), ?_⟩,
    untouched_of_settled hres hrec⟩
  intro k _ c _ hk hc
  obtain ⟨f, hf, -⟩ := hrec.eq_of_labelled hk hc
  cases hf

/-- A pass that fans out leaves the children its addresses ask for. -/
theorem matches_of_fannedOut {plan : Plan} (hplan : plan.key = key)
    (hadv : advertised env.cfg svc ns = true)
    (h : Pruned key
      (desiredNames env.ipFamilyOf key.name (lbIngressAddresses env.ipFamilyOf svc))
      (applyAll plan (lbIngressAddresses env.ipFamilyOf svc) w) w') :
    Matches env key svc ns w' ∧ Untouched key w w' := by
  subst hplan
  have hmem := fun f fa (hf : lastOf f (lbIngressAddresses env.ipFamilyOf svc) = some fa) =>
    mem_lbIngressAddresses.mp (lastOf_eq_some hf).1
  have hfas : ∀ fa ∈ lbIngressAddresses env.ipFamilyOf svc,
      env.ipFamilyOf fa.address = some fa.family :=
    fun fa hfa => (mem_lbIngressAddresses.mp hfa).2.2
  have hres := settled_resources plan hfas h
  have hrec := settled_records plan hfas h
  refine ⟨⟨hres.exactly ?_ ?_, hrec.exactly ?_ ?_, ?_⟩, untouched_of_settled hres hrec⟩
  · intro f
    rw [wanted_iff hadv, Option.isSome_map]
  · intro f c hc
    obtain ⟨fa, hfa, rfl⟩ := Option.map_eq_some_iff.mp hc
    exact ⟨rfl, (hmem f fa hfa).1, (lastOf_eq_some hfa).2 ▸ (hmem f fa hfa).2.2⟩
  · intro f
    rw [wanted_iff hadv, Option.isSome_map]
  · intro f c hc
    obtain ⟨fa, hfa, rfl⟩ := Option.map_eq_some_iff.mp hc
    exact ⟨rfl, (hmem f fa hfa).1, (lastOf_eq_some hfa).2 ▸ (hmem f fa hfa).2.2, rfl⟩
  · intro k k' c c' hk hc hk' hc'
    -- Every record is made from the plan, and the plan has one name.
    obtain ⟨f, hf, -⟩ := hrec.eq_of_labelled hk hc
    obtain ⟨f', hf', -⟩ := hrec.eq_of_labelled hk' hc'
    obtain ⟨fa, -, rfl⟩ := Option.map_eq_some_iff.mp hf
    obtain ⟨fa', -, rfl⟩ := Option.map_eq_some_iff.mp hf'
    rfl

/-- Without an address nothing is wanted, so what matches is to have no child. -/
theorem matches_iff_of_waiting (hnone : lbIngressAddresses env.ipFamilyOf svc = []) :
    Matches env key svc ns w ↔ ¬ HasChild key w := by
  have hfam : ∀ f, ¬ Wanted env svc ns f := by
    rintro f ⟨-, ip, hip, hne, hf⟩
    have hmem : (⟨f, ip⟩ : FamilyAddress) ∈ lbIngressAddresses env.ipFamilyOf svc :=
      mem_lbIngressAddresses.mpr ⟨hip, hne, hf⟩
    rw [hnone] at hmem
    cases hmem
  constructor
  · rintro h (⟨k, c, hk, hc⟩ | ⟨k, c, hk, hc⟩)
    · obtain ⟨f, hf, -⟩ := h.resources.only k c hk hc
      exact hfam f hf
    · obtain ⟨f, hf, -⟩ := h.records.only k c hk hc
      exact hfam f hf
  · intro h
    refine ⟨⟨fun f hf => absurd hf (hfam f), fun k c hk hc => ?_⟩,
      ⟨fun f hf => absurd hf (hfam f), fun k c hk hc => ?_⟩, fun k k' c c' hk hc _ _ => ?_⟩
    · exact absurd (.inl ⟨k, c, hk, hc⟩) h
    · exact absurd (.inr ⟨k, c, hk, hc⟩) h
    · exact absurd (.inr ⟨k, c, hk, hc⟩) h

theorem Untouched.refl (key : ObjectKey) (w : World) : Untouched key w w :=
  ⟨fun _ _ _ => Iff.rfl, fun _ _ _ => Iff.rfl, fun _ _ _ => Iff.rfl⟩

/-- **When the children match the addresses after a pass** that returns no error and has not stopped
at the Network or the zone: unless the Service has lost its last address and had children. -/
theorem children_match_iff (env : Env) (key : ObjectKey) (svc : Service) (ns : Annotations)
    (w w' : World) (result : Result) (hsvc : w.services.lookup key = some svc)
    (hns : w.namespaces.lookup key.ns = some ns) (hrun : reconcile env key w = (.ok result, w'))
    (hdependency : result ≠ ⟨some dependencyRetry⟩) :
    (Matches env key svc ns w' ∧ Untouched key w w') ↔
      ¬ (advertised env.cfg svc ns = true ∧ lbIngressAddresses env.ipFamilyOf svc = [] ∧
        HasChild key w) := by
  cases (reconcile_outcome hsvc hns).ok rfl hrun with
  | withdrawn hadv hpruned => simp [hadv, matches_of_withdrawn hadv hpruned]
  | waiting hadv hnone => simp [hadv, hnone, matches_iff_of_waiting hnone, Untouched.refl]
  | dependency => exact absurd rfl hdependency
  | fannedOut network zone zones hadv hsome _ _ hpruned =>
    have hmatch := matches_of_fannedOut (by rfl) hadv hpruned
    exact iff_of_true ⟨hmatch.1, hmatch.2.resources, hmatch.2.records, hmatch.2.proxies⟩
      fun h => hsome h.2.1

/-! ### Samples -/

/-- An operator that advertises by default, where a text with a colon is an IPv6 address. -/
def sampleEnv : Env where
  cfg :=
    { defaultAdvertise := true, ns := "netbird", network := "mesh", dnsZone := "kube.example.com" }
  ipFamilyOf ip :=
    if ip = "" then none else if ip.toList.contains ':' then some .ipv6 else some .ipv4
  fault _ := none

def sampleKey : ObjectKey := ⟨"shop", "app"⟩

/-- A LoadBalancer Service with these addresses. -/
def sampleService (ingress : List String) : Service := { loadBalancer := true, ingress := ingress }

/-- A cluster with the Service and its Namespace, and no children yet. -/
def sampleWorld (svc : Service) (ns : Annotations) : World where
  services := (∅ : Objects Service).insert sampleKey svc
  namespaces := (∅ : AList fun _ : String => Annotations).insert "shop" ns
  networks := [⟨"mesh", "netbird"⟩]
  zones := ∅
  resources := ∅
  records := ∅
  applied := []

/-- The world after a pass over a Service with both families. -/
def advertisedWorld : World :=
  (reconcile sampleEnv sampleKey (sampleWorld (sampleService ["192.0.2.10", "2001:db8::10"]) {})).2

theorem children_match_dualstack :
    Matches sampleEnv sampleKey (sampleService ["192.0.2.10", "2001:db8::10"]) {} advertisedWorld ∧
      Untouched sampleKey (sampleWorld (sampleService ["192.0.2.10", "2001:db8::10"]) {})
        advertisedWorld := by
  refine (children_match_iff sampleEnv sampleKey _ {} _ _ ⟨some resyncInterval⟩ (by decide)
    (by decide) (Prod.ext (by decide +kernel) rfl) (by decide)).mpr ?_
  exact fun h => absurd h.2.1 (by decide)

/-- The world once the Service has lost its addresses. -/
def releasedWorld : World :=
  { advertisedWorld with services := advertisedWorld.services.insert sampleKey (sampleService []) }

/-- The child for IPv4 as it is in a world. -/
def sampleAddress (w : World) : Option String :=
  (w.resources.lookup (childKeyOf sampleKey .ipv4)).map fun c => c.spec.address

/-- **Children of an address the Service lost.** The pass returns no error and keeps them. -/
theorem released_address_kept :
    (reconcile sampleEnv sampleKey releasedWorld).1 = .ok ⟨none⟩ ∧
      sampleAddress (reconcile sampleEnv sampleKey releasedWorld).2 = some "192.0.2.10" ∧
      ¬ Matches sampleEnv sampleKey (sampleService []) {}
        (reconcile sampleEnv sampleKey releasedWorld).2 := by
  have hchild : sampleAddress (reconcile sampleEnv sampleKey releasedWorld).2 =
      some "192.0.2.10" := by decide +kernel
  refine ⟨by decide +kernel, hchild, ?_⟩
  intro h
  obtain ⟨c, hc, -⟩ := Option.map_eq_some_iff.mp hchild
  have hlabel : ((reconcile sampleEnv sampleKey releasedWorld).2.resources.lookup
      (childKeyOf sampleKey .ipv4)).map (fun c => c.loadBalancer) = some (some "app") := by
    decide +kernel
  rw [hc] at hlabel
  obtain ⟨f, ⟨-, ip, hip, -⟩, -⟩ := h.resources.only _ c hc ⟨rfl, Option.some.inj hlabel⟩
  cases hip

end LoadBalancer

end NetbirdOperator
