import NetbirdOperator.LoadBalancer.Addresses

/-!
# The groups of a proxy

A ReverseProxyCluster names the groups its proxy is to be reachable in. Between them and the
NetworkResource that joins the groups stand two controllers and one string: `applyService` writes
the names into the `netbird.io/groups` annotation of the proxy's Service, joined with commas, and
the LoadBalancer controller cuts the annotation at the commas, trims the parts, and falls back to
the annotation of the Namespace and then to the operator's default groups when there is nothing.

What comes out is what went in exactly if every group is given by a name, and no name has a comma in
it or a blank at an end. References by id and by object do not get into the annotation at all; if
there are no others, the fallback is taken.

## Main results

* `LoadBalancer.decoded_eq_iff` — which names survive the annotation
* `LoadBalancer.proxy_groups_kept_iff` — when the NetworkResource has the groups of the proxy
* `LoadBalancer.proxy_groups_replaced` — a group by its id, and a name with a comma
-/

namespace NetbirdOperator

open ControlLoop Strings

/-! ### The Service of a proxy -/

namespace ReverseProxyCluster

open LoadBalancer (Annotations Service)

/-- The fields of a ReverseProxyCluster that `applyService` reads. Of the annotations, those the
LoadBalancer controller looks at. -/
structure ServiceSettings where
  groups : List GroupReference := []
  serviceAnnotations : Annotations := {}
  deriving DecidableEq, Repr

/-- `groupNames`: the names among the references, joined with commas. -/
def groupNames (groups : List GroupReference) : String :=
  join (groups.filterMap fun g => g.name) ','

/-- The annotations of the Service: those that are configured, with the groups put over them. -/
def annotationsOf (settings : ServiceSettings) : Annotations :=
  if groupNames settings.groups ≠ "" then
    { settings.serviceAnnotations with groups := some (groupNames settings.groups) }
  else settings.serviceAnnotations

/-- `applyService`, on the Service that is there. Its addresses are not this controller's. -/
def applyService (settings : ServiceSettings) (old : Option Service) : Service where
  loadBalancer := true
  deleting := old.any fun svc => svc.deleting
  annotations := annotationsOf settings
  ingress := (old.map fun svc => svc.ingress).getD []

end ReverseProxyCluster

namespace LoadBalancer

open ReverseProxyCluster (ServiceSettings groupNames annotationsOf applyService)

/-! ### What references denote -/

/-- Whatever groups there are, the references of both lists denote the same ones. -/
def SameGroups (refs refs' : List GroupReference) : Prop :=
  ∀ groups ns id, (∃ ref ∈ refs, ref.Resolves groups ns id) ↔
    ∃ ref ∈ refs', ref.Resolves groups ns id

/-- The CRD admits the reference, and a name that is given is not empty. -/
structure Admitted (ref : GroupReference) : Prop where
  oneField : ref.OneField
  ne_empty : ref.name ≠ some ""

/-- An account in which the id of a group shows how it was asked for. -/
def freeGroups : Groups where
  getByName n := .ok ("n" ++ n)
  get i := .ok ("i" ++ i)
  getLocal _ n := .ok ("l" ++ n)

/-- The id a reference has in that account. -/
def freeID (ref : GroupReference) : String :=
  match ref.name, ref.id, ref.localRef with
  | some n, _, _ => "n" ++ n
  | none, some i, _ => "i" ++ i
  | none, none, some n => "l" ++ n
  | none, none, none => ""

theorem resolves_free {ref : GroupReference} {ns id : String} (href : ref.OneField) :
    ref.Resolves freeGroups ns id ↔ freeID ref = id := by
  rw [GroupReference.Resolves, getGroupIDs, List.foldlM_cons]
  obtain ⟨n, rfl⟩ | ⟨i, rfl⟩ | ⟨n, rfl⟩ := href.cases
  · simp [appendGroupID, freeGroups, freeID, bind, Except.bind, pure, Except.pure, Except.map]
  · simp [appendGroupID, freeGroups, freeID, bind, Except.bind, pure, Except.pure, Except.map]
  · have hne : "l" ++ n ≠ "" := fun h => by
      simpa using congrArg String.toList h
    simp [appendGroupID, freeGroups, freeID, bind, Except.bind, pure, Except.pure, hne]

theorem freeID_inj {ref ref' : GroupReference} (href : ref.OneField) (href' : ref'.OneField)
    (h : freeID ref = freeID ref') : ref = ref' := by
  have hlist := congrArg String.toList h
  obtain ⟨n, rfl⟩ | ⟨i, rfl⟩ | ⟨n, rfl⟩ := href.cases <;>
  obtain ⟨n', rfl⟩ | ⟨i', rfl⟩ | ⟨n', rfl⟩ := href'.cases <;>
    simp only [freeID, String.toList_append, String.reduceToList, List.cons_append,
      List.nil_append, List.cons.injEq, String.toList_inj] at hlist <;>
    first
    | exact absurd hlist.1 (by decide)
    | rw [hlist.2]

/-- References denote the same groups in every account only if they are the same references. -/
theorem sameGroups_iff {refs refs' : List GroupReference} (hrefs : ∀ ref ∈ refs, ref.OneField)
    (hrefs' : ∀ ref ∈ refs', ref.OneField) :
    SameGroups refs refs' ↔ ∀ ref, ref ∈ refs ↔ ref ∈ refs' := by
  have hsub : ∀ l l' : List GroupReference, (∀ ref ∈ l, ref.OneField) →
      (∀ ref ∈ l', ref.OneField) → SameGroups l l' → ∀ ref ∈ l, ref ∈ l' := by
    intro l l' hl hl' h ref hmem
    obtain ⟨ref', hmem', hden⟩ :=
      (h freeGroups "" (freeID ref)).mp ⟨ref, hmem, (resolves_free (hl ref hmem)).mpr rfl⟩
    have heq := (resolves_free (hl' ref' hmem')).mp hden
    rwa [← freeID_inj (hl' ref' hmem') (hl ref hmem) heq]
  constructor
  · intro h ref
    exact ⟨hsub refs refs' hrefs hrefs' h ref,
      hsub refs' refs hrefs' hrefs (fun groups ns id => (h groups ns id).symm) ref⟩
  · intro h groups ns id
    exact exists_congr fun ref => and_congr_left fun _ => h ref

/-! ### The annotation -/

/-- A name that the annotation can carry. -/
def Plain (name : String) : Prop := ',' ∉ name.toList ∧ trimSpace name = name

instance (name : String) : Decidable (Plain name) := inferInstanceAs (Decidable (_ ∧ _))

theorem mem_decode_join {names : List String} {g : String} (hne : names ≠ []) :
    g ∈ decode (join names ',') ↔
      g ≠ "" ∧ ∃ name ∈ names, ∃ part ∈ split name ',', trimSpace part = g := by
  rw [decode, split_join hne]
  simp only [List.mem_filter, List.mem_map, List.mem_flatMap, decide_eq_true_eq]
  constructor
  · rintro ⟨⟨part, ⟨name, hname, hpart⟩, htrim⟩, hg⟩
    exact ⟨hg, name, hname, part, hpart, htrim⟩
  · rintro ⟨hg, name, hname, part, hpart, htrim⟩
    exact ⟨⟨part, ⟨name, hname, hpart⟩, htrim⟩, hg⟩

/-- **Which names survive.** Joined and decoded, some names come back exactly if all are plain. -/
theorem decoded_eq_iff {names : List String} (hne : names ≠ []) (hnames : "" ∉ names) :
    (∀ g, g ∈ decode (join names ',') ↔ g ∈ names) ↔ ∀ name ∈ names, Plain name := by
  constructor
  · intro h name hname
    obtain ⟨-, whole, -, part, hpart, rfl⟩ := (mem_decode_join hne).mp ((h name).mpr hname)
    exact ⟨fun hcomma => not_mem_of_mem_split hpart ((trimSpace_sublist part).subset hcomma),
      trimSpace_trimSpace part⟩
  · intro h g
    rw [mem_decode_join hne]
    constructor
    · rintro ⟨-, name, hname, part, hpart, rfl⟩
      rw [split_of_not_mem (h name hname).1, List.mem_singleton] at hpart
      rw [hpart, (h name hname).2]
      exact hname
    · intro hg
      refine ⟨fun hempty => hnames (hempty ▸ hg), g, hg, g, ?_, (h g hg).2⟩
      rw [split_of_not_mem (h g hg).1]
      exact List.mem_singleton_self g

/-- The reference is by a name that the annotation can carry. -/
def Encodable (ref : GroupReference) : Prop := ∃ name, ref = { name := some name } ∧ Plain name

variable {settings : ServiceSettings} {cfg : Config} {ns : Annotations} {old : Option Service}

theorem oneField_groupReferences (names : List String) :
    ∀ ref ∈ groupReferences names, ref.OneField := by
  intro ref href
  obtain ⟨n, -, rfl⟩ := List.mem_map.mp href
  rfl

theorem mem_groupReferences {names : List String} {ref : GroupReference} :
    ref ∈ groupReferences names ↔ ∃ n ∈ names, ref = { name := some n } := by
  simp only [groupReferences, List.mem_map, eq_comm]

/-- The names among the references of a proxy. -/
def namesOf (groups : List GroupReference) : List String := groups.filterMap fun g => g.name

theorem mem_namesOf {groups : List GroupReference} (hadm : ∀ ref ∈ groups, Admitted ref)
    {n : String} : n ∈ namesOf groups ↔ ({ name := some n } : GroupReference) ∈ groups := by
  rw [namesOf, List.mem_filterMap]
  constructor
  · rintro ⟨ref, href, hn⟩
    obtain ⟨m, rfl⟩ | ⟨i, rfl⟩ | ⟨m, rfl⟩ := (hadm ref href).oneField.cases
    · obtain rfl := Option.some.inj hn
      exact href
    · cases hn
    · cases hn
  · exact fun h => ⟨_, h, rfl⟩

theorem groupNames_eq_empty (hadm : ∀ ref ∈ settings.groups, Admitted ref) :
    groupNames settings.groups = "" ↔ namesOf settings.groups = [] := by
  refine join_eq_empty fun n hn hempty => ?_
  subst hempty
  exact (hadm _ ((mem_namesOf hadm).mp hn)).ne_empty rfl

/-- The annotation of the proxy's Service, by whether any group is given by a name. -/
theorem groupsValue_applyService (hadm : ∀ ref ∈ settings.groups, Admitted ref) :
    groupsValue (applyService settings old).annotations ns =
      if namesOf settings.groups = [] then groupsValue settings.serviceAnnotations ns
      else groupNames settings.groups := by
  have hiff := groupNames_eq_empty hadm
  by_cases hnames : namesOf settings.groups = []
  · rw [if_pos hnames, show (applyService settings old).annotations = settings.serviceAnnotations
      from if_neg (not_not_intro (hiff.mpr hnames))]
  · have hne : groupNames settings.groups ≠ "" := fun h => hnames (hiff.mp h)
    rw [if_neg hnames, show (applyService settings old).annotations = _ from if_pos hne]
    rfl

theorem resourceGroups_applyService (hadm : ∀ ref ∈ settings.groups, Admitted ref) :
    resourceGroups cfg (applyService settings old) ns =
      if namesOf settings.groups = [] then annotatedGroups cfg settings.serviceAnnotations ns
      else decode (join (namesOf settings.groups) ',') := by
  rw [resourceGroups, annotatedGroups, groupsValue_applyService hadm]
  split
  · rfl
  · next hnames => exact if_neg (mt (groupNames_eq_empty hadm).mp hnames)

section

variable {groups : List GroupReference} (hadm : ∀ ref ∈ groups, Admitted ref)

include hadm

/-- Without a name among the groups, names denote the same only if there are none of either. -/
theorem mem_groupReferences_iff_of_nameless (hnames : namesOf groups = []) {names : List String} :
    (∀ ref, ref ∈ groupReferences names ↔ ref ∈ groups) ↔ groups = [] ∧ names = [] := by
  have hnone : ∀ n, ({ name := some n } : GroupReference) ∉ groups := by
    intro n hn
    rw [← mem_namesOf hadm, hnames] at hn
    exact List.not_mem_nil hn
  constructor
  · intro h
    refine ⟨List.eq_nil_iff_forall_not_mem.mpr fun ref href => ?_,
      List.eq_nil_iff_forall_not_mem.mpr fun n hn => ?_⟩
    · obtain ⟨n, -, rfl⟩ := mem_groupReferences.mp ((h ref).mpr href)
      exact hnone n href
    · exact hnone n ((h _).mp (mem_groupReferences.mpr ⟨n, hn, rfl⟩))
  · rintro ⟨rfl, rfl⟩ ref
    rfl

/-- With a name among them, what is decoded denotes the same exactly if the annotation can carry
each of them. -/
theorem mem_groupReferences_decode_iff (hnames : namesOf groups ≠ []) :
    (∀ ref, ref ∈ groupReferences (decode (join (namesOf groups) ',')) ↔ ref ∈ groups) ↔
      ∀ ref ∈ groups, Encodable ref := by
  have hempty : "" ∉ namesOf groups := fun h => (hadm _ ((mem_namesOf hadm).mp h)).ne_empty rfl
  have hdecoded := decoded_eq_iff hnames hempty
  constructor
  · intro h ref href
    obtain ⟨n, hn, rfl⟩ := mem_groupReferences.mp ((h ref).mpr href)
    refine ⟨n, rfl, hdecoded.mp (fun g => ?_) n ((mem_namesOf hadm).mpr href)⟩
    rw [mem_namesOf hadm, ← h, mem_groupReferences]
    simp
  · intro henc ref
    have hplain : ∀ n ∈ namesOf groups, Plain n := by
      intro n hn
      obtain ⟨m, hm, hplain⟩ := henc _ ((mem_namesOf hadm).mp hn)
      obtain rfl : n = m := by simpa using hm
      exact hplain
    rw [mem_groupReferences]
    simp only [hdecoded.mpr hplain, mem_namesOf hadm]
    constructor
    · rintro ⟨n, hn, rfl⟩
      exact hn
    · intro href
      obtain ⟨n, rfl, -⟩ := henc ref href
      exact ⟨n, href, rfl⟩

end

/-- When the references decoded from the annotation denote the groups of the proxy. -/
theorem sameGroups_applyService_iff (hadm : ∀ ref ∈ settings.groups, Admitted ref) :
    SameGroups (groupReferences (resourceGroups cfg (applyService settings old) ns))
        settings.groups ↔
      (∀ ref ∈ settings.groups, Encodable ref) ∧
        (settings.groups = [] → annotatedGroups cfg settings.serviceAnnotations ns = []) := by
  rw [sameGroups_iff (oneField_groupReferences _) fun ref href => (hadm ref href).oneField,
    resourceGroups_applyService hadm]
  by_cases hnames : namesOf settings.groups = []
  · -- What is decoded is the fallback: names only, and the proxy has none.
    rw [if_pos hnames, mem_groupReferences_iff_of_nameless hadm hnames]
    constructor
    · rintro ⟨hempty, hfallback⟩
      exact ⟨by simp [hempty], fun _ => hfallback⟩
    · rintro ⟨henc, hfallback⟩
      have hempty : settings.groups = [] := by
        rw [List.eq_nil_iff_forall_not_mem]
        intro ref href
        obtain ⟨n, rfl, -⟩ := henc ref href
        rw [← mem_namesOf hadm, hnames] at href
        exact List.not_mem_nil href
      exact ⟨hempty, hfallback hempty⟩
  · have hne : settings.groups ≠ [] := fun h => hnames (by rw [h]; rfl)
    rw [if_neg hnames, mem_groupReferences_decode_iff hadm hnames]
    exact ⟨fun henc => ⟨henc, fun hnil => absurd hnil hne⟩, fun h => h.1⟩

/-! ### The NetworkResource -/

/-- The operator's default groups are what a Service with these annotations gets. -/
def UsesDefaults (annotations ns : Annotations) : Prop := groupsValue annotations ns = ""

theorem usesDefaults_iff (hadm : ∀ ref ∈ settings.groups, Admitted ref) :
    UsesDefaults (applyService settings old).annotations ns ↔
      namesOf settings.groups = [] ∧ UsesDefaults settings.serviceAnnotations ns := by
  rw [UsesDefaults, groupsValue_applyService hadm]
  split
  · next hnames => simp [UsesDefaults, hnames]
  · next hnames => simp [groupNames_eq_empty hadm, hnames]

/-- The NetworkResources of the Service denote the groups. -/
def JoinsGroups (key : ObjectKey) (groups : List GroupReference) (w : World) : Prop :=
  ∀ k c, w.resources.lookup k = some c → Labelled key k c → SameGroups c.spec.groups groups

/-- A pass that advertises a Service gives its NetworkResources the groups of `resourceGroups`, and
there is one. -/
theorem resources_of_reconcile {env : Env} {key : ObjectKey} {svc : Service} {w w' : World}
    (hsvc : w.services.lookup key = some svc) (hns : w.namespaces.lookup key.ns = some ns)
    (hrun : reconcile env key w = (.ok ⟨some resyncInterval⟩, w')) :
    (∀ k c, w'.resources.lookup k = some c → Labelled key k c →
        c.spec.groups = groupReferences (resourceGroups env.cfg svc ns)) ∧
      ∃ k c, w'.resources.lookup k = some c ∧ Labelled key k c := by
  obtain ⟨network, hfan⟩ := fannedOut_of_reconcile hsvc hns hrun
  constructor
  · intro k c hk hc
    obtain ⟨f, hf, -⟩ := hfan.resources.eq_of_labelled hk hc
    obtain ⟨fa, -, rfl⟩ := Option.map_eq_some_iff.mp hf
    rfl
  · have hsome : lbIngressAddresses env.ipFamilyOf svc ≠ [] := by
      cases (reconcile_outcome hsvc hns).ok rfl hrun with
      | fannedOut network zone zones hadv hsome => exact hsome
    obtain ⟨fa, hfa⟩ := List.exists_mem_of_ne_nil _ hsome
    obtain ⟨last, hlast⟩ := Option.isSome_iff_exists.mp (lastOf_isSome.mpr ⟨fa, hfa, rfl⟩)
    exact ⟨_, _, hfan.resources.wanted fa.family _ (by rw [hlast]; rfl), rfl, rfl⟩

/-- **When the NetworkResources of a proxy join its groups**, after a pass that advertises the
Service as `applyService` left it: every reference is by a name without commas and without blanks at
its ends, and if there is no reference then there are no groups to fall back to. The operator's
default groups are taken instead of some that are given exactly if none is given by a name, and
neither the Service nor its Namespace has another annotation. -/
theorem proxy_groups_kept_iff (env : Env) (rpc : ReverseProxyCluster.CR)
    (settings : ServiceSettings) (old : Option Service) (ns : Annotations) (w w' : World)
    (hadm : ∀ ref ∈ settings.groups, Admitted ref)
    (hsvc : w.services.lookup (proxyServiceKey rpc) = some (applyService settings old))
    (hns : w.namespaces.lookup (proxyServiceKey rpc).ns = some ns)
    (hrun : reconcile env (proxyServiceKey rpc) w = (.ok ⟨some resyncInterval⟩, w')) :
    (JoinsGroups (proxyServiceKey rpc) settings.groups w' ↔
        (∀ ref ∈ settings.groups, Encodable ref) ∧
          (settings.groups = [] → annotatedGroups env.cfg settings.serviceAnnotations ns = [])) ∧
      (UsesDefaults (applyService settings old).annotations ns ↔
        (∀ ref ∈ settings.groups, ref.name = none) ∧
          UsesDefaults settings.serviceAnnotations ns) := by
  obtain ⟨hgroups, k, c, hk, hc⟩ := resources_of_reconcile hsvc hns hrun
  refine ⟨?_, ?_⟩
  · rw [← sameGroups_applyService_iff hadm]
    constructor
    · intro h
      rw [← hgroups k c hk hc]
      exact h k c hk hc
    · intro h k c hk hc
      rw [hgroups k c hk hc]
      exact h
  · rw [usesDefaults_iff hadm]
    refine and_congr_left fun _ => ?_
    simp [namesOf]

/-! ### Samples -/

/-- An operator with a default group. -/
def groupsEnv : Env := { sampleEnv with cfg := { sampleEnv.cfg with defaultGroups := ["All"] } }

/-- A cluster with the Service of a proxy with these groups. -/
def groupsWorld (groups : List GroupReference) : World :=
  { sampleWorld (sampleService []) {} with
    services := (∅ : Objects Service).insert (proxyServiceKey sampleProxy.rpc)
      (applyService { groups := groups } (some (sampleService ["192.0.2.10"]))) }

/-- The groups of its NetworkResource after a pass. -/
def joinedGroups (groups : List GroupReference) : Option (List GroupReference) :=
  let key := proxyServiceKey sampleProxy.rpc
  ((reconcile groupsEnv key (groupsWorld groups)).2.resources.lookup (childKeyOf key .ipv4)).map
    fun c => c.spec.groups

theorem proxy_groups_kept_named :
    JoinsGroups (proxyServiceKey sampleProxy.rpc) [{ name := some "ops" }]
      (reconcile groupsEnv (proxyServiceKey sampleProxy.rpc)
        (groupsWorld [{ name := some "ops" }])).2 := by
  refine (proxy_groups_kept_iff groupsEnv sampleProxy.rpc { groups := [{ name := some "ops" }] }
    (some (sampleService ["192.0.2.10"])) {} (groupsWorld [{ name := some "ops" }]) _ ?_
    (by decide) (by decide) (Prod.ext (by decide +kernel) rfl)).1.mpr ⟨?_, by simp⟩
  · intro ref href
    obtain rfl := List.mem_singleton.mp href
    exact ⟨rfl, by decide⟩
  · intro ref href
    obtain rfl := List.mem_singleton.mp href
    exact ⟨"ops", rfl, by decide⟩

/-- **A group by its id, and a name with a comma.** The one is replaced by the operator's default
groups, the other becomes two groups. -/
theorem proxy_groups_replaced :
    joinedGroups [{ id := some "g1" }] = some [{ name := some "All" }] ∧
      ¬ SameGroups [{ name := some "All" }] [{ id := some "g1" }] ∧
      joinedGroups [{ name := some "ops,eu" }] =
        some [{ name := some "ops" }, { name := some "eu" }] ∧
      ¬ SameGroups [{ name := some "ops" }, { name := some "eu" }] [{ name := some "ops,eu" }] := by
  refine ⟨by decide +kernel, fun h => ?_, by decide +kernel, fun h => ?_⟩
  · obtain ⟨ref, href, hden⟩ := (h freeGroups "" "nAll").mp
      ⟨_, List.mem_cons_self, (resolves_free (by decide)).mpr rfl⟩
    obtain rfl := List.mem_singleton.mp href
    exact absurd ((resolves_free (by decide)).mp hden) (by decide)
  · obtain ⟨ref, href, hden⟩ := (h freeGroups "" "nops").mp
      ⟨_, List.mem_cons_self, (resolves_free (by decide)).mpr rfl⟩
    obtain rfl := List.mem_singleton.mp href
    exact absurd ((resolves_free (by decide)).mp hden) (by decide)

end LoadBalancer

end NetbirdOperator
