import NetbirdOperator.GatewayAPI.Model
import NetbirdOperator.ReverseProxyService.Model

/-!
# Which Service a backend is

A reference to a backend goes through two translations. `routeBackends` keeps its name and its port,
and `httpTarget` resolves the name in the namespace of the ReverseProxyService, which is the
route's. The group, the kind and the namespace of the reference are read by neither.

`routeBackends` is a fallible fold over the rules with a fallible fold over the references inside.
`routeBackends_ok` is the one place where it is unfolded: an accepted route is the concatenation of
its rules' backends, each rule having at least one path and one reference that is given traffic. So
the backends are those that some reference `Yields`, and the question is what each of them is dialed
at. The reference denotes a Service of its own namespace; it is dialed exactly if that is the
route's.

## Main results

* `routeBackends_ok` — what an accepted route is translated into
* `backends_denoted_iff` — when every backend is the Service that is meant
* `foreign_backend_dialed_locally` — a reference to another namespace is dialed in the route's
-/

namespace NetbirdOperator

open ControlLoop

namespace GatewayAPI

/-! ### The translation, flattened -/

/-- The references of a rule that are given traffic. -/
def liveRefs (rule : HTTPRouteRule) : List HTTPBackendRef :=
  rule.backendRefs.filter fun br => br.weight.getD 1 ≠ 0

/-- The backend of a reference under a path. -/
def backendOf (br : HTTPBackendRef) (path : String) : ReverseProxyBackend :=
  ⟨br.name, path, br.port⟩

/-- The backends of a rule with the given paths. -/
def backendsOf (paths : List String) (refs : List HTTPBackendRef) : List ReverseProxyBackend :=
  refs.flatMap fun br => paths.map (backendOf br)

theorem mem_backendsOf {paths : List String} {refs : List HTTPBackendRef}
    {b : ReverseProxyBackend} :
    b ∈ backendsOf paths refs ↔ ∃ br ∈ refs, ∃ p ∈ paths, backendOf br p = b := by
  simp [backendsOf]

variable {route : HTTPRoute} {rule : HTTPRouteRule} {rules : List HTTPRouteRule}
  {out out' backends : List ReverseProxyBackend} {paths : List String}

/-- A reference of weight 0 is passed over; any other adds a backend for each path. -/
theorem addBackendRef_ok {br : HTTPBackendRef} {st st' : RuleState}
    (h : addBackendRef paths st br = .ok st') :
    (br.weight.getD 1 = 0 ∧ st' = st) ∨
      (br.weight.getD 1 ≠ 0 ∧
        st' = ⟨br.weight.getD 1, st.ruleBackends + 1, st.out ++ paths.map (backendOf br)⟩) := by
  unfold addBackendRef at h
  simp only at h
  split_ifs at h with _ hw
  · exact .inl ⟨hw, (Except.ok.inj h).symm⟩
  · exact .inr ⟨hw, (Except.ok.inj h).symm⟩

theorem foldlM_addBackendRef :
    ∀ {refs : List HTTPBackendRef} {st st' : RuleState},
      refs.foldlM (addBackendRef paths) st = .ok st' →
      st'.out = st.out ++ backendsOf paths (refs.filter fun br => br.weight.getD 1 ≠ 0) ∧
        st'.ruleBackends =
          st.ruleBackends + (refs.filter fun br => br.weight.getD 1 ≠ 0).length := by
  intro refs
  induction refs with
  | nil =>
    intro st st' h
    obtain rfl : st = st' := Except.ok.inj h
    simp [backendsOf]
  | cons br refs ih =>
    intro st st' h
    rw [List.foldlM_cons] at h
    obtain ⟨mid, hstep, h⟩ := bind_eq_ok.mp h
    obtain ⟨hout, hcount⟩ := ih h
    obtain ⟨hw, rfl⟩ | ⟨hw, rfl⟩ := addBackendRef_ok hstep
    · rw [List.filter_cons_of_neg (by simpa using hw)]
      exact ⟨hout, hcount⟩
    · rw [List.filter_cons_of_pos (by simpa using hw)]
      refine ⟨?_, ?_⟩
      · rw [hout]
        simp [backendsOf]
      · rw [hcount, List.length_cons, Nat.add_assoc, Nat.add_comm 1]

/-- A rule the proxy can represent. -/
structure Represents (rule : HTTPRouteRule) (paths : List String) : Prop where
  rulePaths : rulePaths rule = some paths
  live : liveRefs rule ≠ []

theorem addRule_ok (h : addRule out rule = .ok out') :
    ∃ paths, Represents rule paths ∧ out' = out ++ backendsOf paths (liveRefs rule) := by
  unfold addRule at h
  split_ifs at h
  cases hp : rulePaths rule with
  | none => simp only [hp] at h; cases h
  | some paths =>
    simp only [hp] at h
    obtain ⟨st, hf, h⟩ := bind_eq_ok.mp h
    obtain ⟨hout, hcount⟩ := foldlM_addBackendRef hf
    split_ifs at h with hzero
    refine ⟨paths, ⟨hp, ?_⟩, (Except.ok.inj h).symm.trans hout⟩
    intro hnil
    exact hzero (hcount.trans (by rw [show List.filter _ _ = [] from hnil]; rfl))

/-- The paths of a rule, and none for one the proxy cannot represent. -/
def pathsOf (rule : HTTPRouteRule) : List String := (rulePaths rule).getD []

theorem foldlM_addRule :
    ∀ {rules : List HTTPRouteRule} {out out' : List ReverseProxyBackend},
      rules.foldlM addRule out = .ok out' →
      (∀ rule ∈ rules, Represents rule (pathsOf rule)) ∧
        out' = out ++ rules.flatMap fun rule => backendsOf (pathsOf rule) (liveRefs rule) := by
  intro rules
  induction rules with
  | nil =>
    intro out out' h
    obtain rfl : out = out' := Except.ok.inj h
    simp
  | cons rule rules ih =>
    intro out out' h
    rw [List.foldlM_cons] at h
    obtain ⟨mid, hr, h⟩ := bind_eq_ok.mp h
    obtain ⟨paths, hrep, hmid⟩ := addRule_ok hr
    obtain ⟨hrest, hout⟩ := ih h
    have hpaths : pathsOf rule = paths := by rw [pathsOf, hrep.rulePaths]; rfl
    refine ⟨List.forall_mem_cons.mpr ⟨hpaths ▸ hrep, hrest⟩, ?_⟩
    rw [hout, hmid, List.flatMap_cons, hpaths, List.append_assoc]

/-- **What an accepted route is translated into**: the backends of its rules, one after another. -/
theorem routeBackends_ok (h : routeBackends route = .ok backends) :
    (∀ rule ∈ route.rules, Represents rule (pathsOf rule)) ∧
      backends = route.rules.flatMap fun rule => backendsOf (pathsOf rule) (liveRefs rule) := by
  obtain ⟨out, hf, h⟩ := bind_eq_ok.mp h
  obtain ⟨hrep, hout⟩ := foldlM_addRule hf
  split_ifs at h
  exact ⟨hrep, (Except.ok.inj h).symm.trans (by simpa using hout)⟩

theorem rulePaths_ne_nil (h : rulePaths rule = some paths) : paths ≠ [] := by
  unfold rulePaths at h
  obtain ⟨ps, -, h⟩ := Option.bind_eq_some_iff.mp h
  split_ifs at h with hnil <;> obtain rfl := Option.some.inj h
  · exact List.cons_ne_nil _ _
  · exact hnil

/-! ### What a reference denotes -/

/-- The reference is to a core Service. Both fields default to that. -/
def HTTPBackendRef.DenotesService (br : HTTPBackendRef) : Prop :=
  (br.group = none ∨ br.group = some "") ∧ (br.kind = none ∨ br.kind = some "Service")

instance (br : HTTPBackendRef) : Decidable br.DenotesService :=
  inferInstanceAs (Decidable (_ ∧ _))

/-- The reference is given traffic, and the backend is its translation under a path of its rule. -/
def Yields (route : HTTPRoute) (br : HTTPBackendRef) (b : ReverseProxyBackend) : Prop :=
  ∃ rule ∈ route.rules, br ∈ liveRefs rule ∧ ∃ p ∈ pathsOf rule, backendOf br p = b

/-- The backends of an accepted route are those its references yield. -/
theorem mem_routeBackends (h : routeBackends route = .ok backends) {b : ReverseProxyBackend} :
    b ∈ backends ↔ ∃ br, Yields route br b := by
  rw [(routeBackends_ok h).2, List.mem_flatMap]
  simp only [mem_backendsOf]
  constructor
  · rintro ⟨rule, hrule, br, hbr, p, hp, rfl⟩
    exact ⟨br, rule, hrule, hbr, p, hp, rfl⟩
  · rintro ⟨br, rule, hrule, hbr, p, hp, rfl⟩
    exact ⟨rule, hrule, br, hbr, p, hp, rfl⟩

/-- Every reference that is given traffic yields a backend. -/
theorem exists_yields (h : routeBackends route = .ok backends) (hrule : rule ∈ route.rules)
    {br : HTTPBackendRef} (hbr : br ∈ liveRefs rule) : ∃ b, Yields route br b := by
  have hrep := (routeBackends_ok h).1 rule hrule
  obtain ⟨p, hp⟩ := List.exists_mem_of_ne_nil _ (rulePaths_ne_nil hrep.rulePaths)
  exact ⟨backendOf br p, rule, hrule, hbr, p, hp, rfl⟩

/-- A backend as the ReverseProxyService has it once it is stored: an unset port is 0. -/
def ReverseProxyBackend.stored (b : ReverseProxyBackend) : ReverseProxyService.Backend :=
  ⟨b.serviceRef, (b.port.getD 0 : ℕ), b.path⟩

/-- The backend a reference denotes, under a path. -/
def HTTPBackendRef.denoted (br : HTTPBackendRef) (path : String) : ReverseProxyService.Backend :=
  ⟨br.name, (br.port.getD 0 : ℕ), path⟩

/-- The reference is carried through both translations: it is to a Service, and whatever the cluster
is, what it yields becomes the target of the Service of that name in the reference's namespace. -/
structure Represented (route : HTTPRoute) (backends : List ReverseProxyBackend)
    (br : HTTPBackendRef) : Prop where
  yielded : ∃ b ∈ backends, Yields route br b
  service : br.DenotesService
  dialed : ∀ b, Yields route br b → b ∈ backends ∧ ∀ digest cfg hostname cluster fault address,
    ReverseProxyService.httpTarget cluster fault address
        (childOf digest route cfg backends hostname).ns b.stored =
      ReverseProxyService.httpTarget cluster fault address (br.ns.getD route.ns)
        (br.denoted b.path)

/-- A cluster with one Service, of one port. -/
def onlyService (ns name : String) : ReverseProxyService.Cluster where
  service ns' name' :=
    if ns' = ns ∧ name' = name then some ⟨.other "ClusterIP", [⟨"", 80⟩]⟩ else none
  records := []

/-- With the Service in one namespace only, the two resolve differently. -/
theorem ns_eq_of_httpTarget_eq {ns ns' name path : String} {port : ℤ}
    (h : ReverseProxyService.httpTarget (onlyService ns name) (fun _ => none) "" ns
        ⟨name, port, path⟩ =
      ReverseProxyService.httpTarget (onlyService ns name) (fun _ => none) "" ns'
        ⟨name, port, path⟩) : ns' = ns := by
  by_contra hne
  have hhere : (onlyService ns name).service ns name = some ⟨.other "ClusterIP", [⟨"", 80⟩]⟩ :=
    if_pos ⟨rfl, rfl⟩
  have hthere : (onlyService ns name).service ns' name = none := if_neg fun hns => hne hns.1
  unfold ReverseProxyService.httpTarget at h
  rw [ReverseProxyService.resolveBackend_of_other hhere,
    ReverseProxyService.resolveBackend_of_absent hthere] at h
  cases h

theorem Represented.ns_eq {br : HTTPBackendRef} (hrep : Represented route backends br) :
    br.ns.getD route.ns = route.ns := by
  obtain ⟨b, -, hb⟩ := hrep.yielded
  have hdial := (hrep.dialed b hb).2 id ⟨"", "", "", ""⟩ "" (onlyService route.ns br.name)
    (fun _ => none) ""
  obtain ⟨_, _, _, p, _, rfl⟩ := hb
  exact ns_eq_of_httpTarget_eq hdial

/-- **When every backend is the Service that is meant**: the references that are given traffic are
to Services, in the namespace of the route. -/
theorem backends_denoted_iff (route : HTTPRoute) (backends : List ReverseProxyBackend)
    (h : routeBackends route = .ok backends) :
    (∀ rule ∈ route.rules, ∀ br ∈ liveRefs rule, Represented route backends br) ↔
      ∀ rule ∈ route.rules, ∀ br ∈ liveRefs rule,
        br.DenotesService ∧ (br.ns = none ∨ br.ns = some route.ns) := by
  constructor
  · intro hall rule hrule br hbr
    have hrep := hall rule hrule br hbr
    refine ⟨hrep.service, ?_⟩
    have hns := hrep.ns_eq
    cases hbrns : br.ns with
    | none => exact .inl rfl
    | some ns =>
      rw [hbrns] at hns
      exact .inr (congrArg some hns)
  · intro hall rule hrule br hbr
    obtain ⟨hservice, hns⟩ := hall rule hrule br hbr
    have hns : br.ns.getD route.ns = route.ns := by
      rcases hns with hns | hns <;> rw [hns] <;> rfl
    obtain ⟨b, hb⟩ := exists_yields h hrule hbr
    refine ⟨⟨b, (mem_routeBackends h).mpr ⟨br, hb⟩, hb⟩, hservice, ?_⟩
    intro b hb
    refine ⟨(mem_routeBackends h).mpr ⟨br, hb⟩, ?_⟩
    intro digest cfg hostname cluster fault address
    obtain ⟨_, _, _, p, _, rfl⟩ := hb
    rw [hns]
    rfl

/-! ### Samples -/

/-- A route of one rule with one reference. -/
def routeOf (br : HTTPBackendRef) : HTTPRoute :=
  { ns := "shop", name := "cart", generation := 1, parentRefs := [], hostnames := []
    rules := [{ routeMatches := [], backendRefs := [br] }], parents := [] }

/-- A reference to a Service of the route's namespace. -/
def localRef : HTTPBackendRef := { name := "api", port := some 8080 }

theorem backends_denoted_local :
    routeBackends (routeOf localRef) = .ok [⟨"api", "/", some 8080⟩] ∧
      ∀ rule ∈ (routeOf localRef).rules, ∀ br ∈ liveRefs rule,
        Represented (routeOf localRef) [⟨"api", "/", some 8080⟩] br :=
  ⟨by decide, (backends_denoted_iff _ _ (by decide)).mpr (by decide)⟩

/-- A reference to a Service of another namespace. -/
def foreignRef : HTTPBackendRef := { localRef with ns := some "payments" }

/-- A reference to a bucket. -/
def bucketRef : HTTPBackendRef :=
  { localRef with group := some "storage.example.com", kind := some "Bucket" }

/-- A cluster where both namespaces have a Service of the name. -/
def namesakes : ReverseProxyService.Cluster where
  service ns name :=
    if (ns = "shop" ∨ ns = "payments") ∧ name = "api" then
      some ⟨.other "ClusterIP", [⟨"http", 8080⟩]⟩
    else none
  records := []

/-- The host of a target, if there is one. -/
def dialedHost (t : Except ReverseProxyService.Err ReverseProxyService.ServiceTarget) :
    Option String :=
  t.toOption.bind fun t => t.host

/-- **A reference to another namespace is dialed in the route's**, and so is one to another kind.
Both routes are accepted, and both are sent to the Service of that name next to the route. -/
theorem foreign_backend_dialed_locally :
    (∀ br ∈ [foreignRef, bucketRef], routeBackends (routeOf br) = .ok [⟨"api", "/", some 8080⟩] ∧
        ¬ Represented (routeOf br) [⟨"api", "/", some 8080⟩] br) ∧
      dialedHost (ReverseProxyService.httpTarget namesakes (fun _ => none) "gate.foo.com" "shop"
        (ReverseProxyBackend.stored ⟨"api", "/", some 8080⟩)) =
          some "api.shop.svc.cluster.local" ∧
      dialedHost (ReverseProxyService.httpTarget namesakes (fun _ => none) "gate.foo.com" "payments"
        (foreignRef.denoted "/")) = some "api.payments.svc.cluster.local" := by
  refine ⟨?_, by decide, by decide⟩
  intro br hbr
  simp only [List.mem_cons, List.not_mem_nil, or_false] at hbr
  rcases hbr with rfl | rfl
  · exact ⟨by decide, fun hrep => absurd hrep.ns_eq (by decide)⟩
  · exact ⟨by decide, fun hrep => absurd hrep.service (by decide)⟩

end GatewayAPI

end NetbirdOperator
