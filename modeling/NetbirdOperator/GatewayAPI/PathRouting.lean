import NetbirdOperator.GatewayAPI.Backends

/-!
# Which rule answers a request

A Gateway sends a request to one rule: of the rules with a matching path prefix of maximal length,
the first in the list. The proxy knows no rules. It has one list of backends, each with a path, and
serves a request from those with the longest matching path.

The specification is stated on the route alone. `HasPrefix` reads a rule's matches as the Gateway
API does, and `Selects` is the precedence among rules; neither mentions the translation. What it
means for a prefix to match a request is a parameter. All that is asked of it is that the longest
match is one string: `PathMatching.elements`, the match by path elements, has that property.

The translation loses which rule a backend came from. It does not matter as long as the longest
prefix belongs to one rule. Where two rules share it the proxy serves the request from both.

## Main results

* `served_iff` — the backends that serve a request, by the rules they come from
* `routing_preserved_iff` — when the proxy serves every request from the rule that is selected
* `shared_prefix_merges_rules` — two rules with one prefix are merged
-/

namespace NetbirdOperator

namespace GatewayAPI

/-! ### Matching a prefix -/

/-- A notion of when a path prefix matches a request. A request has at most one longest match. -/
structure PathMatching where
  admits : String → String → Bool
  eq_of_length : ∀ {p q request}, admits p request = true → admits q request = true →
    p.length = q.length → p = q

/-- A prefix without the slash at its end, which does not count. -/
def trimSlash (p : List Char) : List Char :=
  if p.getLast? = some '/' then p.dropLast else p

theorem trimSlash_cases (p : List Char) :
    (p = trimSlash p ++ ['/']) ∨ (p = trimSlash p ∧ p.getLast? ≠ some '/') := by
  unfold trimSlash
  split_ifs with h
  · exact .inl (List.dropLast_append_getLast? _ h).symm
  · exact .inr ⟨rfl, h⟩

/-- The elements of the prefix are the first ones of the request. -/
def admitsElements (p request : List Char) : Bool :=
  trimSlash p = request ∨ (trimSlash p ++ ['/']).isPrefixOf request

theorem isPrefix_trimSlash {p request : List Char} (h : admitsElements p request = true) :
    trimSlash p <+: request := by
  simp only [admitsElements, Bool.decide_or, Bool.or_eq_true, decide_eq_true_eq,
    List.isPrefixOf_iff_prefix] at h
  rcases h with rfl | h
  · exact List.prefix_rfl
  · exact (List.prefix_append _ _).trans h

theorem prefix_of_trimmed {p request : List Char} (hp : p = trimSlash p)
    (h : admitsElements p request = true) : p <+: request := by
  have htrim := isPrefix_trimSlash h
  rwa [← hp] at htrim

/-- Of two prefixes of one length that match, both end in a slash or neither does. -/
theorem length_ne_of_slash {p q request : List Char} (hp : admitsElements p request = true)
    (hq : admitsElements q request = true) (hps : p = trimSlash p ++ ['/'])
    (hqs : q = trimSlash q ∧ q.getLast? ≠ some '/') : p.length ≠ q.length := by
  intro hlen
  have hqr : q <+: request := prefix_of_trimmed hqs.1 hq
  simp only [admitsElements, Bool.decide_or, Bool.or_eq_true, decide_eq_true_eq,
    List.isPrefixOf_iff_prefix] at hp
  rcases hp with hp | hp
  · have := hqr.length_le
    have := congrArg List.length hps
    simp only [hp, List.length_append, List.length_singleton] at this
    omega
  · rw [← hps] at hp
    have : p = q := (List.prefix_of_prefix_length_le hp hqr (Nat.le_of_eq hlen)).eq_of_length hlen
    refine hqs.2 ?_
    rw [← this, hps]
    simp

/-- The match by path elements, as the Gateway API defines it for `PathPrefix`. -/
def PathMatching.elements : PathMatching where
  admits p request := admitsElements p.toList request.toList
  eq_of_length := by
    intro p q request hp hq hlen
    have hlen : p.toList.length = q.toList.length := by
      rwa [String.length_toList, String.length_toList]
    refine String.toList_injective ?_
    rcases trimSlash_cases p.toList with hps | hps <;>
      rcases trimSlash_cases q.toList with hqs | hqs
    · have htrim : (trimSlash p.toList).length = (trimSlash q.toList).length := by
        rw [hps, hqs] at hlen
        simpa using hlen
      rw [hps, hqs, (List.prefix_of_prefix_length_le (isPrefix_trimSlash hp) (isPrefix_trimSlash hq)
        (Nat.le_of_eq htrim)).eq_of_length htrim]
    · exact absurd hlen (length_ne_of_slash hp hq hps hqs)
    · exact absurd hlen.symm (length_ne_of_slash hq hp hqs hps)
    · exact (List.prefix_of_prefix_length_le (prefix_of_trimmed hps.1 hp)
        (prefix_of_trimmed hqs.1 hq) (Nat.le_of_eq hlen)).eq_of_length hlen

/-! ### The rule a request selects -/

/-- The prefix a match asks for. Without a path it is the root. -/
def HTTPRouteMatch.pathPrefix (m : HTTPRouteMatch) : String :=
  (m.path.bind fun path => path.value).getD "/"

/-- The rule is for the paths with this prefix. A rule without matches is for all of them. -/
def HasPrefix (rule : HTTPRouteRule) (p : String) : Prop :=
  (∃ m ∈ rule.routeMatches, m.pathPrefix = p) ∨ (rule.routeMatches = [] ∧ p = "/")

/-- A prefix of the route that matches the request, and none that matches is longer. -/
structure Longest (M : PathMatching) (route : HTTPRoute) (request p : String) : Prop where
  has : ∃ rule ∈ route.rules, HasPrefix rule p
  admits : M.admits p request = true
  le : ∀ rule ∈ route.rules, ∀ q, HasPrefix rule q → M.admits q request = true →
    q.length ≤ p.length

/-- The rule the Gateway API selects: one with a matching prefix of maximal length, and every rule
before it has shorter ones only. -/
def Selects (M : PathMatching) (route : HTTPRoute) (request : String) (rule : HTTPRouteRule) :
    Prop :=
  ∃ before after p, route.rules = before ++ rule :: after ∧ HasPrefix rule p ∧
    Longest M route request p ∧
    ∀ earlier ∈ before, ∀ q, HasPrefix earlier q → M.admits q request = true →
      q.length < p.length

/-- The Services and ports of a rule's references that are given traffic. -/
def pairs (rule : HTTPRouteRule) : List (String × Option ℕ) :=
  (liveRefs rule).map fun br => (br.name, br.port)

/-- The proxy serves the request from this Service and port: it is that of a backend whose path is
the longest that matches. -/
def Served (M : PathMatching) (backends : List ReverseProxyBackend) (request : String)
    (pair : String × Option ℕ) : Prop :=
  ∃ b ∈ backends, (b.serviceRef, b.port) = pair ∧ M.admits b.path request = true ∧
    ∀ b' ∈ backends, M.admits b'.path request = true → b'.path.length ≤ b.path.length

/-! ### The paths of a rule -/

variable {M : PathMatching} {route : HTTPRoute} {rule : HTTPRouteRule} {paths : List String}
  {backends : List ReverseProxyBackend} {request p : String} {pair : String × Option ℕ}

theorem matchPath_eq_some {m : HTTPRouteMatch} (h : matchPath m = some p) : m.pathPrefix = p := by
  unfold matchPath at h
  unfold HTTPRouteMatch.pathPrefix
  cases hm : m.path with
  | none => simpa [hm] using h
  | some path =>
    simp only [hm] at h
    split_ifs at h
    simpa using h

theorem mem_addUnseen {paths : List String} {q : String} :
    p ∈ addUnseen true paths q ↔ p ∈ paths ∨ q = p := by
  unfold addUnseen
  split_ifs with h
  · simp [eq_comm]
  · have hq : q ∈ paths := by simpa using h
    exact ⟨.inl, fun hp => hp.elim id fun hqp => hqp ▸ hq⟩

theorem mem_foldlM_matchPath :
    ∀ {ms : List HTTPRouteMatch} {acc out : List String},
      ms.foldlM (fun paths m => (matchPath m).map (addUnseen true paths)) acc = some out →
      (p ∈ out ↔ p ∈ acc ∨ ∃ m ∈ ms, m.pathPrefix = p) := by
  intro ms
  induction ms with
  | nil =>
    intro acc out h
    obtain rfl := Option.some.inj h
    simp
  | cons m ms ih =>
    intro acc out h
    rw [List.foldlM_cons] at h
    obtain ⟨mid, hmid, h⟩ := Option.bind_eq_some_iff.mp h
    obtain ⟨q, hq, rfl⟩ := Option.map_eq_some_iff.mp hmid
    rw [ih h, mem_addUnseen, List.exists_mem_cons_iff, matchPath_eq_some hq, or_assoc]

/-- The paths of a rule are the prefixes it is for. -/
theorem mem_rulePaths (h : rulePaths rule = some paths) : p ∈ paths ↔ HasPrefix rule p := by
  unfold rulePaths at h
  obtain ⟨ps, hps, h⟩ := Option.bind_eq_some_iff.mp h
  have hmem := fun p => mem_foldlM_matchPath (p := p) hps
  simp only [List.not_mem_nil, false_or] at hmem
  cases hms : rule.routeMatches with
  | nil =>
    obtain rfl : ps = [] := by simpa [hms] using hps.symm
    obtain rfl : ["/"] = paths := by simpa using h
    simp [HasPrefix, hms]
  | cons m ms =>
    have hne : ps ≠ [] := List.ne_nil_of_mem ((hmem m.pathPrefix).mpr ⟨m, by simp [hms], rfl⟩)
    obtain rfl : ps = paths := by simpa [hne] using h
    rw [hmem, HasPrefix]
    simp [hms]

/-! ### What serves a request -/

/-- The paths and pairs of the backends are the prefixes and pairs of the rules. -/
theorem exists_backend_iff (h : routeBackends route = .ok backends) :
    (∃ b ∈ backends, b.path = p ∧ (b.serviceRef, b.port) = pair) ↔
      ∃ rule ∈ route.rules, HasPrefix rule p ∧ pair ∈ pairs rule := by
  have hrep := (routeBackends_ok h).1
  constructor
  · rintro ⟨b, hb, rfl, rfl⟩
    obtain ⟨br, rule, hrule, hbr, q, hq, rfl⟩ := (mem_routeBackends h).mp hb
    exact ⟨rule, hrule, (mem_rulePaths (hrep rule hrule).rulePaths).mp hq,
      List.mem_map.mpr ⟨br, hbr, rfl⟩⟩
  · rintro ⟨rule, hrule, hp, hpair⟩
    obtain ⟨br, hbr, rfl⟩ := List.mem_map.mp hpair
    refine ⟨backendOf br p, (mem_routeBackends h).mpr ⟨br, rule, hrule, hbr, p, ?_, rfl⟩, rfl, rfl⟩
    exact (mem_rulePaths (hrep rule hrule).rulePaths).mpr hp

/-- Every prefix of a rule is the path of a backend: each rule has a reference given traffic. -/
theorem exists_path_iff (h : routeBackends route = .ok backends) :
    (∃ b ∈ backends, b.path = p) ↔ ∃ rule ∈ route.rules, HasPrefix rule p := by
  constructor
  · rintro ⟨b, hb, hp⟩
    obtain ⟨rule, hrule, hp, -⟩ := (exists_backend_iff h).mp ⟨b, hb, hp, rfl⟩
    exact ⟨rule, hrule, hp⟩
  · rintro ⟨rule, hrule, hp⟩
    obtain ⟨br, hbr⟩ := List.exists_mem_of_ne_nil _ ((routeBackends_ok h).1 rule hrule).live
    obtain ⟨b, hb, hpath, -⟩ := (exists_backend_iff h).mpr
      ⟨rule, hrule, hp, List.mem_map.mpr ⟨br, hbr, rfl⟩⟩
    exact ⟨b, hb, hpath⟩

/-- **The backends that serve a request** are those of all the rules with its longest prefix. -/
theorem served_iff (h : routeBackends route = .ok backends) :
    Served M backends request pair ↔
      ∃ p, Longest M route request p ∧
        ∃ rule ∈ route.rules, HasPrefix rule p ∧ pair ∈ pairs rule := by
  constructor
  · rintro ⟨b, hb, hpair, hadmits, hle⟩
    refine ⟨b.path, ⟨(exists_path_iff h).mp ⟨b, hb, rfl⟩, hadmits, ?_⟩,
      (exists_backend_iff h).mp ⟨b, hb, rfl, hpair⟩⟩
    intro rule hrule q hq hadmitsq
    obtain ⟨b', hb', rfl⟩ := (exists_path_iff h).mpr ⟨rule, hrule, hq⟩
    exact hle b' hb' hadmitsq
  · rintro ⟨p, hlongest, hrule⟩
    obtain ⟨b, hb, rfl, hpair⟩ := (exists_backend_iff h).mpr hrule
    refine ⟨b, hb, hpair, hlongest.admits, ?_⟩
    intro b' hb' hadmits
    obtain ⟨rule, hrule, hq⟩ := (exists_path_iff h).mp ⟨b', hb', rfl⟩
    exact hlongest.le rule hrule b'.path hq hadmits

theorem Longest.unique {q : String} (hp : Longest M route request p)
    (hq : Longest M route request q) : p = q := by
  obtain ⟨rule, hrule, hpre⟩ := hp.has
  obtain ⟨rule', hrule', hpre'⟩ := hq.has
  exact M.eq_of_length hp.admits hq.admits
    (Nat.le_antisymm (hq.le rule hrule p hpre hp.admits) (hp.le rule' hrule' q hpre' hq.admits))

/-- The rule that is selected is the first with the longest prefix. -/
theorem selects_iff :
    Selects M route request rule ↔
      ∃ before after p, route.rules = before ++ rule :: after ∧ HasPrefix rule p ∧
        Longest M route request p ∧ ∀ earlier ∈ before, ¬ HasPrefix earlier p := by
  constructor
  · rintro ⟨before, after, p, hrules, hp, hlongest, hfirst⟩
    refine ⟨before, after, p, hrules, hp, hlongest, ?_⟩
    intro earlier hearlier hpre
    exact Nat.lt_irrefl _ (hfirst earlier hearlier p hpre hlongest.admits)
  · rintro ⟨before, after, p, hrules, hp, hlongest, hfirst⟩
    refine ⟨before, after, p, hrules, hp, hlongest, ?_⟩
    intro earlier hearlier q hq hadmits
    have hmem : earlier ∈ route.rules := by rw [hrules]; exact List.mem_append_left _ hearlier
    refine Nat.lt_of_le_of_ne (hlongest.le earlier hmem q hq hadmits) ?_
    intro hlen
    -- Two matches of one length are the same prefix, which no earlier rule has.
    exact hfirst earlier hearlier (M.eq_of_length hadmits hlongest.admits hlen ▸ hq)

/-- The proxy serves the request from the rule that is selected, and from all of it. -/
def Preserved (M : PathMatching) (route : HTTPRoute) (backends : List ReverseProxyBackend)
    (request : String) : Prop :=
  ∀ rule, Selects M route request rule →
    ∀ pair, Served M backends request pair ↔ pair ∈ pairs rule

/-- A prefix that is the longest match of some request belongs to one rule, as far as the backends
go: the rules after the first that has it send its requests nowhere else. -/
def NothingMerged (M : PathMatching) (route : HTTPRoute) : Prop :=
  ∀ before first after p, route.rules = before ++ first :: after → HasPrefix first p →
    (∀ earlier ∈ before, ¬ HasPrefix earlier p) → (∃ request, Longest M route request p) →
    ∀ later ∈ after, HasPrefix later p → ∀ pair ∈ pairs later, pair ∈ pairs first

/-- **When the proxy serves every request from the rule that is selected.** -/
theorem routing_preserved_iff (M : PathMatching) (route : HTTPRoute)
    (backends : List ReverseProxyBackend) (h : routeBackends route = .ok backends) :
    (∀ request, Preserved M route backends request) ↔ NothingMerged M route := by
  constructor
  · rintro hall before first after p hrules hp hfirst ⟨request, hlongest⟩ later hlater hpre pair
      hpair
    have hsel : Selects M route request first :=
      selects_iff.mpr ⟨before, after, p, hrules, hp, hlongest, hfirst⟩
    refine (hall request first hsel pair).mp
      ((served_iff h).mpr ⟨p, hlongest, later, ?_, hpre, hpair⟩)
    rw [hrules]
    exact List.mem_append_right _ (List.mem_cons_of_mem _ hlater)
  · intro hmerge request rule hsel pair
    obtain ⟨before, after, p, hrules, hp, hlongest, hfirst⟩ := selects_iff.mp hsel
    rw [served_iff h]
    constructor
    · rintro ⟨q, hq, rule', hrule', hpre, hpair⟩
      obtain rfl := hlongest.unique hq
      rw [hrules] at hrule'
      rcases List.mem_append.mp hrule' with hbefore | hrule'
      · exact absurd hpre (hfirst rule' hbefore)
      rcases List.mem_cons.mp hrule' with rfl | hafter
      · exact hpair
      · exact hmerge before rule after p hrules hp hfirst ⟨request, hlongest⟩ rule' hafter hpre
          pair hpair
    · intro hpair
      refine ⟨p, hlongest, rule, ?_, hp, hpair⟩
      rw [hrules]
      exact List.mem_append_right _ List.mem_cons_self

/-- Nothing is merged if no two rules share a prefix. -/
theorem nothingMerged_of_pairwise
    (h : route.rules.Pairwise fun rule rule' => ∀ p, HasPrefix rule p → ¬ HasPrefix rule' p) :
    NothingMerged M route := by
  intro before first after p hrules hp _ _ later hlater hpre
  rw [hrules] at h
  have hafter := (List.pairwise_cons.mp (List.pairwise_append.mp h).2.1).1
  exact absurd hpre (hafter later hlater p hp)

/-! ### Samples -/

/-- A rule for one prefix and one Service. -/
def ruleFor (p service : String) : HTTPRouteRule :=
  { routeMatches := [⟨some ⟨none, some p⟩⟩], backendRefs := [{ name := service, port := some 80 }] }

/-- A route of such rules. -/
def routeFor (rules : List (String × String)) : HTTPRoute :=
  { ns := "shop", name := "web", generation := 1, parentRefs := [], hostnames := []
    rules := rules.map fun r => ruleFor r.1 r.2, parents := [] }

theorem hasPrefix_ruleFor {q service : String} : HasPrefix (ruleFor q service) p ↔ q = p := by
  simp [HasPrefix, ruleFor, HTTPRouteMatch.pathPrefix]

/-- Nested prefixes of two rules. -/
def nestedRoute : HTTPRoute := routeFor [("/", "app"), ("/admin", "admin")]

theorem routing_preserved_nested :
    routeBackends nestedRoute =
        .ok [⟨"app", "/", some 80⟩, ⟨"admin", "/admin", some 80⟩] ∧
      ∀ request, Preserved PathMatching.elements nestedRoute
        [⟨"app", "/", some 80⟩, ⟨"admin", "/admin", some 80⟩] request := by
  refine ⟨by decide, (routing_preserved_iff _ _ _ (by decide)).mpr (nothingMerged_of_pairwise ?_)⟩
  refine List.pairwise_pair.mpr ?_
  intro p hp hp'
  rw [hasPrefix_ruleFor] at hp hp'
  exact absurd (hp.trans hp'.symm) (by decide)

/-- Two rules for one prefix. -/
def twiceRoute : HTTPRoute := routeFor [("/admin", "admin"), ("/admin", "legacy")]

theorem longest_twice : Longest PathMatching.elements twiceRoute "/admin/users" "/admin" where
  has := ⟨ruleFor "/admin" "admin", by simp [twiceRoute, routeFor], hasPrefix_ruleFor.mpr rfl⟩
  admits := by decide
  le := by
    intro rule hrule q hq _
    simp only [twiceRoute, routeFor, List.map_cons, List.map_nil, List.mem_cons, List.not_mem_nil,
      or_false] at hrule
    rcases hrule with rfl | rfl <;> exact (hasPrefix_ruleFor.mp hq) ▸ Nat.le_refl _

/-- **Two rules with one prefix are merged.** The request is for the first rule, and the proxy
serves it from the backend of the second as well. -/
theorem shared_prefix_merges_rules :
    routeBackends twiceRoute = .ok [⟨"admin", "/admin", some 80⟩, ⟨"legacy", "/admin", some 80⟩] ∧
      Selects PathMatching.elements twiceRoute "/admin/users" (ruleFor "/admin" "admin") ∧
      Served PathMatching.elements [⟨"admin", "/admin", some 80⟩, ⟨"legacy", "/admin", some 80⟩]
        "/admin/users" ("legacy", some 80) ∧
      ("legacy", some 80) ∉ pairs (ruleFor "/admin" "admin") := by
  refine ⟨by decide, ?_, ?_, by decide⟩
  · exact ⟨[], _, "/admin", rfl, hasPrefix_ruleFor.mpr rfl, longest_twice, by simp⟩
  · exact ⟨⟨"legacy", "/admin", some 80⟩, by simp, rfl, by decide, by simp⟩

end GatewayAPI

end NetbirdOperator
