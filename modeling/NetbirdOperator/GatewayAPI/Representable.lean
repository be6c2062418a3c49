import Mathlib.Algebra.GroupWithZero.Nat
import Mathlib.Data.List.Perm.Basic
import NetbirdOperator.ControlLoop.Pass
import NetbirdOperator.GatewayAPI.Admission
import NetbirdOperator.GatewayAPI.PathRouting

/-!
# Which routes the proxy can represent

`routeBackends` refuses a route by giving up inside two nested loops, with the first weight of a
rule remembered in a sentinel and the references counted on the way. What it refuses must not depend
on where in the lists it stands: a check that an earlier element hides, or that the order decides,
would let one route through and keep the same route with its rules swapped out.

`Representable` says without loops what is accepted. Each loop has its lemma: it succeeds exactly if
each element passes, given what the loop remembers (`exists_foldlM_addBackendRef` for the weights,
`exists_foldlM_ok` for the rules, which remember nothing). None of the conditions mentions an order,
so the verdict does not depend on one, and the backends come in the order of what they are made of.

The weights are taken to be non-negative, as the API has them. The sentinel is -1, so a negative
weight would be forgotten by the next reference.

## Main results

* `GatewayAPI.rulePaths_eq_some_iff` — the paths of a rule
* `GatewayAPI.routeBackends_eq_ok_iff` — a route is accepted exactly if it is representable
* `GatewayAPI.routeBackends_exact` — the verdict, the backends, and that the order does not matter
-/

namespace NetbirdOperator

open ControlLoop

namespace GatewayAPI

variable {route route' : HTTPRoute} {rule rule' : HTTPRouteRule} {m : HTTPRouteMatch}
  {ms : List HTTPRouteMatch} {refs : List HTTPBackendRef} {paths : List String}
  {backends : List ReverseProxyBackend}

/-! ### Paths -/

/-- The match has no path, a path without a type, or a path prefix. -/
def HTTPRouteMatch.IsPrefix (m : HTTPRouteMatch) : Prop :=
  ∀ path, m.path = some path → path.type = none ∨ path.type = some .pathPrefix

/-- The distinct paths of a rule, in the order they are first seen. A match without a path value is
for the root, and so is a rule without matches. -/
def distinctPaths (rule : HTTPRouteRule) : List String :=
  if rule.routeMatches = [] then ["/"]
  else (rule.routeMatches.map HTTPRouteMatch.pathPrefix).eraseDups

theorem matchPath_isSome : (matchPath m).isSome = true ↔ m.IsPrefix := by
  rw [matchPath, HTTPRouteMatch.IsPrefix]
  cases m.path with
  | none => simp
  | some path => simp

theorem foldlM_matchPath (h : ∀ m ∈ ms, m.IsPrefix) (acc : List String) :
    ms.foldlM (fun paths m => (matchPath m).map (addUnseen true paths)) acc =
      some (ms.foldl (fun paths m => addUnseen true paths m.pathPrefix) acc) := by
  induction ms generalizing acc with
  | nil => rfl
  | cons m ms ih =>
    obtain ⟨p, hp⟩ := Option.isSome_iff_exists.mp (matchPath_isSome.mpr (h m List.mem_cons_self))
    rw [List.foldlM_cons, List.foldl_cons, hp, matchPath_eq_some hp]
    exact ih (fun m hm => h m (List.mem_cons_of_mem _ hm)) _

theorem isPrefix_of_foldlM {acc out : List String}
    (h : ms.foldlM (fun paths m => (matchPath m).map (addUnseen true paths)) acc = some out) :
    ∀ m ∈ ms, m.IsPrefix := by
  induction ms generalizing acc with
  | nil => exact List.forall_mem_nil _
  | cons m ms ih =>
    rw [List.foldlM_cons] at h
    obtain ⟨mid, hmid, hrest⟩ := Option.bind_eq_some_iff.mp h
    obtain ⟨p, hp, -⟩ := Option.map_eq_some_iff.mp hmid
    exact List.forall_mem_cons.mpr
      ⟨matchPath_isSome.mp (Option.isSome_iff_exists.mpr ⟨p, hp⟩), ih hrest⟩

/-- **The paths of a rule**, which has some exactly if each of its matches is for a prefix. -/
theorem rulePaths_eq_some_iff :
    rulePaths rule = some paths ↔
      (∀ m ∈ rule.routeMatches, m.IsPrefix) ∧ paths = distinctPaths rule := by
  have hfold : ∀ ms : List HTTPRouteMatch,
      ms.foldl (fun paths m => addUnseen true paths m.pathPrefix) [] =
        (ms.map HTTPRouteMatch.pathPrefix).eraseDups := by
    intro ms
    have hloop := foldl_addUnseen (fun m : HTTPRouteMatch => some (m.pathPrefix, true)) ms
    dsimp only at hloop
    rw [hloop, ← List.filterMap_eq_map]
    rfl
  have hvalue : (∀ m ∈ rule.routeMatches, m.IsPrefix) →
      rulePaths rule = some (distinctPaths rule) := by
    intro hmatches
    rw [rulePaths, foldlM_matchPath hmatches, hfold, distinctPaths]
    cases rule.routeMatches with
    | nil => rfl
    | cons m ms => simp [List.eraseDups_cons]
  constructor
  · intro h
    obtain ⟨ps, hps, -⟩ := Option.bind_eq_some_iff.mp h
    have hmatches := isPrefix_of_foldlM hps
    exact ⟨hmatches, Option.some.inj (h.symm.trans (hvalue hmatches))⟩
  · rintro ⟨hmatches, rfl⟩
    exact hvalue hmatches

/-! ### References -/

/-- The weight of a reference, 1 unless it is given. -/
def weightOf (br : HTTPBackendRef) : ℤ := br.weight.getD 1

/-- What the loop over the references asks of those to come: no filters, and the weights that are
not 0 are one, the one it remembers if there is one. -/
structure Uniform (weight : ℤ) (refs : List HTTPBackendRef) : Prop where
  filters : ∀ br ∈ refs, br.filters = []
  remembered : 0 ≤ weight → ∀ br ∈ refs, weightOf br ≠ 0 → weightOf br = weight
  shared : ∀ br ∈ refs, ∀ br' ∈ refs, weightOf br ≠ 0 → weightOf br' ≠ 0 →
    weightOf br = weightOf br'

/-- A reference of weight 0 is passed over. -/
theorem uniform_cons_of_zero {br : HTTPBackendRef} {weight : ℤ} (hfilters : br.filters = [])
    (hzero : weightOf br = 0) : Uniform weight (br :: refs) ↔ Uniform weight refs := by
  constructor
  · intro h
    exact ⟨fun x hx => h.filters x (List.mem_cons_of_mem _ hx),
      fun hw x hx => h.remembered hw x (List.mem_cons_of_mem _ hx),
      fun x hx y hy => h.shared x (List.mem_cons_of_mem _ hx) y (List.mem_cons_of_mem _ hy)⟩
  · intro h
    -- Whatever has a weight is in the rest.
    have hrest : ∀ x ∈ br :: refs, weightOf x ≠ 0 → x ∈ refs := by
      intro x hx hne
      rcases List.mem_cons.mp hx with rfl | hx
      · exact absurd hzero hne
      · exact hx
    exact ⟨List.forall_mem_cons.mpr ⟨hfilters, h.filters⟩,
      fun hw x hx hne => h.remembered hw x (hrest x hx hne) hne,
      fun x hx y hy hne hne' => h.shared x (hrest x hx hne) y (hrest y hy hne') hne hne'⟩

/-- A reference with the remembered weight, or with the first one, is what the others are compared
with. -/
theorem uniform_cons_of_pos {br : HTTPBackendRef} {weight : ℤ} (hfilters : br.filters = [])
    (hpos : 0 < weightOf br) (hweight : 0 ≤ weight → weightOf br = weight) :
    Uniform weight (br :: refs) ↔ Uniform (weightOf br) refs := by
  constructor
  · intro h
    exact ⟨fun x hx => h.filters x (List.mem_cons_of_mem _ hx),
      fun _ x hx hne =>
        h.shared x (List.mem_cons_of_mem _ hx) br List.mem_cons_self hne (by omega),
      fun x hx y hy => h.shared x (List.mem_cons_of_mem _ hx) y (List.mem_cons_of_mem _ hy)⟩
  · intro h
    have hsame : ∀ x ∈ br :: refs, weightOf x ≠ 0 → weightOf x = weightOf br := by
      intro x hx hne
      rcases List.mem_cons.mp hx with rfl | hx
      · rfl
      · exact h.remembered (by omega) x hx hne
    exact ⟨List.forall_mem_cons.mpr ⟨hfilters, h.filters⟩,
      fun hw x hx hne => (hsame x hx hne).trans (hweight hw),
      fun x hx y hy hne hne' => (hsame x hx hne).trans (hsame y hy hne').symm⟩

/-- **The loop over the references** succeeds exactly if they are uniform. -/
theorem exists_foldlM_addBackendRef (paths : List String)
    (hweights : ∀ br ∈ refs, 0 ≤ weightOf br) (st : RuleState) :
    (∃ st', refs.foldlM (addBackendRef paths) st = .ok st') ↔ Uniform st.weight refs := by
  induction refs generalizing st with
  | nil =>
    exact ⟨fun _ => ⟨List.forall_mem_nil _, fun _ => List.forall_mem_nil _, List.forall_mem_nil _⟩,
      fun _ => ⟨st, rfl⟩⟩
  | cons br refs ih =>
    obtain ⟨hbr, hrefs⟩ := List.forall_mem_cons.mp hweights
    rw [List.foldlM_cons, addBackendRef, show br.weight.getD 1 = weightOf br from rfl]
    by_cases hfilters : br.filters = []
    · by_cases hzero : weightOf br = 0
      · rw [if_neg (not_not.mpr hfilters), if_pos hzero, uniform_cons_of_zero hfilters hzero]
        exact ih hrefs st
      · rw [if_neg (not_not.mpr hfilters), if_neg hzero]
        by_cases hdiffers : st.weight ≥ 0 ∧ weightOf br ≠ st.weight
        · rw [if_pos hdiffers]
          refine ⟨fun ⟨_, h⟩ => (by cases h), fun h => ?_⟩
          exact absurd (h.remembered hdiffers.1 br List.mem_cons_self hzero) hdiffers.2
        · rw [if_neg hdiffers]
          rw [uniform_cons_of_pos hfilters (by omega) (by omega)]
          exact ih hrefs _
    · rw [if_pos hfilters]
      refine ⟨fun ⟨_, h⟩ => (by cases h), fun h => ?_⟩
      exact absurd (h.filters br List.mem_cons_self) hfilters

/-! ### Rules and routes -/

/-- The proxy can represent the rule. -/
structure RepresentableRule (rule : HTTPRouteRule) : Prop where
  filters : rule.filters = []
  isPrefix : ∀ m ∈ rule.routeMatches, m.IsPrefix
  refFilters : ∀ br ∈ rule.backendRefs, br.filters = []
  live : ∃ br ∈ rule.backendRefs, weightOf br ≠ 0
  weights : ∀ br ∈ rule.backendRefs, ∀ br' ∈ rule.backendRefs, weightOf br ≠ 0 →
    weightOf br' ≠ 0 → weightOf br = weightOf br'

/-- **The routes that are accepted**: they have rules, the proxy can represent each of them, and
there are not too many paths and references. -/
structure Representable (route : HTTPRoute) : Prop where
  rules : route.rules ≠ []
  rule : ∀ rule ∈ route.rules, RepresentableRule rule
  count :
    (route.rules.map fun rule => (distinctPaths rule).length * (liveRefs rule).length).sum ≤ 64

/-- **What they are translated into**: rule by rule and reference by reference, the reference under
each of the rule's paths. -/
def crossProduct (rules : List HTTPRouteRule) : List ReverseProxyBackend :=
  rules.flatMap fun rule =>
    (liveRefs rule).flatMap fun br => (distinctPaths rule).map (backendOf br)

/-- No weight is negative. -/
def NonNegative (rule : HTTPRouteRule) : Prop :=
  ∀ br ∈ rule.backendRefs, ∀ weight, br.weight = some weight → 0 ≤ weight

theorem NonNegative.weightOf (h : NonNegative rule) :
    ∀ br ∈ rule.backendRefs, 0 ≤ weightOf br := by
  intro br hbr
  rw [GatewayAPI.weightOf]
  cases hw : br.weight with
  | none => decide
  | some weight => exact h br hbr weight hw

theorem liveRefs_ne_nil : liveRefs rule ≠ [] ↔ ∃ br ∈ rule.backendRefs, weightOf br ≠ 0 := by
  rw [liveRefs, Ne, List.filter_eq_nil_iff]
  simp [weightOf]

/-- **The body of the loop over the rules** succeeds exactly if the rule is representable, whatever
the rules before it were. -/
theorem exists_addRule_iff (hweights : NonNegative rule) (out : List ReverseProxyBackend) :
    (∃ out', addRule out rule = .ok out') ↔ RepresentableRule rule := by
  rw [addRule]
  by_cases hfilters : rule.filters = []
  · rw [if_neg (not_not.mpr hfilters)]
    cases hpaths : rulePaths rule with
    | none =>
      refine ⟨fun ⟨_, h⟩ => (by cases h), fun h => ?_⟩
      exact absurd (hpaths.symm.trans (rulePaths_eq_some_iff.mpr ⟨h.isPrefix, rfl⟩)) (by simp)
    | some paths =>
      have hmatches := (rulePaths_eq_some_iff.mp hpaths).1
      have hloop := exists_foldlM_addBackendRef paths hweights.weightOf ⟨-1, 0, out⟩
      dsimp only at hloop ⊢
      simp only [bind_eq_ok]
      constructor
      · rintro ⟨out', st, hst, hok⟩
        have huniform := hloop.mp ⟨st, hst⟩
        have hcount := (foldlM_addBackendRef hst).2
        split_ifs at hok with hzero
        refine ⟨hfilters, hmatches, huniform.filters, liveRefs_ne_nil.mp ?_, huniform.shared⟩
        intro hnil
        exact hzero (hcount.trans (by rw [show List.filter _ _ = [] from hnil]; rfl))
      · intro h
        obtain ⟨st, hst⟩ := hloop.mpr ⟨h.refFilters, by simp, h.weights⟩
        have hcount := (foldlM_addBackendRef hst).2
        have hpos : st.ruleBackends ≠ 0 := by
          rw [hcount, Nat.zero_add]
          exact fun hlen => liveRefs_ne_nil.mpr h.live (List.length_eq_zero_iff.mp hlen)
        exact ⟨st.out, st, hst, if_neg hpos⟩
  · rw [if_pos hfilters]
    exact ⟨fun ⟨_, h⟩ => (by cases h), fun h => absurd h.filters hfilters⟩

theorem length_crossProduct (rules : List HTTPRouteRule) :
    (crossProduct rules).length =
      (rules.map fun rule => (distinctPaths rule).length * (liveRefs rule).length).sum := by
  rw [crossProduct, List.length_flatMap]
  congr 1
  refine List.map_congr_left fun rule _ => ?_
  simp [List.length_flatMap, Nat.mul_comm]

theorem distinctPaths_ne_nil (rule : HTTPRouteRule) : distinctPaths rule ≠ [] := by
  rw [distinctPaths]
  cases rule.routeMatches with
  | nil => simp
  | cons m ms => simp [List.eraseDups_cons]

theorem crossProduct_ne_nil {rules : List HTTPRouteRule} (hne : rules ≠ [])
    (h : ∀ rule ∈ rules, RepresentableRule rule) : crossProduct rules ≠ [] := by
  obtain ⟨rule, hrule⟩ := List.exists_mem_of_ne_nil _ hne
  obtain ⟨br, hbr⟩ := List.exists_mem_of_ne_nil _ (liveRefs_ne_nil.mpr (h rule hrule).live)
  obtain ⟨p, hp⟩ := List.exists_mem_of_ne_nil _ (distinctPaths_ne_nil rule)
  have hmem : backendOf br p ∈ crossProduct rules :=
    List.mem_flatMap.mpr
      ⟨rule, hrule, List.mem_flatMap.mpr ⟨br, hbr, List.mem_map_of_mem hp⟩⟩
  exact List.ne_nil_of_mem hmem

theorem foldlM_addRule_eq {rules : List HTTPRouteRule} {out : List ReverseProxyBackend}
    (h : rules.foldlM addRule [] = .ok out) : out = crossProduct rules := by
  obtain ⟨hrep, hout⟩ := foldlM_addRule h
  rw [hout, List.nil_append, crossProduct]
  refine List.flatMap_congr fun rule hrule => ?_
  rw [(rulePaths_eq_some_iff.mp (hrep rule hrule).rulePaths).2]
  rfl

/-- **A route is accepted exactly if it is representable**, and then this is its translation. -/
theorem routeBackends_eq_ok_iff (hweights : ∀ rule ∈ route.rules, NonNegative rule) :
    routeBackends route = .ok backends ↔
      Representable route ∧ backends = crossProduct route.rules := by
  have hrules := exists_foldlM_ok (p := RepresentableRule)
    (fun rule hrule out => exists_addRule_iff (hweights rule hrule) out) []
  rw [routeBackends, bind_eq_ok]
  constructor
  · rintro ⟨out, hout, h⟩
    have hrep := hrules.mp ⟨out, hout⟩
    obtain rfl := foldlM_addRule_eq hout
    split_ifs at h with hnil hmany
    refine ⟨⟨fun hrules => hnil ?_, hrep, ?_⟩, (Except.ok.inj h).symm⟩
    · rw [hrules]
      rfl
    · rw [← length_crossProduct]
      exact Nat.le_of_not_lt hmany
  · rintro ⟨h, rfl⟩
    obtain ⟨out, hout⟩ := hrules.mpr h.rule
    obtain rfl := foldlM_addRule_eq hout
    have hcount : ¬ (crossProduct route.rules).length > maxProxyBackends := by
      rw [length_crossProduct]
      exact Nat.not_lt.mpr h.count
    refine ⟨_, hout, ?_⟩
    rw [if_neg (crossProduct_ne_nil h.rules h.rule), if_neg hcount]

/-! ### Another order -/

/-- The rule with its matches and its references in another order. -/
structure RuleRearranged (rule rule' : HTTPRouteRule) : Prop where
  filters : rule'.filters = rule.filters
  routeMatches : rule'.routeMatches.Perm rule.routeMatches
  backendRefs : rule'.backendRefs.Perm rule.backendRefs

/-- **The route with its lists in another order**: the matches and the references of its rules, and
then the rules. -/
def Rearranged (route route' : HTTPRoute) : Prop :=
  ∃ rules, List.Forall₂ RuleRearranged route.rules rules ∧ route'.rules.Perm rules

theorem RuleRearranged.symm (h : RuleRearranged rule rule') : RuleRearranged rule' rule :=
  ⟨h.filters.symm, h.routeMatches.symm, h.backendRefs.symm⟩

theorem RuleRearranged.nonNegative (h : RuleRearranged rule rule') (hrule : NonNegative rule) :
    NonNegative rule' :=
  fun br hbr => hrule br (h.backendRefs.mem_iff.mp hbr)

/-- None of the conditions on a rule mentions an order. -/
theorem RuleRearranged.representable (h : RuleRearranged rule rule')
    (hrule : RepresentableRule rule) : RepresentableRule rule' where
  filters := h.filters.trans hrule.filters
  isPrefix m hm := hrule.isPrefix m (h.routeMatches.mem_iff.mp hm)
  refFilters br hbr := hrule.refFilters br (h.backendRefs.mem_iff.mp hbr)
  live := by
    obtain ⟨br, hbr, hne⟩ := hrule.live
    exact ⟨br, h.backendRefs.mem_iff.mpr hbr, hne⟩
  weights br hbr br' hbr' :=
    hrule.weights br (h.backendRefs.mem_iff.mp hbr) br' (h.backendRefs.mem_iff.mp hbr')

/-- The first-seen order of the paths changes, not the paths. -/
theorem RuleRearranged.distinctPaths (h : RuleRearranged rule rule') :
    (distinctPaths rule').Perm (distinctPaths rule) := by
  have hnil : rule'.routeMatches = [] ↔ rule.routeMatches = [] := by
    rw [← List.length_eq_zero_iff, ← List.length_eq_zero_iff, h.routeMatches.length_eq]
  rw [GatewayAPI.distinctPaths, GatewayAPI.distinctPaths]
  by_cases hempty : rule.routeMatches = []
  · rw [if_pos hempty, if_pos (hnil.mpr hempty)]
  · rw [if_neg hempty, if_neg (mt hnil.mp hempty)]
    refine (List.perm_ext_iff_of_nodup (nodup_eraseDups _) (nodup_eraseDups _)).mpr ?_
    intro p
    rw [List.mem_eraseDups, List.mem_eraseDups]
    exact (h.routeMatches.map _).mem_iff

theorem RuleRearranged.perm (h : RuleRearranged rule rule') :
    ((liveRefs rule').flatMap fun br => (GatewayAPI.distinctPaths rule').map (backendOf br)).Perm
      ((liveRefs rule).flatMap fun br => (GatewayAPI.distinctPaths rule).map (backendOf br)) :=
  (h.backendRefs.filter _).flatMap fun br _ => h.distinctPaths.map (backendOf br)

/-- **The backends are those of the route, in another order.** -/
theorem crossProduct_perm (h : Rearranged route route') :
    (crossProduct route'.rules).Perm (crossProduct route.rules) := by
  obtain ⟨rules, hall, hperm⟩ := h
  refine (hperm.flatMap_right _).trans ?_
  show (crossProduct rules).Perm (crossProduct route.rules)
  clear hperm
  generalize route.rules = before at hall
  induction hall with
  | nil => exact .refl _
  | cons hrule _ ih => exact hrule.perm.append ih

theorem Rearranged.forall_iff (h : Rearranged route route') {p : HTTPRouteRule → Prop}
    (hp : ∀ rule rule', RuleRearranged rule rule' → p rule → p rule') :
    (∀ rule ∈ route'.rules, p rule) ↔ ∀ rule ∈ route.rules, p rule := by
  obtain ⟨rules, hall, hperm⟩ := h
  have hmid : (∀ rule ∈ route'.rules, p rule) ↔ ∀ rule ∈ rules, p rule :=
    forall_congr' fun rule => by rw [hperm.mem_iff]
  rw [hmid]
  clear hmid hperm
  generalize route.rules = before at hall
  induction hall with
  | nil => exact Iff.rfl
  | cons hrule _ ih =>
    rw [List.forall_mem_cons, List.forall_mem_cons]
    exact and_congr ⟨hp _ _ hrule.symm, hp _ _ hrule⟩ ih

/-- Whether a route is representable does not depend on the order. -/
theorem Rearranged.representable_iff (h : Rearranged route route') :
    Representable route' ↔ Representable route := by
  have hperm := crossProduct_perm h
  have hcount := hperm.length_eq
  rw [length_crossProduct, length_crossProduct] at hcount
  have hrule := h.forall_iff (p := RepresentableRule) fun _ _ hr => hr.representable
  have hnil : route'.rules = [] ↔ route.rules = [] := by
    obtain ⟨rules, hall, hrules⟩ := h
    rw [← List.length_eq_zero_iff, ← List.length_eq_zero_iff, hrules.length_eq, hall.length_eq]
  exact ⟨fun hr => ⟨mt hnil.mpr hr.rules, hrule.mp hr.rule, hcount ▸ hr.count⟩,
    fun hr => ⟨mt hnil.mp hr.rules, hrule.mpr hr.rule, hcount ▸ hr.count⟩⟩

/-- **`routeBackends` accepts exactly the representable routes, in any order.** For a route without
negative weights: it is accepted exactly if it is `Representable`; its backends are then the cross
product, between 1 and 64 of them; and the same route with its rules, or their matches and
references, in another order is accepted as well and has the same backends in another order. -/
theorem routeBackends_exact (route : HTTPRoute)
    (hweights : ∀ rule ∈ route.rules, NonNegative rule) :
    ((∃ out, routeBackends route = .ok out) ↔ Representable route) ∧
    (∀ out, routeBackends route = .ok out →
      out = crossProduct route.rules ∧ 1 ≤ out.length ∧ out.length ≤ 64) ∧
    ∀ route', Rearranged route route' →
      ((∃ out', routeBackends route' = .ok out') ↔ ∃ out, routeBackends route = .ok out) ∧
      ∀ out out', routeBackends route = .ok out → routeBackends route' = .ok out' →
        out'.Perm out := by
  have hverdict : ∀ {route : HTTPRoute}, (∀ rule ∈ route.rules, NonNegative rule) →
      ((∃ out, routeBackends route = .ok out) ↔ Representable route) := by
    intro route hweights
    simp only [routeBackends_eq_ok_iff hweights, exists_and_left, exists_eq, and_true]
  refine ⟨hverdict hweights, fun out hout => ?_,
    fun route' h => ⟨?_, fun out out' hout hout' => ?_⟩⟩
  · obtain ⟨hrep, rfl⟩ := (routeBackends_eq_ok_iff hweights).mp hout
    refine ⟨rfl, ?_, ?_⟩
    · exact List.length_pos_of_ne_nil (crossProduct_ne_nil hrep.rules hrep.rule)
    · rw [length_crossProduct]
      exact hrep.count
  · rw [hverdict hweights, hverdict ((h.forall_iff fun _ _ hr => hr.nonNegative).mpr hweights),
      h.representable_iff]
  · have hweights' := (h.forall_iff fun _ _ hr => hr.nonNegative).mpr hweights
    rw [((routeBackends_eq_ok_iff hweights).mp hout).2,
      ((routeBackends_eq_ok_iff hweights').mp hout').2]
    exact crossProduct_perm h

/-! ### A sample -/

/-- A rule with a prefix and the root, two references of equal weight, and one that is given no
traffic. -/
def weightedRule : HTTPRouteRule where
  routeMatches := [⟨some ⟨some .pathPrefix, some "/api"⟩⟩, ⟨none⟩]
  backendRefs := [{ name := "blue", weight := some 5 }, { name := "canary", weight := some 0 },
    { name := "green", weight := some 5 }]

/-- The route of that rule. -/
def weightedRoute : HTTPRoute := { routeOf localRef with rules := [weightedRule] }

theorem routeBackends_exact_weighted :
    (∀ rule ∈ weightedRoute.rules, NonNegative rule) ∧ Representable weightedRoute ∧
      crossProduct weightedRoute.rules = [⟨"blue", "/api", none⟩, ⟨"blue", "/", none⟩,
        ⟨"green", "/api", none⟩, ⟨"green", "/", none⟩] := by
  have hweights : ∀ rule ∈ weightedRoute.rules, NonNegative rule := by
    simp [weightedRoute, weightedRule, NonNegative]
  have hout : routeBackends weightedRoute = .ok [⟨"blue", "/api", none⟩, ⟨"blue", "/", none⟩,
      ⟨"green", "/api", none⟩, ⟨"green", "/", none⟩] := by decide
  obtain ⟨hverdict, hbackends, -⟩ := routeBackends_exact weightedRoute hweights
  exact ⟨hweights, hverdict.mp ⟨_, hout⟩, (hbackends _ hout).1.symm⟩

end GatewayAPI

end NetbirdOperator
