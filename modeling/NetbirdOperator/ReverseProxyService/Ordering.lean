import Mathlib.Data.List.Perm.Basic
import Mathlib.Data.Prod.Lex
import Mathlib.Data.String.Basic
import NetbirdOperator.ReverseProxyService.Rendering
import NetbirdOperator.Sorting

/-!
# What the order of a list decides

Two slices are sorted on the way to a request, so that it does not depend on the order in which the
backends are declared or the NetworkResources listed. `sort.Slice` is free in what it does with two
elements neither of which is less. So the question is in both cases whether the comparison separates
what occurs together; `Sorting.Sorts` is what the sort may return, and `sortSlice` is what it
returns for short slices.

Targets are compared by host and port. That is a key, so the order is canonical exactly if no two
different targets share it. The paths of a route that lead to one Service do: the targets differ in
the path alone, and come in the order of the backends.

NetworkResources are compared by family and name, where only IPv4 goes before the others. An IPv6
address and one that is no IP address compare neither way, whatever their names, so with no IPv4
address to decide it the one chosen depends on the list.

## Main results

* `ReverseProxyService.targets_canonical_iff` — when the order of targets is canonical
* `ReverseProxyService.path_targets_not_canonical` — two paths of one Service
* `ReverseProxyService.l4_choice_settled_iff` — when the choice of a resource is settled
* `ReverseProxyService.l4_choice_by_list_order` — an IPv6 address and a domain
-/

namespace NetbirdOperator

open ControlLoop Sorting

namespace ReverseProxyService

open ReverseProxyCluster (IPFamily)

/-! ### Insertion -/

section Insertion

variable {α κ : Type} {less : α → α → Bool} {x y : α} {xs ys : List α}

theorem insertBack_sorted [LinearOrder κ] {key : α → κ} (h : ByKey less key)
    (hys : ys.Pairwise fun a b => key b ≤ key a) :
    (insertBack less x ys).Pairwise fun a b => key b ≤ key a := by
  induction ys with
  | nil => exact List.pairwise_singleton _ _
  | cons y ys ih =>
    obtain ⟨hy, hys⟩ := List.pairwise_cons.mp hys
    rw [insertBack]
    split
    · next hless =>
      refine List.pairwise_cons.mpr ⟨fun z hz => ?_, ih hys⟩
      rcases List.mem_cons.mp ((insertBack_perm less x ys).mem_iff.mp hz) with rfl | hz
      · exact ((h _ _).mp hless).le
      · exact hy z hz
    · next hless =>
      have hyx : key y ≤ key x := h.eq_false.mp (Bool.eq_false_of_not_eq_true hless)
      refine List.pairwise_cons.mpr ⟨fun z hz => ?_, List.pairwise_cons.mpr ⟨hy, hys⟩⟩
      rcases List.mem_cons.mp hz with rfl | hz
      · exact hyx
      · exact (hy z hz).trans hyx

/-- Insertion is one of the sorts. -/
theorem sorts_sortSlice [LinearOrder κ] {key : α → κ} (h : ByKey less key) (xs : List α) :
    Sorts less xs (sortSlice less xs) := by
  refine ⟨sortSlice_perm less xs, ?_⟩
  have hfold : ∀ sorted : List α, (sorted.Pairwise fun a b => key b ≤ key a) →
      (xs.foldl (fun sorted x => insertBack less x sorted) sorted).Pairwise
        fun a b => key b ≤ key a := by
    induction xs with
    | nil => exact fun sorted hs => hs
    | cons x xs ih => exact fun sorted hs => ih _ (insertBack_sorted h hs)
  rw [h.sorted_iff, sortSlice, List.pairwise_reverse]
  exact hfold [] List.Pairwise.nil

theorem filter_insertBack [LinearOrder κ] {key : α → κ} (h : ByKey less key) (k : κ) :
    (insertBack less x ys).filter (fun a => decide (key a = k)) =
      (x :: ys).filter fun a => decide (key a = k) := by
  induction ys with
  | nil => rfl
  | cons y ys ih =>
    rw [insertBack]
    split
    · next hless =>
      -- The two have different keys, so at most one of them is kept.
      have hne : key x ≠ key y := ((h _ _).mp hless).ne
      rw [List.filter_cons, ih]
      by_cases hx : key x = k
      · simp [hx, show key y ≠ k from fun hy => hne (hx.trans hy.symm)]
      · simp [List.filter_cons, hx]
    · rfl

/-- Insertion keeps the elements of one key in the order they came in. -/
theorem filter_sortSlice [LinearOrder κ] {key : α → κ} (h : ByKey less key) (xs : List α) (k : κ) :
    (sortSlice less xs).filter (fun a => decide (key a = k)) =
      xs.filter fun a => decide (key a = k) := by
  have hfold : ∀ sorted : List α,
      (xs.foldl (fun sorted x => insertBack less x sorted) sorted).filter
        (fun a => decide (key a = k)) =
      (xs.filter fun a => decide (key a = k)).reverse ++
        sorted.filter fun a => decide (key a = k) := by
    induction xs with
    | nil => exact fun sorted => rfl
    | cons x xs ih =>
      intro sorted
      rw [List.foldl_cons, ih, filter_insertBack h]
      by_cases hx : key x = k <;> simp [hx]
  rw [sortSlice, List.filter_reverse, hfold []]
  simp

/-- What stands first stays first if nothing that is inserted is less. -/
theorem getLast?_insertBack (hlast : ys.getLast? = some x) (hxy : less y x = false) :
    (insertBack less y ys).getLast? = some x := by
  induction ys with
  | nil => cases hlast
  | cons z ys ih =>
    rw [insertBack]
    split
    · next hless =>
      cases ys with
      | nil =>
        obtain rfl : z = x := by simpa using hlast
        exact absurd hless (by simp [hxy])
      | cons z' ys =>
        have hrest := ih (by simpa using hlast)
        rw [List.getLast?_cons, hrest]
        rfl
    · rw [List.getLast?_cons_cons]
      exact hlast

theorem getLast?_foldl_insertBack (hlast : ys.getLast? = some x)
    (hxs : ∀ y ∈ xs, less y x = false) :
    (xs.foldl (fun sorted x => insertBack less x sorted) ys).getLast? = some x := by
  induction xs generalizing ys with
  | nil => exact hlast
  | cons y xs ih =>
    exact ih (getLast?_insertBack hlast (hxs y List.mem_cons_self))
      fun z hz => hxs z (List.mem_cons_of_mem y hz)

/-- An element that is less than all the others is inserted in front of them. -/
theorem insertBack_of_least (hys : ∀ y ∈ ys, less x y = true) :
    insertBack less x ys = ys ++ [x] := by
  induction ys with
  | nil => rfl
  | cons y ys ih =>
    rw [insertBack, if_pos (hys y List.mem_cons_self),
      ih fun z hz => hys z (List.mem_cons_of_mem y hz)]
    rfl

theorem head?_sortSlice_cons (hxs : ∀ y ∈ xs, less y x = false) :
    (sortSlice less (x :: xs)).head? = some x := by
  rw [sortSlice, List.head?_reverse, List.foldl_cons]
  exact getLast?_foldl_insertBack rfl hxs

/-- **The least comes first**, wherever it was. -/
theorem head?_sortSlice_of_least (hx : x ∈ xs) (hleast : ∀ y ∈ xs, y ≠ x → less x y = true)
    (hnot : ∀ y ∈ xs, less y x = false) : (sortSlice less xs).head? = some x := by
  obtain ⟨pre, post, rfl, hpre⟩ := List.eq_append_cons_of_mem hx
  rw [sortSlice, List.head?_reverse, List.foldl_append, List.foldl_cons]
  refine getLast?_foldl_insertBack ?_ fun y hy => hnot y (by simp [hy])
  -- What was inserted before it are the elements of `pre`, and it goes in front of them.
  have hbefore : ∀ y ∈ pre.foldl (fun sorted x => insertBack less x sorted) [],
      less x y = true := by
    intro y hy
    have hmem : y ∈ pre :=
      (sortSlice_perm less pre).mem_iff.mp (List.mem_reverse.mpr hy)
    exact hleast y (List.mem_append_left _ hmem) fun heq => hpre (heq ▸ hmem)
  rw [insertBack_of_least hbefore]
  exact List.getLast?_concat

end Insertion

/-! ### Targets -/

/-- What targets are compared by. -/
def targetKey (t : ServiceTarget) : String ×ₗ ℤ := toLex (t.host.getD "", t.port)

theorem targetLess_byKey : ByKey targetLess targetKey := by
  intro t u
  rw [targetLess, targetKey, targetKey, Prod.Lex.toLex_lt_toLex]
  split
  · next hne =>
    rw [decide_eq_true_eq]
    exact ⟨Or.inl, fun h => h.resolve_right fun heq => hne heq.1⟩
  · next heq =>
    have heq := not_not.mp heq
    rw [decide_eq_true_eq]
    exact ⟨fun h => Or.inr ⟨heq, h⟩, fun h => (h.resolve_left fun hlt => hlt.ne heq).2⟩

theorem targetKey_eq {t u : ServiceTarget} :
    targetKey t = targetKey u ↔ t.host.getD "" = u.host.getD "" ∧ t.port = u.port := by
  rw [targetKey, targetKey, toLex_inj, Prod.mk.injEq]

/-- No two different targets share host and port. -/
def Separated (ts : List ServiceTarget) : Prop :=
  ∀ t ∈ ts, ∀ u ∈ ts, t.host.getD "" = u.host.getD "" → t.port = u.port → t = u

instance (ts : List ServiceTarget) : Decidable (Separated ts) :=
  inferInstanceAs (Decidable (∀ t ∈ ts, ∀ u ∈ ts, _ → _ → t = u))

theorem separated_iff {ts : List ServiceTarget} :
    Separated ts ↔ ∀ t ∈ ts, ∀ u ∈ ts, targetKey t = targetKey u → t = u := by
  simp only [Separated, targetKey_eq, and_imp]

theorem Separated.of_perm {ts ts' : List ServiceTarget} (h : Separated ts) (hp : ts'.Perm ts) :
    Separated ts' :=
  fun t ht u hu => h t (hp.mem_iff.mp ht) u (hp.mem_iff.mp hu)

/-- Targets that are separated are sorted the same however they come. -/
theorem Separated.sort_eq {ts ts' : List ServiceTarget} (h : Separated ts) (hp : ts'.Perm ts) :
    sortServiceTargets ts' = sortServiceTargets ts :=
  (sorts_unique_iff targetLess_byKey ts).mpr (separated_iff.mp h) _ _
    ((sorts_sortSlice targetLess_byKey ts').of_perm hp) (sorts_sortSlice targetLess_byKey ts)

/-- The targets of an object in HTTP mode, for its backends in another order. -/
theorem renderTargets_perm {env : Env} {o p : CR} {address : String}
    (hmode : (serviceMode o.spec.mode).1 = .http) (hmode' : (serviceMode p.spec.mode).1 = .http)
    (hns : p.ns = o.ns) (hbackends : p.spec.backends.Perm o.spec.backends)
    {ts ts' : List ServiceTarget} {l l' : String}
    (h : renderTargets env o address 0 "" o.spec.backends = .ok (ts, l))
    (h' : renderTargets env p address 0 "" p.spec.backends = .ok (ts', l')) :
    ts'.Perm ts := by
  have hmap : ∀ {bs : List Backend} {out : List ServiceTarget}, List.Forall₂
      (fun b t => httpTarget env.reads.toCluster (fun _ => none) address o.ns b = .ok t) bs out →
      bs.map (httpTarget env.reads.toCluster (fun _ => none) address o.ns) = out.map .ok := by
    intro bs out hall
    induction hall with
    | nil => rfl
    | cons hb _ ih => rw [List.map_cons, List.map_cons, hb, ih]
  have hts := hmap (renderTargets_http hmode h).1
  have hts' := (renderTargets_http hmode' h').1
  rw [hns] at hts'
  have hp := hbackends.map (httpTarget env.reads.toCluster (fun _ => none) address o.ns)
  rw [hts, hmap hts'] at hp
  exact (List.map_perm_map_iff fun _ _ heq => Except.ok.inj heq).mp hp

/-- The object with its backends in another order. -/
def withBackends (o : CR) (backends : List Backend) : CR :=
  { o with spec := { o.spec with backends := backends } }

/-- **The request does not depend on the order of the backends** if its targets are separated. In
the other modes there is one backend, and no order. -/
theorem serviceRequest_withBackends {env : Env} {o : CR} {address : String}
    {backends : List Backend} (hmode : o.spec.mode = .http)
    (hbackends : backends.Perm o.spec.backends) {req req' : ServiceRequest}
    (h : serviceRequest env o address = .ok req) (hsep : Separated req.targets)
    (h' : serviceRequest env (withBackends o backends) address = .ok req') : req' = req := by
  have hhttp := serviceMode_eq_http.mpr hmode
  obtain ⟨ts, l, groups, hts, hgroups, rfl⟩ := serviceRequest_ok h
  obtain ⟨ts', l', groups', hts', hgroups', rfl⟩ := serviceRequest_ok h'
  obtain rfl : l' = l :=
    (renderTargets_http (o := withBackends o backends) hhttp hts').2.trans
      (renderTargets_http hhttp hts).2.symm
  obtain rfl : groups = groups' := Except.ok.inj (hgroups.symm.trans hgroups')
  have hp : ts'.Perm ts :=
    renderTargets_perm (p := withBackends o backends) hhttp hhttp rfl hbackends hts hts'
  have hsame : sortServiceTargets ts' = sortServiceTargets ts :=
    (hsep.of_perm (sortSlice_perm targetLess ts).symm).sort_eq hp
  show requestOf (withBackends o backends) ts' l' groups = requestOf o ts l' groups
  unfold requestOf
  rw [hsame]
  rfl

/-- **When the order of targets is canonical**: exactly if no two different ones share host and
port. Then every sort returns the same list however the targets come, and so does the one that is
used, and a request with these targets is the same for every order of the backends. -/
theorem targets_canonical_iff (ts : List ServiceTarget) :
    ((∀ ts', ts'.Perm ts → ∀ out out', Sorts targetLess ts out → Sorts targetLess ts' out' →
        out = out') ↔ Separated ts) ∧
    ((∀ ts', ts'.Perm ts → sortServiceTargets ts' = sortServiceTargets ts) ↔ Separated ts) ∧
    (Separated ts → ∀ env o address backends req req', o.spec.mode = .http →
      backends.Perm o.spec.backends → serviceRequest env o address = .ok req →
      req.targets.Perm ts →
      serviceRequest env (withBackends o backends) address = .ok req' → req' = req) := by
  refine ⟨?_, ⟨?_, fun h ts' hp => h.sort_eq hp⟩, ?_⟩
  · rw [separated_iff, ← sorts_unique_iff targetLess_byKey]
    constructor
    · exact fun h out out' hout hout' => h ts (.refl ts) out out' hout hout'
    · exact fun h ts' hp out out' hout hout' => h out out' hout (hout'.of_perm hp)
  · intro h
    rw [separated_iff]
    intro t ht u hu htu
    -- Whichever of the two comes first in the list comes first of their key in the outcome.
    have hfirst : ∀ v ∈ ts, targetKey v = targetKey t →
        ((sortServiceTargets ts).filter fun a => decide (targetKey a = targetKey t)).head? =
          some v := by
      intro v hv hk
      rw [← h _ (List.perm_cons_erase hv).symm, sortServiceTargets,
        filter_sortSlice targetLess_byKey, List.filter_cons_of_pos (by simpa using hk)]
      rfl
    exact Option.some.inj ((hfirst t ht rfl).symm.trans (hfirst u hu htu.symm))
  · intro h env o address backends req req' hmode hbackends hreq hp hreq'
    exact serviceRequest_withBackends hmode hbackends hreq (h.of_perm hp) hreq'

/-- The Service `web` behind some paths. -/
def pathsObject (paths : List String) : CR :=
  { privateObject with
    spec := { privateObject.spec with backends := paths.map fun path => ⟨"web", 80, path⟩ } }

/-- The paths of the targets of a request, in their order. -/
def targetPaths (r : Except MirrorErr ServiceRequest) : Option (List (Option String)) :=
  r.toOption.map fun req => req.targets.map ServiceTarget.path

/-- The target of `web` behind a path. -/
def webTarget (path : String) : ServiceTarget where
  enabled := true
  host := some "web.shop.svc.cluster.local"
  port := 80
  protocol := .http
  targetType := .cluster
  targetID := "gate.example.com"
  options := some { directUpstream := some true }
  path := some path

theorem targets_canonical_hosts :
    sortServiceTargets [{ webTarget "/" with host := some "b" }, webTarget "/"] =
      sortServiceTargets [webTarget "/", { webTarget "/" with host := some "b" }] :=
  (targets_canonical_iff _).2.1.mpr (by decide) _ (.swap _ _ _)

/-- **Two paths of one Service.** The targets compare neither way: a sort may return them in either
order, and the request has them in the order the backends are declared in. -/
theorem path_targets_not_canonical :
    Sorts targetLess [webTarget "/a", webTarget "/b"] [webTarget "/a", webTarget "/b"] ∧
    Sorts targetLess [webTarget "/a", webTarget "/b"] [webTarget "/b", webTarget "/a"] ∧
    targetPaths (serviceRequest privateEnv (pathsObject ["/a", "/b"]) "gate.example.com") =
      some [some "/a", some "/b"] ∧
    targetPaths (serviceRequest privateEnv (pathsObject ["/b", "/a"]) "gate.example.com") =
      some [some "/b", some "/a"] :=
  ⟨⟨.refl _, by decide⟩, ⟨.swap _ _ _, by decide⟩, by decide +kernel, by decide +kernel⟩

/-! ### The resource of an L4 target -/

section Choice

variable {ipFamilyOf : String → Option IPFamily} {items items' : List NetworkResource}
  {r s : NetworkResource}

/-- The family of a resource's address. One that is no IP address has none. -/
def family (ipFamilyOf : String → Option IPFamily) (r : NetworkResource) : Option IPFamily :=
  ipFamilyOf r.address

/-- The resource that is to be chosen: an IPv4 one if there is one, otherwise an IPv6 one if there
is one, and the least by name of its family. -/
structure Preferred (ipFamilyOf : String → Option IPFamily) (items : List NetworkResource)
    (r : NetworkResource) : Prop where
  mem : r ∈ items
  ipv4 : (∃ s ∈ items, family ipFamilyOf s = some .ipv4) → family ipFamilyOf r = some .ipv4
  ipv6 : (∀ s ∈ items, family ipFamilyOf s ≠ some .ipv4) →
    (∃ s ∈ items, family ipFamilyOf s = some .ipv6) → family ipFamilyOf r = some .ipv6
  least : ∀ s ∈ items, family ipFamilyOf s = family ipFamilyOf r → r.name ≤ s.name

/-- The choice is settled: there is an IPv4 address, or what there is instead is all IPv6 or all no
IP address. -/
def Settled (ipFamilyOf : String → Option IPFamily) (items : List NetworkResource) : Prop :=
  (∃ s ∈ items, family ipFamilyOf s = some .ipv4) ∨
    (∀ s ∈ items, family ipFamilyOf s ≠ some .ipv6) ∨ ∀ s ∈ items, family ipFamilyOf s ≠ none

theorem resourceLess_of_family (h : family ipFamilyOf r = family ipFamilyOf s) :
    resourceLess ipFamilyOf r s = decide (r.name < s.name) :=
  if_neg (not_not.mpr h)

theorem resourceLess_of_ne (h : family ipFamilyOf r ≠ family ipFamilyOf s) :
    resourceLess ipFamilyOf r s = decide (family ipFamilyOf r = some .ipv4) :=
  if_pos h

/-- Some resource of a family is the least of it by name. -/
theorem exists_least (f : Option IPFamily) (h : ∃ s ∈ items, family ipFamilyOf s = f) :
    ∃ r ∈ items, family ipFamilyOf r = f ∧
      ∀ s ∈ items, family ipFamilyOf s = f → r.name ≤ s.name := by
  have hbyName : ByKey (fun r s : NetworkResource => decide (r.name < s.name))
      NetworkResource.name := fun _ _ => decide_eq_true_iff
  obtain ⟨out, hout⟩ := exists_sorts hbyName (items.filter fun s => family ipFamilyOf s = f)
  have hmem : ∀ {s}, s ∈ (items.filter fun s => family ipFamilyOf s = f) ↔
      s ∈ items ∧ family ipFamilyOf s = f := by simp
  cases out with
  | nil =>
    obtain ⟨s, hs, hf⟩ := h
    exact absurd (hout.perm.mem_iff.mpr (hmem.mpr ⟨hs, hf⟩)) List.not_mem_nil
  | cons r out =>
    obtain ⟨hr, hmin⟩ := hout.head_minimal (by simp)
    refine ⟨r, (hmem.mp hr).1, (hmem.mp hr).2, fun s hs hf => ?_⟩
    exact not_lt.mp (of_decide_eq_false (hmin s (hmem.mpr ⟨hs, hf⟩)))

theorem exists_preferred (hne : items ≠ []) : ∃ r, Preferred ipFamilyOf items r := by
  by_cases h4 : ∃ s ∈ items, family ipFamilyOf s = some .ipv4
  · obtain ⟨r, hr, hf, hleast⟩ := exists_least _ h4
    exact ⟨r, hr, fun _ => hf, fun hno => absurd hf (hno r hr), hf ▸ hleast⟩
  by_cases h6 : ∃ s ∈ items, family ipFamilyOf s = some .ipv6
  · obtain ⟨r, hr, hf, hleast⟩ := exists_least _ h6
    exact ⟨r, hr, fun h => absurd h h4, fun _ _ => hf, hf ▸ hleast⟩
  · obtain ⟨s, hs⟩ := List.exists_mem_of_ne_nil items hne
    obtain ⟨r, hr, hf, hleast⟩ := exists_least (family ipFamilyOf s) ⟨s, hs, rfl⟩
    exact ⟨r, hr, fun h => absurd h h4, fun _ h => absurd h h6, hf ▸ hleast⟩

/-- Nothing is less than the preferred resource. -/
theorem Preferred.not_less (h : Preferred ipFamilyOf items r) (hs : s ∈ items) :
    resourceLess ipFamilyOf s r = false := by
  by_cases hf : family ipFamilyOf s = family ipFamilyOf r
  · rw [resourceLess_of_family hf]
    exact decide_eq_false (not_lt.mpr (h.least s hs hf))
  · rw [resourceLess_of_ne hf]
    exact decide_eq_false fun h4 => hf (h4.trans (h.ipv4 ⟨s, hs, h4⟩).symm)

/-- **Where the choice is settled, the preferred resource is less than every other.** -/
theorem Preferred.less (h : Preferred ipFamilyOf items r) (hsettled : Settled ipFamilyOf items)
    (hnames : (items.map NetworkResource.name).Nodup) (hs : s ∈ items) (hne : s ≠ r) :
    resourceLess ipFamilyOf r s = true := by
  by_cases hf : family ipFamilyOf r = family ipFamilyOf s
  · rw [resourceLess_of_family hf]
    have hname : r.name ≠ s.name := fun heq =>
      hne (List.inj_on_of_nodup_map hnames h.mem hs heq).symm
    exact decide_eq_true (lt_of_le_of_ne (h.least s hs hf.symm) hname)
  · rw [resourceLess_of_ne hf, decide_eq_true_eq]
    by_cases h4 : ∃ s ∈ items, family ipFamilyOf s = some .ipv4
    · exact h.ipv4 h4
    · -- Without IPv4 there is one family only, and the two are of it.
      have hno : ∀ t ∈ items, family ipFamilyOf t ≠ some .ipv4 := fun t ht hft => h4 ⟨t, ht, hft⟩
      have hr4 := hno r h.mem
      have hs4 := hno s hs
      rcases hsettled.resolve_left h4 with h6 | hnone
      · have hr6 := h6 r h.mem
        have hs6 := h6 s hs
        revert hf hr4 hs4 hr6 hs6
        rcases family ipFamilyOf r with _ | _ | _ <;> rcases family ipFamilyOf s with _ | _ | _ <;>
          simp
      · have hr0 := hnone r h.mem
        have hs0 := hnone s hs
        revert hf hr4 hs4 hr0 hs0
        rcases family ipFamilyOf r with _ | _ | _ <;> rcases family ipFamilyOf s with _ | _ | _ <;>
          simp

/-- Where the choice is not settled, there is a resource that is no IP address and that nothing is
less than. -/
theorem exists_minimal_of_not_settled (h : ¬ Settled ipFamilyOf items) :
    ∃ s ∈ items, family ipFamilyOf s = none ∧ ∀ t ∈ items, resourceLess ipFamilyOf t s = false := by
  rw [Settled, not_or, not_or] at h
  obtain ⟨h4, -, hnone⟩ := h
  push Not at h4 hnone
  obtain ⟨s, hs, hf, hleast⟩ := exists_least _ hnone
  refine ⟨s, hs, hf, fun t ht => ?_⟩
  by_cases hts : family ipFamilyOf t = family ipFamilyOf s
  · rw [resourceLess_of_family hts]
    exact decide_eq_false (not_lt.mpr (hleast t ht (hts.trans hf)))
  · rw [resourceLess_of_ne hts]
    exact decide_eq_false (h4 t ht)

theorem Preferred.family_of_not_settled (h : Preferred ipFamilyOf items r)
    (hnot : ¬ Settled ipFamilyOf items) : family ipFamilyOf r = some .ipv6 := by
  rw [Settled, not_or, not_or] at hnot
  obtain ⟨h4, h6, -⟩ := hnot
  push Not at h4 h6
  exact h.ipv6 h4 h6

/-- In one family the comparison is that of the names. -/
theorem sorted_of_family {out : List NetworkResource} {f : Option IPFamily}
    (hf : ∀ r ∈ out, family ipFamilyOf r = f)
    (h : Sorted (fun r s : NetworkResource => decide (r.name < s.name)) out) :
    Sorted (resourceLess ipFamilyOf) out := by
  refine List.Pairwise.imp_of_mem (fun {a b} ha hb hab => ?_) h
  rw [resourceLess_of_family ((hf b hb).trans (hf a ha).symm)]
  exact hab

/-- A sort may return the resources that are no IP addresses before the IPv6 ones. -/
theorem exists_sorts_of_not_settled (hnot : ¬ Settled ipFamilyOf items) :
    ∃ s out, family ipFamilyOf s = none ∧
      Sorts (resourceLess ipFamilyOf) items (s :: out) := by
  have hbyName : ByKey (fun r s : NetworkResource => decide (r.name < s.name))
      NetworkResource.name := fun _ _ => decide_eq_true_iff
  obtain ⟨t, ht, htf, -⟩ := exists_minimal_of_not_settled hnot
  rw [Settled, not_or] at hnot
  have h4 : ∀ r ∈ items, family ipFamilyOf r ≠ some .ipv4 := fun r hr hf => hnot.1 ⟨r, hr, hf⟩
  obtain ⟨nones, hnones⟩ := exists_sorts hbyName (items.filter fun r => family ipFamilyOf r = none)
  obtain ⟨others, hothers⟩ :=
    exists_sorts hbyName (items.filter fun r => !decide (family ipFamilyOf r = none))
  have hnone : ∀ r ∈ nones, family ipFamilyOf r = none := fun r hr =>
    of_decide_eq_true (List.mem_filter.mp (hnones.perm.mem_iff.mp hr)).2
  have hsix : ∀ r ∈ others, family ipFamilyOf r = some .ipv6 := by
    intro r hr
    obtain ⟨hmem, hf⟩ := List.mem_filter.mp (hothers.perm.mem_iff.mp hr)
    have hr4 := h4 r hmem
    revert hf hr4
    rcases family ipFamilyOf r with _ | _ | _ <;> simp
  have hsorts : Sorts (resourceLess ipFamilyOf) items (nones ++ others) := by
    refine Sorts.append ⟨hnones.perm, sorted_of_family hnone hnones.sorted⟩
      ⟨hothers.perm, sorted_of_family hsix hothers.sorted⟩ fun a ha b hb => ?_
    have hfamily : family ipFamilyOf b ≠ family ipFamilyOf a := by
      rw [hnone a ha, hsix b hb]
      exact Option.some_ne_none _
    rw [resourceLess_of_ne hfamily, hsix b hb]
    rfl
  cases nones with
  | nil =>
    exact absurd (hnones.perm.mem_iff.mpr (List.mem_filter.mpr ⟨ht, decide_eq_true htf⟩))
      List.not_mem_nil
  | cons s nones => exact ⟨s, nones ++ others, hnone s List.mem_cons_self, hsorts⟩

/-- **When the choice of a resource is settled.** Exactly if there is an IPv4 address, or there are
not both IPv6 addresses and addresses that are no IP address, the preferred resource is chosen from
the list in every order; and likewise if the sort is taken to be any sort. -/
theorem l4_choice_settled_iff (ipFamilyOf : String → Option IPFamily)
    (items : List NetworkResource) (hne : items ≠ [])
    (hnames : (items.map NetworkResource.name).Nodup) :
    ((∃ r, Preferred ipFamilyOf items r ∧
        ∀ items', items'.Perm items → preferL4Resource ipFamilyOf items' = some r) ↔
      Settled ipFamilyOf items) ∧
    ((∃ r, Preferred ipFamilyOf items r ∧
        ∀ out, Sorts (resourceLess ipFamilyOf) items out → out.head? = some r) ↔
      Settled ipFamilyOf items) := by
  refine ⟨⟨?_, fun hsettled => ?_⟩, ⟨?_, fun hsettled => ?_⟩⟩
  · rintro ⟨r, hr, hall⟩
    by_contra hnot
    obtain ⟨s, hs, hf, hmin⟩ := exists_minimal_of_not_settled hnot
    have hchosen := hall _ (List.perm_cons_erase hs).symm
    rw [preferL4Resource,
      head?_sortSlice_cons fun t ht => hmin t (List.mem_of_mem_erase ht)] at hchosen
    obtain rfl := Option.some.inj hchosen
    exact absurd (hf.symm.trans (hr.family_of_not_settled hnot)) (Option.some_ne_none _).symm
  · obtain ⟨r, hr⟩ := exists_preferred hne
    refine ⟨r, hr, fun items' hp => ?_⟩
    exact head?_sortSlice_of_least (hp.mem_iff.mpr hr.mem)
      (fun s hs hsr => hr.less hsettled hnames (hp.mem_iff.mp hs) hsr)
      fun s hs => hr.not_less (hp.mem_iff.mp hs)
  · rintro ⟨r, hr, hall⟩
    by_contra hnot
    obtain ⟨s, out, hf, hsorts⟩ := exists_sorts_of_not_settled hnot
    obtain rfl := Option.some.inj (hall _ hsorts)
    exact absurd (hf.symm.trans (hr.family_of_not_settled hnot)) (Option.some_ne_none _).symm
  · obtain ⟨r, hr⟩ := exists_preferred hne
    refine ⟨r, hr, fun out hout => ?_⟩
    cases out with
    | nil => exact absurd (hout.perm.mem_iff.mpr hr.mem) List.not_mem_nil
    | cons s out =>
      obtain ⟨hs, hmin⟩ := hout.head_minimal (by rw [resourceLess_of_family rfl]; simp)
      -- The preferred one is less than any other that could stand first.
      by_contra hsr
      have hless := hr.less hsettled hnames hs fun heq => hsr (congrArg some heq)
      exact absurd (hmin r hr.mem) (by simp [hless])

/-- The families of some addresses. -/
def sampleFamily (address : String) : Option IPFamily :=
  if address = "192.0.2.10" then some .ipv4
  else if address = "2001:db8::10" then some .ipv6
  else none

/-- A NetworkResource of the Service `db`. -/
def dbResource (name address : String) : NetworkResource :=
  ⟨"shop", name, some "db", address, "id-" ++ name⟩

theorem l4_choice_settled_dualstack :
    ∃ r, Preferred sampleFamily [dbResource "db-ipv6" "2001:db8::10",
        dbResource "db-ipv4" "192.0.2.10", dbResource "db-host" "db.example.com"] r ∧
      r.name = "db-ipv4" ∧
      preferL4Resource sampleFamily [dbResource "db-host" "db.example.com",
        dbResource "db-ipv6" "2001:db8::10", dbResource "db-ipv4" "192.0.2.10"] = some r := by
  obtain ⟨r, hr, hall⟩ := (l4_choice_settled_iff sampleFamily [dbResource "db-ipv6" "2001:db8::10",
    dbResource "db-ipv4" "192.0.2.10", dbResource "db-host" "db.example.com"] (by decide)
    (by decide)).1.mpr (Or.inl ⟨dbResource "db-ipv4" "192.0.2.10", by decide, by decide⟩)
  have hchosen := hall [dbResource "db-host" "db.example.com",
    dbResource "db-ipv6" "2001:db8::10", dbResource "db-ipv4" "192.0.2.10"] (by decide)
  refine ⟨r, hr, ?_, hchosen⟩
  rw [show preferL4Resource sampleFamily [dbResource "db-host" "db.example.com",
    dbResource "db-ipv6" "2001:db8::10", dbResource "db-ipv4" "192.0.2.10"] =
    some (dbResource "db-ipv4" "192.0.2.10") by decide] at hchosen
  exact congrArg NetworkResource.name (Option.some.inj hchosen).symm

/-- **An IPv6 address and a domain.** Whichever is listed first is chosen, also the one that is not
an address. -/
theorem l4_choice_by_list_order :
    preferL4Resource sampleFamily [dbResource "db-ipv6" "2001:db8::10",
        dbResource "db-host" "db.example.com"] = some (dbResource "db-ipv6" "2001:db8::10") ∧
      preferL4Resource sampleFamily [dbResource "db-host" "db.example.com",
        dbResource "db-ipv6" "2001:db8::10"] = some (dbResource "db-host" "db.example.com") := by
  decide

end Choice

end ReverseProxyService

end NetbirdOperator
