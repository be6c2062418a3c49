import NetbirdOperator.ControlLoop.Keyed
import NetbirdOperator.PodWebhook.Model
import NetbirdOperator.ReverseProxyService.Ordering

/-!
# What an admission does to a Pod

The webhook works on the Pod in place and has many ways to fail: two calls, the selectors of all
profiles of the namespace, four steps of the override, and the mode. Nothing undoes a write. So that
a Pod which is refused is left alone is a matter of order, and the order is right: every failure
comes before the first write.

`PodNetbirdInjector.default_eq` says so in one equation: the admission is a *plan*, which reads the
Pod and may fail, and one write. The rest is about plans. A plan is made from the profiles that
select the Pod and the first of them by name, which is the same one in whatever order they are
listed. A selector that is not valid fails the admission even if its profile comes after all others,
so the order of the list does not decide either whether it fails.

## Main results

* `PodWebhook.PodNetbirdInjector.default_eq` — an admission is a plan and one write
* `PodWebhook.planned_eq_some_iff`, `planned_eq_none_iff` — what is planned
* `PodWebhook.injection_atomic` — what an admission does, whatever the order of the profiles
-/

namespace NetbirdOperator

open ControlLoop Sorting Strings

namespace PodWebhook

open Pass

variable {R L : Type} {d : PodNetbirdInjector} {lib : Libraries R L} {env env' : Env R L}
  {pod pod' : Pod R} {p q : SidecarProfile R L} {c : Container R}

/-! ### The write -/

/-- The Pod with the container added where the profile wants it, and the profile's name. -/
def Pod.inject (pod : Pod R) (p : SidecarProfile R L) (c : Container R) : Pod R :=
  { pod with
    initContainers :=
      if p.injectionMode = .sidecar then pod.initContainers ++ [c] else pod.initContainers
    containers := if p.injectionMode = .container then pod.containers ++ [c] else pod.containers
    annotations := some ((pod.annotations.getD ∅).insert sidecarProfileAnnotation p.name) }

theorem inject_of_sidecar (pod : Pod R) (c : Container R) (h : p.injectionMode = .sidecar) :
    pod.inject p c =
      { pod with
        initContainers := pod.initContainers ++ [c]
        annotations :=
          some ((pod.annotations.getD ∅).insert sidecarProfileAnnotation p.name) } := by
  simp [Pod.inject, h]

theorem inject_of_container (pod : Pod R) (c : Container R) (h : p.injectionMode = .container) :
    pod.inject p c =
      { pod with
        containers := pod.containers ++ [c]
        annotations :=
          some ((pod.annotations.getD ∅).insert sidecarProfileAnnotation p.name) } := by
  simp [Pod.inject, h]

/-- The value of an annotation. A nil map has none. -/
def Pod.annotationOf (pod : Pod R) (key : String) : Option String :=
  pod.annotations.bind fun m => m.lookup key

/-- **The Pod with one container more**, where the mode says, and with the annotation. All else is
as it was. -/
structure Injected (pod : Pod R) (p : SidecarProfile R L) (c : Container R) (pod' : Pod R) :
    Prop where
  placed :
    (p.injectionMode = .sidecar ∧ c.restartPolicy = some .always ∧
      pod'.initContainers = pod.initContainers ++ [c] ∧ pod'.containers = pod.containers) ∨
    (p.injectionMode = .container ∧
      pod'.containers = pod.containers ++ [c] ∧ pod'.initContainers = pod.initContainers)
  annotated : ∀ key, pod'.annotationOf key =
    if key = sidecarProfileAnnotation then some p.name else pod.annotationOf key
  ns : pod'.ns = pod.ns
  labels : pod'.labels = pod.labels
  rest : pod'.rest = pod.rest

theorem annotationOf_inject (pod : Pod R) (p : SidecarProfile R L) (c : Container R)
    (key : String) :
    (pod.inject p c).annotationOf key =
      if key = sidecarProfileAnnotation then some p.name else pod.annotationOf key := by
  have hlookup : (pod.annotations.getD ∅).lookup key = pod.annotationOf key := by
    rw [Pod.annotationOf]
    cases pod.annotations with
    | none => exact AList.lookup_empty key
    | some m => rfl
  rw [← hlookup, Pod.annotationOf, Pod.inject, Option.bind_some, lookup_insert_eq]
  simp only [eq_comm]

/-- **What the container holds** before any override: the operator's image, the key of the profile's
setup key by way of its Secret, the URL, and the labels if there are some. -/
structure Configured (d : PodNetbirdInjector) (env : Env R L) (ns : String)
    (p : SidecarProfile R L) (c : Container R) : Prop where
  setupKey : ∃ key ∈ env.cluster.setupKeys, key.ns = ns ∧ key.name = p.setupKeyRef
  name : c.name = "netbird"
  image : c.image = d.clientImage
  env : c.env =
    [{ name := "NB_SETUP_KEY"
       valueFrom := some (.secretKeyRef (SetupKey.secretName p.setupKeyRef) "setup-key") },
     { name := "NB_MANAGEMENT_URL", value := d.managementURL }] ++
    if p.extraDNSLabels = [] then []
    else [{ name := "NB_EXTRA_DNS_LABELS", value := join p.extraDNSLabels ',' }]
  capabilities : c.securityContext.map SecurityContext.addedCapabilities = some ["NET_ADMIN"]

theorem getSetupKey_eq_ok {ns name : String} {key : SetupKey.CR}
    (h : getSetupKey env ns name = .ok key) :
    key ∈ env.cluster.setupKeys ∧ key.ns = ns ∧ key.name = name := by
  rw [getSetupKey] at h
  split at h
  · cases h
  · split at h
    · cases h
    · next hfind =>
      obtain rfl := Except.ok.inj h
      exact ⟨List.mem_of_find?_eq_some hfind, by simpa using List.find?_some hfind⟩

/-! ### Plans -/

section

variable [Inhabited R]

/-- The container that is added for a profile. -/
def PodNetbirdInjector.rendered (d : PodNetbirdInjector) (lib : Libraries R L) (env : Env R L)
    (ns : String) (p : SidecarProfile R L) : Except Err (Container R) := do
  let setupKey ← getSetupKey env ns p.setupKeyRef
  let container ← (overridden lib (d.container setupKey p) p.containerOverride).mapError .library
  match p.injectionMode with
  | .sidecar => .ok { container with restartPolicy := some .always }
  | .container => .ok container
  | .other name => .error (.invalid ("unknown injection mode " ++ name))

/-- What an admission is to do: nothing, or to add a container for a profile. -/
def PodNetbirdInjector.planned (d : PodNetbirdInjector) (lib : Libraries R L) (env : Env R L)
    (pod : Pod R) : Except Err (Option (SidecarProfile R L × Container R)) := do
  let listed ← listProfiles env pod.ns
  let sidecarProfiles ← matchingProfiles lib pod.labels listed
  match firstProfile lib sidecarProfiles with
  | none => .ok none
  | some p => do
    let container ← d.rendered lib env pod.ns p
    .ok (some (p, container))

/-- What comes after the choice of a profile. Every failure is one of the container's. -/
theorem place_rendered (d : PodNetbirdInjector) (lib : Libraries R L) (env : Env R L) (ns : String)
    (p : SidecarProfile R L) (pod : Pod R) :
    (do
      let setupKey ← Pass.lift (getSetupKey env ns p.setupKeyRef)
      let container ← Pass.lift
        ((overridden lib (d.container setupKey p) p.containerOverride).mapError .library)
      place container p.injectionMode
      annotate p.name : M R Unit) pod =
      match d.rendered lib env ns p with
      | .error e => (.error e, pod)
      | .ok c => (.ok (), pod.inject p c) := by
  rw [bind_lift_apply, PodNetbirdInjector.rendered]
  cases getSetupKey env ns p.setupKeyRef with
  | error e => rfl
  | ok setupKey =>
    refine (bind_lift_apply _ _ pod).trans ?_
    dsimp only [bind, Except.bind]
    cases (overridden lib (d.container setupKey p) p.containerOverride).mapError Err.library with
    | error e => rfl
    | ok container =>
      cases hmode : p.injectionMode with
      | sidecar => exact congrArg (Prod.mk _) (inject_of_sidecar pod _ hmode).symm
      | container => exact congrArg (Prod.mk _) (inject_of_container pod _ hmode).symm
      | other name => rfl

/-- **An admission is a plan and one write.** -/
theorem PodNetbirdInjector.default_eq (d : PodNetbirdInjector) (lib : Libraries R L)
    (env : Env R L) (pod : Pod R) :
    d.default lib env pod =
      match d.planned lib env pod with
      | .error e => (.error e, pod)
      | .ok none => (.ok (), pod)
      | .ok (some (p, c)) => (.ok (), pod.inject p c) := by
  rw [PodNetbirdInjector.default, PodNetbirdInjector.planned, bind_of_ok (read_apply id pod),
    bind_lift_apply, id_eq]
  cases listProfiles env pod.ns with
  | error e => rfl
  | ok listed =>
    refine (bind_lift_apply _ _ pod).trans ?_
    dsimp only [bind, Except.bind]
    cases matchingProfiles lib pod.labels listed with
    | error e => rfl
    | ok sidecarProfiles =>
      dsimp only
      cases firstProfile lib sidecarProfiles with
      | none => rfl
      | some p =>
        refine (place_rendered d lib env pod.ns p pod).trans ?_
        dsimp only
        cases d.rendered lib env pod.ns p <;> rfl

/-- What is rendered is the container, with the override, and set up for the mode. -/
theorem rendered_eq_ok {ns : String} (h : d.rendered lib env ns p = .ok c) :
    ∃ setupKey container, getSetupKey env ns p.setupKeyRef = .ok setupKey ∧
      overridden lib (d.container setupKey p) p.containerOverride = .ok container ∧
      ((p.injectionMode = .sidecar ∧ c = { container with restartPolicy := some .always }) ∨
        (p.injectionMode = .container ∧ c = container)) := by
  rw [PodNetbirdInjector.rendered] at h
  obtain ⟨setupKey, hkey, h⟩ := bind_eq_ok.mp h
  obtain ⟨container, hcontainer, h⟩ := bind_eq_ok.mp h
  refine ⟨setupKey, container, hkey, mapError_eq_ok.mp hcontainer, ?_⟩
  cases hmode : p.injectionMode with
  | sidecar => exact .inl ⟨rfl, (Except.ok.inj (by rwa [hmode] at h)).symm⟩
  | container => exact .inr ⟨rfl, (Except.ok.inj (by rwa [hmode] at h)).symm⟩
  | other name =>
    rw [hmode] at h
    cases h

/-- Without an override the container is configured. -/
theorem configured_of_rendered {ns : String} (h : d.rendered lib env ns p = .ok c)
    (hnone : p.containerOverride = none) : Configured d env ns p c := by
  obtain ⟨setupKey, container, hkey, hcontainer, hc⟩ := rendered_eq_ok h
  obtain ⟨hmem, hns, hname⟩ := getSetupKey_eq_ok hkey
  rw [hnone] at hcontainer
  obtain rfl := Except.ok.inj hcontainer
  have henv : (d.container setupKey p).env = d.envVars setupKey p := rfl
  rw [PodNetbirdInjector.envVars, hname] at henv
  rcases hc with ⟨-, rfl⟩ | ⟨-, rfl⟩
  · exact ⟨⟨setupKey, hmem, hns, hname⟩, rfl, rfl, henv, rfl⟩
  · exact ⟨⟨setupKey, hmem, hns, hname⟩, rfl, rfl, henv, rfl⟩

/-- What is rendered for a profile goes where the profile wants it. -/
theorem injected_of_rendered (h : d.rendered lib env pod.ns p = .ok c) :
    Injected pod p c (pod.inject p c) := by
  refine ⟨?_, annotationOf_inject pod p c, rfl, rfl, rfl⟩
  obtain ⟨-, container, -, -, hc⟩ := rendered_eq_ok h
  rcases hc with ⟨hmode, rfl⟩ | ⟨hmode, rfl⟩
  · rw [inject_of_sidecar pod _ hmode]
    exact .inl ⟨hmode, rfl, rfl, rfl⟩
  · rw [inject_of_container pod _ hmode]
    exact .inr ⟨hmode, rfl, rfl⟩

end

/-! ### The profile that decides -/

/-- The profile's selector can be read. -/
def ValidSelector (lib : Libraries R L) (labels : StringMap) (p : SidecarProfile R L) : Prop :=
  ∃ b, selects lib labels p = .ok b

/-- The profile is one of the Pod's namespace and selects it. -/
structure Matching (lib : Libraries R L) (env : Env R L) (pod : Pod R) (p : SidecarProfile R L) :
    Prop where
  mem : p ∈ env.cluster.profiles
  ns : p.ns = pod.ns
  selects : selects lib pod.labels p = .ok true

/-- **The profile that decides**: among those that match, the one with the least name. -/
structure Chosen (lib : Libraries R L) (env : Env R L) (pod : Pod R) (p : SidecarProfile R L) :
    Prop where
  matching : Matching lib env pod p
  least : ∀ q, Matching lib env pod q → p.name ≤ q.name

/-- Profiles of one namespace that have one name are one profile. -/
theorem eq_of_name_eq (cluster : Cluster R L) (hp : p ∈ cluster.profiles)
    (hq : q ∈ cluster.profiles) (hns : p.ns = q.ns) (hname : p.name = q.name) : p = q :=
  List.inj_on_of_nodup_map cluster.unique hp hq (Prod.ext hns hname)

theorem Chosen.unique (hp : Chosen lib env pod p) (hq : Chosen lib env pod q) : p = q :=
  eq_of_name_eq env.cluster hp.matching.mem hq.matching.mem
    (hp.matching.ns.trans hq.matching.ns.symm)
    (le_antisymm (hp.least q hq.matching) (hq.least p hp.matching))

theorem listProfiles_eq_ok {ps : List (SidecarProfile R L)} :
    listProfiles env pod.ns = .ok ps ↔
      env.fault .listProfiles = none ∧ ps = env.cluster.profiles.filter fun p => p.ns = pod.ns := by
  rw [listProfiles]
  cases env.fault .listProfiles with
  | some f => exact ⟨fun h => (by cases h), fun h => (by cases h.1)⟩
  | none =>
    simp only [pod.ns_ne, false_or, true_and]
    exact ⟨fun h => (Except.ok.inj h).symm, fun h => congrArg _ h.symm⟩

/-- The loop over the profiles keeps those that select the Pod, if every selector can be read. -/
theorem matchingProfiles_eq_ok {labels : StringMap} {ps qs : List (SidecarProfile R L)} :
    matchingProfiles lib labels ps = .ok qs ↔
      (∀ p ∈ ps, ValidSelector lib labels p) ∧
        qs = ps.filter fun p => selects lib labels p = .ok true := by
  induction ps generalizing qs with
  | nil => simp [matchingProfiles, eq_comm]
  | cons p ps ih =>
    rw [matchingProfiles]
    simp only [bind_eq_ok, ih, List.forall_mem_cons, List.filter_cons]
    constructor
    · rintro ⟨b, hb, rest, ⟨hvalid, rfl⟩, hqs⟩
      refine ⟨⟨⟨b, hb⟩, hvalid⟩, ?_⟩
      obtain rfl := Except.ok.inj hqs
      cases b <;> simp [hb]
    · rintro ⟨⟨⟨b, hb⟩, hvalid⟩, rfl⟩
      refine ⟨b, hb, _, ⟨hvalid, rfl⟩, ?_⟩
      cases b <;> simp [hb]

theorem firstProfile_eq_none {ps : List (SidecarProfile R L)} :
    firstProfile lib ps = none ↔ ps = [] := by
  rw [firstProfile]
  split
  · rw [List.head?_eq_none_iff]
    exact ⟨fun h => by simpa [h] using (lib.sorts ps).perm, fun h => by
      subst h
      exact (lib.sorts []).perm.eq_nil⟩
  · exact List.head?_eq_none_iff

/-- The first profile is one of them, and none has a lesser name. -/
theorem least_of_firstProfile {ps : List (SidecarProfile R L)} (h : firstProfile lib ps = some p) :
    p ∈ ps ∧ ∀ q ∈ ps, p.name ≤ q.name := by
  rw [firstProfile] at h
  split at h
  · obtain ⟨rest, hrest⟩ := List.head?_eq_some_iff.mp h
    obtain ⟨hmem, hleast⟩ :=
      (hrest ▸ lib.sorts ps).head_minimal (decide_eq_false (lt_irrefl p.name))
    exact ⟨hmem, fun q hq => byKey_nameLess.eq_false.mp (hleast q hq)⟩
  · next hlen =>
    obtain ⟨rest, rfl⟩ := List.head?_eq_some_iff.mp h
    -- There is no other.
    obtain rfl : rest = [] := by
      rw [List.length_cons] at hlen
      exact List.length_eq_zero_iff.mp (by omega)
    exact ⟨List.mem_cons_self, fun q hq => (List.mem_singleton.mp hq) ▸ le_refl _⟩

/-- The profiles can be listed, and their selectors read. -/
structure Readable (lib : Libraries R L) (env : Env R L) (pod : Pod R) : Prop where
  list : env.fault .listProfiles = none
  valid : ∀ p ∈ env.cluster.profiles, p.ns = pod.ns → ValidSelector lib pod.labels p

/-- The profiles that match, in the order they are listed. -/
def candidates (lib : Libraries R L) (env : Env R L) (pod : Pod R) : List (SidecarProfile R L) :=
  (env.cluster.profiles.filter fun p => p.ns = pod.ns).filter fun p =>
    selects lib pod.labels p = .ok true

theorem mem_candidates : p ∈ candidates lib env pod ↔ Matching lib env pod p := by
  rw [candidates, List.mem_filter, List.mem_filter, decide_eq_true_iff, decide_eq_true_iff]
  exact ⟨fun h => ⟨h.1.1, h.1.2, h.2⟩, fun h => ⟨⟨h.mem, h.ns⟩, h.selects⟩⟩

theorem candidates_eq_nil : candidates lib env pod = [] ↔ ∀ p, ¬ Matching lib env pod p := by
  simp only [List.eq_nil_iff_forall_not_mem, mem_candidates]

/-- The first of the candidates is the one that decides. -/
theorem firstProfile_eq_some :
    firstProfile lib (candidates lib env pod) = some p ↔ Chosen lib env pod p := by
  have hchosen : ∀ q, firstProfile lib (candidates lib env pod) = some q →
      Chosen lib env pod q := by
    intro q hq
    obtain ⟨hmem, hleast⟩ := least_of_firstProfile hq
    exact ⟨mem_candidates.mp hmem, fun r hr => hleast r (mem_candidates.mpr hr)⟩
  refine ⟨hchosen p, fun hp => ?_⟩
  cases hfirst : firstProfile lib (candidates lib env pod) with
  | none =>
    have hnone := candidates_eq_nil.mp (firstProfile_eq_none.mp hfirst)
    exact absurd hp.matching (hnone p)
  | some q => rw [(hchosen q hfirst).unique hp]

/-! ### What is planned -/

section

variable [Inhabited R]

theorem planned_eq_ok {r : Option (SidecarProfile R L × Container R)} :
    d.planned lib env pod = .ok r ↔
      Readable lib env pod ∧
        (match firstProfile lib (candidates lib env pod) with
          | none => .ok none
          | some p => do
            let container ← d.rendered lib env pod.ns p
            .ok (some (p, container))) = (.ok r : Except Err _) := by
  rw [PodNetbirdInjector.planned]
  simp only [bind_eq_ok, listProfiles_eq_ok, matchingProfiles_eq_ok]
  constructor
  · rintro ⟨listed, ⟨hlist, rfl⟩, matching, ⟨hvalid, rfl⟩, h⟩
    refine ⟨⟨hlist, fun p hp hns => hvalid p ?_⟩, h⟩
    exact List.mem_filter.mpr ⟨hp, decide_eq_true hns⟩
  · rintro ⟨hread, h⟩
    refine ⟨_, ⟨hread.list, rfl⟩, _, ⟨fun p hp => ?_, rfl⟩, h⟩
    obtain ⟨hmem, hns⟩ := List.mem_filter.mp hp
    exact hread.valid p hmem (of_decide_eq_true hns)

/-- Nothing is to be done exactly if no profile matches. -/
theorem planned_eq_none_iff :
    d.planned lib env pod = .ok none ↔
      Readable lib env pod ∧ ∀ p, ¬ Matching lib env pod p := by
  rw [planned_eq_ok, ← candidates_eq_nil, ← firstProfile_eq_none]
  refine and_congr_right fun _ => ?_
  cases firstProfile lib (candidates lib env pod) with
  | none => simp
  | some p => simp [bind_eq_ok]

/-- A container is to be added exactly for the profile that decides. -/
theorem planned_eq_some_iff :
    d.planned lib env pod = .ok (some (p, c)) ↔
      Readable lib env pod ∧ Chosen lib env pod p ∧ d.rendered lib env pod.ns p = .ok c := by
  rw [planned_eq_ok, ← firstProfile_eq_some]
  refine and_congr_right fun _ => ?_
  cases firstProfile lib (candidates lib env pod) with
  | none => simp
  | some q =>
    simp only [bind_eq_ok, Except.ok.injEq, Option.some.injEq, Prod.mk.injEq]
    constructor
    · rintro ⟨c', hc', rfl, rfl⟩
      exact ⟨rfl, hc'⟩
    · rintro ⟨rfl, hc⟩
      exact ⟨c, hc, rfl, rfl⟩

/-- **Nothing fails**: the profiles can be read, and the container of the one that decides can be
made. -/
structure Admissible (d : PodNetbirdInjector) (lib : Libraries R L) (env : Env R L) (pod : Pod R) :
    Prop where
  readable : Readable lib env pod
  renders : ∀ p, Chosen lib env pod p → ∃ c, d.rendered lib env pod.ns p = .ok c

theorem admissible_iff : Admissible d lib env pod ↔ ∃ r, d.planned lib env pod = .ok r := by
  constructor
  · rintro ⟨hread, hrenders⟩
    cases hfirst : firstProfile lib (candidates lib env pod) with
    | none =>
      have hnone := candidates_eq_nil.mp (firstProfile_eq_none.mp hfirst)
      exact ⟨none, planned_eq_none_iff.mpr ⟨hread, hnone⟩⟩
    | some p =>
      have hp := firstProfile_eq_some.mp hfirst
      obtain ⟨c, hc⟩ := hrenders p hp
      exact ⟨some (p, c), planned_eq_some_iff.mpr ⟨hread, hp, hc⟩⟩
  · rintro ⟨r, hr⟩
    refine ⟨(planned_eq_ok.mp hr).1, fun p hp => ?_⟩
    cases r with
    | none => exact absurd hp.matching ((planned_eq_none_iff.mp hr).2 p)
    | some r =>
      obtain ⟨-, hchosen, hc⟩ := planned_eq_some_iff.mp hr
      exact ⟨r.2, hp.unique hchosen ▸ hc⟩

end

/-! ### The order of the list -/

/-- The same objects, with the profiles in another order. -/
structure Reordered (env env' : Env R L) : Prop where
  profiles : env'.cluster.profiles.Perm env.cluster.profiles
  setupKeys : env'.cluster.setupKeys = env.cluster.setupKeys
  fault : env'.fault = env.fault

theorem Reordered.symm (h : Reordered env env') : Reordered env' env :=
  ⟨h.profiles.symm, h.setupKeys.symm, h.fault.symm⟩

theorem Reordered.matching (h : Reordered env env') (hp : Matching lib env pod p) :
    Matching lib env' pod p :=
  ⟨h.profiles.mem_iff.mpr hp.mem, hp.ns, hp.selects⟩

theorem Reordered.chosen (h : Reordered env env') (hp : Chosen lib env pod p) :
    Chosen lib env' pod p :=
  ⟨h.matching hp.matching, fun q hq => hp.least q (h.symm.matching hq)⟩

theorem Reordered.readable (h : Reordered env env') (hr : Readable lib env pod) :
    Readable lib env' pod :=
  ⟨h.fault ▸ hr.list, fun p hp => hr.valid p (h.profiles.mem_iff.mp hp)⟩

theorem Reordered.planned [Inhabited R] (h : Reordered env env')
    {r : Option (SidecarProfile R L × Container R)} (hr : d.planned lib env pod = .ok r) :
    d.planned lib env' pod = .ok r := by
  cases r with
  | none =>
    obtain ⟨hread, hnone⟩ := planned_eq_none_iff.mp hr
    exact planned_eq_none_iff.mpr ⟨h.readable hread, fun p hp => hnone p (h.symm.matching hp)⟩
  | some r =>
    obtain ⟨hread, hchosen, hc⟩ := planned_eq_some_iff.mp hr
    refine planned_eq_some_iff.mpr ⟨h.readable hread, h.chosen hchosen, ?_⟩
    -- The profiles are not read any more.
    have hkey : ∀ name, getSetupKey env' pod.ns name = getSetupKey env pod.ns name := by
      intro name
      rw [getSetupKey, getSetupKey, h.fault, h.setupKeys]
    rw [← hc, PodNetbirdInjector.rendered, PodNetbirdInjector.rendered, hkey]

/-! ### Admissions -/

/-- **Injection.** An admission succeeds exactly if nothing fails, and if it fails the Pod is as it
was. If no profile matches, the Pod is as it was. Otherwise one container is added to it, the one of
the profile with the least name; without an override it is configured for the profile's setup key.
The order in which the profiles are listed does not matter. -/
theorem injection_atomic [Inhabited R] (d : PodNetbirdInjector) (lib : Libraries R L)
    (env : Env R L) (pod : Pod R) :
    ((d.default lib env pod).1 = .ok () ↔ Admissible d lib env pod) ∧
    (∀ e, (d.default lib env pod).1 = .error e → (d.default lib env pod).2 = pod) ∧
    ((∀ p, ¬ Matching lib env pod p) → (d.default lib env pod).2 = pod) ∧
    ((d.default lib env pod).1 = .ok () → (∃ p, Matching lib env pod p) →
      ∃ p c, Chosen lib env pod p ∧ d.rendered lib env pod.ns p = .ok c ∧
        (p.containerOverride = none → Configured d env pod.ns p c) ∧
        Injected pod p c (d.default lib env pod).2) ∧
    ∀ env', Reordered env env' → (d.default lib env pod).1 = .ok () →
      d.default lib env' pod = d.default lib env pod := by
  simp only [d.default_eq lib, admissible_iff]
  cases hplan : d.planned lib env pod with
  | error e =>
    refine ⟨⟨fun h => (by cases h), fun ⟨r, hr⟩ => (by cases hr)⟩, fun _ _ => rfl, fun _ => rfl,
      fun h => (by cases h), fun _ _ h => (by cases h)⟩
  | ok r =>
    have hsame : ∀ env', Reordered env env' → d.planned lib env' pod = .ok r :=
      fun env' henv => henv.planned hplan
    cases r with
    | none =>
      have hnone := (planned_eq_none_iff.mp hplan).2
      refine ⟨⟨fun _ => ⟨none, rfl⟩, fun _ => rfl⟩, fun _ _ => rfl, fun _ => rfl,
        fun _ ⟨p, hp⟩ => absurd hp (hnone p), fun env' henv _ => ?_⟩
      rw [hsame env' henv]
    | some r =>
      obtain ⟨-, hchosen, hc⟩ := planned_eq_some_iff.mp hplan
      refine ⟨⟨fun _ => ⟨some r, rfl⟩, fun _ => rfl⟩, fun _ h => (by cases h),
        fun hnone => absurd hchosen.matching (hnone r.1),
        fun _ _ => ⟨r.1, r.2, hchosen, hc, configured_of_rendered hc, injected_of_rendered hc⟩,
        fun env' henv _ => ?_⟩
      rw [hsame env' henv]

/-- Selectors that ask for one value of the label `app`, and an override that pins the image. -/
def sampleLibraries : Libraries Unit String where
  size := String.length
  labelSelectorAsSelector s :=
    if s = "!" then .error "invalid selector" else .ok fun labels => labels.lookup "app" = some s
  marshal container := .ok container.image
  marshalOverride containerOverride := .ok containerOverride.image
  strategicMergePatch _ overrideJSON := .ok overrideJSON
  unmarshal mergedJSON container := .ok { container with image := mergedJSON }
  sortFunc := ReverseProxyService.sortSlice nameLess
  sorts := ReverseProxyService.sorts_sortSlice byKey_nameLess

def sampleProfile (name : String) (selector : Option String) (mode : InjectionMode) :
    SidecarProfile Unit String :=
  ⟨"shop", name, "mesh", selector, mode, ["web", "shop"], some { image := "netbird:" ++ name }⟩

/-- Two profiles that select the Pod, of which the second has the lesser name, and one that does
not. -/
def sampleCluster : Cluster Unit String where
  profiles := [sampleProfile "b" none .container, sampleProfile "a" (some "web") .sidecar,
    sampleProfile "0" (some "db") .container]
  unique := by decide
  setupKeys :=
    [{ ns := "shop", name := "mesh", generation := 1, deleting := false, finalizer := true,
       spec := { name := "mesh", ephemeral := true }, status := {} }]

def samplePod : Pod Unit where
  ns := "shop"
  ns_ne := by decide
  labels := (∅ : StringMap).insert "app" "web"
  annotations := none
  initContainers := []
  containers := []
  rest := ()

def sampleInjector : PodNetbirdInjector := ⟨"https://api.netbird.io", "netbird:latest"⟩

theorem injection_atomic_least_name :
    ∃ c, c.image = "netbird:a" ∧
      Injected samplePod (sampleProfile "a" (some "web") .sidecar) c
        (sampleInjector.default sampleLibraries ⟨sampleCluster, fun _ => none⟩ samplePod).2 := by
  have hchosen : Chosen sampleLibraries ⟨sampleCluster, fun _ => none⟩ samplePod
      (sampleProfile "a" (some "web") .sidecar) :=
    firstProfile_eq_some.mp (by decide +kernel)
  obtain ⟨-, -, -, hinjected, -⟩ :=
    injection_atomic sampleInjector sampleLibraries ⟨sampleCluster, fun _ => none⟩ samplePod
  obtain ⟨p, c, hp, hc, -, hpod⟩ := hinjected (by decide +kernel) ⟨_, hchosen.matching⟩
  obtain rfl := hp.unique hchosen
  exact ⟨c, congrArg Container.image (Except.ok.inj hc.symm), hpod⟩

end PodWebhook

end NetbirdOperator
