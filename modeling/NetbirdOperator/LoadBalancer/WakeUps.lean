import NetbirdOperator.ControlLoop.Run
import NetbirdOperator.LoadBalancer.Children

/-!
# Wake-ups

The controller runs over a Service when something it watches has changed, or when its last pass
asked to be repeated. It watches the Services and the children it owns. The advertise decision also
reads the Namespace, and the fan-out the Networks; nobody watches those.

The queue is part of the state here. An event puts the Services it concerns into it, a pass takes
its Service out, and the children a pass changes put their owners back. What makes this safe is an
invariant on the Services that are neither enqueued nor waiting for a requeue: they are `Idle`,
which is to say that a pass would find nothing to do. A change of the Networks keeps that, as an
advertised Service with an address always has a requeue pending. A change of the Namespace may not.

## Main results

* `LoadBalancer.reconcile_of_idle` — a pass over an idle Service changes nothing
* `LoadBalancer.wake_ups_kept` — no wake-up is lost while Namespaces leave idle Services idle
* `LoadBalancer.opt_in_not_noticed` — a Namespace that opts in is not noticed
-/

namespace NetbirdOperator

open ControlLoop

namespace LoadBalancer

open Pass
open ReverseProxyCluster (IPFamily FamilyAddress)

/-! ### The queue -/

/-- The cluster with the controller's queue: the Services that are enqueued, and those whose last
pass asked for another. -/
structure State where
  world : World
  enqueued : List ObjectKey
  pending : List ObjectKey

/-- What happens. Services and children are watched, Namespaces and Networks are not. -/
inductive Event where
  | putService (key : ObjectKey) (svc : Service)
  | removeService (key : ObjectKey)
  | putNamespace (name : String) (ns : Annotations)
  | removeNamespace (name : String)
  | setNetworks (networks : List CrossNamespaceReference)
  | editResource (key : ObjectKey) (spec : ResourceSpec)
  | editRecord (key : ObjectKey) (spec : DNSRecord.Spec)
  | removeResource (key : ObjectKey)
  | removeRecord (key : ObjectKey)
  | pass (key : ObjectKey) (fault : Call → Option Fault)

section Owners

variable {S : Type}

/-- The Service that controls the object with that key, if there is one. -/
def ownerOf (objects : Objects (Child S)) (k : ObjectKey) : List ObjectKey :=
  match (objects.lookup k).bind fun c => c.owner with
  | none => []
  | some owner => [⟨k.ns, owner⟩]

/-- The Services that control an object which is not the same before and after. -/
def ownersOfChanged [DecidableEq S] (before after : Objects (Child S)) : List ObjectKey :=
  ((before.keys ++ after.keys).filter fun k => before.lookup k ≠ after.lookup k).flatMap fun k =>
    ownerOf before k ++ ownerOf after k

/-- The objects with the spec of one replaced. -/
def edit (objects : Objects (Child S)) (k : ObjectKey) (spec : S) : Objects (Child S) :=
  match objects.lookup k with
  | none => objects
  | some c => objects.insert k { c with spec := spec }

end Owners

/-- The outcome of a pass makes the queue repeat it: it failed, or asked to be repeated. -/
def asksAgain : Except Err Result → Bool
  | .error _ => true
  | .ok result => result.requeueAfter.isSome

/-- The state after a pass over a Service that is enqueued or waits for its requeue. -/
def State.afterPass (env : Env) (s : State) (key : ObjectKey) : State :=
  let r := reconcile env key s.world
  { world := r.2
    enqueued := s.enqueued.filter (fun k => k ≠ key) ++
      (ownersOfChanged s.world.resources r.2.resources ++
        ownersOfChanged s.world.records r.2.records)
    pending := s.pending.filter (fun k => k ≠ key) ++ if asksAgain r.1 then [key] else [] }

/-- The effect of an event. A pass happens only to a Service that is due. -/
def step (env : Env) (s : State) : Event → State
  | .putService key svc =>
    { s with
      world := { s.world with services := s.world.services.insert key svc }
      enqueued := key :: s.enqueued }
  | .removeService key =>
    { s with
      world := { s.world with services := s.world.services.erase key }
      enqueued := key :: s.enqueued }
  | .putNamespace name ns =>
    { s with world := { s.world with namespaces := s.world.namespaces.insert name ns } }
  | .removeNamespace name =>
    { s with world := { s.world with namespaces := s.world.namespaces.erase name } }
  | .setNetworks networks => { s with world := { s.world with networks := networks } }
  | .editResource key spec =>
    { s with
      world := { s.world with resources := edit s.world.resources key spec }
      enqueued := ownerOf s.world.resources key ++ s.enqueued }
  | .editRecord key spec =>
    { s with
      world := { s.world with records := edit s.world.records key spec }
      enqueued := ownerOf s.world.records key ++ s.enqueued }
  | .removeResource key =>
    { s with
      world := s.world.deleteResource key
      enqueued := ownerOf s.world.resources key ++ s.enqueued }
  | .removeRecord key =>
    { s with
      world := s.world.deleteRecord key
      enqueued := ownerOf s.world.records key ++ s.enqueued }
  | .pass key fault =>
    if key ∈ s.enqueued ∨ key ∈ s.pending then s.afterPass { env with fault := fault } key else s

/-- A cluster as the controller finds it when it starts: every Service is enqueued. -/
def State.start (w : World) : State := ⟨w, w.services.keys, []⟩

/-! ### What is asked for -/

/-- A pass in which no call fails would create, change or delete a child. -/
def WouldChange (env : Env) (key : ObjectKey) (w : World) : Prop :=
  let w' := (reconcile { env with fault := fun _ => none } key w).2
  (∃ k, w'.resources.lookup k ≠ w.resources.lookup k) ∨
    ∃ k, w'.records.lookup k ≠ w.records.lookup k

/-- Every Service a pass would do something for is enqueued or has a requeue pending. -/
def NoLostWakeUp (env : Env) (s : State) : Prop :=
  ∀ key, WouldChange env key s.world → key ∈ s.enqueued ∨ key ∈ s.pending

/-- The Service is not due: nothing is going to run a pass over it. -/
def Quiet (s : State) (key : ObjectKey) : Prop := key ∉ s.enqueued ∧ key ∉ s.pending

/-- A Namespace that is put in place decides about the Services of it that are not due as the one
before it did. -/
def Orderly (env : Env) (s : State) : Event → Prop
  | .putNamespace name ns =>
    ∀ key svc, key.ns = name → Quiet s key → s.world.services.lookup key = some svc →
      ∃ old, s.world.namespaces.lookup name = some old ∧
        advertised env.cfg svc ns = advertised env.cfg svc old
  | _ => True

/-! ### Idle Services -/

variable {env : Env} {w w' : World} {key : ObjectKey} {s : State}

/-- A pass over the Service has nothing to do: it is not there, is withdrawn and has no children, or
waits for an address. -/
def Idle (env : Env) (key : ObjectKey) (w : World) : Prop :=
  ∀ svc ns, w.services.lookup key = some svc → w.namespaces.lookup key.ns = some ns →
    (advertised env.cfg svc ns = false ∧ ¬ HasChild key w) ∨
      (advertised env.cfg svc ns = true ∧ lbIngressAddresses env.ipFamilyOf svc = [])

theorem prune_of_no_child (h : ¬ HasChild key w) (desired : List String) :
    Triple (fun w' => w' = w) (prune env key desired) (fun _ w' => w' = w) fun _ w' => w' = w := by
  have hres : labelled key w.resources = [] := by
    rw [List.eq_nil_iff_forall_not_mem]
    intro k hk
    obtain ⟨hns, c, hc, hlabel⟩ := mem_labelled.mp hk
    exact h (.inl ⟨k, c, hc, hns, hlabel⟩)
  have hrec : labelled key w.records = [] := by
    rw [List.eq_nil_iff_forall_not_mem]
    intro k hk
    obtain ⟨hns, c, hc, hlabel⟩ := mem_labelled.mp hk
    exact h (.inr ⟨k, c, hc, hns, hlabel⟩)
  refine Triple.bind (call_triple fun _ _ h => h) fun _ => ?_
  refine Triple.bind (Q := fun ks w' => w' = w ∧ ks = [])
    (fun w' hw => ⟨hw, by rw [hw]; exact hres⟩) fun ks => Triple.assume fun hks => ?_
  subst hks
  refine Triple.bind (Q := fun _ w' => w' = w) (fun _ h => h) fun _ => ?_
  refine Triple.bind (call_triple fun _ _ h => h) fun _ => ?_
  refine Triple.bind (Q := fun ks w' => w' = w ∧ ks = [])
    (fun w' hw => ⟨hw, by rw [hw]; exact hrec⟩) fun ks => Triple.assume fun hks => ?_
  subst hks
  exact fun _ h => h

/-- **A pass over an idle Service changes nothing**, whichever of its calls fail. -/
theorem reconcile_of_idle (h : Idle env key w) : (reconcile env key w).2 = w := by
  refine Triple.final (P := fun w' => w' = w) (G := fun w' => w' = w) ?_ rfl
  refine Triple.bind (call_triple fun _ _ h => h) fun _ => ?_
  refine Triple.bind (Q := fun found w' => w' = w ∧ found = w.services.lookup key)
    (fun w' hw => ⟨hw, by rw [hw]⟩) fun svc => Triple.assume fun hsvc => ?_
  cases svc with
  | none => exact fun _ h => h
  | some svc =>
    refine Triple.bind (call_triple fun _ _ h => h) fun _ => ?_
    refine Triple.bind (Q := fun found w' => w' = w ∧ found = w.namespaces.lookup key.ns)
      (fun w' hw => ⟨hw, by rw [hw]⟩) fun ns => Triple.assume fun hns => ?_
    cases ns with
    | none => exact fun _ h => h
    | some ns =>
      dsimp only
      rw [reconcileService]
      rcases h svc ns hsvc.symm hns.symm with ⟨hadv, hchild⟩ | ⟨hadv, hnone⟩
      · rw [hadv]
        exact Triple.bind (prune_of_no_child hchild []) fun _ _ h => h
      · rw [hadv, hnone]
        exact fun _ h => h

theorem not_wouldChange_of_idle (h : Idle env key w) : ¬ WouldChange env key w := by
  have hsame : (reconcile { env with fault := fun _ => none } key w).2 = w := reconcile_of_idle h
  simp [WouldChange, hsame]

theorem Idle.of_eq (h : Idle env key w) (hsvc : w'.services.lookup key = w.services.lookup key)
    (hns : w'.namespaces.lookup key.ns = w.namespaces.lookup key.ns)
    (hchild : HasChild key w' → HasChild key w) : Idle env key w' := by
  intro svc ns hsvc' hns'
  refine (h svc ns (hsvc ▸ hsvc') (hns ▸ hns')).imp_left ?_
  exact fun hadv => ⟨hadv.1, fun h => hadv.2 (hchild h)⟩

/-! ### What a pass does to others -/

/-- Nothing that carries the label of `other` is new. -/
structure NoNewChild (other : ObjectKey) (w w' : World) : Prop where
  services : w'.services = w.services
  namespaces : w'.namespaces = w.namespaces
  resources : ∀ k c, w'.resources.lookup k = some c → Labelled other k c →
    w.resources.lookup k = some c
  records : ∀ k c, w'.records.lookup k = some c → Labelled other k c →
    w.records.lookup k = some c

theorem NoNewChild.hasChild {other : ObjectKey} (h : NoNewChild other w w')
    (hchild : HasChild other w') : HasChild other w := by
  rcases hchild with ⟨k, c, hk, hc⟩ | ⟨k, c, hk, hc⟩
  · exact .inl ⟨k, c, h.resources k c hk hc, hc⟩
  · exact .inr ⟨k, c, h.records k c hk hc, hc⟩

/-- A child that is applied for one Service does not carry the label of another. -/
theorem lookup_of_insert {S : Type} {objects : Objects (Child S)} {plan : Plan} {f : IPFamily}
    {child c : Child S} {k other : ObjectKey} (hne : plan.key ≠ other)
    (hlabel : child.loadBalancer = some plan.key.name)
    (hk : (objects.insert (plan.childKey f) child).lookup k = some c) (hc : Labelled other k c) :
    objects.lookup k = some c := by
  rw [lookup_insert_eq] at hk
  split at hk
  · next heq =>
    obtain rfl := Option.some.inj hk
    have hns : plan.key.ns = other.ns := by rw [← hc.1, ← heq]; rfl
    have hname : plan.key.name = other.name := Option.some.inj (hlabel.symm.trans hc.2)
    refine absurd ?_ hne
    cases hplan : plan.key
    cases other
    simp_all
  · exact hk

theorem lookup_of_erase {S : Type} {objects : Objects (Child S)} {c : Child S} {k k' : ObjectKey}
    (hk : (objects.erase k').lookup k = some c) : objects.lookup k = some c := by
  rw [lookup_erase_eq] at hk
  split at hk
  · cases hk
  · exact hk

theorem closed_noNewChild {other : ObjectKey} (hne : key ≠ other) (w : World) :
    Closed key (NoNewChild other w) where
  zones _ _ h := ⟨h.services, h.namespaces, h.resources, h.records⟩
  resource _ _ _ hplan h :=
    ⟨h.services, h.namespaces,
      fun k c hk hc => h.resources k c (lookup_of_insert (hplan ▸ hne) rfl hk hc) hc, h.records⟩
  record _ _ _ _ hplan h :=
    ⟨h.services, h.namespaces, h.resources,
      fun k c hk hc => h.records k c (lookup_of_insert (hplan ▸ hne) rfl hk hc) hc⟩
  deleteResource _ _ h :=
    ⟨h.services, h.namespaces, fun k c hk hc => h.resources k c (lookup_of_erase hk) hc, h.records⟩
  deleteRecord _ _ h :=
    ⟨h.services, h.namespaces, h.resources, fun k c hk hc => h.records k c (lookup_of_erase hk) hc⟩

/-- A pass over one Service leaves the others idle. -/
theorem idle_of_pass_other {other : ObjectKey} (hne : key ≠ other) (h : Idle env other w)
    (fault : Call → Option Fault) :
    Idle env other (reconcile { env with fault := fault } key w).2 := by
  have hnew : NoNewChild other w (reconcile { env with fault := fault } key w).2 :=
    (reconcile_keeps (closed_noNewChild hne w)).final
      ⟨rfl, rfl, fun _ _ hk _ => hk, fun _ _ hk _ => hk⟩
  exact h.of_eq (by rw [hnew.services]) (by rw [hnew.namespaces]) hnew.hasChild

/-- Nothing a pass does changes the Services and the Namespaces. -/
theorem reconcile_frame (env : Env) (key : ObjectKey) (w : World) :
    (reconcile env key w).2.services = w.services ∧
      (reconcile env key w).2.namespaces = w.namespaces := by
  refine Triple.final (P := fun v : World => v.services = w.services ∧ v.namespaces = w.namespaces)
    (G := fun v : World => v.services = w.services ∧ v.namespaces = w.namespaces)
    (reconcile_keeps ⟨?_, ?_, ?_, ?_, ?_⟩) ⟨rfl, rfl⟩
  · exact fun _ _ h => h
  · exact fun _ _ _ _ h => h
  · exact fun _ _ _ _ _ h => h
  · exact fun _ _ h => h
  · exact fun _ _ h => h

/-- **A pass that does not ask to be repeated leaves its Service idle.** -/
theorem idle_of_pass (fault : Call → Option Fault)
    (hasks : asksAgain (reconcile { env with fault := fault } key w).1 = false) :
    Idle env key (reconcile { env with fault := fault } key w).2 := by
  obtain ⟨hservices, hnamespaces⟩ := reconcile_frame { env with fault := fault } key w
  intro svc ns hsvc hns
  rw [hservices] at hsvc
  rw [hnamespaces] at hns
  rcases hrun : reconcile { env with fault := fault } key w with ⟨r, w'⟩
  rw [hrun] at hasks
  cases r with
  | error e => cases hasks
  | ok result =>
    cases (reconcile_outcome hsvc hns).ok rfl hrun with
    | withdrawn hadv hpruned =>
      refine .inl ⟨hadv, ?_⟩
      obtain ⟨hres, hrec⟩ := settled_of_withdrawn hpruned
      rintro (⟨k, c, hk, hc⟩ | ⟨k, c, hk, hc⟩)
      · obtain ⟨f, hf, -⟩ := hres.eq_of_labelled hk hc
        cases hf
      · obtain ⟨f, hf, -⟩ := hrec.eq_of_labelled hk hc
        cases hf
    | waiting hadv hnone => exact .inr ⟨hadv, hnone⟩
    | dependency => cases hasks
    | fannedOut => cases hasks

/-! ### Runs -/

/-- The Services that are not due are idle. -/
def Invariant (env : Env) (s : State) : Prop := ∀ key, Quiet s key → Idle env key s.world

theorem noLostWakeUp_of_invariant (h : Invariant env s) : NoLostWakeUp env s := by
  intro key hchange
  by_contra hnot
  exact not_wouldChange_of_idle (h key (not_or.mp hnot)) hchange

section

variable {S : Type} {objects : Objects (Child S)} {k k' : ObjectKey} {spec : S} {c : Child S}

theorem lookup_edit (h : (edit objects k spec).lookup k' = some c) :
    ∃ c', objects.lookup k' = some c' ∧ c'.loadBalancer = c.loadBalancer := by
  unfold edit at h
  split at h
  · exact ⟨c, h, rfl⟩
  · next c' hc' =>
    rw [lookup_insert_eq] at h
    split at h
    · next heq =>
      obtain rfl := Option.some.inj h
      exact ⟨c', heq ▸ hc', rfl⟩
    · exact ⟨c, h, rfl⟩

/-- An edit leaves the labels. -/
theorem labelled_of_edit
    (h : ∃ k' c, (edit objects k spec).lookup k' = some c ∧ Labelled key k' c) :
    ∃ k' c, objects.lookup k' = some c ∧ Labelled key k' c := by
  obtain ⟨k', c, hk', hc⟩ := h
  obtain ⟨c', hc', hlabel⟩ := lookup_edit hk'
  exact ⟨k', c', hc', hc.1, hlabel.trans hc.2⟩

theorem labelled_of_erase
    (h : ∃ k' c, (objects.erase k).lookup k' = some c ∧ Labelled key k' c) :
    ∃ k' c, objects.lookup k' = some c ∧ Labelled key k' c := by
  obtain ⟨k', c, hk', hc⟩ := h
  exact ⟨k', c, lookup_of_erase hk', hc⟩

end

/-- An event that only adds to the queue and leaves every Service that is not due as it is. -/
theorem invariant_of_grown {s' : State} (h : Invariant env s)
    (henq : ∀ k ∈ s.enqueued, k ∈ s'.enqueued) (hpend : s'.pending = s.pending)
    (hidle : ∀ k, Quiet s' k → Idle env k s.world → Idle env k s'.world) : Invariant env s' := by
  intro key hquiet
  refine hidle key hquiet (h key ⟨fun hmem => hquiet.1 (henq key hmem), ?_⟩)
  rw [← hpend]
  exact hquiet.2

theorem invariant_afterPass (h : Invariant env s) (key : ObjectKey) (fault : Call → Option Fault) :
    Invariant env (s.afterPass { env with fault := fault } key) := by
  intro other hquiet
  by_cases hne : key = other
  · subst hne
    refine idle_of_pass fault ?_
    -- It would be pending had the pass asked for more.
    by_contra hasks
    refine hquiet.2 (List.mem_append_right _ ?_)
    rw [if_pos (by simpa using hasks)]
    exact List.mem_singleton_self _
  · refine idle_of_pass_other hne (h other ⟨fun hmem => hquiet.1 ?_, fun hmem => hquiet.2 ?_⟩) fault
    · exact List.mem_append_left _ (List.mem_filter.mpr ⟨hmem, by simpa using Ne.symm hne⟩)
    · exact List.mem_append_left _ (List.mem_filter.mpr ⟨hmem, by simpa using Ne.symm hne⟩)

/-- **One event** keeps the Services that are not due idle. -/
theorem invariant_step (h : Invariant env s) (e : Event) (he : Orderly env s e) :
    Invariant env (step env s e) := by
  cases e with
  | putService key svc =>
    refine invariant_of_grown h (fun k hk => List.mem_cons_of_mem _ hk) rfl ?_
    intro k hquiet hidle
    have hne : key ≠ k := fun heq => hquiet.1 (heq ▸ List.mem_cons_self)
    exact hidle.of_eq (AList.lookup_insert_ne (Ne.symm hne)) rfl id
  | removeService key =>
    refine invariant_of_grown h (fun k hk => List.mem_cons_of_mem _ hk) rfl ?_
    intro k hquiet hidle
    have hne : key ≠ k := fun heq => hquiet.1 (heq ▸ List.mem_cons_self)
    exact hidle.of_eq (AList.lookup_erase_ne (Ne.symm hne)) rfl id
  | putNamespace name ns =>
    refine invariant_of_grown h (fun k hk => hk) rfl ?_
    intro k hquiet hidle
    by_cases hname : k.ns = name
    · intro svc new hsvc hnew
      obtain rfl : ns = new := by
        rw [show (step env s (.putNamespace name ns)).world.namespaces =
          s.world.namespaces.insert name ns from rfl, hname, AList.lookup_insert] at hnew
        exact Option.some.inj hnew
      obtain ⟨old, hold, hadv⟩ := he k svc hname hquiet hsvc
      rw [hadv]
      exact hidle svc old hsvc (hname ▸ hold)
    · exact hidle.of_eq rfl (AList.lookup_insert_ne hname) id
  | removeNamespace name =>
    refine invariant_of_grown h (fun k hk => hk) rfl ?_
    intro k hquiet hidle
    by_cases hname : k.ns = name
    · intro svc ns _ hns
      rw [show (step env s (.removeNamespace name)).world.namespaces =
        s.world.namespaces.erase name from rfl, hname, AList.lookup_erase] at hns
      cases hns
    · exact hidle.of_eq rfl (AList.lookup_erase_ne hname) id
  | setNetworks networks =>
    exact invariant_of_grown h (fun k hk => hk) rfl fun k _ hidle => hidle.of_eq rfl rfl id
  | editResource key spec =>
    refine invariant_of_grown h (fun k hk => List.mem_append_right _ hk) rfl ?_
    exact fun k _ hidle => hidle.of_eq rfl rfl (Or.imp_left labelled_of_edit)
  | editRecord key spec =>
    refine invariant_of_grown h (fun k hk => List.mem_append_right _ hk) rfl ?_
    exact fun k _ hidle => hidle.of_eq rfl rfl (Or.imp_right labelled_of_edit)
  | removeResource key =>
    refine invariant_of_grown h (fun k hk => List.mem_append_right _ hk) rfl ?_
    exact fun k _ hidle => hidle.of_eq rfl rfl (Or.imp_left labelled_of_erase)
  | removeRecord key =>
    refine invariant_of_grown h (fun k hk => List.mem_append_right _ hk) rfl ?_
    exact fun k _ hidle => hidle.of_eq rfl rfl (Or.imp_right labelled_of_erase)
  | pass key fault =>
    simp only [step]
    split
    · exact invariant_afterPass h key fault
    · exact h

theorem invariant_start (env : Env) (w : World) : Invariant env (State.start w) := by
  intro key hquiet svc ns hsvc _
  refine absurd ?_ hquiet.1
  exact AList.lookup_isSome.mp (by rw [show w.services.lookup key = _ from hsvc]; rfl)

/-- **No wake-up is lost**, from any cluster the controller starts in, while every Namespace that is
put in place decides about the Services that are not due as the one before it did. -/
theorem wake_ups_kept (env : Env) (w : World) (es : List Event)
    (h : Along es fun pre e => Orderly env (run (step env) (State.start w) pre) e) :
    ∀ pre post, es = pre ++ post → NoLostWakeUp env (run (step env) (State.start w) pre) := by
  rintro pre post rfl
  refine noLostWakeUp_of_invariant ?_
  exact run_invariant (C := Orderly env) (I := Invariant env) h.left (invariant_start env w)
    fun s e hs he => invariant_step hs e he

/-- A Service with an address, in a Namespace that has opted out. -/
def optedOut : World := sampleWorld (sampleService ["192.0.2.10"]) { advertise := some "false" }

/-- No call fails. -/
def calm : Call → Option Fault := fun _ => none

/-- The pass, and then a Namespace with these annotations. -/
def annotate (ns : Annotations) : List Event := [.pass sampleKey calm, .putNamespace "shop" ns]

/-- A change of the groups annotation leaves the decision alone. -/
theorem wake_ups_kept_groups :
    NoLostWakeUp sampleEnv (run (step sampleEnv) (State.start optedOut)
      (annotate { advertise := some "false", groups := some "All" })) := by
  refine wake_ups_kept sampleEnv optedOut _ ?_ _ [] (List.append_nil _).symm
  refine along_cons.mpr ⟨trivial, along_cons.mpr ⟨?_, along_nil⟩⟩
  intro key svc _ _ _
  exact ⟨{ advertise := some "false" }, by decide +kernel, rfl⟩

/-- **A Namespace that opts in is not noticed.** After the pass that found the Service opted out it
is not due, and it stays so when the Namespace changes; yet a pass would create its children. -/
theorem opt_in_not_noticed :
    ¬ NoLostWakeUp sampleEnv (run (step sampleEnv) (State.start optedOut)
      (annotate { advertise := some "true" })) := by
  intro h
  have hchange : WouldChange sampleEnv sampleKey (run (step sampleEnv) (State.start optedOut)
      (annotate { advertise := some "true" })).world :=
    .inl ⟨childKeyOf sampleKey .ipv4, by decide +kernel⟩
  exact absurd (h sampleKey hchange) (by decide +kernel)

end LoadBalancer

end NetbirdOperator
