import NetbirdOperator.ReverseProxyCluster.Sharing
import NetbirdOperator.ReverseProxyCluster.Status

/-!
# What `Ready` says of a custom domain

Several ReverseProxyCluster objects may declare one domain, and the account has at most one
registration for it. An object that is `Ready` for its generation was told by its last pass that the
registration is its own. Is it so, with all the other objects at work on the same account?

It is, in every interleaving of passes, wherever they fail: the registration on record is there, it
is one of the object's domain, and it targets the object's cluster or none. So two objects with
different addresses are never both ready for one domain, unless another client made a registration
without a target, which `ensureDomain` takes for anybody's.

Three things have to work together for this. A pass repairs a registration only if no live object
owns its target. A deletion leaves a registration that a live object declares. And a pass over the
object itself, which may write its old `Ready` back several times before it gets to the domain,
finds the registration as it left it.

The cluster is another matter. It is looked up in a list that may be half a minute old, and nothing
here is said about it.

## Main results

* `ReverseProxyCluster.ensureDomain_at` — what `ensureDomain` returns
* `ReverseProxyCluster.ready_registered` — what `Ready` says is so
-/

namespace NetbirdOperator

open ControlLoop

namespace ReverseProxyCluster

open Pass

variable {env : Env} {uid : ℕ} {rpc r : CR} {w : World} {D : Store Registration}

/-! ### Registrations -/

/-- The object is reported ready for the specification it has. -/
structure ReadyNow (o : CR) : Prop where
  live : o.deleting = false
  ready : o.status.ready = some markTrue
  observed : o.status.observedGeneration = o.generation

instance (o : CR) : Decidable (ReadyNow o) :=
  decidable_of_iff (o.deleting = false ∧ o.status.ready = some markTrue ∧
    o.status.observedGeneration = o.generation)
    ⟨fun h => ⟨h.1, h.2.1, h.2.2⟩, fun h => ⟨h.live, h.ready, h.observed⟩⟩

/-- The registration is one of the domain, and targets the cluster or none. -/
structure Serves (spec : Spec) (d : Registration) : Prop where
  domain : d.domain = spec.domain
  target : d.target = "" ∨ d.target = spec.clusterAddress

/-- What the object says of the registrations is true of `D`, and it is not ahead of itself. -/
structure Honest (D : Store Registration) (o : CR) : Prop where
  registered : ReadyNow o → ∃ d ∈ D, o.status.domainID = some d.id ∧ Serves o.spec d.val
  observed : o.status.observedGeneration ≤ o.generation

theorem serves_wanted (rpc : CR) : Serves rpc.spec (wanted rpc) := ⟨rfl, .inr rfl⟩

/-- What a pass has on record about the domain. -/
structure Carries (rpc r : CR) : Prop where
  spec : r.spec = rpc.spec
  generation : r.generation = rpc.generation
  deleting : r.deleting = rpc.deleting
  ready : r.status.ready = rpc.status.ready
  observed : r.status.observedGeneration = rpc.status.observedGeneration
  domainID : r.status.domainID = rpc.status.domainID

theorem Carries.honest (h : Carries rpc r) (hrpc : Honest D rpc) : Honest D r := by
  refine ⟨fun hready => ?_, ?_⟩
  · rw [h.domainID, h.spec]
    refine hrpc.registered ⟨h.deleting ▸ hready.live, h.ready ▸ hready.ready, ?_⟩
    rw [← h.observed, ← h.generation]
    exact hready.observed
  · rw [h.observed, h.generation]
    exact hrpc.observed

/-- More registrations make nobody a liar. -/
theorem Honest.mono {D' : Store Registration} {o : CR} (h : Honest D o) (hD : ∀ d ∈ D, d ∈ D') :
    Honest D' o := by
  refine ⟨fun hready => ?_, h.observed⟩
  obtain ⟨d, hd, hid, hserves⟩ := h.registered hready
  exact ⟨d, hD d hd, hid, hserves⟩

/-- Without the registration of its domain that does not serve it, an object is as honest. -/
theorem Honest.delete {o : CR} {d : Entry Registration} (h : Honest D o) (hone : OnePerDomain D)
    (hd : d ∈ D) (hdomain : d.val.domain = o.spec.domain) (hother : ¬ Serves o.spec d.val) :
    Honest (D.delete d.id) o := by
  refine ⟨fun hready => ?_, h.observed⟩
  obtain ⟨e, he, -, hserves⟩ := h.registered hready
  rw [hone e he d hd (hserves.domain.trans hdomain.symm)] at hserves
  exact absurd hserves hother

theorem honest_of_not_ready {o : CR} {msg : String} (hready : o.status.ready = some (markFalse msg))
    (hobserved : o.status.observedGeneration ≤ o.generation) : Honest D o :=
  ⟨fun h => absurd (hready.symm.trans h.ready) (by simp [markTrue, markFalse]), hobserved⟩

/-! ### Moments of a live pass -/

/-- The registrations are `D`, and the object is as the user has it and honest about them. -/
def At (uid : ℕ) (rpc : CR) (D : Store Registration) (w : World) : Prop :=
  w.domains = D ∧ Own uid (fun o => o.spec = rpc.spec ∧ Honest D o) w

/-- So it is, for some registrations. -/
def Somewhere (uid : ℕ) (rpc : CR) (w : World) : Prop := ∃ D, At uid rpc D w

theorem call_at (c : Call) :
    Triple (At uid rpc D) (call env c) (fun _ => At uid rpc D) fun _ => Somewhere uid rpc :=
  call_triple fun _ _ h => ⟨D, h⟩

theorem patch_at (r : CR) (hlive : r.deleting = false) (hspec : r.spec = rpc.spec)
    (hr : Honest D r) (c : Call) :
    Triple (At uid rpc D) (patch env c uid r) (fun _ => At uid rpc D)
      fun _ => Somewhere uid rpc := by
  refine Triple.bind (call_at c) fun _ => ?_
  rintro w' ⟨hD, o, ho, -⟩
  refine ⟨hD, r, ?_, hspec, hr⟩
  show (w'.rpcs.put uid r).get uid = some r
  rw [Store.put_of_live hlive]
  exact Store.get_update_self ho r

theorem lookup_at (list refresh : Call) (address : String) :
    Triple (At uid rpc D) (getProxyClusterByAddress env list refresh address)
      (fun _ => At uid rpc D) fun _ => Somewhere uid rpc := by
  refine (Triple.of_final (G := At uid rpc D) fun _ h => h).conseq (fun _ h => h) (fun _ _ h => h)
    fun _ _ h => ⟨D, h⟩

theorem createDomain_at (hr : r.spec = rpc.spec) :
    Triple (At uid rpc D) (createDomain env (wanted r))
      (fun id w' => ∃ D', At uid rpc D' w' ∧ ∃ d ∈ D', d.id = id ∧ Serves rpc.spec d.val)
      fun _ => Somewhere uid rpc := by
  refine Triple.bind (call_at _) fun _ => ?_
  rintro w' ⟨rfl, o, ho, hspec, hhonest⟩
  refine ⟨w'.domains.create (wanted r), ⟨rfl, o, ho, hspec, ?_⟩, ?_⟩
  · exact hhonest.mono fun d hd => Store.mem_create.mpr (.inl hd)
  · exact ⟨⟨w'.domains.next, wanted r⟩, Store.mem_create.mpr (.inr rfl), rfl, hr ▸ serves_wanted r⟩

/-- **`ensureDomain` returns a registration that serves the object**, and takes none away that the
object would have said it has. -/
theorem ensureDomain_at (hone : OnePerDomain D) (hr : r.spec = rpc.spec) :
    Triple (At uid rpc D) (ensureDomain env uid r)
      (fun id w' => ∃ D', At uid rpc D' w' ∧ ∃ d ∈ D', d.id = id ∧ Serves rpc.spec d.val)
      fun _ => Somewhere uid rpc := by
  rw [ensureDomain]
  refine Triple.bind (call_at _) fun _ => ?_
  refine Triple.bind (Q := fun found w' => At uid rpc D w' ∧
    found = D.first fun d => d.domain == r.spec.domain) ?_ fun found => ?_
  · rintro w' ⟨rfl, hown⟩
    exact ⟨⟨rfl, hown⟩, rfl⟩
  refine Triple.assume fun hfound => ?_
  cases found with
  | none => exact createDomain_at hr
  | some d =>
    have hmem : d ∈ D := Store.mem_of_first hfound.symm
    have hdomain : d.val.domain = rpc.spec.domain := by
      rw [← hr]
      simpa using Store.prop_of_first hfound.symm
    dsimp only
    split
    · next htarget =>
      exact fun _ h => ⟨D, h, d, hmem, rfl, hdomain, hr ▸ htarget⟩
    · next htarget =>
      refine Triple.bind (Q := fun _ => At uid rpc D) (Triple.bind (call_at _) fun _ _ h => h)
        fun owned => ?_
      cases owned with
      | true => exact fun _ h => ⟨D, h⟩
      | false =>
        refine Triple.bind (lookup_at _ _ _) fun existing => ?_
        cases existing with
        | some c => exact fun _ h => ⟨D, h⟩
        | none =>
          refine Triple.bind (Q := fun _ => At uid rpc (D.delete d.id)) ?_
            fun _ => createDomain_at hr
          refine Triple.bind (call_at _) fun _ => ?_
          rintro w' ⟨rfl, o, ho, hspec, hhonest⟩
          refine ⟨rfl, o, ho, hspec, hhonest.delete hone hmem (hspec ▸ hdomain) fun hserves => ?_⟩
          rw [hr, ← hspec] at htarget
          exact htarget hserves.target

section Live

variable (hlive : rpc.deleting = false) (hrpc : Honest D rpc)

include hlive hrpc

theorem notReady_at (hr : Carries rpc r) (msg : String) {D' : Store Registration} :
    Triple (At uid rpc D') (notReady env uid r msg) (fun _ => Somewhere uid rpc)
      fun _ => Somewhere uid rpc := by
  have hobserved : r.status.observedGeneration ≤ r.generation := by
    rw [hr.observed, hr.generation]
    exact hrpc.observed
  refine Triple.bind (patch_at _ ?_ ?_ ?_ _) fun _ _ h => ⟨D', h⟩
  · exact hr.deleting.trans hlive
  · exact hr.spec
  · exact honest_of_not_ready rfl hobserved

/-- Once the id is in memory, every further write tells the truth. -/
theorem recordDomain_at (hr : Carries rpc r) {D' : Store Registration} {d : Entry Registration}
    (hd : d ∈ D') (hserves : Serves rpc.spec d.val) :
    Triple (At uid rpc D') (recordDomain env uid r d.id) (fun _ => Somewhere uid rpc)
      fun _ => Somewhere uid rpc := by
  have hobserved : r.status.observedGeneration ≤ r.generation := by
    rw [hr.observed, hr.generation]
    exact hrpc.observed
  -- Whatever it says of `Ready`, it has the id of a registration that serves it.
  have hvalidate : ∀ r' : CR, r'.deleting = false → r'.spec = rpc.spec →
      r'.status.domainID = some d.id → r'.status.observedGeneration ≤ r'.generation →
      Triple (At uid rpc D') (validateDomain env uid r') (fun _ => Somewhere uid rpc)
        fun _ => Somewhere uid rpc := by
    intro r' hdel hspec hid hobs
    rw [validateDomain]
    cases env.validate with
    | some msg =>
      refine Triple.bind (patch_at _ ?_ ?_ ?_ _) fun _ _ h => ⟨D', h⟩
      · exact hdel
      · exact hspec
      · exact honest_of_not_ready rfl hobs
    | none =>
      refine Triple.bind (patch_at _ ?_ ?_ ?_ _) fun _ _ h => ⟨D', h⟩
      · exact hdel
      · exact hspec
      · exact ⟨fun _ => ⟨d, hd, hid, hspec ▸ hserves⟩, Int.le_refl _⟩
  have hdel : r.deleting = false := hr.deleting.trans hlive
  rw [recordDomain, patchDomainID]
  split
  · next hid => exact hvalidate r hdel hr.spec hid hobserved
  · rw [Pass.bind_assoc]
    refine Triple.bind (patch_at _ ?_ ?_ ?_ _) fun _ => ?_
    · exact hdel
    · exact hr.spec
    · exact ⟨fun _ => ⟨d, hd, rfl, hr.spec ▸ hserves⟩, hobserved⟩
    · exact hvalidate { r with status := { r.status with domainID := some d.id } } hdel hr.spec rfl
        hobserved

theorem registerDomain_at (hone : OnePerDomain D) (hr : Carries rpc r) :
    Triple (At uid rpc D) (registerDomain env uid r) (fun _ => Somewhere uid rpc)
      fun _ => Somewhere uid rpc := by
  refine Triple.bind (Q := fun outcome w' => match outcome with
    | .ok id => ∃ D', At uid rpc D' w' ∧ ∃ d ∈ D', d.id = id ∧ Serves rpc.spec d.val
    | .error _ => Somewhere uid rpc w') (Triple.observe (ensureDomain_at hone hr.spec))
    fun outcome => ?_
  cases outcome with
  | ok id =>
    rintro w' ⟨D', hat, d, hd, rfl, hserves⟩
    exact recordDomain_at hlive hrpc hr hd hserves w' hat
  | error e =>
    cases e with
    | api c f => exact fun _ h => h
    | dependencyNotReady msg =>
      rintro w' ⟨D', hat⟩
      exact notReady_at hlive hrpc hr msg w' hat

theorem awaitAddress_at (hone : OnePerDomain D) (hr : Carries rpc r) :
    Triple (At uid rpc D) (awaitAddress env uid r) (fun _ => Somewhere uid rpc)
      fun _ => Somewhere uid rpc := by
  rw [awaitAddress]
  cases serviceAddresses env.ingress with
  | nil => exact notReady_at hlive hrpc (r := offline r) { hr with } _
  | cons fa rest =>
    refine Triple.bind (call_at _) fun _ => Triple.bind (lookup_at _ _ _) fun found => ?_
    have hr' : Carries rpc { r with status := { r.status with loadBalancerIP := fa.address } } :=
      { hr with }
    cases found with
    | none =>
      have hoff : Carries rpc (offline { r with status :=
          { r.status with loadBalancerIP := fa.address } }) := { hr' with }
      exact notReady_at hlive hrpc hoff _
    | some c =>
      have hin : Carries rpc (enrolled { r with status :=
          { r.status with loadBalancerIP := fa.address } } c) := { hr' with }
      exact registerDomain_at hlive hrpc hone hin

theorem mintToken_at (hr : Carries rpc r) :
    Triple (At uid rpc D) (mintToken env uid r)
      (fun r' w' => At uid rpc D w' ∧ Carries rpc r') fun _ => Somewhere uid rpc := by
  rw [mintToken]
  cases r.status.tokenID with
  | some _ => exact fun _ h => ⟨h, hr⟩
  | none =>
    refine Triple.bind (call_at _) fun _ => ?_
    refine Triple.bind (Q := fun _ => At uid rpc D) (fun _ h => h) fun id => ?_
    refine Triple.bind (Q := fun _ => At uid rpc D) (fun _ h => h) fun _ => ?_
    refine Triple.bind (call_at _) fun _ => ?_
    refine Triple.bind (Q := fun _ => At uid rpc D) (fun _ h => h) fun _ => ?_
    have hr' : Carries rpc { r with status := { r.status with tokenID := some id } } := { hr with }
    exact Triple.bind (patch_at _ (hr'.deleting.trans hlive) hr'.spec (hr'.honest hrpc) _)
      fun _ _ h => ⟨h, hr'⟩

end Live

/-- **A live pass leaves its own object honest.** -/
theorem reconcileLive_honest (env : Env) (hlive : rpc.deleting = false)
    (hone : OnePerDomain w.domains) (hrpc : Honest w.domains rpc)
    (hget : w.rpcs.get uid = some rpc) :
    ∃ o, (reconcileLive env uid rpc w).2.rpcs.get uid = some o ∧
      Honest (reconcileLive env uid rpc w).2.domains o := by
  have hfin : Carries rpc { rpc with finalizer := true } := ⟨rfl, rfl, rfl, rfl, rfl, rfl⟩
  have hpass : Triple (At uid rpc w.domains) (reconcileLive env uid rpc)
      (fun _ => Somewhere uid rpc) fun _ => Somewhere uid rpc := by
    refine Triple.bind (patch_at { rpc with finalizer := true } hlive rfl (hfin.honest hrpc) _)
      fun _ => ?_
    have hmint : Triple (At uid rpc w.domains) (mintToken env uid { rpc with finalizer := true })
        (fun r w' => At uid rpc w.domains w' ∧ Carries rpc r) fun _ => Somewhere uid rpc :=
      mintToken_at hlive hrpc hfin
    refine Triple.bind hmint fun r => Triple.assume fun hr => ?_
    refine Triple.bind (Q := fun _ => At uid rpc w.domains) ?_ fun _ =>
      awaitAddress_at hlive hrpc hone hr
    refine Triple.bind (Q := fun _ => At uid rpc w.domains) ?_ fun _ =>
      Triple.bind (call_at _) fun _ => call_at _
    rw [ensureZone]
    cases r.spec.zoneRef with
    | some _ => exact fun _ h => h
    | none => exact call_at _
  obtain ⟨D, hD, o, ho, -, hhonest⟩ := hpass.final ⟨rfl, rpc, hget, rfl, hrpc⟩
  exact ⟨o, ho, hD ▸ hhonest⟩

/-! ### All objects of an account -/

/-- There is one registration for each domain, and every object is honest about them. -/
structure AllHonest (w : World) : Prop where
  one : OnePerDomain w.domains
  honest : ∀ o ∈ w.rpcs, Honest w.domains o.val

/-- Other clients delete no registration that a live object has on record. -/
def Spares (w : World) : Event → Prop
  | .foreignDelete id => ∀ o ∈ w.rpcs, o.val.live = true → o.val.status.domainID ≠ some id
  | _ => True

instance (w : World) : (ev : Event) → Decidable (Spares w ev)
  | .foreignDelete id => inferInstanceAs
      (Decidable (∀ o ∈ w.rpcs.entries, o.val.live = true → o.val.status.domainID ≠ some id))
  | .reconcile _ _ | .user _ | .enroll _ | .unenroll _ | .foreignCreate _ => .isTrue trivial

theorem ReadyNow.isLive {o : CR} (h : ReadyNow o) : o.live = true := by
  rw [Object.live, h.live]
  rfl

/-- An object stays honest if the registrations that serve it and that it has on record stay. -/
theorem Honest.of_kept {o : CR} {D' : Store Registration} (h : Honest D o)
    (hkept : ReadyNow o → ∀ d ∈ D, o.status.domainID = some d.id → Serves o.spec d.val → d ∈ D') :
    Honest D' o := by
  refine ⟨fun hready => ?_, h.observed⟩
  obtain ⟨d, hd, hid, hserves⟩ := h.registered hready
  exact ⟨d, hkept hready d hd hid hserves, hid, hserves⟩

/-- **A live pass takes nothing from the other objects.** What it repairs, none of them owns. -/
theorem AllHonest.reconcileLive (h : AllHonest w) (hlive : rpc.deleting = false)
    (hget : w.rpcs.get uid = some rpc) : AllHonest (reconcileLive env uid rpc w).2 := by
  have heffect := reconcileLive_effect env hlive hget
  obtain ⟨own, hown, hhonest⟩ := reconcileLive_honest env hlive h.one
    (h.honest _ (Store.get_eq_some.mp hget)) hget
  refine ⟨heffect.account.onePerDomain h.one, fun o ho => ?_⟩
  by_cases hid : o.id = uid
  · rw [Store.val_eq_of_get hown ho hid]
    exact hhonest
  · have ho' : o ∈ w.rpcs := (Store.mem_iff_of_delete_eq heffect.others hid).mp ho
    refine (h.honest o ho').of_kept fun hready d hd _ hserves => ?_
    by_contra hlost
    have hstale := heffect.account.stale_of_lost hd hlost
    have hother := ownsCluster_eq_false.mp (hstale.unowned o ho' hid hready.isLive)
    exact hserves.target.elim hstale.target_ne_empty fun htarget => hother.1 htarget.symm

/-- **Nor does a deletion.** What it drops, none of them declares. -/
theorem AllHonest.reconcileDelete (h : AllHonest w) (hdel : rpc.deleting = true)
    (hget : w.rpcs.get uid = some rpc) : AllHonest (reconcileDelete env uid rpc w).2 := by
  have heffect := (reconcileDelete_effect env uid rpc w).1
  generalize (ReverseProxyCluster.reconcileDelete env uid rpc w).2 = w' at heffect ⊢
  have hrpcs : ∀ o ∈ w'.rpcs, o ∈ w.rpcs := by
    cases heffect with
    | finished =>
      rw [rpcs_finished hdel]
      exact fun o ho => (Store.mem_delete.mp ho).1
    | _ => exact fun o ho => ho
  have hdomains : ∀ d ∈ w'.domains, d ∈ w.domains := by
    have hleft : ∀ d ∈ domainsLeft uid rpc w.rpcs w.domains, d ∈ w.domains :=
      fun d hd => (mem_domainsLeft.mp hd).1
    cases heffect with
    | nothing => exact fun d hd => hd
    | revoked => exact fun d hd => hd
    | dropped => exact hleft
    | cleared => exact hleft
    | finished => exact hleft
  refine ⟨fun d hd e he => h.one d (hdomains d hd) e (hdomains e he), fun o ho => ?_⟩
  refine (h.honest o (hrpcs o ho)).of_kept fun hready d hd _ hserves => ?_
  have hid : o.id ≠ uid := by
    rintro rfl
    rw [Store.val_eq_of_get hget (hrpcs o ho) rfl] at hready
    exact absurd (hdel.symm.trans hready.live) (by simp)
  by_contra hlost
  have hunshared := heffect.unshared_of_lost hd hlost (hrpcs o ho) hid hready.isLive
  rw [sharesDomain_eq_true.mpr (.inl hserves.domain.symm)] at hunshared
  exact absurd hunshared (by simp)

/-- A user's change makes a new object, or one that is not ready for what it has become. -/
theorem AllHonest.user (h : AllHonest w) (ev : UserEvent Spec) :
    AllHonest { w with rpcs := w.rpcs.submit {} ev } := by
  refine ⟨h.one, fun o ho => ?_⟩
  change o ∈ w.rpcs.submit {} ev at ho
  rcases w.rpcs.submit_cases {} ev with hs | ⟨ns, name, spec, -, hs⟩ | ⟨f, hf, spec, -, hs⟩ |
    ⟨f, hf, -, -, hs⟩ | ⟨f, hf, -, -, hs⟩ <;> rw [hs] at ho
  · exact h.honest o ho
  · rcases Store.mem_create.mp ho with ho | rfl
    · exact h.honest o ho
    · exact ⟨fun hready => absurd hready.ready (by simp),
        (by decide : (-1 : ℤ) ≤ ((1 : ℕ) : ℤ))⟩
  · rcases Store.mem_update.mp ho with ⟨ho, -⟩ | ⟨rfl, -⟩
    · exact h.honest o ho
    · have hobserved := (h.honest f hf).observed
      refine ⟨fun hready => ?_, ?_⟩
      · have hahead : f.val.status.observedGeneration = ((f.val.generation + 1 : ℕ) : ℤ) :=
          hready.observed
        omega
      · show f.val.status.observedGeneration ≤ ((f.val.generation + 1 : ℕ) : ℤ)
        omega
  · rcases Store.mem_update.mp ho with ⟨ho, -⟩ | ⟨rfl, -⟩
    · exact h.honest o ho
    · exact ⟨fun hready => absurd hready.live (by simp), (h.honest f hf).observed⟩
  · exact h.honest o (Store.mem_delete.mp ho).1

/-- **Step.** -/
theorem AllHonest.step (h : AllHonest w) (ev : Event) (hev : Spares w ev) :
    AllHonest (step w ev) := by
  cases ev with
  | reconcile uid env =>
    rcases reconcile_cases env uid w with ⟨-, hs⟩ | ⟨rpc, hget, ⟨hdel, hs⟩ | ⟨hlive, hs⟩⟩
    · rw [hs]
      exact h
    · rw [hs]
      exact h.reconcileDelete hdel hget
    · rw [hs]
      exact h.reconcileLive hlive hget
  | user ev => exact h.user ev
  | enroll c =>
    rw [ReverseProxyCluster.step]
    split <;> exact ⟨h.one, h.honest⟩
  | unenroll address => exact ⟨h.one, h.honest⟩
  | foreignCreate r =>
    rw [ReverseProxyCluster.step]
    split
    · exact h
    · next hfree =>
      refine ⟨h.one.create fun d hd hdomain => hfree ?_, fun o ho => ?_⟩
      · exact List.any_eq_true.mpr ⟨d, hd, by simpa using hdomain⟩
      · exact (h.honest o ho).mono fun d hd => Store.mem_create.mpr (.inl hd)
  | foreignDelete id =>
    refine ⟨h.one.delete id, fun o ho => (h.honest o ho).of_kept fun hready d hd hid _ => ?_⟩
    refine Store.mem_delete.mpr ⟨hd, fun heq => ?_⟩
    exact hev o ho hready.isLive (heq ▸ hid)

/-- **What `Ready` says of a custom domain is so.** Take any run of passes over any number of
objects, wherever they fail, with users' changes, proxies that come and go, and other clients that
register domains and delete no registration a live object has on record. An object that is ready for
its generation has on record a registration of its domain that targets its cluster or none, and any
other object that is ready for this domain has the same one. -/
theorem ready_registered (domains : Store Registration) (clusters : List ProxyCluster)
    (tokens : Store ProxyToken) (es : List Event) (hone : OnePerDomain domains)
    (hes : Along es fun pre ev => Spares (run step (.initial domains clusters tokens) pre) ev)
    {o : Entry CR} (ho : o ∈ (run step (.initial domains clusters tokens) es).rpcs)
    (hready : ReadyNow o.val) :
    ∃ d ∈ (run step (.initial domains clusters tokens) es).domains,
      o.val.status.domainID = some d.id ∧ d.val.domain = o.val.spec.domain ∧
      (d.val.target = "" ∨ d.val.target = o.val.spec.clusterAddress) ∧
      ∀ o' ∈ (run step (.initial domains clusters tokens) es).rpcs, ReadyNow o'.val →
        o'.val.spec.domain = o.val.spec.domain → o'.val.status.domainID = some d.id ∧
          (d.val.target = "" ∨ o'.val.spec.clusterAddress = o.val.spec.clusterAddress) := by
  have hstart : AllHonest (.initial domains clusters tokens) :=
    ⟨hone, fun o ho => absurd ho (List.not_mem_nil)⟩
  have hend := run_invariant hes hstart fun w ev h hev => h.step ev hev
  obtain ⟨d, hd, hid, hserves⟩ := (hend.honest o ho).registered hready
  refine ⟨d, hd, hid, hserves.domain, hserves.target, fun o' ho' hready' hdomain => ?_⟩
  obtain ⟨d', hd', hid', hserves'⟩ := (hend.honest o' ho').registered hready'
  obtain rfl := hend.one d' hd' d hd (hserves'.domain.trans (hdomain.trans hserves.domain.symm))
  refine ⟨hid', ?_⟩
  rcases hserves.target with htarget | htarget
  · exact .inl htarget
  · exact hserves'.target.imp_right fun htarget' => htarget'.symm.trans htarget

/-- Two objects and one domain: the first repairs the registration, the second finds it taken, and
a third one that was renamed away from the domain is deleted. Another client takes a registration
away that nobody has on record, and a pass over the first object fails halfway. -/
def contested : List Event :=
  staleRun ++
    [.reconcile 0 calm, .reconcile 1 calm, .user (.create "proxies" "c" (.plain "a.example"
      "apps.example")), .reconcile 2 calm,
      .user (.edit 2 (.plain "a.example" "other.example")), .user (.delete 2), .reconcile 2 calm,
      .foreignCreate ⟨"old.example", none⟩, .foreignDelete 2,
      .reconcile 0 { calm with fault := fun c => if c = .domainList then some .other else none }]

/-- The first object is ready, and its registration is there. -/
theorem ready_registered_contested :
    ∃ d ∈ (run step (.initial .empty [] .empty) contested).domains,
      d.val.domain = "apps.example" ∧ (d.val.target = "" ∨ d.val.target = "a.example") := by
  have hready : ∃ o ∈ (run step (.initial .empty [] .empty) contested).rpcs.entries,
      ReadyNow o.val ∧ o.val.spec = (.plain "a.example" "apps.example") := by decide +kernel
  obtain ⟨o, ho, hready, hspec⟩ := hready
  obtain ⟨d, hd, -, hdomain, htarget, -⟩ := ready_registered .empty [] .empty contested
    (fun d hd => absurd hd List.not_mem_nil) (by decide +kernel) ho hready
  rw [hspec] at hdomain htarget
  exact ⟨d, hd, hdomain, htarget⟩

end ReverseProxyCluster

end NetbirdOperator
