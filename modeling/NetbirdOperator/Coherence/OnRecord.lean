import NetbirdOperator.Coherence.ChildIDs
import NetbirdOperator.Coherence.Finalizers
import NetbirdOperator.Coherence.ReadyTruth
import NetbirdOperator.Mirror.Lifetimes
import NetbirdOperator.NetworkRouter.Effects

/-!
# What Networks, NetworkResources and NetworkRouters have on record

How the entry of the account that an object has on record comes to be replaced, for the kinds around
a network. A Network replaces its network only when that is gone. A NetworkResource and a
NetworkRouter replace theirs when it is gone, or when they read another network off the Network
they refer to; in the second case they do not look whether anything is left in the old one.

## Main results

* `Network.Reports.step` — what a Network reports, from one step to the next
* `NetworkResource.OnRecord.step`, `NetworkRouter.OnRecord.step` — the same for what is in a network
-/

namespace NetbirdOperator

open ControlLoop

open Pass

open Mirror.Shelf (Upserted)

/-! ### Networks -/

namespace Network

variable {w : World} {ref : CrossNamespaceReference} {n : ℕ}

/-- An object of that name has the network on record. -/
def Reports (w : World) (ref : CrossNamespaceReference) (n : ℕ) : Prop :=
  ∃ e ∈ w.objects, e.val.ns = ref.ns ∧ e.val.name = ref.name ∧
    e.val.status.recorded.networkID = some n

/-- A name denotes one object. -/
def Named (w : World) : Prop :=
  ∀ e ∈ w.objects, ∀ f ∈ w.objects, e.val.ns = f.val.ns → e.val.name = f.val.name → e = f

/-- The network id of a record. -/
def networkKey (r : Recorded) : Option ℕ := r.networkID

/-- The id was given out. -/
def Issued (a : Account) (n : ℕ) : Prop := n < a.networks.next

/-- The network was there and is gone for good. -/
def Spent (a : Account) (n : ℕ) : Prop := a.networks.Spent n

/-- What is on record was given out, and the object is held. -/
abbrev Kept (w : World) : Prop := Mirror.Recorded networkKey Issued w

/-- The ways an apply can end. -/
theorem applyNetwork_cases (fault : Mirror.Call Call → Option Fault) (net : CR) (a : Account) :
    (applyNetwork fault net a).2 = a ∧ (∀ r, (applyNetwork fault net a).1 ≠ .ok r) ∨
      ∃ id, (applyNetwork fault net a).1 = .ok ⟨some id⟩ ∧
        Upserted networks net.status.recorded.networkID (networkRequest net.spec) a id
          (applyNetwork fault net a).2 := by
  refine Triple.outcome (P := fun a' => a' = a) (T := fun (out : Except Err Recorded) a' =>
    a' = a ∧ (∀ r, out ≠ .ok r) ∨ ∃ id, out = .ok ⟨some id⟩ ∧
      Upserted networks net.status.recorded.networkID (networkRequest net.spec) a id a') ?_ rfl
  refine applyNetwork_triple.conseq (fun _ h => h) ?_ fun e a' h => .inl ⟨h, fun r => by simp⟩
  rintro r a' ⟨id, rfl, h⟩
  exact .inr ⟨id, rfl, h⟩

theorem deleteNetwork_spent (fault : Mirror.Call Call → Option Fault) (net : CR) (a : Account)
    (h : Spent a n) : Spent (deleteNetwork fault net a).2 n := by
  rw [deleteNetwork]
  cases net.status.recorded.networkID with
  | none => exact h
  | some id =>
    dsimp only
    rcases networks.delete_frame fault .deleteNetwork id a with hs | hs <;> rw [hs]
    · exact h
    · exact h.delete id

theorem lifetimes (fault : Mirror.Call Call → Option Fault) :
    Mirror.Lifetimes (mirror fault) networkKey Issued Spent where
  apply_issued net a n h := by
    rcases applyNetwork_cases fault net a with ⟨hs, -⟩ | ⟨id, -, hup⟩
    · exact (congrArg (Issued · n) hs).mpr h
    · exact Nat.lt_of_lt_of_le h hup.next_le
  apply_spent net a n h := by
    rcases applyNetwork_cases fault net a with ⟨hs, -⟩ | ⟨id, -, hup⟩
    · exact (congrArg (Spent · n) hs).mpr h
    · exact hup.spent h
  returned net a r n hr hn := by
    rcases applyNetwork_cases fault net a with ⟨-, hfail⟩ | ⟨id, hok, hup⟩
    · exact absurd hr (hfail r)
    · obtain rfl := Except.ok.inj (hok.symm.trans hr)
      obtain rfl := Option.some.inj hn
      exact hup.lt_next
  del_issued _ _ net a n h := (ReadyTruth.deleteNetwork_frame fault net a n).1 h
  del_spent _ _ net a n h := deleteNetwork_spent fault net a h
  deleted _ _ net a n hkey h hout := by
    have hgone : Gone net (deleteNetwork fault net a).2 :=
      Mirror.gone_of_triple deleteNetwork_gone hout
    exact ⟨hgone n hkey, (ReadyTruth.deleteNetwork_frame fault net a n).1 h⟩

theorem Kept.step (h : Kept w) (ev : Event) : Kept (step w ev) := by
  cases ev with
  | reconcile uid fault => exact h.effect (lifetimes fault) Mirror.reconcile_effect
  | user ev => exact h.submit rfl ev
  | foreignCreate network => exact h.account fun _ hn => Nat.lt_succ_of_lt hn
  | foreignUpdate id network => exact h.account fun _ hn => hn
  | foreignDelete id => exact h.account fun _ hn => hn

theorem Spent.step (h : Spent w.account n) (ev : Event) : Spent (step w ev).account n := by
  cases ev with
  | reconcile uid fault => exact (lifetimes fault).spent h Mirror.reconcile_effect
  | user ev => exact h
  | foreignCreate network => exact h.create network
  | foreignUpdate id network => exact h.update id network
  | foreignDelete id => exact h.delete id

theorem Named.step (h : Named w) (ev : Event) : Named (step w ev) := by
  cases ev with
  | reconcile uid fault =>
    have heffect : Mirror.Effect (mirror fault) w uid (reconcile fault uid w).2 :=
      Mirror.reconcile_effect
    show Named (reconcile fault uid w).2
    generalize (reconcile fault uid w).2 = w' at heffect
    cases heffect with
    | idle => exact h
    | @applied o o' hget hlive hown hrec =>
      have ho := Store.get_eq_some.mp hget
      intro e he f hf hns hname
      rcases Store.mem_update.mp he with ⟨he, hne⟩ | ⟨rfl, -⟩ <;>
        rcases Store.mem_update.mp hf with ⟨hf, hne'⟩ | ⟨rfl, -⟩
      · exact h e he f hf hns hname
      · exact absurd (congrArg Entry.id (h e he _ ho (hns.trans hown.ns) (hname.trans hown.name)))
          hne
      · exact absurd (congrArg Entry.id
          (h f hf _ ho (hns.symm.trans hown.ns) (hname.symm.trans hown.name))) hne'
      · rfl
    | kept hget hdel => exact h
    | released hget hdel hout =>
      exact fun e he f hf => h e (Store.mem_delete.mp he).1 f (Store.mem_delete.mp hf).1
  | user ev =>
    intro e he f hf hns hname
    rcases Store.origin_of_mem_submit he with ⟨hid, -, hfree⟩ | ⟨e₀, he₀, hid, hns₀, hname₀, -⟩ <;>
      rcases Store.origin_of_mem_submit hf with ⟨hid', -, hfree'⟩ | ⟨f₀, hf₀, hid', hns₁, hname₁, -⟩
    · exact Store.eq_of_id_eq he hf (hid.trans hid'.symm)
    · exact absurd ⟨hns₁.trans hns.symm, hname₁.trans hname.symm⟩ (hfree f₀ hf₀)
    · exact absurd ⟨hns₀.trans hns, hname₀.trans hname⟩ (hfree' e₀ he₀)
    · have hsame := h e₀ he₀ f₀ hf₀ (hns₀.trans (hns.trans hns₁.symm))
        (hname₀.trans (hname.trans hname₁.symm))
      exact Store.eq_of_id_eq he hf (hid.symm.trans ((congrArg Entry.id hsame).trans hid'))
  | foreignCreate network => exact h
  | foreignUpdate id network => exact h
  | foreignDelete id => exact h

/-- **What a Network reports**, from one step to the next: the same network, unless that is gone. -/
theorem Reports.step (hw : Kept w) (h : Reports w ref n) (ev : Event) :
    Reports (step w ev) ref n ∨ Spent (step w ev).account n := by
  obtain ⟨e, he, hns, hname, hn⟩ := h
  cases ev with
  | reconcile uid fault =>
    have hkept := (lifetimes fault).kept_or hw
      (Mirror.reconcile_effect : Mirror.Effect (mirror fault) w uid (reconcile fault uid w).2) he hn
      (X := False) fun r _ _ hr => ?_
    · rcases hkept with ⟨e', he', hlater, -, hkey⟩ | hspent | hno
      · exact .inl ⟨e', he', hlater.ns.trans hns, hlater.name.trans hname, hkey⟩
      · exact .inr hspent
      · exact hno.elim
    · rcases applyNetwork_cases fault (Mirror.withFinalizer e.val) w.account with
        ⟨-, hfail⟩ | ⟨id, hok, hup⟩
      · exact absurd hr (hfail r)
      obtain rfl := Except.ok.inj (hok.symm.trans hr)
      rw [show (Mirror.withFinalizer e.val).status.recorded.networkID = some n from hn] at hup
      rcases hup.eq_or_spent (hw.issued e he n hn) with rfl | hspent
      · exact .inl rfl
      · exact .inr (.inl hspent)
  | user ev =>
    obtain ⟨e', he', hlater, hstatus, -⟩ :=
      Mirror.later_of_submit fresh he (hw.held_of_key he hn) ev
    exact .inl ⟨e', he', hlater.ns.trans hns, hlater.name.trans hname, hstatus ▸ hn⟩
  | foreignCreate network => exact .inl ⟨e, he, hns, hname, hn⟩
  | foreignUpdate id network => exact .inl ⟨e, he, hns, hname, hn⟩
  | foreignDelete id => exact .inl ⟨e, he, hns, hname, hn⟩

/-- The network id in the status of the Network of that name, if there is one. -/
def networkStatus (w : World) (ref : CrossNamespaceReference) : Option (Option ℕ) :=
  (w.objects.first fun o => o.ns = ref.ns ∧ o.name = ref.name).map
    fun e => e.val.status.recorded.networkID

theorem reports_of_networkStatus (h : networkStatus w ref = some (some n)) : Reports w ref n := by
  obtain ⟨e, he, hn⟩ := Option.map_eq_some_iff.mp h
  have hnamed := Store.prop_of_first he
  simp only [decide_eq_true_eq] at hnamed
  exact ⟨e, Store.mem_of_first he, hnamed.1, hnamed.2, hn⟩

theorem Reports.networkStatus (hw : Named w) (h : Reports w ref n) :
    networkStatus w ref = some (some n) := by
  obtain ⟨e, he, hns, hname, hn⟩ := h
  rw [Network.networkStatus]
  cases hfirst : w.objects.first fun o => o.ns = ref.ns ∧ o.name = ref.name with
  | none =>
    have hfree := Store.first_eq_none.mp hfirst e he
    simp [hns, hname] at hfree
  | some f =>
    have hnamed := Store.prop_of_first hfirst
    simp only [decide_eq_true_eq] at hnamed
    obtain rfl := hw f (Store.mem_of_first hfirst) e he (hnamed.1.trans hns.symm)
      (hnamed.2.trans hname.symm)
    rw [Option.map_some, hn]

end Network

/-! ### Resources -/

namespace NetworkResource

open ReadyTruth (resourceKey networks_set_of_ne)

variable {env : Env} {w : World} {a a' : Account} {i : ℕ × ℕ}

/-- The id was given out in its network. -/
def Issued (a : Account) (i : ℕ × ℕ) : Prop := i.2 < (a.networks i.1).next

/-- The resource was there and is gone for good, if the network is not. -/
def Spent (a : Account) (i : ℕ × ℕ) : Prop := (a.networks i.1).Spent i.2

/-- What is on record was given out, and the object is held. -/
abbrev Kept (w : World) : Prop := Mirror.Recorded resourceKey Issued w

theorem resourceKey_eq_some {r : Recorded} :
    resourceKey r = some i ↔ r.networkID = some i.1 ∧ r.resourceID = some i.2 := by
  obtain ⟨n, id⟩ := r
  cases n <;> cases id <;> simp [resourceKey, Prod.ext_iff]

theorem Issued.set (h : Issued a i) {n : ℕ} {s : Store Resource}
    (hs : (a.networks n).next ≤ s.next) : Issued ((resources n).set a s) i :=
  Nat.lt_of_lt_of_le h (Store.grows_update hs i.1)

/-- Writing the resources of one network. -/
theorem Spent.set (h : Spent a i) {n : ℕ} {s : Store Resource}
    (hs : ∀ id, (a.networks n).Spent id → s.Spent id) : Spent ((resources n).set a s) i :=
  Store.spent_update h (hs i.2)

theorem Spent.upserted (h : Spent a i) {n id : ℕ} {recorded : Option ℕ} {req : Resource}
    (hup : Upserted (resources n) recorded req a id a') : Spent a' i := by
  cases hup with
  | updated hrec hhas => exact h.set fun _ hs => hs.update id req
  | created hgone => exact h.set fun _ hs => hs.create req

/-- The ways an apply can end. -/
theorem applyNetworkResource_cases (env : Env) (nr : CR) (a : Account) :
    (applyNetworkResource env nr a).2 = a ∧ (∀ r, (applyNetworkResource env nr a).1 ≠ .ok r) ∨
      ∃ n req id, resolveNetworkID env nr.spec.networkRef = .ok n ∧
        (applyNetworkResource env nr a).1 = .ok ⟨some n, some id⟩ ∧
        Upserted (resources n) (keptID n nr.status.recorded) req a id
          (applyNetworkResource env nr a).2 := by
  refine Triple.outcome (P := fun a' => a' = a) (T := fun (out : Except Err Recorded) a' =>
    a' = a ∧ (∀ r, out ≠ .ok r) ∨ ∃ n req id, resolveNetworkID env nr.spec.networkRef = .ok n ∧
      out = .ok ⟨some n, some id⟩ ∧
        Upserted (resources n) (keptID n nr.status.recorded) req a id a') ?_ rfl
  refine applyNetworkResource_triple.conseq (fun _ h => h) ?_ fun e a' h =>
    .inl ⟨h, fun r => by simp⟩
  rintro r a' ⟨n, req, id, hn, -, rfl, h⟩
  exact .inr ⟨n, req, id, hn, rfl, h⟩

theorem deleteNetworkResource_spent (env : Env) (nr : CR) (h : Spent a i) :
    Spent (deleteNetworkResource env nr a).2 i := by
  rw [deleteNetworkResource]
  cases nr.status.recorded.resourceID with
  | none => exact h
  | some id =>
    cases nr.status.recorded.networkID with
    | none => exact h
    | some n =>
      dsimp only
      rcases (resources n).delete_frame env.fault .deleteResource id a with hs | hs <;> rw [hs]
      · exact h
      · exact h.set fun _ hspent => hspent.delete id

theorem lifetimes (env : Env) : Mirror.Lifetimes (mirror env) resourceKey Issued Spent where
  apply_issued nr a i h := Nat.lt_of_lt_of_le h (applyNetworkResource_grows env nr a i.1)
  apply_spent nr a i h := by
    rcases applyNetworkResource_cases env nr a with ⟨hs, -⟩ | ⟨n, req, id, -, -, hup⟩
    · exact (congrArg (Spent · i) hs).mpr h
    · exact h.upserted hup
  returned nr a r i hr hi := by
    rcases applyNetworkResource_cases env nr a with ⟨-, hfail⟩ | ⟨n, req, id, -, hok, hup⟩
    · exact absurd hr (hfail r)
    · obtain rfl := Except.ok.inj (hok.symm.trans hr)
      obtain rfl := Option.some.inj hi
      exact hup.lt_next
  del_issued _ _ nr a i h := Nat.lt_of_lt_of_le h (deleteNetworkResource_grows env nr a i.1)
  del_spent _ _ nr a i h := deleteNetworkResource_spent env nr h
  deleted _ _ nr a i hkey h hout := by
    obtain ⟨hn, hid⟩ := resourceKey_eq_some.mp hkey
    have hpaired :
        Paired a.networks nr.status.recorded.networkID nr.status.recorded.resourceID := by
      rw [hn, hid]
      exact paired_some h
    have hgone : Gone nr (deleteNetworkResource env nr a).2 :=
      Mirror.gone_of_triple (deleteNetworkResource_gone hpaired) hout
    obtain ⟨n, hn', hhas⟩ := hgone i.2 hid
    obtain rfl := Option.some.inj (hn.symm.trans hn')
    exact ⟨hhas, Nat.lt_of_lt_of_le h (deleteNetworkResource_grows env nr a i.1)⟩

theorem Kept.step (h : Kept w) (ev : Event) : Kept (step w ev) := by
  cases ev with
  | reconcile uid env => exact h.effect (lifetimes env) Mirror.reconcile_effect
  | user ev => exact h.submit rfl ev
  | foreignCreate n resource => exact h.account fun _ hi => hi.set (Nat.le_succ _)
  | foreignUpdate n id resource => exact h.account fun _ hi => hi.set (Nat.le_refl _)
  | foreignDelete n id => exact h.account fun _ hi => hi.set (Nat.le_refl _)

theorem Spent.step (h : Spent w.account i) (ev : Event) : Spent (step w ev).account i := by
  cases ev with
  | reconcile uid env => exact (lifetimes env).spent h Mirror.reconcile_effect
  | user ev => exact h
  | foreignCreate n resource => exact h.set fun _ hs => hs.create resource
  | foreignUpdate n id resource => exact h.set fun _ hs => hs.update id resource
  | foreignDelete n id => exact h.set fun _ hs => hs.delete id

/-- The resource is on record. -/
def OnRecord (w : World) (i : ℕ × ℕ) : Prop :=
  ∃ e ∈ w.objects, resourceKey e.val.status.recorded = some i

instance (w : World) (i : ℕ × ℕ) : Decidable (OnRecord w i) :=
  inferInstanceAs (Decidable (∃ e ∈ w.objects, resourceKey e.val.status.recorded = some i))

/-- The event is a pass that reads another network than `n` off the Network of an object that has
`n` on record. -/
def MovesFrom (n : ℕ) (w : World) : Event → Prop
  | .reconcile uid env => ∃ o, w.objects.get uid = some o ∧ o.status.recorded.networkID = some n ∧
    ∃ n', env.networkStatus o.spec.networkRef = some (some n') ∧ n' ≠ n
  | _ => False

/-- **A resource on record**, after one step: it is on record, or gone, or the pass saw its network
replaced. -/
theorem OnRecord.step (hw : Kept w) (h : OnRecord w i) (ev : Event) :
    OnRecord (step w ev) i ∨ Spent (step w ev).account i ∨ MovesFrom i.1 w ev := by
  obtain ⟨e, he, hkey⟩ := h
  cases ev with
  | reconcile uid env =>
    have hkept := (lifetimes env).kept_or hw
      (Mirror.reconcile_effect : Mirror.Effect (mirror env) w uid (reconcile env uid w).2) he hkey
      (X := MovesFrom i.1 w (.reconcile uid env)) fun r _ hid hr => ?_
    · rcases hkept with ⟨e', he', -, -, hkey'⟩ | hgone
      · exact .inl ⟨e', he', hkey'⟩
      · exact .inr hgone
    · obtain ⟨hn, hid'⟩ := resourceKey_eq_some.mp hkey
      rcases applyNetworkResource_cases env (Mirror.withFinalizer e.val) w.account with
        ⟨-, hfail⟩ | ⟨n, req, id, hresolve, hok, hup⟩
      · exact absurd hr (hfail r)
      obtain rfl := Except.ok.inj (hok.symm.trans hr)
      by_cases hsame : n = i.1
      · subst hsame
        have hown : keptID i.1 (Mirror.withFinalizer e.val).status.recorded = some i.2 := by
          show keptID i.1 e.val.status.recorded = some i.2
          rw [keptID, if_neg (by simp [hn]), hid']
        rw [hown] at hup
        rcases hup.eq_or_spent (hw.issued e he i hkey) with rfl | hspent
        · exact .inl rfl
        · exact .inr (.inl hspent)
      · refine .inr (.inr ⟨e.val, hid ▸ Store.get_of_mem he, hn, n, ?_, hsame⟩)
        exact (Mirror.dependencyID_eq_ok.mp hresolve).2
  | user ev =>
    obtain ⟨e', he', -, hstatus, -⟩ :=
      Mirror.later_of_submit fresh he (hw.held_of_key he hkey) ev
    exact .inl ⟨e', he', hstatus ▸ hkey⟩
  | foreignCreate n resource => exact .inl ⟨e, he, hkey⟩
  | foreignUpdate n id resource => exact .inl ⟨e, he, hkey⟩
  | foreignDelete n id => exact .inl ⟨e, he, hkey⟩

end NetworkResource

/-! ### The router -/

namespace NetworkRouter

variable {env : Env} {w : World} {o : CR} {i : ℕ × ℕ} {cr : Option CR}
  {networks networks' : ℕ → Store Router}

/-- The router was there and is gone for good, if the network is not. -/
def Spent (networks : ℕ → Store Router) (i : ℕ × ℕ) : Prop := (networks i.1).Spent i.2

/-- The router is on record. -/
def OnRecord (cr : Option CR) (i : ℕ × ℕ) : Prop :=
  ∃ o, cr = some o ∧ o.status.networkID = some i.1 ∧ o.status.routerID = some i.2

instance (cr : Option CR) (i : ℕ × ℕ) : Decidable (OnRecord cr i) :=
  decidable_of_iff (cr.any fun o => o.status.networkID = some i.1 ∧ o.status.routerID = some i.2)
    (by cases cr <;> simp [OnRecord])

/-- No router is on record before the object is held. -/
def Held (cr : Option CR) : Prop :=
  ∀ o, cr = some o → o.finalizer = false → o.status.routerID = none

/-- The event is a pass that reads another network than `n` off the Network of the object, which has
`n` on record. -/
def MovesFrom (n : ℕ) (w : World) : Event → Prop
  | .reconcile env => ∃ o, w.cr = some o ∧ o.status.networkID = some n ∧
    ∃ n', env.networkStatus o.spec.networkRef = some (some n') ∧ n' ≠ n
  | _ => False

/-- Writing the routers of one network. -/
theorem Spent.set (h : Spent networks i) {n : ℕ} {s : Store Router}
    (hs : ∀ id, (networks n).Spent id → s.Spent id) : Spent (setRouters n s networks) i :=
  Store.spent_update h (hs i.2)

theorem Spent.upserted (h : Spent networks i) {n id : ℕ} {recorded : Option ℕ} {req : Router}
    (hup : Upserted (routers n) recorded req networks id networks') : Spent networks' i := by
  cases hup with
  | updated hrec hhas => exact h.set fun _ hs => hs.update id req
  | created hgone => exact h.set fun _ hs => hs.create req

theorem Spent.withoutRouter (h : Spent networks i) (o : CR) :
    Spent (withoutRouter o networks) i := by
  rw [NetworkRouter.withoutRouter]
  split
  · next n id hn hid => exact h.set fun _ hs => hs.delete id
  · exact h

theorem Spent.step (h : Spent w.networks i) (ev : Event) : Spent (step w ev).networks i := by
  cases ev with
  | reconcile env =>
    have heffect := reconcile_effect env w
    show Spent (reconcile env w).2.networks i
    generalize (reconcile env w).2.cr = cr, (reconcile env w).2.networks = networks at heffect ⊢
    cases heffect with
    | idle => exact h
    | waited hcr hlive hwait => exact h
    | bound hcr hlive hreaches hup hwritten => exact h.upserted hup
    | kept hcr hdel hsent => exact h.withoutRouter _
    | released hcr hdel hsent => exact h.withoutRouter _
  | edit spec => exact h
  | delete => exact h
  | foreignCreate n router => exact h.set fun _ hs => hs.create router
  | foreignUpdate n id router => exact h.set fun _ hs => hs.update id router
  | foreignDelete n id => exact h.set fun _ hs => hs.delete id

theorem Held.effect (h : Held w.cr) (heffect : Effect env w cr networks) : Held cr := by
  cases heffect with
  | idle => exact h
  | waited hcr hlive hwait =>
    rintro _ ⟨⟩ hfin
    exact absurd (hfin.symm.trans hwait.finalizer) (by simp)
  | bound hcr hlive hreaches hup hwritten =>
    rintro _ ⟨⟩ hfin
    rcases hwritten with ⟨rfl, -⟩ | ⟨rfl, -⟩ <;> exact absurd hfin (by simp [asReady, withNetwork])
  | kept hcr hdel hsent => exact hcr ▸ h
  | released hcr hdel hsent => exact fun o ho => absurd ho (by simp)

theorem Held.step (h : Held w.cr) (ev : Event) : Held (step w ev).cr := by
  cases ev with
  | reconcile env => exact h.effect (reconcile_effect env w)
  | edit spec =>
    intro o ho hfin
    obtain ⟨o', ho', rfl⟩ := Option.map_eq_some_iff.mp ho
    exact h o' ho' hfin
  | delete =>
    intro o ho hfin
    obtain ⟨o', ho', rfl⟩ := exists_of_marked ho
    exact h o' ho' hfin
  | foreignCreate n router => exact h
  | foreignUpdate n id router => exact h
  | foreignDelete n id => exact h

/-- In the network on record the router on record counts. -/
theorem withNetwork_of_same {n : ℕ} (hn : o.status.networkID = some n) :
    (withNetwork o n).status.routerID = o.status.routerID := by
  simp [withNetwork, hn]

theorem spent_withoutRouter (hn : o.status.networkID = some i.1)
    (hid : o.status.routerID = some i.2) (hlt : i.2 < (networks i.1).next) :
    Spent (withoutRouter o networks) i := by
  have hsame : withoutRouter o networks =
      setRouters i.1 ((networks i.1).delete i.2) networks := by
    simp only [withoutRouter, hn, hid]
  rw [hsame, Spent, setRouters, Function.update_self]
  exact Store.spent_delete hlt

/-- A pass, for a router on record. -/
theorem OnRecord.effect (hw : AllPaired w) (h : OnRecord w.cr i)
    (heffect : Effect env w cr networks) :
    OnRecord cr i ∨ Spent networks i ∨ MovesFrom i.1 w (.reconcile env) := by
  obtain ⟨o₀, ho₀, hn, hid⟩ := h
  have hlt : i.2 < (w.networks i.1).next := by
    obtain ⟨p, hp, hlt⟩ := hw o₀ ho₀ i.2 hid
    obtain rfl := Option.some.inj (hn.symm.trans hp)
    exact hlt
  cases heffect with
  | idle => exact .inl ⟨o₀, ho₀, hn, hid⟩
  | @waited o o' hcr hlive hwait =>
    obtain rfl := Option.some.inj (ho₀.symm.trans hcr)
    rcases hwait.ids with ⟨hn', hid'⟩ | ⟨n', hstatus, hn', hid'⟩
    · exact .inl ⟨o', rfl, hn'.trans hn, hid'.trans hid⟩
    · by_cases hsame : n' = i.1
      · subst hsame
        exact .inl ⟨o', rfl, hn', hid'.trans ((withNetwork_of_same hn).trans hid)⟩
      · exact .inr (.inr ⟨o₀, ho₀, hn, n', hstatus, hsame⟩)
  | @bound o o' n' id' groupID networks hcr hlive hreaches hup hwritten =>
    obtain rfl := Option.some.inj (ho₀.symm.trans hcr)
    by_cases hsame : n' = i.1
    swap
    · exact .inr (.inr ⟨o₀, ho₀, hn, n', hreaches.status, hsame⟩)
    subst hsame
    rw [withNetwork_of_same hn, hid] at hup
    rcases hwritten with ⟨rfl, -⟩ | ⟨rfl, -⟩
    · exact .inl ⟨_, rfl, hn, hid⟩
    · rcases hup.eq_or_spent hlt with rfl | hspent
      · exact .inl ⟨_, rfl, rfl, rfl⟩
      · exact .inr (.inl hspent)
  | @kept o hcr hdel hsent => exact .inl ⟨o, rfl, Option.some.inj (ho₀.symm.trans hcr) ▸ ⟨hn, hid⟩⟩
  | @released o hcr hdel hsent =>
    obtain rfl := Option.some.inj (ho₀.symm.trans hcr)
    exact .inr (.inl (spent_withoutRouter hn hid hlt))

/-- **A router on record**, after one step: it is on record, or gone, or the pass saw its network
replaced. -/
theorem OnRecord.step (hw : AllPaired w) (hheld : Held w.cr) (h : OnRecord w.cr i) (ev : Event) :
    OnRecord (step w ev).cr i ∨ Spent (step w ev).networks i ∨ MovesFrom i.1 w ev := by
  cases ev with
  | reconcile env => exact h.effect hw (reconcile_effect env w)
  | edit spec =>
    obtain ⟨o, ho, hids⟩ := h
    exact .inl ⟨_, Option.map_eq_some_iff.mpr ⟨o, ho, rfl⟩, hids⟩
  | delete =>
    obtain ⟨o, ho, hids⟩ := h
    have hfin : o.finalizer = true := by
      cases hfin : o.finalizer with
      | true => rfl
      | false => exact absurd ((hheld o ho hfin).symm.trans hids.2) (by simp)
    exact .inl ⟨_, Option.bind_eq_some_iff.mpr ⟨o, ho, if_pos hfin⟩, hids⟩
  | foreignCreate n router => exact .inl h
  | foreignUpdate n id router => exact .inl h
  | foreignDelete n id => exact .inl h

end NetworkRouter

end NetbirdOperator
