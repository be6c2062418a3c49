import NetbirdOperator.DNSRecord.Sharing
import NetbirdOperator.NetworkResource.Model
import NetbirdOperator.NetworkRouter.Effects

/-!
# The ids of children

A NetworkResource, a NetworkRouter and a DNSRecord live inside a parent, and NetBird issues their
ids there. An id of a child says nothing without the parent's, and deleting needs both, so the two
have to be on record together. `Paired` says so, and adds that the id was issued under that very
parent.

Every pass keeps it. An apply that returns hands back both ids. One that waits for a dependency
leaves the ids as they were, except in NetworkRouter, which writes the network it resolved; it keeps
the router on record only if that is in the same network.

## Main results

* `NetworkResource.paired_of_run`, `DNSRecord.paired_of_run`, `NetworkRouter.paired_of_run` — in
  every state of every run
-/

namespace NetbirdOperator

open ControlLoop

section Paired

variable {α : Type} {children children' : ℕ → Store α} {parent child : Option ℕ}

/-- A child is on record only together with a parent, and under an id that was issued there. -/
def Paired (children : ℕ → Store α) (parent child : Option ℕ) : Prop :=
  ∀ id, child = some id → ∃ p, parent = some p ∧ id < (children p).next

theorem paired_none : Paired children parent none := fun _ h => by simp at h

theorem paired_some {p id : ℕ} (h : id < (children p).next) :
    Paired children (some p) (some id) :=
  fun _ hid => ⟨p, rfl, Option.some.inj hid ▸ h⟩

/-- A child that counts under a parent is on record with that parent. -/
theorem Paired.of_kept {p id : ℕ} (h : Paired children parent child)
    (hkept : (if parent ≠ none ∧ parent ≠ some p then none else child) = some id) :
    parent = some p ∧ child = some id := by
  split_ifs at hkept with hother
  obtain ⟨q, hq, -⟩ := h id hkept
  rw [hq] at hother
  obtain rfl : q = p := by simpa using hother
  exact ⟨hq, hkept⟩

/-- Under the parent a child counts under, one that is gone is gone. -/
theorem Paired.not_has_of_kept {p : ℕ} (h : Paired children parent child)
    (hgone : ∀ id, parent = some p → child = some id → ¬ (children p).Has id) :
    ∀ id, (if parent ≠ none ∧ parent ≠ some p then none else child) = some id →
      ¬ (children p).Has id :=
  fun id hid => hgone id (h.of_kept hid).1 (h.of_kept hid).2

theorem Paired.mono (h : Paired children parent child) (hgrows : Store.Grows children children') :
    Paired children' parent child := by
  intro id hid
  obtain ⟨p, hp, hlt⟩ := h id hid
  exact ⟨p, hp, Nat.lt_of_lt_of_le hlt (hgrows p)⟩

end Paired

namespace Mirror

variable {S R A C α : Type} {m : Mirror S R A C} {w w' : World S R A} {uid : ℕ}
  {children : A → ℕ → Store α} {parent child : R → Option ℕ}

/-- Every object has its child on record with the parent that issued it. -/
def AllPaired (children : A → ℕ → Store α) (parent child : R → Option ℕ) (w : World S R A) : Prop :=
  ∀ e ∈ w.objects,
    Paired (children w.account) (parent e.val.status.recorded) (child e.val.status.recorded)

theorem AllPaired.account (h : AllPaired children parent child w) {a : A}
    (hgrows : Store.Grows (children w.account) (children a)) :
    AllPaired children parent child ⟨w.objects, a⟩ :=
  fun e he => (h e he).mono hgrows

/-- Users write no status. -/
theorem AllPaired.submit (h : AllPaired children parent child w) {fresh : Status R}
    (hfresh : child fresh.recorded = none) (ev : UserEvent S) :
    AllPaired children parent child ⟨w.objects.submit fresh ev, w.account⟩ := by
  intro e he
  rcases Store.of_mem_submit he with ⟨hs, -⟩ | ⟨f, hf, -, hs, -⟩
  · rw [hs, hfresh]
    exact paired_none
  · rw [hs]
    exact h f hf

/-- **A pass.** Its calls take back no id, and an apply hands back a child of its parent. -/
theorem Effect.allPaired (heffect : Effect m w uid w') (h : AllPaired children parent child w)
    (happly : ∀ o a, Store.Grows (children a) (children (m.apply o a).2))
    (hdel : ∀ objects o a, Store.Grows (children a) (children (m.del uid objects o a).2))
    (hback : ∀ o a r, (m.apply o a).1 = .ok r →
      Paired (children (m.apply o a).2) (parent r) (child r)) :
    AllPaired children parent child w' := by
  cases heffect with
  | idle => exact h
  | @applied o o' hget hlive hown hrec =>
    intro e he
    rcases Store.mem_update.mp he with ⟨he, -⟩ | ⟨rfl, -⟩
    · exact (h e he).mono (happly _ _)
    · rcases hrec with hsame | hok
      · dsimp only at hsame ⊢
        rw [hsame]
        exact (h ⟨uid, o⟩ (Store.get_eq_some.mp hget)).mono (happly _ _)
      · exact hback _ _ _ hok
  | kept hget hdel' => exact h.account (hdel _ _ _)
  | released hget hdel' hout =>
    exact fun e he => (h e (Store.mem_delete.mp he).1).mono (hdel _ _ _)

end Mirror

/-! ### NetworkResource -/

namespace NetworkResource

open Pass

variable {env : Env} {w : World} {a a' : Account} {nr : CR}

theorem applyNetworkResource_grows (env : Env) (nr : CR) (a : Account) :
    Store.Grows a.networks (applyNetworkResource env nr a).2.networks := by
  refine Triple.final (P := fun a' => a' = a) (G := fun a' => Store.Grows a.networks a'.networks)
    (applyNetworkResource_triple.conseq (fun _ h => h) ?_ ?_) rfl
  · rintro r a' ⟨n, req, id, -, -, -, hupsert⟩
    cases hupsert with
    | updated hrec hhas => exact Store.grows_update (Nat.le_refl _)
    | created hgone => exact Store.grows_update (Nat.le_succ _)
  · rintro e a' rfl
    exact .refl _

theorem deleteNetworkResource_grows (env : Env) (nr : CR) (a : Account) :
    Store.Grows a.networks (deleteNetworkResource env nr a).2.networks := by
  rw [deleteNetworkResource]
  cases nr.status.recorded.resourceID with
  | none => exact .refl _
  | some id =>
    cases nr.status.recorded.networkID with
    | none => exact .refl _
    | some n =>
      have hframe := Mirror.Shelf.delete_frame (resources n) env.fault Call.deleteResource id a
      rcases hframe with h | h <;> rw [h]
      · exact .refl _
      · exact Store.grows_update (Nat.le_refl _)

/-- What an apply hands back is a resource of the network it was resolved to. -/
theorem paired_of_apply {r : Recorded} (h : (applyNetworkResource env nr a).1 = .ok r) :
    Paired (applyNetworkResource env nr a).2.networks r.networkID r.resourceID := by
  rcases happly : applyNetworkResource env nr a with ⟨out, a'⟩
  rw [happly] at h
  obtain rfl : out = .ok r := h
  obtain ⟨n, req, id, -, -, rfl, hupsert⟩ := applyNetworkResource_triple.ok rfl happly
  exact paired_some hupsert.lt_next

/-- Every object has its resource on record with the network that issued it. -/
def AllPaired (w : World) : Prop :=
  Mirror.AllPaired Account.networks Recorded.networkID Recorded.resourceID w

theorem AllPaired.step (h : AllPaired w) (ev : Event) : AllPaired (step w ev) := by
  cases ev with
  | reconcile uid env =>
    have heffect : Mirror.Effect (mirror env) w uid (reconcile env uid w).2 :=
      Mirror.reconcile_effect
    exact heffect.allPaired h (applyNetworkResource_grows env)
      (fun _ => deleteNetworkResource_grows env) fun _ _ _ => paired_of_apply
  | user ev => exact Mirror.AllPaired.submit h rfl ev
  | foreignCreate n resource =>
    exact Mirror.AllPaired.account h (Store.grows_update (Nat.le_succ _))
  | foreignUpdate n id resource =>
    exact Mirror.AllPaired.account h (Store.grows_update (Nat.le_refl _))
  | foreignDelete n id => exact Mirror.AllPaired.account h (Store.grows_update (Nat.le_refl _))

theorem paired_of_run (networks : ℕ → Store Resource) (es : List Event) :
    AllPaired (run step (initial networks) es) :=
  run_keeps (fun _ he => absurd he List.not_mem_nil) fun _ ev h => h.step ev

end NetworkResource

/-! ### DNSRecord -/

namespace DNSRecord

variable {env : Env} {w : World} {a : Account} {rec : CR}

theorem paired_of_apply {r : Recorded} (h : (applyDNSRecord env rec a).1 = .ok r) :
    Paired (applyDNSRecord env rec a).2.zones r.zoneID r.recordID := by
  have heffect := applyDNSRecord_effect env rec a
  rw [h] at heffect
  generalize (applyDNSRecord env rec a).2 = a' at heffect
  cases heffect with
  | updated req hhas hfrom =>
    refine paired_some ?_
    rw [zones_set_self]
    exact hhas.lt_next
  | created z req =>
    refine paired_some ?_
    rw [zones_set_self]
    exact Nat.lt_succ_self _

/-- Every object has its record on record with the zone that issued it. -/
def AllPaired (w : World) : Prop :=
  Mirror.AllPaired Account.zones Recorded.zoneID Recorded.recordID w

theorem AllPaired.step (h : AllPaired w) (ev : Event) : AllPaired (step w ev) := by
  cases ev with
  | reconcile uid env =>
    have heffect : Mirror.Effect (mirror env) w uid (reconcile env uid w).2 :=
      Mirror.reconcile_effect
    exact heffect.allPaired h (fun o a => (applyDNSRecord_effect env o a).grows)
      (fun _ => deleteDNSRecord_grows env) fun _ _ _ => paired_of_apply
  | user ev => exact Mirror.AllPaired.submit h rfl ev
  | foreignCreate z record => exact Mirror.AllPaired.account h (Store.grows_update (Nat.le_succ _))
  | foreignUpdate z id record =>
    exact Mirror.AllPaired.account h (Store.grows_update (Nat.le_refl _))
  | foreignDelete z id => exact Mirror.AllPaired.account h (Store.grows_update (Nat.le_refl _))

theorem paired_of_run (zones : ℕ → Store Record) (es : List Event) :
    AllPaired (run step (initial zones) es) :=
  run_keeps (fun _ he => absurd he List.not_mem_nil) fun _ ev h => h.step ev

end DNSRecord

/-! ### NetworkRouter -/

namespace NetworkRouter

variable {env : Env} {w : World} {networks : ℕ → Store Router} {o : CR} {n : ℕ}

theorem grows_withoutRouter (o : CR) : Store.Grows networks (withoutRouter o networks) := by
  rw [withoutRouter]
  split
  · exact Store.grows_update (Nat.le_refl _)
  · exact .refl _

/-- The router that is kept in the network a pass resolved is one of that network. -/
theorem paired_withNetwork (h : Paired networks o.status.networkID o.status.routerID) (n : ℕ) :
    Paired networks (some n) (withNetwork o n).status.routerID := by
  intro id hid
  simp only [withNetwork] at hid
  split at hid
  · simp at hid
  · next hsame =>
    obtain ⟨p, hp, hlt⟩ := h id hid
    rw [hp] at hsame
    obtain rfl : p = n := by simpa using hsame
    exact ⟨p, rfl, hlt⟩

/-- The object has its router on record with the network that issued it. -/
def AllPaired (w : World) : Prop :=
  ∀ o, w.cr = some o → Paired w.networks o.status.networkID o.status.routerID

theorem Effect.paired {cr : Option CR} (h : Effect env w cr networks) (hw : AllPaired w) :
    ∀ o, cr = some o → Paired networks o.status.networkID o.status.routerID := by
  intro o₁ ho
  cases h with
  | idle => exact hw o₁ ho
  | waited hcr hlive hwait =>
    obtain rfl := Option.some.inj ho
    rcases hwait.ids with ⟨hn, hid⟩ | ⟨n, -, hn, hid⟩
    · rw [hn, hid]
      exact hw _ hcr
    · rw [hn, hid]
      exact paired_withNetwork (hw _ hcr) n
  | @bound o o' n id groupID networks hcr hlive hreaches hupsert hwritten =>
    obtain rfl := Option.some.inj ho
    rcases hwritten with ⟨rfl, -⟩ | ⟨rfl, -⟩
    · refine (hw o hcr).mono ?_
      cases hupsert with
      | updated hrec hhas => exact Store.grows_update (Nat.le_refl _)
      | created hgone => exact Store.grows_update (Nat.le_succ _)
    · exact paired_some hupsert.lt_next
  | kept hcr hdel hsent =>
    obtain rfl := Option.some.inj ho
    exact (hw _ hcr).mono (grows_withoutRouter _)
  | released hcr hdel hsent => exact absurd ho (by simp)

theorem AllPaired.account (h : AllPaired w) (hgrows : Store.Grows w.networks networks) :
    AllPaired { w with networks := networks } :=
  fun o ho => (h o ho).mono hgrows

theorem AllPaired.step (h : AllPaired w) (ev : Event) : AllPaired (step w ev) := by
  cases ev with
  | reconcile env => exact (reconcile_effect env w).paired h
  | edit spec =>
    intro o ho
    obtain ⟨o', ho', rfl⟩ := Option.map_eq_some_iff.mp ho
    exact h o' ho'
  | delete =>
    intro o ho
    obtain ⟨o', ho', hdel⟩ := Option.bind_eq_some_iff.mp ho
    split at hdel
    · obtain rfl := Option.some.inj hdel
      exact h o' ho'
    · simp at hdel
  | foreignCreate n router => exact h.account (Store.grows_update (Nat.le_succ _))
  | foreignUpdate n id router => exact h.account (Store.grows_update (Nat.le_refl _))
  | foreignDelete n id => exact h.account (Store.grows_update (Nat.le_refl _))

theorem paired_of_run (ns name : String) (spec : Spec) (networks : ℕ → Store Router)
    (es : List Event) : AllPaired (run step (initial ns name spec networks) es) := by
  refine run_keeps ?_ fun _ ev h => h.step ev
  intro o ho
  obtain rfl := Option.some.inj ho
  exact paired_none

end NetworkRouter

end NetbirdOperator
