import NetbirdOperator.ControlLoop.Objects

/-!
# Stakes in shared resources

A control loop creates resources outside the cluster on behalf of the objects it serves, and several
objects may come to share one. What ties an object to a resource is one of two things: the loop
recorded the resource in the object's status, or the object, not being deleted, declares it in its
specification. Either is a stake.

Resources are cleaned up by the last object that has a stake in them, so a resource nobody has a
stake in is one nobody will ever clean up. `Stake.Held` is the property to keep, and the results
say how each write to the objects can lose it. A declaration that was never recorded is the weak
tie: a user takes it back without the loop being asked.

## Main definitions

* `ControlLoop.Stake`, `Stake.Of`, `Stake.Held`
* `Stake.KeptBy` — a user event does not take back the last declaration

## Main results

* `Stake.Held.of_others` — a write to one object, given what it does to that object's stake
* `Stake.Held.submit` — user events that meet `KeptBy` keep a resource held
-/

namespace ControlLoop

variable {S T : Type*}

/-- The two ways an object can be tied to a resource. -/
structure Stake (S T : Type*) where
  /-- The specification asks for the resource. -/
  declares : S → Prop
  /-- The status names the resource. -/
  records : T → Prop

namespace Stake

variable {k : Stake S T} {s s' : Store (Object S T)} {uid : ℕ}

/-- The object has a stake. The specification of an object that is being deleted no longer
counts. -/
def Of (k : Stake S T) (o : Object S T) : Prop :=
  k.records o.status ∨ (o.live = true ∧ k.declares o.spec)

/-- Some object has a stake. -/
def Held (k : Stake S T) (s : Store (Object S T)) : Prop := ∃ e ∈ s, k.Of e.val

theorem not_held_of_empty (h : s.entries = []) : ¬ k.Held s := by
  rintro ⟨e, he, -⟩
  rw [Store.mem_def, h] at he
  exact List.not_mem_nil he

/-- The user event does not take back the only declaration of a resource nobody recorded: where it
ends one, another object has a stake. -/
def KeptBy (k : Stake S T) (s : Store (Object S T)) : UserEvent S → Prop
  | .create _ _ _ => True
  | .edit uid spec =>
    ∀ e ∈ s, e.id = uid → e.val.live = true → k.declares e.val.spec → ¬ k.records e.val.status →
      ¬ k.declares spec → k.Held (s.delete uid)
  | .delete uid =>
    ∀ e ∈ s, e.id = uid → e.val.live = true → k.declares e.val.spec → ¬ k.records e.val.status →
      k.Held (s.delete uid)

section Decidable

variable [DecidablePred k.declares] [DecidablePred k.records]

instance (o : Object S T) : Decidable (k.Of o) :=
  inferInstanceAs (Decidable (k.records o.status ∨ (o.live = true ∧ k.declares o.spec)))

instance (s : Store (Object S T)) : Decidable (k.Held s) :=
  inferInstanceAs (Decidable (∃ e ∈ s, k.Of e.val))

instance (s : Store (Object S T)) (ev : UserEvent S) : Decidable (k.KeptBy s ev) := by
  cases ev <;> dsimp only [Stake.KeptBy] <;> infer_instance

end Decidable

/-- **One object at a time.** When only the object `uid` is written, a resource stays held unless
it was that object's stake, and nobody else's, that got lost. -/
theorem Held.of_others (h : k.Held s) (hothers : s'.delete uid = s.delete uid)
    (hown : ∀ e ∈ s, e.id = uid → k.Of e.val → k.Held (s.delete uid) ∨ k.Held s') : k.Held s' := by
  have hrest : k.Held (s.delete uid) → k.Held s' := by
    rintro ⟨e, he, hk⟩
    rw [← hothers] at he
    exact ⟨e, (Store.mem_delete.mp he).1, hk⟩
  obtain ⟨e, he, hk⟩ := h
  by_cases hid : e.id = uid
  · exact (hown e he hid hk).elim hrest id
  · exact hrest ⟨e, Store.mem_delete.mpr ⟨he, hid⟩, hk⟩

/-- An object that keeps its stake in an update keeps the resource held. -/
theorem Held.update {e : Entry (Object S T)} {o : Object S T} (he : e ∈ s) (h : k.Held s)
    (hown : k.Of e.val → k.Held (s.delete e.id) ∨ k.Of o) : k.Held (s.update e.id o) := by
  refine h.of_others (Store.delete_update s e.id o) fun f hf hid hk => ?_
  rw [Store.eq_of_id_eq hf he hid] at hk
  exact (hown hk).imp_right fun ho => ⟨_, Store.mem_update_self he o, ho⟩

/-- **User events.** They keep a resource held when they meet `KeptBy`, provided the loop records
nothing on objects it does not hold by its finalizer. -/
theorem Held.submit {fresh : T} {ev : UserEvent S}
    (hfin : ∀ e ∈ s, e.val.finalizer = false → ¬ k.records e.val.status) (hkept : k.KeptBy s ev)
    (h : k.Held s) : k.Held (s.submit fresh ev) := by
  rcases s.submit_cases fresh ev with hs | ⟨ns, name, spec, -, hs⟩ | ⟨e, he, spec, rfl, hs⟩ |
    ⟨e, he, rfl, -, hs⟩ | ⟨e, he, rfl, hf, hs⟩ <;> rw [hs]
  · exact h
  · obtain ⟨e, he, hk⟩ := h
    exact ⟨e, Store.mem_create.mpr (Or.inl he), hk⟩
  · refine h.update he fun hk => ?_
    by_cases hr : k.records e.val.status
    · exact Or.inr (Or.inl hr)
    · obtain ⟨hl, hd⟩ := hk.resolve_left hr
      by_cases hd' : k.declares spec
      · exact Or.inr (Or.inr ⟨hl, hd'⟩)
      · exact Or.inl (hkept e he rfl hl hd hr hd')
  · refine h.update he fun hk => ?_
    by_cases hr : k.records e.val.status
    · exact Or.inr (Or.inl hr)
    · obtain ⟨hl, hd⟩ := hk.resolve_left hr
      exact Or.inl (hkept e he rfl hl hd hr)
  · refine h.of_others (Store.delete_delete s e.id) fun f hf' hid hk => ?_
    obtain rfl := Store.eq_of_id_eq hf' he hid
    have hr := hfin f he hf
    obtain ⟨hl, hd⟩ := hk.resolve_left hr
    exact Or.inl (hkept f he rfl hl hd hr)

end Stake

end ControlLoop
