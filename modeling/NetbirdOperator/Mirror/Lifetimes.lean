import NetbirdOperator.Mirror.Shelf

/-!
# How long an entry stays on record

An object of a mirrored kind has an entry of the account on record. The entry leaves the record in
one of two ways: a later pass records another one in its place, or the object goes. In both cases
the old entry should be gone by then, and for good, or nobody will ever remove it.

`Lifetimes` is what a kind has to say about the writes of its passes: entries that are gone stay
gone, and a deletion that lets its object go has removed the entry. What an apply does with the
entry it replaces is left to the theorems about one pass, as a kind may need to know more about the
world to answer for that.

## Main results

* `Mirror.Lifetimes.kept_or` — an entry on record, after a pass
* `Mirror.Recorded.reconcile`, `Recorded.submit` — what is recorded was issued and is held
-/

namespace NetbirdOperator

open ControlLoop

namespace Mirror

/-! ### Entries of a collection -/

namespace Shelf

variable {A α : Type} {sh : Shelf A α} {recorded : Option ℕ} {req : α} {a a' : A} {id i : ℕ}

theorem Upserted.spent (h : Upserted sh recorded req a id a') (hi : (sh.view a).Spent i) :
    (sh.view a').Spent i := by
  cases h with
  | updated hrec hhas => rw [sh.view_set]; exact hi.update id req
  | created hgone => rw [sh.view_set]; exact hi.create req

/-- An entry that an upsert does not return, though it was on record, was not there any more. -/
theorem Upserted.eq_or_spent (h : Upserted sh (some i) req a id a') (hi : i < (sh.view a).next) :
    id = i ∨ (sh.view a').Spent i := by
  cases h with
  | updated hrec hhas => exact .inl (Option.some.inj hrec).symm
  | created hgone =>
    rw [sh.view_set]
    exact .inr (Store.Spent.create ⟨hgone i rfl, hi⟩ req)

end Shelf

/-! ### Entries on record -/

section

variable {S R A C K : Type} {fault : Call C → Option Fault} {m : Mirror S R A C}
  {key : R → Option K} {Issued Spent : A → K → Prop} {w w' : World S R A} {uid : ℕ} {i : K}

/-- What a kind says about its entries: `key` reads the entry off the record, `Issued` says that it
was given out, `Spent` that it was and is gone for good. -/
structure Lifetimes (m : Mirror S R A C) (key : R → Option K) (Issued Spent : A → K → Prop) :
    Prop where
  apply_issued : ∀ o a i, Issued a i → Issued (m.apply o a).2 i
  apply_spent : ∀ o a i, Spent a i → Spent (m.apply o a).2 i
  returned : ∀ o a r i, (m.apply o a).1 = .ok r → key r = some i → Issued (m.apply o a).2 i
  del_issued : ∀ uid objects o a i, Issued a i → Issued (m.del uid objects o a).2 i
  del_spent : ∀ uid objects o a i, Spent a i → Spent (m.del uid objects o a).2 i
  deleted : ∀ uid objects o a i, key o.status.recorded = some i → Issued a i →
    (∀ e, (m.del uid objects o a).1 = .error e → e.isNotFound = true) →
    Spent (m.del uid objects o a).2 i

/-- A deletion that returns, or ends in a 404, has cleaned up. -/
theorem gone_of_triple {p : Pass A (Err C) Unit} {G : A → Prop} {a : A}
    (h : Pass.Triple (fun a' => a' = a) p (fun _ => G) fun e a' => e.isNotFound = true → G a')
    (hout : ∀ e, (p a).1 = .error e → e.isNotFound = true) : G (p a).2 := by
  have hend := h a rfl
  rcases hrun : p a with ⟨out, a'⟩
  rw [hrun] at hend hout
  cases out with
  | ok _ => exact hend
  | error e => exact hend (hout e rfl)

/-- What is on record was issued, and the object is held until it is removed. -/
structure Recorded (key : R → Option K) (Issued : A → K → Prop) (w : World S R A) : Prop where
  held : ∀ e ∈ w.objects, e.val.finalizer = false → key e.val.status.recorded = none
  issued : ∀ e ∈ w.objects, ∀ i, key e.val.status.recorded = some i → Issued w.account i

/-- `e'` is the object `e`, some time later. -/
structure Later {T : Type} (e e' : Entry (Object S T)) : Prop where
  id : e'.id = e.id
  ns : e'.val.ns = e.val.ns
  name : e'.val.name = e.val.name

theorem Recorded.held_of_key (h : Recorded key Issued w) {e : Entry (Object S (Status R))}
    (he : e ∈ w.objects) (hkey : key e.val.status.recorded = some i) :
    e.val.finalizer = true := by
  cases hfin : e.val.finalizer with
  | true => rfl
  | false => exact absurd ((h.held e he hfin).symm.trans hkey) (by simp)

/-- **A pass.** What is recorded afterwards was issued. -/
theorem Recorded.effect (hm : Lifetimes m key Issued Spent) (h : Recorded key Issued w)
    (heffect : Effect m w uid w') : Recorded key Issued w' := by
  cases heffect with
  | idle => exact h
  | @applied o o' hget hlive hown hrec =>
    have ho := Store.get_eq_some.mp hget
    refine ⟨fun e he hfin => ?_, fun e he i hi => ?_⟩
    · rcases Store.mem_update.mp he with ⟨he, -⟩ | ⟨rfl, -⟩
      · exact h.held e he hfin
      · exact absurd (hfin.symm.trans hown.finalizer) (by simp)
    · rcases Store.mem_update.mp he with ⟨he, -⟩ | ⟨rfl, -⟩
      · exact hm.apply_issued _ _ i (h.issued e he i hi)
      · rcases hrec with hrec | hrec
        · exact hm.apply_issued _ _ i (h.issued _ ho i (hrec ▸ hi))
        · exact hm.returned _ _ _ i hrec hi
  | kept hget hdel =>
    exact ⟨h.held, fun e he i hi => hm.del_issued _ _ _ _ i (h.issued e he i hi)⟩
  | released hget hdel hout =>
    exact ⟨fun e he => h.held e (Store.mem_delete.mp he).1, fun e he i hi =>
      hm.del_issued _ _ _ _ i (h.issued e (Store.mem_delete.mp he).1 i hi)⟩

/-- Users record nothing. -/
theorem Recorded.submit (h : Recorded key Issued w) {fresh : Status R}
    (hfresh : key fresh.recorded = none) (ev : UserEvent S) :
    Recorded key Issued { w with objects := w.objects.submit fresh ev } := by
  refine ⟨fun e he hfin => ?_, fun e he i hi => ?_⟩ <;>
    rcases Store.of_mem_submit he with ⟨hstatus, -, -⟩ | ⟨f, hf, -, hstatus, hfin', -⟩
  · rw [hstatus, hfresh]
  · rw [hstatus]
    exact h.held f hf (hfin' ▸ hfin)
  · rw [hstatus, hfresh] at hi
    cases hi
  · exact h.issued f hf i (hstatus ▸ hi)

/-- The account may change, as long as what was issued stays so. -/
theorem Recorded.account (h : Recorded key Issued w) {a : A}
    (ha : ∀ i, Issued w.account i → Issued a i) : Recorded key Issued { w with account := a } :=
  ⟨h.held, fun e he i hi => ha i (h.issued e he i hi)⟩

theorem Lifetimes.spent (hm : Lifetimes m key Issued Spent) (h : Spent w.account i)
    (heffect : Effect m w uid w') : Spent w'.account i := by
  cases heffect with
  | idle => exact h
  | applied hget hlive hown hrec => exact hm.apply_spent _ _ i h
  | kept hget hdel => exact hm.del_spent _ _ _ _ i h
  | released hget hdel hout => exact hm.del_spent _ _ _ _ i h

/-- **An entry on record, after a pass.** It is on record for the same object, or spent, or it is
one that the apply replaced by another for a reason of its own, `X`. -/
theorem Lifetimes.kept_or (hm : Lifetimes m key Issued Spent) (h : Recorded key Issued w)
    (heffect : Effect m w uid w') {e : Entry (Object S (Status R))} (he : e ∈ w.objects)
    (hkey : key e.val.status.recorded = some i) {X : Prop}
    (hreplaced : ∀ r, e.val.deleting = false → e.id = uid →
      (m.apply (withFinalizer e.val) w.account).1 = .ok r →
      key r = some i ∨ Spent (m.apply (withFinalizer e.val) w.account).2 i ∨ X) :
    (∃ e' ∈ w'.objects, Later e e' ∧ e'.val.spec = e.val.spec ∧
        key e'.val.status.recorded = some i) ∨ Spent w'.account i ∨ X := by
  have hsame : e ∈ w'.objects → ∃ e' ∈ w'.objects, Later e e' ∧ e'.val.spec = e.val.spec ∧
      key e'.val.status.recorded = some i :=
    fun he' => ⟨e, he', ⟨rfl, rfl, rfl⟩, rfl, hkey⟩
  cases heffect with
  | idle => exact .inl (hsame he)
  | @applied o o' hget hlive hown hrec =>
    by_cases hid : e.id = uid
    swap
    · exact .inl (hsame ((Store.mem_update_of_ne hid).mpr he))
    obtain rfl : e.val = o := Store.val_eq_of_get hget he hid
    subst hid
    have hown' : key o'.status.recorded = some i → ∃ e' ∈ w.objects.update e.id o',
        Later e e' ∧ e'.val.spec = e.val.spec ∧ key e'.val.status.recorded = some i :=
      fun hkey' => ⟨⟨e.id, o'⟩, Store.mem_update_self he o', ⟨rfl, hown.ns, hown.name⟩, hown.spec,
        hkey'⟩
    rcases hrec with hrec | hrec
    · exact .inl (hown' (hrec ▸ hkey))
    · exact (hreplaced _ hlive rfl hrec).imp_left hown'
  | kept hget hdel => exact .inl (hsame he)
  | @released o hget hdel hout =>
    by_cases hid : e.id = uid
    · obtain rfl : e.val = o := Store.val_eq_of_get hget he hid
      exact .inr (.inl (hm.deleted _ _ _ _ i hkey (h.issued e he i hkey) hout))
    · exact .inl (hsame (Store.mem_delete.mpr ⟨he, hid⟩))

/-- An object that is held stays, whatever users do, and keeps its record. -/
theorem later_of_submit {T : Type} {s : Store (Object S T)} (fresh : T)
    {e : Entry (Object S T)} (he : e ∈ s) (hfin : e.val.finalizer = true) (ev : UserEvent S) :
    ∃ e' ∈ s.submit fresh ev, Later e e' ∧ e'.val.status = e.val.status ∧
      (e'.val.spec = e.val.spec ∨ ev = .edit e.id e'.val.spec) := by
  have hsame : ∀ t : Store (Object S T), e ∈ t → ∃ e' ∈ t, Later e e' ∧
      e'.val.status = e.val.status ∧ (e'.val.spec = e.val.spec ∨ ev = .edit e.id e'.val.spec) :=
    fun t he' => ⟨e, he', ⟨rfl, rfl, rfl⟩, rfl, .inl rfl⟩
  rcases s.submit_cases fresh ev with hs | ⟨ns, name, spec, -, hs⟩ | ⟨f, hf, spec, hev, hs⟩ |
    ⟨f, hf, -, -, hs⟩ | ⟨f, hf, -, hfin', hs⟩ <;> rw [hs]
  · exact hsame s he
  · exact hsame _ (Store.mem_create.mpr (.inl he))
  · by_cases hid : e.id = f.id
    · obtain rfl := Store.eq_of_id_eq he hf hid
      exact ⟨_, Store.mem_update_self he _, ⟨rfl, rfl, rfl⟩, rfl, .inr hev⟩
    · exact hsame _ ((Store.mem_update_of_ne hid).mpr he)
  · by_cases hid : e.id = f.id
    · obtain rfl := Store.eq_of_id_eq he hf hid
      exact ⟨_, Store.mem_update_self he _, ⟨rfl, rfl, rfl⟩, rfl, .inl rfl⟩
    · exact hsame _ ((Store.mem_update_of_ne hid).mpr he)
  · refine hsame _ (Store.mem_delete.mpr ⟨he, fun hid => ?_⟩)
    obtain rfl := Store.eq_of_id_eq he hf hid
    exact absurd (hfin'.symm.trans hfin) (by simp)

end

end Mirror

end NetbirdOperator
