import NetbirdOperator.Mirror.Truth

/-!
# One round of passes

A mirror is driven by a timer: every object gets a pass every so often, whatever happened in
between. What does it take to put the account in order again, after passes that failed anywhere,
status writes that were lost, and other clients that created, changed and deleted entries?

One pass over each live object, in any order, that goes through. It is not enough that each pass
puts its own entry in order, since another pass could undo that. It cannot for a kind whose objects
have their entries to themselves: no two objects ever have the same entry on record, whatever other
clients did (`Owned`), as long as the account does not give an id out twice.

## Main results

* `Mirror.reconcile_of_goesThrough` — a live pass that goes through
* `Mirror.PrivateKind.restored_of_round` — after a round, everything is in order
-/

namespace NetbirdOperator

open ControlLoop

namespace Mirror

/-! ### Passes that go through -/

section

variable {S R A C : Type} {fault : Call C → Option Fault} {m : Mirror S R A C}
  {w : World S R A} {uid : ℕ} {o : Object S (Status R)}

/-- The pass returns and waits for nothing. -/
def GoesThrough (fault : Call C → Option Fault) (m : Mirror S R A C) (uid : ℕ) (w : World S R A) :
    Prop :=
  ∃ after, (reconcile fault m uid w).1 = .ok ⟨after⟩ ∧ after ≠ some dependencyRetry

instance (fault : Call C → Option Fault) (m : Mirror S R A C) (uid : ℕ) (w : World S R A) :
    Decidable (GoesThrough fault m uid w) :=
  match h : (reconcile fault m uid w).1 with
  | .ok ⟨after⟩ =>
    decidable_of_iff (after ≠ some dependencyRetry)
      ⟨fun hne => ⟨after, h, hne⟩, fun ⟨_, h', hne⟩ => by cases h.symm.trans h'; exact hne⟩
  | .error _ => .isFalse fun ⟨_, h', _⟩ => by cases h.symm.trans h'

/-- **A live pass that goes through** has applied the object, and reported it ready. -/
theorem reconcile_of_goesThrough (hget : w.objects.get uid = some o) (hlive : o.deleting = false)
    (h : GoesThrough fault m uid w) :
    ∃ r, (m.apply (withFinalizer o) w.account).1 = .ok r ∧ (reconcile fault m uid w).2 =
      ⟨w.objects.update uid (asReady (withFinalizer o) r),
        (m.apply (withFinalizer o) w.account).2⟩ := by
  obtain ⟨after, hafter, hwaits⟩ := h
  cases hcall : fault .get with
  | some f =>
    rw [reconcile, Pass.bind_of_error (Pass.call_of_some hcall w)] at hafter
    cases hafter
  | none =>
    cases hfin : fault .patchFinalizer with
    | some f =>
      rw [reconcile_of_get hcall hget, if_neg (by simp [hlive]), reconcileLive,
        Pass.bind_of_error (patch_of_some hfin)] at hafter
      cases hafter
    | none =>
      rcases happly : m.apply (withFinalizer o) w.account with ⟨out, a⟩
      rw [reconcile_of_get hcall hget, if_neg (by simp [hlive]),
        reconcileLive_of_patched hfin hlive, happly] at hafter
      cases out with
      | ok r =>
        cases hready : fault .patchReady with
        | some f =>
          rw [report, Pass.bind_of_error (patch_of_some hready)] at hafter
          cases hafter
        | none => exact ⟨r, rfl, reconcile_recorded hcall hfin hget hlive happly hready⟩
      | error e =>
        cases e with
        | dependencyNotReady msg =>
          cases hready : fault .patchNotReady with
          | some f =>
            rw [report, Pass.bind_of_error (patch_of_some hready)] at hafter
            cases hafter
          | none =>
            rw [report, Pass.bind_of_ok (patch_of_none hready)] at hafter
            cases hafter
            exact absurd rfl hwaits
        | _ => cases hafter

end

/-! ### Kinds with entries of their own -/

namespace PrivateKind

variable {k : PrivateKind} {w : World k.S k.R k.A}

/-- The kind, without what its entries say. -/
def blind (k : PrivateKind) : PrivateKind where
  α := Unit
  fault := k.fault
  mirror := k.mirror
  fresh := k.fresh
  WellFormed := k.WellFormed
  key := k.key
  get _ _ := some ()
  Issued := k.Issued
  Asks _ _ _ _ := True
  asks_congr _ _ _ h := h
  wellFormed_fresh := k.wellFormed_fresh
  key_fresh := k.key_fresh
  failed env o a e hwf he i := ⟨(k.failed env o a e hwf he i).1, rfl⟩
  returned env o a r hwf hr := by
    obtain ⟨hr', j, x, hkey, hnew, hissued, -, -, hframe⟩ := k.returned env o a r hwf hr
    exact ⟨hr', j, (), hkey, hnew, hissued, rfl, trivial, fun i => ⟨(hframe i).1, fun _ => rfl⟩⟩
  deleted env uid objects o a i := ⟨(k.deleted env uid objects o a i).1, .inl rfl⟩

/-- What every run keeps, whatever other clients do: ids on record were issued, and no two objects
have the same. -/
def Owned (w : World k.S k.R k.A) : Prop :=
  Invariant (k := k.blind) (fun _ => True) False w

/-- Other clients may do anything, but an id that was issued is not issued again. -/
def NoReuse (w : World k.S k.R k.A) : k.Event → Prop
  | .account a => ∀ i, k.Issued w.account i → k.Issued a i
  | _ => True

theorem owned_start (a : k.A) : Owned (k.start a) := invariant_start (k := k.blind) a

theorem Owned.step (h : Owned w) (ev : k.Event) (hev : NoReuse w ev) : Owned (k.step w ev) := by
  cases ev with
  | reconcile uid env => exact Invariant.reconcile (k := k.blind) h uid trivial
  | user ev => exact Invariant.user (k := k.blind) h ev
  | account a =>
    exact Invariant.shrink (k := k.blind) h (fun _ he => he) hev fun _ _ _ _ _ => .inl rfl

/-- **The object is as it should be**: ready for its generation, with an entry that has what its
specification asks for, as a pass over it resolved it. -/
def Restored (passes : List k.Event) (a : k.A) (e : Entry (Object k.S (Status k.R))) : Prop :=
  isReady e.val ∧ ∃ i x, k.key e.val.status.recorded = some i ∧ k.get a i = some x ∧
    ∃ env, .reconcile e.id env ∈ passes ∧ k.Asks env e.val i x

/-- The event is a pass that goes through. -/
def Passes (w : World k.S k.R k.A) : k.Event → Prop
  | .reconcile uid env => GoesThrough (k.fault env) (k.mirror env) uid w
  | _ => False

instance (w : World k.S k.R k.A) : (ev : k.Event) → Decidable (Passes w ev)
  | .reconcile uid env =>
    inferInstanceAs (Decidable (GoesThrough (k.fault env) (k.mirror env) uid w))
  | .user _ => .isFalse id
  | .account _ => .isFalse id

theorem Passes.noReuse {ev : k.Event} (h : Passes w ev) : NoReuse w ev := by
  cases ev with
  | reconcile uid env => trivial
  | user ev => trivial
  | account a => exact h.elim

theorem Restored.mono {passes passes' : List k.Event} {a a' : k.A}
    {e : Entry (Object k.S (Status k.R))} (h : Restored passes a e) (hsub : passes ⊆ passes')
    (hsame : ∀ i, k.key e.val.status.recorded = some i → k.get a' i = k.get a i) :
    Restored passes' a' e := by
  obtain ⟨hready, i, x, hkey, hget, env, hmem, hasks⟩ := h
  exact ⟨hready, i, x, hkey, (hsame i hkey).trans hget, env, hsub hmem, hasks⟩

/-- What a pass over one object does to the entries of the others: nothing. -/
theorem Owned.get_of_other (h : Owned w) {uid : ℕ} {o : Object k.S (Status k.R)} {env : k.ι}
    {w' : World k.S k.R k.A} (hget : w.objects.get uid = some o)
    (heffect : Effect (k.mirror env) w uid w') {e : Entry (Object k.S (Status k.R))}
    (he : e ∈ w.objects) (hne : e.id ≠ uid) {i : k.K} (hi : k.key e.val.status.recorded = some i) :
    k.get w'.account i = k.get w.account i := by
  have ho := Store.get_eq_some.mp hget
  obtain ⟨hissued, hother⟩ := Invariant.get_of_other (k := k.blind) h ho he hne hi
  have hwf : k.WellFormed (withFinalizer o).status.recorded := h.wellFormed ⟨uid, o⟩ ho
  cases heffect with
  | idle => rfl
  | applied hget' hlive hown hrec =>
    obtain rfl := Option.some.inj (hget.symm.trans hget')
    refine (entry_of_apply env hwf w.account i).2.resolve_right fun hwrote => ?_
    exact hwrote.1.elim hother fun hnew => hnew hissued
  | kept hget' hdel =>
    obtain rfl := Option.some.inj (hget.symm.trans hget')
    exact (k.deleted env uid w.objects o w.account i).2.resolve_right hother
  | released hget' hdel hout =>
    obtain rfl := Option.some.inj (hget.symm.trans hget')
    exact (k.deleted env uid w.objects o w.account i).2.resolve_right hother

/-- What is known in the middle of a round: every live object was there at its beginning, and those
that have had their pass are as they should be. -/
structure Midway (objects : Store (Object k.S (Status k.R))) (passes : List k.Event)
    (w : World k.S k.R k.A) : Prop where
  owned : Owned w
  origin : ∀ e ∈ w.objects, e.val.deleting = false →
    ∃ e₀ ∈ objects, e₀.id = e.id ∧ e₀.val.deleting = false
  restored : ∀ e ∈ w.objects, e.val.deleting = false → (∃ env, .reconcile e.id env ∈ passes) →
    Restored passes w.account e

/-- **One pass of the round.** -/
theorem Midway.pass {objects : Store (Object k.S (Status k.R))} {passes : List k.Event}
    (h : Midway objects passes w) {uid : ℕ} {env : k.ι}
    (hpass : GoesThrough (k.fault env) (k.mirror env) uid w) :
    Midway objects (passes ++ [.reconcile uid env]) (k.step w (.reconcile uid env)) := by
  have howned := h.owned.step (.reconcile uid env) trivial
  have hsub : passes ⊆ passes ++ [.reconcile uid env] := List.subset_append_left _ _
  have hearlier : ∀ e : Entry (Object k.S (Status k.R)), e.id ≠ uid →
      (∃ env', .reconcile e.id env' ∈ passes ++ [.reconcile uid env]) →
      ∃ env', .reconcile e.id env' ∈ passes := by
    rintro e hne ⟨env', hmem⟩
    rcases List.mem_append.mp hmem with hmem | hmem
    · exact ⟨env', hmem⟩
    · cases List.mem_singleton.mp hmem
      exact absurd rfl hne
  have heffect : Effect (k.mirror env) w uid (k.step w (.reconcile uid env)) := reconcile_effect
  cases hget : w.objects.get uid with
  | none =>
    have hsame : k.step w (.reconcile uid env) = w := reconcile_gone hget
    rw [hsame]
    refine ⟨h.owned, h.origin, fun e he hlive hmem => ?_⟩
    have hne : e.id ≠ uid := Store.get_eq_none.mp hget e he
    exact (h.restored e he hlive (hearlier e hne hmem)).mono hsub fun _ _ => rfl
  | some o =>
    -- The objects that are not `uid` are as before, and so are their entries.
    have hothers := fun e he => heffect.mem_of_ne (e := e) he
    have hframe : ∀ e ∈ w.objects, e.id ≠ uid → ∀ i, k.key e.val.status.recorded = some i →
        k.get (k.step w (.reconcile uid env)).account i = k.get w.account i :=
      fun e he hne i hi => h.owned.get_of_other hget heffect he hne hi
    cases hdel : o.deleting with
    | true =>
      have hnot := fun e he => heffect.ne_of_live hget hdel (e := e) he
      refine ⟨howned, fun e he hlive => ?_, fun e he hlive hmem => ?_⟩
      · exact h.origin e (hothers e he (hnot e he hlive)) hlive
      · have hne := hnot e he hlive
        have he' := hothers e he hne
        exact (h.restored e he' hlive (hearlier e hne hmem)).mono hsub (hframe e he' hne)
    | false =>
      obtain ⟨r, hout, hafter⟩ := reconcile_of_goesThrough hget hdel hpass
      have ho := Store.get_eq_some.mp hget
      have hwf : k.WellFormed (withFinalizer o).status.recorded := h.owned.wellFormed ⟨uid, o⟩ ho
      have hown : ∀ e ∈ (k.step w (.reconcile uid env)).objects, e.id = uid →
          e = ⟨uid, asReady (withFinalizer o) r⟩ := by
        intro e he hid
        change e ∈ (reconcile (k.fault env) (k.mirror env) uid w).2.objects at he
        rw [hafter] at he
        rcases Store.mem_update.mp he with ⟨-, hne⟩ | ⟨rfl, -⟩
        · exact absurd hid hne
        · rfl
      refine ⟨howned, fun e he hlive => ?_, fun e he hlive hmem => ?_⟩
      · by_cases hid : e.id = uid
        · obtain ⟨e₀, he₀, hid₀, hlive₀⟩ := h.origin ⟨uid, o⟩ ho hdel
          exact ⟨e₀, he₀, hid₀.trans hid.symm, hlive₀⟩
        · exact h.origin e (hothers e he hid) hlive
      · by_cases hid : e.id = uid
        · obtain rfl := hown e he hid
          obtain ⟨-, j, x, hkey, -, -, hx, hasks, -⟩ := k.returned env _ _ r hwf hout
          refine ⟨⟨rfl, rfl⟩, j, x, hkey, ?_, env, by simp, ?_⟩
          · change k.get (reconcile (k.fault env) (k.mirror env) uid w).2.account j = some x
            rw [hafter]
            exact hx
          · exact k.asks_congr (o := withFinalizer o) rfl rfl rfl hasks
        · have he' := hothers e he hid
          exact (h.restored e he' hlive (hearlier e hid hmem)).mono hsub (hframe e he' hid)

/-- **After a round, everything is in order.** -/
theorem restored_of_round (hw : Owned w) {fs : List k.Event}
    (hfs : Along fs fun pre ev => Passes (run k.step w pre) ev)
    (hall : ∀ e ∈ w.objects, e.val.deleting = false → ∃ env, .reconcile e.id env ∈ fs)
    {e : Entry (Object k.S (Status k.R))} (he : e ∈ (run k.step w fs).objects)
    (hlive : e.val.deleting = false) : Restored fs (run k.step w fs).account e := by
  have hmid : Midway w.objects fs (run k.step w fs) := by
    refine run_induction (I := fun pre => Midway w.objects pre (run k.step w pre)) hfs ?_ ?_
    · refine ⟨hw, fun e he hlive => ⟨e, he, rfl, hlive⟩, fun e _ _ hmem => ?_⟩
      obtain ⟨env, hmem⟩ := hmem
      cases hmem
    · intro pre ev hpre hev
      rw [run_concat]
      cases ev with
      | reconcile uid env => exact hpre.pass hev
      | user ev => exact hev.elim
      | account a => exact hev.elim
  obtain ⟨e₀, he₀, hid, hlive₀⟩ := hmid.origin e he hlive
  obtain ⟨env, hmem⟩ := hall e₀ he₀ hlive₀
  exact hmid.restored e he hlive ⟨env, hid ▸ hmem⟩

end PrivateKind

end Mirror

end NetbirdOperator
