import NetbirdOperator.ControlLoop.Ledger
import NetbirdOperator.Mirror.Shelf

/-!
# Lost status writes

A pass of the mirror reconciler applies its object to the account and then writes what the apply
returned into the status. For a kind that finds its object in the account by the recorded id alone,
the status is the only record there is, so the object and its collection are a ledger: a pass whose
last patch is lost after it created something leaves that off the record, and no other pass does.

`Keeper` says which kinds these are, by what their apply and their delete do.

## Main results

* `Mirror.books_of_upserted` — an upsert, with its answer written down or not
* `Mirror.reconcile_books` — a pass keeps the books unless it loses what it created
* `Mirror.submit_delete_books` — so does the user who asks for the deletion
-/

namespace NetbirdOperator

open ControlLoop

namespace Mirror

open Pass Ledger

open Mirror.Shelf (Upserted)

variable {S R A C α : Type} {fault : Call C → Option Fault} {m : Mirror S R A C} {sh : Shelf A α}
  {key : R → Option ℕ} {w : World S R A} {uid : ℕ} {o : Object S (Status R)}

/-- What the object has on record, and the collection that is about. -/
def ledger (key : R → Option ℕ) (sh : Shelf A α) (uid : ℕ) (w : World S R A) : Ledger α :=
  ⟨(w.objects.get uid).map fun o => key o.status.recorded, sh.view w.account⟩

theorem ledger_of_get (hget : w.objects.get uid = some o) :
    ledger key sh uid w = ⟨some (key o.status.recorded), sh.view w.account⟩ := by
  rw [ledger, hget]
  rfl

theorem ledger_account (hget : w.objects.get uid = some o) (a : A) :
    ledger key sh uid ⟨w.objects, a⟩ = ⟨some (key o.status.recorded), sh.view a⟩ :=
  ledger_of_get hget

/-- The ledger after a write to the object and to the account. -/
theorem ledger_update (hget : w.objects.get uid = some o) (o' : Object S (Status R)) (a : A) :
    ledger key sh uid ⟨w.objects.update uid o', a⟩ = ⟨some (key o'.status.recorded), sh.view a⟩ :=
  ledger_of_get (Store.get_update_self hget o')

theorem ledger_delete (objects : Store (Object S (Status R))) (a : A) :
    ledger key sh uid ⟨objects.delete uid, a⟩ = ⟨none, sh.view a⟩ := by
  rw [ledger, Store.get_delete_self]
  rfl

/-- The kind keeps one object of the collection for `o`: it updates the one on record, or creates
one if nothing is left of it, and deletes the one on record. `creates` says when it creates one. -/
structure Keeper (m : Mirror S R A C) (sh : Shelf A α) (key : R → Option ℕ) (uid : ℕ)
    (w : World S R A) (o : Object S (Status R)) (creates : Prop) : Prop where
  apply : Triple (fun a => a = w.account) (m.apply (withFinalizer o))
    (fun r a => ∃ i req, key r = some i ∧
      Upserted sh (key o.status.recorded) req w.account i a)
    fun _ a => a = w.account
  grows : (sh.view w.account).next < (sh.view (m.apply (withFinalizer o) w.account).2).next ↔
    creates
  del : Triple (fun a => a = w.account) (m.del uid w.objects o)
    (fun _ a => sh.view a = without (sh.view w.account) (key o.status.recorded))
    fun e a => a = w.account ∧ (e.isNotFound = true →
      ∀ i, key o.status.recorded = some i → ¬ (sh.view w.account).Has i)

/-! ### A pass -/

/-- A pass over a live object gets to its apply, and that creates something. -/
def Creates (fault : Call C → Option Fault) (uid : ℕ) (w : World S R A)
    (creates : Object S (Status R) → Prop) : Prop :=
  fault .get = none ∧ fault .patchFinalizer = none ∧
    ∃ o ∈ w.objects.get uid, o.deleting = false ∧ creates o

/-- What is created between `a` and `a'` is written down. -/
def Records (sh : Shelf A α) (written : Prop) (a a' : A) : Prop :=
  (sh.view a).next < (sh.view a').next → written

variable {creates : Prop}

/-- What creates nothing has nothing to write down. -/
theorem books_of_next {a a' : A} {written : Prop} (hnext : (sh.view a').next = (sh.view a).next)
    {l l' : Ledger α} (h : Step l l') : Books (Records sh written a a') l l' :=
  Or.inl ⟨fun hlt => absurd hlt (by omega), h⟩

/-- An upsert on what is on record, whether its answer is written down or not. Only what it created
is missed. -/
theorem books_of_upserted {r : Option ℕ} {req : α} {a a' : A} {i : ℕ} {written : Prop}
    [Decidable written] (h : Upserted sh r req a i a') :
    Books (Records sh written a a') ⟨some r, sh.view a⟩
      ⟨some (if written then some i else r), sh.view a'⟩ := by
  cases h with
  | updated hold hhas =>
    rw [hold, ite_self]
    refine books_of_next ?_ ?_ <;> rw [sh.view_set]
    · rfl
    · exact .update i req
  | created hgone =>
    have hnext : (sh.view a).next < (sh.view (sh.set a ((sh.view a).create req))).next := by
      rw [sh.view_set]
      exact Nat.lt_succ_self _
    rw [sh.view_set]
    by_cases hwritten : written
    · rw [if_pos hwritten]
      exact Or.inl ⟨fun _ => hwritten, .create rfl hgone req⟩
    · rw [if_neg hwritten]
      exact Or.inr ⟨fun hrecords => hwritten (hrecords hnext), .create rfl req⟩

/-- What is on record is removed, and the object is let go or not yet. -/
theorem books_of_without {r : Option ℕ} {a a' : A} {written : Prop} {owner : Option (Option ℕ)}
    (hview : sh.view a' = without (sh.view a) r) (howner : owner = some r ∨ owner = none) :
    Books (Records sh written a a') ⟨some r, sh.view a⟩ ⟨owner, sh.view a'⟩ := by
  refine books_of_next ?_ ?_ <;> rw [hview]
  · exact next_without _ _
  · rcases howner with rfl | rfl
    · exact .remove rfl
    · exact .release rfl

theorem Keeper.live_books (h : Keeper m sh key uid w o creates) (hget : w.objects.get uid = some o)
    (hlive : o.deleting = false) :
    Books (Records sh (fault .patchReady = none) w.account (reconcile fault m uid w).2.account)
      (ledger key sh uid w) (ledger key sh uid (reconcile fault m uid w).2) := by
  rw [reconcile_live_eq fault m hget hlive]
  split
  swap
  · exact books_of_next rfl .idle
  rcases happly : m.apply (withFinalizer o) w.account with ⟨out, a⟩
  rw [ledger_of_get hget, ledger_update hget]
  cases out with
  | ok r =>
    obtain ⟨i, req, hkey, hups⟩ := h.apply.ok rfl happly
    have hon : key (reported fault o (.ok r)).status.recorded =
        if fault .patchReady = none then some i else key o.status.recorded := by
      rw [reported]
      split
      · exact hkey
      · rfl
    rw [hon]
    exact books_of_upserted hups
  | error e =>
    obtain rfl := h.apply.error rfl happly
    rw [recorded_of_error]
    exact books_of_next rfl .idle

/-- A deletion that returns has removed what was on record, one that finds nothing left had nothing
to remove, and any other leaves the account as it was. -/
theorem Keeper.del_view (h : Keeper m sh key uid w o creates) :
    sh.view (m.del uid w.objects o w.account).2 =
        without (sh.view w.account) (key o.status.recorded) ∨
      (sh.view (m.del uid w.objects o w.account).2 = sh.view w.account ∧
        ∃ e, (m.del uid w.objects o w.account).1 = .error e ∧ e.isNotFound = false) := by
  rcases hdel : m.del uid w.objects o w.account with ⟨out, a⟩
  cases out with
  | ok u => exact Or.inl (h.del.ok rfl hdel)
  | error e =>
    obtain ⟨rfl, hgone⟩ := h.del.error rfl hdel
    cases hnf : e.isNotFound with
    | true => exact Or.inl (without_eq_self (hgone hnf)).symm
    | false => exact Or.inr ⟨rfl, e, rfl, hnf⟩

theorem Keeper.deleting_step (h : Keeper m sh key uid w o creates)
    (hget : w.objects.get uid = some o) (hdel : o.deleting = true) :
    Step (ledger key sh uid w) (ledger key sh uid (reconcile fault m uid w).2) := by
  have heffect : Effect m w uid (reconcile fault m uid w).2 := reconcile_effect
  generalize (reconcile fault m uid w).2 = w' at heffect
  cases heffect with
  | idle => exact .idle
  | applied hget' hlive =>
    obtain rfl := Option.some.inj (hget.symm.trans hget')
    exact absurd (hdel.symm.trans hlive) (by simp)
  | kept hget' =>
    obtain rfl := Option.some.inj (hget.symm.trans hget')
    rw [ledger_of_get hget, ledger_account hget]
    rcases h.del_view with hview | ⟨hview, -⟩ <;> rw [hview]
    · exact .remove rfl
    · exact .idle
  | released hget' _ hout =>
    obtain rfl := Option.some.inj (hget.symm.trans hget')
    rw [ledger_of_get hget, ledger_delete]
    rcases h.del_view with hview | ⟨-, e, he, hnf⟩
    · rw [hview]
      exact .release rfl
    · exact absurd (hnf.symm.trans (hout e he)) (by simp)

/-- **A pass** keeps the books, unless its last patch is lost after it created something. -/
theorem reconcile_books {creates : Object S (Status R) → Prop}
    (h : ∀ o, w.objects.get uid = some o → Keeper m sh key uid w o (creates o)) :
    Books (Creates fault uid w creates → fault .patchReady = none)
      (ledger key sh uid w) (ledger key sh uid (reconcile fault m uid w).2) := by
  cases hget : w.objects.get uid with
  | none =>
    rw [reconcile_gone hget]
    exact Or.inl ⟨fun ⟨_, _, o, ho, _⟩ => absurd ho (by simp [hget]), .idle⟩
  | some o =>
    cases hdel : o.deleting with
    | false =>
      refine ((h o hget).live_books hget hdel).congr (imp_congr_left ?_)
      rw [reconcile_live_eq fault m hget hdel, Creates, hget]
      split
      · next hreached => simp [hreached, (h o hget).grows, hdel]
      · next hlost => simpa using fun hcall hfin => absurd ⟨hcall, hfin⟩ hlost
    | true =>
      refine Or.inl ⟨fun hcreates => ?_, (h o hget).deleting_step hget hdel⟩
      simp [Creates, hget, hdel] at hcreates

/-! ### The user -/

/-- An object that is not held yet has nothing on record. -/
def Unheld (key : R → Option ℕ) (uid : ℕ) (w : World S R A) : Prop :=
  ∀ o, w.objects.get uid = some o → o.finalizer = false → key o.status.recorded = none

theorem Unheld.reconcile (h : Unheld key uid w) : Unheld key uid (reconcile fault m uid w).2 := by
  have heffect : Effect m w uid (Mirror.reconcile fault m uid w).2 := reconcile_effect
  generalize (Mirror.reconcile fault m uid w).2 = w' at heffect
  cases heffect with
  | idle => exact h
  | @applied o o' hget hlive hown hrec =>
    intro o₁ hget₁ hfin
    obtain rfl := Option.some.inj ((Store.get_update_self hget o').symm.trans hget₁)
    exact absurd (hfin.symm.trans hown.finalizer) (by simp)
  | kept => exact h
  | released =>
    intro o₁ hget₁
    exact absurd (Store.get_delete_self w.objects uid ▸ hget₁) (by simp)

theorem Unheld.submit_delete (h : Unheld key uid w) (fresh : Status R) :
    Unheld key uid { w with objects := w.objects.submit fresh (.delete uid) } := by
  intro o hget hfin
  have hmem : (⟨uid, o⟩ : Entry _) ∈ w.objects.submit fresh (.delete uid) :=
    Store.get_eq_some.mp hget
  rcases Store.of_mem_submit hmem with ⟨-, -, hnext⟩ | ⟨f, hf, hid, hstatus, hfin', -⟩
  · obtain ⟨f, hf, hid⟩ := Store.exists_of_mem_submit (by simp) hmem
    exact absurd (Store.id_lt_next hf) (by simp only at hnext hid; omega)
  · obtain ⟨i, c⟩ := f
    obtain rfl : i = uid := hid
    rw [show o.status = c.status from hstatus]
    exact h c (Store.get_of_mem hf) (hfin'.symm.trans hfin)

/-- **A delete by the user** lets the object go if it is not held, and then nothing is on record. -/
theorem submit_delete_books (h : Unheld key uid w) (fresh : Status R) :
    Step (ledger key sh uid w)
      (ledger key sh uid { w with objects := w.objects.submit fresh (.delete uid) }) := by
  rw [Store.submit]
  cases hget : w.objects.get uid with
  | none => exact .idle
  | some o =>
    dsimp only
    rw [ledger_of_get hget]
    split
    · rw [ledger_update hget]
      exact .idle
    · next hfin =>
      rw [ledger_delete, h o hget (by simpa using hfin)]
      exact step_release_none _

end Mirror

end NetbirdOperator
