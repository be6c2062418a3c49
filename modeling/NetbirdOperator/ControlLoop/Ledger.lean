import NetbirdOperator.ControlLoop.Run
import NetbirdOperator.ControlLoop.Store

/-!
# What an owner has on record

An owner that keeps an object in a store it shares with others knows that object by the id it has
written down, and by nothing else. Creating the object and writing its id down are two steps, and a
system that can fail between them has lost the object for good: the owner creates another one when
it finds nothing on record, and when the owner goes away it takes along what is on record only.

`Ledger` is all of a system that this depends on. `Step` is what an owner may do that keeps its
books in order, `Slip` what leaves something off the record. A system whose events are steps or
slips is in order after a run exactly if none of them was a slip.

## Main definitions

* `ControlLoop.Ledger` — an owner's record and the store
* `Ledger.Mirrored`, `Ledger.LeftBehind` — one object for one owner, and what spoils it
* `Ledger.KeepsBooks` — a system seen as a ledger

## Main results

* `Ledger.KeepsBooks.mirrored` — without a slip there is one object for one owner
* `Ledger.KeepsBooks.leftBehind` — what one slip leaves behind is there for the rest of the run
-/

namespace ControlLoop

/-- The id an owner has on record, if there is an owner, and the store it is about. -/
structure Ledger (α : Type*) where
  owner : Option (Option ℕ)
  store : Store α

namespace Ledger

variable {α : Type*} {l l' : Ledger α} {n₀ : ℕ}

/-- The store without what is on record. -/
def without (s : Store α) : Option ℕ → Store α
  | none => s
  | some i => s.delete i

theorem mem_without {s : Store α} {r : Option ℕ} {e : Entry α} :
    e ∈ without s r ↔ e ∈ s ∧ r ≠ some e.id := by
  cases r with
  | none => simp [without]
  | some i => simp [without, eq_comm]

theorem next_without (s : Store α) (r : Option ℕ) : (without s r).next = s.next := by
  cases r <;> rfl

/-- What is found is what is there and not on record. -/
theorem get_without_eq_some {s : Store α} {r : Option ℕ} {i : ℕ} {a : α} :
    (without s r).get i = some a ↔ s.get i = some a ∧ r ≠ some i := by
  rw [Store.get_eq_some, Store.get_eq_some, mem_without]

/-- Of what is gone already nothing has to be removed. -/
theorem without_eq_self {s : Store α} {r : Option ℕ} (h : ∀ i, r = some i → ¬ s.Has i) :
    without s r = s := by
  cases r with
  | none => rfl
  | some i => exact Store.delete_eq_self fun e he hid => h i rfl ⟨e, he, hid⟩

/-- **What keeps the books in order.** An object is created only if nothing is left of the one on
record, and is on record at once; the owner removes what is on record, and goes away only when it
has done so. -/
inductive Step (l : Ledger α) : Ledger α → Prop
  | idle : Step l l
  | update (i : ℕ) (a : α) : Step l ⟨l.owner, l.store.update i a⟩
  | create {r : Option ℕ} (howner : l.owner = some r) (hgone : ∀ i, r = some i → ¬ l.store.Has i)
      (a : α) : Step l ⟨some (some l.store.next), l.store.create a⟩
  | remove {r : Option ℕ} (howner : l.owner = some r) : Step l ⟨some r, without l.store r⟩
  | release {r : Option ℕ} (howner : l.owner = some r) : Step l ⟨none, without l.store r⟩

/-- An owner with nothing on record may go away at any time. -/
theorem step_release_none (s : Store α) : Step ⟨some none, s⟩ ⟨none, s⟩ :=
  Step.release (l := ⟨some none, s⟩) (r := none) rfl

/-- **What leaves an object off the record**: it is created and not written down, or it was known
for a while and is forgotten. -/
inductive Slip (l : Ledger α) : Ledger α → Prop
  | create {r : Option ℕ} (howner : l.owner = some r) (a : α) : Slip l ⟨some r, l.store.create a⟩
  | forget {i : ℕ} (howner : l.owner = some (some i)) (hhas : l.store.Has i) :
      Slip l ⟨some none, l.store⟩

/-- What is on record was issued after the first `n₀` ids, and before now. -/
structure Issued (n₀ : ℕ) (l : Ledger α) : Prop where
  le_next : n₀ ≤ l.store.next
  owner : ∀ i, l.owner = some (some i) → n₀ ≤ i ∧ i < l.store.next

/-- Whatever was created since the first `n₀` ids is on record. -/
def Accounted (n₀ : ℕ) (l : Ledger α) : Prop :=
  ∀ e ∈ l.store, n₀ ≤ e.id → l.owner = some (some e.id)

/-- **One object for one owner**: of what was created since the first `n₀` ids there is at most one
object, and none once the owner is gone. -/
structure Mirrored (n₀ : ℕ) (l : Ledger α) : Prop where
  one : ∀ e ∈ l.store, ∀ f ∈ l.store, n₀ ≤ e.id → n₀ ≤ f.id → e = f
  none_left : l.owner = none → ∀ e ∈ l.store, e.id < n₀

/-- An object that was created since the first `n₀` ids is on no record. -/
def LeftBehind (n₀ : ℕ) (l : Ledger α) : Prop :=
  ∃ e ∈ l.store, n₀ ≤ e.id ∧ l.owner ≠ some (some e.id)

instance (n₀ : ℕ) (l : Ledger α) : Decidable (LeftBehind n₀ l) :=
  inferInstanceAs (Decidable (∃ e ∈ l.store, n₀ ≤ e.id ∧ l.owner ≠ some (some e.id)))

theorem Accounted.mirrored (h : Accounted n₀ l) : Mirrored n₀ l where
  one e he f hf hn hm := by
    have hid : e.id = f.id := Option.some.inj (Option.some.inj ((h e he hn).symm.trans (h f hf hm)))
    exact Store.eq_of_id_eq he hf hid
  none_left howner e he := by
    by_contra hle
    exact absurd (howner.symm.trans (h e he (by omega))) (by simp)

/-- What is left behind by an owner that is gone spoils it. -/
theorem LeftBehind.not_mirrored (h : LeftBehind n₀ l) (hgone : l.owner = none) :
    ¬ Mirrored n₀ l := by
  obtain ⟨e, he, hn, -⟩ := h
  intro hm
  have hlt := hm.none_left hgone e he
  omega

/-! ### One event -/

theorem Step.issued (h : Step l l') (hl : Issued n₀ l) : Issued n₀ l' := by
  have hle := hl.le_next
  cases h with
  | idle => exact hl
  | update i a => exact ⟨hl.le_next, hl.owner⟩
  | create howner hgone a =>
    refine ⟨Nat.le_succ_of_le hle, fun i hi => ?_⟩
    obtain rfl := Option.some.inj (Option.some.inj hi)
    exact ⟨hle, Nat.lt_succ_self _⟩
  | remove howner =>
    refine ⟨by rwa [next_without], fun i hi => ?_⟩
    rw [next_without]
    exact hl.owner i (howner.trans hi)
  | release howner => exact ⟨by rwa [next_without], fun i hi => absurd hi (by simp)⟩

theorem Slip.issued (h : Slip l l') (hl : Issued n₀ l) : Issued n₀ l' := by
  have hle := hl.le_next
  cases h with
  | create howner a =>
    refine ⟨Nat.le_succ_of_le hle, fun i hi => ?_⟩
    have hi' := hl.owner i (howner.trans hi)
    exact ⟨hi'.1, Nat.lt_succ_of_lt hi'.2⟩
  | forget howner hhas => exact ⟨hle, fun i hi => absurd hi (by simp)⟩

theorem Step.accounted (h : Step l l') (hl : Accounted n₀ l) : Accounted n₀ l' := by
  -- An owner with `r` on record accounts for nothing but `r`.
  have honly : ∀ {r : Option ℕ}, l.owner = some r → ∀ e ∈ l.store, n₀ ≤ e.id → r = some e.id :=
    fun howner e he hn => Option.some.inj (howner.symm.trans (hl e he hn))
  cases h with
  | idle => exact hl
  | update i a =>
    intro e he hn
    rcases Store.mem_update.mp he with ⟨he, -⟩ | ⟨rfl, f, hf, rfl⟩
    · exact hl e he hn
    · exact hl f hf hn
  | create howner hgone a =>
    intro e he hn
    rcases Store.mem_create.mp he with he | rfl
    · exact absurd ⟨e, he, rfl⟩ (hgone e.id (honly howner e he hn))
    · rfl
  | remove howner | release howner =>
    intro e he hn
    obtain ⟨he, hne⟩ := mem_without.mp he
    exact absurd (honly howner e he hn) hne

theorem Slip.leftBehind (h : Slip l l') (hl : Issued n₀ l) : LeftBehind n₀ l' := by
  cases h with
  | create howner a =>
    refine ⟨⟨l.store.next, a⟩, Store.mem_create.mpr (Or.inr rfl), hl.le_next, fun hr => ?_⟩
    exact Nat.lt_irrefl _ (hl.owner _ (howner.trans hr)).2
  | forget howner hhas =>
    obtain ⟨e, he, rfl⟩ := hhas
    exact ⟨e, he, (hl.owner _ howner).1, by simp⟩

/-- What is on no record is not found again. -/
theorem Step.leftBehind (h : Step l l') (hl : LeftBehind n₀ l) : LeftBehind n₀ l' := by
  obtain ⟨e, he, hn, howner⟩ := hl
  cases h with
  | idle => exact ⟨e, he, hn, howner⟩
  | update i a =>
    obtain ⟨f, hf, hid⟩ : (l.store.update i a).Has e.id := Store.has_update.mpr ⟨e, he, rfl⟩
    exact ⟨f, hf, hid ▸ hn, hid ▸ howner⟩
  | create _ _ a =>
    refine ⟨e, Store.mem_create.mpr (Or.inl he), hn, fun hnext => ?_⟩
    have hlt := Store.id_lt_next he
    rw [Option.some.inj (Option.some.inj hnext)] at hlt
    exact Nat.lt_irrefl _ hlt
  | remove hr =>
    exact ⟨e, mem_without.mpr ⟨he, fun h => howner (hr.trans (congrArg some h))⟩, hn, hr ▸ howner⟩
  | release hr =>
    exact ⟨e, mem_without.mpr ⟨he, fun h => howner (hr.trans (congrArg some h))⟩, hn, by simp⟩

/-- An event that keeps the books in order, or has failed to record something. -/
def Books (recorded : Prop) (l l' : Ledger α) : Prop :=
  (recorded ∧ Step l l') ∨ (¬ recorded ∧ Slip l l')

theorem Step.books (h : Step l l') : Books True l l' := Or.inl ⟨trivial, h⟩

theorem Books.congr {p q : Prop} (h : Books p l l') (hiff : p ↔ q) : Books q l l' := by
  rwa [Books, ← hiff]

/-! ### Runs -/

/-- A system seen as a ledger. Where `I` holds, an event that meets `C` keeps the books, and `R` is
that it records what there is to record. -/
structure KeepsBooks {σ ε : Type*} (step : σ → ε → σ) (view : σ → Ledger α) (I : σ → Prop)
    (C R : σ → ε → Prop) : Prop where
  inv : ∀ s e, I s → C s e → I (step s e)
  books : ∀ s e, I s → C s e → Books (R s e) (view s) (view (step s e))

/-- After the run there is one object for one owner if each event recorded what there was to record,
and otherwise something is left behind; so once the owner is gone, the one holds exactly if the
other does. -/
def Faithful {σ ε : Type*} (step : σ → ε → σ) (view : σ → Ledger α) (R : σ → ε → Prop) (s : σ)
    (es : List ε) : Prop :=
  ((Along es fun pre e => R (run step s pre) e) →
      Mirrored (view s).store.next (view (run step s es))) ∧
    ((¬ Along es fun pre e => R (run step s pre) e) →
      LeftBehind (view s).store.next (view (run step s es))) ∧
    ((view (run step s es)).owner = none →
      (Mirrored (view s).store.next (view (run step s es)) ↔
        Along es fun pre e => R (run step s pre) e))

namespace KeepsBooks

variable {σ ε : Type*} {step : σ → ε → σ} {view : σ → Ledger α} {I : σ → Prop} {C R : σ → ε → Prop}
  {s : σ} {es : List ε} (h : KeepsBooks step view I C R) (h0 : I s)
  (hes : Along es fun pre e => C (run step s pre) e)

include h h0 hes

/-- **Without a slip** there is one object for one owner. -/
theorem mirrored (hrec : Along es fun pre e => R (run step s pre) e) :
    Mirrored (view s).store.next (view (run step s es)) := by
  have hstart : Accounted (view s).store.next (view s) :=
    fun e he hn => absurd (Store.id_lt_next he) (by omega)
  have haccounted : I (run step s es) ∧ Accounted (view s).store.next (view (run step s es)) := by
    refine run_invariant (C := fun s e => C s e ∧ R s e)
      (I := fun s' => I s' ∧ Accounted (view s).store.next (view s'))
      (fun pre e post hsplit => ⟨hes pre e post hsplit, hrec pre e post hsplit⟩)
      ⟨h0, hstart⟩ fun s' e hs' he => ⟨h.inv s' e hs'.1 he.1, ?_⟩
    rcases h.books s' e hs'.1 he.1 with ⟨-, hstep⟩ | ⟨hnot, -⟩
    · exact hstep.accounted hs'.2
    · exact absurd he.2 hnot
  exact haccounted.2.mirrored

/-- **What a slip leaves behind** is there for the rest of the run. -/
theorem leftBehind (howner : (view s).owner = some none)
    (hlost : ¬ Along es fun pre e => R (run step s pre) e) :
    LeftBehind (view s).store.next (view (run step s es)) := by
  have hrun : I (run step s es) ∧ Issued (view s).store.next (view (run step s es)) ∧
      ((Along es fun pre e => R (run step s pre) e) ∨
        LeftBehind (view s).store.next (view (run step s es))) := by
    refine run_induction (I := fun es => I (run step s es) ∧
      Issued (view s).store.next (view (run step s es)) ∧
      ((Along es fun pre e => R (run step s pre) e) ∨
        LeftBehind (view s).store.next (view (run step s es)))) hes
      ⟨h0, ⟨Nat.le_refl _, fun i hi => absurd (howner.symm.trans hi) (by simp)⟩, Or.inl along_nil⟩
      fun fs e hfs he => ?_
    obtain ⟨hI, hissued, hsofar⟩ := hfs
    rw [run_concat, along_concat]
    refine ⟨h.inv _ e hI he, ?_⟩
    rcases h.books _ e hI he with ⟨hrec, hstep⟩ | ⟨-, hslip⟩
    · exact ⟨hstep.issued hissued, hsofar.imp (fun hall => ⟨hall, hrec⟩) hstep.leftBehind⟩
    · exact ⟨hslip.issued hissued, Or.inr (hslip.leftBehind hissued)⟩
  exact hrun.2.2.resolve_left hlost

theorem faithful (howner : (view s).owner = some none) : Faithful step view R s es := by
  refine ⟨h.mirrored h0 hes, h.leftBehind h0 hes howner, fun hgone => ⟨fun hm => ?_, ?_⟩⟩
  · by_contra hlost
    exact (h.leftBehind h0 hes howner hlost).not_mirrored hgone hm
  · exact h.mirrored h0 hes

end KeepsBooks

end Ledger

end ControlLoop
