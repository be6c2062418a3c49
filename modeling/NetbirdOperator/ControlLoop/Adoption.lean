import NetbirdOperator.ControlLoop.Store

/-!
# Find before you create

A loop that may forget what it created has to look for it. Each of its rounds scans a store for an
object that satisfies `p`, writes to the one it finds, and creates one only if it finds none. What
it writes and creates satisfies `p`, so the next scan finds it, and over any number of rounds at
most one object is created.

The scan takes the first match in list order. Writing to the match keeps it the first, which is why
all rounds agree on one object even where the store had several matches to begin with.

## Main definitions

* `ControlLoop.Store.firstID` — the object a scan settles on
* `ControlLoop.CreatedOnce` — what has become of a store that such a loop works on

## Main results

* `CreatedOnce.update`, `CreatedOnce.create` — one round
-/

namespace ControlLoop

variable {α : Type*} {p : α → Bool}

namespace Store

variable {s : Store α} {i : ℕ} {a b : α}

/-- The id of the first object, in list order, that satisfies `p`. -/
def firstID (s : Store α) (p : α → Bool) : Option ℕ := (s.first p).map Entry.id

theorem firstID_eq_none : s.firstID p = none ↔ s.first p = none := Option.map_eq_none_iff

theorem get_of_firstID (h : s.firstID p = some i) : ∃ a, s.get i = some a ∧ p a = true := by
  obtain ⟨e, he, rfl⟩ := Option.map_eq_some_iff.mp h
  exact ⟨e.val, get_of_mem (mem_of_first he), prop_of_first he⟩

/-- A write that leaves alone whether its object satisfies `p` is not noticed by the scan. -/
theorem firstID_update (h : ∀ a, s.get i = some a → p b = p a) :
    (s.update i b).firstID p = s.firstID p := by
  have hscan : ∀ l : List (Entry α), (∀ e ∈ l, e ∈ s) →
      ((l.map fun e => if e.id = i then ⟨i, b⟩ else e).find? fun e => p e.val).map Entry.id =
        (l.find? fun e => p e.val).map Entry.id := by
    intro l
    induction l with
    | nil => intro _; rfl
    | cons e l ih =>
      intro hl
      have hrest := ih fun f hf => hl f (List.mem_cons_of_mem _ hf)
      have he : e ∈ s := hl e List.mem_cons_self
      rw [List.map_cons, List.find?_cons, List.find?_cons]
      by_cases hid : e.id = i
      · subst hid
        rw [if_pos rfl]
        dsimp only
        rw [h e.val (get_of_mem he)]
        cases p e.val with
        | true => rfl
        | false => exact hrest
      · rw [if_neg hid]
        cases p e.val with
        | true => rfl
        | false => exact hrest
  rw [firstID, firstID, first, first, entries_update]
  exact hscan s.entries fun e he => he

/-- A store without a match that gets one has it as the first. -/
theorem firstID_create (h : s.firstID p = none) (hb : p b = true) :
    (s.create b).firstID p = some s.next := by
  have hnone : s.entries.find? (fun e => p e.val) = none := firstID_eq_none.mp h
  show ((s.entries ++ [(⟨s.next, b⟩ : Entry α)]).find? fun e => p e.val).map Entry.id = some s.next
  rw [List.find?_append, hnone, Option.none_or, List.find?_cons, hb]
  rfl

end Store

/-- What has become of the store `s₀`, of which the loop knows only what a scan for `p` tells it:
nothing was created, and the scan settles on what it did; or there was no match, and the one object
that was created since is what the scan settles on. -/
inductive CreatedOnce (p : α → Bool) (s₀ s : Store α) : Prop
  | nothing (hnext : s.next = s₀.next) (hfirst : s.firstID p = s₀.firstID p)
  | one (habsent : s₀.firstID p = none) (hnext : s.next = s₀.next + 1)
      (hfirst : s.firstID p = some s₀.next)

variable {s₀ s : Store α}

theorem CreatedOnce.refl (s₀ : Store α) : CreatedOnce p s₀ s₀ := .nothing rfl rfl

theorem CreatedOnce.next_le (h : CreatedOnce p s₀ s) : s.next ≤ s₀.next + 1 := by
  cases h with
  | nothing hnext _ => omega
  | one _ hnext _ => omega

/-- The object a scan settles on: the one created, or else the one that was there. -/
theorem CreatedOnce.firstID (h : CreatedOnce p s₀ s) {i : ℕ} (hi : s.firstID p = some i) :
    (s.next = s₀.next ∧ s₀.firstID p = some i) ∨
      (s₀.firstID p = none ∧ s.next = s₀.next + 1 ∧ i = s₀.next) := by
  cases h with
  | nothing hnext hfirst => exact Or.inl ⟨hnext, hfirst ▸ hi⟩
  | one habsent hnext hfirst =>
    exact Or.inr ⟨habsent, hnext, Option.some.inj (hi.symm.trans hfirst)⟩

/-- **A round that writes.** -/
theorem CreatedOnce.update (h : CreatedOnce p s₀ s) {i : ℕ} {b : α}
    (hb : ∀ a, s.get i = some a → p b = p a) : CreatedOnce p s₀ (s.update i b) := by
  have hsame : (s.update i b).firstID p = s.firstID p := Store.firstID_update hb
  cases h with
  | nothing hnext hfirst => exact .nothing hnext (hsame.trans hfirst)
  | one habsent hnext hfirst => exact .one habsent hnext (hsame.trans hfirst)

/-- **A round that creates**, since the scan has found nothing. -/
theorem CreatedOnce.create (h : CreatedOnce p s₀ s) (hnone : s.firstID p = none) {b : α}
    (hb : p b = true) : CreatedOnce p s₀ (s.create b) := by
  cases h with
  | nothing hnext hfirst =>
    refine .one (hfirst.symm.trans hnone) (congrArg (· + 1) hnext) ?_
    rw [Store.firstID_create hnone hb, hnext]
  | one _ _ hfirst => exact absurd (hfirst.symm.trans hnone) (by simp)

end ControlLoop
