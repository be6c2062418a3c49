import Mathlib.Data.List.Nodup
import Mathlib.Tactic.Common

/-!
# Collections behind a server

A server keeps a collection of objects. It answers a create with an id it has never issued
before, and get, update and delete address one object by its id. A list request returns the
objects in an order that creations extend at the end and nothing else disturbs.

`Store α` is such a collection, with the two facts every argument about it uses carried as
fields: no two objects share an id, and every id is below the next one to be issued. An id that
was issued once therefore never comes to denote another object.

## Main definitions

* `ControlLoop.Entry`, `Store` — an object with its id, and the collection
* `Store.get`, `create`, `update`, `delete` — the four requests
* `Store.Has` — the id denotes an object
* `Store.first` — the client-side scan of a list response for the first match

## Main results

* `Store.mem_create`, `mem_update`, `mem_delete` — what each request leaves behind
* `Store.get_eq_some` — a get answers with the one object of that id
* `Store.first_delete_of_ne` — deleting an object a scan does not select leaves its answer alone
-/

namespace ControlLoop

/-- An object of a collection, under the id the server issued for it. -/
structure Entry (α : Type*) where
  /-- The id the server issued. -/
  id : ℕ
  /-- The object. -/
  val : α
  deriving DecidableEq, Repr

/-- A collection of objects, in the order a list request returns them. -/
structure Store (α : Type*) where
  /-- The objects, oldest first. -/
  entries : List (Entry α)
  /-- The id the next create will be answered with. -/
  next : ℕ
  /-- An id denotes at most one object. -/
  nodup : (entries.map Entry.id).Nodup
  /-- Ids already issued are below the next one. -/
  lt_next : ∀ e ∈ entries, e.id < next
  deriving DecidableEq

namespace Store

variable {α : Type*}

theorem ext {s t : Store α} (he : s.entries = t.entries) (hn : s.next = t.next) : s = t := by
  cases s
  cases t
  obtain rfl := he
  obtain rfl := hn
  rfl

instance : Membership (Entry α) (Store α) := ⟨fun s e => e ∈ s.entries⟩

theorem mem_def {s : Store α} {e : Entry α} : e ∈ s ↔ e ∈ s.entries := Iff.rfl

instance [DecidableEq α] (e : Entry α) (s : Store α) : Decidable (e ∈ s) :=
  inferInstanceAs (Decidable (e ∈ s.entries))

instance (s : Store α) (p : Entry α → Prop) [DecidablePred p] : Decidable (∀ e ∈ s, p e) :=
  inferInstanceAs (Decidable (∀ e ∈ s.entries, p e))

instance (s : Store α) (p : Entry α → Prop) [DecidablePred p] : Decidable (∃ e ∈ s, p e) :=
  inferInstanceAs (Decidable (∃ e ∈ s.entries, p e))

/-- The collection with nothing in it, and nothing issued yet. -/
def empty : Store α := ⟨[], 0, List.nodup_nil, by simp⟩

/-- An object is determined by its id. -/
theorem eq_of_id_eq {s : Store α} {e f : Entry α} (he : e ∈ s) (hf : f ∈ s)
    (h : e.id = f.id) : e = f :=
  List.inj_on_of_nodup_map s.nodup he hf h

theorem id_lt_next {s : Store α} {e : Entry α} (he : e ∈ s) : e.id < s.next := s.lt_next e he

/-! ### Create -/

/-- Add an object under the next id. -/
def create (s : Store α) (a : α) : Store α where
  entries := s.entries ++ [⟨s.next, a⟩]
  next := s.next + 1
  nodup := by
    rw [List.map_append, List.map_singleton]
    refine List.Nodup.append s.nodup (List.nodup_singleton _) ?_
    intro i hi hj
    obtain ⟨e, he, rfl⟩ := List.mem_map.mp hi
    exact absurd (List.mem_singleton.mp hj) (Nat.ne_of_lt (s.lt_next e he))
  lt_next := by
    intro e he
    rcases List.mem_append.mp he with h | h
    · exact Nat.lt_succ_of_lt (s.lt_next e h)
    · rw [List.mem_singleton.mp h]
      exact Nat.lt_succ_self _

@[simp] theorem mem_create {s : Store α} {a : α} {e : Entry α} :
    e ∈ s.create a ↔ e ∈ s ∨ e = ⟨s.next, a⟩ := by
  simp [mem_def, create]

/-! ### Delete -/

/-- Remove the object of that id, if there is one. -/
def delete (s : Store α) (i : ℕ) : Store α where
  entries := s.entries.filter fun e => e.id ≠ i
  next := s.next
  nodup := s.nodup.sublist (List.filter_sublist.map Entry.id)
  lt_next := fun e he => s.lt_next e (List.mem_of_mem_filter he)

theorem entries_delete (s : Store α) (i : ℕ) :
    (s.delete i).entries = s.entries.filter fun e => e.id ≠ i := rfl

@[simp] theorem next_delete (s : Store α) (i : ℕ) : (s.delete i).next = s.next := rfl

@[simp] theorem mem_delete {s : Store α} {i : ℕ} {e : Entry α} :
    e ∈ s.delete i ↔ e ∈ s ∧ e.id ≠ i := by
  simp [mem_def, delete]

/-- What a delete takes away is the object of that id. -/
theorem id_eq_of_not_mem_delete {s : Store α} {i : ℕ} {e : Entry α} (he : e ∈ s)
    (h : e ∉ s.delete i) : e.id = i := by
  by_contra hne
  exact h (mem_delete.mpr ⟨he, hne⟩)

theorem delete_eq_self {s : Store α} {i : ℕ} (h : ∀ e ∈ s, e.id ≠ i) : s.delete i = s := by
  refine ext ?_ rfl
  exact List.filter_eq_self.mpr fun e he => by simpa using h e he

/-! ### Update -/

/-- Replace the object of that id, if there is one. -/
def update (s : Store α) (i : ℕ) (a : α) : Store α where
  entries := s.entries.map fun e => if e.id = i then ⟨i, a⟩ else e
  next := s.next
  nodup := by
    have h : (fun e : Entry α => (if e.id = i then (⟨i, a⟩ : Entry α) else e).id) = Entry.id := by
      funext e
      split <;> simp_all
    rw [List.map_map, Function.comp_def, h]
    exact s.nodup
  lt_next := by
    intro e he
    obtain ⟨f, hf, rfl⟩ := List.mem_map.mp he
    split
    · next h => exact h ▸ s.lt_next f hf
    · exact s.lt_next f hf

theorem entries_update (s : Store α) (i : ℕ) (a : α) :
    (s.update i a).entries = s.entries.map fun e => if e.id = i then ⟨i, a⟩ else e := rfl

theorem mem_update {s : Store α} {i : ℕ} {a : α} {e : Entry α} :
    e ∈ s.update i a ↔ (e ∈ s ∧ e.id ≠ i) ∨ (e = ⟨i, a⟩ ∧ ∃ f ∈ s, f.id = i) := by
  simp only [mem_def, update, List.mem_map]
  constructor
  · rintro ⟨f, hf, rfl⟩
    by_cases h : f.id = i
    · rw [if_pos h]
      exact Or.inr ⟨rfl, f, hf, h⟩
    · rw [if_neg h]
      exact Or.inl ⟨hf, h⟩
  · rintro (⟨he, hne⟩ | ⟨rfl, f, hf, hid⟩)
    · exact ⟨e, he, if_neg hne⟩
    · exact ⟨f, hf, if_pos hid⟩

/-- An update of an object that is there puts the new value under its id. -/
theorem mem_update_self {s : Store α} {e : Entry α} (he : e ∈ s) (a : α) :
    (⟨e.id, a⟩ : Entry α) ∈ s.update e.id a :=
  mem_update.mpr (Or.inr ⟨rfl, e, he, rfl⟩)

/-- An update leaves the other objects alone. -/
theorem mem_update_of_ne {s : Store α} {i : ℕ} {a : α} {e : Entry α} (h : e.id ≠ i) :
    e ∈ s.update i a ↔ e ∈ s := by
  rw [mem_update]
  refine ⟨?_, fun he => Or.inl ⟨he, h⟩⟩
  rintro (⟨he, -⟩ | ⟨rfl, -⟩)
  · exact he
  · exact absurd rfl h

/-- Writing back what is already there changes nothing. -/
theorem update_eq_self {s : Store α} {e : Entry α} (he : e ∈ s) : s.update e.id e.val = s := by
  refine ext ((List.map_congr_left fun f hf => ?_).trans (List.map_id _)) rfl
  by_cases h : f.id = e.id
  · rw [if_pos h, eq_of_id_eq hf he h, id]
  · rw [if_neg h, id]

/-- The last of two writes to one object is the one that stays. -/
theorem update_update (s : Store α) (i : ℕ) (a b : α) :
    (s.update i a).update i b = s.update i b := by
  refine ext ?_ rfl
  rw [entries_update, entries_update, entries_update, List.map_map]
  refine List.map_congr_left fun f _ => ?_
  by_cases h : f.id = i <;> simp [h]

/-- Without the object it wrote, a write is not to be seen. -/
theorem delete_update (s : Store α) (i : ℕ) (a : α) : (s.update i a).delete i = s.delete i := by
  refine ext ?_ rfl
  rw [entries_delete, entries_update, entries_delete, List.filter_map]
  rw [show ((fun e : Entry α => decide (e.id ≠ i)) ∘ fun e => if e.id = i then ⟨i, a⟩ else e) =
      fun e => decide (e.id ≠ i) by
    funext e
    by_cases h : e.id = i <;> simp [h]]
  refine (List.map_congr_left fun f hf => ?_).trans (List.map_id _)
  rw [if_neg (by simpa using (List.mem_filter.mp hf).2), id]

theorem delete_delete (s : Store α) (i : ℕ) : (s.delete i).delete i = s.delete i :=
  delete_eq_self fun _ he => (mem_delete.mp he).2

/-! ### Get -/

/-- The object of that id, or nothing. -/
def get (s : Store α) (i : ℕ) : Option α := (s.entries.find? fun e => e.id = i).map Entry.val

theorem get_eq_some {s : Store α} {i : ℕ} {a : α} :
    s.get i = some a ↔ (⟨i, a⟩ : Entry α) ∈ s := by
  simp only [get, Option.map_eq_some_iff]
  constructor
  · rintro ⟨e, he, rfl⟩
    have hid : e.id = i := by simpa using List.find?_some he
    exact hid ▸ List.mem_of_find?_eq_some he
  · intro h
    obtain ⟨e, he⟩ := Option.isSome_iff_exists.mp
      (List.find?_isSome.mpr ⟨⟨i, a⟩, h, by simp⟩ :
        (s.entries.find? fun e => decide (e.id = i)).isSome)
    have hid : e.id = i := by simpa using List.find?_some he
    have : e = ⟨i, a⟩ := eq_of_id_eq (List.mem_of_find?_eq_some he) h hid
    exact ⟨e, he, by rw [this]⟩

theorem get_eq_none {s : Store α} {i : ℕ} : s.get i = none ↔ ∀ e ∈ s, e.id ≠ i := by
  simp only [get, Option.map_eq_none_iff, List.find?_eq_none, decide_eq_true_eq]
  rfl

theorem get_of_mem {s : Store α} {e : Entry α} (he : e ∈ s) : s.get e.id = some e.val :=
  get_eq_some.mpr he

theorem val_eq_of_get {s : Store α} {i : ℕ} {a : α} (h : s.get i = some a) {e : Entry α}
    (he : e ∈ s) (hid : e.id = i) : e.val = a := by
  rw [eq_of_id_eq he (get_eq_some.mp h) hid]

theorem get_update_self {s : Store α} {i : ℕ} {a : α} (h : s.get i = some a) (b : α) :
    (s.update i b).get i = some b :=
  get_eq_some.mpr (mem_update_self (get_eq_some.mp h) b)

theorem get_update_of_ne {s : Store α} {i j : ℕ} {b : α} (h : j ≠ i) :
    (s.update i b).get j = s.get j := by
  refine Option.ext fun a => ?_
  rw [get_eq_some, get_eq_some, mem_update_of_ne h]

theorem get_create_next (s : Store α) (a : α) : (s.create a).get s.next = some a :=
  get_eq_some.mpr (mem_create.mpr (Or.inr rfl))

theorem get_create_of_ne {s : Store α} {j : ℕ} {b : α} (h : j ≠ s.next) :
    (s.create b).get j = s.get j := by
  refine Option.ext fun a => ?_
  rw [get_eq_some, get_eq_some, mem_create]
  exact or_iff_left fun heq => h (congrArg Entry.id heq)

theorem get_delete_self (s : Store α) (i : ℕ) : (s.delete i).get i = none :=
  get_eq_none.mpr fun _ he => (mem_delete.mp he).2

theorem get_delete_of_ne {s : Store α} {i j : ℕ} (h : j ≠ i) : (s.delete i).get j = s.get j := by
  refine Option.ext fun a => ?_
  simp only [get_eq_some, mem_delete]
  exact and_iff_left h

theorem get_of_get_delete {s : Store α} {i j : ℕ} {a : α} (h : (s.delete i).get j = some a) :
    s.get j = some a :=
  get_eq_some.mpr (mem_delete.mp (get_eq_some.mp h)).1

/-- What is found after an update is the new object, or another one that was there. -/
theorem get_of_get_update {s : Store α} {i j : ℕ} {a b : α} (h : (s.update i b).get j = some a) :
    (j = i ∧ a = b) ∨ (j ≠ i ∧ s.get j = some a) := by
  obtain ⟨hmem, hj⟩ | ⟨heq, -⟩ := mem_update.mp (get_eq_some.mp h)
  · exact Or.inr ⟨hj, get_eq_some.mpr hmem⟩
  · exact Or.inl ⟨congrArg Entry.id heq, congrArg Entry.val heq⟩

/-- What is found after a create is the new object, or one that was there. -/
theorem get_of_get_create {s : Store α} {j : ℕ} {a b : α} (h : (s.create b).get j = some a) :
    (j = s.next ∧ a = b) ∨ s.get j = some a := by
  obtain hmem | heq := mem_create.mp (get_eq_some.mp h)
  · exact Or.inr (get_eq_some.mpr hmem)
  · exact Or.inl ⟨congrArg Entry.id heq, congrArg Entry.val heq⟩

/-- Two collections that agree without the object `i` agree on the others. -/
theorem mem_iff_of_delete_eq {s t : Store α} {i : ℕ} (h : t.delete i = s.delete i) {e : Entry α}
    (hid : e.id ≠ i) : e ∈ t ↔ e ∈ s := by
  have ht : e ∈ t.delete i ↔ e ∈ t := by simp [hid]
  have hs : e ∈ s.delete i ↔ e ∈ s := by simp [hid]
  rw [← ht, ← hs, h]

/-! ### Which ids denote something -/

/-- Some object has the id. -/
def Has (s : Store α) (i : ℕ) : Prop := ∃ e ∈ s, e.id = i

instance (s : Store α) (i : ℕ) : Decidable (s.Has i) :=
  inferInstanceAs (Decidable (∃ e ∈ s, e.id = i))

theorem has_of_get {s : Store α} {i : ℕ} {a : α} (h : s.get i = some a) : s.Has i :=
  ⟨_, get_eq_some.mp h, rfl⟩

theorem isSome_get {s : Store α} {i : ℕ} : (s.get i).isSome = true ↔ s.Has i := by
  rw [Option.isSome_iff_exists]
  constructor
  · rintro ⟨a, h⟩
    exact has_of_get h
  · rintro ⟨e, he, rfl⟩
    exact ⟨e.val, get_of_mem he⟩

theorem Has.lt_next {s : Store α} {i : ℕ} (h : s.Has i) : i < s.next := by
  obtain ⟨e, he, rfl⟩ := h
  exact id_lt_next he

theorem has_create {s : Store α} {i : ℕ} {a : α} :
    (s.create a).Has i ↔ s.Has i ∨ i = s.next := by
  constructor
  · rintro ⟨e, he, rfl⟩
    rcases mem_create.mp he with he | rfl
    · exact Or.inl ⟨e, he, rfl⟩
    · exact Or.inr rfl
  · rintro (⟨e, he, rfl⟩ | rfl)
    · exact ⟨e, mem_create.mpr (Or.inl he), rfl⟩
    · exact ⟨_, mem_create.mpr (Or.inr rfl), rfl⟩

theorem Has.create {s : Store α} {i : ℕ} (h : s.Has i) (a : α) : (s.create a).Has i :=
  has_create.mpr (Or.inl h)

theorem Has.get_update {s : Store α} {i : ℕ} (h : s.Has i) (a : α) :
    (s.update i a).get i = some a := by
  obtain ⟨e, he, rfl⟩ := h
  exact get_eq_some.mpr (mem_update_self he a)

theorem has_create_next (s : Store α) (a : α) : (s.create a).Has s.next :=
  has_create.mpr (Or.inr rfl)

@[simp] theorem has_delete {s : Store α} {i j : ℕ} : (s.delete j).Has i ↔ s.Has i ∧ i ≠ j := by
  constructor
  · rintro ⟨e, he, rfl⟩
    exact ⟨⟨e, (mem_delete.mp he).1, rfl⟩, (mem_delete.mp he).2⟩
  · rintro ⟨⟨e, he, rfl⟩, hne⟩
    exact ⟨e, mem_delete.mpr ⟨he, hne⟩, rfl⟩

/-- Updates keep the set of ids. -/
@[simp] theorem has_update {s : Store α} {i j : ℕ} {a : α} : (s.update i a).Has j ↔ s.Has j := by
  constructor
  · rintro ⟨e, he, hj⟩
    rcases mem_update.mp he with ⟨h, -⟩ | ⟨rfl, f, hf, hi⟩
    · exact ⟨e, h, hj⟩
    · exact ⟨f, hf, hi.trans hj⟩
  · rintro ⟨e, he, rfl⟩
    by_cases h : e.id = i
    · subst h
      exact ⟨_, mem_update_self he a, rfl⟩
    · exact ⟨e, (mem_update_of_ne h).mpr he, rfl⟩

/-- An update of an object that is not there changes nothing. -/
theorem update_of_not_has {s : Store α} {i : ℕ} (h : ¬ s.Has i) (a : α) : s.update i a = s := by
  refine ext ((List.map_congr_left fun e he => ?_).trans (List.map_id _)) rfl
  rw [if_neg fun hid => h ⟨e, he, hid⟩, id]

/-! ### Ids that denote nothing any more -/

/-- The id was issued, and there is nothing under it any more. -/
structure Spent (s : Store α) (i : ℕ) : Prop where
  gone : ¬ s.Has i
  issued : i < s.next

theorem Spent.create {s : Store α} {i : ℕ} (h : s.Spent i) (a : α) : (s.create a).Spent i := by
  refine ⟨fun hhas => ?_, Nat.lt_succ_of_lt h.issued⟩
  rcases has_create.mp hhas with hhas | rfl
  · exact h.gone hhas
  · exact Nat.lt_irrefl _ h.issued

theorem Spent.update {s : Store α} {i : ℕ} (h : s.Spent i) (j : ℕ) (a : α) :
    (s.update j a).Spent i :=
  ⟨fun hhas => h.gone (has_update.mp hhas), h.issued⟩

theorem Spent.delete {s : Store α} {i : ℕ} (h : s.Spent i) (j : ℕ) : (s.delete j).Spent i :=
  ⟨fun hhas => h.gone (has_delete.mp hhas).1, h.issued⟩

theorem spent_delete {s : Store α} {i : ℕ} (h : i < s.next) : (s.delete i).Spent i :=
  ⟨fun hhas => (has_delete.mp hhas).2 rfl, h⟩

/-! ### Families of collections -/

section Families

variable {ι : Type*} {s s' : ι → Store α} {i : ι} {t : Store α}

/-- Nothing takes back an id that was issued. -/
def Grows (s s' : ι → Store α) : Prop := ∀ i, (s i).next ≤ (s' i).next

theorem Grows.refl (s : ι → Store α) : Grows s s := fun _ => Nat.le_refl _

variable [DecidableEq ι]

theorem grows_update (h : (s i).next ≤ t.next) : Grows s (Function.update s i t) := by
  intro j
  by_cases hj : j = i
  · subst hj
    rwa [Function.update_self]
  · exact Nat.le_of_eq (by rw [Function.update_of_ne hj])

theorem spent_update {j : ι} {id : ℕ} (h : (s j).Spent id)
    (ht : (s i).Spent id → t.Spent id) : (Function.update s i t j).Spent id := by
  by_cases hj : j = i
  · subst hj
    rw [Function.update_self]
    exact ht h
  · rwa [Function.update_of_ne hj]

end Families

/-! ### Scanning a list response -/

/-- The first object, in list order, that satisfies `p`. -/
def first (s : Store α) (p : α → Bool) : Option (Entry α) := s.entries.find? fun e => p e.val

theorem mem_of_first {s : Store α} {p : α → Bool} {e : Entry α} (h : s.first p = some e) : e ∈ s :=
  List.mem_of_find?_eq_some h

theorem prop_of_first {s : Store α} {p : α → Bool} {e : Entry α} (h : s.first p = some e) :
    p e.val = true := by
  simpa using List.find?_some h

theorem first_eq_none {s : Store α} {p : α → Bool} :
    s.first p = none ↔ ∀ e ∈ s, p e.val = false := by
  simp [first, mem_def]

/-- Deleting objects a scan does not select leaves its answer alone. -/
theorem first_delete_of_ne {s : Store α} {p : α → Bool} {i : ℕ}
    (h : ∀ e ∈ s, e.id = i → p e.val = false) : (s.delete i).first p = s.first p := by
  have hfilter : ∀ l : List (Entry α), (∀ e ∈ l, e.id = i → p e.val = false) →
      (l.filter fun e => e.id ≠ i).find? (fun e => p e.val) = l.find? fun e => p e.val := by
    intro l
    induction l with
    | nil => intro _; rfl
    | cons e l ih =>
      intro hl
      have hrest := ih fun f hf => hl f (List.mem_cons_of_mem _ hf)
      by_cases hid : e.id = i
      · have hp : p e.val = false := hl e (List.mem_cons_self ..) hid
        rw [List.filter_cons_of_neg (by simpa using hid), List.find?_cons_of_neg (by simp [hp]),
          hrest]
      · rw [List.filter_cons_of_pos (by simpa using hid), List.find?_cons, List.find?_cons, hrest]
  exact hfilter s.entries h

end Store

end ControlLoop
