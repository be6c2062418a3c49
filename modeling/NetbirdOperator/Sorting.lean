import Mathlib.Data.List.Sort
import Mathlib.Order.Basic

/-!
# Sorting with ties

What a sort may return that is given a comparison and promises no stability: any rearrangement in
which no element is less than an earlier one. Where the comparison goes by a key, two elements with
one key may come in either order, so the outcome is determined exactly if different elements of the
list have different keys (`Sorting.sorts_unique_iff`).

That a tie shows is the part with an argument. The elements that share a key are next to each other
in a sorted list, and may be put there in any order (`Sorting.exists_sorts_block`).

## Main definitions

* `Sorting.Sorts` — what a sort without stability may return
* `Sorting.ByKey` — a comparison that goes by a key

## Main results

* `Sorting.exists_sorts` — there is something to return
* `Sorting.sorts_unique_iff` — when there is only one
-/

namespace Sorting

variable {α κ : Type*} {less : α → α → Bool} {xs ys out out' : List α}

/-- No element is less than an earlier one. -/
def Sorted (less : α → α → Bool) (xs : List α) : Prop := xs.Pairwise fun a b => less b a = false

instance (less : α → α → Bool) (xs : List α) : Decidable (Sorted less xs) :=
  inferInstanceAs (Decidable (xs.Pairwise _))

/-- **What a sort may return**: a rearrangement that is sorted. Elements that compare neither way
may come in either order. -/
structure Sorts (less : α → α → Bool) (xs out : List α) : Prop where
  perm : out.Perm xs
  sorted : Sorted less out

/-- The order a list comes in does not matter to what may be returned for it. -/
theorem Sorts.of_perm (h : Sorts less xs out) (hp : xs.Perm ys) : Sorts less ys out :=
  ⟨h.perm.trans hp, h.sorted⟩

/-- Nothing is less than what comes first. -/
theorem Sorts.head_minimal {a : α} (h : Sorts less xs (a :: out)) (hirrefl : less a a = false) :
    a ∈ xs ∧ ∀ b ∈ xs, less b a = false := by
  refine ⟨h.perm.mem_iff.mp List.mem_cons_self, fun b hb => ?_⟩
  rcases List.mem_cons.mp (h.perm.mem_iff.mpr hb) with rfl | hb
  · exact hirrefl
  · exact (List.pairwise_cons.mp h.sorted).1 b hb

/-- A list is sorted by sorting those with a property and then the rest, if none of the rest is
less than one of those. -/
theorem Sorts.append {p : α → Bool} {pre post : List α} (hpre : Sorts less (xs.filter p) pre)
    (hpost : Sorts less (xs.filter fun a => !p a) post)
    (h : ∀ a ∈ pre, ∀ b ∈ post, less b a = false) : Sorts less xs (pre ++ post) :=
  ⟨(hpre.perm.append hpost.perm).trans (List.filter_append_perm p xs),
    List.pairwise_append.mpr ⟨hpre.sorted, hpost.sorted, h⟩⟩

/-! ### Keys -/

section ByKey

variable [LinearOrder κ] {key : α → κ}

/-- The comparison goes by a key. -/
def ByKey (less : α → α → Bool) (key : α → κ) : Prop := ∀ a b, less a b = true ↔ key a < key b

theorem ByKey.eq_false (h : ByKey less key) {a b : α} : less b a = false ↔ key a ≤ key b := by
  rw [← Bool.not_eq_true, h b a, not_lt]

theorem ByKey.sorted_iff (h : ByKey less key) :
    Sorted less xs ↔ xs.Pairwise fun a b => key a ≤ key b :=
  ⟨List.Pairwise.imp h.eq_false.mp, List.Pairwise.imp h.eq_false.mpr⟩

/-- There is something to return. -/
theorem exists_sorts (h : ByKey less key) (xs : List α) : ∃ out, Sorts less xs out := by
  refine ⟨xs.mergeSort fun a b => decide (key a ≤ key b), List.mergeSort_perm _ _, ?_⟩
  rw [h.sorted_iff]
  refine (List.pairwise_mergeSort ?_ ?_ xs).imp fun hab => of_decide_eq_true hab
  · intro a b c hab hbc
    exact decide_eq_true ((of_decide_eq_true hab).trans (of_decide_eq_true hbc))
  · intro a b
    simpa using le_total (key a) (key b)

/-- The elements with one key may be put in any order, between those that go before them and those
that go after. -/
theorem exists_sorts_block (h : ByKey less key) (xs : List α) (k : κ) :
    ∃ pre post, ∀ block, block.Perm (xs.filter fun a => decide (key a = k)) →
      Sorts less xs (pre ++ (block ++ post)) := by
  obtain ⟨pre, hpre⟩ := exists_sorts h (xs.filter fun a => decide (key a < k))
  obtain ⟨post, hpost⟩ := exists_sorts h (xs.filter fun a => decide (k < key a))
  have hlt : ∀ a ∈ pre, key a < k := fun a ha =>
    of_decide_eq_true (List.mem_filter.mp (hpre.perm.mem_iff.mp ha)).2
  have hgt : ∀ a ∈ post, k < key a := fun a ha =>
    of_decide_eq_true (List.mem_filter.mp (hpost.perm.mem_iff.mp ha)).2
  refine ⟨pre, post, fun block hblock => ?_⟩
  have heq : ∀ a ∈ block, key a = k := fun a ha =>
    of_decide_eq_true (List.mem_filter.mp (hblock.mem_iff.mp ha)).2
  -- What is not below the key is at it or above it.
  have hat : ((xs.filter fun a => !decide (key a < k)).filter fun a => decide (key a = k)) =
      xs.filter fun a => decide (key a = k) := by
    rw [List.filter_filter]
    exact List.filter_congr fun a _ => by by_cases hk : key a = k <;> simp [hk]
  have habove : ((xs.filter fun a => !decide (key a < k)).filter fun a => !decide (key a = k)) =
      xs.filter fun a => decide (k < key a) := by
    rw [List.filter_filter]
    refine List.filter_congr fun a _ => ?_
    rcases lt_trichotomy (key a) k with hk | hk | hk
    · simp [hk, hk.le]
    · simp [hk]
    · simp [hk, hk.ne', hk.le]
  have hsame : Sorted less block := h.sorted_iff.mpr <|
    List.pairwise_of_forall_mem_list fun a ha b hb => by rw [heq a ha, heq b hb]
  have hrest : Sorts less (xs.filter fun a => !decide (key a < k)) (block ++ post) :=
    Sorts.append ⟨hat ▸ hblock, hsame⟩ (habove ▸ hpost) fun a ha b hb =>
      h.eq_false.mpr ((heq a ha).trans_le (hgt b hb).le)
  refine hpre.append hrest fun a ha b hb => h.eq_false.mpr ?_
  rcases List.mem_append.mp hb with hb | hb
  · exact (hlt a ha).le.trans_eq (heq b hb).symm
  · exact ((hlt a ha).trans (hgt b hb)).le

/-- **When there is only one outcome**: exactly if different elements have different keys. -/
theorem sorts_unique_iff (h : ByKey less key) (xs : List α) :
    (∀ out out', Sorts less xs out → Sorts less xs out' → out = out') ↔
      ∀ a ∈ xs, ∀ b ∈ xs, key a = key b → a = b := by
  classical
  constructor
  · intro hunique a ha b hb hab
    -- Put either of the two at the front of the block they share.
    obtain ⟨pre, post, hblock⟩ := exists_sorts_block h xs (key a)
    have hfirst : ∀ c ∈ xs, key c = key a → ∃ rest, Sorts less xs (pre ++ (c :: rest)) := by
      intro c hc hk
      have hmem : c ∈ xs.filter fun d => decide (key d = key a) :=
        List.mem_filter.mpr ⟨hc, decide_eq_true hk⟩
      exact ⟨_, hblock (c :: _) (List.perm_cons_erase hmem).symm⟩
    obtain ⟨rest, hout⟩ := hfirst a ha rfl
    obtain ⟨rest', hout'⟩ := hfirst b hb hab.symm
    exact (List.cons.inj (List.append_cancel_left (hunique _ _ hout hout'))).1
  · intro hkeys out out' hout hout'
    refine List.Perm.eq_of_pairwise ?_ (h.sorted_iff.mp hout.sorted) (h.sorted_iff.mp hout'.sorted)
      (hout.perm.trans hout'.perm.symm)
    intro a b ha hb hab hba
    exact hkeys a (hout.perm.mem_iff.mp ha) b (hout'.perm.mem_iff.mp hb) (le_antisymm hab hba)

end ByKey

end Sorting
