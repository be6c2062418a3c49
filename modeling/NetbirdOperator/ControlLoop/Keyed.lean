import Mathlib.Data.List.AList
import Mathlib.Data.List.Induction

/-!
# Loops of writes to objects with keys

A pass that keeps a set of objects in place writes them one after another under their keys and
deletes others by theirs. What such a loop leaves is said by what a lookup answers afterwards: the
last write to a key wins, and a key that was deleted answers nothing. Every other key answers as
before.

## Main results

* `ControlLoop.lookup_foldl_insert` — the last write to a key wins
* `ControlLoop.lookup_foldl_erase` — what was deleted is gone
-/

namespace ControlLoop

variable {κ α ι : Type*} [DecidableEq κ]

theorem lookup_insert_eq (k k' : κ) (a : α) (s : AList fun _ : κ => α) :
    (s.insert k a).lookup k' = if k = k' then some a else s.lookup k' := by
  split
  · next h => rw [← h, AList.lookup_insert]
  · next h => rw [AList.lookup_insert_ne (Ne.symm h)]

theorem lookup_erase_eq (k k' : κ) (s : AList fun _ : κ => α) :
    (s.erase k).lookup k' = if k = k' then none else s.lookup k' := by
  split
  · next h => rw [← h, AList.lookup_erase]
  · next h => rw [AList.lookup_erase_ne (Ne.symm h)]

/-- **The last write to a key wins.** -/
theorem lookup_foldl_insert (key : ι → κ) (val : ι → α) (is : List ι) (s : AList fun _ : κ => α)
    (k : κ) :
    (is.foldl (fun s i => s.insert (key i) (val i)) s).lookup k =
      ((is.reverse.find? fun i => key i = k).map val).or (s.lookup k) := by
  -- From the back: the last write decides, and the others are the induction hypothesis.
  induction is using List.reverseRecOn with
  | nil => rfl
  | append_singleton is i ih =>
    rw [List.foldl_append, List.foldl_cons, List.foldl_nil, lookup_insert_eq, ih,
      List.reverse_append, List.reverse_singleton, List.singleton_append, List.find?_cons]
    by_cases h : key i = k <;> simp [h]

/-- **What was deleted is gone**, and nothing else is. -/
theorem lookup_foldl_erase (ks : List κ) (s : AList fun _ : κ => α) (k : κ) :
    (ks.foldl (fun s k => s.erase k) s).lookup k = if k ∈ ks then none else s.lookup k := by
  induction ks using List.reverseRecOn with
  | nil => rfl
  | append_singleton ks k' ih =>
    rw [List.foldl_append, List.foldl_cons, List.foldl_nil, lookup_erase_eq, ih]
    by_cases h : k' = k
    · simp [h]
    · simp [h, Ne.symm h]

end ControlLoop
