import Mathlib.Data.List.Nodup
import Mathlib.Tactic.Common

/-!
# A desired set of objects

A controller that owns some objects of a collection writes those it wants under their keys, and then
deletes the ones it finds by its label and does not want. Writing goes by key and deleting by label,
so neither alone says what is left. Together they do, from any collection in which no two objects
share a key: of the labelled objects exactly the wanted ones are left, and the others are as before
(`perm_converge`, `filter_converge`). Doing it again changes nothing, step by step
(`put_converge`, `key_mem_of_converge`).

A collection is a list, in the order in which it is listed.

## Main definitions

* `ControlLoop.put` — write an object under its key
* `ControlLoop.UniqueKeys` — no two objects share a key
* `ControlLoop.converge` — write the wanted objects, delete the other labelled ones
-/

namespace ControlLoop

variable {α κ : Type*} {key : α → κ} {a b : α} {as cs : List α} {p label : α → Bool}

/-! ### Keys -/

/-- No two objects share a key. -/
def UniqueKeys (key : α → κ) (as : List α) : Prop := (as.map key).Nodup

theorem UniqueKeys.eq (h : UniqueKeys key as) (ha : a ∈ as) (hb : b ∈ as)
    (hkey : key a = key b) : a = b :=
  List.inj_on_of_nodup_map h ha hb hkey

theorem UniqueKeys.filter (h : UniqueKeys key as) (p : α → Bool) : UniqueKeys key (as.filter p) :=
  List.Nodup.sublist (List.filter_sublist.map key) h

theorem UniqueKeys.nodup (h : UniqueKeys key as) : as.Nodup := List.Nodup.of_map key h

variable [DecidableEq κ]

/-- Looking for a key finds the object that has it. -/
theorem UniqueKeys.find?_eq_some (h : UniqueKeys key as) {k : κ} :
    as.find? (fun b => key b = k) = some a ↔ a ∈ as ∧ key a = k := by
  constructor
  · intro hfind
    exact ⟨List.mem_of_find?_eq_some hfind, by simpa using List.find?_some hfind⟩
  · rintro ⟨ha, rfl⟩
    cases hfind : as.find? fun b => key b = key a with
    | none => exact absurd (List.find?_eq_none.mp hfind a ha) (by simp)
    | some b =>
      have hkey : key b = key a := by simpa using List.find?_some hfind
      rw [h.eq (List.mem_of_find?_eq_some hfind) ha hkey]

/-! ### Writing under a key -/

/-- Write an object: in place of the one that has its key, or at the end. -/
def put (key : α → κ) (a : α) (as : List α) : List α :=
  if key a ∈ as.map key then as.map fun b => if key b = key a then a else b else as ++ [a]

theorem map_key_put (a : α) (as : List α) :
    (put key a as).map key =
      if key a ∈ as.map key then as.map key else as.map key ++ [key a] := by
  rw [put]
  split
  · rw [List.map_map]
    refine List.map_congr_left fun b _ => ?_
    show key (if key b = key a then a else b) = key b
    split
    · next hkey => exact hkey.symm
    · rfl
  · rw [List.map_append, List.map_singleton]

theorem UniqueKeys.put (h : UniqueKeys key as) (a : α) : UniqueKeys key (put key a as) := by
  rw [UniqueKeys, map_key_put]
  split
  · exact h
  · next ha => exact List.nodup_append.mpr ⟨h, List.nodup_singleton _, by simpa using ha⟩

theorem mem_put_self (a : α) (as : List α) : a ∈ put key a as := by
  rw [put]
  split
  · next ha =>
    obtain ⟨b, hb, hkey⟩ := List.mem_map.mp ha
    exact List.mem_map.mpr ⟨b, hb, if_pos hkey⟩
  · exact List.mem_append_right _ List.mem_cons_self

/-- An object with another key stays. -/
theorem mem_put_of_ne (hb : b ∈ as) (hkey : key b ≠ key a) : b ∈ put key a as := by
  rw [put]
  split
  · exact List.mem_map.mpr ⟨b, hb, if_neg hkey⟩
  · exact List.mem_append_left _ hb

/-- Writing an object brings in no other. -/
theorem eq_or_mem_of_mem_put (hb : b ∈ put key a as) : b = a ∨ b ∈ as := by
  rw [put] at hb
  split at hb
  · obtain ⟨c, hc, rfl⟩ := List.mem_map.mp hb
    split
    · exact .inl rfl
    · exact .inr hc
  · exact (List.mem_append.mp hb).symm.imp_left List.mem_singleton.mp

/-- Writing an object that is there changes nothing. -/
theorem UniqueKeys.put_of_mem (h : UniqueKeys key as) (ha : a ∈ as) :
    ControlLoop.put key a as = as := by
  rw [ControlLoop.put, if_pos (List.mem_map_of_mem ha)]
  refine (List.map_congr_left fun b hb => ?_).trans (List.map_id as)
  split
  · next hkey => exact h.eq ha hb hkey.symm
  · rfl

/-- What has other keys is as before, and in the same order. -/
theorem filter_put (hp : ∀ b, p b = true → key b ≠ key a) (as : List α) :
    (put key a as).filter p = as.filter p := by
  have hnot : ∀ b, key b = key a → p b = false :=
    fun b hkey => Bool.eq_false_iff.mpr fun h => hp b h hkey
  rw [put]
  split
  · clear *- hnot
    induction as with
    | nil => rfl
    | cons b as ih =>
      rw [List.map_cons]
      by_cases hkey : key b = key a
      · rw [if_pos hkey, List.filter_cons_of_neg (by simp [hnot a rfl]),
          List.filter_cons_of_neg (by simp [hnot b hkey]), ih]
      · rw [if_neg hkey, List.filter_cons, List.filter_cons, ih]
  · rw [List.filter_append, List.filter_cons_of_neg (by simp [hnot a rfl]), List.filter_nil,
      List.append_nil]

/-! ### Several objects -/

/-- Write some objects, one after another. -/
def putAll (key : α → κ) (cs as : List α) : List α := cs.foldl (fun as c => put key c as) as

theorem UniqueKeys.putAll (h : UniqueKeys key as) (cs : List α) :
    UniqueKeys key (putAll key cs as) := by
  induction cs generalizing as with
  | nil => exact h
  | cons c cs ih => exact ih (h.put c)

theorem mem_putAll_of_ne (hb : b ∈ as) (hkey : key b ∉ cs.map key) : b ∈ putAll key cs as := by
  induction cs generalizing as with
  | nil => exact hb
  | cons c cs ih =>
    rw [List.map_cons, List.mem_cons, not_or] at hkey
    exact ih (mem_put_of_ne hb hkey.1) hkey.2

/-- Objects of different keys are all there in the end. -/
theorem mem_putAll (hcs : UniqueKeys key cs) (hb : b ∈ cs) : b ∈ putAll key cs as := by
  induction cs generalizing as with
  | nil => exact absurd hb List.not_mem_nil
  | cons c cs ih =>
    obtain ⟨hc, hrest⟩ := List.nodup_cons.mp (show (key c :: cs.map key).Nodup from hcs)
    rcases List.mem_cons.mp hb with rfl | hb
    · show b ∈ putAll key cs (put key b as)
      exact mem_putAll_of_ne (mem_put_self b as) hc
    · exact ih hrest hb

theorem filter_putAll (hp : ∀ b, p b = true → key b ∉ cs.map key) (as : List α) :
    (putAll key cs as).filter p = as.filter p := by
  induction cs generalizing as with
  | nil => rfl
  | cons c cs ih =>
    have hkey : ∀ b, p b = true → key b ≠ key c ∧ key b ∉ cs.map key := by
      intro b hb
      have h := hp b hb
      rwa [List.map_cons, List.mem_cons, not_or] at h
    exact (ih (fun b hb => (hkey b hb).2) _).trans (filter_put (fun b hb => (hkey b hb).1) as)

/-! ### Converging -/

/-- Delete the labelled objects whose keys are not desired. -/
def pruneTo (key : α → κ) (label : α → Bool) (desired : List κ) (as : List α) : List α :=
  as.filter fun a => label a = true → key a ∈ desired

/-- **Write the wanted objects, and delete the other labelled ones.** -/
def converge (key : α → κ) (label : α → Bool) (cs as : List α) : List α :=
  pruneTo key label (cs.map key) (putAll key cs as)

/-- Deleting by key what a list request found, one object after another, is deleting by label. -/
theorem filter_listed (h : UniqueKeys key as) (label : α → Bool) (desired : List κ) :
    (as.filter fun a => ∀ b ∈ as.filter label, key b ∈ desired ∨ key a ≠ key b) =
      pruneTo key label desired as := by
  refine List.filter_congr fun a ha => decide_eq_decide.mpr ?_
  refine ⟨fun hall hlabel => ?_, fun h' b hb => ?_⟩
  · exact (hall a (List.mem_filter.mpr ⟨ha, hlabel⟩)).resolve_right (not_not.mpr rfl)
  · obtain ⟨hb, hlabel⟩ := List.mem_filter.mp hb
    by_cases hkey : key a = key b
    · obtain rfl := h.eq ha hb hkey
      exact Or.inl (h' hlabel)
    · exact Or.inr hkey

theorem mem_converge :
    b ∈ converge key label cs as ↔
      b ∈ putAll key cs as ∧ (label b = true → key b ∈ cs.map key) := by
  rw [converge, pruneTo, List.mem_filter, decide_eq_true_iff]

theorem UniqueKeys.converge (h : UniqueKeys key as) (label : α → Bool) (cs : List α) :
    UniqueKeys key (converge key label cs as) :=
  (h.putAll cs).filter _

theorem mem_converge_of_wanted (hcs : UniqueKeys key cs) (hb : b ∈ cs) :
    b ∈ converge key label cs as :=
  mem_converge.mpr ⟨mem_putAll hcs hb, fun _ => List.mem_map_of_mem hb⟩

/-- A labelled object that is left has a wanted key. -/
theorem key_mem_of_converge (hb : b ∈ converge key label cs as) (hlabel : label b = true) :
    key b ∈ cs.map key :=
  (mem_converge.mp hb).2 hlabel

/-- **Of the labelled objects exactly the wanted ones are left.** -/
theorem perm_converge (h : UniqueKeys key as) (hcs : UniqueKeys key cs)
    (hlabel : ∀ c ∈ cs, label c = true) :
    ((converge key label cs as).filter label).Perm cs := by
  have hunique := h.converge label cs
  refine (List.perm_ext_iff_of_nodup (hunique.nodup.filter _) hcs.nodup).mpr fun b => ?_
  rw [List.mem_filter]
  constructor
  · rintro ⟨hb, hl⟩
    -- The wanted object of that key is there too, and keys are unique.
    obtain ⟨c, hc, hkey⟩ := List.mem_map.mp (key_mem_of_converge hb hl)
    rw [hunique.eq hb (mem_converge_of_wanted hcs hc) hkey.symm]
    exact hc
  · exact fun hb => ⟨mem_converge_of_wanted hcs hb, hlabel b hb⟩

/-- **Objects without the label and without a wanted key are as before.** -/
theorem filter_converge (hp : ∀ b, p b = true → label b = false ∧ key b ∉ cs.map key)
    (as : List α) : (converge key label cs as).filter p = as.filter p := by
  rw [converge, pruneTo, List.filter_filter, ← filter_putAll (fun b hb => (hp b hb).2) as]
  refine List.filter_congr fun b _ => ?_
  cases hb : p b with
  | false => rfl
  | true => simp [(hp b hb).1]

/-- **Doing it again changes nothing.** -/
theorem put_converge (h : UniqueKeys key as) (hcs : UniqueKeys key cs) (hb : b ∈ cs) :
    put key b (converge key label cs as) = converge key label cs as :=
  (h.converge label cs).put_of_mem (mem_converge_of_wanted hcs hb)

end ControlLoop
