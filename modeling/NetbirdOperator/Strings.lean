import Mathlib.Data.List.DropRight
import Mathlib.Tactic.Common

/-!
# Strings by prefix, suffix and label

The functions of Go's `strings` package that hostname code is written with, and the reading of a
hostname as a list of labels they are meant to implement. Cutting a string at every dot loses
nothing, so a suffix of labels is a suffix of characters that starts at a dot; that is what makes
a test like `HasSuffix(h, "." + d)` label-aligned.

## Main definitions

* `Strings.hasPrefix`, `hasSuffix`, `trimPrefix`, `cutPrefix`
* `Strings.labels` — the labels of a dotted name
* `Strings.Shifted` — a part of one text moved across the hyphen to the next
* `Strings.Affix` — a fixed beginning and a fixed end around a name

## Main results

* `Strings.splitOn_suffix_iff` — suffixes of a split list, for any separator
* `Strings.labels_suffix_iff`, `labels_properSuffix_iff` — tests on characters decide suffixes of
  labels
* `Strings.hyphen_join_eq_iff` — when two texts joined with a hyphen are equal
* `Strings.Affix.overlaps_of_name_eq` — when names with different beginnings and ends can be equal
-/

namespace Strings

/-! ### Splitting at a separator -/

section Split

variable {α : Type*} {x : α} {xs ys : List α}

theorem intercalate_append {p q : List (List α)} (hp : p ≠ []) (hq : q ≠ []) :
    [x].intercalate (p ++ q) = [x].intercalate p ++ x :: [x].intercalate q := by
  induction p with
  | nil => exact absurd rfl hp
  | cons l p ih =>
    rcases p.eq_nil_or_concat with rfl | ⟨p', m, hp'⟩
    · rw [List.singleton_append, List.intercalate_cons_of_ne_nil hq]
      simp
    · have hne : p ≠ [] := by simp [hp']
      rw [List.cons_append, List.intercalate_cons_of_ne_nil (by simp [hne]), ih hne,
        List.intercalate_cons_of_ne_nil hne]
      simp

/-- Joined at a separator, two pairs of lists are equal only if they are the same pair, or one of
them comes from the other by moving a part across the separator. -/
theorem append_cons_eq_append_cons_iff {a b a' b' : List α} :
    a ++ x :: b = a' ++ x :: b' ↔ (a = a' ∧ b = b') ∨
      (∃ c, a = a' ++ x :: c ∧ b' = c ++ x :: b) ∨ ∃ c, a' = a ++ x :: c ∧ b = c ++ x :: b' := by
  constructor
  · intro h
    rcases List.append_eq_append_iff.mp h with ⟨c, hc, hb⟩ | ⟨c, hc, hb⟩ <;> cases c with
    | nil =>
      simp only [List.append_nil, List.nil_append, List.cons.injEq, true_and] at hc hb
      simp [hc, hb]
    | cons y c =>
      simp only [List.cons_append, List.cons.injEq] at hb
      obtain ⟨rfl, hb⟩ := hb
      simp [hc, hb]
  · rintro (⟨rfl, rfl⟩ | ⟨c, rfl, rfl⟩ | ⟨c, rfl, rfl⟩) <;> simp

variable [DecidableEq α]

theorem splitOn_injective (h : xs.splitOn x = ys.splitOn x) : xs = ys := by
  have hxs : [x].intercalate (xs.splitOn x) = xs := List.intercalate_splitOn x
  rw [← hxs, h, List.intercalate_splitOn]

/-- Whatever the separator, one split list ends in another exactly when the lists are equal or the
one ends in the other behind a separator. -/
theorem splitOn_suffix_iff :
    ys.splitOn x <:+ xs.splitOn x ↔ xs = ys ∨ (x :: ys) <:+ xs := by
  constructor
  · rintro ⟨p, hp⟩
    rcases p with _ | ⟨l, p⟩
    · exact Or.inl (splitOn_injective hp.symm)
    · have hxs : [x].intercalate (xs.splitOn x) = xs := List.intercalate_splitOn x
      rw [← hp, intercalate_append (List.cons_ne_nil l p) (List.splitOn_ne_nil x ys),
        List.intercalate_splitOn] at hxs
      exact Or.inr ⟨_, hxs⟩
  · rintro (rfl | ⟨t, rfl⟩)
    · exact List.suffix_refl _
    · exact ⟨t.splitOn x, (List.splitOn_append_cons_self t ys).symm⟩

/-- Behind a separator there is a shorter split list, and only there. -/
theorem splitOn_properSuffix_iff :
    (ys.splitOn x <:+ xs.splitOn x ∧ ys.splitOn x ≠ xs.splitOn x) ↔ (x :: ys) <:+ xs := by
  rw [splitOn_suffix_iff]
  constructor
  · rintro ⟨rfl | h, hne⟩
    · exact absurd rfl hne
    · exact h
  · refine fun h => ⟨Or.inr h, fun heq => ?_⟩
    obtain rfl := splitOn_injective heq
    have := h.length_le
    rw [List.length_cons] at this
    omega

/-- The separator is in none of the parts. -/
theorem not_mem_of_mem_splitOn {p : List α} (h : p ∈ xs.splitOn x) : x ∉ p := by
  induction xs generalizing p with
  | nil =>
    rw [List.splitOn_nil, List.mem_singleton] at h
    simp [h]
  | cons y xs ih =>
    rw [List.splitOn_cons_eq_if_modifyHead] at h
    split at h
    · rcases List.mem_cons.mp h with rfl | h
      · exact List.not_mem_nil
      · exact ih h
    · next hy =>
      obtain ⟨q, qs, hq⟩ := List.exists_cons_of_ne_nil (List.splitOn_ne_nil x xs)
      rw [hq, List.modifyHead_cons] at h
      rcases List.mem_cons.mp h with rfl | h
      · rw [List.mem_cons, not_or]
        exact ⟨fun heq => hy (by simp [heq]), ih (by rw [hq]; exact List.mem_cons_self)⟩
      · exact ih (by rw [hq]; exact List.mem_cons_of_mem q h)

/-- Splitting what was joined splits each part. -/
theorem splitOn_intercalate_eq {ls : List (List α)} (h : ls ≠ []) :
    ([x].intercalate ls).splitOn x = ls.flatMap fun l => l.splitOn x := by
  induction ls with
  | nil => exact absurd rfl h
  | cons l ls ih =>
    rcases eq_or_ne ls [] with rfl | hls
    · simp
    · rw [List.intercalate_cons_of_ne_nil hls, List.append_assoc, List.singleton_append,
        List.splitOn_append_cons_self, ih hls, List.flatMap_cons]

end Split

/-! ### Go's `strings` -/

/-- `strings.HasPrefix`. -/
def hasPrefix (s p : String) : Bool := p.toList.isPrefixOf s.toList

/-- `strings.HasSuffix`. -/
def hasSuffix (s t : String) : Bool := t.toList.isSuffixOf s.toList

/-- `strings.CutPrefix`: the string behind the prefix, if it is there. -/
def cutPrefix (s p : String) : Option String :=
  if hasPrefix s p then some (String.ofList (s.toList.drop p.length)) else none

/-- `strings.TrimPrefix`. -/
def trimPrefix (s p : String) : String := (cutPrefix s p).getD s

/-- `unicode.IsSpace`. -/
def isSpace (c : Char) : Bool :=
  let n := c.toNat
  (9 ≤ n ∧ n ≤ 13) ∨ n = 0x20 ∨ n = 0x85 ∨ n = 0xA0 ∨ n = 0x1680 ∨ (0x2000 ≤ n ∧ n ≤ 0x200A) ∨
    n = 0x2028 ∨ n = 0x2029 ∨ n = 0x202F ∨ n = 0x205F ∨ n = 0x3000

/-- `strings.TrimSpace`. -/
def trimSpace (s : String) : String :=
  String.ofList ((s.toList.dropWhile isSpace).reverse.dropWhile isSpace).reverse

/-- `strings.Split` at a character. -/
def split (s : String) (sep : Char) : List String := (s.toList.splitOn sep).map String.ofList

/-- `strings.Join` with a character. -/
def join (xs : List String) (sep : Char) : String :=
  String.ofList ([sep].intercalate (xs.map String.toList))

/-- `strings.Cut` at a character: what is before it, and what is behind it if it is there. -/
def cut (s : String) (sep : Char) : String × Option String :=
  match s.toList.dropWhile fun c => c ≠ sep with
  | [] => (s, none)
  | _ :: rest => (String.ofList (s.toList.takeWhile fun c => c ≠ sep), some (String.ofList rest))

theorem hasSuffix_iff {s t : String} : hasSuffix s t = true ↔ t.toList <:+ s.toList :=
  List.isSuffixOf_iff_suffix

theorem hasPrefix_iff {s p : String} : hasPrefix s p = true ↔ p.toList <+: s.toList :=
  List.isPrefixOf_iff_prefix

theorem cutPrefix_eq_some {s p t : String} : cutPrefix s p = some t ↔ s = p ++ t := by
  rw [cutPrefix]
  constructor
  · intro h
    split at h
    · next hp =>
      obtain ⟨r, hr⟩ := hasPrefix_iff.mp hp
      obtain rfl := Option.some.inj h
      rw [← String.toList_inj, String.toList_append, String.toList_ofList, ← hr,
        ← String.length_toList, List.drop_left]
    · exact absurd h (by simp)
  · rintro rfl
    have hp : hasPrefix (p ++ t) p = true :=
      hasPrefix_iff.mpr ⟨t.toList, String.toList_append.symm⟩
    rw [if_pos hp, String.toList_append, ← String.length_toList, List.drop_left,
      String.ofList_toList]

theorem cutPrefix_eq_none {s p : String} : cutPrefix s p = none ↔ hasPrefix s p = false := by
  rw [cutPrefix]
  split <;> simp_all

/-! ### Lists in a string -/

theorem split_join {xs : List String} {sep : Char} (h : xs ≠ []) :
    split (join xs sep) sep = xs.flatMap fun s => split s sep := by
  rw [split, join, String.toList_ofList, splitOn_intercalate_eq (by simpa using h),
    List.flatMap_map, List.map_flatMap]
  rfl

theorem not_mem_of_mem_split {s p : String} {sep : Char} (h : p ∈ split s sep) :
    sep ∉ p.toList := by
  obtain ⟨q, hq, rfl⟩ := List.mem_map.mp h
  rw [String.toList_ofList]
  exact not_mem_of_mem_splitOn hq

theorem split_of_not_mem {s : String} {sep : Char} (h : sep ∉ s.toList) : split s sep = [s] := by
  rw [split, List.splitOn_eq_singleton h, List.map_singleton, String.ofList_toList]

/-- Strings that are not empty are joined to one that is not, if there are any. -/
theorem join_eq_empty {xs : List String} {sep : Char} (h : ∀ s ∈ xs, s ≠ "") :
    join xs sep = "" ↔ xs = [] := by
  constructor
  · intro hjoin
    cases xs with
    | nil => rfl
    | cons s rest =>
      have hempty : [sep].intercalate (s.toList :: rest.map String.toList) = [] :=
        String.toList_ofList.symm.trans (congrArg String.toList hjoin)
      have hs : s.toList = [] := by
        rcases eq_or_ne (rest.map String.toList) [] with hrest | hrest
        · simpa [hrest] using hempty
        · rw [List.intercalate_cons_of_ne_nil hrest, List.append_assoc] at hempty
          exact (List.append_eq_nil_iff.mp hempty).1
      exact absurd (String.toList_inj.mp hs) (h s List.mem_cons_self)
  · rintro rfl
    rfl

theorem toList_trimSpace (s : String) :
    (trimSpace s).toList = (s.toList.dropWhile isSpace).rdropWhile isSpace := by
  rw [trimSpace, String.toList_ofList]
  rfl

/-- Trimming takes nothing but the ends. -/
theorem trimSpace_sublist (s : String) : (trimSpace s).toList.Sublist s.toList := by
  rw [toList_trimSpace]
  exact (List.rdropWhile_prefix _ _).sublist.trans (List.dropWhile_suffix _).sublist

theorem trimSpace_trimSpace (s : String) : trimSpace (trimSpace s) = trimSpace s := by
  rw [← String.toList_inj, toList_trimSpace, toList_trimSpace]
  have hhead : ((s.toList.dropWhile isSpace).rdropWhile isSpace).dropWhile isSpace =
      (s.toList.dropWhile isSpace).rdropWhile isSpace := by
    rw [List.dropWhile_eq_self_iff]
    intro hl
    -- The first character was the first before the end was trimmed.
    rw [(List.rdropWhile_prefix _ _).getElem hl]
    exact List.dropWhile_get_zero_not _ _ _
  rw [hhead, List.rdropWhile_idempotent]

/-! ### Joining two texts -/

section

variable {sep : String} {x : Char} (hsep : sep.toList = [x])

include hsep

theorem toList_join (a b : String) : (a ++ sep ++ b).toList = a.toList ++ x :: b.toList := by
  rw [String.toList_append, String.toList_append, hsep, List.append_assoc, List.singleton_append]

/-- **Texts joined with a character** that is not in the first one tell the parts. -/
theorem join_inj {a b a' b' : String} (ha : x ∉ a.toList) (ha' : x ∉ a'.toList) :
    a ++ sep ++ b = a' ++ sep ++ b' ↔ a = a' ∧ b = b' := by
  rw [← String.toList_inj, toList_join hsep, toList_join hsep, append_cons_eq_append_cons_iff,
    String.toList_inj, String.toList_inj]
  constructor
  · rintro (h | ⟨c, hc, -⟩ | ⟨c, hc, -⟩)
    · exact h
    · exact absurd (hc ▸ List.mem_append_right _ List.mem_cons_self) ha
    · exact absurd (hc ▸ List.mem_append_right _ List.mem_cons_self) ha'
  · exact Or.inl

end

/-! ### Joining with a hyphen -/

/-- The end of `a` behind a hyphen stands in front of `b'` instead. -/
def Shifted (a b a' b' : String) : Prop := ∃ c, a = a' ++ "-" ++ c ∧ b' = c ++ "-" ++ b

instance (a b a' b' : String) : Decidable (Shifted a b a' b') :=
  decidable_of_iff (∃ c ∈ cutPrefix a (a' ++ "-"), b' = c ++ "-" ++ b) <| by
    simp only [Option.mem_def, cutPrefix_eq_some, Shifted]

theorem toList_hyphen_join (a b : String) :
    (a ++ "-" ++ b).toList = a.toList ++ '-' :: b.toList :=
  toList_join rfl a b

theorem shifted_iff {a b a' b' : String} :
    Shifted a b a' b' ↔
      ∃ c, a.toList = a'.toList ++ '-' :: c ∧ b'.toList = c ++ '-' :: b.toList := by
  constructor
  · rintro ⟨c, ha, hb⟩
    exact ⟨c.toList, by rw [ha, toList_hyphen_join], by rw [hb, toList_hyphen_join]⟩
  · rintro ⟨c, ha, hb⟩
    refine ⟨String.ofList c, ?_, ?_⟩ <;> rw [← String.toList_inj, toList_hyphen_join]
    · rw [ha, String.toList_ofList]
    · rw [hb, String.toList_ofList]

/-- **Texts joined with a hyphen** tell the parts apart up to a shift. -/
theorem hyphen_join_eq_iff {a b a' b' : String} :
    a ++ "-" ++ b = a' ++ "-" ++ b' ↔
      (a = a' ∧ b = b') ∨ Shifted a b a' b' ∨ Shifted a' b' a b := by
  rw [← String.toList_inj, toList_hyphen_join, toList_hyphen_join, append_cons_eq_append_cons_iff,
    String.toList_inj, String.toList_inj, shifted_iff, shifted_iff]

/-! ### Names between a fixed beginning and a fixed end -/

/-- A beginning and an end that names are made with. -/
structure Affix where
  pre : String
  post : String
  deriving DecidableEq, Repr

def Affix.name (f : Affix) (n : String) : String := f.pre ++ n ++ f.post

theorem Affix.name_begin (p n : String) : (Affix.mk p "").name n = p ++ n :=
  String.append_empty

theorem Affix.name_end (t n : String) : (Affix.mk "" t).name n = n ++ t := by
  rw [Affix.name, String.empty_append]

/-- One of the beginnings starts with the other, and one of the ends ends in the other. -/
def Affix.Overlaps (f g : Affix) : Prop :=
  (hasPrefix f.pre g.pre = true ∨ hasPrefix g.pre f.pre = true) ∧
    (hasSuffix f.post g.post = true ∨ hasSuffix g.post f.post = true)

instance (f g : Affix) : Decidable (f.Overlaps g) := inferInstanceAs (Decidable (_ ∧ _))

theorem Affix.toList_name (f : Affix) (n : String) :
    (f.name n).toList = f.pre.toList ++ n.toList ++ f.post.toList := by
  rw [Affix.name, String.toList_append, String.toList_append]

theorem Affix.name_inj {f : Affix} {a b : String} : f.name a = f.name b ↔ a = b := by
  refine ⟨fun h => ?_, fun h => by rw [h]⟩
  rw [← String.toList_inj, f.toList_name, f.toList_name] at h
  exact String.toList_inj.mp (List.append_cancel_left (List.append_cancel_right h))

/-- **Names made in two ways are equal only if the ways overlap**: a name can imitate a beginning
or an end only where the other way leaves room for it. -/
theorem Affix.overlaps_of_name_eq {f g : Affix} {a b : String} (h : f.name a = g.name b) :
    f.Overlaps g := by
  rw [← String.toList_inj, f.toList_name, g.toList_name] at h
  simp only [Affix.Overlaps, hasPrefix_iff, hasSuffix_iff]
  constructor
  · rw [List.append_assoc, List.append_assoc] at h
    exact List.prefix_or_prefix_of_prefix ⟨_, rfl⟩ ⟨_, h⟩
  · exact List.suffix_or_suffix_of_suffix ⟨_, rfl⟩ ⟨_, h⟩

/-! ### Labels -/

/-- The labels of a dotted name. -/
def labels (s : String) : List (List Char) := s.toList.splitOn '.'

theorem toList_dot_append (t : String) : ("." ++ t).toList = '.' :: t.toList := by
  rw [String.toList_append]
  rfl

/-- A name is another, or a name under it, exactly when its labels end in the other's. -/
theorem labels_suffix_iff {s t : String} :
    labels t <:+ labels s ↔ s = t ∨ hasSuffix s ("." ++ t) = true := by
  rw [hasSuffix_iff, toList_dot_append, ← String.toList_inj]
  exact splitOn_suffix_iff

/-- A name is strictly under another when its labels end in the other's and are more. -/
theorem labels_properSuffix_iff {s t : String} :
    (labels t <:+ labels s ∧ labels t ≠ labels s) ↔ hasSuffix s ("." ++ t) = true := by
  rw [hasSuffix_iff, toList_dot_append]
  exact splitOn_properSuffix_iff

/-- What stands before a dotted suffix of a name without empty labels is not empty. -/
theorem length_lt_of_hasSuffix {s t : String} (hs : [] ∉ labels s)
    (h : hasSuffix s ("." ++ t) = true) : t.length + 1 < s.length := by
  obtain ⟨r, hr⟩ := hasSuffix_iff.mp h
  rw [toList_dot_append] at hr
  have hne : r ≠ [] := by
    rintro rfl
    apply hs
    rw [labels, ← hr, List.splitOn_append_cons_self, List.splitOn_nil]
    exact List.mem_append_left _ (List.mem_singleton_self _)
  have hlen : s.length = r.length + (t.length + 1) := by
    rw [← String.length_toList, ← hr, List.length_append, List.length_cons, String.length_toList]
  have := List.length_pos_iff.mpr hne
  omega

end Strings
