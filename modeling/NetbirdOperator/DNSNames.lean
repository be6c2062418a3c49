import Mathlib.Data.List.Chain
import NetbirdOperator.Strings

/-!
# Names in the form of DNS

The forms that a cluster accepts for the names of objects, for the values of labels and for
hostnames. A *label* is made of lower case letters, digits and hyphens and has a letter or a digit
at both ends. A *subdomain* is one label or several with dots between them.

## Labels, or neighbours

That every label is well formed is the definition, but a poor invariant: cutting a name may cut a
label. What survives a cut is a condition on neighbouring characters. There is nothing but a letter
or a digit next to a dot, so a beginning of a subdomain is one as soon as it ends in a letter or a
digit, and trimming sees to that. `dotted_iff_spelled` says that the two are the same.

## Main definitions

* `DNSNames.Label`, `Dotted` — a label, and labels with dots between them
* `DNSNames.Subdomain`, `LabelValue`, `Hostname` — the forms, with their bounds in bytes
* `DNSNames.Spelled` — the condition on neighbours

## Main results

* `DNSNames.dotted_iff_spelled`
* `DNSNames.Spelled.trimmed` — a beginning without separators at its end
* `DNSNames.Spelled.hyphen_append` — a name continued with a hyphen and a label
-/

namespace DNSNames

open Strings

/-! ### Characters -/

def isAlnum (c : Char) : Bool := ('a' ≤ c && c ≤ 'z') || ('0' ≤ c && c ≤ '9')

theorem isAlnum_ascii {c : Char} (h : isAlnum c = true) : c.val ≤ 127 := by
  simp only [isAlnum, Bool.or_eq_true, Bool.and_eq_true, decide_eq_true_eq, Char.le_def] at h
  rcases h with ⟨-, h⟩ | ⟨-, h⟩ <;> exact UInt32.le_trans h (by decide)

/-- A text of ASCII characters has as many bytes as characters. -/
theorem utf8ByteSize_of_ascii {s : String} (h : ∀ c ∈ s.toList, c.val ≤ 127) :
    s.utf8ByteSize = s.length := by
  have hchars : ∀ cs : List Char, (∀ c ∈ cs, c.val ≤ 127) →
      (String.ofList cs).utf8ByteSize = cs.length := by
    intro cs hcs
    induction cs with
    | nil => rfl
    | cons c cs ih =>
      have hc : c.utf8Size = 1 := Char.utf8Size_eq_one_iff.mpr (hcs c List.mem_cons_self)
      rw [String.ofList_cons, String.utf8ByteSize_append, String.utf8ByteSize_singleton, hc,
        ih fun d hd => hcs d (List.mem_cons_of_mem c hd), List.length_cons, Nat.add_comm]
  rw [← String.length_toList, ← hchars s.toList h, String.ofList_toList]

/-! ### The forms -/

/-- A letter or digit at both ends, and between them also hyphens. -/
structure Label (l : List Char) : Prop where
  chars : ∀ c ∈ l, isAlnum c = true ∨ c = '-'
  first : ∃ c ∈ l.head?, isAlnum c = true
  last : ∃ c ∈ l.getLast?, isAlnum c = true

theorem label_iff {l : List Char} :
    Label l ↔ (l.all fun c => isAlnum c || c == '-') = true ∧ l.head?.any isAlnum = true ∧
      l.getLast?.any isAlnum = true := by
  simp only [List.all_eq_true, Bool.or_eq_true, beq_iff_eq, Option.any_eq_true]
  constructor
  · rintro ⟨hchars, hfirst, hlast⟩
    exact ⟨hchars, hfirst, hlast⟩
  · rintro ⟨hchars, hfirst, hlast⟩
    exact ⟨hchars, hfirst, hlast⟩

instance (l : List Char) : Decidable (Label l) := decidable_of_iff' _ label_iff

/-- One label, or several with dots between them. -/
def Dotted (s : String) : Prop := ∀ l ∈ labels s, Label l

instance (s : String) : Decidable (Dotted s) :=
  inferInstanceAs (Decidable (∀ l ∈ labels s, Label l))

/-- A DNS-1123 subdomain. -/
structure Subdomain (s : String) : Prop where
  dotted : Dotted s
  size : s.utf8ByteSize ≤ 253

instance (s : String) : Decidable (Subdomain s) :=
  decidable_of_iff (Dotted s ∧ s.utf8ByteSize ≤ 253)
    ⟨fun ⟨hdotted, hsize⟩ => ⟨hdotted, hsize⟩, fun h => ⟨h.dotted, h.size⟩⟩

/-- A character of a label value. -/
def isLabelValueChar (c : Char) : Bool :=
  isAlnum c || ('A' ≤ c && c ≤ 'Z') || c == '-' || c == '_' || c == '.'

/-- A value of a label: empty, or with a letter or digit at both ends. -/
structure LabelValue (s : String) : Prop where
  chars : ∀ c ∈ s.toList, isLabelValueChar c = true
  first : ∀ c ∈ s.toList.head?, isAlnum c = true ∨ ('A' ≤ c ∧ c ≤ 'Z')
  last : ∀ c ∈ s.toList.getLast?, isAlnum c = true ∨ ('A' ≤ c ∧ c ≤ 'Z')
  size : s.utf8ByteSize ≤ 63

/-- A hostname, which may have a wildcard for its first label. -/
structure Hostname (s : String) : Prop where
  form : Dotted s ∨ ∃ d, s = "*." ++ d ∧ Dotted d
  size : s.utf8ByteSize ≤ 253

/-! ### Neighbours -/

/-- Two neighbours: next to a dot there is a letter or a digit. -/
def BesideDot (a b : Char) : Prop :=
  (a = '.' → isAlnum b = true) ∧ (b = '.' → isAlnum a = true)

/-- A letter or digit at both ends and next to every dot. -/
structure Spelled (cs : List Char) : Prop where
  chars : ∀ c ∈ cs, isAlnum c = true ∨ c = '-' ∨ c = '.'
  first : ∃ c ∈ cs.head?, isAlnum c = true
  last : ∃ c ∈ cs.getLast?, isAlnum c = true
  dots : cs.IsChain BesideDot

variable {cs l r : List Char} {s : String}

theorem Spelled.ne_nil (h : Spelled cs) : cs ≠ [] := by
  rintro rfl
  obtain ⟨c, hc, -⟩ := h.first
  cases hc

theorem Label.dot_notMem (h : Label l) : '.' ∉ l := by
  intro hdot
  rcases h.chars '.' hdot with hc | hc <;> exact absurd hc (by decide)

theorem spelled_iff_label (hdot : '.' ∉ l) : Spelled l ↔ Label l := by
  constructor
  · intro h
    refine ⟨fun c hc => ?_, h.first, h.last⟩
    rcases h.chars c hc with halnum | rfl | rfl
    · exact Or.inl halnum
    · exact Or.inr rfl
    · exact absurd hc hdot
  · intro h
    have hbeside : l.Pairwise BesideDot := by
      refine List.pairwise_of_forall_mem_list fun a ha b hb => ⟨?_, ?_⟩
      · rintro rfl
        exact absurd ha hdot
      · rintro rfl
        exact absurd hb hdot
    exact ⟨fun c hc => (h.chars c hc).imp_right Or.inl, h.first, h.last, hbeside.isChain⟩

theorem Label.spelled (h : Label l) : Spelled l := (spelled_iff_label h.dot_notMem).mpr h

theorem ne_dot_of_isAlnum {c : Char} (h : isAlnum c = true) : c ≠ '.' := by
  rintro rfl
  exact absurd h (by decide)

/-- Two of them with a separator in between. -/
theorem Spelled.join {x : Char} (hcs : Spelled cs) (hx : x = '-' ∨ x = '.') (hr : Spelled r) :
    Spelled (cs ++ x :: r) := by
  obtain ⟨a, ha, halast⟩ := hcs.last
  obtain ⟨b, hb, hbfirst⟩ := hr.first
  refine ⟨fun c hc => ?_, ?_, ?_, ?_⟩
  · rcases List.mem_append.mp hc with hc | hc
    · exact hcs.chars c hc
    · rcases List.mem_cons.mp hc with rfl | hc
      · exact Or.inr hx
      · exact hr.chars c hc
  · rw [List.head?_append_of_ne_nil cs hcs.ne_nil]
    exact hcs.first
  · rw [List.getLast?_append_of_ne_nil cs (List.cons_ne_nil x r),
      List.getLast?_cons_of_ne_nil hr.ne_nil]
    exact hr.last
  -- The separator has a letter or a digit on both sides.
  · refine List.isChain_append.mpr ⟨hcs.dots, List.isChain_cons.mpr ⟨?_, hr.dots⟩, ?_⟩
    · intro y hy
      obtain rfl := Option.mem_unique hb hy
      exact ⟨fun _ => hbfirst, fun heq => absurd heq (ne_dot_of_isAlnum hbfirst)⟩
    · intro y hy z hz
      obtain rfl := Option.mem_unique ha hy
      obtain rfl : x = z := Option.some.inj hz
      exact ⟨fun heq => absurd heq (ne_dot_of_isAlnum halast), fun _ => halast⟩

/-- Up to the first dot there is a label, and behind it the same again. -/
theorem spelled_append_dot_iff (hdot : '.' ∉ l) :
    Spelled (l ++ '.' :: r) ↔ Label l ∧ Spelled r := by
  constructor
  · intro h
    obtain ⟨hchainl, hchain, hjoin⟩ := List.isChain_append.mp h.dots
    obtain ⟨hnext, hchainr⟩ := List.isChain_cons.mp hchain
    have hl : l ≠ [] := by
      rintro rfl
      obtain ⟨c, hc, halnum⟩ := h.first
      exact ne_dot_of_isAlnum halnum (Option.some.inj hc).symm
    have hr : r ≠ [] := by
      rintro rfl
      obtain ⟨c, hc, halnum⟩ := h.last
      rw [List.getLast?_concat] at hc
      exact ne_dot_of_isAlnum halnum (Option.some.inj hc).symm
    have hcharl : ∀ c ∈ l, isAlnum c = true ∨ c = '-' ∨ c = '.' :=
      fun c hc => h.chars c (List.mem_append_left _ hc)
    have hcharr : ∀ c ∈ r, isAlnum c = true ∨ c = '-' ∨ c = '.' :=
      fun c hc => h.chars c (List.mem_append_right _ (List.mem_cons_of_mem _ hc))
    -- The characters at the dot are the last of the label and the first of what follows.
    have hlast : ∃ c ∈ l.getLast?, isAlnum c = true :=
      ⟨l.getLast hl, List.getLast?_eq_some_getLast hl,
        (hjoin _ (List.getLast?_eq_some_getLast hl) '.' rfl).2 rfl⟩
    have hfirst : ∃ c ∈ r.head?, isAlnum c = true :=
      ⟨r.head hr, List.head?_eq_some_head hr,
        (hnext _ (List.head?_eq_some_head hr)).1 rfl⟩
    have hfirstl := h.first
    have hlastr := h.last
    rw [List.head?_append_of_ne_nil l hl] at hfirstl
    rw [List.getLast?_append_of_ne_nil l (List.cons_ne_nil '.' r), List.getLast?_cons_of_ne_nil hr]
      at hlastr
    exact ⟨(spelled_iff_label hdot).mp ⟨hcharl, hfirstl, hlast, hchainl⟩,
      ⟨hcharr, hfirst, hlastr, hchainr⟩⟩
  · rintro ⟨hl, hr⟩
    exact hl.spelled.join (Or.inr rfl) hr

/-- **Labels and neighbours.** Every label of a name is well formed exactly when the name is spelled
with letters and digits at its ends and next to its dots. -/
theorem dotted_iff_spelled : Dotted s ↔ Spelled s.toList := by
  have hjoin : ∀ ls : List (List Char), ls ≠ [] → (∀ l ∈ ls, '.' ∉ l) →
      (Spelled (['.'].intercalate ls) ↔ ∀ l ∈ ls, Label l) := by
    intro ls hne hdots
    induction ls with
    | nil => exact absurd rfl hne
    | cons l ls ih =>
      have hdot := hdots l List.mem_cons_self
      rcases eq_or_ne ls [] with rfl | hls
      · simp [spelled_iff_label hdot]
      · rw [List.intercalate_cons_of_ne_nil hls, List.append_assoc, List.singleton_append,
          spelled_append_dot_iff hdot, ih hls fun m hm => hdots m (List.mem_cons_of_mem l hm),
          List.forall_mem_cons]
  have hsplit := hjoin (labels s) (List.splitOn_ne_nil _ _) fun _ hl => not_mem_of_mem_splitOn hl
  rw [Dotted, ← hsplit, labels, List.intercalate_splitOn]

/-! ### Building names -/

/-- A beginning of a name is a name once the separators at its end are gone. -/
theorem Spelled.trimmed (h : Spelled cs) {p : List Char} (hp : p <+: cs) (hne : p ≠ [])
    {sep : Char → Bool} (halnum : ∀ c, isAlnum c = true → sep c = false) (hhyphen : sep '-' = true)
    (hdot : sep '.' = true) : Spelled (p.rdropWhile sep) := by
  have hpre : p.rdropWhile sep <+: cs := (List.rdropWhile_prefix sep p).trans hp
  obtain ⟨c, hc, hfirst⟩ := h.first
  obtain ⟨rest, rfl⟩ := hp
  rw [List.head?_append_of_ne_nil p hne] at hc
  -- The first character stays, so something does.
  have hkept : p.rdropWhile sep ≠ [] := by
    intro hnil
    have hdropped := List.rdropWhile_eq_nil_iff.mp hnil c (List.mem_of_mem_head? hc)
    rw [halnum c hfirst] at hdropped
    cases hdropped
  have hchars : ∀ d ∈ p.rdropWhile sep, isAlnum d = true ∨ d = '-' ∨ d = '.' :=
    fun d hd => h.chars d (hpre.subset hd)
  have hlast := List.rdropWhile_last_not sep p hkept
  refine ⟨hchars, ⟨c, ?_, hfirst⟩, ⟨_, List.getLast?_eq_some_getLast hkept, ?_⟩, h.dots.prefix hpre⟩
  · obtain ⟨t, ht⟩ := List.rdropWhile_prefix sep p
    rwa [← ht, List.head?_append_of_ne_nil _ hkept] at hc
  · rcases hchars _ (List.getLast_mem hkept) with hd | hd | hd
    · exact hd
    · exact absurd (hd ▸ hhyphen) hlast
    · exact absurd (hd ▸ hdot) hlast

/-- A name goes on with a hyphen and a label. -/
theorem Spelled.hyphen_append (h : Spelled cs) (hl : Label l) : Spelled (cs ++ '-' :: l) :=
  h.join (Or.inl rfl) hl.spelled

/-! ### Sizes -/

theorem Spelled.utf8ByteSize_eq (h : Spelled s.toList) : s.utf8ByteSize = s.length := by
  refine utf8ByteSize_of_ascii fun c hc => ?_
  rcases h.chars c hc with halnum | rfl | rfl
  · exact isAlnum_ascii halnum
  · decide
  · decide

theorem Spelled.subdomain (h : Spelled s.toList) (hlen : s.length ≤ 253) : Subdomain s :=
  ⟨dotted_iff_spelled.mpr h, h.utf8ByteSize_eq ▸ hlen⟩

theorem Spelled.labelValue (h : Spelled s.toList) (hlen : s.length ≤ 63) : LabelValue s := by
  obtain ⟨a, ha, hfirst⟩ := h.first
  obtain ⟨b, hb, hlast⟩ := h.last
  refine ⟨fun c hc => ?_, fun c hc => ?_, fun c hc => ?_, h.utf8ByteSize_eq ▸ hlen⟩
  · rcases h.chars c hc with halnum | rfl | rfl
    · simp [isLabelValueChar, halnum]
    · decide
    · decide
  · exact Or.inl (Option.mem_unique ha hc ▸ hfirst)
  · exact Or.inl (Option.mem_unique hb hc ▸ hlast)

end DNSNames
