import Mathlib.Algebra.Group.Nat.Defs
import Mathlib.Data.List.Induction
import Mathlib.Tactic.Common
import NetbirdOperator.Strings

/-!
# IP addresses as text

An IP address has one value and many texts. An IPv6 address is eight groups of 16 bits, written in
base 16 with colons between them, in either case, with or without zeros in front. One run of zero
groups may be left out, and the last two groups may be written as an IPv4 address. An IPv4 address
is four numbers below 256 with dots between them, without zeros in front, and has a place among the
IPv6 addresses: behind five zero groups and a group of ones. That place has texts of both kinds.

So the kind of an address and the kind of its text are two things. A text without a colon is of an
IPv4 address; one with a colon may be of either.

## What a reader has to keep

`Codec` is what is relied on in a pair of a reader and a printer of addresses: that what is printed
is read as what it was, and that an accepted text without a colon is a dotted quad of an IPv4
address. Everything else about them is free. `standard` is such a pair, with the texts above and the
shortest of them printed, and IPv4 addresses as dotted quads.

## Main definitions

* `IPText.Addr`, `Addr.to4` — addresses, and those that are IPv4 addresses
* `IPText.DottedQuad` — four numbers with dots between them
* `IPText.parse`, `text` — reading and printing
* `IPText.Codec`, `standard` — what is assumed of a reader and a printer, and the pair above

## Main results

* `IPText.quad_eq_some_iff` — an accepted dotted quad is the one that is printed
* `IPText.parse_text` — what is printed is read as what it was
* `IPText.dottedQuad_of_parse` — accepted texts without a colon
-/

namespace IPText

open Strings

/-! ### Numbers -/

/-- The value of a digit, in base 16. -/
def digit (c : Char) : Option ℕ :=
  if '0' ≤ c ∧ c ≤ '9' then some (c.toNat - 48)
  else if 'a' ≤ c ∧ c ≤ 'f' then some (c.toNat - 87)
  else if 'A' ≤ c ∧ c ≤ 'F' then some (c.toNat - 55)
  else none

/-- The number that is written in that base. -/
def number (b : ℕ) (cs : List Char) : Option ℕ :=
  cs.foldlM (fun n c => ((digit c).filter (· < b)).map fun d => b * n + d) 0

variable {b n : ℕ} {c : Char} {cs : List Char}

theorem number_concat (b : ℕ) (cs : List Char) (c : Char) :
    number b (cs ++ [c]) =
      (number b cs).bind fun n => ((digit c).filter (· < b)).map fun d => b * n + d := by
  rw [number, List.foldlM_append]
  simp only [List.foldlM_cons, List.foldlM_nil, Option.bind_eq_bind, Option.pure_def,
    Option.bind_fun_some, number]

theorem digit_digitChar : ∀ d < 16, digit (Nat.digitChar d) = some d := by decide

theorem toNat_digitChar : ∀ d < 10, (Nat.digitChar d).toNat = 48 + d := by decide

theorem filter_digit_digitChar (hb : b ≤ 16) (hn : n < b) :
    (digit (Nat.digitChar n)).filter (· < b) = some n := by
  rw [digit_digitChar n (by omega), Option.filter_eq_some_iff]
  exact ⟨rfl, decide_eq_true hn⟩

/-- A number is read as what it was. -/
theorem number_toDigits (hb : 1 < b) (hb' : b ≤ 16) (n : ℕ) :
    number b (b.toDigits n) = some n := by
  induction n using Nat.strong_induction_on with
  | _ n ih =>
    rcases Nat.lt_or_ge n b with hlt | hge
    · rw [Nat.toDigits_of_lt_base hlt]
      refine (number_concat b [] _).trans ?_
      rw [filter_digit_digitChar hb' hlt]
      simp [number]
    · have hpos : 0 < n / b := Nat.div_pos hge (by omega)
      have hmod : n % b < b := Nat.mod_lt n (by omega)
      -- The last digit is the remainder, and those before it are the quotient.
      have hsplit : b.toDigits n = b.toDigits (n / b) ++ [Nat.digitChar (n % b)] := by
        rw [← Nat.toDigits_of_lt_base hmod, Nat.toDigits_append_toDigits hb hpos hmod,
          Nat.div_add_mod]
      rw [hsplit, number_concat, ih (n / b) (Nat.div_lt_self (by omega) hb),
        filter_digit_digitChar hb' hmod, Option.bind_some, Option.map_some, Nat.div_add_mod]

theorem eq_digitChar (hc : digit c = some n) (hn : n < 10) : c = Nat.digitChar n := by
  rw [digit] at hc
  split_ifs at hc with h₁ h₂ h₃
  · have hle' : 48 ≤ c.toNat := h₁.1
    have hn' := Option.some.inj hc
    rw [← Char.toNat_inj, toNat_digitChar n hn]
    omega
  · have hle' : 97 ≤ c.toNat := h₂.1
    have hn' := Option.some.inj hc
    omega
  · have hle' : 65 ≤ c.toNat := h₃.1
    have hn' := Option.some.inj hc
    omega

/-- Without a zero in front, a number has one text. -/
theorem toDigits_of_number (hne : cs ≠ []) (hzero : cs.head? = some '0' → cs.length = 1)
    (h : number 10 cs = some n) : cs = Nat.toDigits 10 n := by
  induction cs using List.reverseRecOn generalizing n with
  | nil => exact absurd rfl hne
  | append_singleton cs c ih =>
    rw [number_concat] at h
    obtain ⟨m, hm, h⟩ := Option.bind_eq_some_iff.mp h
    obtain ⟨d, hd, rfl⟩ := Option.map_eq_some_iff.mp h
    obtain ⟨hd, hlt⟩ := Option.filter_eq_some_iff.mp hd
    have hlt : d < 10 := of_decide_eq_true hlt
    obtain rfl := eq_digitChar hd hlt
    rcases eq_or_ne cs [] with rfl | hcs
    · obtain rfl : 0 = m := Option.some.inj hm
      rw [Nat.mul_zero, Nat.zero_add, Nat.toDigits_of_lt_base hlt, List.nil_append]
    · rw [List.head?_append_of_ne_nil cs hcs, List.length_append] at hzero
      have hhead : cs.head? ≠ some '0' := by
        intro hhead
        have hlen := hzero hhead
        have hpos := List.length_pos_iff.mpr hcs
        rw [List.length_singleton] at hlen
        omega
      have hm' := ih hcs (fun hhead' => absurd hhead' hhead) hm
      have hpos : 0 < m := by
        refine Nat.pos_of_ne_zero ?_
        rintro rfl
        exact hhead (by rw [hm']; rfl)
      rw [hm', ← Nat.toDigits_of_lt_base hlt, Nat.toDigits_append_toDigits (by omega) hpos hlt]

/-- What is read as a number has digits only. -/
theorem digit_ne_none_of_number (h : number b cs = some n) (hc : c ∈ cs) : digit c ≠ none := by
  induction cs using List.reverseRecOn generalizing n with
  | nil => cases hc
  | append_singleton cs c' ih =>
    rw [number_concat] at h
    obtain ⟨m, hm, h⟩ := Option.bind_eq_some_iff.mp h
    rcases List.mem_append.mp hc with hc | hc
    · exact ih hm hc
    · obtain rfl := List.mem_singleton.mp hc
      intro hnone
      rw [hnone] at h
      cases h

theorem notMem_toDigits (hb : 1 < b) (hb' : b ≤ 16) (hc : digit c = none) (n : ℕ) :
    c ∉ b.toDigits n :=
  fun hmem => digit_ne_none_of_number (number_toDigits hb hb' n) hmem hc

/-! ### Numbers with a separator -/

theorem mem_intercalate {x c : Char} {ls : List (List Char)} (h : c ∈ [x].intercalate ls) :
    c = x ∨ ∃ l ∈ ls, c ∈ l := by
  induction ls with
  | nil => simp at h
  | cons l ls ih =>
    rcases eq_or_ne ls [] with rfl | hls
    · exact Or.inr ⟨l, List.mem_cons_self, by simpa using h⟩
    · rw [List.intercalate_cons_of_ne_nil hls, List.append_assoc, List.mem_append,
        List.singleton_append, List.mem_cons] at h
      rcases h with h | rfl | h
      · exact Or.inr ⟨l, List.mem_cons_self, h⟩
      · exact Or.inl rfl
      · refine (ih h).imp_right ?_
        rintro ⟨m, hm, hc⟩
        exact ⟨m, List.mem_cons_of_mem l hm, hc⟩

section

variable {x : Char} (hb : 1 < b) (hb' : b ≤ 16)

include hb hb'

/-- Numbers are split at their separator, which is no digit. -/
theorem splitOn_intercalate_toDigits (hx : digit x = none) {ns : List ℕ} (hns : ns ≠ []) :
    ([x].intercalate (ns.map b.toDigits)).splitOn x = ns.map b.toDigits := by
  refine List.splitOn_intercalate x (fun l hl => ?_) (by simpa using hns)
  obtain ⟨n, -, rfl⟩ := List.mem_map.mp hl
  exact notMem_toDigits hb hb' hx n

/-- There are only digits and the separator in them. -/
theorem notMem_intercalate_toDigits (hc : digit c = none) (hcx : c ≠ x) (ns : List ℕ) :
    c ∉ [x].intercalate (ns.map b.toDigits) := by
  intro hmem
  rcases mem_intercalate hmem with h | ⟨l, hl, h⟩
  · exact hcx h
  · obtain ⟨n, -, rfl⟩ := List.mem_map.mp hl
    exact notMem_toDigits hb hb' hc n h

end

/-! ### Dotted quads -/

/-- A number below 256, without a zero in front. -/
def octet (cs : List Char) : Option ℕ :=
  if cs = [] ∨ cs.head? = some '0' ∧ cs.length ≠ 1 then none
  else (number 10 cs).filter (· < 256)

theorem octet_toDigits : ∀ n < 256, octet (Nat.toDigits 10 n) = some n := by decide +kernel

theorem octet_eq_some_iff : octet cs = some n ↔ n < 256 ∧ cs = Nat.toDigits 10 n := by
  constructor
  · intro h
    rw [octet] at h
    split_ifs at h with hform
    rw [not_or, not_and, not_not] at hform
    obtain ⟨hnumber, hlt⟩ := Option.filter_eq_some_iff.mp h
    exact ⟨of_decide_eq_true hlt, toDigits_of_number hform.1 hform.2 hnumber⟩
  · rintro ⟨hlt, rfl⟩
    exact octet_toDigits n hlt

variable {fs : List (List Char)} {bytes gs hs : List ℕ}

theorem mapM_octet_eq_some_iff :
    fs.mapM octet = some bytes ↔ (∀ n ∈ bytes, n < 256) ∧ fs = bytes.map (Nat.toDigits 10) := by
  induction fs generalizing bytes with
  | nil => cases bytes <;> simp
  | cons f fs ih =>
    simp only [List.mapM_cons, Option.bind_eq_bind, Option.bind_eq_some_iff, octet_eq_some_iff, ih,
      Option.pure_def, Option.some.injEq]
    constructor
    · rintro ⟨n, ⟨hn, rfl⟩, rest, ⟨hrest, rfl⟩, rfl⟩
      exact ⟨List.forall_mem_cons.mpr ⟨hn, hrest⟩, rfl⟩
    · rintro ⟨hall, heq⟩
      cases bytes with
      | nil => cases heq
      | cons n rest =>
        obtain ⟨hn, hrest⟩ := List.forall_mem_cons.mp hall
        obtain ⟨rfl, rfl⟩ := List.cons.inj heq
        exact ⟨n, ⟨hn, rfl⟩, rest, ⟨hrest, rfl⟩, rfl⟩

/-- Numbers with dots between them. -/
def dotted (bytes : List ℕ) : List Char := ['.'].intercalate (bytes.map (Nat.toDigits 10))

/-- The four numbers of a dotted quad. -/
def quad (cs : List Char) : Option (List ℕ) :=
  ((cs.splitOn '.').mapM octet).filter (·.length = 4)

theorem splitOn_dotted (h : bytes ≠ []) :
    (dotted bytes).splitOn '.' = bytes.map (Nat.toDigits 10) :=
  splitOn_intercalate_toDigits (by omega) (by omega) (by decide) h

/-- **A dotted quad that is accepted is the one that is printed.** -/
theorem quad_eq_some_iff :
    quad cs = some bytes ↔ bytes.length = 4 ∧ (∀ n ∈ bytes, n < 256) ∧ cs = dotted bytes := by
  rw [quad, Option.filter_eq_some_iff, mapM_octet_eq_some_iff, decide_eq_true_iff]
  constructor
  · rintro ⟨⟨hall, hsplit⟩, hlen⟩
    refine ⟨hlen, hall, ?_⟩
    rw [dotted, ← hsplit, List.intercalate_splitOn]
  · rintro ⟨hlen, hall, rfl⟩
    have hne : bytes ≠ [] := by
      rintro rfl
      cases hlen
    exact ⟨⟨hall, splitOn_dotted hne⟩, hlen⟩

/-- Four numbers below 256, with dots between them. -/
def DottedQuad (s : String) : Prop :=
  ∃ bytes : List ℕ, bytes.length = 4 ∧ (∀ n ∈ bytes, n < 256) ∧ s.toList = dotted bytes

theorem colon_notMem_dotted (bytes : List ℕ) : ':' ∉ dotted bytes :=
  notMem_intercalate_toDigits (by omega) (by omega) (by decide) (by decide) bytes

theorem DottedQuad.colon_notMem {s : String} (h : DottedQuad s) : ':' ∉ s.toList := by
  obtain ⟨bytes, -, -, hs⟩ := h
  rw [hs]
  exact colon_notMem_dotted bytes

/-! ### Addresses -/

/-- An IPv6 address, in groups of 16 bits. -/
structure Addr where
  groups : List ℕ
  length : groups.length = 8
  bound : ∀ g ∈ groups, g < 2 ^ 16
  deriving DecidableEq

/-- The address with those groups, if they are those of an address. -/
def Addr.ofGroups (gs : List ℕ) : Option Addr :=
  if h : gs.length = 8 ∧ ∀ g ∈ gs, g < 2 ^ 16 then some ⟨gs, h.1, h.2⟩ else none

theorem Addr.ofGroups_groups (a : Addr) : Addr.ofGroups a.groups = some a :=
  dif_pos ⟨a.length, a.bound⟩

theorem Addr.groups_of_ofGroups {a : Addr} (h : Addr.ofGroups gs = some a) : a.groups = gs := by
  rw [Addr.ofGroups] at h
  split_ifs at h
  rw [← Option.some.inj h]

/-- The groups in front of an IPv4 address. -/
def mappedGroups : List ℕ := [0, 0, 0, 0, 0, 0xffff]

/-- The four numbers of an address that is an IPv4 address. -/
def Addr.to4 (a : Addr) : Option (List ℕ) :=
  if a.groups.take 6 = mappedGroups then
    some ((a.groups.drop 6).flatMap fun g => [g / 256, g % 256])
  else none

/-- Two groups from four numbers. -/
def quadGroups : List ℕ → List ℕ
  | [a, b, c, d] => [256 * a + b, 256 * c + d]
  | _ => []

theorem Addr.groups_of_to4 {a : Addr} (h : a.to4 = some bytes) :
    bytes.length = 4 ∧ (∀ n ∈ bytes, n < 256) ∧ a.groups = mappedGroups ++ quadGroups bytes := by
  rw [Addr.to4] at h
  split_ifs at h with htake
  have hlen : (a.groups.drop 6).length = 2 := by rw [List.length_drop, a.length]
  obtain ⟨hi, lo, hdrop⟩ := List.length_eq_two.mp hlen
  have hbound : ∀ g ∈ a.groups.drop 6, g < 2 ^ 16 := fun g hg => a.bound g (List.mem_of_mem_drop hg)
  rw [hdrop] at h hbound
  obtain ⟨hhi, hlo⟩ : hi < 2 ^ 16 ∧ lo < 2 ^ 16 := by simpa using hbound
  obtain rfl : [hi / 256, hi % 256, lo / 256, lo % 256] = bytes := Option.some.inj h
  refine ⟨rfl, ?_, ?_⟩
  · simp only [List.mem_cons, List.not_mem_nil, or_false]
    rintro n (rfl | rfl | rfl | rfl) <;> omega
  · rw [← List.take_append_drop 6 a.groups, htake, hdrop, quadGroups, Nat.div_add_mod,
      Nat.div_add_mod]

/-! ### Reading -/

/-- A group: one to four digits in base 16. -/
def group (cs : List Char) : Option ℕ :=
  if cs.length = 0 ∨ 4 < cs.length then none else number 16 cs

/-- The groups between colons. The last two may be a dotted quad. -/
def fields : List (List Char) → Option (List ℕ)
  | [] => some []
  | [f] => if '.' ∈ f then (quad f).map quadGroups else (group f).map fun g => [g]
  | f :: f' :: fs => do
    let g ← group f
    let gs ← fields (f' :: fs)
    some (g :: gs)

/-- The groups on one side of the two colons that stand for a run of zeros. -/
def side (cs : List Char) : Option (List ℕ) :=
  if cs = [] then some [] else fields (cs.splitOn ':')

/-- What is before the first two colons in a row, and what is behind them. -/
def cutEllipsis : List Char → Option (List Char × List Char)
  | [] => none
  | [_] => none
  | c :: c' :: cs =>
    if c = ':' ∧ c' = ':' then some ([], cs)
    else (cutEllipsis (c' :: cs)).map fun p => (c :: p.1, p.2)

/-- The groups of a text with colons. A run that is left out has at least one group. -/
def parse6 (cs : List Char) : Option (List ℕ) :=
  match cutEllipsis cs with
  | none => fields (cs.splitOn ':')
  | some (pre, post) => do
    let gs ← if '.' ∈ pre then none else side pre
    let hs ← side post
    if gs.length + hs.length < 8 then
      some (gs ++ List.replicate (8 - (gs.length + hs.length)) 0 ++ hs)
    else none

def parse (s : String) : Option Addr :=
  (if ':' ∈ s.toList then parse6 s.toList
    else (quad s.toList).map fun bytes => mappedGroups ++ quadGroups bytes).bind Addr.ofGroups

/-! ### Printing -/

/-- Groups with colons between them. -/
def colons (gs : List ℕ) : List Char := [':'].intercalate (gs.map (Nat.toDigits 16))

/-- The first of the longest runs of at least two zeros: where it starts, and its length. -/
def zeroRun (gs : List ℕ) : ℕ × ℕ :=
  (List.range 8).foldl
    (fun best i =>
      let l := ((gs.drop i).takeWhile (· = 0)).length
      if 2 ≤ l ∧ best.2 < l then (i, l) else best)
    (0, 0)

def text6 (gs : List ℕ) : List Char :=
  let (i, l) := zeroRun gs
  if l = 0 then colons gs else colons (gs.take i) ++ ':' :: ':' :: colons (gs.drop (i + l))

/-- An IPv4 address is printed as a dotted quad. -/
def text (a : Addr) : String :=
  match a.to4 with
  | some bytes => String.ofList (dotted bytes)
  | none => String.ofList (text6 a.groups)

/-! ### What is printed is read -/

theorem group_toDigits {g : ℕ} (hg : g < 2 ^ 16) : group (Nat.toDigits 16 g) = some g := by
  have hlen : (Nat.toDigits 16 g).length ≤ 4 :=
    (Nat.length_toDigits_le_iff (by omega) (by omega)).mpr hg
  rw [group, if_neg, number_toDigits (by omega) (by omega)]
  rw [List.length_eq_zero_iff, not_or]
  exact ⟨Nat.toDigits_ne_nil, by omega⟩

theorem fields_map_toDigits (hgs : ∀ g ∈ gs, g < 2 ^ 16) :
    fields (gs.map (Nat.toDigits 16)) = some gs := by
  induction gs with
  | nil => rfl
  | cons g gs ih =>
    obtain ⟨hg, hrest⟩ := List.forall_mem_cons.mp hgs
    cases gs with
    | nil =>
      have hdot : '.' ∉ Nat.toDigits 16 g := notMem_toDigits (by omega) (by omega) (by decide) g
      rw [List.map_singleton, fields, if_neg hdot, group_toDigits hg]
      rfl
    | cons g' gs =>
      rw [List.map_cons, List.map_cons, fields, group_toDigits hg]
      rw [List.map_cons] at ih
      rw [ih hrest]
      rfl

theorem splitOn_colons (h : gs ≠ []) : (colons gs).splitOn ':' = gs.map (Nat.toDigits 16) :=
  splitOn_intercalate_toDigits (by omega) (by omega) (by decide) h

theorem colons_cons (g : ℕ) (h : gs ≠ []) :
    colons (g :: gs) = Nat.toDigits 16 g ++ ':' :: colons gs := by
  rw [colons, List.map_cons, List.intercalate_cons_of_ne_nil (by simpa using h), List.append_assoc]
  rfl

/-- Groups with colons between them start with a digit, if there are any. -/
theorem exists_cons_colons (h : gs ≠ []) : ∃ c cs, colons gs = c :: cs ∧ c ≠ ':' := by
  cases gs with
  | nil => exact absurd rfl h
  | cons g gs =>
    obtain ⟨c, cs, hcs⟩ := List.exists_cons_of_ne_nil (Nat.toDigits_ne_nil (n := g) (b := 16))
    have hc : c ≠ ':' := by
      rintro rfl
      refine notMem_toDigits (b := 16) (by omega) (by omega) (c := ':') (by decide) g ?_
      rw [hcs]
      exact List.mem_cons_self
    rcases eq_or_ne gs [] with rfl | hgs
    · exact ⟨c, cs, by rw [← hcs]; simp [colons], hc⟩
    · exact ⟨c, _, by rw [colons_cons g hgs, hcs, List.cons_append], hc⟩

theorem side_colons (hgs : ∀ g ∈ gs, g < 2 ^ 16) : side (colons gs) = some gs := by
  rcases eq_or_ne gs [] with rfl | hne
  · rfl
  · obtain ⟨c, cs, hcs, -⟩ := exists_cons_colons hne
    rw [side, if_neg (by simp [hcs]), splitOn_colons hne, fields_map_toDigits hgs]

theorem dot_notMem_colons (gs : List ℕ) : '.' ∉ colons gs :=
  notMem_intercalate_toDigits (by omega) (by omega) (by decide) (by decide) gs

theorem cutEllipsis_cons {c : Char} (h : c = ':' → cs.head? ≠ some ':') :
    cutEllipsis (c :: cs) = (cutEllipsis cs).map fun p => (c :: p.1, p.2) := by
  cases cs with
  | nil => rfl
  | cons c' cs =>
    rw [cutEllipsis, if_neg]
    rintro ⟨hc, rfl⟩
    exact h hc rfl

/-- A word without colons in front only comes along. -/
theorem cutEllipsis_append {l : List Char} (h : ':' ∉ l) (cs : List Char) :
    cutEllipsis (l ++ cs) = (cutEllipsis cs).map fun p => (l ++ p.1, p.2) := by
  induction l with
  | nil => simp
  | cons c l ih =>
    rw [List.mem_cons, not_or] at h
    rw [List.cons_append, cutEllipsis_cons fun hc => absurd hc.symm h.1, ih h.2, Option.map_map]
    rfl

/-- There are no two colons in a row between groups. -/
theorem cutEllipsis_colons_append (gs : List ℕ) (cs : List Char) :
    cutEllipsis (colons gs ++ cs) = (cutEllipsis cs).map fun p => (colons gs ++ p.1, p.2) := by
  induction gs with
  | nil => simp [colons]
  | cons g gs ih =>
    have hword : ':' ∉ Nat.toDigits 16 g := notMem_toDigits (by omega) (by omega) (by decide) g
    rcases eq_or_ne gs [] with rfl | hne
    · have hone : colons [g] = Nat.toDigits 16 g := by simp [colons]
      rw [hone, cutEllipsis_append hword]
    · obtain ⟨c, cs', hcs, hc⟩ := exists_cons_colons hne
      rw [colons_cons g hne, List.append_assoc, List.cons_append, cutEllipsis_append hword,
        cutEllipsis_cons, ih, Option.map_map, Option.map_map]
      · congr 1
        funext p
        simp
      · intro _ hhead
        rw [hcs, List.cons_append] at hhead
        exact hc (Option.some.inj hhead)

theorem parse6_colons (hne : gs ≠ []) (hgs : ∀ g ∈ gs, g < 2 ^ 16) :
    parse6 (colons gs) = some gs := by
  have hcut : cutEllipsis (colons gs) = none := by
    have := cutEllipsis_colons_append gs []
    rwa [List.append_nil] at this
  rw [parse6, hcut]
  dsimp only
  rw [splitOn_colons hne, fields_map_toDigits hgs]

theorem parse6_ellipsis {n : ℕ} (hn : 0 < n) (hlen : gs.length + n + hs.length = 8)
    (hgs : ∀ g ∈ gs, g < 2 ^ 16) (hhs : ∀ g ∈ hs, g < 2 ^ 16) :
    parse6 (colons gs ++ ':' :: ':' :: colons hs) = some (gs ++ List.replicate n 0 ++ hs) := by
  have hcut : cutEllipsis (colons gs ++ ':' :: ':' :: colons hs) = some (colons gs, colons hs) := by
    rw [cutEllipsis_colons_append, cutEllipsis, if_pos ⟨rfl, rfl⟩, Option.map_some, List.append_nil]
  have hrun : 8 - (gs.length + hs.length) = n := by omega
  rw [parse6, hcut]
  dsimp only
  rw [if_neg (dot_notMem_colons gs), side_colons hgs, side_colons hhs]
  simp only [Option.bind_eq_bind, Option.bind_some]
  rw [if_pos (by omega), hrun]

/-- A list from which a run of zeros is taken. -/
theorem eq_append_zeros (gs : List ℕ) (i : ℕ) :
    gs = gs.take i ++ List.replicate ((gs.drop i).takeWhile (· = 0)).length 0 ++
      gs.drop (i + ((gs.drop i).takeWhile (· = 0)).length) := by
  have hzeros : (gs.drop i).takeWhile (· = 0) =
      List.replicate ((gs.drop i).takeWhile (· = 0)).length 0 :=
    List.eq_replicate_of_mem fun g hg => by simpa using List.mem_takeWhile_imp hg
  have hrest : gs.drop (i + ((gs.drop i).takeWhile (· = 0)).length) =
      (gs.drop i).dropWhile (· = 0) := by
    rw [← List.drop_drop]
    nth_rewrite 2 [← List.takeWhile_append_dropWhile (p := (· = 0)) (l := gs.drop i)]
    rw [List.drop_left]
  rw [hrest, ← hzeros, List.append_assoc, List.takeWhile_append_dropWhile, List.take_append_drop]

/-- What was found is a run of zeros. -/
theorem eq_append_zeroRun (gs : List ℕ) :
    gs = gs.take (zeroRun gs).1 ++ List.replicate (zeroRun gs).2 0 ++
      gs.drop ((zeroRun gs).1 + (zeroRun gs).2) := by
  -- It is one after each step of the search, whichever was the longest so far.
  have hsearch : ∀ (is : List ℕ) (best : ℕ × ℕ),
      (gs = gs.take best.1 ++ List.replicate best.2 0 ++ gs.drop (best.1 + best.2)) →
      let found := is.foldl
        (fun best i =>
          let l := ((gs.drop i).takeWhile (· = 0)).length
          if 2 ≤ l ∧ best.2 < l then (i, l) else best) best
      gs = gs.take found.1 ++ List.replicate found.2 0 ++ gs.drop (found.1 + found.2) := by
    intro is
    induction is with
    | nil => exact fun best h => h
    | cons i is ih =>
      intro best h
      refine ih _ ?_
      dsimp only
      split
      · exact eq_append_zeros gs i
      · exact h
  exact hsearch (List.range 8) (0, 0) (by simp)

theorem colon_mem_colons (h : 2 ≤ gs.length) : ':' ∈ colons gs := by
  match gs, h with
  | g :: g' :: gs, _ =>
    rw [colons_cons g (List.cons_ne_nil g' gs)]
    exact List.mem_append_right _ List.mem_cons_self

theorem parse6_text6 (hlen : gs.length = 8) (hgs : ∀ g ∈ gs, g < 2 ^ 16) :
    ':' ∈ text6 gs ∧ parse6 (text6 gs) = some gs := by
  have hsplit := eq_append_zeroRun gs
  rw [text6]
  generalize zeroRun gs = found at hsplit ⊢
  obtain ⟨i, l⟩ := found
  dsimp only at hsplit ⊢
  split_ifs with hl
  · refine ⟨colon_mem_colons (by omega), parse6_colons ?_ hgs⟩
    rintro rfl
    cases hlen
  · refine ⟨List.mem_append_right _ List.mem_cons_self, ?_⟩
    have hsum : (gs.take i).length + l + (gs.drop (i + l)).length = 8 := by
      have := congrArg List.length hsplit
      rw [List.length_append, List.length_append, List.length_replicate] at this
      omega
    rw [parse6_ellipsis (Nat.pos_of_ne_zero hl) hsum
      (fun g hg => hgs g (List.mem_of_mem_take hg)) fun g hg => hgs g (List.mem_of_mem_drop hg),
      ← hsplit]

/-- **What is printed is read as what it was.** -/
theorem parse_text (a : Addr) : parse (text a) = some a := by
  rw [parse, text]
  cases h4 : a.to4 with
  | some bytes =>
    obtain ⟨hlen, hbytes, hgroups⟩ := Addr.groups_of_to4 h4
    dsimp only
    rw [String.toList_ofList, if_neg (colon_notMem_dotted bytes),
      quad_eq_some_iff.mpr ⟨hlen, hbytes, rfl⟩, Option.map_some, ← hgroups, Option.bind_some,
      a.ofGroups_groups]
  | none =>
    obtain ⟨hcolon, hparse⟩ := parse6_text6 a.length a.bound
    dsimp only
    rw [String.toList_ofList, if_pos hcolon, hparse, Option.bind_some, a.ofGroups_groups]

/-- **Accepted texts without a colon** are dotted quads of IPv4 addresses. -/
theorem dottedQuad_of_parse {s : String} {a : Addr} (h : parse s = some a) (hs : ':' ∉ s.toList) :
    DottedQuad s ∧ a.to4.isSome := by
  rw [parse, if_neg hs] at h
  obtain ⟨gs, hgs, h⟩ := Option.bind_eq_some_iff.mp h
  obtain ⟨bytes, hquad, rfl⟩ := Option.map_eq_some_iff.mp hgs
  refine ⟨⟨bytes, quad_eq_some_iff.mp hquad⟩, ?_⟩
  have htake : (mappedGroups ++ quadGroups bytes).take 6 = mappedGroups := List.take_left' rfl
  rw [Addr.to4, Addr.groups_of_ofGroups h, if_pos htake]
  rfl

/-! ### Readers and printers -/

/-- A reader and a printer of addresses, with what is relied on. -/
structure Codec where
  parseIP : String → Option Addr
  string : Addr → String
  parseIP_string : ∀ a, parseIP (string a) = some a
  dottedQuad : ∀ s a, parseIP s = some a → ':' ∉ s.toList → DottedQuad s ∧ a.to4.isSome

/-- The pair above. -/
def standard : Codec := ⟨parse, text, parse_text, fun _ _ => dottedQuad_of_parse⟩

example : (parse "2001:0DB8::1").map text = some "2001:db8::1" := by decide +kernel

example : (parse "::ffff:192.0.2.1").map text = some "192.0.2.1" := by decide +kernel

end IPText
