import NetbirdOperator.DNSNames
import NetbirdOperator.GatewayAPI.Isolation

/-!
# The names of a route's children

A child is named after its route and a hostname. The name of a route is a DNS-1123 subdomain, and so
must be the name of the child, of at most 253 bytes, which is what the name of the route may have by
itself. The readable part is the name of the route, a hyphen and the hostname with hyphens for its
dots; it is cut to 244 bytes, where a cut is closed with a digest, and a digest of the pair follows.

A cut can fall anywhere, into a label of the route's name or next to a dot of it. What
`DNSNames.Spelled` says of a name holds of every beginning of it once trailing separators are gone,
and `safeName` takes these away before it writes its digest. The same function shortens the name of
a route to the value of a label.

Lengths are counted in characters here and in bytes in the source. For texts of ASCII characters,
which all of these are, they are the same (`DNSNames.Spelled.utf8ByteSize_eq`).

## Assumptions

A digest is written with eight digits of base 16.

## Main results

* `GatewayAPI.spelled_safeName` — what is cut stays a name, within its bound
* `GatewayAPI.routeChildName_valid_unique` — the names of children are valid, and differ as long as
  digests do
-/

namespace NetbirdOperator

open ControlLoop Strings DNSNames

namespace GatewayAPI

variable {digest : String → String} {n h s : String} {cs : List Char}

/-! ### Digests -/

def isHexDigit (c : Char) : Bool := ('0' ≤ c && c ≤ '9') || ('a' ≤ c && c ≤ 'f')

/-- The digests are written with eight digits of base 16. -/
structure HexDigest (digest : String → String) : Prop where
  length : ∀ x, (digest x).length = 8
  digits : ∀ x, ∀ c ∈ (digest x).toList, isHexDigit c = true

theorem isAlnum_of_isHexDigit {c : Char} (hc : isHexDigit c = true) : isAlnum c = true := by
  simp only [isHexDigit, isAlnum, Bool.or_eq_true, Bool.and_eq_true, decide_eq_true_eq] at hc ⊢
  rcases hc with hc | ⟨hle, hlt⟩
  · exact Or.inr hc
  · exact Or.inl ⟨hle, Char.le_trans hlt (by decide)⟩

/-- A text of letters and digits is a label, if there is any. -/
theorem label_of_alnum {l : List Char} (hne : l ≠ []) (hl : ∀ c ∈ l, isAlnum c = true) : Label l :=
  ⟨fun c hc => Or.inl (hl c hc), ⟨_, List.head?_eq_some_head hne, hl _ (List.head_mem hne)⟩,
    ⟨_, List.getLast?_eq_some_getLast hne, hl _ (List.getLast_mem hne)⟩⟩

theorem HexDigest.label (hdigest : HexDigest digest) (x : String) : Label (digest x).toList := by
  refine label_of_alnum ?_ fun c hc => isAlnum_of_isHexDigit (hdigest.digits x c hc)
  intro hnil
  have hlen := hdigest.length x
  rw [← String.length_toList, hnil] at hlen
  cases hlen

/-! ### Cutting -/

theorem toList_hyphen_append (a b : String) :
    (a ++ ("-" ++ b)).toList = a.toList ++ '-' :: b.toList := by
  rw [← String.append_assoc, toList_hyphen_join]

/-- The beginning that is kept of a name, without the separators at its end. -/
theorem spelled_trimRight (hs : Spelled cs) {k : ℕ} (hk : 0 < k) :
    Spelled (trimRight (cs.take k)) := by
  have hne : cs.take k ≠ [] := by
    rw [ne_eq, List.take_eq_nil_iff, not_or]
    exact ⟨by omega, hs.ne_nil⟩
  refine hs.trimmed (List.take_prefix k cs) hne (fun c hc => ?_) (by decide) (by decide)
  refine decide_eq_false ?_
  rintro (rfl | rfl | rfl) <;> exact absurd hc (by decide)

theorem length_trimRight_le (cs : List Char) : (trimRight cs).length ≤ cs.length :=
  (List.rdropWhile_prefix _ cs).length_le

/-- **A name that is shortened** is a name, within the bound, if there is room for a character and
the digest. -/
theorem spelled_safeName (hdigest : HexDigest digest) (hs : Spelled s.toList) (max : ℕ)
    (hmax : 10 ≤ max) :
    Spelled (safeName digest s max).toList ∧ (safeName digest s max).length ≤ max := by
  rw [safeName]
  split_ifs with hle
  · exact ⟨hs, hle⟩
  · have hsuffix : ("-" ++ digest s).length = 9 := by
      rw [String.length_append, hdigest.length]
      rfl
    dsimp only
    rw [hsuffix]
    constructor
    · rw [toList_hyphen_append, String.toList_ofList]
      exact (spelled_trimRight hs (by omega)).hyphen_append (hdigest.label s)
    · have htrim := length_trimRight_le (s.toList.take (max - 9))
      rw [List.length_take] at htrim
      rw [String.length_append, hsuffix, String.length_ofList]
      omega

/-! ### Hostnames -/

theorem nameOfHostname_append (a b : String) :
    nameOfHostname (a ++ b) = nameOfHostname a ++ nameOfHostname b := by
  rw [nameOfHostname, String.toList_append, List.flatMap_append, String.ofList_append]
  rfl

/-- Without a wildcard, only the dots are replaced. -/
theorem toList_nameOfHostname (hh : Spelled h.toList) :
    (nameOfHostname h).toList = h.toList.map fun c => if c = '.' then '-' else c := by
  rw [nameOfHostname, String.toList_ofList, List.map_eq_flatMap]
  refine List.flatMap_congr fun c hc => ?_
  have hstar : c ≠ '*' := by
    rintro rfl
    rcases hh.chars '*' hc with h | h | h <;> exact absurd h (by decide)
  rw [if_neg hstar]
  split <;> rfl

/-- Labels with hyphens for the dots between them are one label. -/
theorem label_of_dotted (hh : Dotted h) : Label (nameOfHostname h).toList := by
  have hspelled := dotted_iff_spelled.mp hh
  have hkept : ∀ c, isAlnum c = true → (if c = '.' then '-' else c) = c := by
    intro c hc
    refine if_neg ?_
    rintro rfl
    exact absurd hc (by decide)
  obtain ⟨a, ha, hfirst⟩ := hspelled.first
  obtain ⟨b, hb, hlast⟩ := hspelled.last
  rw [toList_nameOfHostname hspelled]
  refine ⟨fun c hc => ?_, ⟨a, ?_, hfirst⟩, ⟨b, ?_, hlast⟩⟩
  · obtain ⟨d, hd, rfl⟩ := List.mem_map.mp hc
    rcases hspelled.chars d hd with halnum | rfl | rfl
    · exact Or.inl ((hkept d halnum).symm ▸ halnum)
    · exact Or.inr rfl
    · exact Or.inr rfl
  · rw [List.head?_map, Option.mem_def.mp ha, Option.map_some, hkept a hfirst]
    rfl
  · rw [List.getLast?_map, Option.mem_def.mp hb, Option.map_some, hkept b hlast]
    rfl

/-- The readable part of a hostname is a label. -/
theorem label_nameOfHostname (hh : Hostname h) : Label (nameOfHostname h).toList := by
  rcases hh.form with hdotted | ⟨d, rfl, hdotted⟩
  · exact label_of_dotted hdotted
  · have hname : (nameOfHostname ("*." ++ d)).toList =
        "wildcard".toList ++ '-' :: (nameOfHostname d).toList := by
      rw [nameOfHostname_append, String.toList_append]
      rfl
    have hd := label_of_dotted hdotted
    have hwildcard : Label "wildcard".toList := by decide
    rw [hname, ← spelled_iff_label]
    · exact hwildcard.spelled.hyphen_append hd
    · rw [List.mem_append, List.mem_cons]
      rintro (hmem | hmem | hmem)
      · exact hwildcard.dot_notMem hmem
      · exact absurd hmem (by decide)
      · exact hd.dot_notMem hmem

/-! ### Children -/

/-- The name of a child is valid for an object. -/
theorem subdomain_routeChildName (hdigest : HexDigest digest) (hn : Subdomain n)
    (hh : Hostname h) : Subdomain (routeChildName digest n h) := by
  have hreadable : Spelled (n ++ "-" ++ nameOfHostname h).toList := by
    rw [toList_hyphen_join]
    exact (dotted_iff_spelled.mp hn.dotted).hyphen_append (label_nameOfHostname hh)
  obtain ⟨hspelled, hlen⟩ :=
    spelled_safeName hdigest hreadable (objectNameMaxLen - 9) (by decide)
  rw [routeChildName]
  refine Spelled.subdomain ?_ ?_
  · rw [toList_hyphen_join]
    exact hspelled.hyphen_append (hdigest.label _)
  · have hhyphen : "-".length = 1 := rfl
    have hmax : objectNameMaxLen - 9 = 244 := rfl
    rw [String.length_append, String.length_append, hdigest.length, hhyphen]
    omega

/-- What the name of a route is shortened to is valid for a label. -/
theorem labelValue_safeName (hdigest : HexDigest digest) (hn : Subdomain n) :
    LabelValue (safeName digest n labelValueMaxLen) ∧
      ∃ c ∈ (safeName digest n labelValueMaxLen).toList.getLast?, isAlnum c = true := by
  obtain ⟨hspelled, hlen⟩ :=
    spelled_safeName hdigest (dotted_iff_spelled.mp hn.dotted) labelValueMaxLen (by decide)
  exact ⟨hspelled.labelValue hlen, hspelled.last⟩

/-! ### Pairs -/

theorem nul_notMem_of_subdomain (hn : Subdomain n) : '\x00' ∉ n.toList := by
  intro hmem
  rcases (dotted_iff_spelled.mp hn.dotted).chars _ hmem with h | h | h <;>
    exact absurd h (by decide)

/-- The text a child's digest is taken of tells the pair. -/
theorem pair_eq_of_nul_join_eq {n' h' : String} (hn : Subdomain n) (hn' : Subdomain n')
    (heq : n ++ "\x00" ++ h = n' ++ "\x00" ++ h') : n = n' ∧ h = h' :=
  (join_inj rfl (nul_notMem_of_subdomain hn) (nul_notMem_of_subdomain hn')).mp heq

/-- **Names of children.** For every name of a route and every hostname, the name of the child is a
valid name of an object, and children of different pairs have different names unless the digests of
two different texts coincide. What the name of the route is shortened to is a valid value of a label
that ends in a letter or a digit. -/
theorem routeChildName_valid_unique (digest : String → String) (hdigest : HexDigest digest) :
    (∀ n h, Subdomain n → Hostname h → Subdomain (routeChildName digest n h)) ∧
    (∀ n h n' h', Subdomain n → Hostname h → Subdomain n' → Hostname h' → (n, h) ≠ (n', h') →
      routeChildName digest n h = routeChildName digest n' h' →
        n ++ "\x00" ++ h ≠ n' ++ "\x00" ++ h' ∧
          digest (n ++ "\x00" ++ h) = digest (n' ++ "\x00" ++ h')) ∧
    (∀ n, Subdomain n → LabelValue (safeName digest n labelValueMaxLen) ∧
      ∃ c ∈ (safeName digest n labelValueMaxLen).toList.getLast?, isAlnum c = true) := by
  refine ⟨fun n h => subdomain_routeChildName hdigest, ?_, fun n => labelValue_safeName hdigest⟩
  intro n h n' h' hn _ hn' _ hne heq
  refine ⟨fun hjoin => ?_, digest_eq_of_routeChildName_eq hdigest.length heq⟩
  obtain ⟨rfl, rfl⟩ := pair_eq_of_nul_join_eq hn hn' hjoin
  exact hne rfl

theorem hexDigest_calm : HexDigest calm.digest where
  length _ := show "0a1b2c3d".length = 8 by decide
  digits _ := List.all_eq_true.mp (show "0a1b2c3d".toList.all isHexDigit = true by decide)

/-- With one digest for everything, these two pairs have one name. -/
theorem routeChildName_valid_unique_colliding :
    Subdomain (routeChildName calm.digest "shop" "*.example.com") ∧
      routeChildName calm.digest "shop" "a.b.com" = routeChildName calm.digest "shop-a" "b.com" ∧
      "shop" ++ "\x00" ++ "a.b.com" ≠ "shop-a" ++ "\x00" ++ "b.com" ∧
      LabelValue (safeName calm.digest "shop" labelValueMaxLen) := by
  obtain ⟨hvalid, hunique, hlabel⟩ := routeChildName_valid_unique calm.digest hexDigest_calm
  have hcollide : routeChildName calm.digest "shop" "a.b.com" =
      routeChildName calm.digest "shop-a" "b.com" := by decide +kernel
  have hshop : Subdomain "shop" := by decide
  have hwildcard : Hostname "*.example.com" :=
    ⟨Or.inr ⟨"example.com", rfl, by decide⟩, by decide⟩
  refine ⟨hvalid _ _ hshop hwildcard, hcollide, ?_, (hlabel "shop" hshop).1⟩
  exact (hunique "shop" "a.b.com" "shop-a" "b.com" hshop ⟨Or.inl (by decide), by decide⟩
    (by decide) ⟨Or.inl (by decide), by decide⟩ (by decide) hcollide).1

end GatewayAPI

end NetbirdOperator
