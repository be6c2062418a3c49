import Mathlib.Tactic.Common

/-!
# The list cache

`internal/netbirdutil/cache.go`. NetBird has no lookup by address or name, so the operator lists
everything and scans, and a short-lived cache keeps a burst of passes from listing every time. A
hit may be answered from the cached list. A miss never is: it refetches first.

Time is in nanoseconds. A fetch is given by its outcome; `lookup` has two places that may fetch,
and takes one outcome for each.

## Main results

* `ListCache.lookup_answer` — the ways a lookup can go
* `ListCache.lookup_found` — a hit is in a list that was fetched, now or within the lifetime
* `ListCache.lookup_missed` — a miss was confirmed by a fetch of this very call
-/

namespace NetbirdOperator

/-- How long a fetched list is reused. -/
def listCacheTTL : ℕ := 30 * 1000000000

/-- The last list fetched, and until when it may be reused. -/
structure ListCache (T : Type*) where
  items : List T
  ok : Bool
  expires : ℕ
  deriving DecidableEq, Repr

namespace ListCache

variable {T ε : Type*} {c : ListCache T} {now : ℕ} {fetch refetch : Except ε (List T)}
  {p : T → Bool}

/-- The cache before its first fetch. -/
def new : ListCache T := ⟨[], false, 0⟩

/-- The cached list may be reused at `now`. -/
def fresh (c : ListCache T) (now : ℕ) : Bool := c.ok && now < c.expires

/-- Take the outcome of a fetch. A failed fetch leaves the cache as it was. -/
def fetchLocked (c : ListCache T) (now : ℕ) (fetch : Except ε (List T)) :
    Except ε (List T) × ListCache T :=
  match fetch with
  | .error e => (.error e, c)
  | .ok items => (.ok items, ⟨items, true, now + listCacheTTL⟩)

/-- The cached list while it is fresh, a fetched one otherwise. -/
def list (c : ListCache T) (now : ℕ) (fetch : Except ε (List T)) :
    Except ε (List T) × ListCache T :=
  if c.fresh now then (.ok c.items, c) else c.fetchLocked now fetch

/-- Fetch whatever the cache holds. -/
def refresh (c : ListCache T) (now : ℕ) (fetch : Except ε (List T)) :
    Except ε (List T) × ListCache T :=
  c.fetchLocked now fetch

/-- The first item that satisfies `p`, refetching once before reporting that there is none. -/
def lookup (c : ListCache T) (now : ℕ) (fetch refetch : Except ε (List T)) (p : T → Bool) :
    Except ε (Option T) × ListCache T :=
  match c.list now fetch with
  | (.error e, c) => (.error e, c)
  | (.ok items, c) =>
    match items.find? p with
    | some t => (.ok (some t), c)
    | none =>
      match c.refresh now refetch with
      | (.error e, c) => (.error e, c)
      | (.ok items, c) => (.ok (items.find? p), c)

/-- The list that was just fetched, as the cache holds it. -/
def fetched (now : ℕ) (items : List T) : ListCache T := ⟨items, true, now + listCacheTTL⟩

/-- What a lookup comes to. The cached list has a match and is fresh; the list fetched in its place
has one; neither has, and the refetch decides; or a fetch failed. -/
inductive Answer (c : ListCache T) (now : ℕ) (fetch refetch : Except ε (List T)) (p : T → Bool) :
    Except ε (Option T) → ListCache T → Prop
  | cached {t : T} (hfresh : c.fresh now = true) (hfind : c.items.find? p = some t) :
      Answer c now fetch refetch p (.ok (some t)) c
  | listed {items : List T} {t : T} (hexpired : c.fresh now = false) (hfetch : fetch = .ok items)
      (hfind : items.find? p = some t) :
      Answer c now fetch refetch p (.ok (some t)) (fetched now items)
  | relisted {items : List T} (hmiss : c.fresh now = true → c.items.find? p = none)
      (hrefetch : refetch = .ok items) :
      Answer c now fetch refetch p (.ok (items.find? p)) (fetched now items)
  | failed (e : ε) {c' : ListCache T}
      (hc : c' = c ∨ ∃ items, fetch = .ok items ∧ c' = fetched now items) :
      Answer c now fetch refetch p (.error e) c'

theorem lookup_answer (c : ListCache T) (now : ℕ) (fetch refetch : Except ε (List T))
    (p : T → Bool) :
    Answer c now fetch refetch p (c.lookup now fetch refetch p).1
      (c.lookup now fetch refetch p).2 := by
  rw [lookup, list]
  cases hfresh : c.fresh now with
  | true =>
    rw [if_pos rfl]
    dsimp only
    cases hfind : c.items.find? p with
    | some t => exact .cached hfresh hfind
    | none =>
      cases refetch with
      | error e => exact .failed e (Or.inl rfl)
      | ok items => exact .relisted (fun _ => hfind) rfl
  | false =>
    rw [if_neg (by simp)]
    cases fetch with
    | error e => exact .failed e (Or.inl rfl)
    | ok items =>
      dsimp only [fetchLocked]
      cases hfind : items.find? p with
      | some t => exact .listed hfresh rfl hfind
      | none =>
        cases refetch with
        | error e => exact .failed e (Or.inr ⟨items, rfl, rfl⟩)
        | ok items' => exact .relisted (fun h => absurd (hfresh.symm.trans h) (by decide)) rfl

theorem answer_of_lookup {out : Except ε (Option T)} {c' : ListCache T}
    (h : c.lookup now fetch refetch p = (out, c')) : Answer c now fetch refetch p out c' := by
  have hanswer := lookup_answer c now fetch refetch p
  rwa [h] at hanswer

/-- A miss was confirmed by the refetch: the list it returned has no match, and is what the cache
now holds. -/
theorem lookup_missed {c' : ListCache T} (h : c.lookup now fetch refetch p = (.ok none, c')) :
    ∃ items, refetch = .ok items ∧ c' = ⟨items, true, now + listCacheTTL⟩ ∧
      ∀ t ∈ items, p t = false := by
  generalize hout : (Except.ok none : Except ε (Option T)) = out at h
  cases answer_of_lookup h with
  | cached => exact absurd hout (by simp)
  | listed => exact absurd hout (by simp)
  | failed => exact absurd hout (by simp)
  | @relisted items _ hrefetch =>
    have hnone := List.find?_eq_none.mp (Except.ok.inj hout).symm
    exact ⟨items, hrefetch, rfl, fun t ht => by simpa using hnone t ht⟩

/-- A hit satisfies the predicate and is in a fetched list: the cached one while that is fresh,
else one fetched by this call. -/
theorem lookup_found {c' : ListCache T} {t : T}
    (h : c.lookup now fetch refetch p = (.ok (some t), c')) :
    p t = true ∧ ((c.fresh now = true ∧ t ∈ c.items) ∨ (∃ items, fetch = .ok items ∧ t ∈ items) ∨
      ∃ items, refetch = .ok items ∧ t ∈ items) := by
  generalize hout : (Except.ok (some t) : Except ε (Option T)) = out at h
  have hhit : ∀ {items : List T}, items.find? p = some t → p t = true ∧ t ∈ items :=
    fun hfind => ⟨List.find?_some hfind, List.mem_of_find?_eq_some hfind⟩
  cases answer_of_lookup h with
  | cached hfresh hfind =>
    obtain rfl := Option.some.inj (Except.ok.inj hout)
    exact ⟨(hhit hfind).1, Or.inl ⟨hfresh, (hhit hfind).2⟩⟩
  | listed _ hfetch hfind =>
    obtain rfl := Option.some.inj (Except.ok.inj hout)
    exact ⟨(hhit hfind).1, Or.inr (Or.inl ⟨_, hfetch, (hhit hfind).2⟩)⟩
  | relisted _ hrefetch =>
    have hfind := (Except.ok.inj hout).symm
    exact ⟨(hhit hfind).1, Or.inr (Or.inr ⟨_, hrefetch, (hhit hfind).2⟩)⟩
  | failed => exact absurd hout (by simp)

/-- A lookup whose fetches go through has an answer. -/
theorem lookup_ok (c : ListCache T) (now : ℕ) {items items' : List T} (hfetch : fetch = .ok items)
    (hrefetch : refetch = .ok items') (p : T → Bool) :
    ∃ found c', c.lookup now fetch refetch p = (.ok found, c') := by
  rw [hfetch, hrefetch, lookup, list]
  split
  · next h => split at h <;> simp [fetchLocked] at h
  · split
    · exact ⟨_, _, rfl⟩
    · exact ⟨_, _, rfl⟩

/-- A cache that may not be reused answers from the lists fetched now: only what they have that
satisfies the predicate matters. -/
theorem lookup_of_not_fresh (hc : c.fresh now = false) :
    (c.lookup now fetch refetch p).1 =
      (fetch.map fun items => items.find? p) >>= fun found =>
        match found with
        | some t => .ok (some t)
        | none => refetch.map fun items => items.find? p := by
  rw [lookup, list, if_neg (by simp [hc])]
  cases fetch with
  | error e => rfl
  | ok items =>
    show (match items.find? p with
      | some t => _
      | none => _ : Except ε (Option T) × ListCache T).1 = match items.find? p with
      | some t => _
      | none => _
    cases items.find? p with
    | some t => rfl
    | none => cases refetch <;> rfl

/-- An expired cache answers with what is there now. -/
theorem lookup_expired (hc : c.fresh now = false) {items : List T} (hfetch : fetch = .ok items)
    (hrefetch : refetch = .ok items) (p : T → Bool) :
    ∃ c', c.lookup now fetch refetch p = (.ok (items.find? p), c') := by
  refine ⟨(c.lookup now fetch refetch p).2, Prod.ext ?_ rfl⟩
  rw [lookup_of_not_fresh hc, hfetch, hrefetch]
  show (match items.find? p with
    | some t => .ok (some t)
    | none => .ok (items.find? p) : Except ε (Option T)) = .ok (items.find? p)
  cases items.find? p <;> rfl

end ListCache

end NetbirdOperator
