import NetbirdOperator.ControlLoop.Run
import NetbirdOperator.ListCache

/-!
# Any history of lookups

What an answer of the list cache means after any sequence of lookups. Callers delete on a miss and
adopt on a hit, so both have to be about what NetBird has: a miss is always the answer of a fetch of
that very call, and a hit is less than `listCacheTTL` old.

The answers are judged by the fetches that were made, so the lookup is run here with a log of them.
`Traced.lookup` is `ListCache.lookup` step by step (`Traced.lookup_untraced`), except that each
fetch is written down with its time and its outcome. The log decides what is in the cache: the items
of the last fetch that succeeded, with the lifetime that fetch gave them (`Coherent`). A lookup
keeps this whatever its fetches answer, so it holds after every history.

## Main results

* `ListCache.Traced.lookup_untraced` — the log changes nothing
* `ListCache.Traced.lookup_course` — the ways a traced lookup can go
* `ListCache.lookups_sound` — every answer of every history is sound
-/

namespace NetbirdOperator

open ControlLoop

namespace ListCache

variable {T ε : Type*}

/-! ### The log -/

/-- A fetch that was made. -/
structure Fetch (T ε : Type*) where
  now : ℕ
  outcome : Except ε (List T)

/-- A call of `lookup`, with what its fetches answer should it make them. -/
structure Lookup (T ε : Type*) where
  now : ℕ
  fetch : Except ε (List T)
  refetch : Except ε (List T)
  isMatch : T → Bool

/-- The cache, with the log of its fetches. -/
structure Traced (T ε : Type*) where
  cache : ListCache T
  log : List (Fetch T ε)

namespace Traced

/-- Before the first fetch. -/
def start : Traced T ε := ⟨new, []⟩

def fetchLocked (s : Traced T ε) (now : ℕ) (fetch : Except ε (List T)) :
    Except ε (List T) × Traced T ε :=
  let r := s.cache.fetchLocked now fetch
  (r.1, ⟨r.2, s.log ++ [⟨now, fetch⟩]⟩)

def list (s : Traced T ε) (now : ℕ) (fetch : Except ε (List T)) :
    Except ε (List T) × Traced T ε :=
  if s.cache.fresh now then (.ok s.cache.items, s) else s.fetchLocked now fetch

def refresh (s : Traced T ε) (now : ℕ) (fetch : Except ε (List T)) :
    Except ε (List T) × Traced T ε :=
  s.fetchLocked now fetch

def lookup (s : Traced T ε) (l : Lookup T ε) : Except ε (Option T) × Traced T ε :=
  match s.list l.now l.fetch with
  | (.error e, s) => (.error e, s)
  | (.ok items, s) =>
    match items.find? l.isMatch with
    | some t => (.ok (some t), s)
    | none =>
      match s.refresh l.now l.refetch with
      | (.error e, s) => (.error e, s)
      | (.ok items, s) => (.ok (items.find? l.isMatch), s)

/-- One lookup after another. -/
def step (s : Traced T ε) (l : Lookup T ε) : Traced T ε := (s.lookup l).2

/-- **The log changes nothing**: a traced lookup answers as `lookup` does, and leaves its cache. -/
theorem lookup_untraced (s : Traced T ε) (l : Lookup T ε) :
    (s.lookup l).1 = (s.cache.lookup l.now l.fetch l.refetch l.isMatch).1 ∧
      (s.lookup l).2.cache = (s.cache.lookup l.now l.fetch l.refetch l.isMatch).2 := by
  rw [lookup, ListCache.lookup, list, ListCache.list]
  by_cases hfresh : s.cache.fresh l.now = true
  · rw [if_pos hfresh, if_pos hfresh]
    dsimp only
    cases s.cache.items.find? l.isMatch with
    | some t => exact ⟨rfl, rfl⟩
    | none => cases l.refetch <;> exact ⟨rfl, rfl⟩
  · rw [if_neg hfresh, if_neg hfresh]
    cases l.fetch with
    | error e => exact ⟨rfl, rfl⟩
    | ok items =>
      dsimp only [fetchLocked, ListCache.fetchLocked]
      cases items.find? l.isMatch with
      | some t => exact ⟨rfl, rfl⟩
      | none => cases l.refetch <;> exact ⟨rfl, rfl⟩

end Traced

/-! ### What the log decides -/

/-- The time and the items of a fetch that succeeded. -/
def Fetch.success (f : Fetch T ε) : Option (ℕ × List T) :=
  match f.outcome with
  | .ok items => some (f.now, items)
  | .error _ => none

/-- The most recent successful fetch of a log. -/
def lastSuccess (log : List (Fetch T ε)) : Option (ℕ × List T) :=
  (log.filterMap Fetch.success).getLast?

theorem lastSuccess_append (log made : List (Fetch T ε)) :
    lastSuccess (log ++ made) = (lastSuccess made).or (lastSuccess log) := by
  rw [lastSuccess, List.filterMap_append, List.getLast?_append]
  rfl

theorem lastSuccess_concat_ok (log : List (Fetch T ε)) (now : ℕ) (items : List T) :
    lastSuccess (log ++ [⟨now, .ok items⟩]) = some (now, items) := by
  rw [lastSuccess_append]
  rfl

/-- The last success is one of the fetches. -/
theorem mem_of_lastSuccess {log : List (Fetch T ε)} {now : ℕ} {items : List T}
    (h : lastSuccess log = some (now, items)) : ⟨now, .ok items⟩ ∈ log := by
  obtain ⟨⟨time, outcome⟩, hf, hsuccess⟩ := List.mem_filterMap.mp (List.mem_of_getLast? h)
  cases outcome with
  | error e => exact absurd hsuccess (by simp [Fetch.success])
  | ok fetched =>
    obtain ⟨rfl, rfl⟩ := Prod.mk.inj (Option.some.inj hsuccess)
    exact hf

/-- What fetches leave in a cache: the items of the last one that succeeded, if one did. -/
def afterFetches (c : ListCache T) (made : List (Fetch T ε)) : ListCache T :=
  ((lastSuccess made).map fun last => fetched last.1 last.2).getD c

theorem afterFetches_append (c : ListCache T) (log made : List (Fetch T ε)) :
    afterFetches c (log ++ made) = afterFetches (afterFetches c log) made := by
  rw [afterFetches, lastSuccess_append, afterFetches, afterFetches]
  cases lastSuccess made <;> rfl

/-- The cache and the log after some fetches. -/
def Traced.after (s : Traced T ε) (made : List (Fetch T ε)) : Traced T ε :=
  ⟨afterFetches s.cache made, s.log ++ made⟩

theorem Traced.after_nil (s : Traced T ε) : s.after [] = s := by
  rw [after, List.append_nil]
  rfl

theorem Traced.fetchLocked_eq (s : Traced T ε) (now : ℕ) (fetch : Except ε (List T)) :
    s.fetchLocked now fetch = (fetch, s.after [⟨now, fetch⟩]) := by
  cases fetch <;> rfl

theorem Traced.after_after (s : Traced T ε) (made made' : List (Fetch T ε)) :
    (s.after made).after made' = s.after (made ++ made') := by
  rw [after, after, after, afterFetches_append, List.append_assoc]

/-! ### One lookup -/

/-- **The ways a traced lookup can go.** The cached list is fresh and has a match; the last fetch
answers, after at most one other; or the last fetch fails. -/
inductive Course (s : Traced T ε) (l : Lookup T ε) : Except ε (Option T) → Traced T ε → Prop
  | cached {t : T} (hfresh : s.cache.fresh l.now = true)
      (hfind : s.cache.items.find? l.isMatch = some t) : Course s l (.ok (some t)) s
  | answered (before : List (Fetch T ε)) (hlength : before.length ≤ 1)
      (hnow : ∀ f ∈ before, f.now = l.now) (items : List T) :
      Course s l (.ok (items.find? l.isMatch)) (s.after (before ++ [⟨l.now, .ok items⟩]))
  | failed (before : List (Fetch T ε)) (hlength : before.length ≤ 1)
      (hnow : ∀ f ∈ before, f.now = l.now) (e : ε) :
      Course s l (.error e) (s.after (before ++ [⟨l.now, .error e⟩]))

/-- The refetch ends a lookup, one way or the other. -/
theorem Course.of_refresh {s : Traced T ε} {l : Lookup T ε} {before : List (Fetch T ε)}
    (hlength : before.length ≤ 1) (hnow : ∀ f ∈ before, f.now = l.now)
    {s' : Traced T ε} (hs' : s' = s.after before) :
    Course s l
      (match s'.refresh l.now l.refetch with
      | (.error e, s) => (.error e, s)
      | (.ok items, s) => (.ok (items.find? l.isMatch), s) :
        Except ε (Option T) × Traced T ε).1
      (match s'.refresh l.now l.refetch with
      | (.error e, s) => (.error e, s)
      | (.ok items, s) => (.ok (items.find? l.isMatch), s) :
        Except ε (Option T) × Traced T ε).2 := by
  rw [hs', Traced.refresh, Traced.fetchLocked_eq, Traced.after_after]
  cases l.refetch with
  | error e => exact .failed before hlength hnow e
  | ok items => exact .answered before hlength hnow items

theorem Traced.lookup_course (s : Traced T ε) (l : Lookup T ε) :
    Course s l (s.lookup l).1 (s.lookup l).2 := by
  rw [lookup, list]
  by_cases hfresh : s.cache.fresh l.now = true
  · rw [if_pos hfresh]
    dsimp only
    cases hfind : s.cache.items.find? l.isMatch with
    | some t => exact .cached hfresh hfind
    | none => exact .of_refresh (by simp) (by simp) s.after_nil.symm
  · rw [if_neg hfresh, fetchLocked_eq]
    cases l.fetch with
    | error e => exact .failed [] (by simp) (by simp) e
    | ok items =>
      dsimp only
      cases hfind : items.find? l.isMatch with
      | some t =>
        dsimp only
        rw [← hfind]
        exact .answered [] (by simp) (by simp) items
      | none => exact .of_refresh (by simp) (by simp) rfl

/-- Whichever way a lookup goes, it leaves what its fetches leave, and they happen at its time. -/
theorem Course.made {s : Traced T ε} {l : Lookup T ε} {out : Except ε (Option T)}
    {s' : Traced T ε} (h : Course s l out s') :
    ∃ made, s' = s.after made ∧ ∀ f ∈ made, f.now = l.now := by
  cases h with
  | cached => exact ⟨[], s.after_nil.symm, by simp⟩
  | answered before _ hnow items =>
    exact ⟨_, rfl, List.forall_mem_append.mpr ⟨hnow, by simp⟩⟩
  | failed before _ hnow e =>
    exact ⟨_, rfl, List.forall_mem_append.mpr ⟨hnow, by simp⟩⟩

/-- **The cache is what the last successful fetch left**, or new if there was none. -/
def Coherent (s : Traced T ε) : Prop := s.cache = afterFetches new s.log

theorem Coherent.after {s : Traced T ε} (hs : Coherent s) (made : List (Fetch T ε)) :
    Coherent (s.after made) := by
  rw [Coherent, Traced.after, afterFetches_append, ← show s.cache = _ from hs]

/-- A cache that may be reused holds the items of the last success, which is not older than the
lifetime. -/
theorem Coherent.of_fresh {s : Traced T ε} {now : ℕ} (hs : Coherent s)
    (hlog : ∀ f ∈ s.log, f.now ≤ now) (hfresh : s.cache.fresh now = true) :
    ∃ time, lastSuccess s.log = some (time, s.cache.items) ∧
      time ≤ now ∧ now < time + listCacheTTL := by
  rw [Coherent, afterFetches] at hs
  cases hlast : lastSuccess s.log with
  | none =>
    rw [hlast] at hs
    rw [hs] at hfresh
    cases hfresh
  | some last =>
    obtain ⟨time, items⟩ := last
    rw [hlast] at hs
    have hitems : s.cache.items = items := by rw [hs]; rfl
    have hexpires : now < time + listCacheTTL := by simpa [hs, fresh, fetched] using hfresh
    exact ⟨time, by rw [hitems], hlog _ (mem_of_lastSuccess hlast), hexpires⟩

/-- **What an answer means**, given the fetches `made` for it. -/
structure Sound (s : Traced T ε) (l : Lookup T ε) (made : List (Fetch T ε))
    (out : Except ε (Option T)) (s' : Traced T ε) : Prop where
  /-- the log grows by the fetches of this call -/
  log : s'.log = s.log ++ made
  /-- at most two fetches happen -/
  atMostTwo : made.length ≤ 2
  /-- and they happen now -/
  now : ∀ f ∈ made, f.now = l.now
  /-- fetches that fail leave the cache as it was -/
  cache : s'.cache = afterFetches s.cache made
  /-- a hit is the first match of the last success, which is of this call or recent -/
  found : ∀ t, out = .ok (some t) →
    ∃ time items, lastSuccess s'.log = some (time, items) ∧ items.find? l.isMatch = some t ∧
      (⟨time, .ok items⟩ ∈ made ∨ time ≤ l.now ∧ l.now < time + listCacheTTL)
  /-- a miss is the answer of a fetch of this call -/
  missed : out = .ok none → ∃ items, ⟨l.now, .ok items⟩ ∈ made ∧ ∀ t ∈ items, l.isMatch t = false
  /-- an error is the error of a fetch of this call -/
  failed : ∀ e, out = .error e → ⟨l.now, .error e⟩ ∈ made

/-- One lookup in a coherent cache is sound. -/
theorem Course.sound {s : Traced T ε} {l : Lookup T ε} {out : Except ε (Option T)}
    {s' : Traced T ε} (h : Course s l out s') (hs : Coherent s)
    (hlog : ∀ f ∈ s.log, f.now ≤ l.now) : ∃ made, Sound s l made out s' := by
  cases h with
  | @cached t hfresh hfind =>
    obtain ⟨time, hlast, hold, hrecent⟩ := hs.of_fresh hlog hfresh
    refine ⟨[], by simp, by simp, by simp, rfl, fun t' ht' => ?_, nofun, nofun⟩
    obtain rfl := Option.some.inj (Except.ok.inj ht')
    exact ⟨time, _, hlast, hfind, Or.inr ⟨hold, hrecent⟩⟩
  | answered before hlength hnow items =>
    refine ⟨before ++ [⟨l.now, .ok items⟩], rfl, by simpa using hlength,
      List.forall_mem_append.mpr ⟨hnow, by simp⟩, rfl, fun t ht => ?_, fun hnone => ?_, nofun⟩
    · have hsuccess : lastSuccess (s.log ++ (before ++ [⟨l.now, .ok items⟩])) =
          some (l.now, items) := by
        rw [← List.append_assoc, lastSuccess_concat_ok]
      exact ⟨l.now, items, hsuccess, Except.ok.inj ht, Or.inl (by simp)⟩
    · have hmiss := List.find?_eq_none.mp (Except.ok.inj hnone)
      exact ⟨items, by simp, fun t ht => by simpa using hmiss t ht⟩
  | failed before hlength hnow e =>
    refine ⟨before ++ [⟨l.now, .error e⟩], rfl, by simpa using hlength,
      List.forall_mem_append.mpr ⟨hnow, by simp⟩, rfl, nofun, nofun, fun e' he' => ?_⟩
    obtain rfl := Except.error.inj he'
    simp

/-! ### Any history -/

/-- What every history keeps: the cache is coherent, and a fetch has the time of the call that made
it. -/
structure Traced.Kept (s : Traced T ε) (calls : List (Lookup T ε)) : Prop where
  coherent : Coherent s
  times : ∀ f ∈ s.log, ∃ l ∈ calls, f.now = l.now

theorem Traced.kept_run (calls : List (Lookup T ε)) : (run step start calls).Kept calls := by
  refine run_induction (I := fun calls => (run step start calls).Kept calls)
    (along_of_forall (C := fun _ => True) fun _ _ => trivial) ⟨rfl, by simp [start]⟩ ?_
  intro pre l hkept _
  rw [run_concat]
  obtain ⟨made, hmade, hnow⟩ := ((run step start pre).lookup_course l).made
  rw [step, hmade]
  refine ⟨hkept.coherent.after made, fun f hf => ?_⟩
  rcases List.mem_append.mp hf with hf | hf
  · obtain ⟨m, hm, hfm⟩ := hkept.times f hf
    exact ⟨m, List.mem_append_left _ hm, hfm⟩
  · exact ⟨l, by simp, hnow f hf⟩

/-- **The answers of the cache.** In any sequence of lookups at times that do not decrease, whatever
their fetches answer, every answer is sound. A hit is the first match in the most recent list that
was fetched, in this call or less than the lifetime before it; a miss comes from a fetch of this
call; an error is that of a fetch of this call, and a fetch that fails changes nothing; and a call
makes at most two fetches. -/
theorem lookups_sound (calls : List (Lookup T ε))
    (htimes : calls.Pairwise fun l m => l.now ≤ m.now) :
    Along calls fun pre l =>
      let s := run Traced.step Traced.start pre
      ∃ made, Sound s l made (s.lookup l).1 (s.lookup l).2 := by
  intro pre l post hcalls
  have hkept := Traced.kept_run pre
  refine (Traced.lookup_course _ l).sound hkept.coherent fun f hf => ?_
  obtain ⟨m, hm, hnow⟩ := hkept.times f hf
  rw [hcalls] at htimes
  rw [hnow]
  exact (List.pairwise_append.mp htimes).2.2 m hm l List.mem_cons_self

/-- Three lookups: the first finds its item on the refetch, the second in the cache while NetBird
does not answer, and the third is after the lifetime. -/
def outage : List (Lookup ℕ String) :=
  [⟨0, .ok [1], .ok [1, 2], fun t => t == 2⟩,
    ⟨listCacheTTL - 1, .error "down", .error "down", fun t => t == 2⟩,
    ⟨listCacheTTL, .error "down", .error "down", fun t => t == 2⟩]

theorem lookups_sound_outage :
    (outage.Pairwise fun l m => l.now ≤ m.now) ∧
      Along outage fun pre l =>
        let s := run Traced.step Traced.start pre
        ∃ made, Sound s l made (s.lookup l).1 (s.lookup l).2 :=
  ⟨by decide, lookups_sound outage (by decide)⟩

end ListCache

end NetbirdOperator
