import NetbirdOperator.DNSZone.Adoption

/-!
# Zones renamed under a cached list

A zone found in the cached list is taken over without a look at the zone itself. So a zone that
another object's pass has renamed a moment ago is still adopted under its old name
(`renamed_zone_taken_over`).

It takes a rename or a deletion while a fresh list shows the zone. Along a run without one a fresh
list says what the account says, and the zone an apply takes over is in the account under the name
the object declares (`adoptions_verified`). Whether an event renames or deletes a zone is told from
the state before it: a pass does so only to the zone its object has on record.

## Main results

* `DNSZone.Current.tick` — a fresh list stays true
* `adoptions_verified` — every adoption of a run without such events
-/

namespace NetbirdOperator

open ControlLoop

namespace DNSZone

open Pass

variable {env : Env} {z : CR} {a a' : Account} {req : Zone} {name : String} {id now : ℕ}

/-- The zone is in the account, under that name. -/
def LiveUnder (a : Account) (id : ℕ) (name : String) : Prop :=
  ∃ zone ∈ a.zones.get id, zone.name = name

instance (a : Account) (id : ℕ) (name : String) : Decidable (LiveUnder a id name) :=
  inferInstanceAs (Decidable (∃ zone ∈ a.zones.get id, zone.name = name))

/-! ### Events in time -/

/-- The world, and the time of the last event. -/
structure Clocked where
  world : World
  time : ℕ

structure Timed where
  time : ℕ
  event : Event

/-- A pass reads the clock. -/
def Event.clocked (now : ℕ) : Event → Event
  | .reconcile uid env => .reconcile uid { env with now := now }
  | e => e

/-- The effect of an event at its time. -/
def tick (s : Clocked) (e : Timed) : Clocked := ⟨step s.world (e.event.clocked e.time), e.time⟩

/-- The event renames the zone or deletes it. A pass does so to the zone its object has on record,
if the object declares another name, or is being deleted and no other live object owns the zone. -/
def Touches (w : World) (id : ℕ) : Event → Prop
  | .reconcile uid _ => ∃ zone ∈ w.account.zones.get id, ∃ o ∈ w.objects.get uid,
      o.status.recorded.zoneID = some id ∧
        ((o.deleting = false ∧ o.spec.name ≠ zone.name) ∨ (o.deleting = true ∧
          anotherLiveMatches uid w.objects.entries (ownsZone id zone.name) = false))
  | .user _ => False
  | .foreignCreate _ => False
  | .foreignUpdate i zone => i = id ∧ ¬ LiveUnder w.account id zone.name
  | .foreignDelete i => i = id

instance (w : World) (id : ℕ) : (e : Event) → Decidable (Touches w id e)
  | .reconcile uid _ => inferInstanceAs (Decidable (∃ zone ∈ w.account.zones.get id,
      ∃ o ∈ w.objects.get uid, o.status.recorded.zoneID = some id ∧
        ((o.deleting = false ∧ o.spec.name ≠ zone.name) ∨ (o.deleting = true ∧
          anotherLiveMatches uid w.objects.entries (ownsZone id zone.name) = false))))
  | .user _ => inferInstanceAs (Decidable False)
  | .foreignCreate _ => inferInstanceAs (Decidable False)
  | .foreignUpdate i zone =>
    inferInstanceAs (Decidable (i = id ∧ ¬ LiveUnder w.account id zone.name))
  | .foreignDelete i => inferInstanceAs (Decidable (i = id))

/-- The list may be reused at `now` and shows the zone. -/
def Shown (now : ℕ) (a : Account) (id : ℕ) : Prop :=
  a.cache.fresh now = true ∧ ∃ e ∈ a.cache.items, e.id = id

/-- The clock does not go back, and the event touches no zone that a fresh list shows. -/
def Spares (s : Clocked) (e : Timed) : Prop :=
  s.time ≤ e.time ∧ (s.world.account.cache.fresh e.time = true →
    ∀ shown ∈ s.world.account.cache.items, ¬ Touches s.world shown.id e.event)

instance (s : Clocked) (e : Timed) : Decidable (Spares s e) :=
  inferInstanceAs (Decidable (_ ∧ (_ → ∀ shown ∈ s.world.account.cache.items, _)))

theorem Spares.not_touches {s : Clocked} {e : Timed} (h : Spares s e)
    (hshown : Shown e.time s.world.account id) : ¬ Touches s.world id e.event := by
  obtain ⟨hfresh, shown, hmem, rfl⟩ := hshown
  exact h.2 hfresh shown hmem

/-! ### What a fresh list says -/

/-- A list that may be reused at `now` says what the account says. -/
def Current (now : ℕ) (a : Account) : Prop :=
  a.cache.fresh now = true → ∀ e ∈ a.cache.items, LiveUnder a e.id e.val.name

/-- A list that is fresh later was fresh before. -/
theorem Current.later {now' : ℕ} (h : Current now a) (hle : now ≤ now') : Current now' a := by
  intro hfresh
  refine h ?_
  simp only [ListCache.fresh, Bool.and_eq_true, decide_eq_true_eq] at hfresh ⊢
  exact ⟨hfresh.1, Nat.lt_of_le_of_lt hle hfresh.2⟩

/-- The list stays true as long as the zones it shows keep their names. -/
theorem Current.of_kept (h : Current now a) (hcache : a'.cache = a.cache)
    (hkept : ∀ id zone, Shown now a id → a.zones.get id = some zone → LiveUnder a' id zone.name) :
    Current now a' := by
  intro hfresh e he
  rw [hcache] at hfresh he
  obtain ⟨zone, hget, hname⟩ := h hfresh e he
  rw [← hname]
  exact hkept e.id zone ⟨hfresh, e, he, rfl⟩ hget

theorem current_refetched (env : Env) (a : Account) : Current now (refetched env a) :=
  fun _ e he => ⟨e.val, Store.get_of_mem he, rfl⟩

theorem Current.create (h : Current now a) (zone : Zone) (created : List ℕ) :
    Current now ⟨a.zones.create zone, a.cache, created⟩ := by
  refine h.of_kept rfl fun id zone' _ hget => ⟨zone', ?_, rfl⟩
  have hne : id ≠ a.zones.next := Nat.ne_of_lt (Store.has_of_get hget).lt_next
  exact (Store.get_create_of_ne hne).trans hget

/-- A zone that is shown is written under the name it has. -/
theorem Current.update (h : Current now a) {zone : Zone}
    (hname : Shown now a id → LiveUnder a id zone.name) :
    Current now { a with zones := a.zones.update id zone } := by
  refine h.of_kept rfl fun i old hshown hget => ?_
  by_cases hi : i = id
  · subst hi
    obtain ⟨old', hget', hold⟩ := hname hshown
    obtain rfl := Option.some.inj (hget.symm.trans hget')
    exact ⟨zone, Store.get_update_self hget zone, hold.symm⟩
  · exact ⟨old, (Store.get_update_of_ne hi).trans hget, rfl⟩

theorem Current.delete (h : Current now a) (hid : ¬ Shown now a id) :
    Current now { a with zones := a.zones.delete id } := by
  refine h.of_kept rfl fun i zone hshown hget => ⟨zone, ?_, rfl⟩
  have hi : i ≠ id := fun hi => hid (hi ▸ hshown)
  exact (Store.get_delete_of_ne hi).trans hget

/-! ### A pass -/

/-- What a lookup finds in a list that says what the account says is there, under the name. -/
theorem Found.liveUnder {e : Entry Zone} (h : Found env name a (.ok (some e)) a')
    (hcurrent : Current env.now a) : LiveUnder a e.id name := by
  generalize hout : (Except.ok (some e) : Except Err (Option (Entry Zone))) = out at h
  cases h with
  | cached hfresh hlisted =>
    obtain rfl := Option.some.inj (Except.ok.inj hout)
    have hname : e.val.name = name := by simpa [named] using List.find?_some hlisted
    rw [← hname]
    exact hcurrent hfresh e (List.mem_of_find?_eq_some hlisted)
  | fetched =>
    have hfirst : a.zones.first (named name) = some e := (Except.ok.inj hout).symm
    refine ⟨e.val, Store.get_of_mem (Store.mem_of_first hfirst), ?_⟩
    simpa [named] using Store.prop_of_first hfirst
  | failed => exact absurd hout (by simp)

theorem Found.current {out : Except Err (Option (Entry Zone))} (h : Found env name a out a')
    (hcurrent : Current env.now a) : a'.zones = a.zones ∧ Current env.now a' := by
  cases h with
  | cached => exact ⟨rfl, hcurrent⟩
  | fetched => exact ⟨rfl, current_refetched env a⟩
  | failed _ ha =>
    rcases ha with rfl | rfl
    · exact ⟨rfl, hcurrent⟩
    · exact ⟨rfl, current_refetched env a⟩

theorem createZone_current (req : Zone) : Keeps (Current now) (createZone env req) :=
  Triple.bind (call_triple fun _ _ h => h) fun _ _ h => h.create req _

theorem upsertZone_current {found : Option ℕ} :
    Triple (fun a => Current now a ∧
        ∀ id, found = some id → Shown now a id → LiveUnder a id req.name)
      (upsertZone env req found) (fun _ => Current now) fun _ => Current now := by
  cases found with
  | none => exact (createZone_current req).of_pre fun _ h => h.1
  | some id =>
    refine Triple.bind (Q := fun _ => Current now) ?_ fun updated => ?_
    · exact Triple.bind (call_triple fun _ _ h => h.1) fun _ a h => h.1.update (h.2 id rfl)
    · cases updated with
      | true => exact fun _ h => h
      | false => exact createZone_current req

/-- **Apply.** The list stays true, if the zone on record has the declared name whenever the list
shows it. -/
theorem applyDNSZone_current (env : Env) (hcurrent : Current env.now a)
    (hrec : ∀ id zone, z.status.recorded.zoneID = some id → a.zones.get id = some zone →
      Shown env.now a id → z.spec.name = zone.name) :
    Current env.now (applyDNSZone env z a).2 := by
  cases hreq : request env.groups z with
  | error e =>
    rw [applyDNSZone_of_error hreq]
    exact hcurrent
  | ok req =>
    have hname : req.name = z.spec.name := by simpa [named] using named_of_request hreq
    rw [applyDNSZone_eq hreq]
    refine Triple.final (P := fun a' => a' = a) (Triple.bind ((updatee_triple env z a).conseq
      (fun _ h => h) (fun found a' hfound => ?_) ?_) fun found =>
        Triple.bind upsertZone_current fun _ _ h => h) rfl
    · rw [hname]
      rcases hfound with ⟨i, rfl, hi, rfl⟩ | ⟨f, rfl, hf⟩
      · refine ⟨hcurrent, fun id hid hshown => ?_⟩
        obtain rfl := Option.some.inj hid
        obtain ⟨hfresh, e, he, rfl⟩ := hshown
        obtain ⟨zone, hget, -⟩ := hcurrent hfresh e he
        exact ⟨zone, hget, (hrec _ zone hi hget ⟨hfresh, e, he, rfl⟩).symm⟩
      · obtain ⟨hzones, hcurrent'⟩ := hf.current hcurrent
        refine ⟨hcurrent', fun id hid _ => ?_⟩
        obtain ⟨e, rfl, rfl⟩ := Option.map_eq_some_iff.mp hid
        rw [LiveUnder, hzones]
        exact hf.liveUnder hcurrent
    · rintro e a' (rfl | rfl)
      · exact hcurrent
      · exact current_refetched env a

/-- **Delete.** The list stays true, if it does not show the zone that goes. -/
theorem deleteDNSZone_current (uid : ℕ) (objects : Store CR) (h : Current now a)
    (hrec : ∀ id zone, z.status.recorded.zoneID = some id → a.zones.get id = some zone →
      anotherLiveMatches uid objects.entries (ownsZone id zone.name) = false → ¬ Shown now a id) :
    Current now (deleteDNSZone env uid objects z a).2 := by
  rcases deleteDNSZone_effect env uid objects z a with hsame | hwithout
  · rwa [hsame]
  · rw [hwithout]
    rcases withoutZone_cases uid objects z a with ⟨hsame, -⟩ | ⟨id, zone, hid, hget, hnone, hgone⟩
    · rwa [hsame]
    · rw [hgone]
      exact h.delete (hrec id zone hid hget (anotherLiveMatches_eq_false.mpr hnone))

/-! ### Runs -/

/-- **One event.** -/
theorem Current.tick {s : Clocked} {e : Timed} (h : Current s.time s.world.account)
    (hspares : Spares s e) : Current (tick s e).time (tick s e).world.account := by
  have hnow : Current e.time s.world.account := h.later hspares.1
  have hshown : ∀ {id}, Shown e.time s.world.account id → ¬ Touches s.world id e.event :=
    hspares.not_touches
  obtain ⟨time, event⟩ := e
  cases event with
  | reconcile uid env =>
    have heffect : Mirror.Effect (mirror { env with now := time }) s.world uid
        (reconcile { env with now := time } uid s.world).2 := Mirror.reconcile_effect
    show Current time (reconcile { env with now := time } uid s.world).2.account
    generalize (reconcile { env with now := time } uid s.world).2 = w' at heffect ⊢
    cases heffect with
    | idle => exact hnow
    | applied hget hlive =>
      refine applyDNSZone_current { env with now := time } hnow
        fun id zone hid hzone hs => not_not.mp fun hne => ?_
      exact hshown hs ⟨zone, hzone, _, hget, hid, Or.inl ⟨hlive, hne⟩⟩
    | kept hget hdel | released hget hdel =>
      refine deleteDNSZone_current uid s.world.objects hnow fun id zone hid hzone hnone hs => ?_
      exact hshown hs ⟨zone, hzone, _, hget, hid, Or.inr ⟨hdel, hnone⟩⟩
  | user ev => exact hnow
  | foreignCreate zone => exact hnow.create zone _
  | foreignUpdate id zone =>
    exact hnow.update fun hs => not_not.mp fun hne => hshown hs ⟨rfl, hne⟩
  | foreignDelete id => exact hnow.delete fun hs => hshown hs rfl

/-- A run starts with no list. -/
def start (zones : Store Zone) : Clocked := ⟨initial zones, 0⟩

theorem current_of_run {zones : Store Zone} {es : List Timed}
    (h : Along es fun pre e => Spares (run tick (start zones) pre) e) :
    Current (run tick (start zones) es).time (run tick (start zones) es).world.account :=
  run_invariant (C := Spares) (I := fun s => Current s.time s.world.account) h
    (fun hfresh => absurd hfresh (by simp [start, initial, ListCache.new, ListCache.fresh]))
    fun _ _ hs he => hs.tick he

/-- **Adoption.** After a run in which no zone is renamed or deleted while a fresh list shows it, a
zone that an apply sends its update to, and does not have on record, is in the account under the
name the object declares. -/
theorem adoptions_verified (zones : Store Zone) (es : List Timed)
    (hspared : Along es fun pre e => Spares (run tick (start zones) pre) e)
    (env : Env) (hnow : (run tick (start zones) es).time ≤ env.now) (z : CR) (id : ℕ)
    (hsent : (updatee env z (run tick (start zones) es).world.account).1 = .ok (some id))
    (hnew : z.status.recorded.zoneID ≠ some id) :
    LiveUnder (run tick (start zones) es).world.account id z.spec.name := by
  have hcurrent : Current env.now (run tick (start zones) es).world.account :=
    (current_of_run hspared).later hnow
  generalize (run tick (start zones) es).world.account = a at hsent hcurrent ⊢
  rcases (updatee_triple env z a).ok rfl (Prod.ext hsent rfl) with
    ⟨i, hi, hrec, -⟩ | ⟨f, hf, hfound⟩
  · exact absurd (hi ▸ hrec) hnew
  · obtain ⟨e, rfl, rfl⟩ := Option.map_eq_some_iff.mp hf.symm
    exact hfound.liveUnder hcurrent

/-- A zone is created, listed while another object looks for its own, and renamed once the list has
expired; then somebody else takes the old name, and an object declares it. -/
def laterRun : List Timed :=
  [⟨0, .user (.create "dns" "a" { name := "a", domain := "a.test" })⟩,
    ⟨0, .reconcile 0 (calm 0)⟩,
    ⟨1, .user (.create "dns" "b" { name := "b", domain := "b.test" })⟩,
    ⟨1, .reconcile 1 (calm 0)⟩,
    ⟨2, .user (.edit 0 { name := "c", domain := "a.test" })⟩,
    ⟨1 + listCacheTTL, .reconcile 0 (calm 0)⟩,
    ⟨1 + listCacheTTL, .foreignCreate ⟨"a", "d.test", [], false, true⟩⟩]

/-- The lookup finds the new zone. -/
theorem adoptions_verified_later :
    LiveUnder (run tick (start .empty) laterRun).world.account 2 "a" :=
  adoptions_verified .empty laterRun (by decide +kernel) { calm 0 with now := 1 + listCacheTTL }
    (by decide +kernel) ⟨"dns", "d", 1, false, false, { name := "a", domain := "d.test" }, fresh⟩ 2
    (by decide +kernel) (by decide)

/-- A zone is created, listed while another object looks for its own, and renamed; then an object
declares the old name. -/
def renamedRun : List Event :=
  [.user (.create "dns" "a" { name := "a", domain := "a.test" }),
    .reconcile 0 (calm 0),
    .user (.create "dns" "b" { name := "b", domain := "b.test" }),
    .reconcile 1 (calm 1),
    .user (.edit 0 { name := "c", domain := "a.test" }),
    .reconcile 0 (calm 2),
    .user (.create "dns" "d" { name := "a", domain := "d.test" })]

/-- **A zone is taken over.** The pass over the new object, in which no call fails, sends its update
to the zone that has been renamed for the first object and is on that object's record. -/
theorem renamed_zone_taken_over :
    let w := run step (initial .empty) renamedRun
    (calm 3).FaultFree ∧ LiveUnder w.account 0 "c" ∧
      (∃ o ∈ w.objects.get 0, o.spec.name = "c" ∧ o.status.recorded.zoneID = some 0) ∧
      (∃ d ∈ w.objects.get 2, d.live = true ∧ d.spec.name = "a" ∧
        d.status.recorded.zoneID = none ∧
        (updatee (calm 3) d w.account).1.toOption = some (some 0)) ∧
      ¬ LiveUnder w.account 0 "a" ∧ LiveUnder (step w (.reconcile 2 (calm 3))).account 0 "a" := by
  refine ⟨fun _ => rfl, ?_⟩
  decide

end DNSZone

end NetbirdOperator
