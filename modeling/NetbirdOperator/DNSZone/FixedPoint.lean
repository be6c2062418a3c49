import NetbirdOperator.DNSZone.Survivors

/-!
# Do mirrored zones come to rest?

Live objects whose specifications stay as they are, applied again and again without failures, in any
order. Once every object has been applied, each of them has a zone on record and keeps it. But an
apply writes its object's request over the zone without looking who else has it on record, so two
objects with different requests overwrite each other's at every turn (`zones_flap`).

That is the only way not to come to rest. What carries the argument is that a zone on record always
has the request of one of the objects that have it on record, the last that was applied.

## Main results

* `DNSZone.Applied.run` — after a run of passes, zones have the request of an object that has them
* `DNSZone.zones_flap` — two objects that overwrite each other's zone
* `DNSZone.zones_rest_iff` — zones are at rest exactly when the objects are consistent
-/

namespace NetbirdOperator

open ControlLoop

namespace DNSZone

variable {G : Groups} {env : Env} {w w' : World} {ev : Event} {uid id : ℕ} {z z' : CR}
  {D : ℕ → Prop}

/-- The event is a pass with no failing call, with groups resolved by `G`. -/
def Steady (G : Groups) : Event → Prop
  | .reconcile _ env => env.FaultFree ∧ env.groups = G
  | _ => False

theorem Steady.eq_reconcile (h : Steady G ev) : ∃ uid env, ev = .reconcile uid env := by
  cases ev with
  | reconcile uid env => exact ⟨uid, env, rfl⟩
  | user ue => exact h.elim
  | foreignCreate zone => exact h.elim
  | foreignUpdate id zone => exact h.elim
  | foreignDelete id => exact h.elim

/-- Two requests, where there are two, are the same. -/
def Compatible : Except GroupErr Zone → Except GroupErr Zone → Prop
  | .ok r, .ok r' => r = r'
  | _, _ => True

instance : (r r' : Except GroupErr Zone) → Decidable (Compatible r r')
  | .ok r, .ok r' => inferInstanceAs (Decidable (r = r'))
  | .error _, _ => .isTrue trivial
  | .ok _, .error _ => .isTrue trivial

/-- **The condition.** Objects that have the same zone on record ask for the same zone. -/
def Consistent (G : Groups) (w : World) : Prop :=
  ∀ e ∈ w.objects, ∀ f ∈ w.objects, e.val.status.recorded.zoneID ≠ none →
    f.val.status.recorded.zoneID = e.val.status.recorded.zoneID →
      Compatible (request G e.val) (request G f.val)

/-- The ids on record, object by object. -/
def recordedIDs (w : World) : List (ℕ × Option ℕ) :=
  w.objects.entries.map fun e => (e.id, e.val.status.recorded.zoneID)

/-! ### What a run of passes establishes -/

/-- The request of an object depends on what passes leave alone. -/
theorem request_of_tended (h : Mirror.Tended z z') : request G z' = request G z := by
  rw [request, request, h.spec, h.ns]

/-- The zone has the request of an object that has it on record and was applied. -/
def Written (G : Groups) (D : ℕ → Prop) (w : World) (id : ℕ) : Prop :=
  ∃ f ∈ w.objects, D f.id ∧ f.val.status.recorded.zoneID = some id ∧
    ∃ r, request G f.val = .ok r ∧ w.account.zones.get id = some r

/-- The objects are live, and those that were applied have a written zone on record. -/
structure Applied (G : Groups) (D : ℕ → Prop) (w : World) : Prop where
  live : ∀ e ∈ w.objects, e.val.deleting = false
  written : ∀ e ∈ w.objects, D e.id → ∀ r, request G e.val = .ok r →
    ∃ id, e.val.status.recorded.zoneID = some id ∧ Written G D w id

/-- What one pass over a live object does, given what its request is. -/
inductive PassEffect (G : Groups) (w : World) (uid : ℕ) (z : CR) : World → Prop where
  | skipped {z' : CR} {e : GroupErr} (hown : Mirror.Tended z z') (hreq : request G z = .error e)
      (hrec : z'.status.recorded = z.status.recorded) :
      PassEffect G w uid z ⟨w.objects.update uid z', w.account⟩
  | wrote {z' : CR} {a' : Account} {r : Zone} {id : ℕ} (hown : Mirror.Tended z z')
      (hreq : request G z = .ok r) (hrec : z'.status.recorded.zoneID = some id)
      (hget : a'.zones.get id = some r)
      (hothers : ∀ j, w.account.zones.Has j → j ≠ id → a'.zones.get j = w.account.zones.get j)
      (hupdate : w.account.zones.Has id → a'.zones = w.account.zones.update id r)
      (hid : z.status.recorded.zoneID = some id ∨ Unrecorded z w.account) :
      PassEffect G w uid z ⟨w.objects.update uid z', a'⟩

theorem reconcile_passEffect (hsteady : Steady G (.reconcile uid env))
    (hget : w.objects.get uid = some z) (hlive : z.deleting = false) :
    PassEffect G w uid z (reconcile env uid w).2 := by
  obtain ⟨hfree, rfl⟩ := hsteady
  obtain ⟨z', hown, hend, hok, herror⟩ := reconcile_live hfree hget hlive
  rw [hend]
  have hreq' : request env.groups (Mirror.withFinalizer z) = request env.groups z := rfl
  cases hreq : request env.groups z with
  | error e =>
    rw [applyDNSZone_of_error (hreq'.trans hreq)] at herror ⊢
    exact .skipped hown hreq (herror _ rfl)
  | ok r =>
    obtain ⟨id, hid⟩ := applyDNSZone_ok hfree (a := w.account) (hreq'.trans hreq)
    have heffect := applyDNSZone_effect env (Mirror.withFinalizer z) w.account
    have hrec : z'.status.recorded.zoneID = some id := by rw [hok _ hid]
    rw [hid] at heffect
    generalize (applyDNSZone env (Mirror.withFinalizer z) w.account).2 = a' at heffect
    cases heffect with
    | updated c hreq'' hhas howned =>
      obtain rfl := Except.ok.inj (hreq.symm.trans hreq'')
      exact .wrote hown hreq hrec (hhas.get_update r) (fun j _ hne => Store.get_update_of_ne hne)
        (fun _ => rfl) howned
    | created c hreq'' hun =>
      obtain rfl := Except.ok.inj (hreq.symm.trans hreq'')
      exact .wrote hown hreq hrec (Store.get_create_next _ r)
        (fun j _ hne => Store.get_create_of_ne hne)
        (fun hhas => absurd hhas.lt_next (Nat.lt_irrefl _)) (Or.inr hun)

/-- Passes keep objects live. -/
theorem PassEffect.live (heffect : PassEffect G w uid z w') (hget : w.objects.get uid = some z)
    (hlive : ∀ e ∈ w.objects, e.val.deleting = false) :
    ∀ e ∈ w'.objects, e.val.deleting = false := by
  have hz : z.deleting = false := hlive _ (Store.get_eq_some.mp hget)
  cases heffect with
  | skipped hown _ _ | wrote hown _ _ _ _ _ _ =>
    intro e he
    rcases Store.mem_update.mp he with ⟨he, -⟩ | ⟨rfl, -⟩
    · exact hlive e he
    · exact hown.deleting.trans hz

/-- A pass leaves every zone on record written. Its own object's it wrote itself. Another's was
written by an object that still has it on record, or is the one the pass wrote. -/
theorem Applied.passEffect (h : Applied G D w) (hget : w.objects.get uid = some z)
    (heffect : PassEffect G w uid z w') : Applied G (fun i => D i ∨ i = uid) w' := by
  refine ⟨heffect.live hget h.live, fun e he hD r hr => ?_⟩
  have hmem : (⟨uid, z⟩ : Entry CR) ∈ w.objects := Store.get_eq_some.mp hget
  cases heffect with
  | skipped hown hreq hrec =>
    rcases Store.mem_update.mp he with ⟨he, hne⟩ | ⟨rfl, -⟩
    · obtain ⟨id, hid, f, hf, hDf, hfid, r', hr', hzone⟩ :=
        h.written e he (hD.resolve_right hne) r hr
      have hfne : f.id ≠ uid := by
        intro hfu
        rw [Store.val_eq_of_get hget hf hfu, hreq] at hr'
        exact absurd hr' (by simp)
      exact ⟨id, hid, f, (Store.mem_update_of_ne hfne).mpr hf, Or.inl hDf, hfid, r', hr', hzone⟩
    · rw [request_of_tended hown, hreq] at hr
      exact absurd hr (by simp)
  | wrote hown hreq hrec hzone hothers hupdate hfrom =>
    rename_i z' a' r₀ id
    have hself : Written G (fun i => D i ∨ i = uid) ⟨w.objects.update uid z', a'⟩ id :=
      ⟨⟨uid, z'⟩, Store.mem_update_self hmem z', Or.inr rfl, hrec, r₀,
        (request_of_tended hown).trans hreq, hzone⟩
    rcases Store.mem_update.mp he with ⟨he, hne⟩ | ⟨rfl, -⟩
    · obtain ⟨j, hj, f, hf, hDf, hfj, r', hr', hzone'⟩ := h.written e he (hD.resolve_right hne) r hr
      by_cases hji : j = id
      · exact ⟨id, hji ▸ hj, hself⟩
      · have hhas : w.account.zones.Has j := Store.has_of_get hzone'
        have hfne : f.id ≠ uid := by
          intro hfu
          rw [Store.val_eq_of_get hget hf hfu] at hfj
          rcases hfrom with hfrom | hun
          · exact hji (Option.some.inj (hfj.symm.trans hfrom))
          · exact hun j hfj hhas
        exact ⟨j, hj, f, (Store.mem_update_of_ne hfne).mpr hf, Or.inl hDf, hfj, r', hr',
          (hothers j hhas hji).trans hzone'⟩
    · exact ⟨id, hrec, hself⟩

/-- The objects a list of events has passed over. -/
def PassedOver (es : List Event) (uid : ℕ) : Prop := ∃ env, Event.reconcile uid env ∈ es

theorem passedOver_concat (es : List Event) (uid : ℕ) (env : Env) :
    PassedOver (es ++ [.reconcile uid env]) = fun i => PassedOver es i ∨ i = uid := by
  funext i
  refine propext ⟨?_, ?_⟩
  · rintro ⟨env', h⟩
    rcases List.mem_append.mp h with h | h
    · exact Or.inl ⟨env', h⟩
    · exact Or.inr (Event.reconcile.inj (List.mem_singleton.mp h)).1
  · rintro (⟨env', h⟩ | rfl)
    · exact ⟨env', List.mem_append_left _ h⟩
    · exact ⟨env, List.mem_append_right _ (List.mem_singleton.mpr rfl)⟩

theorem Applied.reconcile (h : Applied G D w) (hsteady : Steady G (.reconcile uid env)) :
    Applied G (fun i => D i ∨ i = uid) (step w (.reconcile uid env)) := by
  cases hget : w.objects.get uid with
  | none =>
    have hsame : step w (.reconcile uid env) = w := Mirror.reconcile_gone hget
    rw [hsame]
    refine ⟨h.live, fun e he hD r hr => ?_⟩
    have hne : e.id ≠ uid := Store.get_eq_none.mp hget e he
    obtain ⟨id, hid, f, hf, hDf, hrest⟩ := h.written e he (hD.resolve_right hne) r hr
    exact ⟨id, hid, f, hf, Or.inl hDf, hrest⟩
  | some z =>
    exact h.passEffect hget (reconcile_passEffect hsteady hget
      (h.live _ (Store.get_eq_some.mp hget)))

/-- **After a run of passes**, every object that was passed over has a written zone on record. -/
theorem Applied.run {es : List Event} (hlive : ∀ e ∈ w.objects, e.val.deleting = false)
    (hes : ∀ ev ∈ es, Steady G ev) : Applied G (PassedOver es) (run step w es) := by
  refine run_induction (I := fun es => Applied G (PassedOver es) (ControlLoop.run step w es))
    (along_of_forall hes) ?_ fun fs ev h hev => ?_
  · exact ⟨hlive, fun e he ⟨env, henv⟩ => absurd henv List.not_mem_nil⟩
  · obtain ⟨uid, env, rfl⟩ := hev.eq_reconcile
    rw [run_concat, passedOver_concat]
    exact h.reconcile hev

/-! ### At rest -/

/-- Two objects that ask for the same, with the same zone on record. -/
def Alike (G : Groups) (e f : CR) : Prop :=
  e.status.recorded.zoneID = f.status.recorded.zoneID ∧ request G e = request G f

theorem recordedIDs_update {a' : Account} (hget : w.objects.get uid = some z)
    (hrec : z'.status.recorded.zoneID = z.status.recorded.zoneID) :
    recordedIDs ⟨w.objects.update uid z', a'⟩ = recordedIDs w := by
  rw [recordedIDs, recordedIDs, Store.entries_update, List.map_map]
  refine List.map_congr_left fun e he => ?_
  show (fun e : Entry CR => (e.id, e.val.status.recorded.zoneID))
    (if e.id = uid then ⟨uid, z'⟩ else e) = _
  split
  · next hid =>
    show (uid, z'.status.recorded.zoneID) = _
    rw [hrec, ← hid, Store.val_eq_of_get hget he hid]
  · rfl

theorem Consistent.update {a' : Account} (h : Consistent G w) (hget : w.objects.get uid = some z)
    (halike : Alike G z' z) : Consistent G ⟨w.objects.update uid z', a'⟩ := by
  have hold : ∀ e ∈ w.objects.update uid z', ∃ f ∈ w.objects, Alike G e.val f.val := by
    intro e he
    rcases Store.mem_update.mp he with ⟨he, -⟩ | ⟨rfl, -⟩
    · exact ⟨e, he, rfl, rfl⟩
    · exact ⟨⟨uid, z⟩, Store.get_eq_some.mp hget, halike⟩
  intro e he f hf hne heq
  obtain ⟨e₀, he₀, hid, hreq⟩ := hold e he
  obtain ⟨f₀, hf₀, hid', hreq'⟩ := hold f hf
  rw [hreq, hreq']
  refine h e₀ he₀ f₀ hf₀ (hid ▸ hne) ?_
  rw [← hid, ← hid', heq]

/-- **One pass at rest.** Once every object is applied and they are consistent, a pass changes no
zone and no record. -/
theorem Applied.rest (h : Applied G (fun _ => True) w) (hcons : Consistent G w)
    (hsteady : Steady G ev) :
    (step w ev).account.zones = w.account.zones ∧ recordedIDs (step w ev) = recordedIDs w ∧
      Consistent G (step w ev) := by
  obtain ⟨uid, env, rfl⟩ := hsteady.eq_reconcile
  cases hget : w.objects.get uid with
  | none =>
    have hsame : step w (.reconcile uid env) = w := Mirror.reconcile_gone hget
    rw [hsame]
    exact ⟨rfl, rfl, hcons⟩
  | some z =>
    have hmem : (⟨uid, z⟩ : Entry CR) ∈ w.objects := Store.get_eq_some.mp hget
    have heffect : PassEffect G w uid z (step w (.reconcile uid env)) :=
      reconcile_passEffect hsteady hget (h.live _ hmem)
    generalize step w (.reconcile uid env) = w' at heffect
    cases heffect with
    | skipped hown hreq hrec =>
      have hid := congrArg Recorded.zoneID hrec
      exact ⟨rfl, recordedIDs_update hget hid, hcons.update hget ⟨hid, request_of_tended hown⟩⟩
    | wrote hown hreq hrec hzone hothers hupdate hfrom =>
      rename_i z' a' r id
      obtain ⟨j, hj, f, hf, -, hfj, r', hr', hzone'⟩ := h.written _ hmem trivial r hreq
      have hhas : w.account.zones.Has j := Store.has_of_get hzone'
      obtain rfl : j = id := by
        rcases hfrom with hfrom | hun
        · exact Option.some.inj (hj.symm.trans hfrom)
        · exact absurd hhas (hun j hj)
      have hid : z'.status.recorded.zoneID = z.status.recorded.zoneID := hrec.trans hj.symm
      refine ⟨?_, recordedIDs_update hget hid, hcons.update hget ⟨hid, request_of_tended hown⟩⟩
      -- The zone already has the request: its writer asked for the same.
      have hsame := hcons _ hmem f hf (by rw [hj]; simp) (hfj.trans hj.symm)
      rw [hreq, hr'] at hsame
      obtain rfl : r = r' := hsame
      rw [hupdate hhas]
      exact Store.update_eq_self (Store.get_eq_some.mp hzone')

theorem Applied.rest_run {es : List Event} (h : Applied G (fun _ => True) w)
    (hcons : Consistent G w) (hes : ∀ ev ∈ es, Steady G ev) :
    (ControlLoop.run step w es).account.zones = w.account.zones ∧
      recordedIDs (ControlLoop.run step w es) = recordedIDs w := by
  induction es generalizing w with
  | nil => exact ⟨rfl, rfl⟩
  | cons ev es ih =>
    have hev : Steady G ev := hes ev List.mem_cons_self
    obtain ⟨hzones, hids, hcons'⟩ := h.rest hcons hev
    have happlied : Applied G (fun _ => True) (step w ev) := by
      obtain ⟨uid, env, rfl⟩ := hev.eq_reconcile
      have hstep := h.reconcile hev
      rwa [show (fun i => True ∨ i = uid) = fun _ => True by funext i; simp] at hstep
    obtain ⟨hzones', hids'⟩ :=
      ih happlied hcons' fun ev' hev' => hes ev' (List.mem_cons_of_mem ev hev')
    exact ⟨hzones'.trans hzones, hids'.trans hids⟩

/-- A pass over an applied object makes its zone what it asks for. -/
theorem Applied.asks (h : Applied G (fun _ => True) w) {e : Entry CR} (he : e ∈ w.objects)
    (hid : e.val.status.recorded.zoneID = some id) {r : Zone} (hreq : request G e.val = .ok r)
    (hsteady : Steady G (.reconcile e.id env)) :
    (step w (.reconcile e.id env)).account.zones.get id = some r := by
  have heffect : PassEffect G w e.id e.val (step w (.reconcile e.id env)) :=
    reconcile_passEffect hsteady (Store.get_of_mem he) (h.live e he)
  generalize step w (.reconcile e.id env) = w' at heffect
  obtain ⟨j, hj, f, -, -, -, r', -, hzone'⟩ := h.written e he trivial r hreq
  obtain rfl : j = id := Option.some.inj (hj.symm.trans hid)
  cases heffect with
  | skipped hown hreq' hrec => exact absurd (hreq.symm.trans hreq') (by simp)
  | wrote hown hreq' hrec hzone hothers hupdate hfrom =>
    obtain rfl := Except.ok.inj (hreq.symm.trans hreq')
    rcases hfrom with hfrom | hun
    · obtain rfl := Option.some.inj (hj.symm.trans hfrom)
      exact hzone
    · exact absurd (Store.has_of_get hzone') (hun j hj)

/-- Two objects that declare one zone, each for a domain of its own. -/
def declared (domainA domainB : String) : World :=
  run step (initial .empty)
    [.user (.create "dns" "a" { name := "internal", domain := domainA }),
      .user (.create "dns" "b" { name := "internal", domain := domainB })]

/-- A pass over each of them. -/
def round : List Event := [.reconcile 0 (calm 0), .reconcile 1 (calm 0)]

theorem steady_round : ∀ ev ∈ round, Steady (calm 0).groups ev := by
  simp [round, Steady, Env.FaultFree, calm]

/-- **Zones flap.** Both live objects have been applied, and each further pass takes the zone from
one domain to the other and back. -/
theorem zones_flap :
    (∀ e ∈ (declared "a.test" "b.test").objects, e.val.deleting = false) ∧
      (∀ ev ∈ round, Steady (calm 0).groups ev) ∧
      ((run step (declared "a.test" "b.test") round).account.zones.get 0).map Zone.domain =
        some "b.test" ∧
      ((run step (declared "a.test" "b.test") (round ++ [.reconcile 0 (calm 0)])).account.zones.get
        0).map Zone.domain = some "a.test" ∧
      ((run step (declared "a.test" "b.test") (round ++ round)).account.zones.get
        0).map Zone.domain = some "b.test" :=
  ⟨by decide, steady_round, by decide, by decide, by decide⟩

/-- **When zones come to rest.** Live objects are passed over, without failures and with fixed
groups, each at least once. From then on no pass changes a zone or a recorded id, in any order,
exactly if the objects that have the same zone on record ask for the same. -/
theorem zones_rest_iff (G : Groups) (w₀ : World) (es : List Event) {w : World}
    (hlive : ∀ e ∈ w₀.objects, e.val.deleting = false) (hes : ∀ ev ∈ es, Steady G ev)
    (hw : w = run step w₀ es) (hround : ∀ e ∈ w.objects, PassedOver es e.id) :
    (∀ fs, (∀ ev ∈ fs, Steady G ev) →
      (run step w fs).account.zones = w.account.zones ∧
        recordedIDs (run step w fs) = recordedIDs w) ↔ Consistent G w := by
  have happlied : Applied G (fun _ => True) w := by
    have hrun := Applied.run (G := G) hlive hes
    rw [← hw] at hrun
    refine ⟨hrun.live, fun e he _ r hr => ?_⟩
    obtain ⟨id, hid, f, hf, -, hrest⟩ := hrun.written e he (hround e he) r hr
    exact ⟨id, hid, f, hf, trivial, hrest⟩
  constructor
  · intro hrest e he f hf hne heq
    obtain ⟨id, hid⟩ := Option.ne_none_iff_exists'.mp hne
    -- A pass over either object leaves the zone as it is, so it has the request of both.
    have hasks : ∀ e ∈ w.objects, e.val.status.recorded.zoneID = some id → ∀ r,
        request G e.val = .ok r → w.account.zones.get id = some r := by
      intro e he hid r hr
      have hsteady : Steady G (.reconcile e.id ⟨0, G, fun _ => none⟩) := ⟨fun _ => rfl, rfl⟩
      rw [← (hrest [.reconcile e.id ⟨0, G, fun _ => none⟩] (by simpa using hsteady)).1]
      exact happlied.asks he hid hr hsteady
    cases hr : request G e.val with
    | error _ => trivial
    | ok r =>
      cases hr' : request G f.val with
      | error _ => trivial
      | ok r' =>
        exact Option.some.inj ((hasks e he hid r hr).symm.trans
          (hasks f hf (heq.trans hid) r' hr'))
  · exact fun hcons fs hfs => happlied.rest_run hcons hfs

/-- Two objects that ask for the same zone are at rest after a round. -/
theorem zones_rest_iff_same :
    (run step (run step (declared "a.test" "a.test") round) round.reverse).account.zones =
      (run step (declared "a.test" "a.test") round).account.zones := by
  have hids : ∀ e ∈ (run step (declared "a.test" "a.test") round).objects, e.id = 0 ∨ e.id = 1 := by
    decide
  refine ((zones_rest_iff (calm 0).groups (declared "a.test" "a.test") round (by decide)
    steady_round rfl fun e he => ⟨calm 0, ?_⟩).mpr (by unfold Consistent; decide) round.reverse
    fun ev hev => steady_round ev (List.mem_reverse.mp hev)).1
  rcases hids e he with h | h <;> rw [h] <;> simp [round]

end DNSZone

end NetbirdOperator
