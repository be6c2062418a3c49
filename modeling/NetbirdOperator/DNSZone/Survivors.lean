import NetbirdOperator.DNSZone.Effects

/-!
# A deletion is invisible to the objects that stay

Objects that declare one name share one zone, and each of them may be deleted at any time. The guard
of `deleteDNSZone` is there so that the others do not notice: an object that has recorded the zone
keeps it, and one that has yet to adopt it by its name still finds it.

The first half is an invariant of every run in which nobody else deletes zones. The second compares
two runs of one apply, with and without the deletion before it, by the rules for `Pass.Agree`: they
answer the same, so the object ends up with the same zone.

## Main results

* `DNSZone.Sound.step` — recorded zones exist, and every event but a foreign delete keeps it so
* `DNSZone.applyDNSZone_agree` — an apply does not see that a zone it does not own is missing
* `DNSZone.deletion_invisible` — both halves, for every reachable state
-/

namespace NetbirdOperator

open ControlLoop

namespace DNSZone

open Pass

variable {env : Env} {w : World} {a : Account} {z : CR} {ev : Event} {uid i : ℕ}

/-! ### Recorded zones exist -/

/-- Every live object's recorded zone exists. -/
def Sound (w : World) : Prop :=
  ∀ e ∈ w.objects, e.val.live = true → ∀ id, e.val.status.recorded.zoneID = some id →
    w.account.zones.Has id

/-- The event is not a zone deletion by another client. -/
def NoForeignDelete (ev : Event) : Prop := ∀ id, ev ≠ .foreignDelete id

/-- An apply deletes nothing. -/
theorem ApplyEffect.has {groups : Groups} {r : Except Err Recorded} {a' : Account}
    (h : ApplyEffect groups z a r a') {id : ℕ} (hid : a.zones.Has id) : a'.zones.Has id := by
  cases h with
  | failed e c => exact hid
  | updated c hreq hhas hown => exact Store.has_update.mpr hid
  | created c hreq hown => exact hid.create _

/-- What an apply returns to be recorded exists. -/
theorem ApplyEffect.has_recorded {groups : Groups} {r : Except Err Recorded} {a' : Account}
    (h : ApplyEffect groups z a r a') {rec : Recorded} (hr : r = .ok rec) {id : ℕ}
    (hid : rec.zoneID = some id) : a'.zones.Has id := by
  cases h with
  | failed e c => exact absurd hr (by simp)
  | updated c hreq hhas hown =>
    obtain rfl := Except.ok.inj hr
    obtain rfl := Option.some.inj hid
    exact Store.has_update.mpr hhas
  | created c hreq hown =>
    obtain rfl := Except.ok.inj hr
    obtain rfl := Option.some.inj hid
    exact Store.has_create_next _ _

/-- A deletion spares the zones the other live objects have recorded. -/
theorem withoutZone_has {objects : Store CR} {e : Entry CR} (he : e ∈ objects) (hne : e.id ≠ uid)
    (hlive : e.val.live = true) {id : ℕ} (hrec : e.val.status.recorded.zoneID = some id)
    (hid : a.zones.Has id) : (withoutZone uid objects z a).zones.Has id := by
  rcases withoutZone_cases uid objects z a with ⟨h, -⟩ | ⟨i, zone, -, -, hguard, h⟩ <;> rw [h]
  · exact hid
  · refine Store.has_delete.mpr ⟨hid, fun hi => ?_⟩
    have hown := hguard e he hne hlive
    rw [ownsZone, hrec, hi] at hown
    simp at hown

theorem deleteDNSZone_has {objects : Store CR} {e : Entry CR} (he : e ∈ objects) (hne : e.id ≠ uid)
    (hlive : e.val.live = true) {id : ℕ} (hrec : e.val.status.recorded.zoneID = some id)
    (hid : a.zones.Has id) : (deleteDNSZone env uid objects z a).2.zones.Has id := by
  rcases deleteDNSZone_effect env uid objects z a with h | h <;> rw [h]
  · exact hid
  · exact withoutZone_has he hne hlive hrec hid

theorem Sound.reconcile (h : Sound w) : Sound (reconcile env uid w).2 := by
  have heffect : Mirror.Effect (mirror env) w uid (DNSZone.reconcile env uid w).2 :=
    Mirror.reconcile_effect
  generalize (DNSZone.reconcile env uid w).2 = w' at heffect
  cases heffect with
  | idle => exact h
  | applied hget hlive hown hrec =>
    rename_i o o'
    have happly := applyDNSZone_effect env (Mirror.withFinalizer o) w.account
    intro e he hl id hid
    rcases Store.mem_update.mp he with ⟨he, -⟩ | ⟨rfl, -⟩
    · exact happly.has (h e he hl id hid)
    · rcases hrec with hrec | hrec
      · refine happly.has (h ⟨uid, o⟩ (Store.get_eq_some.mp hget) ?_ id ?_)
        · simp [Object.live, hlive]
        · rw [← hid, ← hrec]
      · exact happly.has_recorded hrec hid
  | kept hget hdel =>
    rename_i o
    intro e he hl id hid
    have hne : e.id ≠ uid := by
      intro hid
      rw [Object.live, Store.val_eq_of_get hget he hid, hdel] at hl
      simp at hl
    exact deleteDNSZone_has he hne hl hid (h e he hl id hid)
  | released hget hdel hout =>
    rename_i o
    intro e he hl id hid
    obtain ⟨he, hne⟩ := Store.mem_delete.mp he
    exact deleteDNSZone_has he hne hl hid (h e he hl id hid)

theorem Sound.user {ue : UserEvent Spec} (h : Sound w) :
    Sound { w with objects := w.objects.submit fresh ue } := by
  intro e he hl id hid
  rcases Store.of_mem_submit he with ⟨hs, -⟩ | ⟨f, hf, -, hs, -, hlive⟩
  · exact absurd hid (by simp [hs, fresh])
  · exact h f hf (hlive hl) id (hs ▸ hid)

/-- **Recorded zones exist**, and go on existing. -/
theorem Sound.step (h : Sound w) (hev : NoForeignDelete ev) : Sound (step w ev) := by
  cases ev with
  | reconcile uid env => exact h.reconcile
  | user ue => exact h.user
  | foreignCreate zone => exact fun e he hl id hid => (h e he hl id hid).create zone
  | foreignUpdate id zone => exact fun e he hl id hid => Store.has_update.mpr (h e he hl id hid)
  | foreignDelete id => exact absurd rfl (hev id)

theorem sound_run {zones : Store Zone} {es : List Event} (hes : ∀ ev ∈ es, NoForeignDelete ev) :
    Sound (run step (initial zones) es) := by
  refine run_invariant (C := fun _ ev => NoForeignDelete ev) (along_of_forall hes) ?_
    fun w ev h hev => h.step hev
  intro e he
  exact absurd he List.not_mem_nil

/-! ### An apply with and without a zone -/

/-- `b` is `a` without the zone `i`, which `z` neither declares nor has on record, and both accounts
are listed afresh. -/
structure Missing (env : Env) (z : CR) (i : ℕ) (a b : Account) : Prop where
  zones : b.zones = a.zones.delete i
  has : a.zones.Has i
  recorded : z.status.recorded.zoneID ≠ some i
  name : ∀ zone, a.zones.get i = some zone → zone.name ≠ z.spec.name
  stale : a.cache.fresh env.now = false
  stale' : b.cache.fresh env.now = false

/-- What matters of it after the list was read: which other zones exist, and the next id. -/
structure Beside (i : ℕ) (a b : Account) : Prop where
  issued : i < a.zones.next
  next : b.zones.next = a.zones.next
  isSome : ∀ id, id ≠ i → (b.zones.get id).isSome = (a.zones.get id).isSome

theorem Missing.beside {b : Account} (h : Missing env z i a b) : Beside i a b := by
  refine ⟨h.has.lt_next, by rw [h.zones, Store.next_delete], fun id hid => ?_⟩
  rw [h.zones, Bool.eq_iff_iff, Store.isSome_get, Store.isSome_get, Store.has_delete]
  exact and_iff_left hid

theorem zoneExists_agree {id : ℕ} (hid : z.status.recorded.zoneID = some id) :
    Agree (Missing env z i) (zoneExists env id) fun _ => Missing env z i := by
  refine Agree.bind (A := Missing env z i)
    (B := fun zone s t => Missing env z i s t) ?_ fun zone s t hst => ⟨rfl, fun _ _ => hst⟩
  refine Agree.bind Agree.call fun _ s t hst => ⟨?_, fun _ _ => hst⟩
  have hne : id ≠ i := fun h => hst.recorded (h ▸ hid)
  show Except.ok (s.zones.get id) = Except.ok (t.zones.get id)
  rw [hst.zones, Store.get_delete_of_ne hne]

/-- Both checks of the recorded zone agree, and neither comes back with the missing one. -/
theorem verifyZone_agree :
    Agree (Missing env z i) (verifyZone env z)
      fun found s t => Missing env z i s t ∧ found ≠ some i := by
  rw [verifyZone]
  cases hrec : z.status.recorded.zoneID with
  | none => exact fun s t hst => ⟨rfl, fun found hf => ⟨hst, by simp [← Except.ok.inj hf]⟩⟩
  | some id =>
    refine Agree.bind (zoneExists_agree hrec) fun found s t hst => ?_
    have hne : (some id : Option ℕ) ≠ some i := hrec ▸ hst.recorded
    cases found with
    | true => exact ⟨rfl, fun r hr => ⟨hst, by rw [← Except.ok.inj hr]; exact hne⟩⟩
    | false => exact ⟨rfl, fun r hr => ⟨hst, by rw [← Except.ok.inj hr]; simp⟩⟩

/-- The missing zone has another name, so no scan for the declared name selects it. -/
theorem Missing.find_name {b : Account} (h : Missing env z i a b) :
    b.zones.entries.find? (fun z' => z'.val.name == z.spec.name) =
      a.zones.entries.find? fun z' => z'.val.name == z.spec.name := by
  rw [h.zones]
  refine Store.first_delete_of_ne (p := fun z' : Zone => z'.name == z.spec.name)
    fun e he hid => ?_
  have hget : a.zones.get i = some e.val := hid ▸ Store.get_of_mem he
  simpa using h.name e.val hget

/-- What is found by name is a zone of that name, so it is not the missing one. -/
theorem Missing.found_ne {b : Account} (h : Missing env z i a b) {found : Option (Entry Zone)}
    (hfound : (getDNSZoneByName env z.spec.name a).1 = .ok found) :
    found.map Entry.id ≠ some i := by
  intro hid
  obtain ⟨e, rfl, rfl⟩ := Option.map_eq_some_iff.mp hid
  have hlookup : a.cache.lookup env.now (fetchZones env .listZones a)
      (fetchZones env .refreshZones a) (fun z' => z'.val.name == z.spec.name) =
        (.ok (some e), (getDNSZoneByName env z.spec.name a).2.cache) := Prod.ext hfound rfl
  obtain ⟨hname, hmem⟩ := ListCache.lookup_found hlookup
  have hlisted : ∀ {c items}, fetchZones env c a = .ok items → items = a.zones.entries := by
    intro c items hc
    rw [fetchZones] at hc
    cases hf : env.fault (.own c) with
    | none =>
      rw [hf] at hc
      exact (Except.ok.inj hc).symm
    | some f =>
      rw [hf] at hc
      exact absurd hc (by simp)
  have he : e ∈ a.zones := by
    rcases hmem with ⟨hfresh, -⟩ | ⟨items, hc, he⟩ | ⟨items, hc, he⟩
    · exact absurd hfresh (by simp [h.stale])
    · rwa [hlisted hc] at he
    · rwa [hlisted hc] at he
  exact h.name e.val (Store.get_of_mem he) (by simpa using hname)

theorem getDNSZoneByName_agree :
    Agree (Missing env z i) (getDNSZoneByName env z.spec.name)
      fun found s t => Beside i s t ∧ found.map Entry.id ≠ some i := by
  intro s t hst
  have hbeside := hst.beside
  refine ⟨?_, fun found hfound => ⟨⟨hbeside.issued, hbeside.next, hbeside.isSome⟩,
    hst.found_ne hfound⟩⟩
  have hfetch : ∀ c, (fetchZones env c t).map (fun items =>
      items.find? fun z' => z'.val.name == z.spec.name) =
        (fetchZones env c s).map fun items => items.find? fun z' => z'.val.name == z.spec.name := by
    intro c
    rw [fetchZones, fetchZones]
    cases env.fault (.own c) with
    | none => exact congrArg Except.ok hst.find_name
    | some f => rfl
  show (s.cache.lookup _ _ _ _).1 = (t.cache.lookup _ _ _ _).1
  rw [ListCache.lookup_of_not_fresh hst.stale, ListCache.lookup_of_not_fresh hst.stale', hfetch,
    hfetch]

theorem adoptZone_agree (zoneID : Option ℕ) :
    Agree (fun s t => Missing env z i s t ∧ zoneID ≠ some i) (adoptZone env z zoneID)
      fun found s t => Beside i s t ∧ found ≠ some i := by
  cases zoneID with
  | some id =>
    rintro s t ⟨hst, hid⟩
    exact ⟨rfl, fun found hfound => ⟨hst.beside, by rw [← Except.ok.inj hfound]; exact hid⟩⟩
  | none =>
    refine Agree.bind (B := fun found s t => Beside i s t ∧ found.map Entry.id ≠ some i)
      (fun s t hst => getDNSZoneByName_agree s t hst.1) fun found s t hst => ⟨rfl, fun r hr => ?_⟩
    rw [← Except.ok.inj hr]
    exact hst

theorem createZone_agree (req : Zone) :
    Agree (Beside i) (createZone env req) fun id _ _ => id ≠ i := by
  refine Agree.bind Agree.call fun _ s t hst => ?_
  refine ⟨congrArg Except.ok hst.next.symm, fun id hid => ?_⟩
  rw [← Except.ok.inj hid]
  exact Nat.ne_of_gt hst.issued

theorem updateZone_agree {id : ℕ} (hid : id ≠ i) (req : Zone) :
    Agree (Beside i) (updateZone env id req) fun _ => Beside i := by
  refine Agree.bind Agree.call fun _ s t hst => ?_
  refine ⟨congrArg Except.ok (hst.isSome id hid).symm, fun _ _ => ⟨hst.issued, hst.next, ?_⟩⟩
  intro id' hid'
  have h := hst.isSome id' hid'
  rw [Bool.eq_iff_iff, Store.isSome_get, Store.isSome_get] at h ⊢
  exact Store.has_update.trans (h.trans Store.has_update.symm)

theorem upsertZone_agree (req : Zone) (zoneID : Option ℕ) :
    Agree (fun s t => Beside i s t ∧ zoneID ≠ some i) (upsertZone env req zoneID)
      fun id _ _ => id ≠ i := by
  cases zoneID with
  | none => exact fun s t hst => createZone_agree req s t hst.1
  | some id =>
    rintro s t ⟨hst, hne⟩
    have hid : id ≠ i := fun h => hne (congrArg some h)
    have hagree : Agree (Beside i) (upsertZone env req (some id)) fun id _ _ => id ≠ i := by
      refine Agree.bind (updateZone_agree hid req) fun updated => ?_
      cases updated with
      | true => exact fun s t _ => ⟨rfl, fun r hr => by rw [← Except.ok.inj hr]; exact hid⟩
      | false => exact createZone_agree req
    exact hagree s t hst

/-- **An apply does not see that a zone is missing** that its object neither declares nor has on
record: it answers the same, and not with that zone. -/
theorem applyDNSZone_agree :
    Agree (Missing env z i) (applyDNSZone env z) fun r _ _ => r.zoneID ≠ some i := by
  refine Agree.bind (Agree.lift fun _ _ _ h => h) fun req => ?_
  refine Agree.bind verifyZone_agree fun zoneID => ?_
  refine Agree.bind (adoptZone_agree zoneID) fun found => ?_
  refine Agree.bind (upsertZone_agree req found) fun id s t hid => ⟨rfl, fun r hr => ?_⟩
  rw [← Except.ok.inj hr]
  simpa using hid

/-! ### Both halves -/

/-- What the deletion of another object leaves of the account: all of it, or all but a zone that
this object neither declares nor has on record. -/
theorem deleteDNSZone_missing {objects : Store CR} {e : Entry CR} {envB : Env} (envA : Env)
    (zA : CR) (he : e ∈ objects) (hne : e.id ≠ uid) (hlive : e.val.live = true)
    (hfresh : a.cache.fresh envB.now = false) :
    (deleteDNSZone envA uid objects zA a).2 = a ∨
      ∃ i, Missing envB e.val i a (deleteDNSZone envA uid objects zA a).2 := by
  rcases deleteDNSZone_effect envA uid objects zA a with h | h <;> rw [h]
  · exact Or.inl rfl
  · rcases withoutZone_cases uid objects zA a with ⟨h, -⟩ | ⟨i, zone, -, hget, hguard, h⟩ <;> rw [h]
    · exact Or.inl rfl
    · have hown := hguard e he hne hlive
      rw [ownsZone, Bool.or_eq_false_iff, beq_eq_false_iff_ne, beq_eq_false_iff_ne] at hown
      refine Or.inr ⟨i, rfl, Store.has_of_get hget, hown.2, fun zone' hzone' => ?_, hfresh, hfresh⟩
      rw [Option.some.inj (hzone'.symm.trans hget)]
      exact Ne.symm hown.1

/-- **A deletion is invisible to the objects that stay.** In every state reached without foreign
zone deletions, every live object's recorded zone exists. And a pass over an object that is being
deleted makes no difference to the next apply of a live one that lists the zones afresh: it has the
same outcome, and the zone it ends up with existed before it just the same. -/
theorem deletion_invisible (zones : Store Zone) (es : List Event) {w : World}
    (hw : w = run step (initial zones) es) (hes : ∀ ev ∈ es, NoForeignDelete ev) :
    (∀ e ∈ w.objects, e.val.live = true → ∀ id, e.val.status.recorded.zoneID = some id →
      w.account.zones.Has id) ∧
    ∀ eA ∈ w.objects, ∀ eB ∈ w.objects, eA.val.deleting = true → eB.val.live = true →
      ∀ envA envB, w.account.cache.fresh envB.now = false →
        eB ∈ (step w (.reconcile eA.id envA)).objects ∧
        (applyDNSZone envB eB.val (step w (.reconcile eA.id envA)).account).1 =
          (applyDNSZone envB eB.val w.account).1 ∧
        ∀ id, (applyDNSZone envB eB.val w.account).1 = .ok ⟨some id⟩ →
          ((step w (.reconcile eA.id envA)).account.zones.Has id ↔ w.account.zones.Has id) := by
  refine ⟨hw ▸ sound_run hes, fun eA hA eB hB hdel hlive envA envB hfresh => ?_⟩
  have hgetA := Store.get_of_mem hA
  have hne : eB.id ≠ eA.id := by
    intro hid
    rw [Object.live, Store.eq_of_id_eq hB hA hid, hdel] at hlive
    simp at hlive
  -- The account after the pass over `eA`, as the apply of `eB` sees it.
  have hsame : ∀ a', (a' = w.account ∨ ∃ i, Missing envB eB.val i w.account a') →
      (applyDNSZone envB eB.val a').1 = (applyDNSZone envB eB.val w.account).1 ∧
        ∀ id, (applyDNSZone envB eB.val w.account).1 = .ok ⟨some id⟩ →
          (a'.zones.Has id ↔ w.account.zones.Has id) := by
    rintro a' (rfl | ⟨i, hmissing⟩)
    · exact ⟨rfl, fun id _ => Iff.rfl⟩
    · obtain ⟨hans, hpost⟩ := applyDNSZone_agree w.account a' hmissing
      refine ⟨hans.symm, fun id hid => ?_⟩
      have hi : id ≠ i := fun h => hpost _ hid (congrArg some h)
      rw [hmissing.zones, Store.has_delete]
      exact and_iff_left hi
  have hmissing := deleteDNSZone_missing envA eA.val hB hne hlive hfresh
  have heffect : Mirror.Effect (mirror envA) w eA.id (step w (.reconcile eA.id envA)) :=
    Mirror.reconcile_effect
  generalize step w (.reconcile eA.id envA) = w' at heffect
  cases heffect with
  | idle => exact ⟨hB, hsame _ (Or.inl rfl)⟩
  | applied hget hlive' hown hrec =>
    rw [hgetA] at hget
    obtain rfl := Option.some.inj hget
    exact absurd hdel (by simp [hlive'])
  | kept hget hdel' =>
    rw [hgetA] at hget
    obtain rfl := Option.some.inj hget
    exact ⟨hB, hsame _ hmissing⟩
  | released hget hdel' hout =>
    rw [hgetA] at hget
    obtain rfl := Option.some.inj hget
    exact ⟨Store.mem_delete.mpr ⟨hB, hne⟩, hsame _ hmissing⟩

/-- No call fails and there are no groups to resolve, at the time `now` in seconds. -/
def calm (now : ℕ) : Env :=
  ⟨now * 1000000000, ⟨fun _ => .error .notFound, fun _ => .error .notFound,
    fun _ _ => .error .notFound⟩, fun _ => none⟩

/-- Two objects declare one zone. The first creates it, and is deleted before the second has
adopted it. -/
def handover : List Event :=
  [.user (.create "dns" "a" { name := "internal", domain := "internal.test" }),
    .reconcile 0 (calm 0),
    .user (.create "dns" "b" { name := "internal", domain := "internal.test" }),
    .user (.delete 0)]

/-- The second object adopts the zone after the pass over the first, as it would have before. -/
theorem deletion_invisible_handover :
    (applyDNSZone (calm 60)
      ⟨"dns", "b", 1, false, false, { name := "internal", domain := "internal.test" }, fresh⟩
      (step (run step (initial .empty) handover) (.reconcile 0 (calm 50))).account).1 =
        .ok ⟨some 0⟩ :=
  ((deletion_invisible .empty handover rfl (by simp [handover, NoForeignDelete])).2
    ⟨0, "dns", "a", 1, true, true, { name := "internal", domain := "internal.test" },
      ⟨1, some markTrue, ⟨some 0⟩⟩⟩ (by decide)
    ⟨1, "dns", "b", 1, false, false, { name := "internal", domain := "internal.test" }, fresh⟩
    (by decide) rfl rfl (calm 50) (calm 60) (by decide)).2.1.trans rfl

end DNSZone

end NetbirdOperator
