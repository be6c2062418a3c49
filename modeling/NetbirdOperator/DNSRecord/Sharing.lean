import NetbirdOperator.DNSRecord.Model

/-!
# DNSRecord objects that share a record

Applying an object adopts a record of the declared name, type and content, whoever has it on record
already, and deleting an object deletes the record it has on record without looking who else has.
So an object that declares what another declares takes the record down when it goes
(`shared_record_deleted`).

Two objects come to share a record by adoption and in no other way: what an apply creates is new,
and what it updates without adopting was on record before. `AdoptsUnclaimed` is the condition that a
pass adopts no record that another object has on record. Under it every record is on record with
one object at most, and no deletion takes a record away from another.

## Main results

* `DNSRecord.applyDNSRecord_effect` — an apply, whichever calls fail
* `DNSRecord.shared_record_deleted` — a deletion that takes a record from a live object
* `DNSRecord.deletion_spares_others` — with no claimed record adopted, there is none
-/

namespace NetbirdOperator

open ControlLoop

namespace DNSRecord

open Pass

variable {env : Env} {w w' : World} {a a' : Account} {rec : CR} {ev : Event} {uid z id : ℕ}

/-! ### What an apply does -/

/-- The record the next apply would adopt, with its zone: the first that matches, if the object has
no record of the zone on record that still exists. -/
def adoptee (env : Env) (a : Account) (rec : CR) : Option (ℕ × ℕ) :=
  match resolveZoneID env rec.spec.zoneRef with
  | .error _ => none
  | .ok z =>
    if ∃ id ∈ keptID z rec.status.recorded, (a.zones z).Has id then none
    else ((a.zones z).first (matchesSpec env rec.spec)).map fun r => (z, r.id)

/-- The outcome of an apply, and what it makes of the account. -/
inductive ApplyEffect (env : Env) (rec : CR) (a : Account) :
    Except Err Recorded → Account → Prop where
  | failed (e : Err) : ApplyEffect env rec a (.error e) a
  | updated {z id : ℕ} (req : Record) (hhas : (a.zones z).Has id)
      (hfrom : keptID z rec.status.recorded = some id ∨ adoptee env a rec = some (z, id)) :
      ApplyEffect env rec a (.ok ⟨some z, some id⟩) (a.set z ((a.zones z).update id req))
  | created (z : ℕ) (req : Record) :
      ApplyEffect env rec a (.ok ⟨some z, some (a.zones z).next⟩) (a.set z ((a.zones z).create req))

@[simp] theorem zones_set_self (a : Account) (z : ℕ) (records : Store Record) :
    (a.set z records).zones z = records := Function.update_self ..

theorem zones_set_of_ne {z' : ℕ} (h : z' ≠ z) (records : Store Record) :
    (a.set z records).zones z' = a.zones z' := Function.update_of_ne h ..

theorem set_self (a : Account) (z : ℕ) : a.set z (a.zones z) = a :=
  congrArg Account.mk (Function.update_eq_self ..)

theorem createRecord_triple (z : ℕ) (req : Record) :
    Triple (fun a' => a' = a) (createRecord env z req)
      (fun id => ApplyEffect env rec a (.ok ⟨some z, some id⟩))
      fun e => ApplyEffect env rec a (.error e) := by
  refine Triple.bind (call_triple ?_) fun _ => ?_
  · rintro e a' rfl
    exact .failed e
  · rintro a' rfl
    exact .created z req

theorem upsertRecord_triple {found : Option ℕ} (req : Record)
    (hfound : ∀ id, found = some id →
      keptID z rec.status.recorded = some id ∨ adoptee env a rec = some (z, id)) :
    Triple (fun a' => a' = a) (upsertRecord env z req found)
      (fun id => ApplyEffect env rec a (.ok ⟨some z, some id⟩))
      fun e => ApplyEffect env rec a (.error e) := by
  cases found with
  | none => exact createRecord_triple z req
  | some id =>
    refine Triple.bind (Q := fun updated a' =>
      (updated = true ∧ ApplyEffect env rec a (.ok ⟨some z, some id⟩) a') ∨
        (updated = false ∧ a' = a)) ?_ fun updated => ?_
    · refine Triple.bind (call_triple ?_) fun _ => ?_
      · rintro e a' rfl
        exact .failed e
      · rintro a' rfl
        by_cases hhas : (a'.zones z).Has id
        · exact Or.inl ⟨Store.isSome_get.mpr hhas, .updated req hhas (hfound id rfl)⟩
        · refine Or.inr ⟨by simpa using mt Store.isSome_get.mp hhas, ?_⟩
          show a'.set z ((a'.zones z).update id req) = a'
          rw [Store.update_of_not_has hhas, set_self]
    · rintro a' (⟨rfl, h⟩ | ⟨rfl, h⟩)
      · exact h
      · exact createRecord_triple z req a' h

/-- **Apply**, whichever calls fail. -/
theorem applyDNSRecord_effect (env : Env) (rec : CR) (a : Account) :
    ApplyEffect env rec a (applyDNSRecord env rec a).1 (applyDNSRecord env rec a).2 := by
  have hfailed : ∀ (e : Err) (a' : Account), a' = a → ApplyEffect env rec a (.error e) a' := by
    rintro e a' rfl
    exact .failed e
  refine Triple.outcome (P := fun a' => a' = a) ?_ rfl
  refine Triple.bind (Q := fun z a' => a' = a ∧ resolveZoneID env rec.spec.zoneRef = .ok z) ?_
    fun z => Triple.assume fun hz => ?_
  · intro a' h
    rw [lift]
    cases hz : resolveZoneID env rec.spec.zoneRef with
    | error e => exact hfailed e a' h
    | ok z => exact ⟨h, rfl⟩
  refine Triple.bind (Mirror.verifyNetbirdID_triple (P := fun a' => a' = a)
    (H := fun id => (a.zones z).Has id) (fun id => ?_) _) fun verified =>
      Triple.assume fun hverified => ?_
  · refine Triple.bind (call_triple hfailed) fun _ => ?_
    rintro a' rfl
    exact ⟨rfl, Store.isSome_get⟩
  refine Triple.bind (Q := fun found a' => a' = a ∧ ∀ id, found = some id →
    keptID z rec.status.recorded = some id ∨ adoptee env a rec = some (z, id)) ?_ fun found =>
      Triple.assume fun hfound => ?_
  · rcases hverified with ⟨id, rfl, hkept, -⟩ | ⟨rfl, hgone⟩
    · exact fun a' h => ⟨h, fun id' hid' => Or.inl (hkept.trans hid')⟩
    · refine Triple.bind (call_triple hfailed) fun _ => ?_
      rintro a' rfl
      refine ⟨rfl, fun id hid => Or.inr ?_⟩
      have hnone : ¬ ∃ id ∈ keptID z rec.status.recorded, (a'.zones z).Has id :=
        fun ⟨id, hid, hhas⟩ => hgone id hid hhas
      obtain ⟨r, hr, rfl⟩ := Option.map_eq_some_iff.mp hid
      rw [adoptee, hz]
      dsimp only
      rw [if_neg hnone, hr]
      rfl
  exact Triple.bind (upsertRecord_triple _ hfound) fun id _ h => h

/-! ### What a deletion does -/

/-- The object has the record on record. -/
def Claims (rec : CR) (z id : ℕ) : Prop :=
  rec.status.recorded.zoneID = some z ∧ rec.status.recorded.recordID = some id

instance (rec : CR) (z id : ℕ) : Decidable (Claims rec z id) :=
  inferInstanceAs (Decidable (_ ∧ _))

/-- **Delete**, whichever calls fail: at most the record the object claims goes. -/
theorem deleteDNSRecord_effect (env : Env) (rec : CR) (a : Account) :
    (deleteDNSRecord env rec a).2 = a ∨ ∃ z id, Claims rec z id ∧
      (deleteDNSRecord env rec a).2 = a.set z ((a.zones z).delete id) := by
  have hkeep : ∀ (e : Err) (a' : Account), a' = a →
      a' = a ∨ ∃ z id, Claims rec z id ∧ a' = a.set z ((a.zones z).delete id) :=
    fun _ _ h => Or.inl h
  refine Triple.final (P := fun a' => a' = a) (G := fun a' => a' = a ∨ ∃ z id, Claims rec z id ∧
    a' = a.set z ((a.zones z).delete id)) ?_ rfl
  rw [deleteDNSRecord]
  split
  · next id z hid hz =>
    refine Triple.bind (call_triple hkeep) fun _ => ?_
    rintro a' rfl
    rw [bind_of_ok (read_apply _ _)]
    cases (a'.zones z).get id with
    | none => exact Or.inl rfl
    | some r => exact Or.inr ⟨z, id, ⟨hz, hid⟩, rfl⟩
  · exact fun a' h => Or.inl h

/-- The record a deletion removes is the one its object claims. -/
theorem claims_of_removed (hhas : (a.zones z).Has id)
    (hgone : ¬ ((deleteDNSRecord env rec a).2.zones z).Has id) : Claims rec z id := by
  rcases deleteDNSRecord_effect env rec a with h | ⟨z', id', hclaims, h⟩ <;> rw [h] at hgone
  · exact absurd hhas hgone
  · by_cases hz : z = z'
    · subst hz
      rw [zones_set_self, Store.has_delete, not_and_not_right] at hgone
      rwa [hgone hhas]
    · rw [zones_set_of_ne hz] at hgone
      exact absurd hhas hgone

/-- Replacing the records of a zone by more of them removes nothing. -/
theorem has_set {records : Store Record} {z' : ℕ} (h : (a.zones z').Has id → records.Has id)
    (hhas : (a.zones z).Has id) : ((a.set z' records).zones z).Has id := by
  by_cases hz : z = z'
  · rw [hz, zones_set_self]
    exact h (hz ▸ hhas)
  · rwa [zones_set_of_ne hz]

/-- An apply removes nothing. -/
theorem ApplyEffect.has {r : Except Err Recorded} (h : ApplyEffect env rec a r a')
    (hhas : (a.zones z).Has id) : (a'.zones z).Has id := by
  cases h with
  | failed e => exact hhas
  | updated req hhas' hfrom => exact has_set Store.has_update.mpr hhas
  | created z' req => exact has_set (fun h => h.create req) hhas

/-! ### One object for each record -/

/-- **The condition on an event.** A pass adopts no record that another object claims. -/
def AdoptsUnclaimed (w : World) : Event → Prop
  | .reconcile uid env =>
    ∀ e ∈ w.objects, e.id = uid → e.val.live = true → ∀ p ∈ adoptee env w.account e.val,
      ∀ f ∈ w.objects, f.id ≠ uid → ¬ Claims f.val p.1 p.2
  | _ => True

instance (w : World) : (ev : Event) → Decidable (AdoptsUnclaimed w ev)
  | .reconcile uid env =>
    inferInstanceAs (Decidable (∀ e ∈ w.objects, e.id = uid → e.val.live = true →
      ∀ p ∈ adoptee env w.account e.val, ∀ f ∈ w.objects, f.id ≠ uid → ¬ Claims f.val p.1 p.2))
  | .user _ | .foreignCreate _ _ | .foreignUpdate _ _ _ | .foreignDelete _ _ => .isTrue trivial

/-- A record is on record with one object at most. That its id was issued and its zone is on record
as well is what makes an apply keep it so. -/
structure Exclusive (w : World) : Prop where
  zone : ∀ e ∈ w.objects, ∀ id, e.val.status.recorded.recordID = some id →
    ∃ z, Claims e.val z id
  issued : ∀ e ∈ w.objects, ∀ z id, Claims e.val z id → id < (w.account.zones z).next
  unique : ∀ e ∈ w.objects, ∀ f ∈ w.objects, ∀ z id, Claims e.val z id → Claims f.val z id →
    e.id = f.id

theorem ApplyEffect.grows {r : Except Err Recorded} (h : ApplyEffect env rec a r a') :
    Store.Grows a.zones a'.zones := by
  cases h with
  | failed e => exact .refl _
  | updated req hhas hfrom => exact Store.grows_update (Nat.le_refl _)
  | created z req => exact Store.grows_update (Nat.le_succ _)

theorem deleteDNSRecord_grows (env : Env) (rec : CR) (a : Account) :
    Store.Grows a.zones (deleteDNSRecord env rec a).2.zones := by
  rcases deleteDNSRecord_effect env rec a with h | ⟨z, id, -, h⟩ <;> rw [h]
  · exact .refl _
  · exact Store.grows_update (Nat.le_refl _)

/-- Fewer claims, and more ids issued. -/
theorem Exclusive.of_sub (h : Exclusive w) {objects : Store CR}
    (hgrows : Store.Grows w.account.zones a'.zones)
    (hsub : ∀ e ∈ objects, e.val.status.recorded.recordID = none ∨
      ∃ f ∈ w.objects, f.id = e.id ∧ e.val.status.recorded = f.val.status.recorded) :
    Exclusive ⟨objects, a'⟩ := by
  have hclaims : ∀ e ∈ objects, ∀ z id, Claims e.val z id →
      ∃ f ∈ w.objects, f.id = e.id ∧ Claims f.val z id := by
    intro e he z id hc
    rcases hsub e he with hnone | ⟨f, hf, hid, hs⟩
    · exact absurd (hc.2.symm.trans hnone) (by simp)
    · refine ⟨f, hf, hid, ?_⟩
      rwa [Claims, hs] at hc
  refine ⟨fun e he id hid => ?_, fun e he z id hc => ?_, fun e he f hf z id hc hc' => ?_⟩
  · rcases hsub e he with hnone | ⟨f, hf, -, hs⟩
    · exact absurd (hid.symm.trans hnone) (by simp)
    · rw [hs] at hid
      obtain ⟨z, hc⟩ := h.zone f hf id hid
      refine ⟨z, ?_⟩
      rwa [Claims, hs]
  · obtain ⟨f, hf, -, hc⟩ := hclaims e he z id hc
    exact Nat.lt_of_lt_of_le (h.issued f hf z id hc) (hgrows z)
  · obtain ⟨e', he', hide, hc⟩ := hclaims e he z id hc
    obtain ⟨f', hf', hidf, hc'⟩ := hclaims f hf z id hc'
    rw [← hide, ← hidf]
    exact h.unique e' he' f' hf' z id hc hc'

/-- The record a kept id denotes is one the object claims. -/
theorem claims_of_kept (hzone : ∀ id, rec.status.recorded.recordID = some id → ∃ z, Claims rec z id)
    (hkept : keptID z rec.status.recorded = some id) : Claims rec z id := by
  rw [keptID] at hkept
  split at hkept
  · exact absurd hkept (by simp)
  · next hsame =>
    obtain ⟨z', hz', -⟩ := hzone id hkept
    refine ⟨?_, hkept⟩
    rw [hz'] at hsame ⊢
    simpa using hsame

/-- One new claim, to a record that nobody else claims. -/
theorem Exclusive.claim (h : Exclusive w) {o' : CR} (hgrows : Store.Grows w.account.zones a'.zones)
    (hnew : o'.status.recorded = ⟨some z, some id⟩) (hissued : id < (a'.zones z).next)
    (hfree : ∀ f ∈ w.objects, f.id ≠ uid → ¬ Claims f.val z id) :
    Exclusive ⟨w.objects.update uid o', a'⟩ := by
  have hclaims : ∀ z' id', Claims o' z' id' → z' = z ∧ id' = id := by
    rintro z' id' ⟨hz, hid⟩
    rw [hnew] at hz hid
    exact ⟨(Option.some.inj hz).symm, (Option.some.inj hid).symm⟩
  refine ⟨fun e he i hi => ?_, fun e he z' i hc => ?_, fun e he f hf z' i hc hc' => ?_⟩
  · rcases Store.mem_update.mp he with ⟨he, -⟩ | ⟨rfl, -⟩
    · exact h.zone e he i hi
    · exact ⟨z, by rw [hnew], hi⟩
  · rcases Store.mem_update.mp he with ⟨he, -⟩ | ⟨rfl, -⟩
    · exact Nat.lt_of_lt_of_le (h.issued e he z' i hc) (hgrows z')
    · obtain ⟨rfl, rfl⟩ := hclaims z' i hc
      exact hissued
  · rcases Store.mem_update.mp he with ⟨he, hne⟩ | ⟨rfl, -⟩ <;>
      rcases Store.mem_update.mp hf with ⟨hf, hnf⟩ | ⟨rfl, -⟩
    · exact h.unique e he f hf z' i hc hc'
    · obtain ⟨rfl, rfl⟩ := hclaims z' i hc'
      exact absurd hc (hfree e he hne)
    · obtain ⟨rfl, rfl⟩ := hclaims z' i hc
      exact absurd hc' (hfree f hf hnf)
    · rfl

/-- An apply keeps claims exclusive: what it kept was claimed, what it created is new, and what it
adopted nobody else claims. -/
theorem Exclusive.applied (h : Exclusive w) {o o' : CR} {r : Except Err Recorded}
    (hget : w.objects.get uid = some o)
    (happly : ApplyEffect env (Mirror.withFinalizer o) w.account r a')
    (hrec : o'.status.recorded = o.status.recorded ∨ r = .ok o'.status.recorded)
    (hadopt : ∀ p ∈ adoptee env w.account o, ∀ f ∈ w.objects, f.id ≠ uid → ¬ Claims f.val p.1 p.2) :
    Exclusive ⟨w.objects.update uid o', a'⟩ := by
  have hmem : (⟨uid, o⟩ : Entry CR) ∈ w.objects := Store.get_eq_some.mp hget
  have hsame : o'.status.recorded = o.status.recorded →
      Exclusive ⟨w.objects.update uid o', a'⟩ := by
    intro hs
    refine h.of_sub happly.grows fun e he => Or.inr ?_
    rcases Store.mem_update.mp he with ⟨he, -⟩ | ⟨rfl, -⟩
    · exact ⟨e, he, rfl, rfl⟩
    · exact ⟨_, hmem, rfl, hs⟩
  rcases hrec with hs | hr
  · exact hsame hs
  have hgrows := happly.grows
  cases happly with
  | failed e => exact absurd hr (by simp)
  | updated req hhas hfrom =>
    rename_i z id
    have hnew : o'.status.recorded = ⟨some z, some id⟩ := (Except.ok.inj hr).symm
    rcases hfrom with hkept | hadopted
    · -- The object has claimed the record all along.
      obtain ⟨hz, hid⟩ : Claims o z id := claims_of_kept (h.zone ⟨uid, o⟩ hmem) hkept
      refine hsame (hnew.trans ?_)
      rw [← hz, ← hid]
    · refine h.claim hgrows hnew ?_ (hadopt (z, id) hadopted)
      rw [zones_set_self]
      exact hhas.lt_next
  | created z req =>
    have hnew : o'.status.recorded = ⟨some z, some (w.account.zones z).next⟩ :=
      (Except.ok.inj hr).symm
    refine h.claim hgrows hnew ?_ fun f hf _ hc => ?_
    · rw [zones_set_self]
      exact Nat.lt_succ_self _
    · exact Nat.lt_irrefl _ (h.issued f hf z _ hc)

theorem Exclusive.reconcile (h : Exclusive w) (hadopt : AdoptsUnclaimed w (.reconcile uid env)) :
    Exclusive (reconcile env uid w).2 := by
  have heffect : Mirror.Effect (mirror env) w uid (DNSRecord.reconcile env uid w).2 :=
    Mirror.reconcile_effect
  generalize (DNSRecord.reconcile env uid w).2 = w' at heffect
  cases heffect with
  | idle => exact h
  | applied hget hlive hown hrec =>
    rename_i o o'
    refine h.applied hget (applyDNSRecord_effect env (Mirror.withFinalizer o) w.account) hrec ?_
    exact hadopt ⟨uid, o⟩ (Store.get_eq_some.mp hget) rfl (by simp [Object.live, hlive])
  | kept hget hdel =>
    rename_i o
    exact h.of_sub (deleteDNSRecord_grows env o w.account) fun e he => Or.inr ⟨e, he, rfl, rfl⟩
  | released hget hdel hout =>
    rename_i o
    exact h.of_sub (deleteDNSRecord_grows env o w.account)
      fun e he => Or.inr ⟨e, (Store.mem_delete.mp he).1, rfl, rfl⟩

/-- **One object for each record**, as long as passes adopt unclaimed records only. -/
theorem Exclusive.step (h : Exclusive w) (hadopt : AdoptsUnclaimed w ev) :
    Exclusive (step w ev) := by
  have hkeep : ∀ {a'}, Store.Grows w.account.zones a'.zones → Exclusive ⟨w.objects, a'⟩ :=
    fun hgrows => h.of_sub hgrows fun e he => Or.inr ⟨e, he, rfl, rfl⟩
  cases ev with
  | reconcile uid env => exact h.reconcile hadopt
  | user ue =>
    refine h.of_sub (fun z => Nat.le_refl _) fun e he => ?_
    rcases Store.of_mem_submit he with ⟨hs, -⟩ | ⟨f, hf, hid, hs, -⟩
    · exact Or.inl (by rw [hs]; rfl)
    · exact Or.inr ⟨f, hf, hid, by rw [hs]⟩
  | foreignCreate z record => exact hkeep (Store.grows_update (Nat.le_succ _))
  | foreignUpdate z id record => exact hkeep (Store.grows_update (Nat.le_refl _))
  | foreignDelete z id => exact hkeep (Store.grows_update (Nat.le_refl _))

/-! ### Deletions -/

/-- No call fails, and every reference resolves to zone 7. -/
def calm : Env := ⟨fun _ => some (some 7), fun _ => none, fun _ => none⟩

/-- Two objects declare the same address record. The second adopts it, and the first is deleted. -/
def adoptedRun : List Event :=
  [.user (.create "apps" "a" ⟨⟨"zone", "dns"⟩, "web.internal.test", .a, "10.0.0.1", 300⟩),
    .reconcile 0 calm,
    .user (.create "apps" "b" ⟨⟨"zone", "dns"⟩, "web.internal.test", .a, "10.0.0.1", 300⟩),
    .reconcile 1 calm,
    .user (.delete 0)]

/-- **A deletion that takes a record from another object.** The pass over the deleted object removes
the record that the live one has on record. -/
theorem shared_record_deleted :
    ((run step (initial fun _ => .empty) adoptedRun).account.zones 7).Has 0 ∧
      (∃ e ∈ (run step (initial fun _ => .empty) adoptedRun).objects,
        e.id = 1 ∧ e.val.live = true ∧ Claims e.val 7 0) ∧
      ¬ ((step (run step (initial fun _ => .empty) adoptedRun) (.reconcile 0 calm)).account.zones
        7).Has 0 :=
  ⟨by decide, by decide, by decide⟩

/-- **Deletions spare what others have on record.** In every state of a run in which no pass adopts
a record that another object claims, a record that a pass removes is claimed by no other object than
the one the pass is over. It makes no difference which calls fail, and what other clients do. -/
theorem deletion_spares_others (zones : ℕ → Store Record) (es : List Event) {w : World}
    (hw : w = run step (initial zones) es)
    (hes : Along es fun pre ev => AdoptsUnclaimed (run step (initial zones) pre) ev) (uid : ℕ)
    (env : Env) (z id : ℕ) (hhas : (w.account.zones z).Has id)
    (hgone : ¬ ((step w (.reconcile uid env)).account.zones z).Has id) :
    ∀ f ∈ w.objects, f.id ≠ uid → ¬ Claims f.val z id := by
  have hexclusive : Exclusive w := by
    rw [hw]
    refine run_invariant (C := fun w ev => AdoptsUnclaimed w ev) hes ?_ fun w ev h hev => h.step hev
    exact ⟨fun e he => absurd he List.not_mem_nil, fun e he => absurd he List.not_mem_nil,
      fun e he => absurd he List.not_mem_nil⟩
  have heffect : Mirror.Effect (mirror env) w uid (step w (.reconcile uid env)) :=
    Mirror.reconcile_effect
  generalize step w (.reconcile uid env) = w' at heffect hgone
  -- Only a deletion removes records, and only the one its object claims.
  have hclaimed : ∃ o, w.objects.get uid = some o ∧ Claims o z id := by
    cases heffect with
    | idle => exact absurd hhas hgone
    | applied hget hlive hown hrec =>
      rename_i o o'
      exact absurd ((applyDNSRecord_effect env (Mirror.withFinalizer o) w.account).has hhas) hgone
    | kept hget hdel =>
      rename_i o
      exact ⟨o, hget, claims_of_removed hhas hgone⟩
    | released hget hdel hout =>
      rename_i o
      exact ⟨o, hget, claims_of_removed hhas hgone⟩
  obtain ⟨o, hget, hclaims⟩ := hclaimed
  intro f hf hne hc
  exact hne (hexclusive.unique f hf ⟨uid, o⟩ (Store.get_eq_some.mp hget) z id hc hclaims)

/-- Two objects declare records of their own, and the first is deleted. -/
def separateRun : List Event :=
  [.user (.create "apps" "a" ⟨⟨"zone", "dns"⟩, "web.internal.test", .a, "10.0.0.1", 300⟩),
    .reconcile 0 calm,
    .user (.create "apps" "b" ⟨⟨"zone", "dns"⟩, "api.internal.test", .a, "10.0.0.2", 300⟩),
    .reconcile 1 calm,
    .user (.delete 0)]

/-- The record of the first goes, and is not the second's. -/
theorem deletion_spares_others_separate :
    ((run step (initial fun _ => .empty) separateRun).account.zones 7).Has 0 ∧
      ∀ f ∈ (run step (initial fun _ => .empty) separateRun).objects, f.id ≠ 0 →
        ¬ Claims f.val 7 0 :=
  ⟨by decide, deletion_spares_others (fun _ => .empty) separateRun rfl (by decide) 0 calm 7 0
    (by decide) (by decide)⟩

end DNSRecord

end NetbirdOperator
