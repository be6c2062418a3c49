import NetbirdOperator.DNSZone.Model

/-!
# What applying and deleting a DNSZone does to the account

Every argument about shared zones uses `applyDNSZone` and `deleteDNSZone` through the two effect
types of this module. An apply changes one zone at most, to the request of the object it applies,
and a failed one changes none. A deletion takes away the recorded zone, and only if no other live
object owns it.

## Main results

* `DNSZone.applyDNSZone_effect`, `deleteDNSZone_effect` — whichever calls fail
* `DNSZone.applyDNSZone_ok` — an apply with no failing call
* `DNSZone.deleteDNSZone_of_faultFree` — a deletion with no failing call
* `DNSZone.reconcile_live`, `reconcile_deleting` — passes with no failing call
-/

namespace NetbirdOperator

open ControlLoop

namespace DNSZone

open Pass

variable {env : Env} {w : World} {a : Account} {z : CR} {uid id : ℕ} {objects : Store CR}
  {req : Zone}

/-! ### Apply -/

/-- The object has no zone on record, or one that is gone. -/
def Unrecorded (z : CR) (a : Account) : Prop :=
  ∀ id, z.status.recorded.zoneID = some id → ¬ a.zones.Has id

/-- The outcome of an apply, and what it makes of the account. Only the cache may change besides. -/
inductive ApplyEffect (groups : Groups) (z : CR) (a : Account) :
    Except Err Recorded → Account → Prop where
  | failed (e : Err) (c : ListCache (Entry Zone)) :
      ApplyEffect groups z a (.error e) { a with cache := c }
  | updated {id : ℕ} {req : Zone} (c : ListCache (Entry Zone)) (hreq : request groups z = .ok req)
      (hhas : a.zones.Has id) (hown : z.status.recorded.zoneID = some id ∨ Unrecorded z a) :
      ApplyEffect groups z a (.ok ⟨some id⟩)
        { a with zones := a.zones.update id req, cache := c }
  | created {req : Zone} (c : ListCache (Entry Zone)) (hreq : request groups z = .ok req)
      (hown : Unrecorded z a) :
      ApplyEffect groups z a (.ok ⟨some a.zones.next⟩)
        ⟨a.zones.create req, c, a.created ++ [a.zones.next]⟩

theorem getZone_triple (id : ℕ) :
    Triple (fun a' => a' = a) (getZone env id) (fun zone a' => a' = a ∧ zone = a.zones.get id)
      fun _ a' => a' = a :=
  Triple.bind (call_triple fun _ _ h => h) fun _ a' h => ⟨h, by rw [h]⟩

theorem verifyZone_triple (z : CR) :
    Triple (fun a' => a' = a) (verifyZone env z)
      (fun found a' => a' = a ∧
        ((∃ id, found = some id ∧ z.status.recorded.zoneID = some id ∧ a.zones.Has id) ∨
          (found = none ∧ Unrecorded z a)))
      fun _ a' => a' = a := by
  refine Mirror.verifyNetbirdID_triple (fun id => ?_) z.status.recorded.zoneID
  refine Triple.bind (getZone_triple id) fun zone => Triple.assume fun hzone => ?_
  rintro a' rfl
  refine ⟨rfl, ?_⟩
  rw [hzone]
  exact Store.isSome_get

/-- Adoption changes the cache at most, and does not look beyond a zone that is on record. -/
theorem adoptZone_triple (z : CR) (zoneID : Option ℕ) :
    Triple (fun a' => a' = a) (adoptZone env z zoneID)
      (fun found a' => (∃ c, a' = { a with cache := c }) ∧
        ∀ id, zoneID = some id → found = some id)
      fun _ a' => ∃ c, a' = { a with cache := c } := by
  cases zoneID with
  | some id =>
    rintro a' rfl
    exact ⟨⟨a'.cache, rfl⟩, fun _ h => h⟩
  | none =>
    refine Triple.bind (Q := fun _ a' => ∃ c, a' = { a with cache := c }) ?_
      fun found a' h => ⟨h, fun id hid => absurd hid (by simp)⟩
    rintro a' rfl
    rw [getDNSZoneByName]
    generalize a'.cache.lookup env.now _ _ _ = r
    rcases r with ⟨_ | _, c⟩ <;> exact ⟨c, rfl⟩

theorem createZone_triple (hreq : request env.groups z = .ok req) (hun : Unrecorded z a) :
    Triple (fun a' => ∃ c, a' = { a with cache := c }) (createZone env req)
      (fun id => ApplyEffect env.groups z a (.ok ⟨some id⟩))
      fun e => ApplyEffect env.groups z a (.error e) := by
  refine Triple.bind (call_triple ?_) fun _ => ?_
  · rintro e a' ⟨c, rfl⟩
    exact .failed e c
  · rintro a' ⟨c, rfl⟩
    exact .created c hreq hun

theorem upsertZone_triple {found : Option ℕ} (hreq : request env.groups z = .ok req)
    (hfound : (∃ id, found = some id ∧ z.status.recorded.zoneID = some id ∧ a.zones.Has id) ∨
      Unrecorded z a) :
    Triple (fun a' => ∃ c, a' = { a with cache := c }) (upsertZone env req found)
      (fun id => ApplyEffect env.groups z a (.ok ⟨some id⟩))
      fun e => ApplyEffect env.groups z a (.error e) := by
  cases found with
  | none => exact createZone_triple hreq (hfound.resolve_left (by simp))
  | some id =>
    refine Triple.bind (Q := fun updated a' =>
      (updated = true ∧ ApplyEffect env.groups z a (.ok ⟨some id⟩) a') ∨
        (updated = false ∧ Unrecorded z a ∧ ∃ c, a' = { a with cache := c })) ?_ fun updated => ?_
    · refine Triple.bind (call_triple ?_) fun _ => ?_
      · rintro e a' ⟨c, rfl⟩
        exact .failed e c
      · rintro a' ⟨c, rfl⟩
        by_cases hhas : a.zones.Has id
        · refine Or.inl ⟨Store.isSome_get.mpr hhas, .updated c hreq hhas ?_⟩
          exact hfound.imp_left fun ⟨id', hid', hrec, _⟩ => hid' ▸ hrec
        · -- A zone that is gone was not the recorded one, and updating it changes nothing.
          have hun : Unrecorded z a := hfound.resolve_left fun ⟨id', hid', _, hhas'⟩ =>
            hhas (Option.some.inj hid' ▸ hhas')
          refine Or.inr ⟨by simpa using mt Store.isSome_get.mp hhas, hun, c, ?_⟩
          show ({ a with zones := a.zones.update id req, cache := c } : Account) = _
          rw [Store.update_of_not_has hhas]
    · rintro a' (⟨rfl, h⟩ | ⟨rfl, hun, h⟩)
      · exact h
      · exact createZone_triple hreq hun a' h

/-- **Apply**, whichever calls fail. -/
theorem applyDNSZone_effect (env : Env) (z : CR) (a : Account) :
    ApplyEffect env.groups z a (applyDNSZone env z a).1 (applyDNSZone env z a).2 := by
  have hfailed : ∀ (e : Err) (a' : Account), a' = a →
      ApplyEffect env.groups z a (.error e) a' := by
    rintro e a' rfl
    exact .failed e a'.cache
  refine Triple.outcome (P := fun a' => a' = a) ?_ rfl
  refine Triple.bind (Q := fun req a' => a' = a ∧ request env.groups z = .ok req) ?_ fun req =>
    Triple.assume fun hreq => ?_
  · intro a' h
    rw [lift]
    cases hreq : request env.groups z with
    | error e => exact hfailed _ a' h
    | ok req => exact ⟨h, rfl⟩
  · refine Triple.bind ((verifyZone_triple z).conseq (fun _ h => h) (fun _ _ h => h) hfailed)
      fun verified => Triple.assume fun hverified => ?_
    refine Triple.bind ((adoptZone_triple z verified).conseq (fun _ h => h) (fun _ _ h => h) ?_)
      fun found => Triple.assume fun hfound => ?_
    · rintro e a' ⟨c, rfl⟩
      exact .failed e c
    · refine Triple.bind (upsertZone_triple hreq ?_) fun id _ h => h
      rcases hverified with ⟨id, hid, hrec, hhas⟩ | ⟨-, hun⟩
      · exact Or.inl ⟨id, hfound id hid, hrec, hhas⟩
      · exact Or.inr hun

/-! ### Apply when nothing fails -/

theorem applyDNSZone_of_error {e : GroupErr} (hreq : request env.groups z = .error e) :
    applyDNSZone env z a = (.error (.group e), a) := by
  rw [applyDNSZone, hreq]
  rfl

theorem applyDNSZone_of_ok (hreq : request env.groups z = .ok req) :
    applyDNSZone env z a = (do
      let zoneID ← verifyZone env z
      let zoneID ← adoptZone env z zoneID
      let id ← upsertZone env req zoneID
      pure ⟨some id⟩ : M Recorded) a := by
  rw [applyDNSZone, hreq]
  rfl

section FaultFree

variable (hfree : env.FaultFree)

include hfree

theorem getZone_of_faultFree (id : ℕ) : getZone env id a = (.ok (a.zones.get id), a) := by
  rw [getZone, bind_of_ok (call_of_none (hfree _) _)]
  rfl

theorem updateZone_of_faultFree (id : ℕ) (req : Zone) :
    updateZone env id req a =
      (.ok (a.zones.get id).isSome, { a with zones := a.zones.update id req }) := by
  rw [updateZone, bind_of_ok (call_of_none (hfree _) _)]
  rfl

theorem createZone_of_faultFree (req : Zone) :
    createZone env req a =
      (.ok a.zones.next, ⟨a.zones.create req, a.cache, a.created ++ [a.zones.next]⟩) := by
  rw [createZone, bind_of_ok (call_of_none (hfree _) _)]
  rfl

theorem verifyZone_of_faultFree :
    verifyZone env z a =
      (.ok (z.status.recorded.zoneID.filter fun id => (a.zones.get id).isSome), a) := by
  rw [verifyZone]
  cases z.status.recorded.zoneID with
  | none => rfl
  | some id =>
    have hexists : zoneExists env id a = (.ok (a.zones.get id).isSome, a) := by
      rw [zoneExists, bind_of_ok (getZone_of_faultFree hfree id)]
      rfl
    rw [Mirror.verifyNetbirdID_of_ok hexists, Option.filter_some]

/-- Adoption finds a zone, and changes the cache at most. -/
theorem adoptZone_of_faultFree (zoneID : Option ℕ) :
    ∃ found c, adoptZone env z zoneID a = (.ok found, { a with cache := c }) := by
  cases zoneID with
  | some id => exact ⟨some id, a.cache, rfl⟩
  | none =>
    have hfetch : ∀ c, fetchZones env c a = .ok a.zones.entries := by
      intro c
      rw [fetchZones, hfree]
    obtain ⟨found, c, hlookup⟩ := a.cache.lookup_ok env.now (hfetch .listZones)
      (hfetch .refreshZones) fun z' => z'.val.name == z.spec.name
    have hfound : getDNSZoneByName env z.spec.name a = (.ok found, { a with cache := c }) := by
      rw [getDNSZoneByName, hlookup]
    exact ⟨found.map Entry.id, c, bind_of_ok hfound⟩

theorem upsertZone_of_faultFree (req : Zone) (zoneID : Option ℕ) :
    ∃ id a', upsertZone env req zoneID a = (.ok id, a') := by
  cases zoneID with
  | none => exact ⟨_, _, createZone_of_faultFree hfree req⟩
  | some id =>
    rw [upsertZone, bind_of_ok (updateZone_of_faultFree hfree id req)]
    cases (a.zones.get id).isSome with
    | true => exact ⟨id, _, rfl⟩
    | false => exact ⟨_, _, createZone_of_faultFree hfree req⟩

/-- An object whose groups can be resolved ends up with a zone. -/
theorem applyDNSZone_ok (hreq : request env.groups z = .ok req) :
    ∃ id, (applyDNSZone env z a).1 = .ok ⟨some id⟩ := by
  obtain ⟨found, c, hadopt⟩ := adoptZone_of_faultFree hfree (a := a) (z := z)
    (z.status.recorded.zoneID.filter fun id => (a.zones.get id).isSome)
  obtain ⟨id, a', hupsert⟩ := upsertZone_of_faultFree hfree (a := { a with cache := c }) req found
  refine ⟨id, ?_⟩
  rw [applyDNSZone_of_ok hreq, bind_of_ok (verifyZone_of_faultFree hfree), bind_of_ok hadopt,
    bind_of_ok hupsert]
  rfl

end FaultFree

/-! ### Delete -/

/-- The account without the recorded zone, unless another live object owns that. -/
def withoutZone (uid : ℕ) (objects : Store CR) (z : CR) (a : Account) : Account :=
  match z.status.recorded.zoneID with
  | none => a
  | some id =>
    match a.zones.get id with
    | none => a
    | some zone =>
      if anotherLiveMatches uid objects.entries (ownsZone id zone.name) then a
      else { a with zones := a.zones.delete id }

theorem withoutZone_of_get {zone : Zone} (hrec : z.status.recorded.zoneID = some id)
    (hget : a.zones.get id = some zone) :
    withoutZone uid objects z a =
      if anotherLiveMatches uid objects.entries (ownsZone id zone.name) then a
      else { a with zones := a.zones.delete id } := by
  rw [withoutZone, hrec]
  dsimp only
  rw [hget]

/-- The recorded zone stays if another live object owns it, and goes otherwise. -/
theorem withoutZone_cases (uid : ℕ) (objects : Store CR) (z : CR) (a : Account) :
    (withoutZone uid objects z a = a ∧
      ∀ id zone, z.status.recorded.zoneID = some id → a.zones.get id = some zone →
        ∃ e ∈ objects, e.id ≠ uid ∧ e.val.live = true ∧ ownsZone id zone.name e.val = true) ∨
    ∃ id zone, z.status.recorded.zoneID = some id ∧ a.zones.get id = some zone ∧
      (∀ e ∈ objects, e.id ≠ uid → e.val.live = true → ownsZone id zone.name e.val = false) ∧
      withoutZone uid objects z a = { a with zones := a.zones.delete id } := by
  cases hrec : z.status.recorded.zoneID with
  | none =>
    refine Or.inl ⟨by rw [withoutZone, hrec], fun id zone h => absurd h (by simp)⟩
  | some id =>
    cases hget : a.zones.get id with
    | none =>
      refine Or.inl ⟨?_, fun id' zone h h' => ?_⟩
      · rw [withoutZone, hrec]
        dsimp only
        rw [hget]
      · rw [← Option.some.inj h, hget] at h'
        exact absurd h' (by simp)
    | some zone =>
      rw [withoutZone_of_get hrec hget]
      cases hshared : anotherLiveMatches uid objects.entries (ownsZone id zone.name) with
      | true =>
        refine Or.inl ⟨rfl, fun id' zone' h h' => ?_⟩
        obtain rfl := Option.some.inj h
        obtain rfl := Option.some.inj (hget.symm.trans h')
        exact anotherLiveMatches_eq_true.mp hshared
      | false => exact Or.inr ⟨id, zone, rfl, hget, anotherLiveMatches_eq_false.mp hshared, rfl⟩

/-- **Delete**, whichever calls fail. -/
theorem deleteDNSZone_effect (env : Env) (uid : ℕ) (objects : Store CR) (z : CR) (a : Account) :
    (deleteDNSZone env uid objects z a).2 = a ∨
      (deleteDNSZone env uid objects z a).2 = withoutZone uid objects z a := by
  refine Triple.final (P := fun a' => a' = a) (G := fun a' => a' = a ∨
    a' = withoutZone uid objects z a) ?_ rfl
  have hkeep : ∀ (e : Err) (a' : Account), a' = a →
      a' = a ∨ a' = withoutZone uid objects z a := fun _ _ h => Or.inl h
  rw [deleteDNSZone]
  cases hrec : z.status.recorded.zoneID with
  | none => exact fun a' h => Or.inl h
  | some id =>
    refine Triple.bind ((getZone_triple id).conseq (fun _ h => h) (fun _ _ h => h) hkeep)
      fun zone => Triple.assume fun hget => ?_
    cases zone with
    | none => exact fun a' h => Or.inl h
    | some zone =>
      refine Triple.bind (Q := fun shared a' => a' = a ∧
        shared = anotherLiveMatches uid objects.entries (ownsZone id zone.name))
        (Triple.bind (call_triple hkeep) fun _ a' h => ⟨h, rfl⟩) fun shared =>
          Triple.assume fun hshared => ?_
      cases shared with
      | true => exact fun a' h => Or.inl h
      | false =>
        refine Triple.bind (call_triple hkeep) fun _ => ?_
        rintro a' rfl
        rw [bind_of_ok (read_apply _ _), ← hget]
        refine Or.inr ?_
        rw [withoutZone_of_get hrec hget.symm, ← hshared]
        rfl

theorem deleteDNSZone_of_faultFree (hfree : env.FaultFree) :
    deleteDNSZone env uid objects z a = (.ok (), withoutZone uid objects z a) := by
  rw [deleteDNSZone]
  cases hrec : z.status.recorded.zoneID with
  | none =>
    rw [withoutZone, hrec]
    rfl
  | some id =>
    dsimp only
    rw [bind_of_ok (getZone_of_faultFree hfree id)]
    cases hget : a.zones.get id with
    | none =>
      rw [withoutZone, hrec]
      dsimp only
      rw [hget]
      rfl
    | some zone =>
      have hshared : dnsZoneSharedByOther env uid objects id zone.name a =
          (.ok (anotherLiveMatches uid objects.entries (ownsZone id zone.name)), a) := by
        rw [dnsZoneSharedByOther, bind_of_ok (call_of_none (hfree _) _)]
        rfl
      rw [withoutZone_of_get hrec hget]
      dsimp only
      rw [bind_of_ok hshared]
      split
      · rfl
      · rw [deleteZone, bind_of_ok (call_of_none (hfree _) _),
          bind_of_ok (read_apply _ _), hget]
        rfl

/-! ### A pass when nothing fails -/

/-- An object that is being deleted goes, and its zone with it unless that is shared. -/
theorem reconcile_deleting (hfree : env.FaultFree) (hget : w.objects.get uid = some z)
    (hdel : z.deleting = true) :
    (reconcile env uid w).2 =
      ⟨w.objects.delete uid, withoutZone uid w.objects z w.account⟩ := by
  have hout : (mirror env).del uid w.objects z w.account =
      (.ok (), withoutZone uid w.objects z w.account) := deleteDNSZone_of_faultFree hfree
  rw [reconcile, Mirror.reconcile_deleting hfree hget hdel (by rw [hout]), hout]

/-- A live object is applied, and what the apply returned is on record. -/
theorem reconcile_live (hfree : env.FaultFree) (hget : w.objects.get uid = some z)
    (hlive : z.deleting = false) :
    ∃ z', Mirror.Tended z z' ∧ (reconcile env uid w).2 =
        ⟨w.objects.update uid z', (applyDNSZone env (Mirror.withFinalizer z) w.account).2⟩ ∧
      (∀ r, (applyDNSZone env (Mirror.withFinalizer z) w.account).1 = .ok r →
        z'.status.recorded = r) ∧
      ∀ e, (applyDNSZone env (Mirror.withFinalizer z) w.account).1 = .error e →
        z'.status.recorded = z.status.recorded :=
  Mirror.reconcile_live (m := mirror env) hfree hget hlive

end DNSZone

end NetbirdOperator
