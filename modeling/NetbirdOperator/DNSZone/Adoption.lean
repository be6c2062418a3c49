import NetbirdOperator.ControlLoop.Adoption
import NetbirdOperator.DNSZone.Survivors

/-!
# Which zone an apply adopts

An object with no zone on record looks for one of its name, and only if there is none creates one.
The look goes through the list cache, so what is adopted is the first zone of the name in some list
of the account, and that list may be up to thirty seconds old.

What this is worth depends on who else writes. With one object and nobody else, a cached list is
out of date only in that it may lack the zone the operator created, and a miss is never answered
from the cache. So whatever the object forgets, the zone is found again (`createsOnce`).

## Main results

* `DNSZone.getDNSZoneByName_found`, `updatee_triple` — the zone a lookup finds, and an apply updates
* `DNSZone.createsOnce` — one object creates at most one zone, and records no other
-/

namespace NetbirdOperator

open ControlLoop

namespace DNSZone

open Pass

variable {env : Env} {z : CR} {a a' : Account} {req : Zone} {name : String} {id : ℕ}

/-! ### The lookup -/

/-- The zones of the declared name, of which an apply adopts the first. -/
def named (name : String) (zone : Zone) : Bool := zone.name == name

/-- The first zone of the name in the cached list. -/
def listed (a : Account) (name : String) : Option (Entry Zone) :=
  a.cache.items.find? fun e => named name e.val

/-- The account with its zones in the cache. -/
def refetched (env : Env) (a : Account) : Account :=
  { a with cache := ListCache.fetched env.now a.zones.entries }

/-- What a lookup comes to: a zone of the cached list while that is fresh, the first zone of the
account otherwise, or a failure. -/
inductive Found (env : Env) (name : String) (a : Account) :
    Except Err (Option (Entry Zone)) → Account → Prop
  | cached {e : Entry Zone} (hfresh : a.cache.fresh env.now = true)
      (hlisted : listed a name = some e) : Found env name a (.ok (some e)) a
  | fetched (hmiss : a.cache.fresh env.now = true → listed a name = none) :
      Found env name a (.ok (a.zones.first (named name))) (refetched env a)
  | failed (e : Err) {a' : Account} (ha : a' = a ∨ a' = refetched env a) :
      Found env name a (.error e) a'

theorem fetchZones_eq_ok {c : Call} {items : List (Entry Zone)}
    (h : fetchZones env c a = .ok items) : items = a.zones.entries := by
  rw [fetchZones] at h
  cases hf : env.fault (.own c) with
  | some f => simp [hf] at h
  | none =>
    rw [hf] at h
    exact (Except.ok.inj h).symm

theorem getDNSZoneByName_found (env : Env) (name : String) (a : Account) :
    Found env name a (getDNSZoneByName env name a).1 (getDNSZoneByName env name a).2 := by
  have hanswer := ListCache.lookup_answer a.cache env.now (fetchZones env .listZones a)
    (fetchZones env .refreshZones a) fun e => e.val.name == name
  rw [getDNSZoneByName]
  generalize a.cache.lookup env.now (fetchZones env .listZones a) (fetchZones env .refreshZones a)
    (fun e => e.val.name == name) = r at hanswer ⊢
  obtain ⟨out, c⟩ := r
  dsimp only at hanswer ⊢
  cases hanswer with
  | cached hfresh hfind => exact .cached hfresh hfind
  | listed hexpired hfetch hfind =>
    rw [fetchZones_eq_ok hfetch] at hfind ⊢
    rw [← hfind]
    exact .fetched fun h => absurd (hexpired.symm.trans h) (by decide)
  | relisted hmiss hrefetch =>
    rw [fetchZones_eq_ok hrefetch]
    exact .fetched hmiss
  | failed e hc =>
    refine .failed e (hc.imp (fun hc => by rw [hc]) ?_)
    rintro ⟨items, hfetch, rfl⟩
    rw [fetchZones_eq_ok hfetch]
    rfl

/-! ### Adoption -/

/-- The first half of an apply: the id of the zone its update is sent to, if there is one. -/
def updatee (env : Env) (z : CR) : M (Option ℕ) := do
  let _ ← Pass.lift ((request env.groups z).mapError .group)
  let zoneID ← verifyZone env z
  adoptZone env z zoneID

/-- An apply is its two halves. -/
theorem applyDNSZone_eq (hreq : request env.groups z = .ok req) :
    applyDNSZone env z = (do
      let found ← updatee env z
      let id ← upsertZone env req found
      pure ⟨some id⟩) := by
  have hupdatee : updatee env z = verifyZone env z >>= adoptZone env z := by
    rw [updatee, hreq]
    rfl
  funext a
  rw [applyDNSZone_of_ok hreq, hupdatee, bind_assoc]

/-- An update is sent to the zone on record, or to the one the lookup finds. -/
theorem updatee_triple (env : Env) (z : CR) (a : Account) :
    Triple (fun a' => a' = a) (updatee env z)
      (fun found a' => (∃ i, found = some i ∧ z.status.recorded.zoneID = some i ∧ a' = a) ∨
        ∃ f, found = f.map Entry.id ∧ Found env z.spec.name a (.ok f) a')
      fun _ a' => a' = a ∨ a' = refetched env a := by
  refine Triple.bind (Q := fun _ a' => a' = a) ?_ fun _ => ?_
  · intro a' ha'
    rw [lift]
    cases (request env.groups z).mapError (Mirror.Err.group (C := Call)) with
    | error e => exact Or.inl ha'
    | ok req => exact ha'
  refine Triple.bind ((verifyZone_triple z).conseq (fun _ h => h) (fun _ _ h => h)
    fun _ _ ha => Or.inl ha) fun verified => Triple.assume fun hverified => ?_
  rcases hverified with ⟨i, rfl, hrec, -⟩ | ⟨rfl, -⟩
  · exact fun a' ha' => Or.inl ⟨i, rfl, hrec, ha'⟩
  · rintro a' rfl
    have hfound := getDNSZoneByName_found env z.spec.name a'
    rw [adoptZone]
    rcases hlook : getDNSZoneByName env z.spec.name a' with ⟨out, a''⟩
    rw [hlook] at hfound
    cases out with
    | error e =>
      rw [bind_of_error hlook]
      cases hfound with
      | failed _ ha => exact ha
    | ok found =>
      rw [bind_of_ok hlook]
      exact Or.inr ⟨found, rfl, hfound⟩

/-! ### One object and nobody else -/

/-- The account of one object since it was `zones₀`: at most one zone was created, and the cached
list, however old, points to no other zone of the name than the account does. -/
structure Traced (zones₀ : Store Zone) (name : String) (a : Account) : Prop where
  once : CreatedOnce (named name) zones₀ a.zones
  created : (a.created = [] ∧ a.zones.next = zones₀.next) ∨
    (a.created = [zones₀.next] ∧ a.zones.next = zones₀.next + 1)
  listed : ∀ e, listed a name = some e → a.zones.firstID (named name) = some e.id

/-- The zone the lookup settles on, if there is one, is the same as before. -/
def Steadfast (name : String) (a a' : Account) : Prop :=
  ∀ i, a.zones.firstID (named name) = some i → a'.zones.firstID (named name) = some i

variable {zones₀ : Store Zone}

theorem traced_refetched (h : Traced zones₀ name a) (env : Env) :
    Traced zones₀ name (refetched env a) :=
  ⟨h.once, h.created, fun _ he => congrArg (Option.map Entry.id) he⟩

theorem named_of_request (hreq : request env.groups z = .ok req) :
    named z.spec.name req = true := by
  rw [request] at hreq
  cases hgroups : getGroupIDs env.groups z.spec.distributionGroups z.ns with
  | error e => simp [hgroups, Except.map] at hreq
  | ok ids =>
    rw [hgroups] at hreq
    rw [← Except.ok.inj hreq]
    simp [named, zoneRequest]

/-- The lookup settles on the zone of the account, cached list or not. -/
theorem Traced.found (h : Traced zones₀ name a) {found : Option (Entry Zone)}
    (hfound : Found env name a (.ok found) a') :
    found.map Entry.id = a.zones.firstID (named name) ∧ (a' = a ∨ a' = refetched env a) := by
  cases hfound with
  | cached _ hlisted => exact ⟨(h.listed _ hlisted).symm, Or.inl rfl⟩
  | fetched => exact ⟨rfl, Or.inr rfl⟩

/-- The update is sent to the zone the lookup settles on, whether it is on record or not. -/
theorem updatee_traced (env : Env) (h : Traced zones₀ z.spec.name a)
    (hrec : ∀ id, z.status.recorded.zoneID = some id →
      a.zones.firstID (named z.spec.name) = some id) :
    Triple (fun a' => a' = a) (updatee env z)
      (fun found a' => found = a.zones.firstID (named z.spec.name) ∧
        (a' = a ∨ a' = refetched env a))
      fun _ a' => a' = a ∨ a' = refetched env a := by
  refine (updatee_triple env z a).conseq (fun _ h => h) (fun found a' hfound => ?_) fun _ _ h => h
  rcases hfound with ⟨i, rfl, hi, ha'⟩ | ⟨f, rfl, hf⟩
  · exact ⟨(hrec i hi).symm, Or.inl ha'⟩
  · exact h.found hf

/-- Where the lookup has settled on a zone it is there to be updated, and where it has found none
one is created. -/
theorem upsertZone_traced (h : Traced zones₀ z.spec.name a)
    (hreq : request env.groups z = .ok req) :
    Triple (fun a' => a' = a) (upsertZone env req (a.zones.firstID (named z.spec.name)))
      (fun id a' => Traced zones₀ z.spec.name a' ∧ Steadfast z.spec.name a a' ∧
        a'.zones.firstID (named z.spec.name) = some id)
      fun _ a' => a' = a := by
  have hnamed := named_of_request hreq
  cases hfirst : a.zones.firstID (named z.spec.name) with
  | none =>
    refine Triple.bind (call_triple fun _ _ h => h) fun _ => ?_
    rintro a' rfl
    have hcreated : (a'.zones.create req).firstID (named z.spec.name) = some a'.zones.next :=
      Store.firstID_create hfirst hnamed
    refine ⟨⟨h.once.create hfirst hnamed, ?_, fun e he => ?_⟩, fun i hi => ?_, hcreated⟩
    · have hnothing : a'.created = [] ∧ a'.zones.next = zones₀.next := by
        refine h.created.resolve_right fun hone => ?_
        cases h.once with
        | nothing hnext _ => omega
        | one _ _ hfirst' => exact absurd (hfirst'.symm.trans hfirst) (by simp)
      refine Or.inr ⟨?_, congrArg (· + 1) hnothing.2⟩
      show a'.created ++ [a'.zones.next] = [zones₀.next]
      rw [hnothing.1, hnothing.2, List.nil_append]
    · exact absurd (hfirst.symm.trans (h.listed e he)) (by simp)
    · exact absurd (hfirst.symm.trans hi) (by simp)
  | some i =>
    obtain ⟨zone, hget, hzone⟩ := Store.get_of_firstID hfirst
    have hsame : ∀ zone', a.zones.get i = some zone' →
        named z.spec.name req = named z.spec.name zone' := by
      intro zone' hget'
      rw [hnamed, ← hzone, Option.some.inj (hget.symm.trans hget')]
    have hkept : (a.zones.update i req).firstID (named z.spec.name) =
        a.zones.firstID (named z.spec.name) := Store.firstID_update hsame
    refine Triple.bind (Q := fun updated a' => updated = true ∧
      a' = { a with zones := a.zones.update i req }) ?_ fun updated => ?_
    · refine Triple.bind (call_triple fun _ _ h => h) fun _ => ?_
      rintro a' rfl
      exact ⟨Store.isSome_get.mpr (Store.has_of_get hget), rfl⟩
    · rintro a' ⟨rfl, rfl⟩
      refine ⟨⟨h.once.update hsame, h.created, fun e he => ?_⟩, fun j hj => ?_, ?_⟩
      · exact hkept.trans (h.listed e he)
      · exact hkept.trans hj
      · exact hkept.trans hfirst

/-- **Apply.** -/
theorem applyDNSZone_traced (env : Env) (h : Traced zones₀ z.spec.name a)
    (hrec : ∀ id, z.status.recorded.zoneID = some id →
      a.zones.firstID (named z.spec.name) = some id) :
    Triple (fun a' => a' = a) (applyDNSZone env z)
      (fun r a' => Traced zones₀ z.spec.name a' ∧ Steadfast z.spec.name a a' ∧
        ∃ id, r = ⟨some id⟩ ∧ a'.zones.firstID (named z.spec.name) = some id)
      fun _ a' => Traced zones₀ z.spec.name a' ∧ Steadfast z.spec.name a a' := by
  have hlooked : ∀ a', a' = a ∨ a' = refetched env a →
      Traced zones₀ z.spec.name a' ∧ Steadfast z.spec.name a a' := by
    rintro a' (rfl | rfl)
    · exact ⟨h, fun _ hi => hi⟩
    · exact ⟨traced_refetched h env, fun _ hi => hi⟩
  cases hreq : request env.groups z with
  | error e =>
    rintro a' rfl
    rw [applyDNSZone_of_error hreq]
    exact hlooked a' (Or.inl rfl)
  | ok req =>
    rw [applyDNSZone_eq hreq]
    refine Triple.bind ((updatee_traced env h hrec).conseq (fun _ h => h) (fun _ _ h => h)
      fun _ a' ha' => hlooked a' ha') fun found => ?_
    rintro a₁ ⟨rfl, ha₁⟩
    obtain ⟨h₁, hsteady⟩ := hlooked a₁ ha₁
    have hzones : a₁.zones = a.zones := by
      rcases ha₁ with rfl | rfl <;> rfl
    rw [← hzones]
    refine Triple.bind ((upsertZone_traced h₁ hreq).conseq (fun _ h => h) (fun id a' h => ?_)
      fun _ a' ha' => ha' ▸ ⟨h₁, hsteady⟩) (fun id a' h => h) a₁ rfl
    exact ⟨h.1, fun i hi => h.2.1 i (hsteady i hi), id, rfl, h.2.2⟩

/-! ### Passes over one object -/

/-- The only object declares `spec`, and what it has on record is the zone the lookup settles on. -/
structure Tracked (zones₀ : Store Zone) (spec : Spec) (w : World) : Prop where
  own : ∃ z, w.objects.get 0 = some z ∧ z.deleting = false ∧ z.spec = spec ∧
    ∀ id, z.status.recorded.zoneID = some id →
      w.account.zones.firstID (named spec.name) = some id
  account : Traced zones₀ spec.name w.account

/-- **Step.** -/
theorem Tracked.reconcile {spec : Spec} {w : World} (h : Tracked zones₀ spec w) (env : Env) :
    Tracked zones₀ spec (reconcile env 0 w).2 := by
  obtain ⟨z, hget, hlive, rfl, hrec⟩ := h.own
  have happly := applyDNSZone_traced (z := Mirror.withFinalizer z) env h.account hrec
  obtain ⟨z', hget', hlive', hspec, hrec', htraced⟩ := Mirror.reconcile_keeps
    env.fault (mirror env) (I := fun r a' => (∀ id, r.zoneID = some id →
      a'.zones.firstID (named z.spec.name) = some id) ∧ Traced zones₀ z.spec.name a')
    hget hlive ⟨hrec, h.account⟩ <|
    happly.conseq (fun _ h => h)
      (by
        rintro r a' ⟨htraced, hsteady, id, rfl, hfirst⟩
        exact ⟨⟨fun i hi => Option.some.inj hi ▸ hfirst, htraced⟩,
          fun i hi => hsteady i (hrec i hi), htraced⟩)
      fun _ a' h => ⟨fun i hi => h.2 i (hrec i hi), h.1⟩
  exact ⟨⟨z', hget', hlive', hspec, hrec'⟩, htraced⟩

/-- One new object, and the zones there were. -/
def single (zones : Store Zone) (ns name : String) (spec : Spec) : World :=
  step (initial zones) (.user (.create ns name spec))

/-- A pass over it. -/
def pass (w : World) (env : Env) : World := step w (.reconcile 0 env)

theorem tracked_single (zones : Store Zone) (ns name : String) (spec : Spec) :
    Tracked zones spec (single zones ns name spec) := by
  have hunlisted : listed (single zones ns name spec).account spec.name = none := rfl
  refine ⟨⟨_, rfl, rfl, rfl, fun id hid => absurd hid (by simp [fresh])⟩, .refl zones,
    Or.inl ⟨rfl, rfl⟩, fun e he => ?_⟩
  exact absurd (hunlisted.symm.trans he) (by simp)

theorem tracked_run (zones : Store Zone) (ns name : String) (spec : Spec) (envs : List Env) :
    Tracked zones spec (run pass (single zones ns name spec) envs) :=
  run_keeps (tracked_single zones ns name spec) fun _ env h => h.reconcile env

/-- The zone that was created, or if none was, the first of the name that was there before. -/
def TheZone (zones : Store Zone) (name : String) (a : Account) (id : ℕ) : Prop :=
  a.created = [id] ∨ (a.created = [] ∧ zones.firstID (named name) = some id)

/-- Whichever calls of the passes fail and whenever they are made, at most one of them creates a
zone; and a pass that applies the object and gets to write its status has the one zone on record. -/
def CreatesOnce : Prop :=
  ∀ (zones : Store Zone) (ns name : String) (spec : Spec) (envs : List Env),
    (run pass (single zones ns name spec) envs).account.created.length ≤ 1 ∧
      ∀ (env : Env) (z : CR) (r : Recorded) (a : Account),
        (run pass (single zones ns name spec) envs).objects.get 0 = some z →
        applyDNSZone env (Mirror.withFinalizer z)
          (run pass (single zones ns name spec) envs).account = (.ok r, a) →
        env.fault .get = none → env.fault .patchFinalizer = none → env.fault .patchReady = none →
        ∃ z' id,
          (run pass (single zones ns name spec) (envs ++ [env])).objects.get 0 = some z' ∧
          z'.status.recorded.zoneID = some id ∧
          TheZone zones spec.name
            (run pass (single zones ns name spec) (envs ++ [env])).account id

theorem Traced.theZone (h : Traced zones₀ name a) (hid : a.zones.firstID (named name) = some id) :
    TheZone zones₀ name a id := by
  rcases h.once.firstID hid with ⟨hnext, hfirst⟩ | ⟨-, hnext, rfl⟩
  · refine Or.inr ⟨?_, hfirst⟩
    rcases h.created with ⟨hcreated, -⟩ | ⟨-, hnext'⟩
    · exact hcreated
    · omega
  · refine Or.inl ?_
    rcases h.created with ⟨-, hnext'⟩ | ⟨hcreated, -⟩
    · omega
    · exact hcreated

theorem createsOnce : CreatesOnce := by
  intro zones ns name spec envs
  have hbefore := tracked_run zones ns name spec envs
  have hafter := fun env => tracked_run zones ns name spec (envs ++ [env])
  simp only [run_concat] at hafter ⊢
  generalize run pass (single zones ns name spec) envs = w at hbefore hafter ⊢
  refine ⟨?_, fun env z r a hget happly hcall hfin hready => ?_⟩
  · rcases hbefore.account.created with ⟨hcreated, -⟩ | ⟨hcreated, -⟩ <;> simp [hcreated]
  · obtain ⟨z₀, hget₀, hlive, rfl, hrec⟩ := hbefore.own
    obtain rfl := Option.some.inj (hget.symm.trans hget₀)
    have htraced := applyDNSZone_traced (z := Mirror.withFinalizer z) env hbefore.account hrec
    obtain ⟨-, -, id, rfl, -⟩ := htraced.ok rfl happly
    have hpass : pass w env = ⟨w.objects.update 0 _, a⟩ :=
      Mirror.reconcile_recorded (m := mirror env) hcall hfin hget hlive happly hready
    have hget' : (pass w env).objects.get 0 =
        some (Mirror.asReady (Mirror.withFinalizer z) ⟨some id⟩) := by
      rw [hpass]
      exact Store.get_update_self hget _
    obtain ⟨z', hz', -, -, hrec'⟩ := (hafter env).own
    obtain rfl := Option.some.inj (hget'.symm.trans hz')
    exact ⟨_, id, hget', rfl, (hafter env).account.theZone (hrec' id rfl)⟩

end DNSZone

end NetbirdOperator
