import NetbirdOperator.ControlLoop.Adoption
import NetbirdOperator.DNSRecord.Sharing

/-!
# Which record an apply adopts

An object with no record on record looks for one with its name, type and content among the records
of its zone, and only if there is none creates one. NetBird may give an IP address back in another
text than it was sent, so contents are compared by `recordMatchKey`, which reads such texts as the
address they denote. That is enough for the record to be found again: whatever the object forgets,
and however its content is rendered, one object creates at most one record (`createsOnce`).

## Main results

* `DNSRecord.createsOnce` — one object creates at most one record, and records no other
-/

namespace NetbirdOperator

open ControlLoop

namespace DNSRecord

open Pass

variable {env : Env} {rec : CR} {a a' : Account} {zones₀ : ℕ → Store Record} {z id : ℕ}
  {parse : String → Option String} {spec : Spec}

/-! ### Matching records -/

/-- The text a content is compared by. -/
def canonical (parse : String → Option String) (content : String) : String :=
  (parse content).getD content

/-- The records of the declared name, type and content, of which an apply adopts the first. -/
def matching (parse : String → Option String) (spec : Spec) (r : Record) : Bool :=
  r.name == spec.name &&
    r.type.text ++ "|" ++ canonical parse r.content ==
      spec.type.text ++ "|" ++ canonical parse spec.content

theorem matchesSpec_eq (env : Env) (spec : Spec) :
    matchesSpec env spec = matching env.parseIP spec := rfl

theorem matching_recordRequest : matching parse spec (recordRequest spec) = true := by
  simp [matching, recordRequest]

/-- The new record is the old one with its address in another text. -/
def Rerendered (parse : String → Option String) (old new : Record) : Prop :=
  new = { old with content := new.content } ∧ (parse old.content).isSome = true ∧
    parse new.content = parse old.content

/-- The text of an address does not matter to the match. -/
theorem Rerendered.matching {old new : Record} (h : Rerendered parse old new) (spec : Spec) :
    matching parse spec new = matching parse spec old := by
  obtain ⟨hnew, hsome, hparse⟩ := h
  obtain ⟨address, haddress⟩ := Option.isSome_iff_exists.mp hsome
  have hcanonical : canonical parse new.content = canonical parse old.content := by
    rw [canonical, canonical, hparse, haddress]
    rfl
  rw [hnew, DNSRecord.matching, DNSRecord.matching]
  dsimp only
  rw [hcanonical]

/-! ### One object -/

/-- The account since it was `zones₀`: in the zone at most one record was created, and the other
zones are as they were. -/
structure Traced (zones₀ : ℕ → Store Record) (z : ℕ) (p : Record → Bool) (a : Account) : Prop where
  once : CreatedOnce p (zones₀ z) (a.zones z)
  others : ∀ z', z' ≠ z → a.zones z' = zones₀ z'

/-- The record the scan settles on, if there is one, is the same as before. -/
def Steadfast (z : ℕ) (p : Record → Bool) (a a' : Account) : Prop :=
  ∀ i, (a.zones z).firstID p = some i → (a'.zones z).firstID p = some i

/-- What the object has on record is what the scan settles on. -/
def Remembers (z : ℕ) (p : Record → Bool) (recorded : Recorded) (a : Account) : Prop :=
  ∀ i, recorded.recordID = some i → recorded.zoneID = some z ∧ (a.zones z).firstID p = some i

theorem Traced.set {p : Record → Bool} (h : Traced zones₀ z p a) {records : Store Record}
    (hrecords : CreatedOnce p (zones₀ z) records) : Traced zones₀ z p (a.set z records) := by
  refine ⟨by rwa [zones_set_self], fun z' hz' => ?_⟩
  rw [zones_set_of_ne hz']
  exact h.others z' hz'

theorem keptID_of_remembers {p : Record → Bool} {recorded : Recorded}
    (h : Remembers z p recorded a) : keptID z recorded = recorded.recordID := by
  rw [keptID]
  split
  · next hmoved =>
    cases hid : recorded.recordID with
    | none => rfl
    | some i => exact absurd (h i hid).1 hmoved.2
  · rfl

/-- The record the update is sent to is the one the scan settles on, whether it is on record or
not. -/
theorem adopt_traced (env : Env) {p : Record → Bool} (hp : matchesSpec env rec.spec = p)
    (hrec : Remembers z p rec.status.recorded a) :
    Triple (fun a' => a' = a)
      (Mirror.verifyNetbirdID (keptID z rec.status.recorded) (recordExists env z) >>=
        adoptRecord env z rec.spec)
      (fun found a' => found = (a.zones z).firstID p ∧ a' = a) fun _ a' => a' = a := by
  rw [keptID_of_remembers hrec]
  refine Triple.bind (Mirror.verifyNetbirdID_triple (P := fun a' => a' = a)
    (H := fun id => (a.zones z).Has id) (fun id => ?_) _) fun verified =>
      Triple.assume fun hverified => ?_
  · refine Triple.bind (call_triple fun _ _ h => h) fun _ => ?_
    rintro a' rfl
    exact ⟨rfl, Store.isSome_get⟩
  · rcases hverified with ⟨i, rfl, hi, -⟩ | ⟨rfl, -⟩
    · exact fun a' ha' => ⟨(hrec i hi).2.symm, ha'⟩
    · refine Triple.bind (call_triple fun _ _ h => h) fun _ => ?_
      rintro a' rfl
      exact ⟨by rw [hp]; rfl, rfl⟩

theorem upsertRecord_traced (env : Env) {p : Record → Bool} {req : Record} (hreq : p req = true)
    (h : Traced zones₀ z p a) :
    Triple (fun a' => a' = a) (upsertRecord env z req ((a.zones z).firstID p))
      (fun id a' => Traced zones₀ z p a' ∧ Steadfast z p a a' ∧
        (a'.zones z).firstID p = some id)
      fun _ a' => a' = a := by
  cases hfirst : (a.zones z).firstID p with
  | none =>
    refine Triple.bind (call_triple fun _ _ h => h) fun _ => ?_
    rintro a' rfl
    refine ⟨h.set (h.once.create hfirst hreq), fun i hi => ?_, ?_⟩
    · exact absurd (hfirst.symm.trans hi) (by simp)
    · show ((a'.set z ((a'.zones z).create req)).zones z).firstID p = some (a'.zones z).next
      rw [zones_set_self]
      exact Store.firstID_create hfirst hreq
  | some i =>
    obtain ⟨r, hget, hr⟩ := Store.get_of_firstID hfirst
    have hsame : ∀ r', (a.zones z).get i = some r' → p req = p r' := by
      intro r' hget'
      rw [hreq, ← hr, Option.some.inj (hget.symm.trans hget')]
    have hkept : ((a.set z ((a.zones z).update i req)).zones z).firstID p =
        (a.zones z).firstID p := by
      rw [zones_set_self]
      exact Store.firstID_update hsame
    refine Triple.bind (Q := fun updated a' => updated = true ∧
      a' = a.set z ((a.zones z).update i req)) ?_ fun updated => ?_
    · refine Triple.bind (call_triple fun _ _ h => h) fun _ => ?_
      rintro a' rfl
      exact ⟨Store.isSome_get.mpr (Store.has_of_get hget), rfl⟩
    · rintro a' ⟨rfl, rfl⟩
      exact ⟨h.set (h.once.update hsame), fun j hj => hkept.trans hj, hkept.trans hfirst⟩

/-- **Apply.** -/
theorem applyDNSRecord_traced (env : Env) {p : Record → Bool} (hp : matchesSpec env rec.spec = p)
    (hzone : ∀ z', resolveZoneID env rec.spec.zoneRef = .ok z' → z' = z)
    (h : Traced zones₀ z p a) (hrec : Remembers z p rec.status.recorded a) :
    Triple (fun a' => a' = a) (applyDNSRecord env rec)
      (fun r a' => Traced zones₀ z p a' ∧ Steadfast z p a a' ∧
        ∃ id, r = ⟨some z, some id⟩ ∧ (a'.zones z).firstID p = some id)
      fun _ a' => Traced zones₀ z p a' ∧ Steadfast z p a a' := by
  have hfailed : ∀ (e : Err) a', a' = a → Traced zones₀ z p a' ∧ Steadfast z p a a' := by
    rintro e a' rfl
    exact ⟨h, fun _ hi => hi⟩
  have hreq : p (recordRequest rec.spec) = true := by
    rw [← hp, matchesSpec_eq]
    exact matching_recordRequest
  refine Triple.bind (Q := fun z' a' => a' = a ∧ z' = z) ?_ fun z' => Triple.assume ?_
  · intro a' ha'
    rw [lift]
    cases hz : resolveZoneID env rec.spec.zoneRef with
    | error e => exact hfailed e a' ha'
    | ok z' => exact ⟨ha', hzone z' hz⟩
  rintro rfl
  rw [← bind_assoc]
  refine Triple.bind ((adopt_traced env hp hrec).conseq (fun _ h => h) (fun _ _ h => h) hfailed)
    fun found => ?_
  rintro a' ⟨rfl, rfl⟩
  refine Triple.bind ((upsertRecord_traced env hreq h).conseq (fun _ h => h) (fun _ _ h => h)
    hfailed) (fun id a'' h => ?_) a' rfl
  exact ⟨h.1, h.2.1, id, rfl, h.2.2⟩

/-! ### Passes over one object -/

/-- The event is a pass over the first object, whose reference denotes the zone `z` if it denotes
one, or NetBird's, which renders the address of a record of the zone in another text. -/
def Undisturbed (parse : String → Option String) (z : ℕ) (spec : Spec) (w : World) : Event → Prop
  | .reconcile uid env => uid = 0 ∧ env.parseIP = parse ∧
    ∀ z', resolveZoneID env spec.zoneRef = .ok z' → z' = z
  | .foreignUpdate z' id record => z' = z ∧
    ∀ old, (w.account.zones z).get id = some old → Rerendered parse old record
  | _ => False

/-- The only object declares `spec`, and what it has on record is what the scan settles on. -/
structure Tracked (zones₀ : ℕ → Store Record) (z : ℕ) (parse : String → Option String) (spec : Spec)
    (w : World) : Prop where
  own : ∃ rec, w.objects.get 0 = some rec ∧ rec.deleting = false ∧ rec.spec = spec ∧
    Remembers z (matching parse spec) rec.status.recorded w.account
  account : Traced zones₀ z (matching parse spec) w.account

/-- **Passes.** -/
theorem Tracked.reconcile {w : World} (h : Tracked zones₀ z env.parseIP spec w)
    (hzone : ∀ z', resolveZoneID env spec.zoneRef = .ok z' → z' = z) :
    Tracked zones₀ z env.parseIP spec (reconcile env 0 w).2 := by
  obtain ⟨rec, hget, hlive, rfl, hrec⟩ := h.own
  have happly := applyDNSRecord_traced env (matchesSpec_eq env (Mirror.withFinalizer rec).spec)
    hzone h.account hrec
  have hkept : ∀ a', Steadfast z (matching env.parseIP rec.spec) w.account a' →
      Remembers z (matching env.parseIP rec.spec) rec.status.recorded a' :=
    fun a' hsteady i hi => ⟨(hrec i hi).1, hsteady i (hrec i hi).2⟩
  obtain ⟨rec', hget', hlive', hspec, hrec', htraced⟩ := Mirror.reconcile_keeps
    env.fault (mirror env) (I := fun r a' => Remembers z (matching env.parseIP rec.spec) r a' ∧
      Traced zones₀ z (matching env.parseIP rec.spec) a') hget hlive ⟨hrec, h.account⟩ <|
    happly.conseq (fun _ h => h)
      (by
        rintro r a' ⟨htraced, hsteady, id, rfl, hfirst⟩
        exact ⟨⟨fun i hi => ⟨rfl, Option.some.inj hi ▸ hfirst⟩, htraced⟩,
          hkept a' hsteady, htraced⟩)
      fun _ a' h => ⟨hkept a' h.2, h.1⟩
  exact ⟨⟨rec', hget', hlive', hspec, hrec'⟩, htraced⟩

/-- **Renderings.** -/
theorem Tracked.rerender {w : World} (h : Tracked zones₀ z parse spec w) {record : Record}
    (hrecord : ∀ old, (w.account.zones z).get id = some old → Rerendered parse old record) :
    Tracked zones₀ z parse spec (step w (.foreignUpdate z id record)) := by
  have hsame : ∀ old, (w.account.zones z).get id = some old →
      matching parse spec record = matching parse spec old :=
    fun old hold => (hrecord old hold).matching spec
  have hkept : ((step w (.foreignUpdate z id record)).account.zones z).firstID
      (matching parse spec) = (w.account.zones z).firstID (matching parse spec) := by
    show ((w.account.set z ((w.account.zones z).update id record)).zones z).firstID _ = _
    rw [zones_set_self]
    exact Store.firstID_update hsame
  obtain ⟨rec, hget, hlive, hspec, hrec⟩ := h.own
  refine ⟨⟨rec, hget, hlive, hspec, fun i hi => ?_⟩, h.account.set (h.account.once.update hsame)⟩
  exact ⟨(hrec i hi).1, hkept.trans (hrec i hi).2⟩

/-- **Step.** -/
theorem Tracked.step {w : World} (h : Tracked zones₀ z parse spec w) {e : Event}
    (he : Undisturbed parse z spec w e) : Tracked zones₀ z parse spec (step w e) := by
  cases e with
  | reconcile uid env =>
    obtain ⟨rfl, rfl, hzone⟩ := he
    exact h.reconcile hzone
  | foreignUpdate z' id record =>
    obtain ⟨rfl, hrecord⟩ := he
    exact h.rerender hrecord
  | _ => exact he.elim

/-- One new object, and the records there were. -/
def single (zones : ℕ → Store Record) (ns name : String) (spec : Spec) : World :=
  step (initial zones) (.user (.create ns name spec))

theorem tracked_run (zones : ℕ → Store Record) (ns name : String) {es : List Event}
    (hes : Along es fun pre e =>
      Undisturbed parse z spec (run step (single zones ns name spec) pre) e) :
    Tracked zones z parse spec (run step (single zones ns name spec) es) := by
  have hstart : Tracked zones z parse spec (single zones ns name spec) :=
    ⟨⟨_, rfl, rfl, rfl, fun i hi => absurd hi (by simp [fresh])⟩, .refl (zones z), fun _ _ => rfl⟩
  exact run_invariant hes hstart fun _ _ h he => h.step he

/-- The record that was created in the zone, or if none was, the first match that was there
before. -/
def TheRecord (zones : ℕ → Store Record) (z : ℕ) (p : Record → Bool) (a : Account) (id : ℕ) :
    Prop :=
  ((a.zones z).next = (zones z).next ∧ (zones z).firstID p = some id) ∨
    ((zones z).firstID p = none ∧ (a.zones z).next = (zones z).next + 1 ∧ id = (zones z).next)

/-- Whichever calls of the passes fail, and however NetBird renders addresses in between, at most
one record is created; and a pass that applies the object and gets to write its status has the one
record on record. Records are numbered in the order they are created, so the next number tells how
many there have been. -/
def CreatesOnce : Prop :=
  ∀ (parse : String → Option String) (zones : ℕ → Store Record) (z : ℕ) (ns name : String)
    (spec : Spec) (es : List Event) (w : World),
    w = run step (single zones ns name spec) es →
    (Along es fun pre e => Undisturbed parse z spec (run step (single zones ns name spec) pre) e) →
    (w.account.zones z).next ≤ (zones z).next + 1 ∧
      (∀ z', z' ≠ z → w.account.zones z' = zones z') ∧
      ∀ (env : Env) (rec : CR) (r : Recorded) (a : Account),
        Undisturbed parse z spec w (.reconcile 0 env) →
        w.objects.get 0 = some rec →
        applyDNSRecord env (Mirror.withFinalizer rec) w.account = (.ok r, a) →
        env.fault .get = none → env.fault .patchFinalizer = none → env.fault .patchReady = none →
        ∃ rec' id, (step w (.reconcile 0 env)).objects.get 0 = some rec' ∧
          rec'.status.recorded = ⟨some z, some id⟩ ∧
          TheRecord zones z (matching parse spec) (step w (.reconcile 0 env)).account id

theorem createsOnce : CreatesOnce := by
  rintro parse zones z ns name spec es w rfl hes
  have hbefore : Tracked zones z parse spec _ := tracked_run zones ns name hes
  generalize run step (single zones ns name spec) es = w at hbefore ⊢
  refine ⟨hbefore.account.once.next_le, hbefore.account.others, ?_⟩
  intro env rec r a hevent hget happly hcall hfin hready
  obtain ⟨-, rfl, hzone⟩ := id hevent
  have hafter := hbefore.step hevent
  obtain ⟨rec₀, hget₀, hlive, rfl, hrec⟩ := hbefore.own
  obtain rfl := Option.some.inj (hget.symm.trans hget₀)
  have htraced := applyDNSRecord_traced env (matchesSpec_eq env (Mirror.withFinalizer rec).spec)
    hzone hbefore.account hrec
  obtain ⟨-, -, id, rfl, -⟩ := htraced.ok rfl happly
  have hpass : step w (.reconcile 0 env) = ⟨w.objects.update 0 _, a⟩ :=
    Mirror.reconcile_recorded (m := mirror env) hcall hfin hget hlive happly hready
  have hget' : (step w (.reconcile 0 env)).objects.get 0 =
      some (Mirror.asReady (Mirror.withFinalizer rec) ⟨some z, some id⟩) := by
    rw [hpass]
    exact Store.get_update_self hget _
  obtain ⟨rec', hrec', -, -, hremembers⟩ := hafter.own
  obtain rfl := Option.some.inj (hget'.symm.trans hrec')
  exact ⟨_, id, hget', rfl, hafter.account.once.firstID (hremembers id rfl).2⟩

end DNSRecord

end NetbirdOperator
