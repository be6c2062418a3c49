import NetbirdOperator.SetupKey.Rotation

/-!
# What a pass leaves when nothing fails

A pass whose calls all succeed should leave the object settled: a valid key on record, its text in
the Secret, its groups as specified, and a status that says so. The rotation does exactly that,
whatever state the old key and the Secret were in.

Two exits do not. A key that NetBird reports as overused ends the pass with an error, although the
event it records says that the key is being recreated. And the exit for a key that is up to date
writes neither the condition nor the observed generation, so a status that is behind (after an edit
of the specification, or after a rotation that gave up between the Secret and the status) stays
behind for as long as the key is good. `consistent_after_iff` says that there is nothing else.

NetBird shows no key in full after its creation. What the Secret holds is compared by the first
bytes, so the Secret is known to hold the recorded key only if no other key of the object begins
with the same ones. `Plaintexts` states this, with the texts of the minted keys as a function of
the id.

## Main results

* `SetupKey.upToDate_verdict` — the three ways the check can go
* `SetupKey.consistent_of_current`, `consistent_of_rotate` — the two exits without an error
* `SetupKey.consistent_after_iff` — when a pass leaves the object settled
-/

namespace NetbirdOperator

open ControlLoop

namespace SetupKey

open Pass

variable {env : Env} {w : World} {o : CR} {plain : ℕ → String}

/-! ### The state a pass should leave -/

/-- The condition is true and the status is about the current specification. -/
def UpToDateStatus (o : CR) : Prop :=
  (∃ c, o.status.ready = some c ∧ c.status = true) ∧
    o.status.observedGeneration = (o.generation : ℤ)

/-- **The object is settled**, with its key `key` of id `id`. -/
structure Consistent (plain : ℕ → String) (groups : Groups) (w : World) (o : CR) (id : ℕ)
    (key : Key) : Prop where
  object : w.cr = some o
  recorded : o.status.setupKeyID = some id
  get : w.keys.get id = some key
  valid : key.state = .valid
  secret : w.secret = some (plain id)
  autoGroups : getGroupIDs groups o.spec.autoGroups o.ns = .ok key.autoGroups
  status : UpToDateStatus o

/-- **What is known of the texts of the minted keys**: `plain id` is the text the create of `id` was
answered with. What a get shows of a key begins like its text, or is too short to compare, and so is
the Secret unless it has the text of a minted key. -/
structure Plaintexts (plain : ℕ → String) (env : Env) (w : World) (o : CR) : Prop where
  recorded : ∀ id, o.status.setupKeyID = some id → id ∈ w.minted
  issued : ∀ id ∈ w.minted, id < w.keys.next
  shown : ∀ id ∈ w.minted, ∀ key, w.keys.get id = some key →
    key.key.utf8ByteSize < keyPrefixLen ∨ keyPrefix key.key = keyPrefix (plain id)
  distinct : ∀ i ∈ w.minted, ∀ j ∈ w.minted, keyPrefix (plain i) = keyPrefix (plain j) → i = j
  secret : ∀ stored, w.secret = some stored →
    stored.utf8ByteSize < keyPrefixLen ∨ ∃ id ∈ w.minted, stored = plain id
  next : plain w.keys.next = env.plainKey

/-! ### The check -/

/-- The key on record exists: it is `key`. -/
structure Recorded (w : World) (o : CR) (id : ℕ) (key : Key) : Prop where
  recorded : o.status.setupKeyID = some id
  get : w.keys.get id = some key

theorem Recorded.eq {i j : ℕ} {key key' : Key} (h : Recorded w o i key)
    (h' : Recorded w o j key') : i = j ∧ key = key' := by
  obtain rfl := Option.some.inj (h.recorded.symm.trans h'.recorded)
  exact ⟨rfl, Option.some.inj (h.get.symm.trans h'.get)⟩

/-- NetBird reports the key on record as overused. -/
def Overused (w : World) (o : CR) : Prop := ∃ id key, Recorded w o id key ∧ key.state = .overused

/-- The key on record is valid, and the Secret has its text as far as the two can be compared. -/
structure Current (w : World) (o : CR) (id : ℕ) (key : Key) (stored : String) : Prop
    extends Recorded w o id key where
  valid : key.state = .valid
  secret : w.secret = some stored
  samePrefix : samePrefix key.key stored = true

theorem samePrefix_iff {shown stored : String} :
    samePrefix shown stored = true ↔
      keyPrefixLen ≤ shown.utf8ByteSize ∧ keyPrefixLen ≤ stored.utf8ByteSize ∧
        keyPrefix shown = keyPrefix stored := by
  rw [samePrefix, decide_eq_true_iff, not_or, not_or, Nat.not_lt, Nat.not_lt,
    Classical.not_not]

/-- The Secret of a current key has the key's own text: no other minted key begins like it. -/
theorem Current.stored_eq {id : ℕ} {key : Key} {stored : String}
    (h : Current w o id key stored) (hplain : Plaintexts plain env w o) : stored = plain id := by
  obtain ⟨hshown, hstored, hprefix⟩ := samePrefix_iff.mp h.samePrefix
  have hid := hplain.recorded id h.recorded
  have hkey := (hplain.shown id hid key h.get).resolve_left (Nat.not_lt.mpr hshown)
  obtain ⟨j, hj, rfl⟩ := (hplain.secret stored h.secret).resolve_left (Nat.not_lt.mpr hstored)
  rw [hplain.distinct id hid j hj (hkey.symm.trans hprefix)]

/-- The world after the groups of a key are set. -/
def withGroups (w : World) (id : ℕ) (key : Key) (autoGroupIDs : List String) : World :=
  { w with keys := w.keys.update id { key with autoGroups := autoGroupIDs } }

section Calls

variable (hcalls : ∀ c, env.fault c = none)

include hcalls

theorem checkSecret_of_current {id : ℕ} {key : Key} {stored : String}
    (h : Current w o id key stored) (autoGroupIDs : List String) :
    checkSecret env id key autoGroupIDs w = (.ok true, withGroups w id key autoGroupIDs) := by
  have hupdate : updateKey env id autoGroupIDs w = (.ok (), withGroups w id key autoGroupIDs) := by
    rw [updateKey, bind_of_ok (call_of_none (hcalls _) w), bind_of_ok (read_apply _ w), h.get]
    rfl
  rw [checkSecret, bind_of_ok (call_of_none (hcalls _) w), bind_of_ok (read_apply _ w), h.secret]
  dsimp only
  rw [if_pos h.samePrefix, bind_of_ok hupdate]
  rfl

theorem checkSecret_of_changed {id : ℕ} {key : Key}
    (h : ∀ stored, w.secret = some stored → samePrefix key.key stored = false)
    (autoGroupIDs : List String) :
    checkSecret env id key autoGroupIDs w = (.ok false, w) := by
  rw [checkSecret, bind_of_ok (call_of_none (hcalls _) w), bind_of_ok (read_apply _ w)]
  cases hsecret : w.secret with
  | none => rfl
  | some stored =>
    dsimp only
    rw [if_neg (by simp [h stored hsecret])]
    rfl

theorem upToDate_of_not_recorded (h : ∀ id key, ¬ Recorded w o id key)
    (autoGroupIDs : List String) : upToDate env o autoGroupIDs w = (.ok false, w) := by
  rw [upToDate]
  cases hid : o.status.setupKeyID with
  | none => rfl
  | some id =>
    have hget : w.keys.get id = none :=
      Option.eq_none_iff_forall_ne_some.mpr fun key hkey => h id key ⟨hid, hkey⟩
    dsimp only
    rw [getKey, bind_assoc, bind_of_ok (call_of_none (hcalls _) w), bind_of_ok (read_apply _ w),
      hget]
    rfl

theorem upToDate_of_recorded {id : ℕ} {key : Key} (h : Recorded w o id key)
    (autoGroupIDs : List String) :
    upToDate env o autoGroupIDs w =
      (match key.state with
      | .valid => checkSecret env id key autoGroupIDs
      | .overused => Pass.throw .overused
      | .other _ => pure false : M Bool) w := by
  have hget : getKey env id w = (.ok (some key), w) := by
    rw [getKey, bind_of_ok (call_of_none (hcalls _) w), read_apply, h.get]
  rw [upToDate, h.recorded]
  exact (bind_of_ok hget).trans rfl

/-- **The three ways the check can go**: the key is overused, it is current and gets its groups, or
it is to be replaced. -/
theorem upToDate_verdict (w : World) (o : CR) (autoGroupIDs : List String) :
    (Overused w o ∧ upToDate env o autoGroupIDs w = (.error .overused, w)) ∨
    (∃ id key stored, Current w o id key stored ∧
      upToDate env o autoGroupIDs w = (.ok true, withGroups w id key autoGroupIDs)) ∨
    (¬ Overused w o ∧ (∀ id key stored, ¬ Current w o id key stored) ∧
      upToDate env o autoGroupIDs w = (.ok false, w)) := by
  by_cases hrec : ∃ id key, Recorded w o id key
  · obtain ⟨id, key, h⟩ := hrec
    rw [upToDate_of_recorded hcalls h]
    -- Another state than overused rules the first way out.
    have hnot : key.state ≠ .overused → ¬ Overused w o := by
      rintro hstate ⟨id', key', h', hover⟩
      rw [← (h.eq h').2] at hover
      exact hstate hover
    cases hstate : key.state with
    | overused => exact Or.inl ⟨⟨id, key, h, hstate⟩, rfl⟩
    | other name =>
      refine Or.inr (Or.inr ⟨hnot (by simp [hstate]), fun id' key' stored h' => ?_, rfl⟩)
      have hvalid := h'.valid
      rw [← (h.eq h'.toRecorded).2, hstate] at hvalid
      cases hvalid
    | valid =>
      by_cases hstored : ∃ stored, w.secret = some stored ∧ samePrefix key.key stored = true
      · obtain ⟨stored, hsecret, hprefix⟩ := hstored
        have hcurrent : Current w o id key stored := ⟨h, hstate, hsecret, hprefix⟩
        exact Or.inr (Or.inl ⟨id, key, stored, hcurrent,
          checkSecret_of_current hcalls hcurrent autoGroupIDs⟩)
      · refine Or.inr (Or.inr ⟨hnot (by simp [hstate]), fun id' key' stored h' => ?_,
          checkSecret_of_changed hcalls (fun stored hsecret => ?_) autoGroupIDs⟩)
        · have hprefix := h'.samePrefix
          rw [← (h.eq h'.toRecorded).2] at hprefix
          exact hstored ⟨stored, h'.secret, hprefix⟩
        · exact Bool.eq_false_iff.mpr fun hprefix => hstored ⟨stored, hsecret, hprefix⟩
  · have hnone : ∀ id key, ¬ Recorded w o id key := fun id key h => hrec ⟨id, key, h⟩
    refine Or.inr (Or.inr ⟨?_, fun id key stored h => hnone id key h.toRecorded,
      upToDate_of_not_recorded hcalls hnone autoGroupIDs⟩)
    rintro ⟨id, key, h, -⟩
    exact hnone id key h

end Calls

/-! ### The exits -/

/-- The world a rotation leaves. -/
def rotated (env : Env) (w : World) (o : CR) (autoGroupIDs : List String) : World where
  cr := some (asReady (withKey o w.keys.next))
  keys := Ledger.without (w.keys.create (keyRequest env o.spec autoGroupIDs)) o.status.setupKeyID
  secret := some env.plainKey
  minted := w.minted ++ [w.keys.next]

/-- **A rotation settles the object.** The old key had another id, so its deletion does not touch
the new one. -/
theorem consistent_of_rotate {autoGroupIDs : List String}
    (hgroups : getGroupIDs env.groups o.spec.autoGroups o.ns = .ok autoGroupIDs)
    (hplain : Plaintexts plain env w o) :
    Consistent plain env.groups (rotated env w o autoGroupIDs)
      (asReady (withKey o w.keys.next)) w.keys.next (keyRequest env o.spec autoGroupIDs) where
  object := rfl
  recorded := rfl
  get := by
    show (Ledger.without _ o.status.setupKeyID).get _ = _
    cases hid : o.status.setupKeyID with
    | none => exact Store.get_create_next _ _
    | some id =>
      have hne := hplain.issued id (hplain.recorded id hid)
      exact (Store.get_delete_of_ne (Nat.ne_of_gt hne)).trans (Store.get_create_next _ _)
  valid := rfl
  secret := congrArg some hplain.next.symm
  autoGroups := hgroups
  status := ⟨⟨markTrue, rfl, rfl⟩, rfl⟩

/-- **A key that is up to date settles the object if the status did before**, since the exit for it
writes no status. -/
theorem consistent_of_current {id : ℕ} {key : Key} {stored : String} {autoGroupIDs : List String}
    (hgroups : getGroupIDs env.groups o.spec.autoGroups o.ns = .ok autoGroupIDs)
    (hplain : Plaintexts plain env w o) (hcr : w.cr = some o) (h : Current w o id key stored)
    (hstatus : UpToDateStatus o) :
    Consistent plain env.groups (withGroups w id key autoGroupIDs) o id
      { key with autoGroups := autoGroupIDs } where
  object := hcr
  recorded := h.recorded
  get := Store.get_update_self h.get _
  valid := h.valid
  secret := h.secret.trans (congrArg some (h.stored_eq hplain))
  autoGroups := hgroups
  status := hstatus

/-! ### The pass -/

/-- The object with its finalizer. -/
def held (o : CR) : CR := { o with finalizer := true }

section Calls

variable (hcalls : ∀ c, env.fault c = none)

include hcalls

theorem rotate_eq (hfin : o.finalizer = true) (autoGroupIDs : List String) :
    rotate env o autoGroupIDs w =
      (.ok ⟨some resyncInterval⟩, rotated env w o autoGroupIDs) := by
  have hfin' : (asReady (withKey o w.keys.next)).finalizer = true := hfin
  rw [rotate_of_minted (hcalls _) (hcalls _) hfin, handOver, bind_of_ok (call_of_none (hcalls _) _),
    bind_of_ok (modify_apply _ _), bind_of_ok (deleteOldKey_of_none (hcalls _) _ _),
    bind_of_ok (patch_of_none (hcalls _) hfin' _)]
  rfl

/-- A pass over a live object takes the finalizer and sees to the key. -/
theorem reconcile_live (hcr : w.cr = some o) (hlive : o.deleting = false) :
    reconcile env w = ensureKey env (held o) { w with cr := some (held o) } := by
  rw [reconcile, bind_of_ok (call_of_none (hcalls _) w), bind_of_ok (read_apply _ w), hcr]
  dsimp only
  rw [if_neg (by simp [hlive])]
  exact bind_of_ok (patch_of_none (hcalls _) rfl w)

/-- The pass once it has the finalizer. -/
theorem ensureKey_iff (hcr : w.cr = some o) (hfin : o.finalizer = true)
    (hplain : Plaintexts plain env w o) :
    ((∃ r, (ensureKey env o w).1 = .ok r) ∧
      ∃ o' id key, Consistent plain env.groups (ensureKey env o w).2 o' id key) ↔
    (∃ ids, getGroupIDs env.groups o.spec.autoGroups o.ns = .ok ids) ∧ ¬ Overused w o ∧
      ((∃ id key stored, Current w o id key stored) → UpToDateStatus o) := by
  rw [ensureKey]
  cases hgroups : getGroupIDs env.groups o.spec.autoGroups o.ns with
  | error e =>
    have hfail : (Pass.lift (.error (.group e)) : M (List String)) w = (.error (.group e), w) := rfl
    rw [Except.mapError, bind_of_error hfail]
    simp
  | ok ids =>
    have hok : (Pass.lift (.ok ids) : M (List String)) w = (.ok ids, w) := rfl
    rw [Except.mapError, bind_of_ok hok]
    obtain ⟨hover, heq⟩ | ⟨id, key, stored, hcurrent, heq⟩ | ⟨hover, hcurrent, heq⟩ :=
      upToDate_verdict hcalls w o ids
    · rw [bind_of_error heq]
      simp [hover]
    · rw [bind_of_ok heq, if_pos rfl, pure_apply]
      have hnot : ¬ Overused w o := by
        rintro ⟨id', key', h, hstate⟩
        rw [← (hcurrent.toRecorded.eq h).2, hcurrent.valid] at hstate
        cases hstate
      constructor
      · -- The exit leaves the object as it is, so a status that is right was right before.
        rintro ⟨-, o', id', key', h⟩
        obtain rfl := Option.some.inj (hcr.symm.trans h.object)
        exact ⟨⟨ids, rfl⟩, hnot, fun _ => h.status⟩
      · rintro ⟨-, -, hstatus⟩
        exact ⟨⟨_, rfl⟩, o, id, _, consistent_of_current hgroups hplain hcr hcurrent
          (hstatus ⟨id, key, stored, hcurrent⟩)⟩
    · rw [bind_of_ok heq, if_neg (by simp), rotate_eq hcalls hfin]
      refine ⟨fun _ => ⟨⟨ids, rfl⟩, hover, ?_⟩, fun _ => ?_⟩
      · rintro ⟨id, key, stored, h⟩
        exact absurd h (hcurrent id key stored)
      · exact ⟨⟨_, rfl⟩, _, _, _, consistent_of_rotate hgroups hplain⟩

end Calls

/-! The finalizer changes nothing that the check looks at. -/

theorem Plaintexts.held (h : Plaintexts plain env w o) :
    Plaintexts plain env { w with cr := some (held o) } (held o) :=
  ⟨h.recorded, h.issued, h.shown, h.distinct, h.secret, h.next⟩

theorem recorded_held {id : ℕ} {key : Key} :
    Recorded { w with cr := some (held o) } (held o) id key ↔ Recorded w o id key :=
  ⟨fun h => ⟨h.recorded, h.get⟩, fun h => ⟨h.recorded, h.get⟩⟩

theorem current_held {id : ℕ} {key : Key} {stored : String} :
    Current { w with cr := some (held o) } (held o) id key stored ↔ Current w o id key stored :=
  ⟨fun h => ⟨recorded_held.mp h.toRecorded, h.valid, h.secret, h.samePrefix⟩,
    fun h => ⟨recorded_held.mpr h.toRecorded, h.valid, h.secret, h.samePrefix⟩⟩

/-- **When a pass leaves the object settled.** If every call succeeds, a pass over a live object
returns without an error and leaves a valid key on record, its text in the Secret, its groups as
specified and a status that says so, exactly if

* the groups resolve,
* NetBird does not report the key as overused, and
* where the key stays, the status was right before. -/
theorem consistent_after_iff (plain : ℕ → String) (env : Env) (w : World) (o : CR)
    (hcr : w.cr = some o) (hlive : o.deleting = false) (hcalls : ∀ c, env.fault c = none)
    (hplain : Plaintexts plain env w o) :
    ((∃ r, (reconcile env w).1 = .ok r) ∧
      ∃ o' id key, Consistent plain env.groups (reconcile env w).2 o' id key) ↔
    (∃ ids, getGroupIDs env.groups o.spec.autoGroups o.ns = .ok ids) ∧ ¬ Overused w o ∧
      ((∃ id key stored, Current w o id key stored) → UpToDateStatus o) := by
  rw [reconcile_live hcalls hcr hlive, ensureKey_iff hcalls rfl rfl hplain.held]
  simp only [Overused, recorded_held, current_held]
  rfl

/-! ### The two exits in a run -/

/-- No call fails, the groups resolve by name, and the next key has another text. -/
def grouped : Env :=
  { calm with
    groups := { calm.groups with getByName := fun name => .ok name }
    plainKey := "E5F6G7H8"
    shownKey := "E5F6G****" }

/-- The texts of the keys of the run. -/
def sampleTexts (id : ℕ) : String := if id = 0 then calm.plainKey else grouped.plainKey

/-- The object after its first pass, with the given generation and groups. -/
def settledObject (generation : ℕ) (autoGroups : List GroupReference) : CR where
  ns := "net"
  name := "router"
  generation := generation
  deleting := false
  finalizer := true
  spec := { name := "router", ephemeral := true, autoGroups := autoGroups }
  status := ⟨1, some markTrue, some 0⟩

/-- The groups of the object are edited after its first pass. -/
def editedRun : List Event := [.reconcile calm, .edit (settledObject 2 [⟨"ops", none, none⟩]).spec]

/-- The first key is used up. -/
def overusedRun : List Event :=
  [.reconcile calm,
    .foreignUpdate 0 { keyRequest calm (settledObject 1 []).spec [] with state := .overused }]

/-- While there is one key and the Secret has its text or is emptied, the texts are as they should
be. -/
theorem plaintexts_of_first (hid : o.status.setupKeyID = some 0) (hminted : w.minted = [0])
    (hnext : w.keys.next = 1) (hsecret : w.secret = some calm.plainKey ∨ w.secret = some "")
    (hkey : (w.keys.get 0).map Key.key = some calm.shownKey) :
    Plaintexts sampleTexts grouped w o where
  recorded id h := by
    obtain rfl := Option.some.inj (hid.symm.trans h)
    rw [hminted]
    decide
  issued := by
    rw [hminted, hnext]
    decide
  shown := by
    rw [hminted]
    intro id hid' key hget
    obtain rfl := List.mem_singleton.mp hid'
    rw [hget] at hkey
    rw [Option.some.inj hkey]
    exact Or.inr (by decide +kernel)
  distinct := by
    rw [hminted]
    intro i hi j hj _
    rw [List.mem_singleton.mp hi, List.mem_singleton.mp hj]
  secret stored h := by
    rcases hsecret with hsecret | hsecret
    · obtain rfl := Option.some.inj (hsecret.symm.trans h)
      exact Or.inr ⟨0, by rw [hminted]; decide, rfl⟩
    · obtain rfl := Option.some.inj (hsecret.symm.trans h)
      exact Or.inl (by decide)
  next := by
    rw [hnext]
    rfl

/-- **Two passes without a failed call that do not settle the object.** A key that is overused is an
error. A key that is up to date leaves the status about the generation before the edit. -/
theorem overused_and_edited_not_consistent :
    ((after overusedRun).cr = some (settledObject 1 []) ∧ (∀ c, grouped.fault c = none) ∧
      Plaintexts sampleTexts grouped (after overusedRun) (settledObject 1 []) ∧
      (reconcile grouped (after overusedRun)).1 = .error .overused) ∧
    ((after editedRun).cr = some (settledObject 2 [⟨"ops", none, none⟩]) ∧
      (∀ c, grouped.fault c = none) ∧
      Plaintexts sampleTexts grouped (after editedRun) (settledObject 2 [⟨"ops", none, none⟩]) ∧
      (reconcile grouped (after editedRun)).1 = .ok ⟨some resyncInterval⟩ ∧
      ¬ ∃ o id key, Consistent sampleTexts grouped.groups (reconcile grouped (after editedRun)).2
        o id key) := by
  have hedited : (reconcile grouped (after editedRun)).2.cr =
      some (settledObject 2 [⟨"ops", none, none⟩]) := by decide +kernel
  refine ⟨⟨by decide +kernel, fun _ => rfl, ?_, by rfl⟩, by decide +kernel, fun _ => rfl, ?_,
    by rfl, ?_⟩
  · exact plaintexts_of_first rfl (by decide +kernel) (by decide +kernel) (by decide +kernel)
      (by decide +kernel)
  · exact plaintexts_of_first rfl (by decide +kernel) (by decide +kernel) (by decide +kernel)
      (by decide +kernel)
  · rintro ⟨o, id, key, h⟩
    obtain rfl := Option.some.inj (hedited.symm.trans h.object)
    exact absurd h.status.2 (by decide)

/-- The Secret is emptied after the first pass. -/
def emptiedRun : List Event := [.reconcile calm, .foreignSecret (some "")]

/-- The key whose Secret was emptied is replaced, and the object is settled. -/
theorem consistent_after_iff_emptied :
    (after emptiedRun).cr = some (settledObject 1 []) ∧
      Plaintexts sampleTexts grouped (after emptiedRun) (settledObject 1 []) ∧
      (∃ r, (reconcile grouped (after emptiedRun)).1 = .ok r) ∧
      ∃ o id key, Consistent sampleTexts grouped.groups (reconcile grouped (after emptiedRun)).2
        o id key := by
  have hcr : (after emptiedRun).cr = some (settledObject 1 []) := by decide +kernel
  have hplain : Plaintexts sampleTexts grouped (after emptiedRun) (settledObject 1 []) :=
    plaintexts_of_first rfl (by decide +kernel) (by decide +kernel) (by decide +kernel)
      (by decide +kernel)
  refine ⟨hcr, hplain, (consistent_after_iff sampleTexts grouped _ _ hcr rfl (fun _ => rfl)
    hplain).mpr ⟨⟨[], rfl⟩, ?_, fun _ => ⟨⟨markTrue, rfl, rfl⟩, rfl⟩⟩⟩
  rintro ⟨id, key, h, hstate⟩
  have hvalid : ((after emptiedRun).keys.get 0).map Key.state = some .valid := by decide +kernel
  obtain rfl : 0 = id := Option.some.inj h.recorded
  rw [h.get, Option.map_some, hstate] at hvalid
  cases hvalid

end SetupKey

end NetbirdOperator
