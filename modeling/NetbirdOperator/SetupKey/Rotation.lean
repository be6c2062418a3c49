import NetbirdOperator.ControlLoop.Ledger
import NetbirdOperator.SetupKey.Model

/-!
# What a rotation can leave behind

A rotation mints the new key, puts its id in the status, hands the key out in the Secret, and only
then deletes the old one. The id of the old key is nowhere but in the status, so a rotation that
gives up after the status is overwritten forgets the old key, and one that gives up before forgets
the new one. Later passes succeed and do not know (`rotated_key_left_behind`).

The other ways a pass can fail lose nothing. `Careful` is the condition that the id of a minted key
reaches the status, and that where there is an old key to delete the rotation gets to its end. Under
it the keys of the run are accounted for in every state: the only one that can exist is the one on
record.

## Main results

* `SetupKey.Accounted.rotate`, `Accounted.step` — what a rotation and every other event keep
* `SetupKey.rotated_key_left_behind` — a failed call that leaves a key behind for good
* `SetupKey.minted_keys_accounted` — careful runs leave none behind
-/

namespace NetbirdOperator

open ControlLoop

namespace SetupKey

open Pass

variable {env : Env} {w w' : World} {o : CR} {ev : Event} {id : ℕ}

/-! ### Accounted keys -/

/-- The id the object has on record. -/
def recordedID (w : World) : Option ℕ := w.cr.bind fun o => o.status.setupKeyID

/-- Every minted key that exists is the one on record, and a record is held by the finalizer. -/
structure Accounted (w : World) : Prop where
  minted : ∀ id ∈ w.minted, w.keys.Has id → recordedID w = some id
  finalizer : ∀ o, w.cr = some o → o.finalizer = false → o.status.setupKeyID = none

/-- **The condition on an event.** In a pass, the patch of the status with a new id does not fail;
and if the key on record exists, neither do the Secret's apply and the deletion of the old key. -/
def Careful (w : World) : Event → Prop
  | .reconcile env =>
    env.fault .patchKeyID = none ∧ ∀ id ∈ recordedID w, w.keys.Has id →
      env.fault .applySecret = none ∧ env.fault .deleteOldKey = none
  | _ => True

instance (w : World) (ev : Event) : Decidable (Careful w ev) := by
  cases ev <;> dsimp only [Careful] <;> infer_instance

/-- A patch that goes through writes the object, if that has its finalizer. -/
theorem patch_of_none {c : Call} (h : env.fault c = none) (hfin : o.finalizer = true) (w : World) :
    patch env c o w = (.ok (), { w with cr := some o }) := by
  rw [patch, bind_of_ok (call_of_none h w), modify_apply, if_neg (by simp [hfin])]

theorem deleteOldKey_of_none (h : env.fault .deleteOldKey = none) (old : Option ℕ) (w : World) :
    deleteOldKey env old w = (.ok (), { w with keys := Ledger.without w.keys old }) := by
  cases old with
  | none => rfl
  | some id =>
    rw [deleteOldKey, deleteKey, bind_of_ok (call_of_none h w)]
    rfl

/-- While there is an object, a minted key that exists is the one in its status. -/
theorem Accounted.recorded (h : Accounted w) (hcr : w.cr = some o) (hid : id ∈ w.minted)
    (hhas : w.keys.Has id) : o.status.setupKeyID = some id := by
  have hrec := h.minted id hid hhas
  rw [recordedID, hcr] at hrec
  exact hrec

/-- An object with the finalizer accounts for the minted keys if the one in its status is the only
one that exists. -/
theorem accounted_of_finalizer (hcr : w.cr = some o) (hfin : o.finalizer = true)
    (hkeys : ∀ id ∈ w.minted, w.keys.Has id → o.status.setupKeyID = some id) : Accounted w := by
  refine ⟨fun id hid hhas => ?_, fun o' ho hf => ?_⟩
  · rw [recordedID, hcr]
    exact hkeys id hid hhas
  · obtain rfl := Option.some.inj (hcr.symm.trans ho)
    exact absurd (hf.symm.trans hfin) (by simp)

/-- Fewer keys, with the same record. -/
theorem Accounted.of_sub (h : Accounted w) (hcr : w'.cr = w.cr) (hminted : w'.minted = w.minted)
    (hkeys : ∀ id, w'.keys.Has id → w.keys.Has id) : Accounted w' := by
  refine ⟨fun id hid hhas => ?_, fun o ho => h.finalizer o (hcr ▸ ho)⟩
  rw [recordedID, hcr]
  exact h.minted id (hminted ▸ hid) (hkeys id hhas)

/-- Writing the object keeps the keys accounted for if it keeps the record. -/
theorem Accounted.write (h : Accounted w) {o o' : CR} (hcr : w.cr = some o)
    (hid : o'.status.setupKeyID = o.status.setupKeyID) (hfin : o'.finalizer = true) :
    Accounted { w with cr := some o' } :=
  accounted_of_finalizer rfl hfin fun _ hid' hhas => hid.trans (h.recorded hcr hid' hhas)

/-! ### Passes that rotate nothing -/

/-- The keys are accounted for and satisfy `P`, and the object is `o`. -/
def Holds (P : Store Key → Prop) (o : CR) (w : World) : Prop :=
  Accounted w ∧ w.cr = some o ∧ P w.keys

variable {P : Store Key → Prop}

theorem patch_triple {c : Call} {o' : CR} (hid : o'.status.setupKeyID = o.status.setupKeyID)
    (hfin : o'.finalizer = true) :
    Triple (Holds P o) (patch env c o') (fun _ => Holds P o') fun _ => Accounted := by
  refine Triple.bind (call_triple fun _ _ h => h.1) fun _ w h => ?_
  show Holds P o' { w with cr := if o'.deleting ∧ ¬ o'.finalizer then none else some o' }
  rw [if_neg (by simp [hfin])]
  exact ⟨h.1.write h.2.1 hid hfin, rfl, h.2.2⟩

/-- A call and a read after it. -/
theorem read_triple {α : Type} (c : Call) (f : World → α) :
    Triple (Holds P o) (do call env c; Pass.read f) (fun _ => Holds P o) fun _ => Accounted :=
  Triple.bind (call_triple fun _ _ h => h.1) fun _ => Triple.read (Q := fun _ => Holds P o)

section Check

variable (hP : ∀ keys id key, P keys → P (keys.update id key)) (autoGroupIDs : List String)

include hP

theorem updateKey_triple (id : ℕ) :
    Triple (Holds P o) (updateKey env id autoGroupIDs) (fun _ => Holds P o)
      fun _ => Accounted := by
  refine Triple.bind (call_triple fun _ _ h => h.1) fun _ => ?_
  refine Triple.bind (Triple.read (Q := fun _ => Holds P o)) fun key => ?_
  cases key with
  | none => exact fun _ h => h.1
  | some key =>
    exact fun w h => ⟨h.1.of_sub rfl rfl fun _ => Store.has_update.mp, h.2.1, hP _ _ _ h.2.2⟩

theorem checkSecret_triple (id : ℕ) (key : Key) :
    Triple (Holds P o) (checkSecret env id key autoGroupIDs) (fun _ => Holds P o)
      fun _ => Accounted := by
  refine Triple.bind (call_triple fun _ _ h => h.1) fun _ => ?_
  refine Triple.bind (Triple.read (Q := fun _ => Holds P o)) fun secret => ?_
  cases secret with
  | none => exact fun _ h => h
  | some storedKey =>
    dsimp only
    split
    · exact Triple.bind (updateKey_triple hP autoGroupIDs id) fun _ _ h => h
    · exact fun _ h => h

/-- The check changes at most the groups of the key. -/
theorem upToDate_triple :
    Triple (Holds P o) (upToDate env o autoGroupIDs) (fun _ => Holds P o) fun _ => Accounted := by
  rw [upToDate]
  cases o.status.setupKeyID with
  | none => exact fun _ h => h
  | some id =>
    refine Triple.bind (read_triple .getKey fun w => w.keys.get id) fun key => ?_
    cases key with
    | none => exact fun _ h => h
    | some key =>
      dsimp only
      cases key.state with
      | overused => exact fun _ h => h.1
      | other name => exact fun _ h => h
      | valid => exact checkSecret_triple hP autoGroupIDs id key

end Check

/-! ### Rotations -/

/-- The end of a rotation deletes keys and keeps the record. -/
theorem handOver_triple (old : Option ℕ) (hfin : o.finalizer = true) :
    Triple (fun w => Accounted w ∧ w.cr = some o) (handOver env o old) (fun _ => Accounted)
      fun _ => Accounted := by
  refine Triple.bind (call_triple fun _ _ h => h.1) fun _ => ?_
  refine Triple.bind (Q := fun _ => Holds (fun _ => True) o)
    (fun w h => ⟨h.1.of_sub rfl rfl fun _ => id, h.2, trivial⟩) fun _ => ?_
  refine Triple.bind (Q := fun _ => Holds (fun _ => True) o) ?_ fun _ => ?_
  · cases old with
    | none => exact fun _ h => h
    | some i =>
      refine Triple.bind (call_triple fun _ _ h => h.1) fun _ w h => ?_
      exact ⟨h.1.of_sub rfl rfl fun _ hhas => (Store.has_delete.mp hhas).1, h.2.1, trivial⟩
  · exact Triple.bind (patch_triple rfl hfin) fun _ _ h => h.1

/-- Where the old key is all that is not accounted for, a rotation that gets to its end deletes
it. -/
theorem handOver_deletes {i : ℕ} (hsecret : env.fault .applySecret = none)
    (hdelete : env.fault .deleteOldKey = none) (hfin : o.finalizer = true) (hcr : w.cr = some o)
    (hkeys : ∀ id ∈ w.minted, w.keys.Has id → id ≠ i → o.status.setupKeyID = some id) :
    Accounted (handOver env o (some i) w).2 := by
  have hdone : Accounted { w with secret := some env.plainKey, keys := w.keys.delete i } := by
    refine accounted_of_finalizer hcr hfin fun id hid hhas => ?_
    obtain ⟨hhas, hne⟩ := Store.has_delete.mp hhas
    exact hkeys id hid hhas hne
  have hrun : handOver env o (some i) w =
      (do patch env .patchReady (asReady o); pure ⟨some resyncInterval⟩ : M Result)
        { w with secret := some env.plainKey, keys := w.keys.delete i } := by
    rw [handOver, bind_of_ok (call_of_none hsecret w), bind_of_ok (modify_apply _ _)]
    exact bind_of_ok (deleteOldKey_of_none hdelete (some i) _)
  rw [hrun]
  refine Triple.final (P := Holds (fun _ => True) o) ?_ ⟨hdone, hcr, trivial⟩
  exact Triple.bind (patch_triple rfl hfin) fun _ _ h => h.1

/-- Once the new key is minted and on record, the rotation hands over. -/
theorem rotate_of_minted {autoGroupIDs : List String} (hcreate : env.fault .createKey = none)
    (hpatch : env.fault .patchKeyID = none) (hfin : o.finalizer = true) :
    rotate env o autoGroupIDs w =
      handOver env (withKey o w.keys.next) o.status.setupKeyID
        { w with
          cr := some (withKey o w.keys.next)
          keys := w.keys.create (keyRequest env o.spec autoGroupIDs)
          minted := w.minted ++ [w.keys.next] } := by
  have hmint : createKey env (keyRequest env o.spec autoGroupIDs) w =
      (.ok w.keys.next, { w with
        keys := w.keys.create (keyRequest env o.spec autoGroupIDs)
        minted := w.minted ++ [w.keys.next] }) := by
    rw [createKey, bind_of_ok (call_of_none hcreate w)]
    rfl
  have hfin' : (withKey o w.keys.next).finalizer = true := hfin
  rw [rotate, bind_of_ok hmint, bind_of_ok (patch_of_none hpatch hfin' _)]

/-- **A rotation** leaves the keys accounted for if the new id reaches the status and, where the old
key exists, the rotation gets to its end. -/
theorem Accounted.rotate (h : Accounted w) (hcr : w.cr = some o) (hfin : o.finalizer = true)
    (hpatch : env.fault .patchKeyID = none)
    (hold : ∀ i, o.status.setupKeyID = some i → w.keys.Has i →
      env.fault .applySecret = none ∧ env.fault .deleteOldKey = none) (autoGroupIDs : List String) :
    Accounted (rotate env o autoGroupIDs w).2 := by
  cases hcreate : env.fault .createKey with
  | some f =>
    have hfail : createKey env (keyRequest env o.spec autoGroupIDs) w =
        (.error (.api .createKey f), w) :=
      bind_of_error (call_of_some hcreate w)
    rw [SetupKey.rotate, bind_of_error hfail]
    exact h
  | none =>
    rw [rotate_of_minted hcreate hpatch hfin]
    have hfin' : (withKey o w.keys.next).finalizer = true := hfin
    have hkeys : ∀ id ∈ w.minted ++ [w.keys.next],
        (w.keys.create (keyRequest env o.spec autoGroupIDs)).Has id → id ≠ w.keys.next →
          o.status.setupKeyID = some id ∧ w.keys.Has id := by
      intro id hid hhas hne
      have hminted : id ∈ w.minted := by simpa [hne] using hid
      have hhas := (Store.has_create.mp hhas).resolve_right hne
      exact ⟨h.recorded hcr hminted hhas, hhas⟩
    by_cases hexists : ∃ i, o.status.setupKeyID = some i ∧ w.keys.Has i
    · obtain ⟨i, hi, hhas⟩ := hexists
      obtain ⟨hsecret, hdelete⟩ := hold i hi hhas
      rw [hi]
      refine handOver_deletes hsecret hdelete hfin' rfl fun id hid hhas' hne => ?_
      by_cases hnext : id = w.keys.next
      · rw [hnext]
        rfl
      · exact absurd (Option.some.inj (hi.symm.trans (hkeys id hid hhas' hnext).1)).symm hne
    · -- There is no old key, so the new one accounts for all there is.
      refine (handOver_triple _ hfin').final
        ⟨accounted_of_finalizer rfl hfin' fun id hid hhas => ?_, rfl⟩
      by_cases hnext : id = w.keys.next
      · rw [hnext]
        rfl
      · exact absurd ⟨id, hkeys id hid hhas hnext⟩ hexists

/-! ### A pass -/

theorem reconcileLive_accounted (h : Accounted w) (hcr : w.cr = some o)
    (hcareful : Careful w (.reconcile env)) : Accounted (reconcileLive env o w).2 := by
  -- The key on record when the rotation starts is the one on record when the pass starts.
  let P : Store Key → Prop := fun keys => ∀ id, keys.Has id → w.keys.Has id
  have hP : ∀ keys id key, P keys → P (keys.update id key) :=
    fun keys id key h i hi => h i (Store.has_update.mp hi)
  refine Triple.final (P := Holds P o) ?_ ⟨h, hcr, fun _ => id⟩
  refine Triple.bind (patch_triple rfl rfl) fun _ => ?_
  refine Triple.bind (Q := fun _ => Holds P { o with finalizer := true }) ?_ fun autoGroupIDs => ?_
  · intro w' hw'
    rw [lift]
    cases getGroupIDs env.groups o.spec.autoGroups o.ns with
    | error e => exact hw'.1
    | ok ids => exact hw'
  refine Triple.bind (upToDate_triple hP autoGroupIDs) fun ok => ?_
  cases ok with
  | true => exact fun _ h => h.1
  | false =>
    refine Triple.of_final fun w' hw' => ?_
    refine hw'.1.rotate hw'.2.1 rfl hcareful.1 (fun i hi hhas => ?_) autoGroupIDs
    exact hcareful.2 i (by rw [recordedID, hcr]; exact hi) (hw'.2.2 i hhas)

/-- A deletion lets the object go only after the key on record is deleted. -/
theorem reconcileDelete_accounted (h : Accounted w) (hcr : w.cr = some o)
    (hdel : o.deleting = true) : Accounted (reconcileDelete env o w).2 := by
  refine Triple.final (P := fun w' => w' = w) (G := Accounted) ?_ rfl
  have hfail : ∀ w', w' = w → Accounted w' := by
    rintro w' rfl
    exact h
  refine Triple.bind (Q := fun _ w' => Accounted w' ∧
    ∀ id ∈ w'.minted, ¬ w'.keys.Has id) ?_ fun _ => ?_
  · rw [deleteRecorded]
    cases hid : o.status.setupKeyID with
    | none =>
      rintro w' rfl
      refine ⟨h, fun id hid' hhas => ?_⟩
      exact absurd (hid.symm.trans (h.recorded hcr hid' hhas)) (by simp)
    | some i =>
      refine Triple.bind (call_triple fun _ => hfail) fun _ => ?_
      rintro w' rfl
      refine ⟨h.of_sub rfl rfl fun _ hhas => (Store.has_delete.mp hhas).1, fun id hid' hhas => ?_⟩
      obtain ⟨hhas, hne⟩ := Store.has_delete.mp hhas
      exact hne (Option.some.inj ((h.recorded hcr hid' hhas).symm.trans hid))
  · refine Triple.bind (Q := fun _ => Accounted) ?_ fun _ _ h => h
    refine Triple.bind (call_triple fun _ _ h => h.1) fun _ w' hw' => ?_
    show Accounted { w' with cr := if o.deleting ∧ ¬ false then none else some _ }
    rw [if_pos (by simp [hdel])]
    exact ⟨fun id hid hhas => absurd hhas (hw'.2 id hid), fun o' ho => absurd ho (by simp)⟩

theorem Accounted.reconcile (h : Accounted w) (hcareful : Careful w (.reconcile env)) :
    Accounted (reconcile env w).2 := by
  refine Triple.final (P := fun w' => w' = w) (G := Accounted) ?_ rfl
  have hfail : ∀ w', w' = w → Accounted w' := by
    rintro w' rfl
    exact h
  refine Triple.bind (call_triple fun _ => hfail) fun _ => ?_
  refine Triple.bind (Q := fun found w' => w' = w ∧ found = w.cr) (fun w' h => ⟨h, by rw [h]⟩)
    fun found => Triple.assume fun hfound => ?_
  cases found with
  | none => exact fun w' hw' => hfail w' hw'
  | some o =>
    dsimp only
    split
    · next hdel =>
      refine Triple.of_final ?_
      rintro w' rfl
      exact reconcileDelete_accounted h hfound.symm hdel
    · refine Triple.of_final ?_
      rintro w' rfl
      exact reconcileLive_accounted h hfound.symm hcareful

/-- Every event keeps the keys accounted for, passes if they are careful. -/
theorem Accounted.step (h : Accounted w) (hcareful : Careful w ev) : Accounted (step w ev) := by
  cases ev with
  | reconcile env => exact h.reconcile hcareful
  | edit spec =>
    refine ⟨fun id hid hhas => ?_, fun o ho hf => ?_⟩
    · rw [← h.minted id hid hhas]
      show (w.cr.map _).bind _ = w.cr.bind _
      cases w.cr <;> rfl
    · obtain ⟨o', ho', rfl⟩ := Option.map_eq_some_iff.mp ho
      exact h.finalizer o' ho' hf
  | delete =>
    refine ⟨fun id hid hhas => ?_, fun o ho hf => ?_⟩
    · -- An object that goes at once has no key on record, so no minted key exists.
      have hrec := h.minted id hid hhas
      obtain ⟨o, ho, hid'⟩ := Option.bind_eq_some_iff.mp hrec
      have hfin : o.finalizer = true := by
        by_contra hfin
        exact absurd (hid'.symm.trans (h.finalizer o ho (by simpa using hfin))) (by simp)
      show (w.cr.bind _).bind _ = _
      rw [ho, Option.bind_some, if_pos hfin]
      exact hid'
    · obtain ⟨o', ho', hif⟩ := Option.bind_eq_some_iff.mp ho
      split at hif
      · next hfin =>
        obtain rfl := Option.some.inj hif
        exact absurd (hf.symm.trans hfin) (by simp)
      · exact absurd hif (by simp)
  | foreignUpdate id key => exact h.of_sub rfl rfl fun _ => Store.has_update.mp
  | foreignDelete id => exact h.of_sub rfl rfl fun _ hhas => (Store.has_delete.mp hhas).1
  | foreignSecret secret => exact h.of_sub rfl rfl fun _ => id

/-! ### Runs -/

/-- No call fails, and there are no groups to resolve. -/
def calm : Env :=
  ⟨⟨fun _ => .error .notFound, fun _ => .error .notFound, fun _ _ => .error .notFound⟩,
    "A1B2C3D4", "A1B2C****", fun _ => none⟩

/-- The deletion of the old key fails. -/
def failing : Env := { calm with fault := fun c => if c = .deleteOldKey then some .other else none }

/-- One object in an empty account, after the events. -/
def after (es : List Event) : World :=
  run step (initial "net" "router" { name := "router", ephemeral := true } .empty none) es

/-- The Secret of a key is deleted, and the rotation that follows cannot delete the old key. -/
def failedRotation : List Event := [.reconcile calm, .foreignSecret none, .reconcile failing]

/-- **A key left behind.** The failed pass is followed by one that returns no error, and the object
is deleted without any failure, but the first key it minted stays. -/
theorem rotated_key_left_behind :
    (reconcile calm (after failedRotation)).1 = .ok ⟨some resyncInterval⟩ ∧
      0 ∈ (after (failedRotation ++ [.reconcile calm])).minted ∧
      (after (failedRotation ++ [.reconcile calm])).keys.Has 0 ∧
      recordedID (after (failedRotation ++ [.reconcile calm])) = some 1 ∧
      (after (failedRotation ++ [.reconcile calm, .delete, .reconcile calm])).cr = none ∧
      (after (failedRotation ++ [.reconcile calm, .delete, .reconcile calm])).keys.Has 0 :=
  ⟨rfl, by decide, by decide, by decide, by decide, by decide⟩

/-- **Minted keys are accounted for.** In every state of a careful run, a key that a pass minted and
that still exists is the one on record. So a pass on a live object leaves no other behind, and none
is left when the object is gone. -/
theorem minted_keys_accounted (ns name : String) (spec : Spec) (keys : Store Key)
    (secret : Option String) (es : List Event) {w₀ w : World}
    (hw₀ : w₀ = initial ns name spec keys secret) (hw : w = run step w₀ es)
    (hcareful : Along es fun pre ev => Careful (run step w₀ pre) ev) :
    (∀ id ∈ w.minted, w.keys.Has id → ∃ o, w.cr = some o ∧ o.status.setupKeyID = some id) ∧
      (w.cr = none → ∀ id ∈ w.minted, ¬ w.keys.Has id) := by
  have haccounted : Accounted w := by
    rw [hw]
    refine run_invariant (C := fun w ev => Careful w ev) hcareful ?_ fun w ev h hev => h.step hev
    rw [hw₀]
    refine ⟨fun id hid => absurd hid List.not_mem_nil, fun o ho _ => ?_⟩
    obtain rfl := Option.some.inj ho
    rfl
  refine ⟨fun id hid hhas => ?_, fun hgone id hid hhas => ?_⟩
  · exact Option.bind_eq_some_iff.mp (haccounted.minted id hid hhas)
  · have hrec := haccounted.minted id hid hhas
    rw [recordedID, hgone] at hrec
    exact absurd hrec (by simp)

/-- The status patch of a first pass goes through and its Secret's apply does not. The next pass
rotates the key, and the object is deleted. -/
def repairedRotation : List Event :=
  [.reconcile { calm with fault := fun c => if c = .applySecret then some .other else none },
    .reconcile calm, .delete, .reconcile calm]

/-- Both keys of the run are gone with the object. -/
theorem minted_keys_accounted_repaired :
    (after repairedRotation).minted = [0, 1] ∧
      ∀ id ∈ (after repairedRotation).minted, ¬ (after repairedRotation).keys.Has id :=
  ⟨by decide, (minted_keys_accounted "net" "router" { name := "router", ephemeral := true } .empty
    none repairedRotation rfl rfl (by decide)).2 (by decide)⟩

end SetupKey

end NetbirdOperator
