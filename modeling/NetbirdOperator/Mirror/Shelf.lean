import NetbirdOperator.Mirror

/-!
# A collection inside an account

Most kinds mirror their object to one collection of the NetBird account: the networks, the resources
of one network, the routers of one network. They all do it the same way. The recorded id is checked
with a GET, since NetBird answers an update of an object that is gone with errors of all kinds; an
object that is still there is updated, and otherwise one is created.

`Shelf A α` is the place of a collection in an account, and its operations are the requests to it as
far as a pass sees them.

## Main results

* `Mirror.Shelf.upsert_triple` — an upsert updates what is recorded, or creates it anew
* `Mirror.Shelf.upsert_of_gone` — it needs no update to replace what is gone
* `Mirror.Shelf.delete_gone` — a delete that returns, or answers 404, leaves nothing
-/

namespace NetbirdOperator

open ControlLoop

namespace Mirror

open Pass

/-- The place of a collection in an account. -/
structure Shelf (A α : Type) where
  view : A → Store α
  set : A → Store α → A
  view_set : ∀ a s, view (set a s) = s

/-- The calls of an upsert. -/
structure UpsertCalls (C : Type) where
  get : C
  update : C
  create : C

namespace Shelf

variable {A α C : Type} (sh : Shelf A α) (fault : Call C → Option Fault)

/-! ### Requests -/

/-- A GET, as far as it is used: whether there is such an object. -/
def has (c : C) (id : ℕ) : Pass A (Err C) Bool := do
  call fault (.own c)
  Pass.read fun a => ((sh.view a).get id).isSome

/-- An update, answered with the id. -/
def update (c : C) (id : ℕ) (req : α) : Pass A (Err C) ℕ := do
  call fault (.own c)
  let found ← Pass.read fun a => ((sh.view a).get id).isSome
  if found then do
    Pass.modify fun a => sh.set a ((sh.view a).update id req)
    pure id
  else Pass.throw (.notFound c)

/-- A create, answered with a fresh id. -/
def create (c : C) (req : α) : Pass A (Err C) ℕ := do
  call fault (.own c)
  let id ← Pass.read fun a => (sh.view a).next
  Pass.modify fun a => sh.set a ((sh.view a).create req)
  pure id

def delete (c : C) (id : ℕ) : Pass A (Err C) Unit := do
  call fault (.own c)
  let found ← Pass.read fun a => (sh.view a).get id
  match found with
  | none => Pass.throw (.notFound c)
  | some _ => Pass.modify fun a => sh.set a ((sh.view a).delete id)

/-- Update what is recorded if it is still there, and create it otherwise. -/
def upsert (calls : UpsertCalls C) (recorded : Option ℕ) (req : α) : Pass A (Err C) ℕ := do
  let verified ← verifyNetbirdID recorded (sh.has fault calls.get)
  match verified with
  | some id => sh.update fault calls.update id req
  | none => sh.create fault calls.create req

/-- An upsert gets to its create: nothing is recorded, or a GET says that it is gone. -/
def Creates (calls : UpsertCalls C) (recorded : Option ℕ) (a : A) : Prop :=
  fault (.own calls.create) = none ∧
    ∀ id ∈ recorded, fault (.own calls.get) = none ∧ ¬ (sh.view a).Has id

instance (calls : UpsertCalls C) (recorded : Option ℕ) (a : A) :
    Decidable (sh.Creates fault calls recorded a) :=
  inferInstanceAs (Decidable (_ ∧ ∀ id ∈ recorded, _ ∧ _))

/-! ### What they do -/

variable {sh fault} {calls : UpsertCalls C} {recorded : Option ℕ} {req : α} {a : A} {c : C} {id : ℕ}

/-- **The ways an upsert can return.** -/
inductive Upserted (sh : Shelf A α) (recorded : Option ℕ) (req : α) (a : A) : ℕ → A → Prop
  | updated {id : ℕ} (hrec : recorded = some id) (hhas : (sh.view a).Has id) :
      Upserted sh recorded req a id (sh.set a ((sh.view a).update id req))
  | created (hgone : ∀ id, recorded = some id → ¬ (sh.view a).Has id) :
      Upserted sh recorded req a (sh.view a).next (sh.set a ((sh.view a).create req))

theorem has_triple (c : C) (id : ℕ) :
    Triple (fun a' => a' = a) (sh.has fault c id)
      (fun found a' => a' = a ∧ (found = true ↔ (sh.view a).Has id)) fun _ a' => a' = a := by
  refine Triple.bind (call_triple fun _ _ h => h) fun _ => ?_
  rintro a' rfl
  exact ⟨rfl, Store.isSome_get⟩

theorem create_triple (c : C) (req : α) :
    Triple (fun a' => a' = a) (sh.create fault c req)
      (fun id a' => id = (sh.view a).next ∧ a' = sh.set a ((sh.view a).create req))
      fun _ a' => a' = a := by
  refine Triple.bind (call_triple fun _ _ h => h) fun _ => ?_
  rintro a' rfl
  exact ⟨rfl, rfl⟩

theorem update_triple (c : C) (req : α) (hhas : (sh.view a).Has id) :
    Triple (fun a' => a' = a) (sh.update fault c id req)
      (fun i a' => i = id ∧ a' = sh.set a ((sh.view a).update id req)) fun _ a' => a' = a := by
  refine Triple.bind (call_triple fun _ _ h => h) fun _ => ?_
  refine Triple.bind (Q := fun found a' => a' = a ∧ found = true)
    (fun a' h => ⟨h, by rw [h]; exact Store.isSome_get.mpr hhas⟩) fun found =>
      Triple.assume fun hfound => ?_
  rw [if_pos hfound]
  rintro a' rfl
  exact ⟨rfl, rfl⟩

/-- **An upsert** updates what is recorded if it is there, or creates it anew; one that gives up
leaves the account as it was. -/
theorem upsert_triple :
    Triple (fun a' => a' = a) (sh.upsert fault calls recorded req) (Upserted sh recorded req a)
      fun _ a' => a' = a := by
  refine Triple.bind (verifyNetbirdID_triple (fun i => has_triple calls.get i) recorded)
    fun verified => Triple.assume fun hverified => ?_
  rcases hverified with ⟨i, rfl, hrec, hhas⟩ | ⟨rfl, hgone⟩
  · refine (update_triple calls.update req hhas).conseq (fun _ h => h) ?_ fun _ _ h => h
    rintro _ _ ⟨rfl, rfl⟩
    exact .updated hrec hhas
  · refine (create_triple calls.create req).conseq (fun _ h => h) ?_ fun _ _ h => h
    rintro _ _ ⟨rfl, rfl⟩
    exact .created hgone

/-- What an upsert returns denotes the object that was asked for. -/
theorem Upserted.get {a' : A} (h : Upserted sh recorded req a id a') :
    (sh.view a').get id = some req := by
  cases h with
  | updated hrec hhas => rw [sh.view_set, hhas.get_update]
  | created hgone => rw [sh.view_set, Store.get_create_next]

theorem Upserted.lt_next {a' : A} (h : Upserted sh recorded req a id a') :
    id < (sh.view a').next :=
  (Store.has_of_get h.get).lt_next

theorem Upserted.next_le {a' : A} (h : Upserted sh recorded req a id a') :
    (sh.view a).next ≤ (sh.view a').next := by
  cases h with
  | updated hrec hhas => rw [sh.view_set]; exact Nat.le_refl _
  | created hgone => rw [sh.view_set]; exact Nat.le_succ _

/-- An upsert writes the entry it returns, which is the recorded one or a new one. -/
theorem Upserted.own_or_new {a' : A} (h : Upserted sh recorded req a id a') :
    recorded = some id ∨ ¬ id < (sh.view a).next := by
  cases h with
  | updated hrec _ => exact .inl hrec
  | created _ => exact .inr (Nat.lt_irrefl _)

/-- Every other entry is as it was. -/
theorem Upserted.get_of_ne {a' : A} (h : Upserted sh recorded req a id a') {i : ℕ} (hi : i ≠ id) :
    (sh.view a').get i = (sh.view a).get i := by
  cases h with
  | updated _ _ => rw [sh.view_set, Store.get_update_of_ne hi]
  | created _ => rw [sh.view_set, Store.get_create_of_ne hi]

theorem has_of_none (h : fault (.own c) = none) :
    sh.has fault c id a = (.ok ((sh.view a).get id).isSome, a) := by
  rw [has, bind_of_ok (call_of_none h a)]
  rfl

theorem create_of_none (h : fault (.own c) = none) :
    sh.create fault c req a = (.ok (sh.view a).next, sh.set a ((sh.view a).create req)) := by
  rw [create, bind_of_ok (call_of_none h a)]
  rfl

/-- **When an upsert creates.** -/
theorem upsert_grows_iff (req : α) :
    (sh.view a).next < (sh.view (sh.upsert fault calls recorded req a).2).next ↔
      sh.Creates fault calls recorded a := by
  have hcreate : (sh.view a).next < (sh.view (sh.create fault calls.create req a).2).next ↔
      fault (.own calls.create) = none := by
    cases hfault : fault (.own calls.create) with
    | none => simp [create_of_none hfault, sh.view_set, Store.create]
    | some f => simp [create, bind_of_error (call_of_some hfault a)]
  cases recorded with
  | none => exact hcreate.trans (by simp [Creates])
  | some i =>
    cases hget : fault (.own calls.get) with
    | some f =>
      rw [upsert, verifyNetbirdID, has,
        bind_of_error (bind_of_error (bind_of_error (call_of_some hget a)))]
      simp [Creates, hget]
    | none =>
      rw [upsert, bind_of_ok (verifyNetbirdID_of_ok (has_of_none hget))]
      by_cases hhas : (sh.view a).Has i
      · rw [if_pos (Store.isSome_get.mpr hhas)]
        refine iff_of_false (fun hlt => ?_) fun hcreates => (hcreates.2 i rfl).2 hhas
        have hsame : (sh.view (sh.update fault calls.update i req a).2).next = (sh.view a).next :=
          Triple.final (P := fun a' => a' = a) (G := fun a' => (sh.view a').next = (sh.view a).next)
            ((update_triple calls.update req hhas).conseq (fun _ h => h)
              (fun _ _ h => by rw [h.2, sh.view_set]; rfl) fun _ _ h => by rw [h]) rfl
        exact absurd hlt (by rw [hsame]; exact Nat.lt_irrefl _)
      · rw [if_neg (mt Store.isSome_get.mp hhas)]
        exact hcreate.trans (by simp [Creates, hget, hhas])

/-- **What is gone is replaced** whatever an update would answer. -/
theorem upsert_of_gone (hget : fault (.own calls.get) = none)
    (hcreate : fault (.own calls.create) = none)
    (hgone : ∀ id, recorded = some id → ¬ (sh.view a).Has id) :
    sh.upsert fault calls recorded req a =
      (.ok (sh.view a).next, sh.set a ((sh.view a).create req)) := by
  have hverified : verifyNetbirdID recorded (sh.has fault calls.get) a = (.ok none, a) :=
    verifyNetbirdID_of_gone (fun _ => has_of_none hget) hgone
  rw [upsert, bind_of_ok hverified]
  exact create_of_none hcreate

/-- A delete that returns, or answers 404, leaves nothing of that id. A call that fails leaves the
account as it was, and does not answer 404. -/
theorem delete_triple (c : C) (id : ℕ) :
    Triple (fun a' => a' = a) (sh.delete fault c id)
      (fun _ a' => a' = sh.set a ((sh.view a).delete id))
      fun e a' => a' = a ∧ (e.isNotFound = true → ¬ (sh.view a).Has id) := by
  cases hfault : fault (.own c) with
  | some f =>
    rintro a' rfl
    rw [delete, bind_of_error (call_of_some hfault a')]
    exact ⟨rfl, fun h => by cases h⟩
  | none =>
    rintro a' rfl
    rw [delete, bind_of_ok (call_of_none hfault a'), bind_of_ok (read_apply _ _)]
    cases hget : (sh.view a').get id with
    | none =>
      refine ⟨rfl, fun _ => ?_⟩
      rintro ⟨e, he, hid⟩
      exact Store.get_eq_none.mp hget e he hid
    | some x => rfl

/-- A delete touches the entry of its id. -/
theorem delete_frame (sh : Shelf A α) (fault : Call C → Option Fault) (c : C) (id : ℕ) (a : A) :
    (sh.delete fault c id a).2 = a ∨
      (sh.delete fault c id a).2 = sh.set a ((sh.view a).delete id) := by
  refine Triple.final (P := fun a' => a' = a)
    (G := fun a' => a' = a ∨ a' = sh.set a ((sh.view a).delete id)) ?_ rfl
  exact (delete_triple c id).conseq (fun _ h => h) (fun _ _ h => .inr h) fun _ _ h => .inl h.1

/-- Ids that were given out stay so, and every other entry is as it was. -/
theorem delete_leaves (sh : Shelf A α) (fault : Call C → Option Fault) (c : C) (id : ℕ) (a : A)
    (i : ℕ) :
    (i < (sh.view a).next → i < (sh.view (sh.delete fault c id a).2).next) ∧
      ((sh.view (sh.delete fault c id a).2).get i = (sh.view a).get i ∨ some id = some i) := by
  rcases delete_frame sh fault c id a with h | h <;> rw [h]
  · exact ⟨fun hi => hi, .inl rfl⟩
  · rw [sh.view_set]
    refine ⟨fun hi => hi, ?_⟩
    by_cases hi : i = id
    · exact .inr (congrArg some hi.symm)
    · exact .inl (Store.get_delete_of_ne hi)

/-- Whether it returns or answers 404, there is nothing left of that id. -/
theorem delete_gone (c : C) (id : ℕ) :
    Triple (fun a' => a' = a) (sh.delete fault c id) (fun _ a' => ¬ (sh.view a').Has id)
      fun e a' => e.isNotFound = true → ¬ (sh.view a').Has id := by
  refine (delete_triple c id).conseq (fun _ h => h) ?_ ?_
  · rintro _ a' rfl hhas
    rw [sh.view_set] at hhas
    exact (Store.has_delete.mp hhas).2 rfl
  · rintro e a' ⟨rfl, hgone⟩ h
    exact hgone h

/-- What follows of the recorded id from there being nothing left of it. -/
theorem delete_recorded (c : C) (i : ℕ) {P : ℕ → A → Prop}
    (hP : ∀ a', ¬ (sh.view a').Has i → P i a') :
    Triple (fun a' => a' = a) (sh.delete fault c i) (fun _ a' => ∀ id, some i = some id → P id a')
      fun e a' => e.isNotFound = true → ∀ id, some i = some id → P id a' := by
  refine (delete_gone c i).conseq (fun _ h => h) ?_ ?_
  · rintro _ a' hgone id hid
    exact Option.some.inj hid ▸ hP a' hgone
  · rintro e a' hgone h id hid
    exact Option.some.inj hid ▸ hP a' (hgone h)

end Shelf

end Mirror

end NetbirdOperator
