import Mathlib.Data.Int.Notation
import NetbirdOperator.ControlLoop.Pass
import NetbirdOperator.Reconcile

/-!
# The mirror reconciler

`internal/controller/mirror.go`. Most kinds of the operator mirror one NetBird object: a pass
applies the specification to the NetBird account and records the ids it got in the status, and a
deletion removes what was recorded. `MirrorReconciler` is the part all of them share, the finalizer,
the conditions and the patches; `Mirror` is what a kind adds.

A kind never writes an object itself. It works on the account, and hands the ids to record back to
the reconciler, which is why `apply` and `del` are passes over the account alone. Events and log
lines are left out.

## Main definitions

* `Mirror`, `Mirror.World`, `Mirror.Err` — a kind, what it works on, how it fails
* `Mirror.reconcile` — a pass

## Main results

* `Mirror.reconcile_effect` — what a pass can do, whichever of its calls fail
* `Mirror.reconcile_live_eq` — a live pass by its outcome and its last patch
* `Mirror.reconcile_live`, `reconcile_deleting` — what it does when none fails
-/

namespace NetbirdOperator

open ControlLoop

namespace Mirror

/-- The status of a mirrored object. -/
structure Status (R : Type) where
  observedGeneration : ℤ := -1
  ready : Option Condition := none
  /-- The ids the kind recorded. -/
  recorded : R
  deriving DecidableEq, Repr

/-- The objects of the kind, and the NetBird account as far as the kind touches it. -/
structure World (S R A : Type) where
  objects : Store (Object S (Status R))
  account : A

/-- The calls of a pass that can fail: those of the reconciler, and those of the kind. -/
inductive Call (C : Type) where
  | get | patchFinalizer | patchNotReady | patchReady | patchRemoveFinalizer
  | own (c : C)
  deriving DecidableEq, Repr

/-- How a pass gives up. A 404 is an error only where the kind does not expect it; an object is
invalid if it asks for what the kind cannot do. -/
inductive Err (C : Type) where
  | api (c : Call C) (f : Fault)
  | notFound (c : C)
  | group (e : GroupErr)
  | dependencyNotReady (msg : String)
  | invalid (msg : String)
  deriving DecidableEq, Repr

/-- `netbird.IsNotFound`. -/
def Err.isNotFound {C : Type} : Err C → Bool
  | .notFound _ | .group .notFound => true
  | _ => false

/-- `netbirdutil.IsConflict`. -/
def Err.isConflict {C : Type} : Err C → Bool
  | .api _ .conflict | .group (.api .conflict) => true
  | _ => false

end Mirror

/-- `mirror`: how one kind is applied to the account, answered with the ids to record, and how it is
removed from it, in sight of all objects of the kind. -/
structure Mirror (S R A C : Type) where
  apply : Object S (Mirror.Status R) → Pass A (Mirror.Err C) R
  del : ℕ → Store (Object S (Mirror.Status R)) → Object S (Mirror.Status R) →
    Pass A (Mirror.Err C) Unit

namespace Mirror

variable {S R A C σ : Type} {fault : Call C → Option Fault} {m : Mirror S R A C}
  {w w' : World S R A} {uid : ℕ} {o o' : Object S (Status R)}

/-- The call `c`, as far as it can fail. -/
abbrev call (fault : Call C → Option Fault) (c : Call C) : Pass σ (Err C) Unit :=
  Pass.call (fault c) (.api c)

/-- The id in the status of the object a reference is to, read with a call that may fail. The
messages name its kind and what the id is of. -/
def dependencyID {ε : Type} (api : Fault → ε) (dependencyNotReady : String → ε) (kind what : String)
    (fault : Option Fault) (status : Option (Option ℕ)) (ref : CrossNamespaceReference) :
    Except ε ℕ :=
  match fault, status with
  | some f, _ => .error (api f)
  | none, none =>
    .error (dependencyNotReady
      ("dependency not ready: " ++ kind ++ " " ++ ref.ns ++ "/" ++ ref.name ++ " not found"))
  | none, some none =>
    .error (dependencyNotReady ("dependency not ready: " ++ kind ++ " " ++ ref.ns ++ "/" ++
      ref.name ++ " has no " ++ what ++ " id yet"))
  | none, some (some id) => .ok id

theorem dependencyID_eq_ok {ε : Type} {api : Fault → ε} {dependencyNotReady : String → ε}
    {kind what : String} {fault : Option Fault} {status : Option (Option ℕ)}
    {ref : CrossNamespaceReference} {id : ℕ} :
    dependencyID api dependencyNotReady kind what fault status ref = .ok id ↔
      fault = none ∧ status = some (some id) := by
  rcases fault with _ | f <;> rcases status with _ | _ | i <;> simp [dependencyID]

/-- `resolveNetworkID`. -/
def resolveNetworkID {ε : Type} (api : Fault → ε) (dependencyNotReady : String → ε) :
    Option Fault → Option (Option ℕ) → CrossNamespaceReference → Except ε ℕ :=
  dependencyID api dependencyNotReady "Network" "network"

/-- `resolveZoneID`. -/
def resolveZoneID {ε : Type} (api : Fault → ε) (dependencyNotReady : String → ε) :
    Option Fault → Option (Option ℕ) → CrossNamespaceReference → Except ε ℕ :=
  dependencyID api dependencyNotReady "DNSZone" "zone"

/-- `sp.Patch`: write the object as the pass has it in memory. -/
def patch (fault : Call C → Option Fault) (c : Call C) (uid : ℕ) (o : Object S (Status R)) :
    Pass (World S R A) (Err C) Unit := do
  call fault c
  Pass.modify fun w => { w with objects := w.objects.put uid o }

/-- A pass over the account. -/
def onAccount {α : Type} (p : Pass A (Err C) α) : Pass (World S R A) (Err C) α := fun w =>
  ((p w.account).1, { w with account := (p w.account).2 })

/-! ### Reconcile -/

/-- The object with the reconciler's finalizer. -/
def withFinalizer (o : Object S (Status R)) : Object S (Status R) := { o with finalizer := true }

/-- The object with the ids recorded, and ready. -/
def asReady (o : Object S (Status R)) (recorded : R) : Object S (Status R) :=
  { o with status := ⟨(o.generation : ℤ), some markTrue, recorded⟩ }

/-- The object waiting for something. -/
def asNotReady (o : Object S (Status R)) (msg : String) : Object S (Status R) :=
  { o with status := { o.status with ready := some (markFalse msg) } }

/-- Report the outcome of the apply: record the ids, or say what the object waits for. -/
def report (fault : Call C → Option Fault) (uid : ℕ) (o : Object S (Status R)) :
    Except (Err C) R → Pass (World S R A) (Err C) Result
  | .ok recorded => do
    patch fault .patchReady uid (asReady o recorded)
    pure ⟨some resyncInterval⟩
  | .error (.dependencyNotReady msg) => do
    patch fault .patchNotReady uid (asNotReady o msg)
    pure ⟨some dependencyRetry⟩
  | .error e => Pass.throw e

/-- `Reconcile` on an object that is not being deleted. -/
def reconcileLive (fault : Call C → Option Fault) (m : Mirror S R A C) (uid : ℕ)
    (o : Object S (Status R)) : Pass (World S R A) (Err C) Result := do
  patch fault .patchFinalizer uid (withFinalizer o)
  let outcome ← Pass.observe (onAccount (m.apply (withFinalizer o)))
  report fault uid (withFinalizer o) outcome

/-- Let the object go. -/
def release (fault : Call C → Option Fault) (uid : ℕ) (o : Object S (Status R)) :
    Pass (World S R A) (Err C) Result := do
  patch fault .patchRemoveFinalizer uid { o with finalizer := false }
  pure ⟨none⟩

/-- Conclude a deletion: what is deleted or already gone is let go, what is in use is retried. -/
def conclude (fault : Call C → Option Fault) (uid : ℕ) (o : Object S (Status R)) :
    Except (Err C) Unit → Pass (World S R A) (Err C) Result
  | .ok () => release fault uid o
  | .error e =>
    if e.isNotFound then release fault uid o
    else if e.isConflict then pure ⟨some cleanupRetry⟩
    else Pass.throw e

/-- `reconcileDelete`. -/
def reconcileDelete (fault : Call C → Option Fault) (m : Mirror S R A C) (uid : ℕ)
    (o : Object S (Status R)) : Pass (World S R A) (Err C) Result := do
  let objects ← Pass.read fun w => w.objects
  let outcome ← Pass.observe (onAccount (m.del uid objects o))
  conclude fault uid o outcome

/-- `MirrorReconciler.Reconcile` of the object with that uid. An object that is gone is not an
error. -/
def reconcile (fault : Call C → Option Fault) (m : Mirror S R A C) (uid : ℕ) :
    Pass (World S R A) (Err C) Result := do
  call fault .get
  let found ← Pass.read fun w => w.objects.get uid
  match found with
  | none => pure ⟨none⟩
  | some o => if o.deleting then reconcileDelete fault m uid o else reconcileLive fault m uid o

/-- `verifyNetbirdID`: the recorded id, unless what it denotes was deleted out of band. -/
def verifyNetbirdID {ε : Type} (id : Option ℕ) (get : ℕ → Pass σ ε Bool) : Pass σ ε (Option ℕ) :=
  match id with
  | none => pure none
  | some id => do
    let found ← get id
    if found then pure (some id) else pure none

/-- A recorded id passes the check if it denotes something, and is dropped otherwise. -/
theorem verifyNetbirdID_triple {ε : Type} {P : σ → Prop} {E : ε → σ → Prop} {H : ℕ → Prop}
    {get : ℕ → Pass σ ε Bool}
    (hget : ∀ i, Pass.Triple P (get i) (fun found s => P s ∧ (found = true ↔ H i)) E)
    (id : Option ℕ) :
    Pass.Triple P (verifyNetbirdID id get)
      (fun r s => P s ∧ ((∃ i, r = some i ∧ id = some i ∧ H i) ∨
        (r = none ∧ ∀ i, id = some i → ¬ H i))) E := by
  cases id with
  | none => exact fun s hs => ⟨hs, Or.inr ⟨rfl, fun i hi => absurd hi (by simp)⟩⟩
  | some i =>
    refine Pass.Triple.bind (hget i) fun found => Pass.Triple.assume fun hfound => ?_
    cases found with
    | true => exact fun s hs => ⟨hs, Or.inl ⟨i, rfl, rfl, hfound.mp rfl⟩⟩
    | false =>
      refine fun s hs => ⟨hs, Or.inr ⟨rfl, fun j hj hhas => ?_⟩⟩
      rw [← Option.some.inj hj] at hhas
      exact absurd (hfound.mpr hhas) (by simp)

theorem verifyNetbirdID_of_ok {ε : Type} {get : ℕ → Pass σ ε Bool} {i : ℕ} {found : Bool} {s : σ}
    (h : get i s = (.ok found, s)) :
    verifyNetbirdID (some i) get s = (.ok (if found then some i else none), s) := by
  rw [verifyNetbirdID, Pass.bind_of_ok h]
  cases found <;> rfl

/-- What is gone does not count as recorded. -/
theorem verifyNetbirdID_of_gone {ε α : Type} {get : ℕ → Pass σ ε Bool} {recorded : Option ℕ}
    {store : Store α} {s : σ} (hget : ∀ i, get i s = (.ok (store.get i).isSome, s))
    (hgone : ∀ i, recorded = some i → ¬ store.Has i) :
    verifyNetbirdID recorded get s = (.ok none, s) := by
  cases recorded with
  | none => rfl
  | some i =>
    have hnone : (store.get i).isSome = false :=
      Bool.eq_false_iff.mpr fun h => hgone i rfl (Store.isSome_get.mp h)
    rw [verifyNetbirdID_of_ok (hget i), hnone]
    rfl

/-! ### What a pass does -/

/-- `o'` is `o` with the finalizer on, and with whatever status the reconciler wrote. -/
structure Tended (o o' : Object S (Status R)) : Prop where
  ns : o'.ns = o.ns
  name : o'.name = o.name
  spec : o'.spec = o.spec
  deleting : o'.deleting = o.deleting
  finalizer : o'.finalizer = true

/-- **The ways a pass can end.** It did nothing; it applied an object to the account, and recorded
what the apply returned unless it gave up first; it worked on a deletion, and kept the object or
let it go. -/
inductive Effect (m : Mirror S R A C) (w : World S R A) (uid : ℕ) : World S R A → Prop where
  | idle : Effect m w uid w
  | applied {o o' : Object S (Status R)} (hget : w.objects.get uid = some o)
      (hlive : o.deleting = false) (hown : Tended o o')
      (hrec : o'.status.recorded = o.status.recorded ∨
        (m.apply (withFinalizer o) w.account).1 = .ok o'.status.recorded) :
      Effect m w uid ⟨w.objects.update uid o', (m.apply (withFinalizer o) w.account).2⟩
  | kept {o : Object S (Status R)} (hget : w.objects.get uid = some o)
      (hdel : o.deleting = true) :
      Effect m w uid ⟨w.objects, (m.del uid w.objects o w.account).2⟩
  | released {o : Object S (Status R)} (hget : w.objects.get uid = some o)
      (hdel : o.deleting = true)
      (hout : ∀ e, (m.del uid w.objects o w.account).1 = .error e → e.isNotFound = true) :
      Effect m w uid ⟨w.objects.delete uid, (m.del uid w.objects o w.account).2⟩

theorem patch_of_none {c : Call C} (h : fault c = none) :
    patch fault c uid o w = (.ok (), { w with objects := w.objects.put uid o }) := by
  rw [patch, Pass.bind_of_ok (Pass.call_of_none h w)]
  rfl

theorem patch_of_some {c : Call C} {f : Fault} (h : fault c = some f) :
    patch fault c uid o w = (.error (.api c f), w) := by
  rw [patch, Pass.bind_of_error (Pass.call_of_some h w)]

/-- A patch that ends a pass either goes through or leaves the world as it was. -/
theorem patch_then (fault : Call C → Option Fault) (c : Call C) (uid : ℕ) (o : Object S (Status R))
    (w : World S R A) (r : Result) :
    ((do patch fault c uid o; pure r : Pass (World S R A) (Err C) Result) w).2 =
      if fault c = none then { w with objects := w.objects.put uid o } else w := by
  cases h : fault c with
  | none =>
    rw [Pass.bind_of_ok (patch_of_none h)]
    rfl
  | some f =>
    rw [Pass.bind_of_error (patch_of_some h)]
    rfl

/-- The object as a live pass leaves it, by the outcome of the apply and by which patch is lost. -/
def reported (fault : Call C → Option Fault) (o : Object S (Status R)) :
    Except (Err C) R → Object S (Status R)
  | .ok r => if fault .patchReady = none then asReady (withFinalizer o) r else withFinalizer o
  | .error (.dependencyNotReady msg) =>
    if fault .patchNotReady = none then asNotReady (withFinalizer o) msg else withFinalizer o
  | .error _ => withFinalizer o

theorem tended_reported (fault : Call C → Option Fault) (o : Object S (Status R))
    (out : Except (Err C) R) : Tended o (reported fault o out) := by
  unfold reported
  split
  · split <;> exact ⟨rfl, rfl, rfl, rfl, rfl⟩
  · split <;> exact ⟨rfl, rfl, rfl, rfl, rfl⟩
  · exact ⟨rfl, rfl, rfl, rfl, rfl⟩

/-- An apply that gives up leaves what is on record. -/
theorem recorded_of_error (fault : Call C → Option Fault) (o : Object S (Status R)) (e : Err C) :
    (reported fault o (.error e)).status.recorded = o.status.recorded := by
  cases e with
  | dependencyNotReady msg =>
    rw [reported]
    split <;> rfl
  | api | notFound | group | invalid => rfl

/-- Nothing is recorded but what the apply returned. -/
theorem recorded_reported (fault : Call C → Option Fault) (o : Object S (Status R))
    (out : Except (Err C) R) :
    (reported fault o out).status.recorded = o.status.recorded ∨
      out = .ok (reported fault o out).status.recorded := by
  cases out with
  | error e => exact Or.inl (recorded_of_error fault o e)
  | ok r =>
    rw [reported]
    split
    · exact Or.inr rfl
    · exact Or.inl rfl

/-- A report writes to its object at most. -/
theorem report_eq (fault : Call C → Option Fault) (uid : ℕ) (hlive : o.deleting = false)
    (objects : Store (Object S (Status R))) (a : A) (out : Except (Err C) R) :
    (report fault uid (withFinalizer o) out ⟨objects.update uid (withFinalizer o), a⟩).2 =
      ⟨objects.update uid (reported fault o out), a⟩ := by
  have hput : ∀ (c : Call C) (o' : Object S (Status R)) (r : Result), o'.deleting = false →
      ((do patch fault c uid o'; pure r : Pass (World S R A) (Err C) Result)
        ⟨objects.update uid (withFinalizer o), a⟩).2 =
        ⟨objects.update uid (if fault c = none then o' else withFinalizer o), a⟩ := by
    intro c o' r hlive'
    rw [patch_then]
    split
    · rw [Store.put_of_live hlive', Store.update_update]
    · rfl
  cases out with
  | ok r => exact hput .patchReady (asReady (withFinalizer o) r) _ hlive
  | error e =>
    cases e with
    | dependencyNotReady msg =>
      exact hput .patchNotReady (asNotReady (withFinalizer o) msg) _ hlive
    | api | notFound | group | invalid => rfl

/-- Once the finalizer is on, the pass applies and reports. -/
theorem reconcileLive_of_patched (h : fault .patchFinalizer = none) (hlive : o.deleting = false) :
    reconcileLive fault m uid o w =
      report fault uid (withFinalizer o) (m.apply (withFinalizer o) w.account).1
        ⟨w.objects.update uid (withFinalizer o), (m.apply (withFinalizer o) w.account).2⟩ := by
  have hlive' : (withFinalizer o).deleting = false := hlive
  rw [reconcileLive, Pass.bind_of_ok (patch_of_none h), Pass.bind_of_ok (Pass.observe_apply _ _),
    Store.put_of_live hlive']
  rfl

theorem reconcileLive_eq (hlive : o.deleting = false) :
    (reconcileLive fault m uid o w).2 =
      if fault .patchFinalizer = none then
        ⟨w.objects.update uid (reported fault o (m.apply (withFinalizer o) w.account).1),
          (m.apply (withFinalizer o) w.account).2⟩
      else w := by
  cases hfin : fault .patchFinalizer with
  | some f =>
    rw [reconcileLive, Pass.bind_of_error (patch_of_some hfin)]
    rfl
  | none => rw [reconcileLive_of_patched hfin hlive, report_eq fault uid hlive, if_pos rfl]

theorem reconcileDelete_eq :
    reconcileDelete fault m uid o w =
      conclude fault uid o (m.del uid w.objects o w.account).1
        ⟨w.objects, (m.del uid w.objects o w.account).2⟩ := by
  rw [reconcileDelete, Pass.bind_of_ok (Pass.read_apply _ _),
    Pass.bind_of_ok (Pass.observe_apply _ _)]
  rfl

/-- An object that is let go is gone, since it is being deleted. -/
theorem release_effect (fault : Call C → Option Fault) (uid : ℕ) (w : World S R A)
    (hdel : o.deleting = true) :
    (release fault uid o w).2 = w ∨
      (release fault uid o w).2 = { w with objects := w.objects.delete uid } := by
  have hput : w.objects.put uid { o with finalizer := false } = w.objects.delete uid := by
    simp [Store.put, hdel]
  rw [← hput, release, patch_then]
  split
  · exact Or.inr rfl
  · exact Or.inl rfl

theorem reconcileDelete_effect (hget : w.objects.get uid = some o) (hdel : o.deleting = true) :
    Effect m w uid (reconcileDelete fault m uid o w).2 := by
  rw [reconcileDelete_eq]
  have hrelease : (∀ e, (m.del uid w.objects o w.account).1 = .error e → e.isNotFound = true) →
      Effect m w uid
        (release fault uid o ⟨w.objects, (m.del uid w.objects o w.account).2⟩).2 := by
    intro hout
    rcases release_effect fault uid ⟨w.objects, (m.del uid w.objects o w.account).2⟩ hdel
      with h | h <;> rw [h]
    · exact .kept hget hdel
    · exact .released hget hdel hout
  rcases hout : (m.del uid w.objects o w.account).1 with e | ⟨⟩
  · rw [hout] at hrelease
    rw [conclude]
    split
    · next h => exact hrelease fun e' he => by rw [← Except.error.inj he]; exact h
    · split <;> exact .kept hget hdel
  · exact hrelease fun e he => by rw [hout] at he; exact absurd he (by simp)

/-- **What a pass can do**, whichever of its calls fail. -/
theorem reconcile_effect : Effect m w uid (reconcile fault m uid w).2 := by
  rw [reconcile]
  cases hcall : fault .get with
  | some f =>
    rw [Pass.bind_of_error (Pass.call_of_some hcall w)]
    exact .idle
  | none =>
    rw [Pass.bind_of_ok (Pass.call_of_none hcall w), Pass.bind_of_ok (Pass.read_apply _ _)]
    cases hget : w.objects.get uid with
    | none => exact .idle
    | some o =>
      dsimp only
      split
      · next hdel => exact reconcileDelete_effect hget hdel
      · next hlive =>
        have hlive : o.deleting = false := by simpa using hlive
        rw [reconcileLive_eq hlive]
        split
        · exact .applied hget hlive (tended_reported ..) (recorded_reported ..)
        · exact .idle

/-- The other objects are as they were. -/
theorem Effect.mem_of_ne {w' : World S R A} (h : Effect m w uid w')
    {e : Entry (Object S (Status R))} (he : e ∈ w'.objects) (hne : e.id ≠ uid) :
    e ∈ w.objects := by
  cases h with
  | idle => exact he
  | applied => exact (Store.mem_update_of_ne hne).mp he
  | kept => exact he
  | released => exact (Store.mem_delete.mp he).1

/-- An object that is being deleted stays so. -/
theorem Effect.ne_of_live {w' : World S R A} (h : Effect m w uid w')
    (hget : w.objects.get uid = some o) (hdel : o.deleting = true)
    {e : Entry (Object S (Status R))} (he : e ∈ w'.objects) (hlive : e.val.deleting = false) :
    e.id ≠ uid := by
  rintro rfl
  have hnot : e ∉ w.objects := by
    intro he
    rw [Store.val_eq_of_get hget he rfl, hdel] at hlive
    cases hlive
  cases h with
  | idle => exact hnot he
  | applied hget' hlive' _ _ =>
    obtain rfl := Option.some.inj (hget.symm.trans hget')
    exact absurd (hdel.symm.trans hlive') (by simp)
  | kept => exact hnot he
  | released => exact (Store.mem_delete.mp he).2 rfl

theorem reconcile_gone (hget : w.objects.get uid = none) : (reconcile fault m uid w).2 = w := by
  have heffect : Effect m w uid (reconcile fault m uid w).2 := reconcile_effect
  generalize (reconcile fault m uid w).2 = w' at heffect
  cases heffect with
  | idle => rfl
  | applied hget' _ _ _ => exact absurd hget' (by simp [hget])
  | kept hget' _ => exact absurd hget' (by simp [hget])
  | released hget' _ _ => exact absurd hget' (by simp [hget])

/-! ### Patch by patch -/

theorem reconcile_of_get (hcall : fault .get = none) (hget : w.objects.get uid = some o) :
    reconcile fault m uid w =
      (if o.deleting then reconcileDelete fault m uid o else reconcileLive fault m uid o) w := by
  rw [reconcile, Pass.bind_of_ok (Pass.call_of_none hcall w), Pass.bind_of_ok (Pass.read_apply _ _),
    hget]

/-- **A live pass, by the outcome of its apply.** One that gets past its finalizer applies the
object, and has what the apply returned on record unless the last patch is lost. -/
theorem reconcile_live_eq (fault : Call C → Option Fault) (m : Mirror S R A C)
    (hget : w.objects.get uid = some o) (hlive : o.deleting = false) :
    (reconcile fault m uid w).2 =
      if fault .get = none ∧ fault .patchFinalizer = none then
        ⟨w.objects.update uid (reported fault o (m.apply (withFinalizer o) w.account).1),
          (m.apply (withFinalizer o) w.account).2⟩
      else w := by
  cases hcall : fault .get with
  | some f =>
    rw [reconcile, Pass.bind_of_error (Pass.call_of_some hcall w), if_neg (by simp)]
  | none =>
    rw [reconcile_of_get hcall hget, if_neg (by simp [hlive]), reconcileLive_eq hlive]
    simp only [true_and]

/-- A live pass whose patches go through has what the apply returned on record. -/
theorem reconcile_recorded {r : R} {a : A} (hcall : fault .get = none)
    (hfin : fault .patchFinalizer = none) (hget : w.objects.get uid = some o)
    (hlive : o.deleting = false) (happly : m.apply (withFinalizer o) w.account = (.ok r, a))
    (hready : fault .patchReady = none) :
    (reconcile fault m uid w).2 = ⟨w.objects.update uid (asReady (withFinalizer o) r), a⟩ := by
  rw [reconcile_live_eq fault m hget hlive, if_pos ⟨hcall, hfin⟩, happly, reported, if_pos hready]

/-- **An invariant of what is on record and the account.** A live pass keeps it if the apply keeps
it of what was on record before, and makes it hold of what it returns. -/
theorem reconcile_keeps (fault : Call C → Option Fault) (m : Mirror S R A C) {I : R → A → Prop}
    (hget : w.objects.get uid = some o) (hlive : o.deleting = false)
    (hI : I o.status.recorded w.account)
    (happly : Pass.Triple (fun a => a = w.account) (m.apply (withFinalizer o))
      (fun r a => I r a ∧ I o.status.recorded a) fun _ a => I o.status.recorded a) :
    ∃ o', (reconcile fault m uid w).2.objects.get uid = some o' ∧ o'.deleting = false ∧
      o'.spec = o.spec ∧ I o'.status.recorded (reconcile fault m uid w).2.account := by
  rw [reconcile_live_eq fault m hget hlive]
  split
  swap
  · exact ⟨o, hget, hlive, rfl, hI⟩
  have hown := tended_reported fault o (m.apply (withFinalizer o) w.account).1
  refine ⟨_, Store.get_update_self hget _, hown.deleting.trans hlive, hown.spec, ?_⟩
  rcases hout : m.apply (withFinalizer o) w.account with ⟨out, a⟩
  cases out with
  | error e =>
    rw [recorded_of_error]
    exact happly.error rfl hout
  | ok r =>
    obtain ⟨hr, ho⟩ := happly.ok rfl hout
    rcases recorded_reported fault o (.ok r) with hsame | hreturned
    · rw [hsame]
      exact ho
    · rw [← Except.ok.inj hreturned]
      exact hr

/-! ### What it does when nothing fails -/

section FaultFree

variable (hfree : ∀ c, fault c = none)

include hfree

/-- A live object is applied, and its status has what the apply returned, if it returned. -/
theorem reconcile_live (hget : w.objects.get uid = some o) (hlive : o.deleting = false) :
    ∃ o', Tended o o' ∧ (reconcile fault m uid w).2 =
        ⟨w.objects.update uid o', (m.apply (withFinalizer o) w.account).2⟩ ∧
      (∀ r, (m.apply (withFinalizer o) w.account).1 = .ok r → o'.status.recorded = r) ∧
      ∀ e, (m.apply (withFinalizer o) w.account).1 = .error e →
        o'.status.recorded = o.status.recorded := by
  rw [reconcile_live_eq fault m hget hlive, if_pos ⟨hfree _, hfree _⟩]
  refine ⟨_, tended_reported .., rfl, fun r hr => ?_, fun e he => ?_⟩
  · rw [hr, reported, if_pos (hfree _)]
    rfl
  · rw [he, recorded_of_error]

/-- An object that is being deleted is gone once its removal from the account went through. -/
theorem reconcile_deleting (hget : w.objects.get uid = some o) (hdel : o.deleting = true)
    (hout : (m.del uid w.objects o w.account).1 = .ok ()) :
    (reconcile fault m uid w).2 =
      ⟨w.objects.delete uid, (m.del uid w.objects o w.account).2⟩ := by
  rw [reconcile_of_get (hfree _) hget, if_pos hdel, reconcileDelete_eq, hout, conclude, release,
    Pass.bind_of_ok (patch_of_none (hfree _))]
  simp [Store.put, hdel]

end FaultFree

end Mirror

end NetbirdOperator
