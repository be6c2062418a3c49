import Mathlib.Data.Int.Log
import Mathlib.Data.Rat.Floor
import NetbirdOperator.ControlLoop.Pass
import NetbirdOperator.ControlLoop.Run
import NetbirdOperator.Reconcile

/-!
# The SetupKey controller

`internal/controller/setupkey_controller.go`. A SetupKey object stands for one NetBird setup key,
whose plain text is handed out in a Secret. NetBird shows the plain text once, to the call that
creates the key, so a key whose Secret is lost or changed cannot be repaired: the pass mints a new
key, and deletes the old one.

The world is one object, the account's keys and the object's Secret. The Secret is given by the
text under `SetupKeySecretKey`, empty if there is none.

## What is left out

The owner reference on the Secret and the events a pass records.

## Main definitions

* `SetupKey.World`, `Env`, `Call` — state, inputs and failure points
* `SetupKey.upToDate`, `rotate`, `reconcile` — the source functions
* `SetupKey.Event`, `step` — the controller among users and other clients
-/

namespace NetbirdOperator

open ControlLoop

namespace SetupKey

/-! ### Objects and keys -/

structure Spec where
  name : String
  ephemeral : Bool
  allowExtraDnsLabels : Bool := false
  /-- In nanoseconds. -/
  duration : Option ℤ := none
  autoGroups : List GroupReference := []
  deriving DecidableEq, Repr

structure Status where
  observedGeneration : ℤ := -1
  ready : Option Condition := none
  setupKeyID : Option ℕ := none
  deriving DecidableEq, Repr

/-- The custom resource. -/
abbrev CR := Object Spec Status

/-- `SecretName`: the Secret the key's plain text is handed out in. -/
def secretName (name : String) : String := "setup-key-" ++ name

/-- The state NetBird reports of a key. -/
inductive KeyState where
  | valid
  | overused
  | other (name : String)
  deriving DecidableEq, Repr

/-- A setup key of the account. The key text is what a get shows of it. -/
structure Key where
  name : String
  type : String
  usageLimit : ℕ
  ephemeral : Bool
  allowExtraDnsLabels : Bool
  expiresIn : ℤ
  autoGroups : List String
  key : String
  state : KeyState
  deriving DecidableEq, Repr

/-- What a pass works on. The keys the operator created are a record of the run, which no pass
reads. -/
structure World where
  cr : Option CR
  keys : Store Key
  secret : Option String
  minted : List ℕ
  deriving DecidableEq

/-- The calls of a pass that can fail, one for each place in the source. -/
inductive Call where
  | get | patchFinalizer | getKey | getSecret | updateKey | createKey | patchKeyID | applySecret
  | deleteOldKey | patchReady | deleteKey | patchRemoveFinalizer
  deriving DecidableEq, Repr

/-- How a pass gives up. -/
inductive Err where
  | api (c : Call) (f : Fault)
  | notFound (c : Call)
  | group (e : GroupErr)
  | overused
  deriving DecidableEq, Repr

/-- The inputs of a pass that are not part of the world: `plainKey` is the text of the key a create
returns, and `shownKey` what later gets show of it. -/
structure Env where
  groups : Groups
  plainKey : String
  shownKey : String
  fault : Call → Option Fault

/-- A pass of this controller. -/
abbrev M := Pass World Err

/-! ### Calls -/

/-- The call `c`, as far as it can fail. -/
abbrev call (env : Env) (c : Call) : M Unit := Pass.call (env.fault c) (.api c)

/-- `sp.Patch`. An object that is being deleted and has lost its finalizer is gone. -/
def patch (env : Env) (c : Call) (o : CR) : M Unit := do
  call env c
  Pass.modify fun w => { w with cr := if o.deleting ∧ ¬ o.finalizer then none else some o }

/-- `SetupKeys.Get`; `none` is a 404. -/
def getKey (env : Env) (id : ℕ) : M (Option Key) := do
  call env .getKey
  Pass.read fun w => w.keys.get id

/-- `SetupKeys.Update`, which sets the groups of a key. -/
def updateKey (env : Env) (id : ℕ) (autoGroupIDs : List String) : M Unit := do
  call env .updateKey
  let key ← Pass.read fun w => w.keys.get id
  match key with
  | none => Pass.throw (.notFound .updateKey)
  | some key =>
    Pass.modify fun w => { w with keys := w.keys.update id { key with autoGroups := autoGroupIDs } }

/-- `SetupKeys.Create`, answered with a fresh id. -/
def createKey (env : Env) (key : Key) : M ℕ := do
  call env .createKey
  let id ← Pass.read fun w => w.keys.next
  Pass.modify fun w => { w with keys := w.keys.create key, minted := w.minted ++ [w.keys.next] }
  pure id

/-- `SetupKeys.Delete`, where a 404 is not an error. -/
def deleteKey (env : Env) (c : Call) (id : ℕ) : M Unit := do
  call env c
  Pass.modify fun w => { w with keys := w.keys.delete id }

/-! ### Is the key up to date? -/

def keyPrefixLen : ℕ := 5

/-- The first bytes of a text, which may end inside a character. -/
def keyPrefix (s : String) : List UInt8 := s.toUTF8.data.toList.take keyPrefixLen

/-- The Secret has the text of the key, as far as the two can be compared. -/
def samePrefix (shown stored : String) : Bool :=
  ¬ (shown.utf8ByteSize < keyPrefixLen ∨ stored.utf8ByteSize < keyPrefixLen ∨
    keyPrefix shown ≠ keyPrefix stored)

/-- The check of a valid key: its Secret is there and unchanged. Its groups are set on the way. -/
def checkSecret (env : Env) (id : ℕ) (key : Key) (autoGroupIDs : List String) : M Bool := do
  call env .getSecret
  let secret ← Pass.read fun w => w.secret
  match secret with
  | none => pure false
  | some storedKey =>
    if samePrefix key.key storedKey then do
      updateKey env id autoGroupIDs
      pure true
    else pure false

/-- Whether the recorded key can stay. -/
def upToDate (env : Env) (o : CR) (autoGroupIDs : List String) : M Bool :=
  match o.status.setupKeyID with
  | none => pure false
  | some id => do
    let key ← getKey env id
    match key with
    | none => pure false
    | some key =>
      match key.state with
      | .valid => checkSecret env id key autoGroupIDs
      | .overused => Pass.throw .overused
      | .other _ => pure false

/-! ### Rotation -/

/-- The nearest integer, and the even one of two. -/
def roundToEven (q : ℚ) : ℤ :=
  if q - ⌊q⌋ < 1 / 2 ∨ (q - ⌊q⌋ = 1 / 2 ∧ ⌊q⌋ % 2 = 0) then ⌊q⌋ else ⌊q⌋ + 1

/-- The nearest number with a significand of 53 bits. Durations stay far from both ends of the range
of exponents, so these are the values of a `float64`. -/
def float64 (q : ℚ) : ℚ :=
  let ulp : ℚ := 2 ^ (Int.log 2 |q| - 52)
  roundToEven (q / ulp) * ulp

/-- `Duration.Seconds`, of nanoseconds: the whole seconds and the rest of them, in floating point.
Both are exact, but the quotient of the rest and the sum are rounded. -/
def seconds (d : ℤ) : ℚ :=
  float64 (d.tdiv 1000000000 + float64 (d.tmod 1000000000 / 1000000000))

/-- The seconds, rounded towards zero; an unset duration is 0, for a key that does not expire. -/
def expiresIn (duration : Option ℤ) : ℤ :=
  (seconds (duration.getD 0)).num.tdiv (seconds (duration.getD 0)).den

theorem float64_intCast {n : ℤ} (h : |n| < 2 ^ 53) : float64 n = n := by
  have hlog : Int.log 2 |(n : ℚ)| ≤ 52 := by
    by_cases hn : n = 0
    · simp [hn]
    · have hlt : |(n : ℚ)| < 2 ^ (53 : ℤ) := by exact_mod_cast h
      exact Int.lt_add_one_iff.mp ((Int.lt_zpow_iff_log_lt one_lt_two (by positivity)).mp hlt)
  obtain ⟨k, hk⟩ := Int.eq_ofNat_of_zero_le (sub_nonneg.mpr hlog)
  have hulp : Int.log 2 |(n : ℚ)| - 52 = -(k : ℤ) := by omega
  -- An integer of that size is a whole number of units in the last place.
  have hwhole : (n : ℚ) / 2 ^ (-(k : ℤ)) = ((n * 2 ^ k : ℤ) : ℚ) := by
    rw [zpow_neg, zpow_natCast, div_inv_eq_mul]
    push_cast
    rfl
  rw [float64, hulp, hwhole, roundToEven, Int.floor_intCast, if_pos (Or.inl (by norm_num))]
  rw [← hwhole, div_mul_cancel₀ _ (zpow_ne_zero _ two_ne_zero)]

/-- Whole seconds are asked for as they are. Other durations are rounded down, or up if the nearest
`float64` is whole. -/
theorem expiresIn_seconds {s : ℤ} (h : |s| < 2 ^ 53) : expiresIn (some (s * 1000000000)) = s := by
  have hzero : float64 0 = 0 := by simp [float64, roundToEven]
  have hseconds : seconds (s * 1000000000) = s := by
    rw [seconds, Int.mul_tdiv_cancel _ (by decide), Int.mul_tmod_left, Int.cast_zero, zero_div,
      hzero, add_zero, float64_intCast h]
  rw [expiresIn, Option.getD_some, hseconds]
  simp

example : expiresIn (some 16777216999999999) = 16777217 := by decide +kernel

/-- The key a create makes of the specification. -/
def keyRequest (env : Env) (spec : Spec) (autoGroupIDs : List String) : Key :=
  { name := spec.name
    type := "reusable"
    usageLimit := 0
    ephemeral := spec.ephemeral
    allowExtraDnsLabels := spec.allowExtraDnsLabels
    expiresIn := expiresIn spec.duration
    autoGroups := autoGroupIDs
    key := env.shownKey
    state := .valid }

/-- The object with the id of its key. -/
def withKey (o : CR) (id : ℕ) : CR := { o with status := { o.status with setupKeyID := some id } }

def asReady (o : CR) : CR :=
  { o with
    status :=
      { o.status with ready := some markTrue, observedGeneration := (o.generation : ℤ) } }

/-- Delete the old key if there was one. -/
def deleteOldKey (env : Env) : Option ℕ → M Unit
  | none => pure ()
  | some id => deleteKey env .deleteOldKey id

/-- The end of a rotation, once the new key is on record: the Secret, the old key, the status. -/
def handOver (env : Env) (o : CR) (oldSetupKeyID : Option ℕ) : M Result := do
  call env .applySecret
  Pass.modify fun w => { w with secret := some env.plainKey }
  deleteOldKey env oldSetupKeyID
  patch env .patchReady (asReady o)
  pure ⟨some resyncInterval⟩

/-- Mint a new key in place of the old one. -/
def rotate (env : Env) (o : CR) (autoGroupIDs : List String) : M Result := do
  let id ← createKey env (keyRequest env o.spec autoGroupIDs)
  patch env .patchKeyID (withKey o id)
  handOver env (withKey o id) o.status.setupKeyID

/-- Keep the key that is up to date, and replace the one that is not. -/
def ensureKey (env : Env) (o : CR) : M Result := do
  let autoGroupIDs ← Pass.lift ((getGroupIDs env.groups o.spec.autoGroups o.ns).mapError .group)
  let ok ← upToDate env o autoGroupIDs
  if ok then pure ⟨some resyncInterval⟩ else rotate env o autoGroupIDs

/-- `Reconcile` on an object that is not being deleted. -/
def reconcileLive (env : Env) (o : CR) : M Result := do
  patch env .patchFinalizer { o with finalizer := true }
  ensureKey env { o with finalizer := true }

/-! ### Deletion -/

/-- Delete the recorded key. -/
def deleteRecorded (env : Env) (o : CR) : M Unit :=
  match o.status.setupKeyID with
  | none => pure ()
  | some id => deleteKey env .deleteKey id

/-- `reconcileDelete`. -/
def reconcileDelete (env : Env) (o : CR) : M Result := do
  deleteRecorded env o
  patch env .patchRemoveFinalizer { o with finalizer := false }
  pure ⟨none⟩

/-- `SetupKeyReconciler.Reconcile`. An object that is gone is not an error. -/
def reconcile (env : Env) : M Result := do
  call env .get
  let found ← Pass.read fun w => w.cr
  match found with
  | none => pure ⟨none⟩
  | some o => if o.deleting then reconcileDelete env o else reconcileLive env o

/-! ### The controller among the others -/

/-- What happens to the world: a pass, the user's changes, and what others do to the keys and the
Secret. -/
inductive Event where
  | reconcile (env : Env)
  | edit (spec : Spec)
  | delete
  | foreignUpdate (id : ℕ) (key : Key)
  | foreignDelete (id : ℕ)
  | foreignSecret (secret : Option String)

/-- The effect of an event. -/
def step (w : World) : Event → World
  | .reconcile env => (reconcile env w).2
  | .edit spec =>
    { w with cr := w.cr.map fun o => { o with spec := spec, generation := o.generation + 1 } }
  | .delete =>
    { w with
      cr := w.cr.bind fun o => if o.finalizer then some { o with deleting := true } else none }
  | .foreignUpdate id key => { w with keys := w.keys.update id key }
  | .foreignDelete id => { w with keys := w.keys.delete id }
  | .foreignSecret secret => { w with secret := secret }

/-- An object that was just created, in an account with any keys. -/
def initial (ns name : String) (spec : Spec) (keys : Store Key) (secret : Option String) : World :=
  ⟨some ⟨ns, name, 1, false, false, spec, {}⟩, keys, secret, []⟩

end SetupKey

end NetbirdOperator
