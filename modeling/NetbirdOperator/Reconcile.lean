import NetbirdOperator.ControlLoop.Objects

/-!
# What the reconcilers share

`internal/controller/reconcile.go` and the few types every controller file uses: the requeue
intervals, the shape of a pass's result, the `Ready` condition, and `anotherLiveMatches`, the scan
behind every delete guard. `getGroupIDs` is from `internal/netbirdutil/group.go`.

An API call either goes through or fails. NetBird's 404 is not a failure in this sense: it is the
answer of a call that went through to an object that is not there, and each model decides it from
the account it is called on.
-/

namespace NetbirdOperator

open ControlLoop

/-! ### Requeue intervals, in seconds -/

/-- Healthy objects are looked at again after this long. -/
def resyncInterval : ℕ := 15 * 60

/-- A pass that waits for a dependency is repeated after this long. -/
def dependencyRetry : ℕ := 10

/-- A deletion blocked by an object in use is retried after this long. -/
def cleanupRetry : ℕ := 60

/-- `ctrl.Result`: when to run again, if a time was asked for. -/
structure Result where
  requeueAfter : Option ℕ
  deriving DecidableEq, Repr

/-- How an API call can fail: refused because the object is in use (400, 409 and 412, which
`IsConflict` recognises), or any other way. -/
inductive Fault where
  | conflict
  | other
  deriving DecidableEq, Repr

/-- A reference to an object of another namespace. -/
structure CrossNamespaceReference where
  name : String
  ns : String
  deriving DecidableEq, Repr

/-! ### The `Ready` condition -/

def reconciledReason : String := "Reconciled"

def dependencyReason : String := "Dependency"

/-- A status condition, without its type and its generation. -/
structure Condition where
  status : Bool
  reason : String
  message : String
  deriving DecidableEq, Repr

/-- `conditions.MarkTrue` on `Ready`. -/
def markTrue : Condition := ⟨true, reconciledReason, ""⟩

/-- `conditions.MarkFalse` on `Ready`, with the dependency reason. -/
def markFalse (message : String) : Condition := ⟨false, dependencyReason, message⟩

/-! ### Group references -/

/-- A reference to a NetBird group, by the first of its fields that is set. -/
structure GroupReference where
  name : Option String := none
  id : Option String := none
  localRef : Option String := none
  deriving DecidableEq, Repr

/-- Exactly one field of the reference is set, as the CRD validates. -/
def GroupReference.OneField (ref : GroupReference) : Prop :=
  [ref.id.isSome, ref.name.isSome, ref.localRef.isSome].count true = 1

instance (ref : GroupReference) : Decidable ref.OneField :=
  inferInstanceAs (Decidable (_ = 1))

/-- The copy of a reference with its first field that is set, in the order id, name, local
reference. -/
def GroupReference.narrowed (ref : GroupReference) : Option GroupReference :=
  match ref.id, ref.name, ref.localRef with
  | some id, _, _ => some { id := some id }
  | none, some name, _ => some { name := some name }
  | none, none, some localRef => some { localRef := some localRef }
  | none, none, none => none

/-- The three references with one field. -/
theorem GroupReference.OneField.cases {ref : GroupReference} (h : ref.OneField) :
    (∃ n, ref = { name := some n }) ∨ (∃ i, ref = { id := some i }) ∨
      ∃ n, ref = { localRef := some n } := by
  obtain ⟨name, id, localRef⟩ := ref
  cases name <;> cases id <;> cases localRef <;> simp_all [GroupReference.OneField]

/-- Why a group reference was not resolved. -/
inductive GroupErr where
  | notFound
  | api (f : Fault)
  | notReady (msg : String)
  deriving DecidableEq, Repr

/-- What the lookups of a group answer: NetBird's by name and by id, and the cluster's, which
returns the group id in the status of a Group object, empty while it has none. -/
structure Groups where
  getByName : String → Except GroupErr String
  get : String → Except GroupErr String
  getLocal : String → String → Except GroupErr String

/-- The ids with that of one more reference. A reference with no field set adds none. -/
def appendGroupID (groups : Groups) (ns : String) (groupIDs : List String) (ref : GroupReference) :
    Except GroupErr (List String) :=
  match ref.name, ref.id, ref.localRef with
  | some name, _, _ => (groups.getByName name).map fun id => groupIDs ++ [id]
  | none, some id, _ => (groups.get id).map fun id => groupIDs ++ [id]
  | none, none, some name => do
    let id ← groups.getLocal ns name
    if id = "" then .error (.notReady ("group " ++ name ++ " in groups list is not ready"))
    else .ok (groupIDs ++ [id])
  | none, none, none => .ok groupIDs

/-- `GetGroupIDs`. -/
def getGroupIDs (groups : Groups) (refs : List GroupReference) (ns : String) :
    Except GroupErr (List String) :=
  refs.foldlM (appendGroupID groups ns) []

/-- The reference resolves to the group with that id. -/
def GroupReference.Resolves (groups : Groups) (ns : String) (ref : GroupReference) (id : String) :
    Prop :=
  getGroupIDs groups [ref] ns = .ok [id]

/-! ### The shared-ownership scan -/

variable {S T : Type*} {self : ℕ} {items : List (Entry (Object S T))} {p : Object S T → Bool}

/-- Whether any object other than `self`, and not being deleted, satisfies `p`. Identity is the
uid: a listed copy of `self` is skipped whatever it says. -/
def anotherLiveMatches (self : ℕ) (items : List (Entry (Object S T))) (p : Object S T → Bool) :
    Bool :=
  items.any fun other => other.id ≠ self && other.val.live && p other.val

theorem anotherLiveMatches_eq_true :
    anotherLiveMatches self items p = true ↔
      ∃ other ∈ items, other.id ≠ self ∧ other.val.live = true ∧ p other.val = true := by
  simp [anotherLiveMatches, and_assoc]

theorem anotherLiveMatches_eq_false :
    anotherLiveMatches self items p = false ↔
      ∀ other ∈ items, other.id ≠ self → other.val.live = true → p other.val = false := by
  rw [← Bool.not_eq_true, anotherLiveMatches_eq_true]
  push Not
  simp

end NetbirdOperator
