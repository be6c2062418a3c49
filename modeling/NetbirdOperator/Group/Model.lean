import Mathlib.Data.Int.Notation
import NetbirdOperator.ControlLoop.Run
import NetbirdOperator.Reconcile

/-!
# The Group controller

`internal/controller/group_controller.go`. A Group object stands for one NetBird group. The object
only has a name to declare, but NetBird's update replaces the whole group, so the pass reads the
group first and sends its members back with the new name.

Others change the members too: a peer that enrolls with a setup key joins the key's groups, and so
do network resources. What a pass does to their changes depends on where they fall between its
messages, so this model is one of messages: a pass is a sequence of them, `Message` is the next one
together with what the pass has in memory, and every other event may happen between two of them.

## What is left out

The names of a group's peers, which the pass does not send back, and events.

## Main definitions

* `Group.State`, `Message`, `deliver` — a pass, message by message
* `Group.Event`, `step` — the pass among users and the account's other clients
-/

namespace NetbirdOperator

open ControlLoop

namespace Group

/-! ### Objects and groups -/

structure Spec where
  name : String
  deriving DecidableEq, Repr

structure Status where
  observedGeneration : ℤ := -1
  ready : Option Condition := none
  groupID : Option ℕ := none
  deriving DecidableEq, Repr

/-- The custom resource. -/
abbrev CR := Object Spec Status

/-- A network resource in a group. -/
structure Resource where
  id : String
  type : String
  deriving DecidableEq, Repr

/-- A group of the account, its peers by their ids. -/
structure NetbirdGroup where
  name : String
  peers : List String
  resources : List Resource
  deriving DecidableEq, Repr

/-- What can be in a group. -/
inductive Member where
  | peer (id : String)
  | resource (r : Resource)
  deriving DecidableEq, Repr

namespace NetbirdGroup

def has (g : NetbirdGroup) : Member → Bool
  | .peer id => id ∈ g.peers
  | .resource r => r ∈ g.resources

/-- The group with one member more. -/
def add (g : NetbirdGroup) : Member → NetbirdGroup
  | .peer id => if id ∈ g.peers then g else { g with peers := g.peers ++ [id] }
  | .resource r => if r ∈ g.resources then g else { g with resources := g.resources ++ [r] }

/-- The group without a member. -/
def remove (g : NetbirdGroup) : Member → NetbirdGroup
  | .peer id => { g with peers := g.peers.filter fun p => p ≠ id }
  | .resource r => { g with resources := g.resources.filter fun x => x ≠ r }

/-- The group after its member `m` was added, or removed. -/
def set (g : NetbirdGroup) (m : Member) (added : Bool) : NetbirdGroup :=
  if added then g.add m else g.remove m

end NetbirdGroup

/-- `api.GroupRequest`. -/
structure GroupRequest where
  name : String
  peers : Option (List String) := none
  resources : Option (List Resource) := none
  deriving DecidableEq, Repr

/-- The group a create or an update makes of a request. -/
def GroupRequest.group (req : GroupRequest) : NetbirdGroup :=
  ⟨req.name, req.peers.getD [], req.resources.getD []⟩

/-! ### A pass -/

/-- The next message of a pass, with the object as the pass has it in memory. -/
inductive Message where
  | patchFinalizer (o : CR)
  | getGroup (o : CR) (id : ℕ)
  | updateGroup (o : CR) (id : ℕ) (req : GroupRequest)
  | createGroup (o : CR)
  | patchReady (o : CR) (id : ℕ)
  | deleteGroup (o : CR) (id : ℕ)
  | patchRemoveFinalizer (o : CR)
  deriving DecidableEq, Repr

/-- How a pass gives up: a call failed, or the object of a patch is not there. -/
inductive Err where
  | api (f : Fault)
  | notFound
  deriving DecidableEq, Repr

/-- What another client did to a member of a group. -/
structure Op where
  group : ℕ
  member : Member
  added : Bool
  deriving DecidableEq, Repr

/-- The object, the groups of the account, the running pass if there is one, and how the last one
ended. What the others did, newest first, is a record of the run which no pass reads. -/
structure State where
  cr : Option CR
  groups : Store NetbirdGroup
  pending : Option Message
  result : Option (Except Err Result)
  others : List Op

/-- The pass goes on with a message. -/
def State.continue (s : State) (msg : Message) : State := { s with pending := some msg }

/-- The pass ends. -/
def State.finish (s : State) (r : Except Err Result) : State :=
  { s with pending := none, result := some r }

/-- `sp.Patch`, which changes of the object on the server only what the pass changed of it. An
object that is being deleted and has lost its finalizer is gone. -/
def patch (s : State) (change : CR → CR) (next : State → State) : State :=
  match s.cr with
  | none => s.finish (.error .notFound)
  | some o =>
    next { s with
      cr := if (change o).deleting ∧ ¬ (change o).finalizer then none else some (change o) }

/-- The request that gives a group the object's name and the members it was read with. -/
def updateRequest (o : CR) (g : NetbirdGroup) : GroupRequest :=
  ⟨o.spec.name, some g.peers, some g.resources⟩

def asReady (id : ℕ) (generation : ℕ) (o : CR) : CR :=
  { o with
    status :=
      { o.status with
        groupID := some id, ready := some markTrue, observedGeneration := (generation : ℤ) } }

/-- The first message after the finalizer is set: read the group on record, or create one. -/
def ensureGroup (o : CR) (s : State) : State :=
  match o.status.groupID with
  | some id => s.continue (.getGroup o id)
  | none => s.continue (.createGroup o)

/-- The group was read; a 404 is answered with a create. -/
def gotGroup (s : State) (o : CR) (id : ℕ) : Option NetbirdGroup → State
  | none => s.continue (.createGroup o)
  | some g => s.continue (.updateGroup o id (updateRequest o g))

/-- The update arrives at the account; a 404 is answered with a create. -/
def putGroup (s : State) (o : CR) (id : ℕ) (req : GroupRequest) : Option NetbirdGroup → State
  | none => s.continue (.createGroup o)
  | some _ => { s with groups := s.groups.update id req.group }.continue (.patchReady o id)

/-- The message goes through, and the pass goes on with the answer. -/
def answer (s : State) : Message → State
  | .patchFinalizer o => patch s (fun c => { c with finalizer := true }) (ensureGroup o)
  | .getGroup o id => gotGroup s o id (s.groups.get id)
  | .updateGroup o id req => putGroup s o id req (s.groups.get id)
  | .createGroup o =>
    { s with groups := s.groups.create (GroupRequest.group ⟨o.spec.name, none, none⟩) }.continue
      (.patchReady o s.groups.next)
  | .patchReady o id =>
    patch s (asReady id o.generation) fun s => s.finish (.ok ⟨some resyncInterval⟩)
  | .deleteGroup o id =>
    { s with groups := s.groups.delete id }.continue (.patchRemoveFinalizer o)
  | .patchRemoveFinalizer _ =>
    patch s (fun c => { c with finalizer := false }) fun s => s.finish (.ok ⟨none⟩)

/-- The message fails with something else than a 404. A group that is still in use is deleted later;
any other failure ends the pass. -/
def failed (s : State) : Message → Fault → State
  | .deleteGroup _ _, .conflict => s.finish (.ok ⟨some cleanupRetry⟩)
  | _, f => s.finish (.error (.api f))

/-- The pass sends its next message. -/
def deliver (s : State) (fault : Option Fault) (msg : Message) : State :=
  match fault with
  | none => answer s msg
  | some f => failed s msg f

/-- The first message of a pass over an object. -/
def firstMessage (o : CR) : Message :=
  match o.deleting, o.status.groupID with
  | false, _ => .patchFinalizer o
  | true, some id => .deleteGroup o id
  | true, none => .patchRemoveFinalizer o

/-- The start of a pass: it reads the object. One that is gone is not an error. -/
def begin (s : State) : State :=
  match s.cr with
  | none => s.finish (.ok ⟨none⟩)
  | some o => s.continue (firstMessage o)

/-! ### The pass among the others -/

/-- What happens: a pass begins or sends its next message, another client changes the members of a
group or deletes it, the user edits or deletes the object. -/
inductive Event where
  | reconcile
  | message (fault : Option Fault)
  | foreign (id : ℕ) (m : Member) (added : Bool)
  | foreignDelete (id : ℕ)
  | edit (spec : Spec)
  | delete
  deriving DecidableEq, Repr

/-- The effect of an event. There is one pass over an object at a time, and a change to a group
that is not there is refused. -/
def step (s : State) : Event → State
  | .reconcile => if s.pending.isNone then begin s else s
  | .message fault =>
    match s.pending with
    | none => s
    | some msg => deliver s fault msg
  | .foreign id m added =>
    match s.groups.get id with
    | none => s
    | some g => { s with groups := s.groups.update id (g.set m added)
                         others := ⟨id, m, added⟩ :: s.others }
  | .foreignDelete id => { s with groups := s.groups.delete id }
  | .edit spec =>
    { s with cr := s.cr.map fun o => { o with spec := spec, generation := o.generation + 1 } }
  | .delete =>
    { s with
      cr := s.cr.bind fun o => if o.finalizer then some { o with deleting := true } else none }

/-- No pass is running, and nobody has changed a group yet. -/
def State.initial (cr : Option CR) (groups : Store NetbirdGroup) : State :=
  ⟨cr, groups, none, none, []⟩

end Group

end NetbirdOperator
