import NetbirdOperator.ControlLoop.Run
import NetbirdOperator.Mirror.Shelf

/-!
# The Network mirror

`internal/controller/network_mirror.go`. A Network object stands for one NetBird network. Applying
it updates the recorded network, or creates one if there is none, or none any more; there is no
adoption by name. Deleting it deletes the recorded network.

## Main definitions

* `Network.Account`, `Call` — the networks of the account, failure points
* `Network.applyNetwork`, `deleteNetwork` — the source functions
* `Network.Event`, `step` — the controller among users and other clients of the account

## Main results

* `Network.applyNetwork_triple` — an apply, whichever calls fail
-/

namespace NetbirdOperator

open ControlLoop

namespace Network

structure Spec where
  name : String
  description : String := ""
  deriving DecidableEq, Repr

/-- What a pass records. -/
structure Recorded where
  networkID : Option ℕ := none
  deriving DecidableEq, Repr

/-- The custom resource, without its uid. -/
abbrev CR := Object Spec (Mirror.Status Recorded)

/-- A network of the account, which is also what a request to create or update one says. -/
structure NetbirdNetwork where
  name : String
  description : Option String
  deriving DecidableEq, Repr

structure Account where
  networks : Store NetbirdNetwork

abbrev World := Mirror.World Spec Recorded Account

/-- The calls of this kind that can fail. -/
inductive Call where
  | getNetwork | updateNetwork | createNetwork | deleteNetwork
  deriving DecidableEq, Repr

abbrev Err := Mirror.Err Call

abbrev M := Pass Account Err

/-- The networks, as the collection a pass works on. -/
def networks : Mirror.Shelf Account NetbirdNetwork :=
  ⟨Account.networks, fun _ s => ⟨s⟩, fun _ _ => rfl⟩

def upsertCalls : Mirror.UpsertCalls Call := ⟨.getNetwork, .updateNetwork, .createNetwork⟩

/-- The request for a specification. -/
def networkRequest (spec : Spec) : NetbirdNetwork :=
  ⟨spec.name, if spec.description ≠ "" then some spec.description else none⟩

/-- `applyNetwork`. -/
def applyNetwork (fault : Mirror.Call Call → Option Fault) (net : CR) : M Recorded := do
  let id ←
    networks.upsert fault upsertCalls net.status.recorded.networkID (networkRequest net.spec)
  pure ⟨some id⟩

/-- `deleteNetwork`. -/
def deleteNetwork (fault : Mirror.Call Call → Option Fault) (net : CR) : M Unit :=
  match net.status.recorded.networkID with
  | none => pure ()
  | some id => networks.delete fault .deleteNetwork id

/-- The kind, as the mirror reconciler drives it. -/
def mirror (fault : Mirror.Call Call → Option Fault) : Mirror Spec Recorded Account Call :=
  ⟨applyNetwork fault, fun _ _ => deleteNetwork fault⟩

/-- A pass over the object with that uid. -/
def reconcile (fault : Mirror.Call Call → Option Fault) (uid : ℕ) : Pass World Err Result :=
  Mirror.reconcile fault (mirror fault) uid

/-- What happens to the world: a pass, a user's change, and what other clients do to networks. -/
inductive Event where
  | reconcile (uid : ℕ) (fault : Mirror.Call Call → Option Fault)
  | user (ev : UserEvent Spec)
  | foreignCreate (network : NetbirdNetwork)
  | foreignUpdate (id : ℕ) (network : NetbirdNetwork)
  | foreignDelete (id : ℕ)

/-- The status of an object that was never reconciled. -/
def fresh : Mirror.Status Recorded := { recorded := {} }

/-- The effect of an event. -/
def step (w : World) : Event → World
  | .reconcile uid fault => (reconcile fault uid w).2
  | .user ev => { w with objects := w.objects.submit fresh ev }
  | .foreignCreate network => { w with account := ⟨w.account.networks.create network⟩ }
  | .foreignUpdate id network => { w with account := ⟨w.account.networks.update id network⟩ }
  | .foreignDelete id => { w with account := ⟨w.account.networks.delete id⟩ }

/-- An account that no object of the kind has touched yet. -/
def initial (networks : Store NetbirdNetwork) : World := ⟨.empty, ⟨networks⟩⟩

/-! ### What they do -/

section

open Mirror.Shelf (Upserted)

open Pass

variable {fault : Mirror.Call Call → Option Fault} {net : CR} {a : Account}

/-- **Apply**, whichever calls fail. -/
theorem applyNetwork_triple :
    Triple (fun a' => a' = a) (applyNetwork fault net)
      (fun r a' => ∃ id, r = ⟨some id⟩ ∧
        Upserted networks net.status.recorded.networkID (networkRequest net.spec) a id a')
      fun _ a' => a' = a :=
  Triple.bind Mirror.Shelf.upsert_triple fun id _ h => ⟨id, rfl, h⟩

end

end Network

end NetbirdOperator
