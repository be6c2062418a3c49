import Mathlib.Logic.Function.Basic
import NetbirdOperator.ControlLoop.Run
import NetbirdOperator.Mirror.Shelf

/-!
# The NetworkResource mirror

`internal/controller/networkresource_mirror.go`, with `resolveNetworkID` of `mirror.go`. A
NetworkResource object declares an address that is routed into a network. Applying it updates the
recorded resource, or creates one if there is none, or none any more. A resource that was recorded
in another network counts as gone with that network.

Which network a reference resolves to is the business of the Network controller and an input here.

## Main definitions

* `NetworkResource.Account`, `Env`, `Call` — the resources of each network, inputs, failure points
* `NetworkResource.applyNetworkResource`, `deleteNetworkResource` — the source functions
* `NetworkResource.Event`, `step` — the controller among users and other clients of the account

## Main results

* `NetworkResource.applyNetworkResource_triple` — an apply, whichever calls fail
-/

namespace NetbirdOperator

open ControlLoop

namespace NetworkResource

/-! ### Objects and resources -/

structure Spec where
  networkRef : CrossNamespaceReference
  name : String
  address : String
  description : String := ""
  groups : List GroupReference := []
  enabled : Bool := true
  deriving DecidableEq, Repr

/-- What a pass records. -/
structure Recorded where
  networkID : Option ℕ := none
  resourceID : Option ℕ := none
  deriving DecidableEq, Repr

/-- The custom resource, without its uid. -/
abbrev CR := Object Spec (Mirror.Status Recorded)

/-- A resource of a network, which is also what a request to create or update one says. -/
structure Resource where
  name : String
  address : String
  description : Option String
  enabled : Bool
  groups : List String
  deriving DecidableEq, Repr

/-- The account: the resources of each network, by network id. -/
structure Account where
  networks : ℕ → Store Resource

abbrev World := Mirror.World Spec Recorded Account

/-- The calls of this kind that can fail. -/
inductive Call where
  | getNetwork | getResource | updateResource | createResource | deleteResource
  deriving DecidableEq, Repr

abbrev Err := Mirror.Err Call

/-- The inputs of a pass that are not part of the world: `networkStatus` is the network id in the
status of the Network object with that name, if there is one. -/
structure Env where
  networkStatus : CrossNamespaceReference → Option (Option ℕ)
  groups : Groups
  fault : Mirror.Call Call → Option Fault

abbrev M := Pass Account Err

/-- The resources of a network, as the collection a pass works on. -/
def resources (networkID : ℕ) : Mirror.Shelf Account Resource where
  view a := a.networks networkID
  set a s := ⟨Function.update a.networks networkID s⟩
  view_set _ _ := Function.update_self ..

def upsertCalls : Mirror.UpsertCalls Call := ⟨.getResource, .updateResource, .createResource⟩

/-! ### Apply and delete -/

/-- `resolveNetworkID`, in this controller. -/
abbrev resolveNetworkID (env : Env) (ref : CrossNamespaceReference) : Except Err ℕ :=
  Mirror.resolveNetworkID (.api (.own .getNetwork)) .dependencyNotReady
    (env.fault (.own .getNetwork)) (env.networkStatus ref) ref

/-- The recorded resource, unless it is one of another network. -/
def keptID (networkID : ℕ) (recorded : Recorded) : Option ℕ :=
  if recorded.networkID ≠ none ∧ recorded.networkID ≠ some networkID then none
  else recorded.resourceID

/-- The request for a specification whose groups are resolved. -/
def resourceRequest (spec : Spec) (groupIDs : List String) : Resource where
  name := spec.name
  address := spec.address
  description := if spec.description ≠ "" then some spec.description else none
  enabled := spec.enabled
  groups := groupIDs

/-- The request for an object, if its groups can be resolved. -/
def request (env : Env) (nr : CR) : Except Err Resource :=
  ((getGroupIDs env.groups nr.spec.groups nr.ns).map (resourceRequest nr.spec)).mapError .group

/-- `applyNetworkResource`. -/
def applyNetworkResource (env : Env) (nr : CR) : M Recorded := do
  let networkID ← Pass.lift (resolveNetworkID env nr.spec.networkRef)
  let req ← Pass.lift (request env nr)
  let id ← (resources networkID).upsert env.fault upsertCalls
    (keptID networkID nr.status.recorded) req
  pure ⟨some networkID, some id⟩

/-- `deleteNetworkResource`. -/
def deleteNetworkResource (env : Env) (nr : CR) : M Unit :=
  match nr.status.recorded.resourceID, nr.status.recorded.networkID with
  | some id, some networkID => (resources networkID).delete env.fault .deleteResource id
  | _, _ => pure ()

/-! ### The controller among the others -/

/-- The kind, as the mirror reconciler drives it. -/
def mirror (env : Env) : Mirror Spec Recorded Account Call :=
  ⟨applyNetworkResource env, fun _ _ => deleteNetworkResource env⟩

/-- A pass over the object with that uid. -/
def reconcile (env : Env) (uid : ℕ) : Pass World Err Result :=
  Mirror.reconcile env.fault (mirror env) uid

/-- What happens to the world: a pass, a user's change, and what other clients do to the resources
of a network. -/
inductive Event where
  | reconcile (uid : ℕ) (env : Env)
  | user (ev : UserEvent Spec)
  | foreignCreate (networkID : ℕ) (resource : Resource)
  | foreignUpdate (networkID id : ℕ) (resource : Resource)
  | foreignDelete (networkID id : ℕ)

/-- The status of an object that was never reconciled. -/
def fresh : Mirror.Status Recorded := { recorded := {} }

/-- The effect of an event. -/
def step (w : World) : Event → World
  | .reconcile uid env => (reconcile env uid w).2
  | .user ev => { w with objects := w.objects.submit fresh ev }
  | .foreignCreate n resource =>
    { w with account := (resources n).set w.account ((w.account.networks n).create resource) }
  | .foreignUpdate n id resource =>
    { w with account := (resources n).set w.account ((w.account.networks n).update id resource) }
  | .foreignDelete n id =>
    { w with account := (resources n).set w.account ((w.account.networks n).delete id) }

/-- An account that no object of the kind has touched yet. -/
def initial (networks : ℕ → Store Resource) : World := ⟨.empty, ⟨networks⟩⟩

/-! ### What they do -/

section

open Mirror.Shelf (Upserted)

open Pass

variable {env : Env} {nr : CR} {a : Account}

/-- **Apply**, whichever calls fail. -/
theorem applyNetworkResource_triple :
    Triple (fun a' => a' = a) (applyNetworkResource env nr)
      (fun r a' => ∃ n req id, resolveNetworkID env nr.spec.networkRef = .ok n ∧
        request env nr = .ok req ∧ r = ⟨some n, some id⟩ ∧
        Upserted (resources n) (keptID n nr.status.recorded) req a id a')
      fun _ a' => a' = a := by
  intro a' ha
  cases hn : resolveNetworkID env nr.spec.networkRef with
  | error e =>
    rw [applyNetworkResource, hn]
    exact ha
  | ok n =>
    cases hreq : request env nr with
    | error e =>
      rw [applyNetworkResource, hn, hreq]
      exact ha
    | ok req =>
      rw [applyNetworkResource, hn, hreq]
      have hupsert : Triple (fun a' => a' = a) ((resources n).upsert env.fault upsertCalls
          (keptID n nr.status.recorded) req >>= fun id => pure ⟨some n, some id⟩ : M Recorded)
          (fun r a' => ∃ n' req' id, (.ok n : Except Err ℕ) = .ok n' ∧
            (.ok req : Except Err Resource) = .ok req' ∧ r = ⟨some n', some id⟩ ∧
            Upserted (resources n') (keptID n' nr.status.recorded) req' a id a')
          fun _ a' => a' = a :=
        Triple.bind Mirror.Shelf.upsert_triple fun id _ h => ⟨n, req, id, rfl, rfl, rfl, h⟩
      exact hupsert a' ha

end

end NetworkResource

end NetbirdOperator
