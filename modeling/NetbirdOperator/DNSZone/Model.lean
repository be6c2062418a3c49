import NetbirdOperator.ControlLoop.Run
import NetbirdOperator.ListCache
import NetbirdOperator.Mirror

/-!
# The DNSZone mirror

`internal/controller/dnszone_mirror.go` and `GetDNSZoneByName` of `internal/netbirdutil/zone.go`. A
DNSZone object declares a zone by its name. Applying it updates the zone it has recorded, or else
adopts a zone of the declared name, or else creates one; so objects that declare one name come to
share one zone. Deleting it removes the recorded zone unless another object still owns it.

The cached zone list is that of the operator's NetBird client and is only consulted to adopt.

## Main definitions

* `DNSZone.Account`, `Env`, `Call` — zones and cache, inputs, failure points
* `DNSZone.applyDNSZone`, `deleteDNSZone` — the source functions
* `DNSZone.Event`, `step` — the controller among users and other clients of the account
-/

namespace NetbirdOperator

open ControlLoop

namespace DNSZone

/-! ### Objects and zones -/

structure Spec where
  name : String
  domain : String
  distributionGroups : List GroupReference := []
  enableSearchDomain : Option Bool := none
  enabled : Bool := true
  deriving DecidableEq, Repr

/-- What a pass records. -/
structure Recorded where
  zoneID : Option ℕ := none
  deriving DecidableEq, Repr

/-- The custom resource, without its uid. -/
abbrev CR := Object Spec (Mirror.Status Recorded)

/-- A zone of the account, which is also what a request to create or update one says. -/
structure Zone where
  name : String
  domain : String
  distributionGroups : List String
  enableSearchDomain : Bool
  enabled : Bool
  deriving DecidableEq, Repr

/-- The account. The ids of the zones the operator created are a record of the run, which no pass
reads. -/
structure Account where
  zones : Store Zone
  cache : ListCache (Entry Zone)
  created : List ℕ

abbrev World := Mirror.World Spec Recorded Account

/-- The calls of this kind that can fail. -/
inductive Call where
  | getZone | listZones | refreshZones | updateZone | createZone | deleteZone | listObjects
  deriving DecidableEq, Repr

abbrev Err := Mirror.Err Call

/-- The inputs of a pass that are not part of the world. -/
structure Env where
  now : ℕ
  groups : Groups
  fault : Mirror.Call Call → Option Fault

/-- No call of the pass fails. Group lookups may still come back empty-handed. -/
def Env.FaultFree (env : Env) : Prop := ∀ c, env.fault c = none

abbrev M := Pass Account Err

/-! ### Calls -/

/-- The call `c`, as far as it can fail. -/
abbrev call (env : Env) (c : Call) : M Unit := Mirror.call env.fault (.own c)

/-- `DNSZones.GetZone`; `none` is a 404. -/
def getZone (env : Env) (id : ℕ) : M (Option Zone) := do
  call env .getZone
  Pass.read fun a => a.zones.get id

/-- `DNSZones.UpdateZone`; `false` is a 404. -/
def updateZone (env : Env) (id : ℕ) (req : Zone) : M Bool := do
  call env .updateZone
  let found ← Pass.read fun a => (a.zones.get id).isSome
  Pass.modify fun a => { a with zones := a.zones.update id req }
  pure found

/-- `DNSZones.CreateZone`, answered with a fresh id. -/
def createZone (env : Env) (req : Zone) : M ℕ := do
  call env .createZone
  let id ← Pass.read fun a => a.zones.next
  Pass.modify fun a =>
    { a with zones := a.zones.create req, created := a.created ++ [a.zones.next] }
  pure id

/-- `DNSZones.DeleteZone`. -/
def deleteZone (env : Env) (id : ℕ) : M Unit := do
  call env .deleteZone
  let found ← Pass.read fun a => a.zones.get id
  match found with
  | none => Pass.throw (.notFound .deleteZone)
  | some _ => Pass.modify fun a => { a with zones := a.zones.delete id }

/-- The outcome of listing the account's zones at the call `c`. -/
def fetchZones (env : Env) (c : Call) (a : Account) : Except Err (List (Entry Zone)) :=
  match env.fault (.own c) with
  | none => .ok a.zones.entries
  | some f => .error (.api (.own c) f)

/-- `netbirdutil.GetDNSZoneByName`; `none` is `ErrZoneNotFound`. -/
def getDNSZoneByName (env : Env) (name : String) : M (Option (Entry Zone)) := fun a =>
  let r := a.cache.lookup env.now (fetchZones env .listZones a) (fetchZones env .refreshZones a)
    fun z => z.val.name == name
  (r.1, { a with cache := r.2 })

/-! ### Apply -/

/-- The request for a specification whose groups are resolved. -/
def zoneRequest (spec : Spec) (distGroups : List String) : Zone :=
  { name := spec.name
    domain := spec.domain
    distributionGroups := distGroups
    enableSearchDomain := spec.enableSearchDomain.getD false
    enabled := spec.enabled }

/-- The request for an object, if its groups can be resolved. -/
def request (groups : Groups) (z : CR) : Except GroupErr Zone :=
  (getGroupIDs groups z.spec.distributionGroups z.ns).map (zoneRequest z.spec)

/-- Whether a zone of that id can be had. -/
def zoneExists (env : Env) (id : ℕ) : M Bool := do
  let zone ← getZone env id
  pure zone.isSome

/-- The recorded zone, if there still is one. -/
def verifyZone (env : Env) (z : CR) : M (Option ℕ) :=
  Mirror.verifyNetbirdID z.status.recorded.zoneID (zoneExists env)

/-- Failing that, an existing zone of the declared name. -/
def adoptZone (env : Env) (z : CR) : Option ℕ → M (Option ℕ)
  | some id => pure (some id)
  | none => do
    let existing ← getDNSZoneByName env z.spec.name
    pure (existing.map Entry.id)

/-- Update the zone, or create one if there is none. -/
def upsertZone (env : Env) (req : Zone) : Option ℕ → M ℕ
  | none => createZone env req
  | some id => do
    let updated ← updateZone env id req
    if updated then pure id else createZone env req

/-- `applyDNSZone`. -/
def applyDNSZone (env : Env) (z : CR) : M Recorded := do
  let req ← Pass.lift ((request env.groups z).mapError .group)
  let zoneID ← verifyZone env z
  let zoneID ← adoptZone env z zoneID
  let id ← upsertZone env req zoneID
  pure ⟨some id⟩

/-! ### Delete -/

/-- The other object owns the zone: it declares its live name, or records its id. -/
def ownsZone (id : ℕ) (zoneName : String) (other : CR) : Bool :=
  other.spec.name == zoneName || other.status.recorded.zoneID == some id

/-- `dnsZoneSharedByOther`. -/
def dnsZoneSharedByOther (env : Env) (uid : ℕ) (objects : Store CR) (id : ℕ) (zoneName : String) :
    M Bool := do
  call env .listObjects
  pure (anotherLiveMatches uid objects.entries (ownsZone id zoneName))

/-- `deleteDNSZone`. -/
def deleteDNSZone (env : Env) (uid : ℕ) (objects : Store CR) (z : CR) : M Unit :=
  match z.status.recorded.zoneID with
  | none => pure ()
  | some id => do
    let zone ← getZone env id
    match zone with
    | none => pure ()
    | some zone =>
      let shared ← dnsZoneSharedByOther env uid objects id zone.name
      if shared then pure () else deleteZone env id

/-! ### The controller among the others -/

/-- The kind, as the mirror reconciler drives it. -/
def mirror (env : Env) : Mirror Spec Recorded Account Call := ⟨applyDNSZone env, deleteDNSZone env⟩

/-- A pass over the object with that uid. -/
def reconcile (env : Env) (uid : ℕ) : Pass World Err Result :=
  Mirror.reconcile env.fault (mirror env) uid

/-- What happens to the world: a pass, a user's change, and what other clients of the account do to
its zones. -/
inductive Event where
  | reconcile (uid : ℕ) (env : Env)
  | user (ev : UserEvent Spec)
  | foreignCreate (zone : Zone)
  | foreignUpdate (id : ℕ) (zone : Zone)
  | foreignDelete (id : ℕ)

/-- The status of an object that was never reconciled. -/
def fresh : Mirror.Status Recorded := { recorded := {} }

/-- The effect of an event. -/
def step (w : World) : Event → World
  | .reconcile uid env => (reconcile env uid w).2
  | .user ev => { w with objects := w.objects.submit fresh ev }
  | .foreignCreate zone =>
    { w with account := { w.account with zones := w.account.zones.create zone } }
  | .foreignUpdate id zone =>
    { w with account := { w.account with zones := w.account.zones.update id zone } }
  | .foreignDelete id =>
    { w with account := { w.account with zones := w.account.zones.delete id } }

/-- An account that no object of the kind has touched yet. -/
def initial (zones : Store Zone) : World := ⟨.empty, ⟨zones, .new, []⟩⟩

end DNSZone

end NetbirdOperator
