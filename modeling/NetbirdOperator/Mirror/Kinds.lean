import NetbirdOperator.DNSRecord.Model
import NetbirdOperator.DNSZone.Model
import NetbirdOperator.Mirror.Memory
import NetbirdOperator.Network.Model
import NetbirdOperator.NetworkResource.Model
import NetbirdOperator.ReverseProxyService.Apply

/-!
# The kinds with the object in memory

The `apply` functions of the five mirrored kinds once more, now with every write to the status in
the place it has in the source. Each is shown to do what the kind's model says, and to write to the
status only behind the last call that may find a dependency not ready.

What differs between the kinds is where they write. DNSZone works on a local variable and writes
once, at the end. The children, NetworkResource and DNSRecord, write the parent's id as soon as they
know it, and drop a stale id of their own before they check anything.

## Main results

* `Network.memory_implements` and its siblings — they are refined versions of the kinds' models
-/

namespace NetbirdOperator

open ControlLoop

open Mirror (inAccount ids setIDs assign Memory verifyNetbirdID)

open Mirror.Memory

namespace Mirror.Shelf

variable {A α C : Type} {sh : Shelf A α} {fault : Call C → Option Fault}

theorem neverWaits_has (c : C) (id : ℕ) : NeverWaits (sh.has fault c id) :=
  (neverWaits_call _).bind fun _ => neverWaits_read _

theorem neverWaits_update (c : C) (id : ℕ) (req : α) : NeverWaits (sh.update fault c id req) := by
  refine (neverWaits_call _).bind fun _ => (neverWaits_read _).bind fun found => ?_
  cases found with
  | true => exact (neverWaits_modify _).bind fun _ => neverWaits_pure _
  | false => exact fun _ _ msg h => by cases h

theorem neverWaits_create (c : C) (req : α) : NeverWaits (sh.create fault c req) :=
  neverWaits_sent _ _ _ _

end Mirror.Shelf

open Mirror.Shelf

/-! ### Network -/

namespace Network

variable (fault : Mirror.Call Call → Option Fault)

/-- The end of `applyNetwork`: `net.Status.NetworkID` says which of the two is sent. -/
def upsertInMemory (req : NetbirdNetwork) : Pass (Account × Recorded) Err Unit := do
  let status ← ids
  match status.networkID with
  | some id =>
    let id ← inAccount (networks.update fault .updateNetwork id req)
    setIDs fun r => { r with networkID := some id }
  | none =>
    let id ← inAccount (networks.create fault .createNetwork req)
    setIDs fun r => { r with networkID := some id }

def memory : Memory Spec Recorded Account Call where
  apply net := do
    let networkID ← inAccount
      (verifyNetbirdID net.status.recorded.networkID (networks.has fault .getNetwork))
    setIDs fun r => { r with networkID := networkID }
    upsertInMemory fault (networkRequest net.spec)
  del _ _ := deleteNetwork fault

theorem memory_implements : (memory fault).Implements (mirror fault) := by
  refine ⟨rfl, fun net => ?_⟩
  show Follows _ _ _ (applyNetwork fault net)
  rw [applyNetwork, Mirror.Shelf.upsert, Pass.bind_assoc]
  refine Follows.call (.inl rfl) fun networkID => Follows.set (Follows.ids ?_)
  cases networkID with
  | some id => exact Follows.call (.inr (neverWaits_update _ id _)) fun _ => Follows.done
  | none => exact Follows.call (.inr (neverWaits_create _ _)) fun _ => Follows.done

end Network

/-! ### NetworkResource -/

namespace NetworkResource

variable (env : Env)

/-- The end of `applyNetworkResource`: `nr.Status.ResourceID` says which of the two is sent. -/
def upsertInMemory (networkID : ℕ) (req : Resource) : Pass (Account × Recorded) Err Unit := do
  let status ← ids
  match status.resourceID with
  | some id =>
    let id ← inAccount ((resources networkID).update env.fault .updateResource id req)
    setIDs fun r => { r with resourceID := some id }
  | none =>
    let id ← inAccount ((resources networkID).create env.fault .createResource req)
    setIDs fun r => { r with resourceID := some id }

def memory : Memory Spec Recorded Account Call where
  apply nr := do
    let networkID ← inAccount (Pass.lift (resolveNetworkID env nr.spec.networkRef))
    setIDs fun r => { r with resourceID := keptID networkID r }
    setIDs fun r => { r with networkID := some networkID }
    let req ← inAccount (Pass.lift (request env nr))
    let status ← ids
    assign (fun id r => { r with resourceID := id })
      (verifyNetbirdID status.resourceID ((resources networkID).has env.fault .getResource))
    upsertInMemory env networkID req
  del _ _ := deleteNetworkResource env

theorem neverWaits_request (nr : CR) : NeverWaits (Pass.lift (request env nr) : M Resource) := by
  intro a _
  rw [Pass.lift, request]
  cases getGroupIDs env.groups nr.spec.groups nr.ns with
  | ok ids => trivial
  | error e => exact fun msg h => by cases h

theorem memory_implements : (memory env).Implements (mirror env) := by
  refine ⟨rfl, fun nr => ?_⟩
  show Follows _ _ _ (applyNetworkResource env nr)
  refine Follows.call (.inl rfl) fun networkID => Follows.set (Follows.set ?_)
  refine Follows.call (.inr (neverWaits_request env nr)) fun req => Follows.ids ?_
  rw [Mirror.Shelf.upsert, Pass.bind_assoc]
  refine Follows.assign (neverWaits_verify fun _ => neverWaits_has _ _) fun id => Follows.ids ?_
  cases id with
  | some id => exact Follows.call (.inr (neverWaits_update _ id _)) fun _ => Follows.done
  | none => exact Follows.call (.inr (neverWaits_create _ _)) fun _ => Follows.done

end NetworkResource

/-! ### DNSZone -/

namespace DNSZone

/-- The zone id is a local variable until the end, which writes it to the status. -/
def memory (env : Env) : Memory Spec Recorded Account Call where
  apply z := do
    let recorded ← inAccount (applyDNSZone env z)
    setIDs fun _ => recorded
  del := deleteDNSZone env

theorem memory_implements (env : Env) : (memory env).Implements (mirror env) := by
  refine ⟨rfl, fun z => ?_⟩
  have h : Follows z.status.recorded z.status.recorded ((memory env).apply z)
      (applyDNSZone env z >>= pure) :=
    Follows.call (.inl rfl) fun recorded => Follows.done (f := fun _ => recorded)
  rwa [Pass.bind_pure] at h

end DNSZone

/-! ### DNSRecord -/

namespace DNSRecord

def memory (env : Env) : Memory Spec Recorded Account Call where
  apply rec := do
    let zoneID ← inAccount (Pass.lift (resolveZoneID env rec.spec.zoneRef))
    setIDs fun r => { r with recordID := keptID zoneID r }
    setIDs fun r => { r with zoneID := some zoneID }
    let status ← ids
    assign (fun id r => { r with recordID := id })
      (verifyNetbirdID status.recordID (recordExists env zoneID))
    let status ← ids
    let recordID ← inAccount (adoptRecord env zoneID rec.spec status.recordID)
    setIDs fun r => { r with recordID := recordID }
    let status ← ids
    let id ← inAccount (upsertRecord env zoneID (recordRequest rec.spec) status.recordID)
    setIDs fun r => { r with recordID := some id }
  del _ _ := deleteDNSRecord env

theorem neverWaits_upsertRecord (env : Env) (zoneID : ℕ) (req : Record) (id : Option ℕ) :
    NeverWaits (upsertRecord env zoneID req id) := by
  cases id with
  | none => exact neverWaits_sent _ _ _ _
  | some id =>
    exact neverWaits_updateOrCreate (neverWaits_sent _ _ _ _) (neverWaits_sent _ _ _ _) id

theorem neverWaits_adoptRecord (env : Env) (zoneID : ℕ) (spec : Spec) (id : Option ℕ) :
    NeverWaits (adoptRecord env zoneID spec id) := by
  cases id with
  | some id => exact neverWaits_pure _
  | none => exact (neverWaits_call _).bind fun _ => neverWaits_read _

theorem memory_implements (env : Env) : (memory env).Implements (mirror env) := by
  refine ⟨rfl, fun rec => ?_⟩
  show Follows _ _ _ (applyDNSRecord env rec)
  refine Follows.call (.inl rfl) fun zoneID => Follows.set (Follows.set (Follows.ids ?_))
  refine Follows.assign (neverWaits_verify fun _ => ?_) fun recordID => Follows.ids ?_
  · exact (neverWaits_call _).bind fun _ => neverWaits_read _
  refine Follows.call (.inr (neverWaits_adoptRecord env zoneID _ _)) fun recordID => ?_
  refine Follows.set (Follows.ids ?_)
  exact Follows.call (.inr (neverWaits_upsertRecord env zoneID _ _)) fun _ => Follows.done

end DNSRecord

/-! ### ReverseProxyService -/

namespace ReverseProxyService

/-- The domain is written before the service is sent. -/
def memory (env : Env) : Memory Spec Recorded Account MirrorCall where
  apply o := do
    let cluster ← inAccount (proxyCluster env o)
    let req ← inAccount (Pass.lift (serviceRequest env o cluster.address))
    setIDs fun r => { r with serviceDomain := req.domain }
    let status ← ids
    let id ← inAccount (upsertService env req status.serviceID)
    setIDs fun r => { r with serviceID := some id }
  del _ _ := deleteReverseProxyService env

theorem neverWaits_upsertService (env : Env) (req : ServiceRequest) (id : Option ℕ) :
    NeverWaits (upsertService env req id) := by
  cases id with
  | none => exact neverWaits_sent _ _ _ _
  | some id =>
    exact neverWaits_updateOrCreate (neverWaits_sent _ _ _ _) (neverWaits_sent _ _ _ _) id

theorem memory_implements (env : Env) : (memory env).Implements (mirror env) := by
  refine ⟨rfl, fun o => ?_⟩
  show Follows _ _ _ (applyReverseProxyService env o)
  refine Follows.call (.inl rfl) fun cluster => Follows.call (.inl rfl) fun req => ?_
  refine Follows.set (Follows.ids ?_)
  exact Follows.call (.inr (neverWaits_upsertService env req _)) fun _ => Follows.done

end ReverseProxyService

end NetbirdOperator
