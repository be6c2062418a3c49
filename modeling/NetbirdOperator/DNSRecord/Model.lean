import NetbirdOperator.ControlLoop.Run
import NetbirdOperator.Mirror

/-!
# The DNSRecord mirror

`internal/controller/dnsrecord_mirror.go`, with `recordMatchKey` of `serviceaddr.go` and
`resolveZoneID` of `mirror.go`. A DNSRecord object declares a record of a zone. Applying it updates
the record it has recorded, or else adopts one of the same name, type and content, or else creates
one. Deleting it deletes the recorded record.

Which zone a reference resolves to is the business of the DNSZone controller and an input here, as
is `net.ParseIP`, which gives an IP address its canonical text.

## Main definitions

* `DNSRecord.Account`, `Env`, `Call` — the records of each zone, inputs, failure points
* `DNSRecord.applyDNSRecord`, `deleteDNSRecord` — the source functions
* `DNSRecord.Event`, `step` — the controller among users and other clients of the account
-/

namespace NetbirdOperator

open ControlLoop

namespace DNSRecord

/-! ### Objects and records -/

inductive RecordType where
  | a | aaaa | cname | txt | mx | ns | srv | caa
  deriving DecidableEq, Repr

def RecordType.text : RecordType → String
  | .a => "A"
  | .aaaa => "AAAA"
  | .cname => "CNAME"
  | .txt => "TXT"
  | .mx => "MX"
  | .ns => "NS"
  | .srv => "SRV"
  | .caa => "CAA"

structure Spec where
  zoneRef : CrossNamespaceReference
  name : String
  type : RecordType
  content : String
  ttl : ℕ := 300
  deriving DecidableEq, Repr

/-- What a pass records. -/
structure Recorded where
  zoneID : Option ℕ := none
  recordID : Option ℕ := none
  deriving DecidableEq, Repr

/-- The custom resource, without its uid. -/
abbrev CR := Object Spec (Mirror.Status Recorded)

/-- A record of a zone, which is also what a request to create or update one says. -/
structure Record where
  name : String
  type : RecordType
  content : String
  ttl : ℕ
  deriving DecidableEq, Repr

/-- The account: the records of each zone, by zone id. -/
structure Account where
  zones : ℕ → Store Record

/-- The account with the records of one zone replaced. -/
def Account.set (a : Account) (z : ℕ) (records : Store Record) : Account :=
  ⟨Function.update a.zones z records⟩

abbrev World := Mirror.World Spec Recorded Account

/-- The calls of this kind that can fail. -/
inductive Call where
  | getZone | getRecord | listRecords | updateRecord | createRecord | deleteRecord
  deriving DecidableEq, Repr

abbrev Err := Mirror.Err Call

/-- The inputs of a pass that are not part of the world: `zoneStatus` is the zone id in the status
of the DNSZone object with that name, if there is one, and `parseIP` the canonical text of an IP
address. -/
structure Env where
  zoneStatus : CrossNamespaceReference → Option (Option ℕ)
  parseIP : String → Option String
  fault : Mirror.Call Call → Option Fault

abbrev M := Pass Account Err

/-! ### Calls -/

/-- The call `c`, as far as it can fail. -/
abbrev call (env : Env) (c : Call) : M Unit := Mirror.call env.fault (.own c)

/-- `DNSZones.GetRecord`, as far as it is used: whether there is such a record. -/
def recordExists (env : Env) (zoneID id : ℕ) : M Bool := do
  call env .getRecord
  Pass.read fun a => ((a.zones zoneID).get id).isSome

/-- `DNSZones.UpdateRecord`; `false` is a 404. -/
def updateRecord (env : Env) (zoneID id : ℕ) (req : Record) : M Bool := do
  call env .updateRecord
  let found ← Pass.read fun a => ((a.zones zoneID).get id).isSome
  Pass.modify fun a => a.set zoneID ((a.zones zoneID).update id req)
  pure found

/-- `DNSZones.CreateRecord`, answered with a fresh id. -/
def createRecord (env : Env) (zoneID : ℕ) (req : Record) : M ℕ := do
  call env .createRecord
  let id ← Pass.read fun a => (a.zones zoneID).next
  Pass.modify fun a => a.set zoneID ((a.zones zoneID).create req)
  pure id

/-- `DNSZones.DeleteRecord`. -/
def deleteRecord (env : Env) (zoneID id : ℕ) : M Unit := do
  call env .deleteRecord
  let found ← Pass.read fun a => (a.zones zoneID).get id
  match found with
  | none => Pass.throw (.notFound .deleteRecord)
  | some _ => Pass.modify fun a => a.set zoneID ((a.zones zoneID).delete id)

/-! ### Apply -/

/-- `resolveZoneID`, in this controller. -/
abbrev resolveZoneID (env : Env) (ref : CrossNamespaceReference) : Except Err ℕ :=
  Mirror.resolveZoneID (.api (.own .getZone)) .dependencyNotReady (env.fault (.own .getZone))
    (env.zoneStatus ref) ref

/-- The recorded record, unless it is one of another zone. -/
def keptID (zoneID : ℕ) (recorded : Recorded) : Option ℕ :=
  if recorded.zoneID ≠ none ∧ recorded.zoneID ≠ some zoneID then none else recorded.recordID

/-- `recordMatchKey`: two texts of one IP address have the same key. -/
def recordMatchKey (env : Env) (type : RecordType) (content : String) : String :=
  type.text ++ "|" ++ (env.parseIP content).getD content

/-- The record is the one the specification declares, up to its TTL. -/
def matchesSpec (env : Env) (spec : Spec) (r : Record) : Bool :=
  r.name == spec.name &&
    recordMatchKey env r.type r.content == recordMatchKey env spec.type spec.content

/-- The recorded record if there still is one, and failing that the first that matches. -/
def adoptRecord (env : Env) (zoneID : ℕ) (spec : Spec) : Option ℕ → M (Option ℕ)
  | some id => pure (some id)
  | none => do
    call env .listRecords
    Pass.read fun a => ((a.zones zoneID).first (matchesSpec env spec)).map Entry.id

/-- Update the record, or create one if there is none. -/
def upsertRecord (env : Env) (zoneID : ℕ) (req : Record) : Option ℕ → M ℕ
  | none => createRecord env zoneID req
  | some id => do
    let updated ← updateRecord env zoneID id req
    if updated then pure id else createRecord env zoneID req

/-- The request for a specification. -/
def recordRequest (spec : Spec) : Record := ⟨spec.name, spec.type, spec.content, spec.ttl⟩

/-- `applyDNSRecord`. -/
def applyDNSRecord (env : Env) (rec : CR) : M Recorded := do
  let zoneID ← Pass.lift (resolveZoneID env rec.spec.zoneRef)
  let recordID ←
    Mirror.verifyNetbirdID (keptID zoneID rec.status.recorded) (recordExists env zoneID)
  let recordID ← adoptRecord env zoneID rec.spec recordID
  let id ← upsertRecord env zoneID (recordRequest rec.spec) recordID
  pure ⟨some zoneID, some id⟩

/-! ### Delete -/

/-- `deleteDNSRecord`. -/
def deleteDNSRecord (env : Env) (rec : CR) : M Unit :=
  match rec.status.recorded.recordID, rec.status.recorded.zoneID with
  | some id, some zoneID => deleteRecord env zoneID id
  | _, _ => pure ()

/-! ### The controller among the others -/

/-- The kind, as the mirror reconciler drives it. -/
def mirror (env : Env) : Mirror Spec Recorded Account Call :=
  ⟨applyDNSRecord env, fun _ _ => deleteDNSRecord env⟩

/-- A pass over the object with that uid. -/
def reconcile (env : Env) (uid : ℕ) : Pass World Err Result :=
  Mirror.reconcile env.fault (mirror env) uid

/-- What happens to the world: a pass, a user's change, and what other clients of the account do to
the records of a zone. -/
inductive Event where
  | reconcile (uid : ℕ) (env : Env)
  | user (ev : UserEvent Spec)
  | foreignCreate (zoneID : ℕ) (record : Record)
  | foreignUpdate (zoneID id : ℕ) (record : Record)
  | foreignDelete (zoneID id : ℕ)

/-- The status of an object that was never reconciled. -/
def fresh : Mirror.Status Recorded := { recorded := {} }

/-- The effect of an event. -/
def step (w : World) : Event → World
  | .reconcile uid env => (reconcile env uid w).2
  | .user ev => { w with objects := w.objects.submit fresh ev }
  | .foreignCreate z record =>
    { w with account := w.account.set z ((w.account.zones z).create record) }
  | .foreignUpdate z id record =>
    { w with account := w.account.set z ((w.account.zones z).update id record) }
  | .foreignDelete z id => { w with account := w.account.set z ((w.account.zones z).delete id) }

/-- An account that no object of the kind has touched yet. -/
def initial (zones : ℕ → Store Record) : World := ⟨.empty, ⟨zones⟩⟩

end DNSRecord

end NetbirdOperator
