import NetbirdOperator.ControlLoop.Keyed
import NetbirdOperator.LoadBalancer.Model

/-!
# The address records of a proxy

`applyRecords` of `internal/controller/reverseproxycluster_controller.go`: the DNSRecords that let
the cluster address resolve to the proxy's load balancer, one for each IP family, and the catch-all
for its domain. A family without an address loses its record. In `ReverseProxyCluster.reconcile`
this is one call that may fail; here are the objects it writes.

The loop takes the first address of each record type. So does `serviceAddresses`, which prepares its
list, and either would do.

## Main results

* `ReverseProxyCluster.find?_serviceAddresses` — the first address of a family is kept
* `ReverseProxyCluster.applyRecords_ok` — the records that are published
-/

namespace NetbirdOperator

open ControlLoop

namespace ReverseProxyCluster

open Pass
open LoadBalancer (Objects Child ObjectKey dnsRecordTypeFor dnsRecordTTL recordTypeOf)

/-! ### Model -/

/-- The calls of `applyRecords` that can fail. -/
inductive RecordCall where
  | applyAddress (type : DNSRecord.RecordType)
  | deleteStale (type : DNSRecord.RecordType)
  | applyCatchAll
  deriving DecidableEq, Repr

/-- The inputs: what is an IP address, the object, its zone, and which calls fail. -/
structure RecordEnv where
  ipFamilyOf : String → Option IPFamily
  rpc : CR
  zone : CrossNamespaceReference
  fault : RecordCall → Option Fault

/-- A step of `applyRecords`, on the DNSRecords of the cluster. -/
abbrev RecordM := Pass (Objects (Child DNSRecord.Spec)) (RecordCall × Fault)

/-- The call `c`, as far as it can fail. -/
abbrev recordCall (env : RecordEnv) (c : RecordCall) : RecordM Unit :=
  Pass.call (env.fault c) (Prod.mk c)

/-- The text of a record type, in lower case. -/
def lowerType : DNSRecord.RecordType → String
  | .a => "a"
  | .aaaa => "aaaa"
  | .cname => "cname"
  | .txt => "txt"
  | .mx => "mx"
  | .ns => "ns"
  | .srv => "srv"
  | .caa => "caa"

/-- `proxyAddressRecordName`. -/
def proxyAddressRecordName (rpc : CR) (type : DNSRecord.RecordType) : String :=
  proxyResourceName rpc ++ "-" ++ lowerType type

/-- The name of the catch-all record. -/
def catchAllName (rpc : CR) : String := proxyResourceName rpc ++ "-catchall"

/-- The key of the record for a type. -/
def addressKey (rpc : CR) (type : DNSRecord.RecordType) : ObjectKey :=
  ⟨rpc.ns, proxyAddressRecordName rpc type⟩

/-- A record of the proxy. It has no load balancer label, and no Service controls it. -/
def proxyRecord (env : RecordEnv) (name : String) (type : DNSRecord.RecordType)
    (content : String) : Child DNSRecord.Spec where
  loadBalancer := none
  owner := none
  spec :=
    { zoneRef := env.zone, name := name, type := type, content := content, ttl := dnsRecordTTL }

/-- The record that resolves the cluster address. -/
def addressRecord (env : RecordEnv) (type : DNSRecord.RecordType) (address : String) :
    Child DNSRecord.Spec :=
  proxyRecord env env.rpc.spec.clusterAddress type address

/-- The loop over the addresses; returns the types that were published. -/
def publish (env : RecordEnv) :
    List DNSRecord.RecordType → List FamilyAddress → RecordM (List DNSRecord.RecordType)
  | published, [] => pure published
  | published, fa :: rest =>
    match dnsRecordTypeFor env.ipFamilyOf fa.address with
    | none => publish env published rest
    | some type =>
      if type ∈ published then publish env published rest
      else do
        recordCall env (.applyAddress type)
        Pass.modify fun s => s.insert (addressKey env.rpc type) (addressRecord env type fa.address)
        publish env (type :: published) rest

/-- The loop over the types: delete the record of a type that was not published. -/
def deleteStale (env : RecordEnv) (published : List DNSRecord.RecordType) :
    List DNSRecord.RecordType → RecordM Unit
  | [] => pure ()
  | type :: rest =>
    if type ∈ published then deleteStale env published rest
    else do
      recordCall env (.deleteStale type)
      Pass.modify fun s => s.erase (addressKey env.rpc type)
      deleteStale env published rest

/-- `applyRecords`. -/
def applyRecords (env : RecordEnv) (addrs : List FamilyAddress) : RecordM Unit := do
  let published ← publish env [] addrs
  deleteStale env published [.a, .aaaa]
  recordCall env .applyCatchAll
  Pass.modify fun s =>
    s.insert ⟨env.rpc.ns, catchAllName env.rpc⟩
      (proxyRecord env ("*." ++ env.rpc.spec.domain) .cname env.rpc.spec.clusterAddress)

/-! ### Names -/

theorem addressKey_inj {rpc : CR} {t t' : DNSRecord.RecordType} :
    addressKey rpc t = addressKey rpc t' ↔ t = t' := by
  refine ⟨fun h => ?_, fun h => h ▸ rfl⟩
  have hname := congrArg String.toList (congrArg ObjectKey.name h)
  simp only [addressKey, proxyAddressRecordName, String.toList_append, List.append_cancel_left_eq]
    at hname
  cases t <;> cases t' <;> simp_all [lowerType]

theorem addressKey_ne_catchAll {rpc : CR} {t : DNSRecord.RecordType} :
    (⟨rpc.ns, catchAllName rpc⟩ : ObjectKey) ≠ addressKey rpc t := by
  intro h
  have hname := congrArg String.toList (congrArg ObjectKey.name h)
  simp only [addressKey, catchAllName, proxyAddressRecordName, String.toList_append,
    List.append_assoc, List.append_cancel_left_eq] at hname
  cases t <;> simp [lowerType] at hname

/-! ### The first address of a family -/

theorem find?_foldl_serviceAddresses (f : IPFamily) (ingress out : List FamilyAddress) :
    (ingress.foldl
        (fun out fa => if out.any fun a => a.family = fa.family then out else out ++ [fa])
        out).find? (fun fa => fa.family = f) =
      (out.find? fun fa => fa.family = f).or (ingress.find? fun fa => fa.family = f) := by
  induction ingress generalizing out with
  | nil => simp
  | cons fa ingress ih =>
    rw [List.foldl_cons, ih, List.find?_cons]
    by_cases hseen : out.any fun a => a.family = fa.family
    · rw [if_pos hseen]
      by_cases hf : fa.family = f
      · -- The family was seen: what is found is found among the earlier ones.
        have hsome : (out.find? fun a => a.family = f).isSome := by
          simpa [hf] using hseen
        obtain ⟨a, ha⟩ := Option.isSome_iff_exists.mp hsome
        simp [ha]
      · simp [hf]
    · rw [if_neg hseen, List.find?_append, Option.or_assoc]
      by_cases hf : fa.family = f <;> simp [hf]

/-- **The first address of a family is kept.** -/
theorem find?_serviceAddresses (f : IPFamily) (ingress : List FamilyAddress) :
    (serviceAddresses ingress).find? (fun fa => fa.family = f) =
      ingress.find? fun fa => fa.family = f := by
  rw [serviceAddresses, find?_foldl_serviceAddresses]
  rfl

theorem mem_foldl_serviceAddresses {fa : FamilyAddress} (ingress out : List FamilyAddress)
    (h : fa ∈ ingress.foldl
      (fun out fa => if out.any fun a => a.family = fa.family then out else out ++ [fa]) out) :
    fa ∈ out ∨ fa ∈ ingress := by
  induction ingress generalizing out with
  | nil => exact .inl h
  | cons fa' ingress ih =>
    rw [List.foldl_cons] at h
    rcases ih _ h with h | h
    · split at h
      · exact .inl h
      · rcases List.mem_append.mp h with h | h
        · exact .inl h
        · exact .inr (List.mem_singleton.mp h ▸ List.mem_cons_self)
    · exact .inr (List.mem_cons_of_mem _ h)

theorem mem_of_mem_serviceAddresses {fa : FamilyAddress} {ingress : List FamilyAddress}
    (h : fa ∈ serviceAddresses ingress) : fa ∈ ingress :=
  (mem_foldl_serviceAddresses ingress [] h).resolve_left (by simp)

/-! ### What is published -/

variable {env : RecordEnv} {s s' : Objects (Child DNSRecord.Spec)}

theorem recordTypeOf_inj {f g : IPFamily} : recordTypeOf f = recordTypeOf g ↔ f = g := by
  cases f <;> cases g <;> simp [recordTypeOf]

/-- The record for a family, given its address. -/
def familyRecord (env : RecordEnv) (f : IPFamily) (fa : FamilyAddress) : Child DNSRecord.Spec :=
  addressRecord env (recordTypeOf f) fa.address

/-- What the loop over the addresses leaves: the first address of each family that was not published
before, and the families it has published in the end. -/
theorem publish_ok {addrs : List FamilyAddress}
    (haddrs : ∀ fa ∈ addrs, env.ipFamilyOf fa.address = some fa.family)
    (published : List DNSRecord.RecordType) :
    Triple (fun s' => s' = s) (publish env published addrs)
      (fun out s' =>
        (∀ f, recordTypeOf f ∈ out ↔
          recordTypeOf f ∈ published ∨ (addrs.find? fun fa => fa.family = f).isSome) ∧
        ∀ f, s'.lookup (addressKey env.rpc (recordTypeOf f)) =
          if recordTypeOf f ∈ published then s.lookup (addressKey env.rpc (recordTypeOf f))
          else ((addrs.find? fun fa => fa.family = f).map (familyRecord env f)).or
            (s.lookup (addressKey env.rpc (recordTypeOf f))))
      fun _ _ => True := by
  induction addrs generalizing published s with
  | nil =>
    intro s' hs
    exact ⟨fun f => by simp, fun f => by rw [hs]; simp⟩
  | cons fa addrs ih =>
    have hrest := fun fa hfa => haddrs fa (List.mem_cons_of_mem _ hfa)
    have htype : dnsRecordTypeFor env.ipFamilyOf fa.address = some (recordTypeOf fa.family) := by
      rw [dnsRecordTypeFor, haddrs fa List.mem_cons_self]
      rfl
    rw [publish, htype]
    dsimp only
    split
    · next hpub =>
      refine (ih hrest published).conseq (fun _ h => h) ?_ fun _ _ _ => trivial
      rintro out s' ⟨hout, hlookup⟩
      refine ⟨fun f => ?_, fun f => ?_⟩
      · rw [hout, List.find?_cons]
        by_cases hf : fa.family = f
        · subst hf; simp [hpub]
        · simp [hf]
      · rw [hlookup, List.find?_cons]
        by_cases hf : fa.family = f
        · subst hf; simp [hpub]
        · simp [hf]
    · next hpub =>
      refine Triple.bind (call_triple fun _ _ _ => trivial) fun _ => ?_
      refine Triple.bind (Q := fun _ s' => s' =
        s.insert (addressKey env.rpc (recordTypeOf fa.family))
          (addressRecord env (recordTypeOf fa.family) fa.address))
        (fun s' hs => by rw [hs]; rfl) fun _ => ?_
      refine (ih hrest _).conseq (fun _ h => h) ?_ fun _ _ _ => trivial
      rintro out s' ⟨hout, hlookup⟩
      refine ⟨fun f => ?_, fun f => ?_⟩
      · rw [hout, List.find?_cons, List.mem_cons, recordTypeOf_inj]
        by_cases hf : fa.family = f
        · simp [hf]
        · simp [hf, Ne.symm hf]
      · simp only [hlookup, List.find?_cons, List.mem_cons, lookup_insert_eq, addressKey_inj,
          recordTypeOf_inj]
        by_cases hf : fa.family = f
        · subst hf; simp [hpub, familyRecord]
        · simp [hf, Ne.symm hf]

theorem deleteStale_ok (published types : List DNSRecord.RecordType) :
    Triple (fun s' => s' = s) (deleteStale env published types)
      (fun _ s' => ∀ t, s'.lookup (addressKey env.rpc t) =
        if t ∈ types ∧ t ∉ published then none else s.lookup (addressKey env.rpc t))
      fun _ _ => True := by
  induction types generalizing s with
  | nil => exact fun s' hs t => by rw [hs]; simp
  | cons type types ih =>
    rw [deleteStale]
    split
    · next hpub =>
      refine ih.conseq (fun _ h => h) (fun _ s' h t => ?_) fun _ _ _ => trivial
      rw [h]
      by_cases ht : t = type
      · simp [ht, hpub]
      · simp [ht]
    · next hpub =>
      refine Triple.bind (call_triple fun _ _ _ => trivial) fun _ => ?_
      refine Triple.bind (Q := fun _ s' => s' = s.erase (addressKey env.rpc type))
        (fun s' hs => by rw [hs]; rfl) fun _ => ?_
      refine ih.conseq (fun _ h => h) (fun _ s' h t => ?_) fun _ _ _ => trivial
      simp only [h, lookup_erase_eq, addressKey_inj]
      by_cases ht : type = t
      · subst ht; simp [hpub]
      · simp [ht, Ne.symm ht]

/-- **The records that are published**: for each family the first of its addresses, and none for a
family without one. -/
theorem applyRecords_ok {addrs : List FamilyAddress}
    (haddrs : ∀ fa ∈ addrs, env.ipFamilyOf fa.address = some fa.family) :
    Triple (fun s' => s' = s) (applyRecords env addrs)
      (fun _ s' => ∀ f, s'.lookup (addressKey env.rpc (recordTypeOf f)) =
        (addrs.find? fun fa => fa.family = f).map (familyRecord env f))
      fun _ _ => True := by
  refine Triple.bind (publish_ok haddrs []) fun published => ?_
  refine Triple.bind (Triple.relate fun s₁ => deleteStale_ok published _) fun _ => ?_
  refine Triple.bind (call_triple fun _ _ _ => trivial) fun _ => ?_
  rintro s₂ ⟨s₁, ⟨hout, hlookup⟩, hstale⟩ f
  have hmem : recordTypeOf f ∈ [DNSRecord.RecordType.a, .aaaa] := by cases f <;> simp [recordTypeOf]
  rw [lookup_insert_eq, if_neg addressKey_ne_catchAll, hstale, hlookup]
  cases hfind : addrs.find? fun fa => fa.family = f with
  | none =>
    have hnot : recordTypeOf f ∉ published := by simp [hout, hfind]
    rw [if_pos ⟨hmem, hnot⟩]
    rfl
  | some fa =>
    have hpub : recordTypeOf f ∈ published := by simp [hout, hfind]
    rw [if_neg fun h => h.2 hpub]
    simp

end ReverseProxyCluster

end NetbirdOperator
