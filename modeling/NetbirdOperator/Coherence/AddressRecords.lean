import NetbirdOperator.IPText
import NetbirdOperator.LoadBalancer.ListOrder

/-!
# Records of addresses

`ipFamilyOf`, `dnsRecordTypeFor` and `recordMatchKey` of `internal/controller/serviceaddr.go`, with
what `net.ParseIP`, `To4` and `String` are relied on for. Two controllers publish the addresses of a
load balancer in DNS, each with a type and the address as it is written in the status of the
Service. The mirror of DNSRecords compares records by the address that is meant.

## The value and its text

The type of a record is that of the parsed address, the content is the text. An IPv4 address can be
written like an IPv6 address, with a colon. Such a text is published as an A record, whose content
is no dotted quad. It is the only way a record can be mistyped (`published_wellTyped_iff`), and
nothing on the way from the Service to the record excludes it (`mapped_address_published`).

The keys that records are compared by are of the printed address, which is read as what it was. So
they neither conflate nor split records.

## Main results

* `AddressRecords.recordMatchKey_eq_iff` — when two records have one key
* `AddressRecords.address_records_typed_iff` — the records of both controllers, and their keys
* `AddressRecords.mapped_address_published` — a record that is mistyped
-/

namespace NetbirdOperator

open ControlLoop IPText

namespace AddressRecords

open Pass
open DNSRecord (RecordType recordMatchKey)
open LoadBalancer (Write writes childWrites dnsRecordTypeFor recordTypeOf Child Objects ObjectKey)
open ReverseProxyCluster (IPFamily FamilyAddress RecordEnv RecordCall applyRecords publish
  deleteStale addressKey)

variable {net : Codec} {type : RecordType} {s content : String}

/-! ### Classification -/

/-- `ipFamilyOf`: the family of the address that is meant. -/
def ipFamilyOf (net : Codec) (ip : String) : Option IPFamily :=
  match net.parseIP ip with
  | none => none
  | some parsed => if parsed.to4 ≠ none then some .ipv4 else some .ipv6

/-- The text of the address that is meant, as `recordMatchKey` puts it in place of the content. -/
def canonical (net : Codec) (content : String) : Option String :=
  (net.parseIP content).map net.string

/-- The record has the type that is chosen for its content. -/
def Published (net : Codec) (type : RecordType) (content : String) : Prop :=
  dnsRecordTypeFor (ipFamilyOf net) content = some type

/-- The content is of the kind the type is for. -/
def WellTyped (type : RecordType) (content : String) : Prop :=
  (type = .a ∧ DottedQuad content) ∨ (type = .aaaa ∧ ':' ∈ content.toList)

/-- An IPv4 address that is written with a colon. -/
def MappedText (net : Codec) (content : String) : Prop :=
  ':' ∈ content.toList ∧ ∃ ip, net.parseIP content = some ip ∧ ip.to4 ≠ none

theorem published_iff :
    Published net type content ↔
      ∃ ip, net.parseIP content = some ip ∧ type = if ip.to4 ≠ none then .a else .aaaa := by
  rw [Published, dnsRecordTypeFor, ipFamilyOf]
  cases net.parseIP content with
  | none => simp
  | some ip =>
    have hfamily : (if ip.to4 ≠ none then some IPFamily.ipv4 else some IPFamily.ipv6).map
        recordTypeOf = some (if ip.to4 ≠ none then .a else .aaaa) := by
      split_ifs <;> rfl
    refine (Eq.congr_left hfamily).trans ?_
    rw [Option.some.injEq, eq_comm]
    constructor
    · intro htype
      exact ⟨ip, rfl, htype⟩
    · rintro ⟨ip', hip', htype⟩
      obtain rfl : ip = ip' := Option.some.inj hip'
      exact htype

/-- **A record is mistyped only by an IPv4 address that is written with a colon.** -/
theorem published_wellTyped_iff (h : Published net type content) :
    WellTyped type content ↔ ¬ MappedText net content := by
  obtain ⟨ip, hip, rfl⟩ := published_iff.mp h
  by_cases hcolon : ':' ∈ content.toList
  · have hquad : ¬ DottedQuad content := fun hquad => hquad.colon_notMem hcolon
    by_cases h4 : ip.to4 ≠ none
    · rw [if_pos h4]
      refine ⟨fun hwell => ?_, fun hnot => absurd ⟨hcolon, ip, hip, h4⟩ hnot⟩
      rcases hwell with ⟨-, hwell⟩ | ⟨hwell, -⟩
      · exact absurd hwell hquad
      · cases hwell
    · rw [if_neg h4]
      refine ⟨fun _ => ?_, fun _ => Or.inr ⟨rfl, hcolon⟩⟩
      rintro ⟨-, ip', hip', h4'⟩
      obtain rfl : ip = ip' := Option.some.inj (hip.symm.trans hip')
      exact h4 h4'
  · obtain ⟨hquad, h4⟩ := net.dottedQuad content ip hip hcolon
    rw [if_pos (Option.isSome_iff_ne_none.mp h4)]
    exact ⟨fun _ hmapped => hcolon hmapped.1, fun _ => Or.inl ⟨rfl, hquad⟩⟩

/-! ### The records of a Service -/

theorem type_of_mem_childWrites {env : LoadBalancer.Env} {plan : LoadBalancer.Plan} {i : ℕ}
    {fas : List FamilyAddress} {key : ObjectKey} {child : Child DNSRecord.Spec}
    (h : Write.record key child ∈ childWrites env plan i fas) :
    dnsRecordTypeFor env.ipFamilyOf child.spec.content = some child.spec.type := by
  induction fas generalizing i with
  | nil => cases h
  | cons fa fas ih =>
    rw [childWrites] at h
    split at h
    · exact ih h
    · next t htype =>
      split_ifs at h with hres hrec
      · rcases List.mem_cons.mp h with h | h
        · cases h
        · rcases List.mem_cons.mp h with h | h
          · obtain ⟨-, rfl⟩ := Write.record.inj h
            exact htype
          · exact ih h
      · rcases List.mem_cons.mp h with h | h
        · cases h
        · cases h
      · cases h

/-- Every record that a pass writes has the type that is chosen for its content. -/
theorem type_of_mem_writes {env : LoadBalancer.Env} {key k : ObjectKey} {w : LoadBalancer.World}
    {child : Child DNSRecord.Spec} (h : Write.record k child ∈ writes env key w) :
    dnsRecordTypeFor env.ipFamilyOf child.spec.content = some child.spec.type := by
  rw [writes] at h
  rcases LoadBalancer.reconcile_applied env key w with
    ⟨happlied, -⟩ | ⟨svc, ns, -, -, happlied⟩
  · rw [happlied w (.refl w), List.drop_length] at h
    cases h
  · rw [happlied w (.refl w), List.drop_left] at h
    cases hnetwork : LoadBalancer.firstNetwork env w with
    | none =>
      rw [hnetwork] at h
      cases h
    | some network =>
      rw [hnetwork] at h
      exact type_of_mem_childWrites h

/-! ### The records of a proxy -/

/-- What a proxy's address records are: as before, or of the type chosen for their content. -/
def Kept (env : RecordEnv) (before s : Objects (Child DNSRecord.Spec)) : Prop :=
  ∀ t c, s.lookup (addressKey env.rpc t) = some c →
    before.lookup (addressKey env.rpc t) = some c ∨
      dnsRecordTypeFor env.ipFamilyOf c.spec.content = some c.spec.type

section

variable {env : RecordEnv} {before : Objects (Child DNSRecord.Spec)}

theorem publish_keeps (published : List RecordType) (addrs : List FamilyAddress) :
    Keeps (Kept env before) (publish env published addrs) := by
  induction addrs generalizing published with
  | nil => exact keeps_pure published
  | cons fa addrs ih =>
    rw [publish]
    split
    · exact ih published
    · next t htype =>
      split_ifs
      · exact ih published
      · refine (keeps_call _ _).bind fun _ => Keeps.bind (keeps_modify ?_) fun _ => ih _
        intro s hs t' c hc
        rw [lookup_insert_eq] at hc
        split_ifs at hc
        · obtain rfl := Option.some.inj hc
          exact Or.inr htype
        · exact hs t' c hc

theorem deleteStale_keeps (published types : List RecordType) :
    Keeps (Kept env before) (deleteStale env published types) := by
  induction types with
  | nil => exact keeps_pure ()
  | cons t types ih =>
    rw [deleteStale]
    split_ifs
    · exact ih
    · refine (keeps_call _ _).bind fun _ => Keeps.bind (keeps_modify ?_) fun _ => ih
      intro s hs t' c hc
      rw [lookup_erase_eq] at hc
      split_ifs at hc
      exact hs t' c hc

/-- Every address record that is there after `applyRecords`, wherever it gives up, was there before
or has the type that is chosen for its content. -/
theorem applyRecords_keeps (addrs : List FamilyAddress) :
    Keeps (Kept env before) (applyRecords env addrs) := by
  refine (publish_keeps [] addrs).bind fun published => ?_
  refine (deleteStale_keeps published _).bind fun _ => (keeps_call _ _).bind fun _ => ?_
  refine keeps_modify fun s hs t c hc => hs t c ?_
  rwa [lookup_insert_eq, if_neg ReverseProxyCluster.addressKey_ne_catchAll] at hc

end

/-! ### Keys -/

theorem bar_notMem_text (t : RecordType) : '|' ∉ t.text.toList := by
  cases t <;> decide

theorem text_inj {t t' : RecordType} : t.text = t'.text ↔ t = t' := by
  cases t <;> cases t' <;> decide

/-- A key tells the type, and what is put in place of the content. -/
theorem key_eq_iff {t t' : RecordType} {x y : String} :
    t.text ++ "|" ++ x = t'.text ++ "|" ++ y ↔ t = t' ∧ x = y := by
  rw [Strings.join_inj rfl (bar_notMem_text t) (bar_notMem_text t'), text_inj]

/-- The two are texts of one address. -/
def SameAddress (net : Codec) (c₁ c₂ : String) : Prop :=
  ∃ ip, net.parseIP c₁ = some ip ∧ net.parseIP c₂ = some ip

/-- A printed address is only in place of texts of that address. -/
theorem getD_canonical_eq_iff {c₁ c₂ : String} :
    (canonical net c₁).getD c₁ = (canonical net c₂).getD c₂ ↔ c₁ = c₂ ∨ SameAddress net c₁ c₂ := by
  constructor
  · rw [canonical, canonical]
    cases h₁ : net.parseIP c₁ with
    | none =>
      cases h₂ : net.parseIP c₂ with
      | none => exact Or.inl
      | some ip =>
        intro h
        obtain rfl : c₁ = net.string ip := h
        rw [net.parseIP_string] at h₁
        cases h₁
    | some ip =>
      cases h₂ : net.parseIP c₂ with
      | none =>
        intro h
        obtain rfl : net.string ip = c₂ := h
        rw [net.parseIP_string] at h₂
        cases h₂
      | some ip' =>
        intro h
        have hread : net.parseIP (net.string ip) = net.parseIP (net.string ip') :=
          congrArg net.parseIP h
        rw [net.parseIP_string, net.parseIP_string] at hread
        exact Or.inr ⟨ip', h₁.trans hread, h₂⟩
  · rintro (rfl | ⟨ip, h₁, h₂⟩)
    · rfl
    · rw [canonical, canonical, h₁, h₂]
      rfl

/-- **When two records have one key**: exactly if they have one type, and one content or contents
that are texts of one address. -/
theorem recordMatchKey_eq_iff (env : DNSRecord.Env) (t₁ t₂ : RecordType) (c₁ c₂ : String) :
    recordMatchKey { env with parseIP := canonical net } t₁ c₁ =
        recordMatchKey { env with parseIP := canonical net } t₂ c₂ ↔
      t₁ = t₂ ∧ (c₁ = c₂ ∨ SameAddress net c₁ c₂) := by
  rw [recordMatchKey, recordMatchKey, key_eq_iff, getD_canonical_eq_iff]

/-! ### The controllers -/

/-- **Records of addresses.** Every accepted text has a record type, and the records that the two
controllers publish are well typed exactly if they are not for an IPv4 address that is written with
a colon. Records are told apart by their type and the address, or the content if it is none. -/
theorem address_records_typed_iff (net : Codec) :
    (∀ content ip, net.parseIP content = some ip →
      ∃ type, dnsRecordTypeFor (ipFamilyOf net) content = some type ∧
        (WellTyped type content ↔ ¬ MappedText net content)) ∧
    (∀ (env : LoadBalancer.Env) (key k : ObjectKey) (w : LoadBalancer.World)
        (child : Child DNSRecord.Spec),
      Write.record k child ∈ writes { env with ipFamilyOf := ipFamilyOf net } key w →
        (WellTyped child.spec.type child.spec.content ↔ ¬ MappedText net child.spec.content)) ∧
    (∀ (env : RecordEnv) (addrs : List FamilyAddress) (before : Objects (Child DNSRecord.Spec))
        (type : RecordType) (child : Child DNSRecord.Spec),
      (applyRecords { env with ipFamilyOf := ipFamilyOf net } addrs before).2.lookup
          (addressKey env.rpc type) = some child →
        before.lookup (addressKey env.rpc type) = some child ∨
          (WellTyped child.spec.type child.spec.content ↔ ¬ MappedText net child.spec.content)) ∧
    ∀ (env : DNSRecord.Env) (t₁ t₂ : RecordType) (c₁ c₂ : String),
      recordMatchKey { env with parseIP := canonical net } t₁ c₁ =
          recordMatchKey { env with parseIP := canonical net } t₂ c₂ ↔
        t₁ = t₂ ∧ (c₁ = c₂ ∨ SameAddress net c₁ c₂) := by
  refine ⟨fun content ip hip => ?_, fun env key k w child h => ?_,
    fun env addrs before type child h => ?_, recordMatchKey_eq_iff⟩
  · have hpublished := published_iff.mpr ⟨ip, hip, rfl⟩
    exact ⟨_, hpublished, published_wellTyped_iff hpublished⟩
  · exact published_wellTyped_iff (type_of_mem_writes h)
  · let env' : RecordEnv := { env with ipFamilyOf := ipFamilyOf net }
    have hkept : Kept env' before (applyRecords env' addrs before).2 :=
      Triple.final (applyRecords_keeps addrs) fun _ _ h => Or.inl h
    exact (hkept type child h).imp_right published_wellTyped_iff

/-- No zones, and the addresses read as above. -/
def sampleRecordEnv : DNSRecord.Env := ⟨fun _ => none, canonical standard, fun _ => none⟩

theorem address_records_typed_plain :
    (∃ type, dnsRecordTypeFor (ipFamilyOf standard) "192.0.2.10" = some type ∧
      WellTyped type "192.0.2.10") ∧
    recordMatchKey sampleRecordEnv .aaaa "2001:0DB8:0:0:0:0:0:10" =
      recordMatchKey sampleRecordEnv .aaaa "2001:db8::10" := by
  obtain ⟨htyped, -, -, hkey⟩ := address_records_typed_iff standard
  constructor
  · obtain ⟨type, htype, hwell⟩ := htyped "192.0.2.10"
      ⟨[0, 0, 0, 0, 0, 0xffff, 0xc000, 0x020a], rfl, by decide⟩ (by decide +kernel)
    exact ⟨type, htype, hwell.mpr fun h => absurd h.1 (by decide)⟩
  · refine (hkey sampleRecordEnv .aaaa .aaaa _ _).mpr ⟨rfl, Or.inr ?_⟩
    exact ⟨⟨[0x2001, 0xdb8, 0, 0, 0, 0, 0, 0x10], rfl, by decide⟩, by decide +kernel,
      by decide +kernel⟩

/-- The record of the sample Service for an IPv4 address that is written with a colon. -/
def mappedRecord : Child DNSRecord.Spec :=
  (LoadBalancer.planOf LoadBalancer.sampleEnv LoadBalancer.sampleKey
    (LoadBalancer.sampleService []) {} ⟨"mesh", "netbird"⟩).record .a ⟨.ipv4, "::ffff:192.0.2.10"⟩

/-- **A record that is mistyped.** The address of the Service is an IPv4 address that is written
with a colon. Both controllers publish that text as an A record. -/
theorem mapped_address_published :
    let ingress := ["::ffff:192.0.2.10"]
    Write.record (LoadBalancer.childKeyOf LoadBalancer.sampleKey .ipv4) mappedRecord ∈
        writes { LoadBalancer.sampleEnv with ipFamilyOf := ipFamilyOf standard }
          LoadBalancer.sampleKey
          (LoadBalancer.sampleWorld (LoadBalancer.sampleService ingress) {}) ∧
      ((applyRecords { LoadBalancer.sampleProxy with ipFamilyOf := ipFamilyOf standard }
          (LoadBalancer.lbIngressAddresses (ipFamilyOf standard)
            (LoadBalancer.sampleService ingress)) ∅).2.lookup
          (addressKey LoadBalancer.sampleProxy.rpc .a)).map (fun c => c.spec.content) =
        some "::ffff:192.0.2.10" ∧
      ¬ WellTyped .a "::ffff:192.0.2.10" := by
  refine ⟨by decide +kernel, by decide +kernel, ?_⟩
  rintro (⟨-, hquad⟩ | ⟨h, -⟩)
  · exact hquad.colon_notMem (by decide)
  · cases h

end AddressRecords

end NetbirdOperator
