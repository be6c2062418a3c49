import NetbirdOperator.Coherence.Finalizers
import NetbirdOperator.Mirror.Truth
import NetbirdOperator.NetworkResource.Model
import NetbirdOperator.ReverseProxyService.Rendering

/-!
# Kinds whose `Ready` can be trusted

Three of the mirrored kinds never adopt what they find: Network, NetworkResource and
ReverseProxyService write to the entry they have on record, or to a new one. So each of their
objects has an entry to itself, and `Mirror.PrivateKind` applies. A DNSRecord or a DNSZone adopts a
namesake, and two of them may come to share an entry, which is why they are not among the three.

The three differ in where the entries are and in what is asked for. A resource lives in a network,
and the pair of both ids is its key; asking for it includes the network its reference resolves to. A
service is rendered from what the pass reads of the cluster.

## Main results

* `ReadyTruth.ready_truthful` — an object that is `Ready` for its generation has what it asks for
-/

namespace NetbirdOperator

open ControlLoop

open Pass

namespace ReadyTruth

open Mirror.Shelf (Upserted)

/-! ### Networks -/

/-- A delete of a Network, as far as the entries go. -/
theorem deleteNetwork_frame (fault : Mirror.Call Network.Call → Option Fault) (net : Network.CR)
    (a : Network.Account) (i : ℕ) :
    (i < a.networks.next → i < (Network.deleteNetwork fault net a).2.networks.next) ∧
      ((Network.deleteNetwork fault net a).2.networks.get i = a.networks.get i ∨
        net.status.recorded.networkID = some i) := by
  rw [Network.deleteNetwork]
  cases net.status.recorded.networkID with
  | none => exact ⟨id, .inl rfl⟩
  | some id => exact Mirror.Shelf.delete_leaves Network.networks fault .deleteNetwork id a i

def networkKind : Mirror.PrivateKind where
  fault := id
  mirror := Network.mirror
  fresh := {}
  WellFormed _ := True
  key r := r.networkID
  get a i := a.networks.get i
  Issued a i := i < a.networks.next
  Asks _ o _ x := x = Network.networkRequest o.spec
  asks_congr _ _ hspec hx := by rw [hx, hspec]
  wellFormed_fresh := trivial
  key_fresh := rfl
  failed fault net a e _ he i := by
    have hsame : (Network.applyNetwork fault net a).2 = a :=
      Network.applyNetwork_triple.error rfl (Prod.ext he rfl)
    exact ⟨fun hi => (congrArg (fun a => i < a.networks.next) hsame).mpr hi,
      congrArg (fun a => a.networks.get i) hsame⟩
  returned fault net a r _ hr := by
    obtain ⟨id, rfl, h⟩ := Network.applyNetwork_triple.ok rfl (Prod.ext hr rfl)
    exact ⟨trivial, id, _, rfl, h.own_or_new, h.lt_next, h.get, rfl, fun i =>
      ⟨fun hi => Nat.lt_of_lt_of_le hi h.next_le, h.get_of_ne⟩⟩
  deleted fault _ _ net a i := deleteNetwork_frame fault net a i

/-! ### Resources -/

section Resources

open NetworkResource (Account Recorded resources request resolveNetworkID applyNetworkResource
  deleteNetworkResource keptID applyNetworkResource_triple)

/-- The key of a resource: its network and its id in it. -/
def resourceKey (r : Recorded) : Option (ℕ × ℕ) :=
  r.networkID.bind fun n => r.resourceID.map fun i => (n, i)

/-- A resource is on record with its network. -/
def Located (r : Recorded) : Prop := r.resourceID.isSome = true → r.networkID.isSome = true

theorem resourceKey_of_kept {r : Recorded} (hr : Located r) {n i : ℕ}
    (h : keptID n r = some i) : resourceKey r = some (n, i) := by
  unfold keptID at h
  split at h
  · cases h
  · next hother =>
    obtain ⟨p, hp⟩ := Option.isSome_iff_exists.mp (hr (by rw [h]; rfl))
    obtain rfl : p = n := by simpa [hp] using hother
    rw [resourceKey, hp, h]
    rfl

/-- Writing the resources of one network leaves those of the others. -/
theorem networks_set_of_ne {a : Account} {n n' : ℕ} (hne : n' ≠ n)
    (s : Store NetworkResource.Resource) :
    ((resources n).set a s).networks n' = a.networks n' := by
  show Function.update a.networks n s n' = a.networks n'
  rw [Function.update_of_ne hne]

/-- An upsert of a resource, as far as all networks go. -/
theorem upserted_frame {a a' : Account} {n id : ℕ} {recorded : Option ℕ}
    {req : NetworkResource.Resource} (h : Upserted (resources n) recorded req a id a') (i : ℕ × ℕ) :
    (i.2 < (a.networks i.1).next → i.2 < (a'.networks i.1).next) ∧
      (i ≠ (n, id) → (a'.networks i.1).get i.2 = (a.networks i.1).get i.2) := by
  obtain ⟨n', j⟩ := i
  by_cases hn : n' = n
  · subst hn
    exact ⟨fun hj => Nat.lt_of_lt_of_le hj h.next_le,
      fun hne => h.get_of_ne fun hj => hne (Prod.ext rfl hj)⟩
  · have hsame : a'.networks n' = a.networks n' := by
      cases h with
      | updated _ _ => exact networks_set_of_ne hn _
      | created _ => exact networks_set_of_ne hn _
    dsimp only
    rw [hsame]
    exact ⟨fun hj => hj, fun _ => rfl⟩

theorem deleteNetworkResource_frame (env : NetworkResource.Env) (nr : NetworkResource.CR)
    (a : Account) (i : ℕ × ℕ) :
    (i.2 < (a.networks i.1).next →
        i.2 < ((deleteNetworkResource env nr a).2.networks i.1).next) ∧
      (((deleteNetworkResource env nr a).2.networks i.1).get i.2 = (a.networks i.1).get i.2 ∨
        resourceKey nr.status.recorded = some i) := by
  obtain ⟨n', j⟩ := i
  rw [deleteNetworkResource, resourceKey]
  cases nr.status.recorded.resourceID with
  | none => exact ⟨id, .inl rfl⟩
  | some id =>
    cases nr.status.recorded.networkID with
    | none => exact ⟨fun h => h, .inl rfl⟩
    | some n =>
      dsimp only
      by_cases hn : n' = n
      · subst hn
        have hleaves := Mirror.Shelf.delete_leaves (resources n') env.fault .deleteResource id a j
        exact hleaves.imp_right fun h => h.imp_right (congrArg (Option.map (Prod.mk n')))
      · rcases Mirror.Shelf.delete_frame (resources n) env.fault .deleteResource id a with
          h | h <;> rw [h]
        · exact ⟨fun hj => hj, .inl rfl⟩
        · rw [networks_set_of_ne hn]
          exact ⟨fun hj => hj, .inl rfl⟩

def resourceKind : Mirror.PrivateKind where
  fault env := env.fault
  mirror := NetworkResource.mirror
  fresh := {}
  WellFormed := Located
  key := resourceKey
  get a i := (a.networks i.1).get i.2
  Issued a i := i.2 < (a.networks i.1).next
  Asks env o i x := resolveNetworkID env o.spec.networkRef = .ok i.1 ∧ request env o = .ok x
  asks_congr hns _ hspec hx := by
    rw [request, hspec, hns]
    exact hx
  wellFormed_fresh h := by cases h
  key_fresh := rfl
  failed env nr a e _ he i := by
    have hsame : (applyNetworkResource env nr a).2 = a :=
      applyNetworkResource_triple.error rfl (Prod.ext he rfl)
    exact ⟨fun hi => (congrArg (fun a : Account => i.2 < (a.networks i.1).next) hsame).mpr hi,
      congrArg (fun a : Account => (a.networks i.1).get i.2) hsame⟩
  returned env nr a r hwf hr := by
    obtain ⟨n, req, id, hn, hreq, rfl, h⟩ := applyNetworkResource_triple.ok rfl (Prod.ext hr rfl)
    refine ⟨fun _ => rfl, (n, id), req, rfl, ?_, h.lt_next, h.get, ⟨hn, hreq⟩, upserted_frame h⟩
    exact h.own_or_new.imp_left (resourceKey_of_kept hwf)
  deleted env _ _ nr a i := deleteNetworkResource_frame env nr a i

end Resources

/-! ### Services -/

section Services

open ReverseProxyService (Account ServiceRequest serviceRequest sentRequest sentRequest_eq_some
  proxyCluster_ok proxyCluster_services applyReverseProxyService applyReverseProxyService_eq
  deleteReverseProxyService services deleteService_eq)

/-- An apply of a service, by its outcome. -/
theorem applyService_cases (env : ReverseProxyService.Env) (o : ReverseProxyService.CR)
    (a : Account) :
    ((∃ e, (applyReverseProxyService env o a).1 = .error e) ∧
        (applyReverseProxyService env o a).2.services = a.services) ∨
      ∃ b req id, b.services = a.services ∧ serviceRequest env o o.spec.proxyCluster = .ok req ∧
        (applyReverseProxyService env o a).1 = .ok ⟨some id, req.domain⟩ ∧
        Upserted services o.status.recorded.serviceID req b id
          (applyReverseProxyService env o a).2 := by
  have heq := applyReverseProxyService_eq env o a
  have hsame := proxyCluster_services env o a
  cases hsent : sentRequest env o a with
  | none =>
    rw [hsent] at heq
    obtain ⟨e, he⟩ := heq
    rw [he]
    exact .inl ⟨⟨e, rfl⟩, hsame⟩
  | some req =>
    rw [hsent] at heq
    obtain ⟨found, hfound, hreq⟩ := sentRequest_eq_some.mp hsent
    rw [proxyCluster_ok hfound] at hreq
    obtain ⟨r, s, hstored, happly⟩ := heq
    rw [happly]
    let b : Account := { (ReverseProxyService.proxyCluster env o a).2 with services := a.services }
    cases hstored with
    | @updated id hrec hhas _ =>
      have hupserted : Upserted services o.status.recorded.serviceID req b id
          (services.set b (a.services.update id req)) := .updated hrec hhas
      exact .inr ⟨b, req, id, rfl, hreq, rfl, hupserted⟩
    | created hgone _ =>
      have hupserted : Upserted services o.status.recorded.serviceID req b a.services.next
          (services.set b (a.services.create req)) := .created fun id hid => (hgone id hid).1
      exact .inr ⟨b, req, _, rfl, hreq, rfl, hupserted⟩
    | notUpdated _ _ => exact .inl ⟨⟨_, rfl⟩, rfl⟩
    | notCreated _ _ => exact .inl ⟨⟨_, rfl⟩, rfl⟩

theorem deleteService_frame (env : ReverseProxyService.Env) (o : ReverseProxyService.CR)
    (a : Account) (i : ℕ) :
    (i < a.services.next → i < (deleteReverseProxyService env o a).2.services.next) ∧
      ((deleteReverseProxyService env o a).2.services.get i = a.services.get i ∨
        o.status.recorded.serviceID = some i) := by
  rw [deleteReverseProxyService]
  cases o.status.recorded.serviceID with
  | none => exact ⟨id, .inl rfl⟩
  | some id =>
    dsimp only
    rw [deleteService_eq]
    exact Mirror.Shelf.delete_leaves services env.fault .deleteService id a i

def serviceKind : Mirror.PrivateKind where
  fault env := env.fault
  mirror := ReverseProxyService.mirror
  fresh := {}
  WellFormed _ := True
  key r := r.serviceID
  get a i := a.services.get i
  Issued a i := i < a.services.next
  Asks env o _ x := serviceRequest env o o.spec.proxyCluster = .ok x
  asks_congr hns hname hspec hx := by
    rw [ReverseProxyService.serviceRequest_congr hns hname hspec, hspec]
    exact hx
  wellFormed_fresh := trivial
  key_fresh := rfl
  failed env o a e _ he i := by
    rcases applyService_cases env o a with ⟨-, hsame⟩ | ⟨b, req, id, -, -, hok, -⟩
    · exact ⟨fun hi => (congrArg (fun s : Store ServiceRequest => i < s.next) hsame).mpr hi,
        congrArg (fun s : Store ServiceRequest => s.get i) hsame⟩
    · exact absurd (he.symm.trans hok) (by simp)
  returned env o a r _ hr := by
    rcases applyService_cases env o a with ⟨⟨e, he⟩, -⟩ | ⟨b, req, id, hb, hreq, hok, h⟩
    · exact absurd (he.symm.trans hr) (by simp)
    · obtain rfl := Except.ok.inj (hok.symm.trans hr)
      have hview : services.view b = a.services := hb
      have hnew := h.own_or_new
      have hle := h.next_le
      have hframe := fun i => h.get_of_ne (i := i)
      simp only [hview] at hnew hle hframe
      exact ⟨trivial, id, req, rfl, hnew, h.lt_next, h.get, hreq, fun i =>
        ⟨fun hi => Nat.lt_of_lt_of_le hi hle, hframe i⟩⟩
  deleted env _ _ o a i := deleteService_frame env o a i

end Services

/-! ### The three kinds -/

inductive Kind where
  | network | resource | service
  deriving DecidableEq, Repr

def Kind.kind : Kind → Mirror.PrivateKind
  | .network => networkKind
  | .resource => resourceKind
  | .service => serviceKind

/-- **`Ready` can be trusted.** An object of one of the three kinds is `Ready` for its generation,
in some state of a run in which other clients create and delete entries, but update none. Then it
has an entry on record, and under it there is nothing but what its specification asks for, as some
pass of the run resolved it; if other clients deleted nothing, it is there. -/
theorem ready_truthful (kind : Kind) (a : kind.kind.A) (lossless : Prop)
    (es : List kind.kind.Event)
    (h : Along es fun pre ev => ∀ a', ev = .account a' →
      kind.kind.Spares lossless (run kind.kind.step (kind.kind.start a) pre).account a')
    (e : Entry (Object kind.kind.S (Mirror.Status kind.kind.R)))
    (he : e ∈ (run kind.kind.step (kind.kind.start a) es).objects)
    (hlive : e.val.deleting = false) (hready : Mirror.PrivateKind.isReady e.val) :
    ∃ i, kind.kind.key e.val.status.recorded = some i ∧
      (∀ x, kind.kind.get (run kind.kind.step (kind.kind.start a) es).account i = some x →
        ∃ uid env, .reconcile uid env ∈ es ∧ kind.kind.Asks env e.val i x) ∧
      (lossless →
        ∃ x, kind.kind.get (run kind.kind.step (kind.kind.start a) es).account i = some x) := by
  obtain ⟨i, hkey, hasks, hpresent⟩ := Mirror.PrivateKind.truthful_of_run a
    (Mirror.PrivateKind.allowed_of_spares h) he hlive hready
  refine ⟨i, hkey, fun x hx => ?_, hpresent⟩
  obtain ⟨env, ⟨uid, hmem⟩, hx⟩ := hasks x hx
  exact ⟨uid, env, hmem, hx⟩

/-- Another client creates a network. -/
theorem spares_create (a : Network.Account) (x : Network.NetbirdNetwork) :
    networkKind.Spares True a ⟨a.networks.create x⟩ :=
  ⟨fun _ hi => Nat.lt_succ_of_lt hi, fun _ hi => .inl (Store.get_create_of_ne (Nat.ne_of_lt hi))⟩

/-- A network is declared, and a pass over it goes through. -/
def declaredNetwork : List networkKind.Event :=
  [.user (.create "infra" "lab" ({ name := "lab" } : Network.Spec)), .reconcile 0 fun _ => none]

/-- Then another client creates one. -/
def crowdedAccount : List networkKind.Event :=
  declaredNetwork ++ [.account ⟨(run networkKind.step (networkKind.start ⟨.empty⟩)
    declaredNetwork).account.networks.create ⟨"other", none⟩⟩]

theorem ready_truthful_crowded :
    ∃ e ∈ (run networkKind.step (networkKind.start ⟨.empty⟩) crowdedAccount).objects,
      ∃ i x, networkKind.get (run networkKind.step (networkKind.start ⟨.empty⟩)
        crowdedAccount).account i = some x ∧ x = Network.networkRequest e.val.spec := by
  have hspares : Along crowdedAccount fun pre ev => ∀ a', ev = .account a' →
      networkKind.Spares True
        (run networkKind.step (networkKind.start ⟨.empty⟩) pre).account a' := by
    refine along_concat.mpr ⟨along_cons.mpr ⟨?_, along_cons.mpr ⟨?_, along_nil⟩⟩, ?_⟩
    · exact fun a' h => by cases h
    · exact fun a' h => by cases h
    · rintro a' ⟨⟩
      exact spares_create _ _
  obtain ⟨e, he, hlive, hready, hobserved⟩ :
      ∃ e ∈ (run networkKind.step (networkKind.start ⟨.empty⟩) crowdedAccount).objects.entries,
        e.val.deleting = false ∧ e.val.status.ready.any Condition.status = true ∧
          e.val.status.observedGeneration = e.val.generation := by decide +kernel
  obtain ⟨i, -, hasks, hpresent⟩ := ready_truthful .network ⟨.empty⟩ True crowdedAccount hspares
    e he hlive ⟨hready, hobserved⟩
  obtain ⟨x, hx⟩ := hpresent trivial
  obtain ⟨uid, env, -, hask⟩ := hasks x hx
  exact ⟨e, he, i, x, hx, hask⟩

end ReadyTruth

end NetbirdOperator
