import NetbirdOperator.DNSRecord.Adoption
import NetbirdOperator.DNSZone.Adoption
import NetbirdOperator.Group.LostWrites
import NetbirdOperator.Mirror.LostWrites
import NetbirdOperator.Network.Model
import NetbirdOperator.NetworkResource.Model
import NetbirdOperator.NetworkRouter.Effects

/-!
# One object in the account, whichever status writes are lost

A controller creates an object in the account and writes its id into the status of the custom
resource. When the write is lost, the next pass starts from the old status, and what it does then
depends on whether the kind looks for its object.

DNSZone and DNSRecord do: they adopt by name and by content, so the next pass finds what the last
one created. Network, NetworkResource, NetworkRouter and Group know their object by the recorded id
alone. A pass of theirs that creates and does not get to write the id down leaves an object that no
pass finds again; the next one creates another, and the deletion of the resource removes that one
only.

Here there is one resource with a fixed specification, inside a fixed network where its kind has
one, and nobody else works on the account. Any call of any pass may fail, and the user may ask for
the deletion at any time.

## Main results

* `dns_created_once` — the kinds that adopt
* `mirrored_iff_recorded` — the kinds that do not: one object for one resource exactly if the status
  write of each pass that creates goes through
* `lost_write_duplicates` — what happens otherwise, in each of the four kinds
-/

namespace NetbirdOperator

open ControlLoop Ledger

/-- The write of the status is lost, and nothing else fails. -/
def Mirror.statusLost {C : Type} : Mirror.Call C → Option Fault
  | .patchReady => some .other
  | _ => none

/-! ### Network -/

namespace Network

open Pass

variable {w : World} {fault : Mirror.Call Call → Option Fault}

/-- One object that was just declared, in an account with any networks. -/
def single (networks : Store NetbirdNetwork) (ns name : String) (spec : Spec) : World :=
  step (initial networks) (.user (.create ns name spec))

theorem get_single (networks : Store NetbirdNetwork) (ns name : String) (spec : Spec) :
    (single networks ns name spec).objects.get 0 =
      some ⟨ns, name, 1, false, false, spec, fresh⟩ := rfl

/-- A pass over the object, or its deletion by the user. -/
def Alone : Event → Prop
  | .reconcile uid _ => uid = 0
  | .user ev => ev = .delete 0
  | _ => False

/-- The object and the networks. -/
def ledger (w : World) : Ledger NetbirdNetwork := Mirror.ledger Recorded.networkID networks 0 w

/-- A pass over the object creates a network. -/
def Creates (fault : Mirror.Call Call → Option Fault) (uid : ℕ) (w : World) : Prop :=
  Mirror.Creates fault uid w fun o =>
    networks.Creates fault upsertCalls o.status.recorded.networkID w.account

instance (uid : ℕ) (w : World) : Decidable (Creates fault uid w) :=
  inferInstanceAs (Decidable (_ ∧ _ ∧ ∃ o ∈ w.objects.get uid, _ ∧ networks.Creates _ _ _ _))

/-- A pass that creates a network gets to write its id down. -/
def Records (w : World) : Event → Prop
  | .reconcile uid fault => Creates fault uid w → fault .patchReady = none
  | _ => True

instance (w : World) (e : Event) : Decidable (Records w e) := by
  cases e <;> dsimp only [Records] <;> infer_instance

theorem deleteNetwork_triple (net : CR) (a : Account) :
    Triple (fun a' => a' = a) (deleteNetwork fault net)
      (fun _ a' => a'.networks = without a.networks net.status.recorded.networkID)
      fun e a' => a' = a ∧ (e.isNotFound = true →
        ∀ i, net.status.recorded.networkID = some i → ¬ a.networks.Has i) := by
  rw [deleteNetwork]
  cases net.status.recorded.networkID with
  | none =>
    rintro a' rfl
    rfl
  | some id =>
    refine (Mirror.Shelf.delete_triple Call.deleteNetwork id).conseq (fun _ h => h) ?_ ?_
    · rintro _ a' rfl
      rfl
    · rintro e a' ⟨rfl, hgone⟩
      exact ⟨rfl, fun hnf i hi => Option.some.inj hi ▸ hgone hnf⟩

theorem keeper (fault : Mirror.Call Call → Option Fault) (w : World) (o : CR) :
    Mirror.Keeper (mirror fault) networks Recorded.networkID 0 w o
      (networks.Creates fault upsertCalls o.status.recorded.networkID w.account) where
  apply := by
    refine applyNetwork_triple.conseq (fun _ h => h) ?_ fun _ _ h => h
    rintro r a ⟨id, rfl, hups⟩
    exact ⟨id, _, rfl, hups⟩
  grows := by
    rw [← Mirror.Shelf.upsert_grows_iff (networkRequest o.spec), ← snd_bind_pure _ fun id =>
      (⟨some id⟩ : Recorded)]
    rfl
  del := deleteNetwork_triple o w.account

theorem keepsBooks :
    KeepsBooks step ledger (Mirror.Unheld Recorded.networkID 0) (fun _ e => Alone e) Records where
  inv w e hw he := by
    cases e with
    | reconcile uid fault =>
      obtain rfl : uid = 0 := he
      exact hw.reconcile
    | user ev =>
      obtain rfl : ev = .delete 0 := he
      exact hw.submit_delete fresh
    | foreignCreate | foreignUpdate | foreignDelete => exact he.elim
  books w e hw he := by
    cases e with
    | reconcile uid fault =>
      obtain rfl : uid = 0 := he
      exact Mirror.reconcile_books fun o _ => keeper fault w o
    | user ev =>
      obtain rfl : ev = .delete 0 := he
      exact (Mirror.submit_delete_books hw fresh).books
    | foreignCreate | foreignUpdate | foreignDelete => exact he.elim

/-- What holds of every run of the one object. -/
def MirroredIffRecorded (ns name : String) : Prop :=
  ∀ (networks : Store NetbirdNetwork) (spec : Spec) (es : List Event),
    (∀ e ∈ es, Alone e) → Faithful step ledger Records (single networks ns name spec) es

theorem mirroredIffRecorded (ns name : String) : MirroredIffRecorded ns name := by
  intro networks spec es hes
  refine keepsBooks.faithful (fun o hget _ => ?_) (along_of_forall hes) rfl
  obtain rfl := Option.some.inj ((get_single networks ns name spec).symm.trans hget)
  rfl

/-- An object that was just declared, in an empty account. -/
def declared : World := single .empty "apps" "net" { name := "net" }

/-- Two passes, of which the first loses its status write. -/
def lostRun : List Event := [.reconcile 0 Mirror.statusLost, .reconcile 0 fun _ => none]

/-- The object is deleted and let go. -/
def removal : List Event := [.user (.delete 0), .reconcile 0 fun _ => none]

end Network

/-! ### NetworkResource -/

namespace NetworkResource

open Pass

variable {w : World} {env : Env} {spec : Spec} {n : ℕ} {networks₀ : ℕ → Store Resource}

/-- One object that was just declared, in an account with any resources. -/
def single (networks : ℕ → Store Resource) (ns name : String) (spec : Spec) : World :=
  step (initial networks) (.user (.create ns name spec))

theorem mem_single {networks : ℕ → Store Resource} {ns name : String} {e : Entry CR}
    (he : e ∈ (single networks ns name spec).objects) :
    e = ⟨0, ⟨ns, name, 1, false, false, spec, fresh⟩⟩ :=
  List.mem_singleton.mp he

/-- A pass over the object, which finds no other network than `n`, or its deletion by the user. -/
def Alone (spec : Spec) (n : ℕ) : Event → Prop
  | .reconcile uid env =>
    uid = 0 ∧ ∀ n', env.networkStatus spec.networkRef = some (some n') → n' = n
  | .user ev => ev = .delete 0
  | _ => False

/-- The object and the resources of its network. -/
def ledger (n : ℕ) (w : World) : Ledger Resource :=
  Mirror.ledger Recorded.resourceID (resources n) 0 w

/-- The apply of the object creates a resource of the network `n`. -/
def ApplyCreates (n : ℕ) (env : Env) (a : Account) (o : CR) : Prop :=
  resolveNetworkID env o.spec.networkRef = .ok n ∧ (∃ req, request env o = .ok req) ∧
    (resources n).Creates env.fault upsertCalls (keptID n o.status.recorded) a

/-- A pass that creates a resource gets to write its id down. -/
def Records (n : ℕ) (w : World) : Event → Prop
  | .reconcile uid env =>
    Mirror.Creates env.fault uid w (ApplyCreates n env w.account) → env.fault .patchReady = none
  | _ => True

/-- The recorded resource, if there is one, is one of the network `n`. -/
def InNetwork (n : ℕ) (r : Recorded) : Prop := ∀ id, r.resourceID = some id → r.networkID = some n

theorem InNetwork.keptID {r : Recorded} (h : InNetwork n r) : keptID n r = r.resourceID := by
  rw [NetworkResource.keptID]
  cases hid : r.resourceID with
  | none => exact ite_self none
  | some id => rw [if_neg (by simp [h id hid])]

theorem deleteNetworkResource_triple {nr : CR} (h : InNetwork n nr.status.recorded) (a : Account) :
    Triple (fun a' => a' = a) (deleteNetworkResource env nr)
      (fun _ a' => a' = (resources n).set a
        (without (a.networks n) nr.status.recorded.resourceID))
      fun e a' => a' = a ∧ (e.isNotFound = true →
        ∀ i, nr.status.recorded.resourceID = some i → ¬ (a.networks n).Has i) := by
  rw [deleteNetworkResource]
  cases hid : nr.status.recorded.resourceID with
  | none =>
    rintro a' rfl
    exact congrArg Account.mk (Function.update_eq_self n a'.networks).symm
  | some id =>
    rw [h id hid]
    refine (Mirror.Shelf.delete_triple Call.deleteResource id).conseq (fun _ h => h)
      (fun _ _ h => h) ?_
    rintro e a' ⟨rfl, hgone⟩
    exact ⟨rfl, fun hnf i hi => Option.some.inj hi ▸ hgone hnf⟩

/-- The object is the one that was declared, it has no resource of another network on record, and
the other networks are as they were. -/
structure Settled (networks₀ : ℕ → Store Resource) (spec : Spec) (n : ℕ) (w : World) : Prop where
  unheld : Mirror.Unheld Recorded.resourceID 0 w
  own : ∀ e ∈ w.objects, e.val.spec = spec ∧ InNetwork n e.val.status.recorded
  others : ∀ n', n' ≠ n → w.account.networks n' = networks₀ n'

section Pass

variable {o : CR} (h : Settled networks₀ spec n w) (hget : w.objects.get 0 = some o)

include h hget

/-- The apply of a pass that finds no other network than `n`. -/
theorem apply_triple
    (hnetwork : ∀ n', env.networkStatus spec.networkRef = some (some n') → n' = n) :
    Triple (fun a => a = w.account) (applyNetworkResource env (Mirror.withFinalizer o))
      (fun r a => ∃ id req, r = ⟨some n, some id⟩ ∧
        Mirror.Shelf.Upserted (resources n) o.status.recorded.resourceID req w.account id a)
      fun _ a => a = w.account := by
  obtain ⟨rfl, hin⟩ := h.own _ (Store.get_eq_some.mp hget)
  refine applyNetworkResource_triple.conseq (fun _ h => h) ?_ fun _ _ h => h
  rintro r a ⟨n', req, id, hresolved, -, rfl, hups⟩
  obtain rfl := hnetwork n' (Mirror.dependencyID_eq_ok.mp hresolved).2
  have hkept : keptID n' (Mirror.withFinalizer o).status.recorded =
      o.status.recorded.resourceID := hin.keptID
  rw [hkept] at hups
  exact ⟨id, req, rfl, hups⟩

theorem apply_grows_iff
    (hnetwork : ∀ n', env.networkStatus spec.networkRef = some (some n') → n' = n) :
    (w.account.networks n).next <
        ((applyNetworkResource env (Mirror.withFinalizer o) w.account).2.networks n).next ↔
      ApplyCreates n env w.account o := by
  obtain ⟨rfl, -⟩ := h.own _ (Store.get_eq_some.mp hget)
  have hreq : request env (Mirror.withFinalizer o) = request env o := rfl
  rw [applyNetworkResource, bind_lift_apply, ApplyCreates,
    show (Mirror.withFinalizer o).spec = o.spec from rfl]
  cases hn : resolveNetworkID env o.spec.networkRef with
  | error e => simp
  | ok n' =>
    obtain rfl := hnetwork n' (Mirror.dependencyID_eq_ok.mp hn).2
    dsimp only
    rw [bind_lift_apply, hreq]
    cases request env o with
    | error e => simp
    | ok req =>
      dsimp only
      rw [snd_bind_pure]
      have hiff : _ ↔ (resources n').Creates env.fault upsertCalls (keptID n' o.status.recorded)
        w.account := Mirror.Shelf.upsert_grows_iff req
      exact hiff.trans ⟨fun hc => ⟨rfl, ⟨req, rfl⟩, hc⟩, fun hc => hc.2.2⟩

theorem keeper (hnetwork : ∀ n', env.networkStatus spec.networkRef = some (some n') → n' = n) :
    Mirror.Keeper (mirror env) (resources n) Recorded.resourceID 0 w o
      (ApplyCreates n env w.account o) where
  apply := by
    refine (apply_triple h hget hnetwork).conseq (fun _ h => h) ?_ fun _ _ h => h
    rintro r a ⟨id, req, rfl, hups⟩
    exact ⟨id, req, rfl, hups⟩
  grows := apply_grows_iff h hget hnetwork
  del := by
    have hin := (h.own _ (Store.get_eq_some.mp hget)).2
    refine (deleteNetworkResource_triple hin w.account).conseq (fun _ h => h) ?_ fun _ _ h => h
    rintro _ a rfl
    exact (resources n).view_set w.account _

end Pass

theorem others_of_set {s : Store Resource} {a : Account} {n' : ℕ} (hn : n' ≠ n) :
    ((resources n).set a s).networks n' = a.networks n' := by
  show Function.update a.networks n s n' = a.networks n'
  rw [Function.update_of_ne hn]

theorem Settled.reconcile (h : Settled networks₀ spec n w)
    (hnetwork : ∀ n', env.networkStatus spec.networkRef = some (some n') → n' = n) :
    Settled networks₀ spec n (reconcile env 0 w).2 := by
  have heffect : Mirror.Effect (mirror env) w 0 (NetworkResource.reconcile env 0 w).2 :=
    Mirror.reconcile_effect
  have hunheld : Mirror.Unheld Recorded.resourceID 0 (NetworkResource.reconcile env 0 w).2 :=
    h.unheld.reconcile
  generalize (NetworkResource.reconcile env 0 w).2 = w' at heffect hunheld
  have hdel : ∀ {o : CR}, w.objects.get 0 = some o → ∀ n', n' ≠ n →
      (deleteNetworkResource env o w.account).2.networks n' = networks₀ n' := by
    intro o hget
    refine Triple.final (P := fun a => a = w.account)
      (G := fun a => ∀ n', n' ≠ n → a.networks n' = networks₀ n')
      ((deleteNetworkResource_triple (h.own _ (Store.get_eq_some.mp hget)).2 w.account).conseq
        (fun _ h => h) ?_ ?_) rfl
    · rintro _ a rfl n' hn
      rw [others_of_set hn, h.others n' hn]
    · rintro e a ⟨rfl, -⟩
      exact h.others
  cases heffect with
  | idle => exact h
  | @applied o o' hget hlive hown hrec =>
    have happly := apply_triple h hget hnetwork
    obtain ⟨hspec, hin⟩ := h.own _ (Store.get_eq_some.mp hget)
    refine ⟨hunheld, fun e he => ?_, ?_⟩
    · rcases Store.mem_update.mp he with ⟨he, -⟩ | ⟨rfl, -⟩
      · exact h.own e he
      · refine ⟨hown.spec.trans hspec, ?_⟩
        rcases hrec with hsame | hok
        · show InNetwork n o'.status.recorded
          rw [hsame]
          exact hin
        · rcases hout : applyNetworkResource env (Mirror.withFinalizer o) w.account with ⟨out, a⟩
          obtain rfl : out = .ok o'.status.recorded := (congrArg Prod.fst hout).symm.trans hok
          obtain ⟨id, req, hr, -⟩ := happly.ok rfl hout
          rw [hr]
          exact fun _ _ => rfl
    · refine Triple.final (P := fun a => a = w.account)
        (G := fun a => ∀ n', n' ≠ n → a.networks n' = networks₀ n')
        (happly.conseq (fun _ h => h) ?_ ?_) rfl
      · rintro r a ⟨id, req, -, hups⟩ n' hn
        cases hups with
        | updated => rw [others_of_set hn, h.others n' hn]
        | created => rw [others_of_set hn, h.others n' hn]
      · rintro e a rfl
        exact h.others
  | kept hget => exact ⟨hunheld, h.own, hdel hget⟩
  | released hget =>
    exact ⟨hunheld, fun e he => h.own e (Store.mem_delete.mp he).1, hdel hget⟩

theorem Settled.submit_delete (h : Settled networks₀ spec n w) :
    Settled networks₀ spec n (step w (.user (.delete 0))) := by
  refine ⟨h.unheld.submit_delete fresh, fun e he => ⟨?_, ?_⟩, h.others⟩
  · exact Store.spec_of_mem_submit (P := fun s => s = spec) (fun f hf => (h.own f hf).1)
      (by simp) (by simp) he
  · obtain ⟨f, hf, hid⟩ := Store.exists_of_mem_submit (by simp) he
    rcases Store.of_mem_submit he with ⟨-, -, hnext⟩ | ⟨f, hf, -, hstatus, -⟩
    · exact absurd (Store.id_lt_next hf) (by omega)
    · rw [hstatus]
      exact (h.own f hf).2

theorem keepsBooks (networks₀ : ℕ → Store Resource) (spec : Spec) (n : ℕ) :
    KeepsBooks step (ledger n) (Settled networks₀ spec n) (fun _ e => Alone spec n e)
      (Records n) where
  inv w e hw he := by
    cases e with
    | reconcile uid env =>
      obtain ⟨rfl, hnetwork⟩ := he
      exact hw.reconcile hnetwork
    | user ev =>
      obtain rfl : ev = .delete 0 := he
      exact hw.submit_delete
    | foreignCreate | foreignUpdate | foreignDelete => exact he.elim
  books w e hw he := by
    cases e with
    | reconcile uid env =>
      obtain ⟨rfl, hnetwork⟩ := he
      exact Mirror.reconcile_books fun o hget => keeper hw hget hnetwork
    | user ev =>
      obtain rfl : ev = .delete 0 := he
      exact (Mirror.submit_delete_books hw.unheld fresh).books
    | foreignCreate | foreignUpdate | foreignDelete => exact he.elim

/-- What holds of every run of the one object, whose network is `n`. -/
def MirroredIffRecorded (n : ℕ) (ns name : String) : Prop :=
  ∀ (networks : ℕ → Store Resource) (spec : Spec) (es : List Event),
    (∀ e ∈ es, Alone spec n e) →
      Faithful step (ledger n) (Records n) (single networks ns name spec) es ∧
        ∀ n', n' ≠ n →
          (run step (single networks ns name spec) es).account.networks n' = networks n'

theorem mirroredIffRecorded (n : ℕ) (ns name : String) : MirroredIffRecorded n ns name := by
  intro networks spec es hes
  have hstart : Settled networks spec n (single networks ns name spec) := by
    refine ⟨fun o hget _ => ?_, fun e he => ?_, fun _ _ => rfl⟩
    · obtain rfl := congrArg Entry.val (mem_single (Store.get_eq_some.mp hget))
      rfl
    · rw [mem_single he]
      exact ⟨rfl, fun id hid => absurd hid (by simp [fresh])⟩
  have hkeeps := keepsBooks networks spec n
  refine ⟨hkeeps.faithful hstart (along_of_forall hes) rfl, ?_⟩
  exact (run_invariant (C := fun _ e => Alone spec n e) (along_of_forall hes) hstart
    hkeeps.inv).others

/-- The network of every reference is 7, and there are no groups. -/
def inSeven (fault : Mirror.Call Call → Option Fault) : Env :=
  ⟨fun _ => some (some 7), ⟨fun _ => .error .notFound, fun _ => .error .notFound,
    fun _ _ => .error .notFound⟩, fault⟩

/-- An object that was just declared, in an empty account. -/
def declared : World :=
  single (fun _ => .empty) "apps" "db"
    { networkRef := ⟨"net", "apps"⟩, name := "db", address := "10.0.0.1" }

/-- Two passes, of which the first loses its status write. -/
def lostRun : List Event :=
  [.reconcile 0 (inSeven Mirror.statusLost), .reconcile 0 (inSeven fun _ => none)]

/-- The object is deleted and let go. -/
def removal : List Event := [.user (.delete 0), .reconcile 0 (inSeven fun _ => none)]

end NetworkResource

/-! ### NetworkRouter -/

namespace NetworkRouter

variable {w : World} {env : Env} {spec : Spec} {n : ℕ} {networks₀ networks : ℕ → Store Router}
  {o : CR}

/-- A pass over the object, which finds no other network than `n`, or its deletion by the user. -/
def Alone (spec : Spec) (n : ℕ) : Event → Prop
  | .reconcile env => ∀ n', env.networkStatus spec.networkRef = some (some n') → n' = n
  | .delete => True
  | _ => False

/-- The object and the routers of its network. -/
def ledger (n : ℕ) (w : World) : Ledger Router :=
  ⟨w.cr.map fun o => o.status.routerID, w.networks n⟩

/-- A pass creates a router of the network `n`. -/
def Creates (n : ℕ) (env : Env) (w : World) : Prop :=
  ∃ o ∈ w.cr, o.deleting = false ∧ Reaches env w o n ∧
    ∀ id ∈ (withNetwork o n).status.routerID, ¬ (w.networks n).Has id

/-- A pass that creates a router gets to write its id down. -/
def Records (n : ℕ) (w : World) : Event → Prop
  | .reconcile env => Creates n env w → env.fault .patchReady = none
  | _ => True

/-- The recorded router, if there is one, is one of the network `n`. -/
def InNetwork (n : ℕ) (o : CR) : Prop :=
  ∀ id, o.status.routerID = some id → o.status.networkID = some n

/-- The object is the one that was declared, it has no router of another network on record and none
before it is held, and the other networks are as they were. -/
structure Settled (networks₀ : ℕ → Store Router) (spec : Spec) (n : ℕ) (cr : Option CR)
    (networks : ℕ → Store Router) : Prop where
  unheld : ∀ o, cr = some o → o.finalizer = false → o.status.routerID = none
  own : ∀ o, cr = some o → o.spec = spec ∧ InNetwork n o
  others : ∀ n', n' ≠ n → networks n' = networks₀ n'

theorem InNetwork.withNetwork (h : InNetwork n o) :
    (withNetwork o n).status.routerID = o.status.routerID := by
  show (if o.status.networkID ≠ none ∧ o.status.networkID ≠ some n then none
    else o.status.routerID) = o.status.routerID
  cases hid : o.status.routerID with
  | none => exact ite_self none
  | some id => rw [if_neg (by simp [h id hid])]

theorem InNetwork.withoutRouter (h : InNetwork n o) :
    withoutRouter o networks = setRouters n (without (networks n) o.status.routerID) networks := by
  have hsame : networks = setRouters n (networks n) networks :=
    (Function.update_eq_self n networks).symm
  rw [NetworkRouter.withoutRouter]
  cases hid : o.status.routerID with
  | none =>
    cases o.status.networkID with
    | none => exact hsame
    | some n' => exact hsame
  | some id =>
    rw [h id hid]
    rfl

theorem others_of_set {s : Store Router} {n' : ℕ} (hn : n' ≠ n) :
    setRouters n s networks n' = networks n' := Function.update_of_ne hn ..

section Pass

variable (h : Settled networks₀ spec n w.cr w.networks)
  (hnetwork : ∀ n', env.networkStatus spec.networkRef = some (some n') → n' = n)

include h hnetwork

/-- While a pass waits the router on record stays. -/
theorem routerID_of_waiting {o' : CR} (hcr : w.cr = some o) (hwait : Waiting env o o') :
    o'.status.routerID = o.status.routerID ∧ InNetwork n o' := by
  obtain ⟨hspec, hin⟩ := h.own o hcr
  rcases hwait.ids with ⟨hn, hid⟩ | ⟨n', hstatus, hn, hid⟩
  · refine ⟨hid, fun id hid' => ?_⟩
    rw [hn]
    exact hin id (hid.symm.trans hid')
  · rw [hspec] at hstatus
    obtain rfl := hnetwork n' hstatus
    exact ⟨hid.trans hin.withNetwork, fun _ _ => hn⟩

theorem settled_of_effect {cr : Option CR} (heffect : Effect env w cr networks) :
    Settled networks₀ spec n cr networks := by
  cases heffect with
  | idle => exact h
  | waited hcr hlive hwait =>
    refine ⟨fun o₁ ho hfin => ?_, fun o₁ ho => ?_, h.others⟩ <;> obtain rfl := Option.some.inj ho
    · exact absurd (hfin.symm.trans hwait.finalizer) (by simp)
    · exact ⟨hwait.spec.trans (h.own _ hcr).1, (routerID_of_waiting h hnetwork hcr hwait).2⟩
  | @bound o o' n' id groupID networks hcr hlive hreaches hups hwritten =>
    obtain ⟨rfl, hin⟩ := h.own _ hcr
    obtain rfl := hnetwork n' hreaches.status
    refine ⟨fun o₁ ho hfin => ?_, fun o₁ ho => ?_, fun m hm => ?_⟩
    · obtain rfl := Option.some.inj ho
      rcases hwritten with ⟨rfl, -⟩ | ⟨rfl, -⟩ <;>
        exact absurd hfin (by simp [asReady, withNetwork])
    · obtain rfl := Option.some.inj ho
      rcases hwritten with ⟨rfl, -⟩ | ⟨rfl, -⟩
      · exact ⟨rfl, hin⟩
      · exact ⟨rfl, fun _ _ => rfl⟩
    · rw [← h.others m hm]
      cases hups with
      | updated => exact others_of_set hm
      | created => exact others_of_set hm
  | kept hcr hdel hsent =>
    rw [hcr] at h
    refine ⟨h.unheld, h.own, fun m hm => ?_⟩
    rw [(h.own _ rfl).2.withoutRouter, others_of_set hm, h.others m hm]
  | released hcr hdel hsent =>
    refine ⟨fun o ho => absurd ho (by simp), fun o ho => absurd ho (by simp), fun m hm => ?_⟩
    rw [(h.own _ hcr).2.withoutRouter, others_of_set hm, h.others m hm]

/-- **A pass** keeps the books, unless its last patch is lost after it created a router. -/
theorem books_of_effect {cr : Option CR} (heffect : Effect env w cr networks) :
    Books (Mirror.Records (routers n) (env.fault .patchReady = none) w.networks networks)
      (ledger n w) ⟨cr.map fun o => o.status.routerID, networks n⟩ := by
  rw [ledger]
  cases heffect with
  | idle => exact Mirror.books_of_next rfl .idle
  | waited hcr hlive hwait =>
    rw [hcr, Option.map_some, Option.map_some, (routerID_of_waiting h hnetwork hcr hwait).1]
    exact Mirror.books_of_next rfl .idle
  | @bound o o' n' id groupID networks hcr hlive hreaches hups hwritten =>
    obtain ⟨rfl, hin⟩ := h.own _ hcr
    obtain rfl := hnetwork n' hreaches.status
    rw [hin.withNetwork] at hups
    have hon : o'.status.routerID =
        if env.fault .patchReady = none then some id else o.status.routerID := by
      rcases hwritten with ⟨rfl, hlost⟩ | ⟨rfl, hdone⟩
      · rw [if_neg hlost]
      · rw [if_pos hdone]
        rfl
    rw [hcr, Option.map_some, Option.map_some, hon]
    exact Mirror.books_of_upserted hups
  | kept hcr hdel hsent =>
    rw [hcr, (h.own _ hcr).2.withoutRouter]
    exact Mirror.books_of_without ((routers n).view_set w.networks _) (Or.inl rfl)
  | released hcr hdel hsent =>
    rw [hcr, (h.own _ hcr).2.withoutRouter]
    exact Mirror.books_of_without ((routers n).view_set w.networks _) (Or.inr rfl)

/-- **When a pass creates a router.** -/
theorem grows_iff :
    (w.networks n).next < ((reconcile env w).2.networks n).next ↔ Creates n env w := by
  constructor
  · intro hlt
    have heffect := reconcile_effect env w
    generalize (reconcile env w).2.networks = networks, (reconcile env w).2.cr = cr at hlt heffect
    cases heffect with
    | idle => exact absurd hlt (Nat.lt_irrefl _)
    | waited hcr hlive hwait => exact absurd hlt (Nat.lt_irrefl _)
    | @bound o o' n' id groupID networks hcr hlive hreaches hups hwritten =>
      obtain ⟨rfl, -⟩ := h.own _ hcr
      obtain rfl := hnetwork n' hreaches.status
      cases hups with
      | updated hrec hhas =>
        rw [show (routers n').set w.networks _ n' = _ from (routers n').view_set _ _] at hlt
        exact absurd hlt (Nat.lt_irrefl _)
      | created hgone => exact ⟨o, hcr, hlive, hreaches, hgone⟩
    | kept hcr | released hcr =>
      rw [(h.own _ hcr).2.withoutRouter, setRouters, Function.update_self, next_without] at hlt
      exact absurd hlt (Nat.lt_irrefl _)
  · rintro ⟨o, hcr, hlive, hreaches, hgone⟩
    obtain ⟨groupID, w₁, hgroup⟩ := (exists_resolvePeerGroup_eq_ok
      (o := withNetwork { o with finalizer := true } n)
      (w := { w with cr := some { o with finalizer := true } })).mpr hreaches.group
    have hkept := (resolvePeerGroup_keeps env (withNetwork { o with finalizer := true } n)
      (some { o with finalizer := true }) w.networks).ok
        (s := { w with cr := some { o with finalizer := true } }) ⟨rfl, rfl⟩ hgroup
    have hgo := hreaches.upsert
    rw [← hkept.2] at hgo hgone
    obtain ⟨id, routers, hup⟩ := upsertRouter_of_goesThrough groupID o.spec hgo
    have hups := ((upsertRouter_triple env n _ groupID o.spec w₁).ok rfl hup).2
    have hbound := bindGroup_of_ok (o := withNetwork { o with finalizer := true } n) rfl hup
    rw [reconcile_of_group hreaches.get hreaches.patched hreaches.network hcr hlive hgroup,
      hbound.1, ← hkept.2]
    generalize (w₁.withRouter n routers _).networks = networks at hups
    cases hups with
    | updated hrec hhas => exact absurd hhas (hgone _ hrec)
    | created _ =>
      rw [show (NetworkRouter.routers n).set w₁.networks _ n = _ from
        (NetworkRouter.routers n).view_set _ _]
      exact Nat.lt_succ_self _

end Pass

theorem settled_delete (h : Settled networks₀ spec n w.cr w.networks) :
    Settled networks₀ spec n (step w .delete).cr w.networks := by
  have hold : ∀ o, (step w .delete).cr = some o →
      ∃ o₀, w.cr = some o₀ ∧ o₀.finalizer = true ∧ o = { o₀ with deleting := true } := by
    intro o ho
    obtain ⟨o₀, ho₀, hdel⟩ := Option.bind_eq_some_iff.mp ho
    split at hdel
    · next hfin => exact ⟨o₀, ho₀, hfin, (Option.some.inj hdel).symm⟩
    · simp at hdel
  refine ⟨fun o ho hfin => ?_, fun o ho => ?_, h.others⟩
  · obtain ⟨o₀, -, hfin₀, rfl⟩ := hold o ho
    exact absurd (hfin.symm.trans hfin₀) (by simp)
  · obtain ⟨o₀, ho₀, -, rfl⟩ := hold o ho
    exact h.own o₀ ho₀

theorem step_delete (h : Settled networks₀ spec n w.cr w.networks) :
    Step (ledger n w) (ledger n (step w .delete)) := by
  rw [ledger, ledger, step]
  cases hcr : w.cr with
  | none => exact .idle
  | some o =>
    dsimp only
    rw [Option.bind_some]
    split
    · exact .idle
    · next hfin =>
      rw [Option.map_some, h.unheld o hcr (by simpa using hfin)]
      exact step_release_none _

theorem keepsBooks (networks₀ : ℕ → Store Router) (spec : Spec) (n : ℕ) :
    KeepsBooks step (ledger n) (fun w => Settled networks₀ spec n w.cr w.networks)
      (fun _ e => Alone spec n e) (Records n) where
  inv w e hw he := by
    cases e with
    | reconcile env => exact settled_of_effect hw he (reconcile_effect env w)
    | delete => exact settled_delete hw
    | edit | foreignCreate | foreignUpdate | foreignDelete => exact he.elim
  books w e hw he := by
    cases e with
    | reconcile env =>
      have hbooks := books_of_effect hw he (reconcile_effect env w)
      exact hbooks.congr (imp_congr_left (grows_iff hw he))
    | delete => exact (step_delete hw).books
    | edit | foreignCreate | foreignUpdate | foreignDelete => exact he.elim

/-- What holds of every run of the one object, whose network is `n`. -/
def MirroredIffRecorded (n : ℕ) (ns name : String) : Prop :=
  ∀ (networks : ℕ → Store Router) (spec : Spec) (es : List Event),
    (∀ e ∈ es, Alone spec n e) →
      Faithful step (ledger n) (Records n) (initial ns name spec networks) es ∧
        ∀ n', n' ≠ n → (run step (initial ns name spec networks) es).networks n' = networks n'

theorem mirroredIffRecorded (n : ℕ) (ns name : String) : MirroredIffRecorded n ns name := by
  intro networks spec es hes
  have hstart : Settled networks spec n (initial ns name spec networks).cr networks := by
    refine ⟨fun o ho _ => ?_, fun o ho => ?_, fun _ _ => rfl⟩ <;> obtain rfl := Option.some.inj ho
    · rfl
    · exact ⟨rfl, fun id hid => absurd hid (by simp)⟩
  have hkeeps := keepsBooks networks spec n
  refine ⟨hkeeps.faithful hstart (along_of_forall hes) rfl, ?_⟩
  exact (run_invariant (C := fun _ e => Alone spec n e)
    (I := fun w : World => Settled networks spec n w.cr w.networks) (along_of_forall hes) hstart
    hkeeps.inv).others

/-- The network of every reference is 7, and every name is the name of a group. -/
def inSeven (fault : Call → Option Fault) : Env :=
  ⟨⟨fun _ => .ok "peers", fun _ => .error .notFound, fun _ _ => .error .notFound⟩,
    fun _ => some (some 7), fun _ _ => none, fun _ _ => none, "", fault⟩

/-- The write of the status is lost, and nothing else fails. -/
def statusLost : Call → Option Fault
  | .patchReady => some .other
  | _ => none

/-- An object that was just declared, in an empty account. -/
def declared : World :=
  initial "apps" "router"
    { networkRef := ⟨"net", "apps"⟩, peers := { group := some { name := some "peers" } } }
    fun _ => .empty

/-- Two passes, of which the first loses its status write. -/
def lostRun : List Event :=
  [.reconcile (inSeven statusLost), .reconcile (inSeven fun _ => none)]

/-- The object is deleted and let go. -/
def removal : List Event := [.delete, .reconcile (inSeven fun _ => none)]

end NetworkRouter

/-! ### The kinds that adopt -/

/-- **Adoption makes creation idempotent.** Whichever calls of the passes over one DNSZone or one
DNSRecord fail, they create at most one object, and a pass that gets to write its status records
that one, or the one it found. -/
theorem dns_created_once : DNSZone.CreatesOnce ∧ DNSRecord.CreatesOnce :=
  ⟨DNSZone.createsOnce, DNSRecord.createsOnce⟩

namespace DNSRecord

/-- An address has two texts here. -/
def parseLoopback (s : String) : Option String :=
  if s = "::1" ∨ s = "0:0:0:0:0:0:0:1" then some "::1" else none

/-- The zone of every reference is 7. -/
def inSeven (fault : Mirror.Call Call → Option Fault) : Env :=
  ⟨fun _ => some (some 7), parseLoopback, fault⟩

def loopback : Spec := ⟨⟨"zone", "dns"⟩, "local.internal.test", .aaaa, "::1", 300⟩

/-- The status write of a pass that creates a record is lost, and the account renders the address in
another text than it was sent. -/
def rerenderedRun : List Event :=
  [.reconcile 0 (inSeven Mirror.statusLost),
    .foreignUpdate 7 0 ⟨"local.internal.test", .aaaa, "0:0:0:0:0:0:0:1", 300⟩]

theorem undisturbed_rerenderedRun :
    Along rerenderedRun fun pre e => Undisturbed parseLoopback 7 loopback
      (run step (single (fun _ => .empty) "dns" "local" loopback) pre) e := by
  refine along_cons.mpr ⟨⟨rfl, rfl, fun z hz => (Except.ok.inj hz).symm⟩,
    along_cons.mpr ⟨⟨rfl, fun old hold => ?_⟩, along_nil⟩⟩
  have hcreated : ((step (single (fun _ => .empty) "dns" "local" loopback)
      (.reconcile 0 (inSeven Mirror.statusLost))).account.zones 7).get 0 =
      some ⟨"local.internal.test", .aaaa, "::1", 300⟩ := by decide
  obtain rfl := Option.some.inj (hcreated.symm.trans hold)
  exact ⟨rfl, by decide, by decide⟩

end DNSRecord

/-- The pass after the lost write creates no second zone. The pass after the one whose answer was
lost, and whose address is rendered in another text since, has a record of the zone on record. -/
theorem dns_created_once_lost :
    (run DNSZone.pass (DNSZone.single .empty "dns" "a" { name := "a", domain := "a.test" })
      [{ DNSZone.calm 0 with fault := Mirror.statusLost },
        DNSZone.calm 1]).account.created.length ≤ 1 ∧
    ∃ o id,
      (DNSRecord.step (run DNSRecord.step
          (DNSRecord.single (fun _ => .empty) "dns" "local" DNSRecord.loopback)
          DNSRecord.rerenderedRun)
        (.reconcile 0 (DNSRecord.inSeven fun _ => none))).objects.get 0 = some o ∧
      o.status.recorded = ⟨some 7, some id⟩ := by
  refine ⟨(dns_created_once.1 .empty "dns" "a" { name := "a", domain := "a.test" } _).1, ?_⟩
  obtain ⟨-, -, hrecords⟩ := dns_created_once.2 DNSRecord.parseLoopback (fun _ => .empty) 7 "dns"
    "local" DNSRecord.loopback DNSRecord.rerenderedRun _ rfl DNSRecord.undisturbed_rerenderedRun
  obtain ⟨o, id, ho, hrecorded, -⟩ := hrecords (DNSRecord.inSeven fun _ => none) _ _ _
    ⟨rfl, rfl, fun z hz => (Except.ok.inj hz).symm⟩ rfl rfl rfl rfl rfl
  exact ⟨o, id, ho, hrecorded⟩

/-! ### The kinds that do not adopt -/

/-- **One object for one resource**, in each of the four kinds, exactly as long as the status write
of each pass that creates goes through. The resource has any name, and is in the network `n` where
its kind has one. -/
theorem mirrored_iff_recorded (n : ℕ) (ns name : String) :
    Network.MirroredIffRecorded ns name ∧ NetworkResource.MirroredIffRecorded n ns name ∧
      NetworkRouter.MirroredIffRecorded n ns name ∧ Group.MirroredIffRecorded ns name :=
  ⟨Network.mirroredIffRecorded ns name, NetworkResource.mirroredIffRecorded n ns name,
    NetworkRouter.mirroredIffRecorded n ns name, Group.mirroredIffRecorded ns name⟩

/-- A network is created and recorded, the status write of an update is lost, and the object is
deleted. -/
def Network.recordedRun : List Network.Event :=
  [.reconcile 0 fun _ => none, .reconcile 0 Mirror.statusLost, .user (.delete 0),
    .reconcile 0 fun _ => none]

/-- A status write that only repeats the record may be lost. -/
theorem mirrored_iff_recorded_update :
    Mirrored 0 (Network.ledger (run Network.step Network.declared Network.recordedRun)) :=
  ((mirrored_iff_recorded 7 "apps" "net").1 .empty { name := "net" } Network.recordedRun
    (by simp [Network.recordedRun, Network.Alone])).1 (by decide)

/-- There are two objects in the account, and when the resource is gone there still is one. -/
def Duplicated {α : Type} (l l' : Ledger α) : Prop :=
  l.store.entries.map Entry.id = [0, 1] ∧ l'.owner = none ∧ l'.store.entries.map Entry.id = [0]

instance {α : Type} (l l' : Ledger α) : Decidable (Duplicated l l') :=
  inferInstanceAs (Decidable (_ ∧ _ ∧ _))

/-- **A lost write duplicates.** In each of the four kinds an empty account has two objects after
two passes, the first of which loses its status write while no other call fails; and one of them is
left when the resource was deleted and let go. -/
theorem lost_write_duplicates :
    Duplicated (Network.ledger (run Network.step Network.declared Network.lostRun))
      (Network.ledger (run Network.step Network.declared (Network.lostRun ++ Network.removal))) ∧
    Duplicated
      (NetworkResource.ledger 7 (run NetworkResource.step NetworkResource.declared
        NetworkResource.lostRun))
      (NetworkResource.ledger 7 (run NetworkResource.step NetworkResource.declared
        (NetworkResource.lostRun ++ NetworkResource.removal))) ∧
    Duplicated
      (NetworkRouter.ledger 7 (run NetworkRouter.step NetworkRouter.declared
        NetworkRouter.lostRun))
      (NetworkRouter.ledger 7 (run NetworkRouter.step NetworkRouter.declared
        (NetworkRouter.lostRun ++ NetworkRouter.removal))) ∧
    Duplicated (Group.ledger (run Group.step Group.declared Group.lostRun))
      (Group.ledger (run Group.step Group.declared (Group.lostRun ++ Group.removal))) := by
  decide

end NetbirdOperator
