import NetbirdOperator.Coherence.ChildIDs
import NetbirdOperator.DNSZone.Model
import NetbirdOperator.Network.Model
import NetbirdOperator.ReverseProxyService.Apply

/-!
# Finalizers go last

An object holds the operator's finalizer until what it has on record in NetBird is cleaned up: the
pass that takes the finalizer off is one in which everything on record was deleted, was reported not
found, or is used by another live object; and a deletion that fails, with a conflict or otherwise,
leaves the object as it was. `FinalizerLast` says so of one pass over one object. This module is
about the kinds that the mirror reconciler drives, `Controllers` about the others.

The mirror reconciler lets an object go once its kind's deletion returns or ends in a 404, so what
is left to say of a kind is that such a deletion has cleaned up. For the children it needs the
parent on record too, since without it a deletion has nothing to send; that is `Paired`.

## Main results

* `Mirror.finalizerLast` — mirrored kinds, given what their deletions do
* `Network.deleteNetwork_gone` and its siblings — what the deletions do
-/

namespace NetbirdOperator

open ControlLoop

/-- What a pass does about the finalizer of an object, which is `before` the pass and `after` it.
The finalizer is taken off in a deletion, once what is on record is `gone`; a deletion that `failed`
leaves the object, its finalizer and its ids as they were. -/
structure FinalizerLast {S T : Type} (before after : Option (Object S T))
    (gone failed : Object S T → Prop) : Prop where
  removed : ∀ o, before = some o → o.finalizer = true →
    (∀ o', after = some o' → o'.finalizer = false) → o.deleting = true ∧ gone o
  kept : ∀ o, before = some o → o.deleting = true → failed o → after = some o

section Rules

variable {S T : Type} {o o' : Object S T} {before after : Option (Object S T)}
  {gone failed : Object S T → Prop}

/-- A pass that leaves the object alone leaves its finalizer. -/
theorem finalizerLast_of_eq (h : after = before) : FinalizerLast before after gone failed where
  removed o ho hfin hoff := absurd ((hoff o (h.trans ho)).symm.trans hfin) (by simp)
  kept o ho _ _ := h.trans ho

/-- So does one that writes an object with the finalizer, if it is not a deletion. -/
theorem finalizerLast_of_live (hlive : o.deleting = false) (hfin : o'.finalizer = true) :
    FinalizerLast (some o) (some o') gone failed where
  removed _ _ _ hoff := absurd ((hoff o' rfl).symm.trans hfin) (by simp)
  kept o₁ ho hdel _ := by
    obtain rfl := Option.some.inj ho
    exact absurd (hdel.symm.trans hlive) (by simp)

/-- So does any write that keeps the finalizer, if nothing has failed. -/
theorem finalizerLast_of_held (hfin : o.finalizer = true → ∃ o', after = some o' ∧
    o'.finalizer = true) (hfailed : ¬ failed o) : FinalizerLast (some o) after gone failed where
  removed o₁ ho hfin₁ hoff := by
    obtain rfl := Option.some.inj ho
    obtain ⟨o', ho', hfin'⟩ := hfin hfin₁
    exact absurd ((hoff o' ho').symm.trans hfin') (by simp)
  kept o₁ ho _ hfail := by
    obtain rfl := Option.some.inj ho
    exact absurd hfail hfailed

/-- A deletion lets the object go if it has cleaned up and did not fail. -/
theorem finalizerLast_of_released (hdel : o.deleting = true) (hgone : gone o)
    (hfailed : ¬ failed o) : FinalizerLast (some o) none gone failed where
  removed o₁ ho _ _ := by
    obtain rfl := Option.some.inj ho
    exact ⟨hdel, hgone⟩
  kept o₁ ho _ hfail := by
    obtain rfl := Option.some.inj ho
    exact absurd hfail hfailed

end Rules

/-! ### The mirrored kinds -/

namespace Mirror

open Pass

variable {S R A C : Type} {fault : Call C → Option Fault} {m : Mirror S R A C} {w : World S R A}

/-- The deletion of the object gives up, and not because what it deletes is not there. -/
def DeleteFails (m : Mirror S R A C) (w : World S R A) (uid : ℕ) (o : Object S (Status R)) : Prop :=
  ∃ e, (m.del uid w.objects o w.account).1 = .error e ∧ e.isNotFound = false

/-- **Mirrored kinds**: it is enough that a deletion which returns, or ends in a 404, has cleaned
up. -/
theorem finalizerLast {uid : ℕ} {gone : Object S (Status R) → A → Prop}
    (hdel : ∀ o, w.objects.get uid = some o →
      Triple (fun a => a = w.account) (m.del uid w.objects o) (fun _ => gone o)
        fun e a => e.isNotFound = true → gone o a) (i : ℕ) :
    FinalizerLast (w.objects.get i) ((reconcile fault m uid w).2.objects.get i)
      (fun o => gone o (reconcile fault m uid w).2.account) (DeleteFails m w uid) := by
  have heffect : Effect m w uid (reconcile fault m uid w).2 := reconcile_effect
  generalize (reconcile fault m uid w).2 = w' at heffect
  cases heffect with
  | idle => exact finalizerLast_of_eq rfl
  | @applied o o' hget hlive hown hrec =>
    by_cases hi : i = uid
    · subst hi
      rw [Store.get_update_self hget, hget]
      exact finalizerLast_of_live hlive hown.finalizer
    · exact finalizerLast_of_eq (Store.get_update_of_ne hi)
  | kept hget hdel => exact finalizerLast_of_eq rfl
  | @released o hget hdeleting hout =>
    by_cases hi : i = uid
    swap
    · exact finalizerLast_of_eq (Store.get_delete_of_ne hi)
    subst hi
    rw [Store.get_delete_self, hget]
    refine finalizerLast_of_released hdeleting ?_ ?_
    · rcases hrun : m.del i w.objects o w.account with ⟨out, a'⟩
      rw [hrun] at hout
      cases out with
      | ok => exact (hdel o hget).ok rfl hrun
      | error e => exact (hdel o hget).error rfl hrun (hout e rfl)
    · rintro ⟨e, he, h404⟩
      exact absurd ((hout e he).symm.trans h404) (by simp)

end Mirror

namespace Network

/-- No network is left of the recorded one. -/
def Gone (net : CR) (a : Account) : Prop :=
  ∀ id, net.status.recorded.networkID = some id → ¬ a.networks.Has id

theorem deleteNetwork_gone {fault : Mirror.Call Call → Option Fault} {net : CR} {a : Account} :
    Pass.Triple (fun a' => a' = a) (deleteNetwork fault net) (fun _ => Gone net)
      fun e a' => e.isNotFound = true → Gone net a' := by
  unfold deleteNetwork Gone
  cases net.status.recorded.networkID with
  | none => exact fun a' _ id h => by simp at h
  | some i =>
    exact Mirror.Shelf.delete_recorded Call.deleteNetwork i fun _ hgone => hgone

end Network

namespace NetworkResource

/-- No resource is left of the recorded one, whose network is on record. -/
def Gone (nr : CR) (a : Account) : Prop :=
  ∀ id, nr.status.recorded.resourceID = some id →
    ∃ n, nr.status.recorded.networkID = some n ∧ ¬ (a.networks n).Has id

theorem deleteNetworkResource_gone {env : Env} {nr : CR} {a : Account}
    (hpaired : Paired a.networks nr.status.recorded.networkID nr.status.recorded.resourceID) :
    Pass.Triple (fun a' => a' = a) (deleteNetworkResource env nr) (fun _ => Gone nr)
      fun e a' => e.isNotFound = true → Gone nr a' := by
  unfold deleteNetworkResource Gone
  cases hid : nr.status.recorded.resourceID with
  | none => exact fun a' _ id h => by simp at h
  | some i =>
    obtain ⟨n, hn, -⟩ := hpaired i hid
    rw [hn]
    exact Mirror.Shelf.delete_recorded Call.deleteResource i fun _ hgone => ⟨n, rfl, hgone⟩

end NetworkResource

namespace DNSRecord

/-- The records of a zone, as a collection of the account. -/
def records (zoneID : ℕ) : Mirror.Shelf Account Record where
  view a := a.zones zoneID
  set a s := a.set zoneID s
  view_set a s := zones_set_self a zoneID s

theorem deleteRecord_eq (env : Env) (z id : ℕ) :
    deleteRecord env z id = (records z).delete env.fault .deleteRecord id := by
  refine congrArg (Bind.bind _) (funext fun _ => congrArg (Bind.bind _) (funext fun found => ?_))
  cases found <;> rfl

/-- No record is left of the recorded one, whose zone is on record. -/
def Gone (rec : CR) (a : Account) : Prop :=
  ∀ id, rec.status.recorded.recordID = some id →
    ∃ z, rec.status.recorded.zoneID = some z ∧ ¬ (a.zones z).Has id

theorem deleteDNSRecord_gone {env : Env} {rec : CR} {a : Account}
    (hpaired : Paired a.zones rec.status.recorded.zoneID rec.status.recorded.recordID) :
    Pass.Triple (fun a' => a' = a) (deleteDNSRecord env rec) (fun _ => Gone rec)
      fun e a' => e.isNotFound = true → Gone rec a' := by
  unfold deleteDNSRecord Gone
  cases hid : rec.status.recorded.recordID with
  | none => exact fun a' _ id h => by simp at h
  | some i =>
    obtain ⟨z, hz, -⟩ := hpaired i hid
    rw [hz]
    dsimp only
    rw [deleteRecord_eq]
    exact Mirror.Shelf.delete_recorded Call.deleteRecord i fun _ hgone => ⟨z, rfl, hgone⟩

end DNSRecord

namespace ReverseProxyService

/-- The services, as a collection of the account. -/
def services : Mirror.Shelf Account ServiceRequest where
  view := Account.services
  set a s := { a with services := s }
  view_set _ _ := rfl

theorem deleteService_eq (env : Env) (id : ℕ) :
    deleteService env id = services.delete env.fault .deleteService id := by
  refine congrArg (Bind.bind _) (funext fun _ => congrArg (Bind.bind _) (funext fun found => ?_))
  cases found <;> rfl

/-- No service is left of the recorded one. -/
def Gone (o : CR) (a : Account) : Prop :=
  ∀ id, o.status.recorded.serviceID = some id → ¬ a.services.Has id

theorem deleteReverseProxyService_gone {env : Env} {o : CR} {a : Account} :
    Pass.Triple (fun a' => a' = a) (deleteReverseProxyService env o) (fun _ => Gone o)
      fun e a' => e.isNotFound = true → Gone o a' := by
  unfold deleteReverseProxyService Gone
  cases o.status.recorded.serviceID with
  | none => exact fun a' _ id h => by simp at h
  | some i =>
    dsimp only
    rw [deleteService_eq]
    exact Mirror.Shelf.delete_recorded MirrorCall.deleteService i fun _ hgone => hgone

end ReverseProxyService

namespace DNSZone

open Pass

/-- The zones, as a collection of the account. -/
def zones : Mirror.Shelf Account Zone where
  view := Account.zones
  set a s := { a with zones := s }
  view_set _ _ := rfl

theorem deleteZone_eq (env : Env) (id : ℕ) :
    deleteZone env id = zones.delete env.fault .deleteZone id := by
  refine congrArg (Bind.bind _) (funext fun _ => congrArg (Bind.bind _) (funext fun found => ?_))
  cases found <;> rfl

/-- No zone is left of the recorded one, or another live object of the kind owns it. -/
def GoneOrShared (uid : ℕ) (objects : Store CR) (z : CR) (a : Account) : Prop :=
  ∀ id, z.status.recorded.zoneID = some id → ¬ a.zones.Has id ∨
    ∃ zone, a.zones.get id = some zone ∧
      ∃ e ∈ objects, e.id ≠ uid ∧ e.val.live = true ∧ ownsZone id zone.name e.val = true

theorem deleteDNSZone_gone {env : Env} {uid : ℕ} {objects : Store CR} {z : CR} {a : Account} :
    Triple (fun a' => a' = a) (deleteDNSZone env uid objects z)
      (fun _ => GoneOrShared uid objects z)
      fun e a' => e.isNotFound = true → GoneOrShared uid objects z a' := by
  unfold deleteDNSZone GoneOrShared
  -- A failed call is not answered with 404, whatever that would mean.
  have hcall : ∀ c {Q : Account → Prop}, Triple (fun a' => a' = a) (call env c)
      (fun _ a' => a' = a) fun e a' => e.isNotFound = true → Q a' := by
    intro c Q a' ha
    rw [call, Mirror.call]
    cases env.fault (.own c) with
    | none => exact ha
    | some f => exact fun h => (by cases h)
  cases z.status.recorded.zoneID with
  | none => exact fun a' _ id h => by simp at h
  | some i =>
    refine Triple.bind (Q := fun zone a' => a' = a ∧ zone = a.zones.get i) ?_ fun zone =>
      Triple.assume fun hzone => ?_
    · refine Triple.bind (hcall .getZone) fun _ => ?_
      rintro a' rfl
      exact ⟨rfl, rfl⟩
    cases zone with
    | none =>
      rintro a' rfl id hid
      rw [← Option.some.inj hid]
      exact Or.inl fun ⟨e, he, hide⟩ => Store.get_eq_none.mp hzone.symm e he hide
    | some zone =>
      refine Triple.bind (Q := fun shared a' => a' = a ∧
        shared = anotherLiveMatches uid objects.entries (ownsZone i zone.name)) ?_ fun shared =>
          Triple.assume fun hshared => ?_
      · refine Triple.bind (hcall .listObjects) fun _ => ?_
        rintro a' rfl
        exact ⟨rfl, rfl⟩
      cases shared with
      | true =>
        rintro a' rfl id hid
        rw [← Option.some.inj hid]
        exact Or.inr ⟨zone, hzone.symm, anotherLiveMatches_eq_true.mp hshared.symm⟩
      | false =>
        rw [if_neg (by simp), deleteZone_eq]
        exact Mirror.Shelf.delete_recorded Call.deleteZone i fun _ hgone => Or.inl hgone

end DNSZone

end NetbirdOperator
