import NetbirdOperator.ControlLoop.Stake
import NetbirdOperator.DNSZone.Survivors

/-!
# The last DNSZone object cleans up

A deleting object leaves the zone it has recorded to any live object that owns it, and owning is
recording the zone's id or merely declaring its name. The object that merely declares the name need
not ever adopt the zone: it may have another zone on record, which its next apply renames instead
(`zone_left_behind`), or be deleted before its first apply. Then nobody deletes the zone.

In the words of `Stake`, passes never end the last stake in a zone, and users do by taking back a
declaration that no pass has turned into a record. `Careful` is the condition that they do not, and
under it the last object cleans up.

## Main results

* `DNSZone.zone_left_behind` — a run that leaves a zone behind
* `DNSZone.zones_cleaned_up` — careful runs leave none
-/

namespace NetbirdOperator

open ControlLoop

namespace DNSZone

variable {env : Env} {w w' : World} {o : CR} {ev : Event} {uid : ℕ}

/-! ### Runs without outside interference -/

/-- The event is neither a failing pass nor the work of another client of the account. -/
def InBand : Event → Prop
  | .reconcile _ env => env.FaultFree
  | .user _ => True
  | _ => False

/-- A zone is left to an object that declares its name, has another zone on record, and goes on to
rename that one. -/
def declaredRun : List Event :=
  [.user (.create "dns" "a" { name := "internal", domain := "internal.test" }),
    .reconcile 0 (calm 0),
    .user (.create "dns" "b" { name := "other", domain := "other.test" }),
    .reconcile 1 (calm 0),
    .user (.edit 1 { name := "internal", domain := "internal.test" }),
    .user (.delete 0),
    .reconcile 0 (calm 0),
    .reconcile 1 (calm 0),
    .user (.delete 1),
    .reconcile 1 (calm 0)]

/-- **A zone left behind.** Both objects are gone, and the first one's zone is not. -/
theorem zone_left_behind :
    (∀ ev ∈ declaredRun, InBand ev) ∧
      (run step (initial .empty) declaredRun).objects.entries = [] ∧
      ∃ z ∈ (run step (initial .empty) declaredRun).account.zones,
        z.id ∈ (run step (initial .empty) declaredRun).account.created := by
  refine ⟨?_, by decide, by decide⟩
  simp [declaredRun, InBand, Env.FaultFree, calm]

/-! ### Stakes -/

/-- What ties an object to a zone. -/
def zoneStake (z : Entry Zone) : Stake Spec (Mirror.Status Recorded) where
  declares spec := spec.name = z.val.name
  records status := status.recorded.zoneID = some z.id

instance (z : Entry Zone) : DecidablePred (zoneStake z).declares :=
  fun _ => inferInstanceAs (Decidable (_ = _))

instance (z : Entry Zone) : DecidablePred (zoneStake z).records :=
  fun _ => inferInstanceAs (Decidable (_ = _))

/-- A live owner in the sense of the delete guard has a stake. -/
theorem of_ownsZone {z : Entry Zone} (hlive : o.live = true)
    (h : ownsZone z.id z.val.name o = true) : (zoneStake z).Of o := by
  rw [ownsZone, Bool.or_eq_true, beq_iff_eq, beq_iff_eq] at h
  rcases h with h | h
  · exact Or.inr ⟨hlive, h⟩
  · exact Or.inl h

/-- **The condition on an event.** A user does not end the last stake in a zone the run created. -/
def Careful (w : World) : Event → Prop
  | .user ue => ∀ z ∈ w.account.zones, z.id ∈ w.account.created → (zoneStake z).KeptBy w.objects ue
  | _ => True

instance (w : World) (ev : Event) : Decidable (Careful w ev) := by
  cases ev <;> dsimp only [Careful] <;> infer_instance

/-! ### The invariant -/

/-- Every zone the run created is held, and only objects under the finalizer have one on record. -/
structure Tended (w : World) : Prop where
  finalizer : ∀ e ∈ w.objects, e.val.finalizer = false → e.val.status.recorded.zoneID = none
  held : ∀ z ∈ w.account.zones, z.id ∈ w.account.created → (zoneStake z).Held w.objects

/-- An apply whose outcome is recorded keeps every zone held, by its own object if by no other. -/
theorem ApplyEffect.held {groups : Groups} {r : Except Err Recorded} {a' : Account} {o' : CR}
    (happly : ApplyEffect groups (Mirror.withFinalizer o) w.account r a')
    (hget : w.objects.get uid = some o) (hlive : o.deleting = false) (hown : Mirror.Tended o o')
    (hok : ∀ rec, r = .ok rec → o'.status.recorded = rec)
    (herror : ∀ e, r = .error e → o'.status.recorded = o.status.recorded)
    (hheld : ∀ z ∈ w.account.zones, z.id ∈ w.account.created → (zoneStake z).Held w.objects) :
    ∀ z ∈ a'.zones, z.id ∈ a'.created → (zoneStake z).Held (w.objects.update uid o') := by
  have hmem : (⟨uid, o⟩ : Entry CR) ∈ w.objects := Store.get_eq_some.mp hget
  have hlive' : o'.live = true := by rw [Object.live, hown.deleting, hlive]; rfl
  -- A zone that existed before stays held, unless the object had it on record and no longer has.
  have hold : ∀ z ∈ w.account.zones, z.id ∈ w.account.created →
      (o.status.recorded.zoneID = some z.id → o'.status.recorded.zoneID = some z.id) →
      (zoneStake z).Held (w.objects.update uid o') := by
    intro z hz hc hrec
    refine (hheld z hz hc).update hmem ?_
    rintro (h | ⟨-, h⟩)
    · exact Or.inr (Or.inl (hrec h))
    · refine Or.inr (Or.inr ⟨hlive', ?_⟩)
      rw [hown.spec]
      exact h
  -- The zone the apply returned is held by the object that records it.
  have hnew : ∀ z : Entry Zone, o'.status.recorded.zoneID = some z.id →
      (zoneStake z).Held (w.objects.update uid o') :=
    fun z hz => ⟨_, Store.mem_update_self hmem o', Or.inl hz⟩
  cases happly with
  | failed e c =>
    intro z hz hc
    refine hold z hz hc fun h => ?_
    rw [herror e rfl]
    exact h
  | updated c hreq hhas howned =>
    rename_i id req
    intro z hz hc
    have hrec' : o'.status.recorded.zoneID = some id := by rw [hok _ rfl]
    rcases Store.mem_update.mp hz with ⟨hz, hne⟩ | ⟨rfl, -⟩
    · refine hold z hz hc fun h => ?_
      rcases howned with howned | hun
      · exact absurd (Option.some.inj (h.symm.trans howned)) hne
      · exact absurd ⟨z, hz, rfl⟩ (hun z.id h)
    · exact hnew _ hrec'
  | created c hreq hun =>
    rename_i req
    intro z hz hc
    have hrec' : o'.status.recorded.zoneID = some w.account.zones.next := by rw [hok _ rfl]
    rcases Store.mem_create.mp hz with hz | rfl
    · have hc : z.id ∈ w.account.created := by
        rcases List.mem_append.mp hc with hc | hc
        · exact hc
        · exact absurd (List.mem_singleton.mp hc) (Nat.ne_of_lt (Store.id_lt_next hz))
      exact hold z hz hc fun h => absurd ⟨z, hz, rfl⟩ (hun z.id h)
    · exact hnew _ hrec'

/-- A deletion that lets its object go keeps every zone held that it keeps. -/
theorem withoutZone_held (hget : w.objects.get uid = some o) (hdel : o.deleting = true)
    (hheld : ∀ z ∈ w.account.zones, z.id ∈ w.account.created → (zoneStake z).Held w.objects) :
    ∀ z ∈ (withoutZone uid w.objects o w.account).zones,
      z.id ∈ (withoutZone uid w.objects o w.account).created →
        (zoneStake z).Held (w.objects.delete uid) := by
  -- The object that goes is being deleted, so its only stake was its record.
  have hrest : ∀ z ∈ w.account.zones, z.id ∈ w.account.created →
      (o.status.recorded.zoneID = some z.id → (zoneStake z).Held (w.objects.delete uid)) →
      (zoneStake z).Held (w.objects.delete uid) := by
    intro z hz hc hrec
    refine (hheld z hz hc).of_others (Store.delete_delete _ uid) fun e he hid hk => ?_
    rw [Store.val_eq_of_get hget he hid] at hk
    rcases hk with hk | ⟨hlive, -⟩
    · exact Or.inl (hrec hk)
    · exact absurd hlive (by simp [Object.live, hdel])
  rcases withoutZone_cases uid w.objects o w.account with
    ⟨h, hshared⟩ | ⟨id, zone, hrec, -, -, h⟩ <;> rw [h]
  · intro z hz hc
    refine hrest z hz hc fun hz' => ?_
    obtain ⟨e, he, hne, hlive, hown⟩ := hshared z.id z.val hz' (Store.get_of_mem hz)
    exact ⟨e, Store.mem_delete.mpr ⟨he, hne⟩, of_ownsZone hlive hown⟩
  · intro z hz hc
    obtain ⟨hz, hne⟩ := Store.mem_delete.mp hz
    exact hrest z hz hc fun hz' => absurd (Option.some.inj (hz'.symm.trans hrec)) hne

/-- Passes keep the invariant. -/
theorem Tended.reconcile (h : Tended w) (hfree : env.FaultFree) :
    Tended (reconcile env uid w).2 := by
  cases hget : w.objects.get uid with
  | none =>
    rw [DNSZone.reconcile, Mirror.reconcile_gone hget]
    exact h
  | some o =>
    cases hdel : o.deleting with
    | true =>
      rw [reconcile_deleting hfree hget hdel]
      refine ⟨fun e he => h.finalizer e (Store.mem_delete.mp he).1, ?_⟩
      exact withoutZone_held hget hdel h.held
    | false =>
      obtain ⟨o', hown, hend, hok, herror⟩ := reconcile_live hfree hget hdel
      rw [hend]
      refine ⟨fun e he hfin => ?_, ?_⟩
      · rcases Store.mem_update.mp he with ⟨he, -⟩ | ⟨rfl, -⟩
        · exact h.finalizer e he hfin
        · exact absurd (hfin.symm.trans hown.finalizer) (by simp)
      · exact (applyDNSZone_effect env (Mirror.withFinalizer o) w.account).held hget hdel hown hok
          herror h.held

/-- User events keep it if they are careful. -/
theorem Tended.user {ue : UserEvent Spec} (h : Tended w) (hcareful : Careful w (.user ue)) :
    Tended { w with objects := w.objects.submit fresh ue } := by
  refine ⟨fun e he hfin => ?_, fun z hz hc => ?_⟩
  · rcases Store.of_mem_submit he with ⟨hs, -⟩ | ⟨f, hf, -, hs, hfin', -⟩
    · rw [hs, fresh]
    · rw [hs]
      exact h.finalizer f hf (hfin'.symm.trans hfin)
  · refine (h.held z hz hc).submit (fun e he hfin hrec => ?_) (hcareful z hz hc)
    exact absurd (hrec.symm.trans (h.finalizer e he hfin)) (by simp)

theorem Tended.step (h : Tended w) (hband : InBand ev) (hcareful : Careful w ev) :
    Tended (step w ev) := by
  cases ev with
  | reconcile uid env => exact h.reconcile hband
  | user ue => exact h.user hcareful
  | foreignCreate zone => exact hband.elim
  | foreignUpdate id zone => exact hband.elim
  | foreignDelete id => exact hband.elim

/-- **The last object cleans up.** A run without failures and outside interference whose events are
all careful, and at whose end every object is gone, leaves behind no zone it created. -/
theorem zones_cleaned_up (zones : Store Zone) (es : List Event) {w : World}
    (hw : w = run step (initial zones) es) (hband : ∀ ev ∈ es, InBand ev)
    (hcareful : Along es fun pre ev => Careful (run step (initial zones) pre) ev)
    (hgone : w.objects.entries = []) : ∀ z ∈ w.account.zones, z.id ∉ w.account.created := by
  have hsteps : Along es fun pre ev => InBand ev ∧ Careful (run step (initial zones) pre) ev :=
    fun pre ev post hes => ⟨along_of_forall hband pre ev post hes, hcareful pre ev post hes⟩
  have hstart : Tended (initial zones) :=
    ⟨fun e he => absurd he List.not_mem_nil, fun z _ hc => absurd hc List.not_mem_nil⟩
  have htended : Tended w := by
    rw [hw]
    exact run_invariant (C := fun w ev => InBand ev ∧ Careful w ev) hsteps hstart
      fun w ev h hev => h.step hev.1 hev.2
  intro z hz hc
  exact Stake.not_held_of_empty hgone (htended.held z hz hc)

/-- Two objects share a zone, and are deleted one after the other. -/
def sharedRun : List Event :=
  [.user (.create "dns" "a" { name := "internal", domain := "internal.test" }),
    .reconcile 0 (calm 0),
    .user (.create "dns" "b" { name := "internal", domain := "internal.test" }),
    .reconcile 1 (calm 0),
    .user (.delete 0),
    .reconcile 0 (calm 0),
    .user (.delete 1),
    .reconcile 1 (calm 0)]

/-- The zone is created once, and does not outlive the second object. -/
theorem zones_cleaned_up_shared :
    (run step (initial .empty) sharedRun).account.created = [0] ∧
      ∀ z ∈ (run step (initial .empty) sharedRun).account.zones,
        z.id ∉ (run step (initial .empty) sharedRun).account.created :=
  ⟨by decide, zones_cleaned_up .empty sharedRun rfl
    (by simp [sharedRun, InBand, Env.FaultFree, calm]) (by decide) (by decide)⟩

end DNSZone

end NetbirdOperator
