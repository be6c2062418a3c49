import NetbirdOperator.Coherence.Finalizers
import NetbirdOperator.Group.Model
import NetbirdOperator.Mirror.Kinds
import NetbirdOperator.ReverseProxyCluster.Effects
import NetbirdOperator.SetupKey.Rotation

/-!
# Finalizers and ids of all kinds

The four kinds with a controller of their own, and then what holds of the ids and the finalizers of
all nine kinds that record NetBird ids.

NetworkRouter, SetupKey and ReverseProxyCluster delete what is on record and then let the object go,
so a pass that takes the finalizer off got through all of it. A pass of the Group controller is a
sequence of messages with other events in between. There the statement is about the event that takes
the finalizer off, and `Group.Cleaning` carries what the deletion has established up to it.

## Main results

* `SetupKey.finalizerLast`, `NetworkRouter.finalizerLast`, `ReverseProxyCluster.finalizerLast`,
  `Group.finalizerLast`
* `cleanup_before_release` — the three parts together
-/

namespace NetbirdOperator

open ControlLoop

/-! ### SetupKey -/

namespace SetupKey

open Pass

variable {env : Env} {w : World} {o : CR}

/-- There is an object, and it has the finalizer. -/
def Held (w : World) : Prop := ∃ o, w.cr = some o ∧ o.finalizer = true

/-- What does not touch the object keeps its finalizer. -/
theorem keeps_of_cr {f : World → World} (hf : ∀ w, (f w).cr = w.cr) :
    Keeps Held (Pass.modify f : M Unit) := by
  refine keeps_modify fun w hw => ?_
  obtain ⟨o, ho, hfin⟩ := hw
  exact ⟨o, (hf w).trans ho, hfin⟩

theorem keeps_patch (c : Call) (hfin : o.finalizer = true) : Keeps Held (patch env c o) := by
  refine (keeps_call _ _).bind fun _ w _ => ⟨o, ?_, hfin⟩
  show (if o.deleting ∧ ¬ o.finalizer then none else some o) = some o
  rw [if_neg (by simp [hfin])]

theorem keeps_updateKey (id : ℕ) (autoGroupIDs : List String) :
    Keeps Held (updateKey env id autoGroupIDs) := by
  refine (keeps_call _ _).bind fun _ => (keeps_read _).bind fun key => ?_
  cases key with
  | none => exact keeps_throw _
  | some key => exact keeps_of_cr fun _ => rfl

theorem keeps_upToDate (o : CR) (autoGroupIDs : List String) :
    Keeps Held (upToDate env o autoGroupIDs) := by
  rw [upToDate]
  cases o.status.setupKeyID with
  | none => exact keeps_pure _
  | some id =>
    refine Keeps.bind ((keeps_call _ _).bind fun _ => keeps_read _) fun key => ?_
    cases key with
    | none => exact keeps_pure _
    | some key =>
      dsimp only
      cases key.state with
      | overused => exact keeps_throw _
      | other name => exact keeps_pure _
      | valid =>
        refine (keeps_call _ _).bind fun _ => (keeps_read _).bind fun secret => ?_
        cases secret with
        | none => exact keeps_pure _
        | some storedKey =>
          dsimp only
          split
          · exact (keeps_updateKey id autoGroupIDs).bind fun _ => keeps_pure _
          · exact keeps_pure _

theorem keeps_rotate (hfin : o.finalizer = true) (autoGroupIDs : List String) :
    Keeps Held (rotate env o autoGroupIDs) := by
  have hcreate : Keeps Held (createKey env (keyRequest env o.spec autoGroupIDs)) :=
    Keeps.bind (keeps_call _ _) fun _ => Keeps.bind (keeps_read _) fun _ =>
      Keeps.bind (keeps_of_cr fun _ => rfl) fun _ => keeps_pure _
  have hold : ∀ old, Keeps Held (deleteOldKey env old) := by
    intro old
    cases old with
    | none => exact keeps_pure _
    | some id => exact (keeps_call _ _).bind fun _ => keeps_of_cr fun _ => rfl
  refine hcreate.bind fun id => ?_
  have hfin' : (withKey o id).finalizer = true := hfin
  refine (keeps_patch _ hfin').bind fun _ => ?_
  refine Keeps.bind (keeps_call _ _) fun _ => Keeps.bind (keeps_of_cr fun _ => rfl) fun _ => ?_
  exact (hold _).bind fun _ => (keeps_patch (o := asReady (withKey o id)) _ hfin').bind fun _ =>
    keeps_pure _

theorem keeps_ensureKey (env : Env) (hfin : o.finalizer = true) : Keeps Held (ensureKey env o) := by
  refine Keeps.bind (Triple.of_unchanged (fun _ => rfl) fun _ _ h => h) fun autoGroupIDs => ?_
  refine (keeps_upToDate o autoGroupIDs).bind fun ok => ?_
  cases ok with
  | true => exact keeps_pure _
  | false => exact keeps_rotate hfin autoGroupIDs

/-- A pass over a live object puts the finalizer on, or has no effect at all. -/
theorem reconcileLive_held (env : Env) (o : CR) (w : World) :
    (reconcileLive env o w).2 = w ∨ Held (reconcileLive env o w).2 := by
  have hpatch : Triple (fun w' => w' = w)
      (patch env .patchFinalizer { o with finalizer := true }) (fun _ => Held)
      fun _ w' => w' = w := by
    refine Triple.bind (call_triple fun _ _ h => h) fun _ w' _ => ?_
    exact ⟨{ o with finalizer := true }, by simp, rfl⟩
  rw [reconcileLive]
  rcases hp : patch env .patchFinalizer { o with finalizer := true } w with ⟨out, w₁⟩
  cases out with
  | error e =>
    rw [bind_of_error hp]
    exact Or.inl (hpatch.error rfl hp)
  | ok =>
    rw [bind_of_ok hp]
    exact Or.inr ((keeps_ensureKey env rfl).final (hpatch.ok rfl hp))

/-- No key is left of the recorded one. -/
def Gone (o : CR) (w : World) : Prop :=
  ∀ id, o.status.setupKeyID = some id → ¬ w.keys.Has id

/-- The recorded key is deleted, or nothing is done. -/
theorem deleteRecorded_cases (env : Env) (o : CR) (w : World) :
    (∃ w', deleteRecorded env o w = (.ok (), w') ∧ w'.cr = w.cr ∧ Gone o w') ∨
      ∃ e, deleteRecorded env o w = (.error e, w) := by
  unfold deleteRecorded Gone
  cases o.status.setupKeyID with
  | none => exact Or.inl ⟨w, rfl, rfl, fun id h => by simp at h⟩
  | some id =>
    dsimp only
    rw [deleteKey]
    cases hfault : env.fault .deleteKey with
    | none =>
      rw [bind_of_ok (call_of_none hfault w)]
      refine Or.inl ⟨_, rfl, rfl, fun i hi hhas => ?_⟩
      exact (Store.has_delete.mp hhas).2 (Option.some.inj hi).symm
    | some f => exact Or.inr ⟨_, bind_of_error (call_of_some hfault w)⟩

/-- A deletion gets through and lets the object go, or gives up and leaves it. -/
theorem reconcileDelete_cases (env : Env) (hcr : w.cr = some o) (hdel : o.deleting = true) :
    ((reconcileDelete env o w).1 = .ok ⟨none⟩ ∧ (reconcileDelete env o w).2.cr = none ∧
        Gone o (reconcileDelete env o w).2) ∨
      (reconcileDelete env o w).2.cr = some o := by
  rw [reconcileDelete]
  rcases deleteRecorded_cases env o w with ⟨w', h, hcr', hgone⟩ | ⟨e, h⟩
  swap
  · rw [bind_of_error h]
    exact Or.inr hcr
  rw [bind_of_ok h]
  cases hfault : env.fault .patchRemoveFinalizer with
  | none =>
    have hpatch : patch env .patchRemoveFinalizer { o with finalizer := false } w' =
        (.ok (), { w' with cr := none }) := by
      rw [patch, bind_of_ok (call_of_none hfault w'), modify_apply, if_pos ⟨hdel, by simp⟩]
    rw [bind_of_ok hpatch]
    exact Or.inl ⟨rfl, rfl, hgone⟩
  | some f =>
    have hpatch : patch env .patchRemoveFinalizer { o with finalizer := false } w' =
        (.error (.api .patchRemoveFinalizer f), w') :=
      bind_of_error (call_of_some hfault w')
    rw [bind_of_error hpatch]
    exact Or.inr (hcr'.trans hcr)

theorem finalizerLast (env : Env) (w : World) :
    FinalizerLast w.cr (reconcile env w).2.cr (fun o => Gone o (reconcile env w).2)
      fun _ => ∃ e, (reconcile env w).1 = .error e := by
  rw [reconcile]
  cases hcall : env.fault .get with
  | some f =>
    rw [bind_of_error (call_of_some hcall w)]
    exact finalizerLast_of_eq rfl
  | none =>
    rw [bind_of_ok (call_of_none hcall w), bind_of_ok (read_apply _ _)]
    cases hcr : w.cr with
    | none => exact finalizerLast_of_eq hcr
    | some o =>
      dsimp only
      split
      · next hdel =>
        rcases reconcileDelete_cases env hcr hdel with ⟨hok, hnone, hgone⟩ | hsame
        · rw [hnone, hok]
          exact finalizerLast_of_released hdel hgone (by simp)
        · exact finalizerLast_of_eq hsame
      · next hlive =>
        have hlive : o.deleting = false := by simpa using hlive
        rcases reconcileLive_held env o w with h | ⟨o', ho', hfin⟩
        · rw [h]
          exact finalizerLast_of_eq hcr
        · rw [ho']
          exact finalizerLast_of_live hlive hfin

end SetupKey

/-! ### NetworkRouter -/

namespace NetworkRouter

open Pass

variable {env : Env} {w : World} {o : CR}

/-- No router is left of the recorded one, whose network is on record. -/
def Gone (o : CR) (networks : ℕ → Store Router) : Prop :=
  ∀ id, o.status.routerID = some id →
    ∃ n, o.status.networkID = some n ∧ ¬ (networks n).Has id

theorem gone_withoutRouter {networks : ℕ → Store Router}
    (h : Paired networks o.status.networkID o.status.routerID) :
    Gone o (withoutRouter o networks) := by
  intro id hid
  obtain ⟨n, hn, -⟩ := h id hid
  refine ⟨n, hn, fun hhas => ?_⟩
  rw [withoutRouter, hn, hid] at hhas
  simp only [setRouters, Function.update_self, Store.has_delete] at hhas
  exact hhas.2 rfl

/-- The deletion of the recorded router is refused. -/
def DeleteFails (env : Env) (o : CR) : Prop :=
  ∃ n id f, o.status.networkID = some n ∧ o.status.routerID = some id ∧
    env.fault .deleteRouter = some f

theorem finalizerLast (env : Env) (hpaired : AllPaired w) :
    FinalizerLast w.cr (reconcile env w).2.cr (fun o => Gone o (reconcile env w).2.networks)
      (DeleteFails env) := by
  have heffect := reconcile_effect env w
  generalize (reconcile env w).2.cr = cr at heffect
  generalize (reconcile env w).2.networks = networks at heffect
  have hrefused : ∀ {o : CR}, (∀ n id, o.status.networkID = some n → o.status.routerID = some id →
      env.fault .deleteRouter = none) → ¬ DeleteFails env o := by
    rintro o hsent ⟨n, id, f, hn, hid, hf⟩
    exact absurd (hf.symm.trans (hsent n id hn hid)) (by simp)
  cases heffect with
  | idle => exact finalizerLast_of_eq rfl
  | waited hcr hlive hwait =>
    rw [hcr]
    exact finalizerLast_of_live hlive hwait.finalizer
  | bound hcr hlive hreaches hupsert hwritten =>
    rw [hcr]
    refine finalizerLast_of_live hlive ?_
    rcases hwritten with ⟨rfl, -⟩ | ⟨rfl, -⟩ <;> rfl
  | kept hcr hdel hsent => exact finalizerLast_of_eq hcr.symm
  | released hcr hdel hsent =>
    rw [hcr]
    exact finalizerLast_of_released hdel (gone_withoutRouter (hpaired _ hcr)) (hrefused hsent)

end NetworkRouter

/-! ### ReverseProxyCluster -/

namespace ReverseProxyCluster

open Pass

variable {env : Env} {w w' : World} {rpc : CR} {uid : ℕ}

/-- The token on record is not there any more; a custom domain or a cluster on record that is there
is used by another live object. -/
structure Cleared (uid : ℕ) (w w' : World) (rpc : CR) : Prop where
  token : ∀ id, rpc.status.tokenID = some id → ¬ w'.tokens.Has id
  domain : ∀ d ∈ w'.domains, rpc.status.domainID = some d.id →
    ∃ o ∈ w.rpcs, o.id ≠ uid ∧ o.val.live = true ∧ sharesDomain d o.val = true
  cluster : ∀ c ∈ w'.clusters, rpc.status.clusterAddress = c.address → c.address ≠ "" →
    ∃ o ∈ w.rpcs, o.id ≠ uid ∧ o.val.live = true ∧ ownsCluster c.address o.val = true

theorem cleared_finished : Cleared uid w (finished uid rpc w) rpc where
  token := by
    rintro id hid ⟨t, ht, rfl⟩
    exact (mem_tokensLeft.mp ht).2 hid
  domain d hd hid := (mem_domainsLeft.mp hd).2 hid
  cluster c hc haddr hne := (mem_clustersLeft.mp hc).2 haddr hne

theorem AllOrNothing.triple {m : M Unit} {f : World → World} {rpcs : Store CR}
    (h : ∀ w, AllOrNothing env m w (f w)) (hf : ∀ w, (f w).rpcs = w.rpcs) :
    Triple (fun w => w.rpcs = rpcs) m (fun _ w => w.rpcs = rpcs) fun _ w => w.rpcs = rpcs := by
  intro w hw
  rcases h w with h | ⟨e, h, -⟩ <;> rw [h]
  · exact (hf w).trans hw
  · exact hw

/-- A deletion that gives up leaves the objects as they were. -/
theorem rpcs_of_reconcileDelete_error {e : Err}
    (h : reconcileDelete env uid rpc w = (.error e, w')) :
    w'.rpcs = w.rpcs := by
  have htriple : Triple (fun w' => w'.rpcs = w.rpcs) (reconcileDelete env uid rpc)
      (fun _ _ => True) fun _ w' => w'.rpcs = w.rpcs := by
    refine Triple.bind (AllOrNothing.triple (fun _ => allOrNothing_revokeToken) fun _ => rfl)
      fun _ => ?_
    refine Triple.bind (AllOrNothing.triple (fun _ => allOrNothing_dropDomain) fun _ => rfl)
      fun _ => ?_
    refine Triple.bind (AllOrNothing.triple (fun _ => allOrNothing_dropCluster) fun _ => rfl)
      fun _ => ?_
    refine Triple.bind (Q := fun _ _ => True) ?_ fun _ _ _ => trivial
    exact Triple.bind (call_triple fun _ _ h => h) fun _ _ _ => trivial
  exact htriple.error rfl h

theorem finalizerLast (env : Env) (uid : ℕ) (w : World) (i : ℕ) :
    FinalizerLast (w.rpcs.get i) ((reconcile env uid w).2.rpcs.get i)
      (Cleared uid w (reconcile env uid w).2) fun _ => ∃ e, (reconcile env uid w).1 = .error e := by
  rw [reconcile, bind_of_ok (read_apply _ w)]
  cases hget : w.rpcs.get uid with
  | none => exact finalizerLast_of_eq rfl
  | some rpc =>
    dsimp only
    split
    · next hdel =>
      have heffect := (reconcileDelete_effect env uid rpc w).1
      rcases hrun : reconcileDelete env uid rpc w with ⟨out, w'⟩
      rw [hrun] at heffect
      cases out with
      | error e => exact finalizerLast_of_eq (by rw [rpcs_of_reconcileDelete_error hrun])
      | ok r =>
        cases heffect with
        | nothing | revoked | dropped | cleared => exact finalizerLast_of_eq rfl
        | finished =>
          show FinalizerLast _ ((finished uid rpc w).rpcs.get i)
            (Cleared uid w (finished uid rpc w)) _
          rw [rpcs_finished hdel]
          by_cases hi : i = uid
          · subst hi
            rw [Store.get_delete_self, hget]
            exact finalizerLast_of_released hdel cleared_finished (by simp)
          · exact finalizerLast_of_eq (Store.get_delete_of_ne hi)
    · next hlive =>
      have hlive : rpc.deleting = false := by simpa using hlive
      have hstage := reconcileLive_effect env hlive hget
      by_cases hi : i = uid
      · subst hi
        obtain ⟨o, ho, hder⟩ := hstage.own
        rw [ho, hget]
        refine ⟨fun o₁ ho₁ hfin hoff => ?_, fun o₁ ho₁ hdel => ?_⟩
        · obtain rfl := Option.some.inj ho₁
          exact absurd ((hoff o rfl).symm.trans (hder.finalizer hfin)) (by simp)
        · obtain rfl := Option.some.inj ho₁
          exact absurd (hdel.symm.trans hlive) (by simp)
      · refine finalizerLast_of_eq ?_
        rw [← Store.get_delete_of_ne hi, hstage.others, Store.get_delete_of_ne hi]

end ReverseProxyCluster

/-! ### Group -/

namespace Group

variable {s : State}

/-- The object on the server, if there is one, is being deleted and has the group on record that it
had when the pass read it. -/
def Agrees (s : State) (o : CR) : Prop :=
  ∀ c, s.cr = some c → c.deleting = true ∧ c.status.groupID = o.status.groupID

/-- **How far a deletion is.** Before the delete is sent the group on record is the one to delete;
once it went through nothing is left of it. -/
structure Cleaning (s : State) : Prop where
  sending : ∀ o id, s.pending = some (.deleteGroup o id) → o.status.groupID = some id ∧ Agrees s o
  sent : ∀ o, s.pending = some (.patchRemoveFinalizer o) →
    Agrees s o ∧ ∀ id, o.status.groupID = some id → ¬ s.groups.Has id

theorem cleaning_finish (s : State) (r : Except Err Result) : Cleaning (s.finish r) :=
  ⟨by simp [State.finish], by simp [State.finish]⟩

/-- Any other message says nothing. -/
theorem cleaning_continue (s : State) {msg : Message} (hsending : ∀ o id, msg ≠ .deleteGroup o id)
    (hsent : ∀ o, msg ≠ .patchRemoveFinalizer o) : Cleaning (s.continue msg) :=
  ⟨fun o id h => absurd (Option.some.inj h) (hsending o id),
    fun o h => absurd (Option.some.inj h) (hsent o)⟩

/-- What the others do to the groups and the user to the object does not undo a deletion. -/
theorem Cleaning.of_others (h : Cleaning s) {s' : State} (hpending : s'.pending = s.pending)
    (hgroups : ∀ id, s'.groups.Has id → s.groups.Has id)
    (hcr : ∀ c, s'.cr = some c → ∃ c₀, s.cr = some c₀ ∧ c.status = c₀.status ∧
      (c₀.deleting = true → c.deleting = true)) : Cleaning s' := by
  have hagrees : ∀ o, Agrees s o → Agrees s' o := by
    intro o hag c hc
    obtain ⟨c₀, hc₀, hstatus, hdel⟩ := hcr c hc
    rw [hstatus]
    exact ⟨hdel (hag c₀ hc₀).1, (hag c₀ hc₀).2⟩
  refine ⟨fun o id ho => ?_, fun o ho => ?_⟩
  · rw [hpending] at ho
    exact ⟨(h.sending o id ho).1, hagrees o (h.sending o id ho).2⟩
  · rw [hpending] at ho
    exact ⟨hagrees o (h.sent o ho).1, fun id hid hhas => (h.sent o ho).2 id hid (hgroups id hhas)⟩

theorem cleaning_begin (s : State) : Cleaning (begin s) := by
  rw [begin]
  cases hcr : s.cr with
  | none => exact cleaning_finish s _
  | some o =>
    have hagrees : o.deleting = true → Agrees (s.continue (firstMessage o)) o := by
      intro hdel c hc
      obtain rfl := Option.some.inj (hcr.symm.trans hc)
      exact ⟨hdel, rfl⟩
    refine ⟨fun o₁ id h => ?_, fun o₁ h => ?_⟩ <;>
      replace h := Option.some.inj h <;> rw [firstMessage] at h <;> split at h <;> cases h
    · next hdel hid => exact ⟨hid, hagrees hdel⟩
    · next hdel hid => exact ⟨hagrees hdel, fun id h => absurd (hid.symm.trans h) (by simp)⟩

theorem Cleaning.answer (h : Cleaning s) {msg : Message} (hmsg : s.pending = some msg) :
    Cleaning (answer s msg) := by
  cases msg with
  | patchFinalizer o =>
    rw [Group.answer, patch]
    cases s.cr with
    | none => exact cleaning_finish s _
    | some c =>
      dsimp only
      rw [ensureGroup]
      split <;> exact cleaning_continue _ (by simp) (by simp)
  | getGroup o id =>
    rw [Group.answer]
    cases s.groups.get id with
    | none => exact cleaning_continue _ (by simp) (by simp)
    | some g => exact cleaning_continue _ (by simp) (by simp)
  | updateGroup o id req =>
    rw [Group.answer]
    cases s.groups.get id with
    | none => exact cleaning_continue _ (by simp) (by simp)
    | some g => exact cleaning_continue _ (by simp) (by simp)
  | createGroup o => exact cleaning_continue _ (by simp) (by simp)
  | patchReady o id =>
    rw [Group.answer, patch]
    cases s.cr with
    | none => exact cleaning_finish s _
    | some c => exact cleaning_finish _ _
  | patchRemoveFinalizer o =>
    rw [Group.answer, patch]
    cases s.cr with
    | none => exact cleaning_finish s _
    | some c => exact cleaning_finish _ _
  | deleteGroup o id =>
    obtain ⟨hid, hagrees⟩ := h.sending o id hmsg
    refine ⟨fun o₁ i h₁ => by simp [Group.answer, State.continue] at h₁, fun o₁ h₁ => ?_⟩
    obtain rfl : o = o₁ := by simpa [Group.answer, State.continue] using h₁
    refine ⟨hagrees, fun i hi hhas => ?_⟩
    obtain rfl := Option.some.inj (hid.symm.trans hi)
    exact (Store.has_delete.mp hhas).2 rfl

theorem Cleaning.step (h : Cleaning s) (ev : Event) : Cleaning (step s ev) := by
  have hsame : ∀ c, s.cr = some c → ∃ c₀, s.cr = some c₀ ∧ c.status = c₀.status ∧
      (c₀.deleting = true → c.deleting = true) := fun c hc => ⟨c, hc, rfl, id⟩
  cases ev with
  | reconcile =>
    rw [Group.step]
    split
    · exact cleaning_begin s
    · exact h
  | message fault =>
    rw [Group.step]
    cases hmsg : s.pending with
    | none => exact h
    | some msg =>
      cases fault with
      | none => exact h.answer hmsg
      | some f =>
        show Cleaning (failed s msg f)
        unfold failed
        split <;> exact cleaning_finish s _
  | foreign id m added =>
    rw [Group.step]
    cases s.groups.get id with
    | none => exact h
    | some g => exact h.of_others rfl (fun _ => Store.has_update.mp) hsame
  | foreignDelete id =>
    exact h.of_others rfl (fun _ hhas => (Store.has_delete.mp hhas).1) hsame
  | edit spec =>
    refine h.of_others rfl (fun _ => id) fun c hc => ?_
    obtain ⟨c₀, hc₀, rfl⟩ := Option.map_eq_some_iff.mp hc
    exact ⟨c₀, hc₀, rfl, id⟩
  | delete =>
    refine h.of_others rfl (fun _ => id) fun c hc => ?_
    obtain ⟨c₀, hc₀, hdel⟩ := Option.bind_eq_some_iff.mp hc
    split at hdel
    · obtain rfl := Option.some.inj hdel
      exact ⟨c₀, hc₀, rfl, fun _ => rfl⟩
    · simp at hdel

theorem cleaning_of_run (cr : Option CR) (groups : Store NetbirdGroup) (es : List Event) :
    Cleaning (run Group.step (.initial cr groups) es) :=
  run_keeps ⟨by simp [State.initial], by simp [State.initial]⟩ fun _ ev h => h.step ev

/-- No group is left of the recorded one. -/
def Gone (o : CR) (groups : Store NetbirdGroup) : Prop :=
  ∀ id, o.status.groupID = some id → ¬ groups.Has id

/-- A message that goes through takes the finalizer off only at the end of a deletion. -/
theorem finalizerLast_answer (h : Cleaning s) {msg : Message} (hmsg : s.pending = some msg)
    {failed : CR → Prop} (hfailed : ∀ o, ¬ failed o) :
    FinalizerLast s.cr (answer s msg).cr (fun o => Gone o (answer s msg).groups) failed := by
  cases msg with
  | patchFinalizer o =>
    rw [answer, patch]
    cases hcr : s.cr with
    | none => exact finalizerLast_of_eq hcr
    | some c =>
      refine finalizerLast_of_held (fun _ => ⟨{ c with finalizer := true }, ?_, rfl⟩) (hfailed c)
      dsimp only
      rw [ensureGroup]
      split <;> simp [State.continue]
  | getGroup o id =>
    rw [answer]
    cases s.groups.get id <;> exact finalizerLast_of_eq rfl
  | updateGroup o id req =>
    rw [answer]
    cases s.groups.get id <;> exact finalizerLast_of_eq rfl
  | createGroup o => exact finalizerLast_of_eq rfl
  | deleteGroup o id => exact finalizerLast_of_eq rfl
  | patchReady o id =>
    rw [answer, patch]
    cases hcr : s.cr with
    | none => exact finalizerLast_of_eq hcr
    | some c =>
      refine finalizerLast_of_held (fun hfin => ⟨asReady id o.generation c, ?_, hfin⟩) (hfailed c)
      simp [State.finish, asReady, hfin]
  | patchRemoveFinalizer o =>
    obtain ⟨hagrees, hgone⟩ := h.sent o hmsg
    rw [answer, patch]
    cases hcr : s.cr with
    | none => exact finalizerLast_of_eq hcr
    | some c =>
      obtain ⟨hdel, hid⟩ := hagrees c hcr
      have hnone : (if c.deleting = true ∧ ¬ (false = true) then (none : Option CR)
          else some { c with finalizer := false }) = none := if_pos ⟨hdel, by simp⟩
      show FinalizerLast (some c) (if c.deleting = true ∧ ¬ (false = true) then none
        else some { c with finalizer := false }) (fun o => Gone o s.groups) failed
      rw [hnone]
      exact finalizerLast_of_released hdel (fun id h => hgone id (hid.symm.trans h)) (hfailed c)

theorem finalizerLast (h : Cleaning s) (ev : Event) :
    FinalizerLast s.cr (step s ev).cr (fun o => Gone o (step s ev).groups)
      fun _ => ∃ f, ev = .message (some f) := by
  cases ev with
  | reconcile =>
    rw [step]
    split
    · rw [begin]
      cases hcr : s.cr with
      | none => exact finalizerLast_of_eq hcr
      | some o => exact finalizerLast_of_eq hcr
    · exact finalizerLast_of_eq rfl
  | message fault =>
    rw [step]
    cases hmsg : s.pending with
    | none => exact finalizerLast_of_eq rfl
    | some msg =>
      cases fault with
      | none => exact finalizerLast_answer h hmsg (by simp)
      | some f =>
        refine finalizerLast_of_eq ?_
        show (failed s msg f).cr = s.cr
        unfold failed
        split <;> rfl
  | foreign id m added =>
    rw [step]
    cases s.groups.get id <;> exact finalizerLast_of_eq rfl
  | foreignDelete id => exact finalizerLast_of_eq rfl
  | edit spec =>
    rw [step]
    cases hcr : s.cr with
    | none => exact finalizerLast_of_eq rfl
    | some c => exact finalizerLast_of_held (fun hfin => ⟨_, rfl, hfin⟩) (by simp)
  | delete =>
    rw [step]
    cases hcr : s.cr with
    | none => exact finalizerLast_of_eq rfl
    | some c =>
      exact finalizerLast_of_held (fun hfin => ⟨{ c with deleting := true }, by simp [hfin], hfin⟩)
        (by simp)

end Group

/-! ### All kinds -/

/-- In every state of every run, whatever fails and whatever others do, the id of a child is on
record only together with the id of the parent under which it was issued. -/
structure ChildIDsPaired : Prop where
  networkResource : ∀ networks es,
    NetworkResource.AllPaired (run NetworkResource.step (NetworkResource.initial networks) es)
  dnsRecord : ∀ zones es, DNSRecord.AllPaired (run DNSRecord.step (DNSRecord.initial zones) es)
  networkRouter : ∀ ns name spec networks es, NetworkRouter.AllPaired
    (run NetworkRouter.step (NetworkRouter.initial ns name spec networks) es)

/-- A pass of the mirror reconciler whose apply fails, with a plain error or with a dependency that
is not ready, leaves the ids on record as they were. The pass is that with the object in memory. -/
structure FailedApplyKeepsIDs : Prop where
  network : ∀ fault, Mirror.Memory.KeepsIDs fault (Network.memory fault)
  networkResource : ∀ env, Mirror.Memory.KeepsIDs env.fault (NetworkResource.memory env)
  dnsZone : ∀ env, Mirror.Memory.KeepsIDs env.fault (DNSZone.memory env)
  dnsRecord : ∀ env, Mirror.Memory.KeepsIDs env.fault (DNSRecord.memory env)
  reverseProxyService : ∀ env, Mirror.Memory.KeepsIDs env.fault (ReverseProxyService.memory env)

/-- A pass takes a finalizer off only once what is on record is cleaned up, and keeps it when the
deletion fails. The children's passes start in the states of runs, and so do Group's messages; the
others start anywhere. -/
structure FinalizersLast : Prop where
  network : ∀ fault uid w i, FinalizerLast (w.objects.get i)
    ((Network.reconcile fault uid w).2.objects.get i)
    (fun net => Network.Gone net (Network.reconcile fault uid w).2.account)
    (Mirror.DeleteFails (Network.mirror fault) w uid)
  networkResource : ∀ networks es w,
    w = run NetworkResource.step (NetworkResource.initial networks) es → ∀ env uid i,
    FinalizerLast (w.objects.get i) ((NetworkResource.reconcile env uid w).2.objects.get i)
      (fun nr => NetworkResource.Gone nr (NetworkResource.reconcile env uid w).2.account)
      (Mirror.DeleteFails (NetworkResource.mirror env) w uid)
  dnsZone : ∀ env uid w i, FinalizerLast (w.objects.get i)
    ((DNSZone.reconcile env uid w).2.objects.get i)
    (fun z => DNSZone.GoneOrShared uid w.objects z (DNSZone.reconcile env uid w).2.account)
    (Mirror.DeleteFails (DNSZone.mirror env) w uid)
  dnsRecord : ∀ zones es w, w = run DNSRecord.step (DNSRecord.initial zones) es → ∀ env uid i,
    FinalizerLast (w.objects.get i) ((DNSRecord.reconcile env uid w).2.objects.get i)
      (fun rec => DNSRecord.Gone rec (DNSRecord.reconcile env uid w).2.account)
      (Mirror.DeleteFails (DNSRecord.mirror env) w uid)
  reverseProxyService : ∀ env uid w i, FinalizerLast (w.objects.get i)
    ((ReverseProxyService.reconcile env uid w).2.objects.get i)
    (fun o => ReverseProxyService.Gone o (ReverseProxyService.reconcile env uid w).2.account)
    (Mirror.DeleteFails (ReverseProxyService.mirror env) w uid)
  group : ∀ cr groups es s, s = run Group.step (.initial cr groups) es → ∀ ev,
    FinalizerLast s.cr (Group.step s ev).cr (fun o => Group.Gone o (Group.step s ev).groups)
      fun _ => ∃ f, ev = .message (some f)
  networkRouter : ∀ ns name spec networks es w,
    w = run NetworkRouter.step (NetworkRouter.initial ns name spec networks) es → ∀ env,
    FinalizerLast w.cr (NetworkRouter.reconcile env w).2.cr
      (fun o => NetworkRouter.Gone o (NetworkRouter.reconcile env w).2.networks)
      (NetworkRouter.DeleteFails env)
  setupKey : ∀ env w, FinalizerLast w.cr (SetupKey.reconcile env w).2.cr
    (fun o => SetupKey.Gone o (SetupKey.reconcile env w).2)
    fun _ => ∃ e, (SetupKey.reconcile env w).1 = .error e
  reverseProxyCluster : ∀ env uid w i, FinalizerLast (w.rpcs.get i)
    ((ReverseProxyCluster.reconcile env uid w).2.rpcs.get i)
    (ReverseProxyCluster.Cleared uid w (ReverseProxyCluster.reconcile env uid w).2)
    fun _ => ∃ e, (ReverseProxyCluster.reconcile env uid w).1 = .error e

theorem childIDsPaired : ChildIDsPaired where
  networkResource := NetworkResource.paired_of_run
  dnsRecord := DNSRecord.paired_of_run
  networkRouter := NetworkRouter.paired_of_run

theorem failedApplyKeepsIDs : FailedApplyKeepsIDs where
  network fault := Mirror.Memory.keepsIDs (Network.memory_implements fault).waitsFirst
  networkResource env := Mirror.Memory.keepsIDs (NetworkResource.memory_implements env).waitsFirst
  dnsZone env := Mirror.Memory.keepsIDs (DNSZone.memory_implements env).waitsFirst
  dnsRecord env := Mirror.Memory.keepsIDs (DNSRecord.memory_implements env).waitsFirst
  reverseProxyService env :=
    Mirror.Memory.keepsIDs (ReverseProxyService.memory_implements env).waitsFirst

theorem finalizersLast : FinalizersLast where
  network _ _ _ := Mirror.finalizerLast fun _ _ => Network.deleteNetwork_gone
  networkResource := by
    rintro networks es w rfl env uid
    refine Mirror.finalizerLast fun nr hget => NetworkResource.deleteNetworkResource_gone ?_
    exact NetworkResource.paired_of_run networks es ⟨uid, nr⟩ (Store.get_eq_some.mp hget)
  dnsZone _ _ _ := Mirror.finalizerLast fun _ _ => DNSZone.deleteDNSZone_gone
  dnsRecord := by
    rintro zones es w rfl env uid
    refine Mirror.finalizerLast fun rec hget => DNSRecord.deleteDNSRecord_gone ?_
    exact DNSRecord.paired_of_run zones es ⟨uid, rec⟩ (Store.get_eq_some.mp hget)
  reverseProxyService _ _ _ :=
    Mirror.finalizerLast fun _ _ => ReverseProxyService.deleteReverseProxyService_gone
  group := by
    rintro cr groups es s rfl ev
    exact Group.finalizerLast (Group.cleaning_of_run cr groups es) ev
  networkRouter := by
    rintro ns name spec networks es w rfl env
    exact NetworkRouter.finalizerLast env (NetworkRouter.paired_of_run ns name spec networks es)
  setupKey := SetupKey.finalizerLast
  reverseProxyCluster := ReverseProxyCluster.finalizerLast

/-- **Cleanup before release.** The ids on record stay coherent, and finalizers go last. -/
theorem cleanup_before_release : ChildIDsPaired ∧ FailedApplyKeepsIDs ∧ FinalizersLast :=
  ⟨childIDsPaired, failedApplyKeepsIDs, finalizersLast⟩

/-- The object of a deleted record goes, and with it the record it has on record. -/
theorem cleanup_before_release_record :
    ∃ o, (run DNSRecord.step (DNSRecord.initial fun _ => .empty)
        DNSRecord.separateRun).objects.get 0 = some o ∧ o.status.recorded = ⟨some 7, some 0⟩ ∧
      DNSRecord.Gone o (DNSRecord.reconcile DNSRecord.calm 0 (run DNSRecord.step
        (DNSRecord.initial fun _ => .empty) DNSRecord.separateRun)).2.account :=
  ⟨_, rfl, rfl, ((cleanup_before_release.2.2.dnsRecord (fun _ => .empty) DNSRecord.separateRun _ rfl
    DNSRecord.calm 0 0).removed _ rfl rfl (by decide)).2⟩

end NetbirdOperator
