import NetbirdOperator.Mirror.Shelf
import NetbirdOperator.NetworkRouter.PeerGroup

/-!
# What a pass over a NetworkRouter does

The object and the routers after a pass, whichever of its calls fail. NetworkRouter is not driven by
the mirror reconciler, and it differs from the mirrored kinds in one respect: the network it
resolved is in the status by the time it waits for its peers, so a pass that waits writes the new
network, and drops the recorded router if that was in another one.

What the pass applies for deployed peers is not looked at here; `PeerGroup` is about that.

## Main results

* `NetworkRouter.upsertRouter_triple` — the routers are one more collection of the account
* `NetworkRouter.reconcile_effect` — the ways a pass can end
* `NetworkRouter.reconcile_of_group`, `bindGroup_of_ok` — a live pass that gets to its router
-/

namespace NetbirdOperator

open ControlLoop

namespace NetworkRouter

open Pass

open Mirror.Shelf (Upserted)

variable {env : Env} {w w' : World} {o o' : CR} {groupID : String}

/-- The routers of a network, as a collection of the account. -/
def routers (networkID : ℕ) : Mirror.Shelf (ℕ → Store Router) Router where
  view networks := networks networkID
  set networks s := setRouters networkID s networks
  view_set _ _ := if_pos rfl

/-! ### The router -/

theorem routerExists_triple (networkID id : ℕ) :
    Triple (fun w' => w' = w) (routerExists env networkID id)
      (fun found w' => w' = w ∧ (found = true ↔ (w.networks networkID).Has id))
      fun _ w' => w' = w := by
  refine Triple.bind (call_triple fun _ _ h => h) fun _ => ?_
  rintro w' rfl
  exact ⟨rfl, Store.isSome_get⟩

/-- **The upsert**, whichever calls fail: the object stays, and the routers change as in any other
collection. -/
theorem upsertRouter_triple (env : Env) (networkID : ℕ) (routerID : Option ℕ) (groupID : String)
    (spec : Spec) (w : World) :
    Triple (fun w' => w' = w) (upsertRouter env networkID routerID groupID spec)
      (fun id w' => w'.cr = w.cr ∧
        Upserted (routers networkID) routerID (routerRequest spec groupID) w.networks id
          w'.networks)
      fun _ w' => w' = w := by
  refine Triple.bind (Mirror.verifyNetbirdID_triple (routerExists_triple networkID) routerID)
    fun verified => Triple.assume fun hverified => ?_
  rcases hverified with ⟨id, rfl, hrec, hhas⟩ | ⟨rfl, hgone⟩
  · show Triple _ (updateRouter env networkID id (routerRequest spec groupID)) _ _
    rintro w' rfl
    cases hfault : env.fault .updateRouter with
    | some f => rw [updateRouter_of_some hfault]
    | none =>
      rw [updateRouter_of_none hfault (Store.isSome_get.mpr hhas)]
      exact ⟨rfl, .updated hrec hhas⟩
  · show Triple _ (createRouter env networkID (routerRequest spec groupID)) _ _
    rintro w' rfl
    cases hfault : env.fault .createRouter with
    | some f => rw [createRouter_of_some hfault]
    | none =>
      rw [createRouter_of_none hfault]
      exact ⟨rfl, .created hgone⟩

/-! ### Passes -/

/-- Resolving the group touches neither the object nor the routers. -/
theorem resolvePeerGroup_keeps (env : Env) (o : CR) (cr : Option CR)
    (networks : ℕ → Store Router) :
    Triple (fun w => w.cr = cr ∧ w.networks = networks) (resolvePeerGroup env o)
      (fun _ w => w.cr = cr ∧ w.networks = networks)
      fun _ w => w.cr = cr ∧ w.networks = networks := by
  unfold resolvePeerGroup
  cases o.spec.peers.group with
  | none =>
    exact stage_triple (fun _ h => h) fun _ => stage_triple (fun _ h => h) fun _ =>
      stage_triple (fun _ h => h) fun _ _ h => h
  | some g => exact Triple.of_unchanged (fun _ => rfl) fun _ _ => id

/-- `o'` is `o` with the finalizer on, and a status the pass may have written while it waits: the
network and the router are those on record, or the network is one the pass resolved and the router
is the one on record there. -/
structure Waiting (env : Env) (o o' : CR) : Prop where
  finalizer : o'.finalizer = true
  deleting : o'.deleting = o.deleting
  spec : o'.spec = o.spec
  ids : (o'.status.networkID = o.status.networkID ∧ o'.status.routerID = o.status.routerID) ∨
    ∃ n, env.networkStatus o.spec.networkRef = some (some n) ∧ o'.status.networkID = some n ∧
      o'.status.routerID = (withNetwork o n).status.routerID

/-- The routers without the one on record. -/
def withoutRouter (o : CR) (networks : ℕ → Store Router) : ℕ → Store Router :=
  match o.status.networkID, o.status.routerID with
  | some n, some id => setRouters n ((networks n).delete id) networks
  | _, _ => networks

/-- **What a pass over a live object needs to write a router** of the network `n`. -/
structure Reaches (env : Env) (w : World) (o : CR) (n : ℕ) : Prop where
  get : env.fault .get = none
  patched : env.fault .patchFinalizer = none
  network : resolveNetworkID env o.spec.networkRef = .ok n
  group : FindsGroup env o
  upsert : UpsertGoesThrough env (w.networks n) (withNetwork o n).status.routerID

theorem Reaches.status {n : ℕ} (h : Reaches env w o n) :
    env.networkStatus o.spec.networkRef = some (some n) :=
  (Mirror.dependencyID_eq_ok.mp h.network).2

/-- **The ways a pass can end**, for the object and the routers. -/
inductive Effect (env : Env) (w : World) : Option CR → (ℕ → Store Router) → Prop where
  | idle : Effect env w w.cr w.networks
  | waited {o o' : CR} (hcr : w.cr = some o) (hlive : o.deleting = false)
      (hwait : Waiting env o o') : Effect env w (some o') w.networks
  | bound {o : CR} {o' : CR} {n id : ℕ} {groupID : String} {networks : ℕ → Store Router}
      (hcr : w.cr = some o) (hlive : o.deleting = false)
      (hreaches : Reaches env w o n)
      (hupsert : Upserted (routers n) (withNetwork o n).status.routerID
        (routerRequest o.spec groupID) w.networks id networks)
      (hwritten : o' = { o with finalizer := true } ∧ env.fault .patchReady ≠ none ∨
        o' = asReady (withNetwork { o with finalizer := true } n) groupID id ∧
          env.fault .patchReady = none) :
      Effect env w (some o') networks
  | kept {o : CR} (hcr : w.cr = some o) (hdel : o.deleting = true)
      (hsent : ∀ n id, o.status.networkID = some n → o.status.routerID = some id →
        env.fault .deleteRouter = none) :
      Effect env w (some o) (withoutRouter o w.networks)
  | released {o : CR} (hcr : w.cr = some o) (hdel : o.deleting = true)
      (hsent : ∀ n id, o.status.networkID = some n → o.status.routerID = some id →
        env.fault .deleteRouter = none) :
      Effect env w none (withoutRouter o w.networks)

/-- A patch of an object with the finalizer goes through or leaves the world as it is. -/
theorem patch_eq (env : Env) (c : Call) (hfin : o.finalizer = true) (w : World) :
    (env.fault c = none ∧ patch env c o w = (.ok (), { w with cr := some o })) ∨
      (env.fault c ≠ none ∧ ∃ e, patch env c o w = (.error e, w)) := by
  cases hfault : env.fault c with
  | none =>
    refine Or.inl ⟨rfl, ?_⟩
    rw [patch, bind_of_ok (call_of_none hfault w), modify_apply, if_neg (by simp [hfin])]
  | some f =>
    exact Or.inr ⟨by simp, .api c f, bind_of_error (call_of_some hfault w)⟩

section Live

variable (hcr : w.cr = some o) (hlive : o.deleting = false)

include hcr hlive

/-- Once the finalizer is on, an error leaves the object and the routers, up to what a wait
writes. -/
theorem dependency_effect {e : Err} {w₁ : World} (hwait : Waiting env o o')
    (h : w₁.cr = some { o with finalizer := true } ∧ w₁.networks = w.networks) :
    Effect env w (dependency env o' e w₁).2.cr (dependency env o' e w₁).2.networks := by
  have hstart : Effect env w w₁.cr w₁.networks := by
    rw [h.1, h.2]
    exact .waited hcr hlive ⟨rfl, rfl, rfl, Or.inl ⟨rfl, rfl⟩⟩
  cases e with
  | dependencyNotReady msg =>
    have hfin : ({ o' with status := { o'.status with ready := some (markFalse msg) } } :
        CR).finalizer = true := hwait.finalizer
    rw [dependency]
    rcases patch_eq env .patchNotReady hfin w₁ with ⟨-, hp⟩ | ⟨-, e, hp⟩
    · rw [bind_of_ok hp]
      show Effect env w _ w₁.networks
      rw [h.2]
      exact .waited hcr hlive ⟨hwait.finalizer, hwait.deleting, hwait.spec, hwait.ids⟩
    · rw [bind_of_error hp]
      exact hstart
  | api | notFound | group => exact hstart

theorem bindGroup_effect {n : ℕ} {w₁ : World}
    (hreaches : UpsertGoesThrough env (w.networks n) (withNetwork o n).status.routerID →
      Reaches env w o n)
    (h : w₁.cr = some { o with finalizer := true } ∧ w₁.networks = w.networks) :
    Effect env w (bindGroup env n (withNetwork { o with finalizer := true } n) groupID w₁).2.cr
      (bindGroup env n (withNetwork { o with finalizer := true } n) groupID w₁).2.networks := by
  have hupsert := upsertRouter_triple env n
    (withNetwork { o with finalizer := true } n).status.routerID groupID o.spec w₁
  rw [h.2] at hupsert
  rcases hup : upsertRouter env n (withNetwork { o with finalizer := true } n).status.routerID
    groupID (withNetwork { o with finalizer := true } n).spec w₁ with ⟨out, w₂⟩
  cases out with
  | error e =>
    rw [bindGroup, bind_of_error hup, hupsert.error rfl hup, h.1, h.2]
    exact .waited hcr hlive ⟨rfl, rfl, rfl, Or.inl ⟨rfl, rfl⟩⟩
  | ok id =>
    obtain ⟨hcr₂, hups⟩ := hupsert.ok rfl hup
    have hreaches : Reaches env w o n := by
      refine hreaches (Classical.byContradiction fun hgo => ?_)
      rw [← h.2] at hgo
      obtain ⟨e, he⟩ := upsertRouter_of_not_goesThrough groupID o.spec hgo
      exact absurd (hup.symm.trans he) (by simp)
    rw [bindGroup, bind_of_ok hup]
    rcases patch_eq env .patchReady
      (o := asReady (withNetwork { o with finalizer := true } n) groupID id) rfl w₂
      with ⟨hfault, hp⟩ | ⟨hfault, e, hp⟩
    · rw [bind_of_ok hp]
      exact .bound hcr hlive hreaches hups (Or.inr ⟨rfl, hfault⟩)
    · rw [bind_of_error hp, hcr₂, h.1]
      exact .bound hcr hlive hreaches hups (Or.inl ⟨rfl, hfault⟩)

theorem reconcileLive_effect (hget : env.fault .get = none) :
    Effect env w (reconcileLive env o w).2.cr (reconcileLive env o w).2.networks := by
  rw [reconcileLive]
  rcases patch_eq env .patchFinalizer (o := { o with finalizer := true }) rfl w
    with ⟨hfin, hp⟩ | ⟨-, e, hp⟩
  swap
  · rw [bind_of_error hp]
    exact .idle
  rw [bind_of_ok hp]
  dsimp only
  cases hnetwork : resolveNetworkID env o.spec.networkRef with
  | error e =>
    exact dependency_effect hcr hlive ⟨rfl, rfl, rfl, Or.inl ⟨rfl, rfl⟩⟩ ⟨rfl, rfl⟩
  | ok n =>
    have hstatus := (Mirror.dependencyID_eq_ok.mp hnetwork).2
    have hkeeps := resolvePeerGroup_keeps env (withNetwork { o with finalizer := true } n)
      (some { o with finalizer := true }) w.networks
    dsimp only
    rw [reconcileRouter, bind_of_ok (observe_apply _ _)]
    rcases hgroup : resolvePeerGroup env (withNetwork { o with finalizer := true } n)
      { w with cr := some { o with finalizer := true } } with ⟨out, w₁⟩
    cases out with
    | error e =>
      have hkept := hkeeps.error (s := { w with cr := some { o with finalizer := true } })
        ⟨rfl, rfl⟩ hgroup
      exact dependency_effect hcr hlive ⟨rfl, rfl, rfl, Or.inr ⟨n, hstatus, rfl, rfl⟩⟩ hkept
    | ok g =>
      have hkept := hkeeps.ok (s := { w with cr := some { o with finalizer := true } })
        ⟨rfl, rfl⟩ hgroup
      have hfinds : FindsGroup env (withNetwork { o with finalizer := true } n) :=
        exists_resolvePeerGroup_eq_ok.mp ⟨g, w₁, hgroup⟩
      exact bindGroup_effect hcr hlive (fun hgo => ⟨hget, hfin, hnetwork, hfinds, hgo⟩) hkept

end Live

theorem deleteRecorded_eq (env : Env) (o : CR) (w : World) :
    ((∀ n id, o.status.networkID = some n → o.status.routerID = some id →
        env.fault .deleteRouter = none) ∧
        deleteRecorded env o w = (.ok (), { w with networks := withoutRouter o w.networks })) ∨
      ∃ e, deleteRecorded env o w = (.error e, w) := by
  rw [deleteRecorded, withoutRouter]
  cases o.status.networkID with
  | none => exact Or.inl ⟨fun _ _ h => by simp at h, rfl⟩
  | some n =>
    cases o.status.routerID with
    | none => exact Or.inl ⟨fun _ _ _ h => by simp at h, rfl⟩
    | some id =>
      dsimp only
      cases hfault : env.fault .deleteRouter with
      | none =>
        refine Or.inl ⟨fun _ _ _ _ => rfl, ?_⟩
        rw [deleteRouter, bind_of_ok (call_of_none hfault w)]
        rfl
      | some f => exact Or.inr ⟨_, bind_of_error (call_of_some hfault w)⟩

theorem reconcileDelete_effect (hcr : w.cr = some o) (hdel : o.deleting = true) :
    Effect env w (reconcileDelete env o w).2.cr (reconcileDelete env o w).2.networks := by
  rw [reconcileDelete]
  rcases deleteRecorded_eq env o w with ⟨hsent, h⟩ | ⟨e, h⟩
  swap
  · rw [bind_of_error h]
    exact .idle
  rw [bind_of_ok h]
  cases hfault : env.fault .patchRemoveFinalizer with
  | none =>
    have hpatch : patch env .patchRemoveFinalizer { o with finalizer := false }
        { w with networks := withoutRouter o w.networks } =
        (.ok (), { w with cr := none, networks := withoutRouter o w.networks }) := by
      rw [patch, bind_of_ok (call_of_none hfault _), modify_apply, if_pos ⟨hdel, by simp⟩]
    rw [bind_of_ok hpatch]
    exact .released hcr hdel hsent
  | some f =>
    have hpatch : patch env .patchRemoveFinalizer { o with finalizer := false }
        { w with networks := withoutRouter o w.networks } =
        (.error (.api .patchRemoveFinalizer f),
          { w with networks := withoutRouter o w.networks }) := by
      rw [patch, bind_of_error (call_of_some hfault _)]
    rw [bind_of_error hpatch]
    show Effect env w w.cr _
    rw [hcr]
    exact .kept hcr hdel hsent

/-- **What a pass can do**, whichever of its calls fail. -/
theorem reconcile_effect (env : Env) (w : World) :
    Effect env w (reconcile env w).2.cr (reconcile env w).2.networks := by
  rw [reconcile]
  cases hcall : env.fault .get with
  | some f =>
    rw [bind_of_error (call_of_some hcall w)]
    exact .idle
  | none =>
    rw [bind_of_ok (call_of_none hcall w), bind_of_ok (read_apply _ _)]
    cases hcr : w.cr with
    | none =>
      show Effect env w w.cr w.networks
      exact .idle
    | some o =>
      dsimp only
      split
      · next hdel => exact reconcileDelete_effect hcr hdel
      · next hlive => exact reconcileLive_effect hcr (by simpa using hlive) hcall

/-! ### A live pass, call by call -/

/-- Once the network and the group are resolved, a live pass binds the group. -/
theorem reconcile_of_group {n : ℕ} {w₁ : World} (hget : env.fault .get = none)
    (hfin : env.fault .patchFinalizer = none)
    (hnetwork : resolveNetworkID env o.spec.networkRef = .ok n) (hcr : w.cr = some o)
    (hlive : o.deleting = false)
    (hgroup : resolvePeerGroup env (withNetwork { o with finalizer := true } n)
      { w with cr := some { o with finalizer := true } } = (.ok groupID, w₁)) :
    reconcile env w = bindGroup env n (withNetwork { o with finalizer := true } n) groupID w₁ := by
  have hlive' : reconcile env w = reconcileLive env o w := by
    rw [reconcile, bind_of_ok (call_of_none hget w), bind_of_ok (read_apply _ _), hcr]
    simp only [hlive]
    rfl
  rw [hlive', reconcileLive, bind_of_ok (patchFinalizer_of_none hfin w)]
  dsimp only
  rw [hnetwork]
  dsimp only
  rw [reconcileRouter, bind_of_ok (observe_apply _ _), hgroup]

/-- A pass that has written its router records it, unless the last patch is lost. -/
theorem bindGroup_of_ok {n id : ℕ} {w₁ : World} (hfin : o.finalizer = true)
    (hupsert : upsertRouter env n o.status.routerID groupID o.spec w = (.ok id, w₁)) :
    (bindGroup env n o groupID w).2.networks = w₁.networks ∧
      (bindGroup env n o groupID w).2.cr =
        if env.fault .patchReady = none then some (asReady o groupID id) else w₁.cr := by
  have hfin' : (asReady o groupID id).finalizer = true := hfin
  rw [bindGroup, bind_of_ok hupsert]
  rcases patch_eq env .patchReady hfin' w₁ with ⟨hnone, hp⟩ | ⟨hsome, e, hp⟩
  · rw [bind_of_ok hp, if_pos hnone]
    exact ⟨rfl, rfl⟩
  · rw [bind_of_error hp, if_neg hsome]
    exact ⟨rfl, rfl⟩

end NetworkRouter

end NetbirdOperator
