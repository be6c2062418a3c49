import NetbirdOperator.Group.Deletion
import NetbirdOperator.NetworkRouter.Effects
import NetbirdOperator.SetupKey.Effects

/-!
# Routing peers

A NetworkRouter with deployed peers is carried out by three controllers. Its own one applies a Group
and a SetupKey, and creates a router of the network with that group as its peers; the other two
create the group, and a key whose peers join it. The three objects refer to each other in the
account: the router and the key name the group.

NetBird does not delete a group that something refers to, and the Group controller then comes back
later. What refers to the group goes away with the object that has it on record: the router with the
NetworkRouter, the key with the SetupKey. What is on no record is never deleted. A key that a failed
status write has left behind refers to the group for as long as it is there, and the Group is never
released.

This module puts the models of the three controllers together, and says what is on record and what
is not. That a teardown comes to an end if everything is on record is in `Coherence.Teardown`.

## What is left out

The DaemonSet, which nothing in the account depends on. The user changes the NetworkRouter only, and
the garbage collector deletes the two children; with the foreground policy it does so as soon as
the owner is being deleted. The Group's pass is taken message by message, a pass of the other two
controllers in one step.

## Main results

* `RoutingPeers.Stray.step` — what is on no record stays
* `RoutingPeers.group_never_released` — and keeps the Group
-/

namespace NetbirdOperator

open ControlLoop

/-! ### What a pass over a NetworkRouter does once it is deleted -/

namespace NetworkRouter

open Pass

variable {env : Env} {w : World} {o : CR}

theorem reconcile_of_gone (hcr : w.cr = none) : (reconcile env w).2 = w := by
  rw [reconcile]
  cases hget : env.fault .get with
  | some f => rw [bind_of_error (call_of_some hget w)]
  | none => rw [bind_of_ok (call_of_none hget w), bind_of_ok (read_apply _ _), hcr]; rfl

/-- Nothing is applied for an object that is being deleted. -/
theorem sent_of_deleting (hcr : w.cr = some o) (hdel : o.deleting = true) :
    (reconcile env w).2.sent = w.sent := by
  rw [reconcile]
  cases hget : env.fault .get with
  | some f => rw [bind_of_error (call_of_some hget w)]
  | none =>
    rw [bind_of_ok (call_of_none hget w), bind_of_ok (read_apply _ _), hcr]
    dsimp only
    rw [if_pos hdel, reconcileDelete]
    rcases deleteRecorded_eq env o w with ⟨-, h⟩ | ⟨e, h⟩
    · rw [bind_of_ok h, patch]
      cases hpatch : env.fault .patchRemoveFinalizer with
      | some f => rw [bind_of_error (bind_of_error (call_of_some hpatch _))]
      | none => rw [bind_assoc, bind_of_ok (call_of_none hpatch _)]; rfl
    · rw [bind_of_error h]

/-- If no call fails, the router on record and the object are gone. -/
theorem reconcile_of_deleting (hcalm : ∀ c, env.fault c = none) (hcr : w.cr = some o)
    (hdel : o.deleting = true) :
    (reconcile env w).2 = { w with cr := none, networks := withoutRouter o w.networks } := by
  rw [reconcile, bind_of_ok (call_of_none (hcalm _) w), bind_of_ok (read_apply _ _), hcr]
  dsimp only
  rw [if_pos hdel, reconcileDelete]
  rcases deleteRecorded_eq env o w with ⟨-, h⟩ | ⟨e, h⟩
  · rw [bind_of_ok h, patch, bind_assoc, bind_of_ok (call_of_none (hcalm _) _)]
    show ({ w with
      networks := withoutRouter o w.networks
      cr := if o.deleting ∧ ¬ false then none else some { o with finalizer := false } } : World) = _
    rw [if_pos ⟨hdel, by simp⟩]
  · rw [deleteRecorded] at h
    cases hn : o.status.networkID with
    | none =>
      rw [hn] at h
      cases h
    | some n =>
      cases hid : o.status.routerID with
      | none =>
        rw [hn, hid] at h
        cases h
      | some id =>
        rw [hn, hid] at h
        dsimp only at h
        rw [deleteRouter, bind_of_ok (call_of_none (hcalm _) w)] at h
        cases h

/-- What is found is what is there and not on record. -/
theorem get_withoutRouter_eq_some {networks : ℕ → Store Router} {n id : ℕ} {x : Router} :
    (withoutRouter o networks n).get id = some x ↔ (networks n).get id = some x ∧
      ¬ (o.status.networkID = some n ∧ o.status.routerID = some id) := by
  rw [withoutRouter]
  cases hn : o.status.networkID with
  | none => simp
  | some n' =>
    cases hid : o.status.routerID with
    | none => simp
    | some id' =>
      show (setRouters n' ((networks n').delete id') networks n).get id = some x ↔ _
      by_cases heq : n = n'
      · subst heq
        rw [setRouters, Function.update_self, Store.get_eq_some, Store.get_eq_some,
          Store.mem_delete]
        simp [eq_comm]
      · simp [setRouters, heq, Ne.symm heq]

end NetworkRouter

namespace RoutingPeers

/-! ### The three controllers -/

/-- A NetworkRouter, the two objects it applies, and the account. -/
structure System where
  router : NetworkRouter.World
  group : Group.State
  key : SetupKey.World
  /-- The groups that resources and policies of the account refer to. -/
  pins : List ℕ

/-- The account and the Secret, as other clients leave them. -/
structure Others where
  networks : ℕ → Store NetworkRouter.Router
  keys : Store SetupKey.Key
  secret : Option String
  groups : Store Group.NetbirdGroup
  pins : List ℕ

def System.set (s : System) (a : Others) : System :=
  { router := { s.router with networks := a.networks }
    group := { s.group with groups := a.groups }
    key := { s.key with keys := a.keys, secret := a.secret }
    pins := a.pins }

/-- Server-side apply of an object: it is created, or its fields are set. -/
def applyObject {S T : Type} [DecidableEq S] (ns name : String) (set : Option S → S) (status : T) :
    Option (Object S T) → Object S T
  | none => ⟨ns, name, 1, false, false, set none, status⟩
  | some o =>
    if set (some o.spec) = o.spec then o
    else { o with spec := set (some o.spec), generation := o.generation + 1 }

/-- The specification of the applied SetupKey. What the apply does not set stays. -/
def keySpec (groupName : String) (ephemeral : Bool) (autoGroup : String)
    (spec : Option SetupKey.Spec) : SetupKey.Spec :=
  { name := groupName
    ephemeral := ephemeral
    allowExtraDnsLabels := (spec.map SetupKey.Spec.allowExtraDnsLabels).getD false
    duration := spec.bind SetupKey.Spec.duration
    autoGroups := [{ localRef := some autoGroup }] }

/-- The effect of what a pass over the NetworkRouter sent on the other objects. -/
def System.apply (s : System) : NetworkRouter.Sent → System
  | .applied (.group ns name groupName) =>
    { s with group := { s.group with
        cr := some (applyObject ns name (fun _ => ⟨groupName⟩) {} s.group.cr) } }
  | .applied (.setupKey ns name groupName ephemeral autoGroup) =>
    { s with key := { s.key with
        cr := some (applyObject ns name (keySpec groupName ephemeral autoGroup) {} s.key.cr) } }
  | .applied (.daemonSet _ _ _ _ _ _) | .router _ _ | .ready _ => s

/-- What happens: a pass over the NetworkRouter, a turn of the Group controller, a pass over the
SetupKey, what the user does to the NetworkRouter, the collection of a child, and what other clients
do to the account. -/
inductive Event where
  | router (env : NetworkRouter.Env)
  | group (fault : Option Fault)
  | key (env : SetupKey.Env)
  | edit (spec : NetworkRouter.Spec)
  | delete
  | collectGroup
  | collectKey
  | others (a : Others)

/-- The effect of an event. A child is collected once its owner is gone or being deleted. -/
def step (s : System) : Event → System
  | .router env =>
    let w := (NetworkRouter.reconcile env { s.router with sent := [] }).2
    w.sent.foldl System.apply { s with router := w }
  | .group fault => { s with group := Group.tick s.group fault }
  | .key env => { s with key := (SetupKey.reconcile env s.key).2 }
  | .edit spec => { s with router := NetworkRouter.step s.router (.edit spec) }
  | .delete => { s with router := NetworkRouter.step s.router .delete }
  | .collectGroup =>
    if s.router.cr.all Object.deleting then { s with group := Group.step s.group .delete } else s
  | .collectKey =>
    if s.router.cr.all Object.deleting then { s with key := SetupKey.step s.key .delete } else s
  | .others a => s.set a

/-- A NetworkRouter that was just created. -/
def start (ns name : String) (spec : NetworkRouter.Spec) (a : Others) : System :=
  { router := NetworkRouter.initial ns name spec a.networks
    group := .initial none a.groups
    key := ⟨none, a.keys, a.secret, []⟩
    pins := a.pins }

/-! ### References -/

/-- What can refer to a group: a router of a network, a setup key, and the rest of the account. -/
inductive Ref where
  | router (networkID id : ℕ)
  | key (id : ℕ)
  | pin
  deriving DecidableEq, Repr

section

variable (idText : ℕ → String)

/-- The reference is there, in an account that writes the ids of groups like this. -/
def Refers (s : System) (g : ℕ) : Ref → Prop
  | .router n id => ∃ x, (s.router.networks n).get id = some x ∧ idText g ∈ x.peerGroups
  | .key id => ∃ k, s.key.keys.get id = some k ∧ idText g ∈ k.autoGroups
  | .pin => g ∈ s.pins

/-- NetBird refuses to delete the group. -/
def InUse (s : System) (g : ℕ) : Prop := ∃ r, Refers idText s g r

/-- What refers to a group is on record with one of the objects. -/
def Recorded (s : System) : Ref → Prop
  | .router n id => ∃ o, s.router.cr = some o ∧ o.status.networkID = some n ∧
      o.status.routerID = some id
  | .key id => ∃ o, s.key.cr = some o ∧ o.status.setupKeyID = some id
  | .pin => False

/-- The condition on an event. NetBird deletes no group that is in use, and gives no id twice. -/
def Allowed (s : System) : Event → Prop
  | .group fault => fault = none → ∀ o id, s.group.pending = some (.deleteGroup o id) →
      ¬ InUse idText s id
  | .others a => s.group.groups.next ≤ a.groups.next ∧
      (∀ i, a.groups.Has i → s.group.groups.Has i ∨ s.group.groups.next ≤ i) ∧
      ∀ g, InUse idText (s.set a) g → s.group.groups.Has g → a.groups.Has g
  | .router _ | .key _ | .edit _ | .delete | .collectGroup | .collectKey => True

/-- Nothing fails except the deletion of a group in use, and other clients add no reference. -/
def Healthy (s : System) : Event → Prop
  | .router env => ∀ c, env.fault c = none
  | .key env => ∀ c, env.fault c = none
  | .group fault => fault = none ∨
      ∃ o id, s.group.pending = some (.deleteGroup o id) ∧ InUse idText s id
  | .others a => ∀ g r, Refers idText (s.set a) g r → Refers idText s g r
  | .edit _ | .delete | .collectGroup | .collectKey => True

end

/-! ### What is true of every state -/

structure Valid (s : System) : Prop where
  group : Group.Tracked s.group
  /-- A live NetworkRouter finds no leftovers of an earlier Group. -/
  fresh : ∀ o, s.router.cr = some o → o.deleting = false → s.group.cr = none →
    s.group.pending = none
  held : ∀ o, s.router.cr = some o → o.finalizer = false → o.status.routerID = none
  paired : ∀ o, s.router.cr = some o → o.status.networkID = none → o.status.routerID = none
  key : ∀ o, s.key.cr = some o → o.finalizer = false → o.status.setupKeyID = none

variable {idText : ℕ → String} {s : System}

theorem valid_start (ns name : String) (spec : NetworkRouter.Spec) (a : Others) :
    Valid (start ns name spec a) where
  group := ⟨fun _ _ hc => (by cases hc), fun _ hc => (by cases hc), fun _ _ hc => (by cases hc)⟩
  fresh _ _ _ _ := rfl
  held o ho _ := by
    obtain rfl := Option.some.inj ho
    rfl
  paired o ho _ := by
    obtain rfl := Option.some.inj ho
    rfl
  key _ ho := by cases ho

/-- An apply leaves the status, the finalizer and the deletion of an object. -/
theorem applyObject_some {S T : Type} [DecidableEq S] (ns name : String) (set : Option S → S)
    (status : T) (o : Object S T) :
    (applyObject ns name set status (some o)).status = o.status ∧
      (applyObject ns name set status (some o)).finalizer = o.finalizer ∧
      (applyObject ns name set status (some o)).deleting = o.deleting := by
  rw [applyObject]
  split
  · exact ⟨rfl, rfl, rfl⟩
  · exact ⟨rfl, rfl, rfl⟩

/-- What an apply says of the object. -/
theorem knows_of_same {groups : Store Group.NetbirdGroup} {c c' : Group.CR} {msg : Group.Message}
    (h : Group.Knows groups c msg) (hstatus : c'.status = c.status)
    (hfin : c'.finalizer = c.finalizer) (hdel : c'.deleting = c.deleting) :
    Group.Knows groups c' msg := by
  cases msg <;> simp only [Group.Knows, hstatus, hfin, hdel] at h ⊢ <;> exact h

theorem Valid.apply (h : Valid s) (hidle : s.group.cr = none → s.group.pending = none)
    (m : NetworkRouter.Sent) : Valid (s.apply m) ∧
      ((s.apply m).group.cr = none → (s.apply m).group.pending = none) := by
  unfold System.apply
  split
  · next ns name groupName =>
    refine ⟨⟨?_, fun _ _ _ hcr => (by cases hcr), h.held, h.paired, h.key⟩, fun hcr => by cases hcr⟩
    cases hcr : s.group.cr with
    | none =>
      have hpending := hidle hcr
      refine ⟨fun c msg hc hmsg => absurd (hpending.symm.trans hmsg) (by simp), ?_, ?_⟩
      · rintro c hc hid
        obtain rfl := Option.some.inj hc
        exact absurd rfl hid
      · rintro c id hc hid
        obtain rfl := Option.some.inj hc
        cases hid
    | some c₀ =>
      obtain ⟨hstatus, hfin, hdel⟩ :=
        applyObject_some ns name (fun _ => (⟨groupName⟩ : Group.Spec)) ({} : Group.Status) c₀
      refine ⟨fun c msg hc hmsg => ?_, fun c hc hid => ?_, fun c id hc hid => ?_⟩ <;>
        obtain rfl := Option.some.inj hc
      · exact knows_of_same (h.group.knows c₀ msg hcr hmsg) hstatus hfin hdel
      · rw [hfin]
        rw [hstatus] at hid
        exact h.group.held c₀ hcr hid
      · rw [hstatus] at hid
        exact h.group.issued c₀ id hcr hid
  · next ns name groupName ephemeral autoGroup =>
    refine ⟨⟨h.group, h.fresh, h.held, h.paired, fun o ho hfin => ?_⟩, hidle⟩
    obtain rfl := Option.some.inj ho
    cases hcr : s.key.cr with
    | none => rfl
    | some o₀ =>
      rw [hcr] at hfin
      obtain ⟨hstatus, hfin', -⟩ := applyObject_some ns name
        (keySpec groupName ephemeral autoGroup) ({} : SetupKey.Status) o₀
      rw [hstatus]
      exact h.key o₀ hcr (hfin'.symm.trans hfin)
  · exact ⟨h, hidle⟩
  · exact ⟨h, hidle⟩
  · exact ⟨h, hidle⟩

theorem Valid.foldl_apply (h : Valid s) (hidle : s.group.cr = none → s.group.pending = none)
    (sent : List NetworkRouter.Sent) : Valid (sent.foldl System.apply s) := by
  induction sent generalizing s with
  | nil => exact h
  | cons m sent ih => exact ih (h.apply hidle m).1 (h.apply hidle m).2

/-- The pass of a NetworkRouter, with what it sends. -/
def routerPass (env : NetworkRouter.Env) (s : System) : NetworkRouter.World :=
  (NetworkRouter.reconcile env { s.router with sent := [] }).2

theorem routerPass_effect (env : NetworkRouter.Env) (s : System) :
    NetworkRouter.Effect env { s.router with sent := [] } (routerPass env s).cr
      (routerPass env s).networks :=
  NetworkRouter.reconcile_effect env { s.router with sent := [] }

/-- A pass that applies anything is over a live object. -/
theorem sent_of_not_live (env : NetworkRouter.Env)
    (h : ∀ o, s.router.cr = some o → o.deleting = true) : (routerPass env s).sent = [] := by
  cases hcr : s.router.cr with
  | none =>
    have hgone : routerPass env s = { s.router with sent := [] } :=
      NetworkRouter.reconcile_of_gone hcr
    rw [hgone]
  | some o => exact NetworkRouter.sent_of_deleting (w := { s.router with sent := [] }) hcr (h o hcr)

/-- What a pass over the NetworkRouter leaves of its own object. -/
theorem Valid.routerPass (h : Valid s) (env : NetworkRouter.Env) :
    Valid { s with router := routerPass env s } := by
  have heffect := routerPass_effect env s
  generalize RoutingPeers.routerPass env s = w at heffect ⊢
  obtain ⟨cr, networks, sent⟩ := w
  cases heffect with
  | idle => exact ⟨h.group, h.fresh, h.held, h.paired, h.key⟩
  | waited hcr hlive hwait =>
    refine ⟨h.group, fun _ _ _ hgroup => h.fresh _ hcr hlive hgroup, fun o ho hfin => ?_,
      fun o ho hn => ?_, h.key⟩ <;> obtain rfl := Option.some.inj ho
    · exact absurd (hwait.finalizer.symm.trans hfin) (by simp)
    · rcases hwait.ids with ⟨hnet, hid⟩ | ⟨n, -, hnet, -⟩
      · rw [hid]
        exact h.paired _ hcr (hnet.symm.trans hn)
      · exact absurd (hnet.symm.trans hn) (by simp)
  | @bound o₀ _ n id groupID _ hcr hlive hreaches hupsert hwritten =>
    refine ⟨h.group, fun _ _ _ hgroup => h.fresh _ hcr hlive hgroup, fun o ho hfin => ?_,
      fun o ho hn => ?_, h.key⟩ <;> obtain rfl := Option.some.inj ho <;>
      rcases hwritten with ⟨rfl, -⟩ | ⟨rfl, -⟩
    · cases hfin
    · cases hfin
    · exact h.paired o₀ hcr hn
    · cases hn
  | kept hcr hdel _ =>
    exact ⟨h.group, fun o ho => h.fresh o (hcr.trans ho), fun o ho => h.held o (hcr.trans ho),
      fun o ho => h.paired o (hcr.trans ho), h.key⟩
  | released hcr hdel _ =>
    exact ⟨h.group, fun _ ho => (by cases ho), fun _ ho => (by cases ho),
      fun _ ho => (by cases ho), h.key⟩

/-- An object that is gone or being deleted. -/
theorem all_deleting_iff {cr : Option NetworkRouter.CR} :
    cr.all Object.deleting = true ↔ ∀ o, cr = some o → o.deleting = true := by
  cases cr <;> simp

/-- What is left of an object that is edited. -/
theorem exists_of_edit {w : NetworkRouter.World} {spec : NetworkRouter.Spec} {o' : NetworkRouter.CR}
    (ho' : (NetworkRouter.step w (.edit spec)).cr = some o') : ∃ o, w.cr = some o ∧
      o'.status = o.status ∧ o'.finalizer = o.finalizer ∧ o'.deleting = o.deleting := by
  obtain ⟨o, ho, rfl⟩ := Option.map_eq_some_iff.mp ho'
  exact ⟨o, ho, rfl, rfl, rfl⟩

theorem Valid.step (h : Valid s) (ev : Event) (hev : Allowed idText s ev) :
    Valid (step s ev) := by
  cases ev with
  | router env =>
    show Valid ((RoutingPeers.routerPass env s).sent.foldl System.apply
      { s with router := RoutingPeers.routerPass env s })
    by_cases hlive : ∀ o, s.router.cr = some o → o.deleting = true
    · rw [sent_of_not_live env hlive]
      exact h.routerPass env
    · push Not at hlive
      obtain ⟨o, ho, hdel⟩ := hlive
      exact (h.routerPass env).foldl_apply (h.fresh o ho (by simpa using hdel)) _
  | group fault =>
    refine ⟨h.group.tick fault, fun o ho hlive hcr => ?_, h.held, h.paired, h.key⟩
    exact h.group.pending_of_tick_gone (h.fresh o ho hlive) hcr
  | key env =>
    refine ⟨h.group, h.fresh, h.held, h.paired, fun o ho hfin => ?_⟩
    cases SetupKey.reconcile_effect env s.key with
    | idle hsame => exact h.key o (hsame ▸ ho) hfin
    | kept _ _ hcr' hlive _ _ _ =>
      obtain rfl := Option.some.inj (hcr'.symm.trans ho)
      exact absurd (hlive.finalizer.symm.trans hfin) (by simp)
    | interrupted _ _ hcr' hlive _ _ _ _ =>
      obtain rfl := Option.some.inj (hcr'.symm.trans ho)
      exact absurd (hlive.finalizer.symm.trans hfin) (by simp)
    | rotated _ _ hcr' hlive _ _ _ =>
      obtain rfl := Option.some.inj (hcr'.symm.trans ho)
      exact absurd (hlive.finalizer.symm.trans hfin) (by simp)
    | deleted hcr _ hcr' _ =>
      rcases hcr' with hcr' | hcr'
      · exact h.key o (hcr.trans (hcr'.symm.trans ho)) hfin
      · exact absurd (hcr'.symm.trans ho) (by simp)
  | edit spec =>
    refine ⟨h.group, fun o ho hlive => ?_, fun o ho hfin => ?_, fun o ho hn => ?_, h.key⟩ <;>
      obtain ⟨o₀, ho₀, hstatus, hfin₀, hdel⟩ := exists_of_edit ho
    · exact h.fresh o₀ ho₀ (hdel.symm.trans hlive)
    · rw [hstatus]
      exact h.held o₀ ho₀ (hfin₀.symm.trans hfin)
    · rw [hstatus] at hn ⊢
      exact h.paired o₀ ho₀ hn
  | delete =>
    refine ⟨h.group, fun o ho hlive => ?_, fun o ho hfin => ?_, fun o ho hn => ?_, h.key⟩ <;>
      obtain ⟨o₀, ho₀, rfl⟩ := exists_of_marked ho
    · cases hlive
    · exact h.held o₀ ho₀ hfin
    · exact h.paired o₀ ho₀ hn
  | collectGroup =>
    rw [RoutingPeers.step]
    split
    · next hdel =>
      refine ⟨h.group.delete, fun o ho hlive => ?_, h.held, h.paired, h.key⟩
      exact absurd (all_deleting_iff.mp hdel o ho) (by simp [hlive])
    · exact h
  | collectKey =>
    rw [RoutingPeers.step]
    split
    · refine ⟨h.group, h.fresh, h.held, h.paired, fun o ho hfin => ?_⟩
      obtain ⟨o₀, ho₀, rfl⟩ := exists_of_marked ho
      exact h.key o₀ ho₀ hfin
    · exact h
  | others a => exact ⟨h.group.others hev.1 hev.2.1, h.fresh, h.held, h.paired, h.key⟩

/-- What is true of every state is true at the end of a run. -/
theorem valid_of_run {es : List Event} (h : Along es fun pre e => Allowed idText (run step s pre) e)
    (hs : Valid s) : Valid (run step s es) :=
  run_invariant h hs fun _ ev hs hev => hs.step ev hev

/-! ### What is on record -/

/-- What was applied leaves the account as it is, the status of the Group, and what is on record
with the SetupKey. -/
structure Frame (s s' : System) : Prop where
  router : s'.router = s.router
  keys : s'.key.keys = s.key.keys
  groups : s'.group.groups = s.group.groups
  pins : s'.pins = s.pins
  group : ∀ o, s.group.cr = some o → ∃ o', s'.group.cr = some o' ∧ o'.status = o.status
  key : ∀ o' id, s'.key.cr = some o' → o'.status.setupKeyID = some id →
    ∃ o, s.key.cr = some o ∧ o.status.setupKeyID = some id

theorem Frame.refl (s : System) : Frame s s :=
  ⟨rfl, rfl, rfl, rfl, fun o ho => ⟨o, ho, rfl⟩, fun o _ ho hid => ⟨o, ho, hid⟩⟩

theorem Frame.trans {s₁ s₂ s₃ : System} (h : Frame s₁ s₂) (h' : Frame s₂ s₃) : Frame s₁ s₃ := by
  refine ⟨h'.router.trans h.router, h'.keys.trans h.keys, h'.groups.trans h.groups,
    h'.pins.trans h.pins, fun o ho => ?_, fun o id ho hid => ?_⟩
  · obtain ⟨o₂, ho₂, hstatus⟩ := h.group o ho
    obtain ⟨o₃, ho₃, hstatus'⟩ := h'.group o₂ ho₂
    exact ⟨o₃, ho₃, hstatus'.trans hstatus⟩
  · obtain ⟨o₂, ho₂, hid₂⟩ := h'.key o id ho hid
    exact h.key o₂ id ho₂ hid₂

theorem frame_apply (s : System) (m : NetworkRouter.Sent) : Frame s (s.apply m) := by
  unfold System.apply
  split
  · next ns name groupName =>
    refine ⟨rfl, rfl, rfl, rfl, fun o ho => ⟨_, rfl, ?_⟩, fun o id ho hid => ⟨o, ho, hid⟩⟩
    rw [ho]
    exact (applyObject_some _ _ _ _ _).1
  · refine ⟨rfl, rfl, rfl, rfl, fun o ho => ⟨o, ho, rfl⟩, fun o id ho hid => ?_⟩
    obtain rfl := Option.some.inj ho
    cases hcr : s.key.cr with
    | none =>
      rw [hcr] at hid
      cases hid
    | some o₀ =>
      rw [hcr, (applyObject_some _ _ _ _ _).1] at hid
      exact ⟨o₀, rfl, hid⟩
  · exact Frame.refl s
  · exact Frame.refl s
  · exact Frame.refl s

theorem frame_foldl_apply (sent : List NetworkRouter.Sent) (s : System) :
    Frame s (sent.foldl System.apply s) := by
  induction sent generalizing s with
  | nil => exact Frame.refl s
  | cons m sent ih => exact (frame_apply s m).trans (ih _)

/-- The reference is there and on no record. -/
structure Stray (idText : ℕ → String) (s : System) (g : ℕ) (r : Ref) : Prop where
  refers : Refers idText s g r
  unrecorded : ¬ Recorded s r

variable {g : ℕ} {r : Ref}

theorem Refers.congr {s' : System} (hr : Refers idText s g r)
    (hnetworks : s'.router.networks = s.router.networks) (hkeys : s'.key.keys = s.key.keys)
    (hpins : s'.pins = s.pins) : Refers idText s' g r := by
  cases r with
  | router n id => rwa [Refers, hnetworks]
  | key id => rwa [Refers, hkeys]
  | pin => rwa [Refers, hpins]

theorem Stray.of_frame {s' : System} (h : Stray idText s g r) (hframe : Frame s s') :
    Stray idText s' g r := by
  refine ⟨h.refers.congr (by rw [hframe.router]) hframe.keys hframe.pins, fun hrec => ?_⟩
  cases r with
  | router n id =>
    obtain ⟨o, ho, hn, hid⟩ := hrec
    exact h.unrecorded ⟨o, hframe.router ▸ ho, hn, hid⟩
  | key id =>
    obtain ⟨o, ho, hid⟩ := hrec
    exact h.unrecorded (hframe.key o id ho hid)
  | pin => exact hrec

/-- The router that a pass takes to be on record in its network is on record. -/
theorem recorded_of_withNetwork (h : Valid s) {o : NetworkRouter.CR} (hcr : s.router.cr = some o)
    {n id : ℕ} (hid : (NetworkRouter.withNetwork o n).status.routerID = some id) :
    Recorded s (.router n id) := by
  have hid : (if o.status.networkID ≠ none ∧ o.status.networkID ≠ some n then none
      else o.status.routerID) = some id := hid
  split at hid
  · cases hid
  · next hnet =>
    refine ⟨o, hcr, ?_, hid⟩
    by_contra hne
    refine hnet ⟨fun hnone => ?_, hne⟩
    exact absurd ((h.paired o hcr hnone).symm.trans hid) (by simp)

/-- **A pass over the NetworkRouter** touches no router that is on no record. -/
theorem Stray.routerPass (h : Stray idText s g r) (hs : Valid s) (env : NetworkRouter.Env) :
    Stray idText { s with router := routerPass env s } g r := by
  cases r with
  | key id => exact ⟨h.refers, h.unrecorded⟩
  | pin => exact ⟨h.refers, h.unrecorded⟩
  | router n id =>
    obtain ⟨x, hx, hmem⟩ := h.refers
    have hlt := (Store.has_of_get hx).lt_next
    have heffect := routerPass_effect env s
    generalize RoutingPeers.routerPass env s = w at heffect ⊢
    obtain ⟨cr, networks, sent⟩ := w
    have hsame : ∀ {o o' : NetworkRouter.CR}, s.router.cr = some o → cr = some o' →
        o'.status.networkID = o.status.networkID → o'.status.routerID = o.status.routerID →
        ¬ Recorded { s with router := ⟨cr, networks, sent⟩ } (.router n id) := by
      rintro o o' ho ho' hn hid ⟨o'', ho'', hn'', hid''⟩
      obtain rfl := Option.some.inj (ho'.symm.trans ho'')
      exact h.unrecorded ⟨o, ho, hn.symm.trans hn'', hid.symm.trans hid''⟩
    cases heffect with
    | idle => exact ⟨⟨x, hx, hmem⟩, h.unrecorded⟩
    | waited hcr hlive hwait =>
      refine ⟨⟨x, hx, hmem⟩, ?_⟩
      rcases hwait.ids with ⟨hn, hid⟩ | ⟨n', -, hn, hid⟩
      · exact hsame hcr rfl hn hid
      · rintro ⟨o'', ho'', hn'', hid''⟩
        obtain rfl := Option.some.inj ho''
        obtain rfl := Option.some.inj (hn.symm.trans hn'')
        exact h.unrecorded (recorded_of_withNetwork hs hcr (hid.symm.trans hid''))
    | @bound o _ n' id' groupID _ hcr hlive hreaches hupsert hwritten =>
      -- The router that is written is the one on record, or a new one.
      have hother : n = n' → id ≠ id' := by
        rintro rfl rfl
        cases hupsert with
        | updated hrec _ => exact h.unrecorded (recorded_of_withNetwork hs hcr hrec)
        | created _ => exact Nat.lt_irrefl _ hlt
      have hget : (networks n).get id = (s.router.networks n).get id := by
        cases hupsert with
        | updated hrec hhas =>
          show (Function.update s.router.networks n' _ n).get id = _
          by_cases hn : n = n'
          · rw [hn, Function.update_self, Store.get_update_of_ne (hother hn)]
            rfl
          · rw [Function.update_of_ne hn]
        | created hgone =>
          show (Function.update s.router.networks n' _ n).get id = _
          by_cases hn : n = n'
          · rw [hn, Function.update_self, Store.get_create_of_ne (hother hn)]
            rfl
          · rw [Function.update_of_ne hn]
      refine ⟨⟨x, hget.trans hx, hmem⟩, ?_⟩
      rcases hwritten with ⟨rfl, -⟩ | ⟨rfl, -⟩
      · exact hsame hcr rfl rfl rfl
      · rintro ⟨o'', ho'', hn'', hid''⟩
        obtain rfl := Option.some.inj ho''
        exact hother (Option.some.inj hn'').symm (Option.some.inj hid'').symm
    | @kept o hcr _ _ =>
      refine ⟨⟨x, ?_, hmem⟩, hsame hcr rfl rfl rfl⟩
      refine NetworkRouter.get_withoutRouter_eq_some.mpr ⟨hx, fun hrec => ?_⟩
      exact h.unrecorded ⟨o, hcr, hrec⟩
    | @released o hcr _ _ =>
      refine ⟨⟨x, ?_, hmem⟩, fun ⟨_, ho, _⟩ => by cases ho⟩
      refine NetworkRouter.get_withoutRouter_eq_some.mpr ⟨hx, fun hrec => ?_⟩
      exact h.unrecorded ⟨o, hcr, hrec⟩

/-- **A pass over the SetupKey** touches no key that is on no record. -/
theorem Stray.keyPass (h : Stray idText s g r) (env : SetupKey.Env) :
    Stray idText { s with key := (SetupKey.reconcile env s.key).2 } g r := by
  cases r with
  | router n id => exact ⟨h.refers, h.unrecorded⟩
  | pin => exact ⟨h.refers, h.unrecorded⟩
  | key id =>
    obtain ⟨k, hk, hmem⟩ := h.refers
    have hlt := (Store.has_of_get hk).lt_next
    have hne : ∀ {o : SetupKey.CR}, s.key.cr = some o → o.status.setupKeyID ≠ some id :=
      fun ho hid => h.unrecorded ⟨_, ho, hid⟩
    have heffect := SetupKey.reconcile_effect env s.key
    generalize (SetupKey.reconcile env s.key).2 = w at heffect ⊢
    -- The object that is left has the id of another key on record.
    have hstray : w.keys.get id = some k →
        (∀ o', w.cr = some o' → o'.status.setupKeyID ≠ some id) →
          Stray idText { s with key := w } g (.key id) := fun hget hrec =>
      ⟨⟨k, hget, hmem⟩, fun ⟨o', ho', hid'⟩ => hrec o' ho' hid'⟩
    cases heffect with
    | idle hsame =>
      subst hsame
      exact ⟨⟨k, hk, hmem⟩, h.unrecorded⟩
    | kept hcr _ hcr' _ hid hkeys _ =>
      refine hstray ?_ fun o'' ho'' => ?_
      · rcases hkeys with hkeys | ⟨i, key, hi, hkeys⟩ <;> rw [hkeys]
        · exact hk
        · have hother : id ≠ i := by
            rintro rfl
            exact hne hcr hi
          rw [Store.get_update_of_ne hother]
          exact hk
      · obtain rfl := Option.some.inj (hcr'.symm.trans ho'')
        rw [hid]
        exact hne hcr
    | interrupted hcr _ hcr' _ hid hkeys _ _ =>
      refine hstray ?_ fun o'' ho'' => ?_
      · rw [hkeys, Store.get_create_of_ne (Nat.ne_of_lt hlt)]
        exact hk
      · obtain rfl := Option.some.inj (hcr'.symm.trans ho'')
        rcases hid with hid | hid <;> rw [hid]
        · exact hne hcr
        · exact fun h => Nat.ne_of_gt hlt (Option.some.inj h)
    | rotated hcr _ hcr' _ hid hkeys _ =>
      refine hstray ?_ fun o'' ho'' => ?_
      · rw [hkeys, Ledger.get_without_eq_some, Store.get_create_of_ne (Nat.ne_of_lt hlt)]
        exact ⟨hk, hne hcr⟩
      · obtain rfl := Option.some.inj (hcr'.symm.trans ho'')
        rw [hid]
        exact fun h => Nat.ne_of_gt hlt (Option.some.inj h)
    | deleted hcr _ hcr' hkeys =>
      refine hstray ?_ fun o'' ho'' => ?_
      · rw [hkeys, Ledger.get_without_eq_some]
        exact ⟨hk, hne hcr⟩
      · rcases hcr' with hcr' | hcr'
        · obtain rfl := Option.some.inj (hcr'.symm.trans ho'')
          exact hne hcr
        · exact absurd (hcr'.symm.trans ho'') (by simp)

/-- A router that is on record after the user's change was so before. -/
theorem Stray.user (h : Stray idText s g r) {w : NetworkRouter.World}
    (hnetworks : w.networks = s.router.networks)
    (hcr : ∀ o', w.cr = some o' → ∃ o, s.router.cr = some o ∧ o'.status = o.status) :
    Stray idText { s with router := w } g r := by
  refine ⟨h.refers.congr hnetworks rfl rfl, fun hrec => ?_⟩
  cases r with
  | router n id =>
    obtain ⟨o', ho', hn, hid⟩ := hrec
    obtain ⟨o, ho, hstatus⟩ := hcr o' ho'
    exact h.unrecorded ⟨o, ho, hstatus ▸ hn, hstatus ▸ hid⟩
  | key id => exact h.unrecorded hrec
  | pin => exact hrec

/-- **What is on no record stays**, unless other clients take it away. -/
theorem Stray.step (h : Stray idText s g r) (hs : Valid s) (ev : Event)
    (hspared : ∀ a, ev = .others a → Refers idText (s.set a) g r) :
    Stray idText (step s ev) g r := by
  cases ev with
  | router env =>
    show Stray idText ((RoutingPeers.routerPass env s).sent.foldl System.apply
      { s with router := RoutingPeers.routerPass env s }) g r
    exact (h.routerPass hs env).of_frame (frame_foldl_apply _ _)
  | group fault => exact ⟨h.refers.congr rfl rfl rfl, h.unrecorded⟩
  | key env => exact h.keyPass env
  | edit spec =>
    refine h.user rfl fun o' ho' => ?_
    obtain ⟨o, ho, hstatus, -, -⟩ := exists_of_edit ho'
    exact ⟨o, ho, hstatus⟩
  | delete =>
    refine h.user rfl fun o' ho' => ?_
    obtain ⟨o, ho, rfl⟩ := exists_of_marked ho'
    exact ⟨o, ho, rfl⟩
  | collectGroup =>
    rw [RoutingPeers.step]
    split
    · exact ⟨h.refers.congr rfl rfl rfl, h.unrecorded⟩
    · exact h
  | collectKey =>
    rw [RoutingPeers.step]
    split
    · refine ⟨h.refers.congr rfl rfl rfl, fun hrec => ?_⟩
      cases r with
      | router n id => exact h.unrecorded hrec
      | key id =>
        obtain ⟨o', ho', hid⟩ := hrec
        obtain ⟨o, ho, rfl⟩ := exists_of_marked ho'
        exact h.unrecorded ⟨o, ho, hid⟩
      | pin => exact hrec
    · exact h
  | others a =>
    refine ⟨hspared a rfl, fun hrec => ?_⟩
    cases r with
    | router n id => exact h.unrecorded hrec
    | key id => exact h.unrecorded hrec
    | pin => exact hrec

/-! ### The Group is never released -/

/-- Something else refers to the group of the Group. -/
structure Blocked (idText : ℕ → String) (g : ℕ) (r : Ref) (s : System) : Prop where
  object : ∃ o, s.group.cr = some o ∧ o.status.groupID = some g
  has : s.group.groups.Has g
  stray : Stray idText s g r

theorem Blocked.step (h : Blocked idText g r s) (hs : Valid s) (ev : Event)
    (hev : Allowed idText s ev) (hspared : ∀ a, ev = .others a → Refers idText (s.set a) g r) :
    Blocked idText g r (step s ev) := by
  have hstray := h.stray.step hs ev hspared
  obtain ⟨o, ho, hid⟩ := h.object
  cases ev with
  | router env =>
    have hframe := frame_foldl_apply (routerPass env s).sent { s with router := routerPass env s }
    obtain ⟨o', ho', hstatus⟩ := hframe.group o ho
    exact ⟨⟨o', ho', hstatus ▸ hid⟩, hframe.groups ▸ h.has, hstray⟩
  | group fault =>
    -- A deletion would go through only if nothing referred to the group.
    obtain ⟨hobject, hhas⟩ := hs.group.tick_holds ho hid h.has
      fun hfault o' hmsg => hev hfault o' g hmsg ⟨r, h.stray.refers⟩
    exact ⟨hobject, hhas, hstray⟩
  | key env => exact ⟨h.object, h.has, hstray⟩
  | edit spec => exact ⟨h.object, h.has, hstray⟩
  | delete => exact ⟨h.object, h.has, hstray⟩
  | collectGroup =>
    refine ⟨?_, ?_, hstray⟩ <;> rw [RoutingPeers.step] <;> split
    · refine ⟨{ o with deleting := true }, ?_, hid⟩
      have hfin := hs.group.held o ho (by simp [hid])
      simp [Group.step, ho, hfin]
    · exact ⟨o, ho, hid⟩
    · exact h.has
    · exact h.has
  | collectKey =>
    refine ⟨?_, ?_, hstray⟩ <;> rw [RoutingPeers.step] <;> split
    · exact h.object
    · exact h.object
    · exact h.has
    · exact h.has
  | others a => exact ⟨h.object, hev.2.2 g ⟨r, hspared a rfl⟩ h.has, hstray⟩

/-- **A Group whose group something else refers to is never released.** Whatever fails, whoever is
deleted and however often the controllers try: if a reference to the group is on no record, and the
other clients leave it, the Group is still there at the end, with its group. -/
theorem group_never_released (idText : ℕ → String) {ns name : String} {spec : NetworkRouter.Spec}
    {a : Others} {pre post : List Event} {o : Group.CR} {g : ℕ} {r : Ref}
    (hpre : Along pre fun es e => Allowed idText (run step (start ns name spec a) es) e)
    (hcr : (run step (start ns name spec a) pre).group.cr = some o)
    (hid : o.status.groupID = some g)
    (hhas : (run step (start ns name spec a) pre).group.groups.Has g)
    (hstray : Stray idText (run step (start ns name spec a) pre) g r)
    (hpost : Along post fun es e =>
      Allowed idText (run step (start ns name spec a) (pre ++ es)) e ∧
        ∀ a', e = .others a' → Refers idText
          ((run step (start ns name spec a) (pre ++ es)).set a') g r) :
    (∃ o', (run step (start ns name spec a) (pre ++ post)).group.cr = some o' ∧
        o'.status.groupID = some g) ∧
      (run step (start ns name spec a) (pre ++ post)).group.groups.Has g ∧
      Stray idText (run step (start ns name spec a) (pre ++ post)) g r := by
  have hvalid := valid_of_run hpre (valid_start ns name spec a)
  have hblocked : Blocked idText g r (run step (start ns name spec a) pre) :=
    ⟨⟨o, hcr, hid⟩, hhas, hstray⟩
  simp only [run_append] at hpost ⊢
  have hend := run_invariant (I := fun s => Valid s ∧ Blocked idText g r s)
    (C := fun s e => Allowed idText s e ∧ ∀ a', e = .others a' → Refers idText (s.set a') g r)
    hpost ⟨hvalid, hblocked⟩ fun s ev h hev => ⟨h.1.step ev hev.1, h.2.step h.1 ev hev.1 hev.2⟩
  exact ⟨hend.2.object, hend.2.has, hend.2.stray⟩

section Sample

/-- An event in which NetBird deletes no group and nobody else does anything. -/
def Quiet (s : System) : Event → Bool
  | .group none => match s.group.pending with
    | some (.deleteGroup _ _) => false
    | _ => true
  | .others _ => false
  | _ => true

theorem not_others_of_quiet {ev : Event} (h : Quiet s ev = true) (a : Others) : ev ≠ .others a := by
  rintro rfl
  cases h

theorem allowed_of_quiet {ev : Event} (h : Quiet s ev = true) : Allowed idText s ev := by
  cases ev with
  | group fault =>
    rintro rfl o id hmsg
    simp [Quiet, hmsg] at h
  | others a => exact absurd rfl (not_others_of_quiet h a)
  | _ => trivial

/-- How the account writes the id of a group. -/
def groupText (id : ℕ) : String := "grp" ++ toString id

/-- The lookups of a cluster in which every Group is ready with this id. -/
def readyGroups (groupID : String) : Groups :=
  ⟨fun _ => .error .notFound, fun _ => .error .notFound, fun _ _ => .ok groupID⟩

/-- A pass over the NetworkRouter with the Group as it is, while the pods are not ready. -/
def routerCalm (groupID : String) : NetworkRouter.Env :=
  ⟨readyGroups groupID, fun _ => some (some 0), fun _ _ => some "0", fun _ _ => some ⟨1, 0⟩,
    "client", fun _ => none⟩

def keyEnv (fault : SetupKey.Call → Option Fault) : SetupKey.Env :=
  ⟨readyGroups (groupText 0), "A1B2C3D4", "A1B2C****", fault⟩

/-- A NetworkRouter that was just created, in an account with nothing in it. -/
def sampleStart : System :=
  start "net" "site" ⟨⟨"network", "net"⟩, ⟨none, some {}⟩, true, 9999, true⟩
    ⟨fun _ => .empty, .empty, none, .empty, []⟩

/-- The Group and the SetupKey are applied, and the group is created. -/
def deployed : List Event :=
  [.router (routerCalm ""), .group none, .group none, .group none, .group none,
    .router (routerCalm (groupText 0))]

/-- A key is created, and its id is not written down. -/
def strayKey : List Event :=
  deployed ++ [.key (keyEnv fun c => if c = .patchKeyID then some .other else none)]

/-- The NetworkRouter is deleted, and all that it applied. -/
def strayDeleted : List Event :=
  [.key (keyEnv fun _ => none), .delete, .router (routerCalm ""), .collectGroup, .collectKey,
    .key (keyEnv fun _ => none), .group none, .group (some .conflict), .group none,
    .group (some .conflict)]

/-- The Group of a NetworkRouter that is gone. -/
theorem group_never_released_strayKey :
    (∃ o, (run step sampleStart (strayKey ++ strayDeleted)).group.cr = some o ∧
        o.status.groupID = some 0) ∧
      (run step sampleStart (strayKey ++ strayDeleted)).group.groups.Has 0 ∧
      Stray groupText (run step sampleStart (strayKey ++ strayDeleted)) 0 (.key 0) := by
  have hpre : Along strayKey fun es e => Quiet (run step sampleStart es) e = true := by
    decide +kernel
  have hpost : Along strayDeleted fun es e =>
      Quiet (run step sampleStart (strayKey ++ es)) e = true := by decide +kernel
  have hgroup : (run step sampleStart strayKey).group.cr.bind (·.status.groupID) = some 0 := by
    decide +kernel
  obtain ⟨o, ho, hid⟩ := Option.bind_eq_some_iff.mp hgroup
  have hkey : (run step sampleStart strayKey).key.cr.bind (·.status.setupKeyID) = none := by
    decide +kernel
  have hstray : Stray groupText (run step sampleStart strayKey) 0 (.key 0) := by
    refine ⟨?_, fun ⟨o, ho, hid⟩ => ?_⟩
    · have hany : ((run step sampleStart strayKey).key.keys.get 0).any
          (groupText 0 ∈ ·.autoGroups) = true := by decide +kernel
      obtain ⟨k, hk, hmem⟩ := (Option.any_eq_true _ _).mp hany
      exact ⟨k, hk, by simpa using hmem⟩
    · rw [ho] at hkey
      exact absurd (hkey.symm.trans hid) (by simp)
  exact group_never_released groupText (fun pre e post h => allowed_of_quiet (hpre pre e post h))
    ho hid ⟨⟨0, ⟨"networkrouter-net-site", [], []⟩⟩, by decide +kernel, rfl⟩ hstray
    fun pre e post h => ⟨allowed_of_quiet (hpost pre e post h), fun a ha =>
      absurd ha (not_others_of_quiet (hpost pre e post h) a)⟩

end Sample

end RoutingPeers

end NetbirdOperator
