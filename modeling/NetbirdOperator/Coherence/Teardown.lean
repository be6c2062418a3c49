import NetbirdOperator.ControlLoop.Stages
import NetbirdOperator.Coherence.RoutingPeers

/-!
# The teardown of routing peers

The order of a teardown matters, and no controller knows it. The router of the network goes with the
NetworkRouter; the Group and the SetupKey are collected with their owner, in any order; the group of
the account can go once the router and the key are gone. Until then NetBird refuses, the pass of the
Group controller fails, and it starts again.

This comes to an end in every order of events, wherever the Group's pass was when the NetworkRouter
was deleted, if what refers to the group is on record with one of the objects. The argument is a
sequence of stages. Each is reached by a turn of one party, and no event leads back from it: what is
on record can change until the SetupKey is deleted, but a key is on record as soon as it refers to
the group, since nothing fails. The last stages are those of the Group controller, which counts down
the messages of the pass that it was in the middle of, and then of the last one.

## Main results

* `RoutingPeers.teardown_finishes` — nothing is left after twelve rounds
-/

namespace NetbirdOperator

open ControlLoop

namespace RoutingPeers

variable {idText : ℕ → String} {s : System} {T : ℕ → Prop} {g k k' : ℕ}

/-! ### Stages -/

/-- What refers to the groups of the Group is on record, and how far the teardown is. The groups
are among those of `T`: they can only become fewer. -/
structure Stage (idText : ℕ → String) (T : ℕ → Prop) (k : ℕ) (s : System) : Prop where
  valid : Valid s
  owned : ∀ g, Group.Owned s.group g → T g
  free : ∀ g r, T g → Refers idText s g r → Recorded s r
  router : ∀ o, s.router.cr = some o → o.deleting = true
  routerGone : 1 ≤ k → s.router.cr = none
  group : 2 ≤ k → ∀ c, s.group.cr = some c → c.deleting = true
  key : 3 ≤ k → ∀ o, s.key.cr = some o → o.deleting = true
  keyGone : 4 ≤ k → s.key.cr = none
  rank : 5 ≤ k → s.group.cr = none ∨ Group.rank s.group.pending + k ≤ 12

/-- The events that end a stage. -/
def Turn : ℕ → Event → Prop
  | 0, ev => ∃ env, ev = .router env
  | 1, ev => ev = .collectGroup
  | 2, ev => ev = .collectKey
  | 3, ev => ∃ env, ev = .key env
  | _ + 4, ev => ∃ fault, ev = .group fault

theorem Stage.valid_step (h : Stage idText T k s) (ev : Event) (hev : Allowed idText s ev) :
    Valid (step s ev) := h.valid.step ev hev

theorem Stage.rank_mono (h : Stage idText T k s) (hk : 5 ≤ k' → k' ≤ k) (h5 : 5 ≤ k') :
    s.group.cr = none ∨ Group.rank s.group.pending + k' ≤ 12 := by
  refine (h.rank (Nat.le_trans h5 (hk h5))).imp_right fun hrank => ?_
  exact Nat.le_trans (Nat.add_le_add_left (hk h5) _) hrank

/-- With the router and the key nothing is left on record. -/
theorem Stage.not_inUse (h : Stage idText T k s) (hk : 4 ≤ k) (hg : T g) : ¬ InUse idText s g := by
  rintro ⟨r, hr⟩
  have hrec := h.free g r hg hr
  cases r with
  | router n id =>
    obtain ⟨o, ho, -⟩ := hrec
    exact absurd ((h.routerGone (by omega)).symm.trans ho) (by simp)
  | key id =>
    obtain ⟨o, ho, -⟩ := hrec
    exact absurd ((h.keyGone hk).symm.trans ho) (by simp)
  | pin => exact hrec

/-! ### The NetworkRouter -/

/-- A pass over the NetworkRouter: nothing is applied, and the router on record is gone with the
object. -/
theorem Stage.routerPass_eq (h : Stage idText T k s) {env : NetworkRouter.Env}
    (hcalm : ∀ c, env.fault c = none) :
    ∃ networks, step s (.router env) = { s with router := ⟨none, networks, []⟩ } ∧
      ∀ n id x, (networks n).get id = some x → (s.router.networks n).get id = some x ∧
        ¬ Recorded s (.router n id) := by
  have hstep : step s (.router env) = { s with router := routerPass env s } := by
    show (routerPass env s).sent.foldl System.apply { s with router := routerPass env s } = _
    rw [sent_of_not_live env h.router]
    rfl
  cases hcr : s.router.cr with
  | none =>
    have hgone : routerPass env s = ⟨s.router.cr, s.router.networks, []⟩ :=
      NetworkRouter.reconcile_of_gone hcr
    refine ⟨s.router.networks, ?_, fun n id x hx => ⟨hx, fun ⟨o, ho, _⟩ => ?_⟩⟩
    · rw [hstep, hgone, hcr]
    · exact absurd (hcr.symm.trans ho) (by simp)
  | some o =>
    have hgone : routerPass env s = ⟨none, NetworkRouter.withoutRouter o s.router.networks, []⟩ :=
      NetworkRouter.reconcile_of_deleting (w := { s.router with sent := [] }) hcalm hcr
        (h.router o hcr)
    refine ⟨NetworkRouter.withoutRouter o s.router.networks, ?_, fun n id x hx => ?_⟩
    · rw [hstep, hgone]
    · obtain ⟨hx, hother⟩ := NetworkRouter.get_withoutRouter_eq_some.mp hx
      refine ⟨hx, fun ⟨o', ho', hrec⟩ => ?_⟩
      obtain rfl := Option.some.inj (hcr.symm.trans ho')
      exact hother hrec

theorem Stage.routerStep (h : Stage idText T k s) {env : NetworkRouter.Env}
    (hcalm : ∀ c, env.fault c = none) (hk : k' = k ∨ k = 0 ∧ k' = 1) :
    Stage idText T k' (step s (.router env)) := by
  have hvalid := h.valid_step (.router env) trivial
  obtain ⟨networks, hstep, hnetworks⟩ := h.routerPass_eq hcalm
  rw [hstep] at hvalid ⊢
  refine ⟨hvalid, h.owned, fun g r hg hr => ?_, fun _ ho => (by cases ho), fun _ => rfl,
    fun _ => h.group (by omega), fun _ => h.key (by omega), fun _ => h.keyGone (by omega),
    h.rank_mono (by omega)⟩
  cases r with
  | router n id =>
    obtain ⟨x, hx, hmem⟩ := hr
    obtain ⟨hx, hunrecorded⟩ := hnetworks n id x hx
    exact absurd (h.free g (.router n id) hg ⟨x, hx, hmem⟩) hunrecorded
  | key id => exact h.free g (.key id) hg hr
  | pin => exact h.free g .pin hg hr

/-- The user can do no more than to delete it again. -/
theorem Stage.user (h : Stage idText T k s) {w : NetworkRouter.World}
    (hvalid : Valid { s with router := w }) (hnetworks : w.networks = s.router.networks)
    (hafter : ∀ o', w.cr = some o' → ∃ o, s.router.cr = some o ∧ (o.deleting → o'.deleting))
    (hbefore : ∀ o id, s.router.cr = some o → o.status.routerID = some id →
      ∃ o', w.cr = some o' ∧ o'.status = o.status) :
    Stage idText T k { s with router := w } := by
  refine ⟨hvalid, h.owned, fun g r hg hr => ?_, fun o' ho' => ?_, fun hk => ?_, h.group, h.key,
    h.keyGone, h.rank⟩
  · have hrec := h.free g r hg (hr.congr hnetworks.symm rfl rfl)
    cases r with
    | router n id =>
      obtain ⟨o, ho, hn, hid⟩ := hrec
      obtain ⟨o', ho', hstatus⟩ := hbefore o id ho hid
      exact ⟨o', ho', hstatus ▸ hn, hstatus ▸ hid⟩
    | key id => exact hrec
    | pin => exact hrec
  · obtain ⟨o, ho, hdel⟩ := hafter o' ho'
    exact hdel (h.router o ho)
  · by_contra hcr
    obtain ⟨o', ho'⟩ := Option.ne_none_iff_exists'.mp hcr
    obtain ⟨o, ho, -⟩ := hafter o' ho'
    exact absurd ((h.routerGone hk).symm.trans ho) (by simp)

/-! ### The SetupKey -/

/-- After a pass over the SetupKey in which nothing failed, what refers to the groups is on
record. -/
theorem Stage.free_keyPass (h : Stage idText T k s) {env : SetupKey.Env}
    (hcalm : ∀ c, env.fault c = none) {id : ℕ} (hg : T g)
    (hr : Refers idText (step s (.key env)) g (.key id)) :
    Recorded (step s (.key env)) (.key id) := by
  obtain ⟨key, hkey, hmem⟩ := hr
  change (SetupKey.reconcile env s.key).2.keys.get id = some key at hkey
  show ∃ o, (SetupKey.reconcile env s.key).2.cr = some o ∧ o.status.setupKeyID = some id
  have hbefore : ∀ o, s.key.cr = some o → s.key.keys.get id = some key →
      o.status.setupKeyID = some id := by
    intro o ho hget
    obtain ⟨o', ho', hid⟩ := h.free g (.key id) hg ⟨key, hget, hmem⟩
    obtain rfl := Option.some.inj (ho.symm.trans ho')
    exact hid
  cases SetupKey.reconcile_effect env s.key with
  | idle hsame =>
    rw [hsame] at hkey ⊢
    exact h.free g (.key id) hg ⟨key, hkey, hmem⟩
  | @kept o o' hcr _ hcr' _ hid hkeys _ =>
    refine ⟨o', hcr', hid.trans ?_⟩
    rcases hkeys with hkeys | ⟨i, key', hi, hkeys⟩ <;> rw [hkeys] at hkey
    · exact hbefore o hcr hkey
    · rcases Store.get_of_get_update hkey with ⟨rfl, -⟩ | ⟨-, hkey⟩
      · exact hi
      · exact hbefore o hcr hkey
  | interrupted _ _ _ _ _ _ _ hfault =>
    obtain ⟨c, hc⟩ := hfault
    exact absurd (hcalm c) hc
  | @rotated o o' _ hcr _ hcr' _ hid hkeys _ =>
    refine ⟨o', hcr', hid.trans ?_⟩
    rw [hkeys] at hkey
    obtain ⟨hkey, hother⟩ := Ledger.get_without_eq_some.mp hkey
    rcases Store.get_of_get_create hkey with ⟨rfl, -⟩ | hkey
    · rfl
    · exact absurd (hbefore o hcr hkey) hother
  | @deleted o hcr _ _ hkeys =>
    rw [hkeys] at hkey
    obtain ⟨hkey, hother⟩ := Ledger.get_without_eq_some.mp hkey
    exact absurd (hbefore o hcr hkey) hother

/-- A pass finds nothing to do for a SetupKey that is gone. -/
theorem keyPass_of_gone (hcr : s.key.cr = none) (env : SetupKey.Env) : step s (.key env) = s := by
  show { s with key := (SetupKey.reconcile env s.key).2 } = s
  cases SetupKey.reconcile_effect env s.key with
  | idle hsame => rw [hsame]
  | kept h _ _ _ _ _ _ => exact absurd (hcr.symm.trans h) (by simp)
  | interrupted h _ _ _ _ _ _ _ => exact absurd (hcr.symm.trans h) (by simp)
  | rotated h _ _ _ _ _ _ => exact absurd (hcr.symm.trans h) (by simp)
  | deleted h _ _ _ => exact absurd (hcr.symm.trans h) (by simp)

/-- A SetupKey that is being deleted, or gone, is gone after the next pass. -/
theorem keyPass_gone {env : SetupKey.Env} (hcalm : ∀ c, env.fault c = none)
    (hdel : ∀ o, s.key.cr = some o → o.deleting = true) :
    (step s (.key env)).key.cr = none := by
  cases hcr : s.key.cr with
  | some o => exact SetupKey.reconcile_of_deleting hcalm hcr (hdel o hcr)
  | none => rw [keyPass_of_gone hcr, hcr]

theorem Stage.keyStep (h : Stage idText T k s) {env : SetupKey.Env}
    (hcalm : ∀ c, env.fault c = none) (hk : k' = k ∨ k = 3 ∧ k' = 4) :
    Stage idText T k' (step s (.key env)) := by
  have hgone : 3 ≤ k' → (step s (.key env)).key.cr = none :=
    fun h3 => keyPass_gone hcalm (h.key (by omega))
  refine ⟨h.valid_step (.key env) trivial, h.owned, fun g r hg hr => ?_, h.router,
    fun _ => h.routerGone (by omega), fun _ => h.group (by omega), fun h3 o ho => ?_,
    fun h4 => hgone (by omega), h.rank_mono (by omega)⟩
  · cases r with
    | router n id => exact h.free g (.router n id) hg hr
    | key id => exact h.free_keyPass hcalm hg hr
    | pin => exact h.free g .pin hg hr
  · exact absurd ((hgone h3).symm.trans ho) (by simp)

theorem Stage.collectKey (h : Stage idText T k s) (hk : k' = k ∨ k = 2 ∧ k' = 3) :
    Stage idText T k' (step s .collectKey) := by
  have hvalid := h.valid_step .collectKey trivial
  rw [step, if_pos (all_deleting_iff.mpr h.router)] at hvalid ⊢
  refine ⟨hvalid, h.owned, fun g r hg hr => ?_, h.router, fun _ => h.routerGone (by omega),
    fun _ => h.group (by omega), fun _ o ho => ?_, fun _ => ?_,
    h.rank_mono (by omega)⟩
  · have hrec := h.free g r hg (hr.congr rfl rfl rfl)
    cases r with
    | router n id => exact hrec
    | key id =>
      -- An object with a key on record is held by its finalizer.
      obtain ⟨o, ho, hid⟩ := hrec
      have hfin : o.finalizer = true := by
        by_contra hfin
        exact absurd ((h.valid.key o ho (by simpa using hfin)).symm.trans hid) (by simp)
      exact ⟨{ o with deleting := true }, by simp [SetupKey.step, ho, hfin], hid⟩
    | pin => exact hrec
  · obtain ⟨o₀, -, rfl⟩ := exists_of_marked ho
    rfl
  · simp [SetupKey.step, h.keyGone (by omega)]

/-! ### The Group -/

/-- The deletion of a group goes through once the router and the key are gone. -/
theorem Stage.group_calm (h : Stage idText T k s) (hk : 4 ≤ k) {fault : Option Fault}
    (hhealthy : Healthy idText s (.group fault)) (hcr : s.group.cr ≠ none) : fault = none := by
  rcases hhealthy with hfault | ⟨o, id, hmsg, hinUse⟩
  · exact hfault
  · obtain ⟨c, hc⟩ := Option.ne_none_iff_exists'.mp hcr
    have hid := (h.valid.group.knows c _ hc hmsg).2
    exact absurd hinUse (h.not_inUse hk (h.owned id (.inl ⟨c, hc, .inl hid⟩)))

theorem Stage.groupStep (h : Stage idText T k s) {fault : Option Fault}
    (hallowed : Allowed idText s (.group fault)) (hhealthy : Healthy idText s (.group fault))
    (hk : k' = k ∨ 4 ≤ k ∧ k' = k + 1) : Stage idText T k' (step s (.group fault)) := by
  refine ⟨h.valid_step (.group fault) hallowed,
    fun g hg => h.owned g (h.valid.group.owned_of_tick hg), fun g r hg hr => ?_, h.router,
    fun _ => h.routerGone (by omega), fun h2 => ?_, fun _ => h.key (by omega),
    fun _ => h.keyGone (by omega), fun h5 => ?_⟩
  · have hrec := h.free g r hg (hr.congr rfl rfl rfl)
    cases r <;> exact hrec
  · exact h.valid.group.tick_deleting (h.group (by omega))
  · by_cases hcr : s.group.cr = none
    · exact .inl (Group.tick_gone hcr fault)
    · obtain rfl := h.group_calm (by omega) hhealthy hcr
      refine (h.valid.group.tick_rank (h.group (by omega))).imp_right fun hrank => ?_
      have hle := Group.rank_le s.group.pending
      show Group.rank (Group.tick s.group none).pending + k' ≤ 12
      by_cases h5' : 5 ≤ k
      · have hbound := (h.rank h5').resolve_left hcr
        omega
      · omega

theorem Stage.collectGroup (h : Stage idText T k s) (hk : k' = k ∨ k = 1 ∧ k' = 2) :
    Stage idText T k' (step s .collectGroup) := by
  have hvalid := h.valid_step .collectGroup trivial
  rw [step, if_pos (all_deleting_iff.mpr h.router)] at hvalid ⊢
  have hafter : ∀ c', (Group.step s.group .delete).cr = some c' →
      ∃ c, s.group.cr = some c ∧ c' = { c with deleting := true } := fun _ => exists_of_marked
  refine ⟨hvalid, fun g hg => ?_, fun g r hg hr => ?_, h.router, fun _ => h.routerGone (by omega),
    fun _ c' hc' => ?_, fun _ => h.key (by omega), fun _ => h.keyGone (by omega), fun h5 => ?_⟩
  · rcases hg with ⟨c', hc', hg⟩ | hg
    · obtain ⟨c, hc, rfl⟩ := hafter c' hc'
      exact h.owned g (.inl ⟨c, hc, hg⟩)
    · exact h.owned g (.inr hg)
  · have hrec := h.free g r hg (hr.congr rfl rfl rfl)
    cases r <;> exact hrec
  · obtain ⟨c, -, rfl⟩ := hafter c' hc'
    rfl
  · exact (h.rank_mono (by omega) h5).imp_left fun hcr => by simp [Group.step, hcr]

/-! ### The rest of the world -/

theorem Stage.edit (h : Stage idText T k s) (spec : NetworkRouter.Spec) :
    Stage idText T k (step s (.edit spec)) := by
  refine h.user (h.valid_step (.edit spec) trivial) rfl ?_ ?_
  · intro o' ho'
    obtain ⟨o, ho, -, -, hdel⟩ := exists_of_edit ho'
    exact ⟨o, ho, hdel ▸ id⟩
  · intro o id ho _
    refine ⟨{ o with spec := spec, generation := o.generation + 1 }, ?_, rfl⟩
    simp [NetworkRouter.step, ho]

theorem Stage.delete (h : Stage idText T k s) : Stage idText T k (step s .delete) := by
  refine h.user (h.valid_step .delete trivial) rfl ?_ ?_
  · intro o' ho'
    obtain ⟨o, ho, rfl⟩ := exists_of_marked ho'
    exact ⟨o, ho, fun _ => rfl⟩
  · intro o id ho hid
    have hfin : o.finalizer = true := by
      by_contra hfin
      exact absurd ((h.valid.held o ho (by simpa using hfin)).symm.trans hid) (by simp)
    exact ⟨{ o with deleting := true }, by simp [NetworkRouter.step, ho, hfin], rfl⟩

theorem Stage.others (h : Stage idText T k s) {a : Others}
    (hallowed : Allowed idText s (.others a)) (hhealthy : Healthy idText s (.others a)) :
    Stage idText T k (step s (.others a)) := by
  refine ⟨h.valid_step (.others a) hallowed, fun g hg => ?_, fun g r hg hr => ?_, h.router,
    h.routerGone, h.group, h.key, h.keyGone, h.rank⟩
  · rcases hg with hg | hg
    · exact h.owned g (.inl hg)
    · exact h.owned g (.inr (Nat.le_trans hallowed.1 hg))
  · have hrec := h.free g r hg (hhealthy g r hr)
    cases r <;> exact hrec

/-- **Every event keeps the stages, and a turn ends one.** -/
theorem staged (idText : ℕ → String) (T : ℕ → Prop) :
    Staged step (fun s e => Allowed idText s e ∧ Healthy idText s e) (Stage idText T) Turn where
  kept {k s e} h he := by
    obtain ⟨hallowed, hhealthy⟩ := he
    cases e with
    | router env => exact h.routerStep hhealthy (.inl rfl)
    | group fault => exact h.groupStep hallowed hhealthy (.inl rfl)
    | key env => exact h.keyStep hhealthy (.inl rfl)
    | edit spec => exact h.edit spec
    | delete => exact h.delete
    | collectGroup => exact h.collectGroup (.inl rfl)
    | collectKey => exact h.collectKey (.inl rfl)
    | others a => exact h.others hallowed hhealthy
  left {k s e} h he hturn := by
    obtain ⟨hallowed, hhealthy⟩ := he
    rcases k with _ | _ | _ | _ | k
    · obtain ⟨env, rfl⟩ := hturn
      exact h.routerStep hhealthy (.inr ⟨rfl, rfl⟩)
    · obtain rfl := hturn
      exact h.collectGroup (.inr ⟨rfl, rfl⟩)
    · obtain rfl := hturn
      exact h.collectKey (.inr ⟨rfl, rfl⟩)
    · obtain ⟨env, rfl⟩ := hturn
      exact h.keyStep hhealthy (.inr ⟨rfl, rfl⟩)
    · obtain ⟨fault, rfl⟩ := hturn
      exact h.groupStep hallowed hhealthy (.inr ⟨by omega, rfl⟩)

/-! ### The group of the account -/

/-- A group that was on record is still on record, or it is gone for good. -/
structure Followed (g : ℕ) (s : System) : Prop where
  valid : Valid s
  issued : g < s.group.groups.next
  followed : (∃ c, s.group.cr = some c ∧ c.status.groupID = some g) ∨ ¬ s.group.groups.Has g

theorem Followed.step (h : Followed g s) {ev : Event} (hev : Allowed idText s ev) :
    Followed g (step s ev) := by
  refine ⟨h.valid.step ev hev, ?_, ?_⟩
  · cases ev with
    | router env =>
      have hgroups : (RoutingPeers.step s (.router env)).group.groups = s.group.groups :=
        (frame_foldl_apply _ _).groups
      rw [hgroups]
      exact h.issued
    | group fault => exact Nat.lt_of_lt_of_le h.issued (h.valid.group.grows fault).1
    | others a => exact Nat.lt_of_lt_of_le h.issued hev.1
    | collectGroup => rw [RoutingPeers.step]; split <;> exact h.issued
    | collectKey => rw [RoutingPeers.step]; split <;> exact h.issued
    | key env => exact h.issued
    | edit spec => exact h.issued
    | delete => exact h.issued
  · cases ev with
    | router env =>
      have hframe := frame_foldl_apply (routerPass env s).sent { s with router := routerPass env s }
      rcases h.followed with ⟨c, hc, hid⟩ | hgone
      · obtain ⟨c', hc', hstatus⟩ := hframe.group c hc
        exact .inl ⟨c', hc', hstatus ▸ hid⟩
      · exact .inr (hframe.groups ▸ hgone)
    | group fault =>
      rcases h.followed with ⟨c, hc, hid⟩ | hgone
      · exact h.valid.group.tick_clears hc hid
      · exact .inr fun hhas => hgone (h.valid.group.has_of_tick h.issued hhas)
    | collectGroup =>
      rw [RoutingPeers.step]
      split
      · refine h.followed.imp_left ?_
        rintro ⟨c, hc, hid⟩
        have hfin := h.valid.group.held c hc (by simp [hid])
        exact ⟨{ c with deleting := true }, by simp [Group.step, hc, hfin], hid⟩
      · exact h.followed
    | others a =>
      refine h.followed.imp_right fun hgone hhas => ?_
      exact (hev.2.1 g hhas).elim hgone (Nat.not_le_of_lt h.issued)
    | collectKey => rw [RoutingPeers.step]; split <;> exact h.followed
    | key env => exact h.followed
    | edit spec => exact h.followed
    | delete => exact h.followed

/-! ### The teardown -/

/-- The rounds of a teardown: each party has a turn in each, and anything else may happen. -/
def Fair (round : List Event) : Prop :=
  (∃ env, .router env ∈ round) ∧ (∃ fault, .group fault ∈ round) ∧ (∃ env, .key env ∈ round) ∧
    .collectGroup ∈ round ∧ .collectKey ∈ round

theorem Fair.turn {round : List Event} (h : Fair round) (k : ℕ) : ∃ e ∈ round, Turn k e := by
  obtain ⟨⟨env, hrouter⟩, ⟨fault, hgroup⟩, ⟨env', hkey⟩, hcollectGroup, hcollectKey⟩ := h
  match k with
  | 0 => exact ⟨_, hrouter, env, rfl⟩
  | 1 => exact ⟨_, hcollectGroup, rfl⟩
  | 2 => exact ⟨_, hcollectKey, rfl⟩
  | 3 => exact ⟨_, hkey, env', rfl⟩
  | _ + 4 => exact ⟨_, hgroup, fault, rfl⟩

/-- **A teardown comes to an end.** Let a NetworkRouter be deleted after any run, wherever the pass
over its Group is, and let what refers to the groups of the Group be on record. If nothing fails
from then on but the deletion of a group in use, then after twelve rounds the three objects are
gone, and every group that was on record on the way is gone from the account. -/
theorem teardown_finishes (idText : ℕ → String) {ns name : String} {spec : NetworkRouter.Spec}
    {a : Others} {es : List Event} {rounds : List (List Event)} {s : System}
    (hs : s = run step (start ns name spec a) es)
    (hes : Along es fun pre e => Allowed idText (run step (start ns name spec a) pre) e)
    (hdeleted : ∀ o, s.router.cr = some o → o.deleting = true)
    (hrecorded : ∀ g r, Group.Owned s.group g → Refers idText s g r → Recorded s r)
    (hrounds : Along rounds.flatten fun pre e =>
      Allowed idText (run step s pre) e ∧ Healthy idText (run step s pre) e)
    (hfair : ∀ round ∈ rounds, Fair round) (hlength : 12 ≤ rounds.length) :
    (run step s rounds.flatten).router.cr = none ∧ (run step s rounds.flatten).key.cr = none ∧
      (run step s rounds.flatten).group.cr = none ∧
      ∀ pre post o g, rounds.flatten = pre ++ post → (run step s pre).group.cr = some o →
        o.status.groupID = some g → ¬ (run step s rounds.flatten).group.groups.Has g ∧
          ¬ InUse idText (run step s rounds.flatten) g := by
  have hvalid : Valid s := hs ▸ valid_of_run hes (valid_start ns name spec a)
  have hstart : Stage idText (Group.Owned s.group) 0 s :=
    ⟨hvalid, fun _ => id, hrecorded, hdeleted, by simp, by simp, by simp, by simp, by simp⟩
  have hstaged := staged idText (Group.Owned s.group)
  have hend := hstaged.run hstart hrounds fun round hround => (hfair round hround).turn
  rw [Nat.zero_add] at hend
  have hgroup : (run step s rounds.flatten).group.cr = none := by
    refine (hend.rank (by omega)).resolve_right fun hrank => ?_
    have hpos := Group.rank_pos (run step s rounds.flatten).group.pending
    omega
  refine ⟨hend.routerGone (by omega), hend.keyGone (by omega), hgroup, ?_⟩
  intro pre post o g hsplit hcr hid
  have hpre : Stage idText (Group.Owned s.group) 0 (run step s pre) :=
    hstaged.kept_run hstart (hsplit ▸ hrounds).left
  refine ⟨?_, hend.not_inUse (by omega) (hpre.owned g (.inl ⟨o, hcr, .inl hid⟩))⟩
  -- From where it is on record the group is followed to the end.
  have hfollowed : Followed g (run step s pre) :=
    ⟨hpre.valid, hpre.valid.group.issued o g hcr hid, .inl ⟨o, hcr, hid⟩⟩
  have hpost := (along_append.mp (hsplit ▸ hrounds)).2
  simp only [run_append] at hpost
  have hlast := run_invariant (C := fun s e => Allowed idText s e ∧ Healthy idText s e) hpost
    hfollowed fun _ _ h he => h.step he.1
  rw [← run_append, ← hsplit] at hlast
  refine hlast.followed.resolve_left ?_
  rintro ⟨c, hc, -⟩
  exact absurd (hgroup.symm.trans hc) (by simp)

section Sample

/-- The three controllers and the collector, one after the other. -/
def sampleRound : List Event :=
  [.router (routerCalm ""), .collectGroup, .collectKey, .key (keyEnv fun _ => none), .group none]

/-- The group has a key, and its deletion is refused once. -/
def refused : List Event :=
  deployed ++ [.key (keyEnv fun _ => none), .delete, .collectGroup, .group none,
    .group (some .conflict)]

/-- Nothing is left that refers to a group. -/
structure Cleared (s : System) : Prop where
  router : s.router.cr = none
  networks : ∀ n, s.router.networks n = .empty
  key : s.key.cr = none
  keys : s.key.keys.entries = []
  pins : s.pins = []

theorem Cleared.not_inUse (h : Cleared s) (g : ℕ) : ¬ InUse idText s g := by
  rintro ⟨r, hr⟩
  cases r with
  | router n id =>
    obtain ⟨x, hx, -⟩ := hr
    rw [h.networks] at hx
    cases hx
  | key id =>
    obtain ⟨k, hk, -⟩ := hr
    simp [Store.get, h.keys] at hk
  | pin => simp [Refers, h.pins] at hr

/-- Nothing comes back. -/
theorem Cleared.step (h : Cleared s) {ev : Event} (hev : ev ∈ sampleRound) :
    (Allowed idText s ev ∧ Healthy idText s ev) ∧ Cleared (step s ev) := by
  simp only [sampleRound, List.mem_cons, List.not_mem_nil, or_false] at hev
  rcases hev with rfl | rfl | rfl | rfl | rfl
  · refine ⟨⟨trivial, fun _ => rfl⟩, ?_⟩
    have hstep : RoutingPeers.step s (.router (routerCalm "")) =
        { s with router := { s.router with sent := [] } } := by
      show (routerPass _ s).sent.foldl System.apply { s with router := routerPass _ s } = _
      have hgone : routerPass (routerCalm "") s = { s.router with sent := [] } :=
        NetworkRouter.reconcile_of_gone h.router
      rw [hgone]
      rfl
    rw [hstep]
    exact ⟨h.router, h.networks, h.key, h.keys, h.pins⟩
  · refine ⟨⟨trivial, trivial⟩, ?_⟩
    rw [RoutingPeers.step]
    split
    · exact ⟨h.router, h.networks, h.key, h.keys, h.pins⟩
    · exact h
  · refine ⟨⟨trivial, trivial⟩, ?_⟩
    rw [RoutingPeers.step]
    split
    · exact ⟨h.router, h.networks, by simp [SetupKey.step, h.key], h.keys, h.pins⟩
    · exact h
  · rw [keyPass_of_gone h.key]
    exact ⟨⟨trivial, fun _ => rfl⟩, h⟩
  · exact ⟨⟨fun _ o id _ => h.not_inUse id, .inl rfl⟩, h.router, h.networks, h.key, h.keys, h.pins⟩

theorem Cleared.along (idText : ℕ → String) {es : List Event} (h : Cleared s)
    (hes : ∀ e ∈ es, e ∈ sampleRound) : Along es fun pre e =>
      Allowed idText (run RoutingPeers.step s pre) e ∧
        Healthy idText (run RoutingPeers.step s pre) e := by
  induction es generalizing s with
  | nil => exact along_nil
  | cons e es ih =>
    obtain ⟨hev, hcleared⟩ := h.step (hes e List.mem_cons_self)
    exact along_cons.mpr ⟨hev, ih hcleared fun e' he' => hes e' (List.mem_cons_of_mem e he')⟩

/-- The teardown of an object whose Group was refused its deletion, and went on trying. -/
theorem teardown_finishes_refused :
    (run step (run step sampleStart refused) (List.replicate 12 sampleRound).flatten).group.cr =
        none ∧
      ¬ (run step (run step sampleStart refused)
        (List.replicate 12 sampleRound).flatten).group.groups.Has 0 := by
  have hquiet : Along refused fun es e => Quiet (run step sampleStart es) e = true := by
    decide +kernel
  have hdeleted : (run step sampleStart refused).router.cr.all Object.deleting = true := by
    decide +kernel
  have hgroup : (run step sampleStart refused).group.cr.bind (·.status.groupID) = some 0 := by
    decide +kernel
  have hkey : (run step sampleStart refused).key.cr.bind (·.status.setupKeyID) = some 0 := by
    decide +kernel
  have hkeys : ∀ e ∈ (run step sampleStart refused).key.keys.entries, e.id = 0 := by
    decide +kernel
  have hcleared : Cleared (run step (run step sampleStart refused) (sampleRound.take 4)) :=
    ⟨by decide +kernel, fun _ => rfl, by decide +kernel, by decide +kernel, by decide +kernel⟩
  obtain ⟨o, ho, hid⟩ := Option.bind_eq_some_iff.mp hgroup
  obtain ⟨k, hk, hkid⟩ := Option.bind_eq_some_iff.mp hkey
  have hend := teardown_finishes groupText rfl
    (fun pre e post h => allowed_of_quiet (hquiet pre e post h)) (all_deleting_iff.mp hdeleted)
    (fun g r _ hr => ?_) (?_ : Along (List.replicate 12 sampleRound).flatten _)
    (fun round hround => ?_) (by decide)
  · exact ⟨hend.2.2.1, (hend.2.2.2 [] _ o 0 rfl ho hid).1⟩
  · cases r with
    | router n id =>
      obtain ⟨x, hx, -⟩ := hr
      cases hx
    | key id =>
      obtain ⟨key, hget, -⟩ := hr
      obtain rfl : id = 0 := hkeys _ (Store.get_eq_some.mp hget)
      exact ⟨k, hk, hkid⟩
    | pin => cases hr
  · have hsplit : (List.replicate 12 sampleRound).flatten =
        sampleRound.take 4 ++ (.group none :: (List.replicate 11 sampleRound).flatten) := rfl
    rw [hsplit]
    refine along_append.mpr ⟨?_, ?_⟩
    · exact along_cons.mpr ⟨⟨trivial, fun _ => rfl⟩, along_cons.mpr ⟨⟨trivial, trivial⟩,
        along_cons.mpr ⟨⟨trivial, trivial⟩, along_cons.mpr ⟨⟨trivial, fun _ => rfl⟩, along_nil⟩⟩⟩⟩
    · simp only [run_append]
      refine hcleared.along groupText fun e he => ?_
      rcases List.mem_cons.mp he with rfl | he
      · simp [sampleRound]
      · obtain ⟨round, hround, he⟩ := List.mem_flatten.mp he
        exact List.eq_of_mem_replicate hround ▸ he
  · rw [List.eq_of_mem_replicate hround]
    exact ⟨⟨routerCalm "", by simp [sampleRound]⟩, ⟨none, by simp [sampleRound]⟩,
      ⟨keyEnv fun _ => none, by simp [sampleRound]⟩, by simp [sampleRound], by simp [sampleRound]⟩

end Sample

end RoutingPeers

end NetbirdOperator
