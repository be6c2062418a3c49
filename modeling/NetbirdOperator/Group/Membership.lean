import NetbirdOperator.Group.Model

/-!
# Members that come and go during a pass

A pass writes back the members it read. If another client adds a peer between the two messages, the
write takes it out again, and if another client removes one, the write puts it back; nobody is told,
and the next pass reads the result as the truth (`peer_lost_between_get_and_put`). The read is made
to keep the members, and NetBird's update has no precondition that would make the write fail.

`Kept` compares the groups with the last thing the other clients did to each member. It survives
every event but such a write, so a run keeps it throughout exactly when each write finds the members
the pass has read (`memberships_kept_iff`).

## Main results

* `Group.step_change` — what an event can do to the groups
* `Group.peer_lost_between_get_and_put` — a run that loses a peer
* `Group.memberships_kept_iff` — runs keep the memberships if their writes are undisturbed, and only
  then
-/

namespace NetbirdOperator

open ControlLoop

namespace Group

variable {s s' : State} {e : Event} {g : NetbirdGroup} {m m' : Member} {id : ℕ} {b : Bool}

/-! ### Members -/

theorem NetbirdGroup.has_add : (g.add m).has m' = (decide (m' = m) || g.has m') := by
  cases m with
  | peer p =>
    by_cases hp : p ∈ g.peers <;> cases m' with
    | peer q => by_cases hq : q = p <;> simp [add, has, hp, hq]
    | resource r => simp [add, has, hp]
  | resource r =>
    by_cases hr : r ∈ g.resources <;> cases m' with
    | peer q => simp [add, has, hr]
    | resource x => by_cases hx : x = r <;> simp [add, has, hr, hx]

theorem NetbirdGroup.has_remove : (g.remove m).has m' = (decide (m' ≠ m) && g.has m') := by
  cases m with
  | peer p =>
    cases m' with
    | peer q => by_cases hq : q = p <;> simp [remove, has, hq]
    | resource r => simp [remove, has]
  | resource r =>
    cases m' with
    | peer q => simp [remove, has]
    | resource x => by_cases hx : x = r <;> simp [remove, has, hx]

theorem NetbirdGroup.has_set : (g.set m b).has m' = if m' = m then b else g.has m' := by
  cases b with
  | true => by_cases h : m' = m <;> simp [set, has_add, h]
  | false => by_cases h : m' = m <;> simp [set, has_remove, h]

/-- The members of an update are those the group was read with. -/
theorem has_updateRequest (o : CR) : (updateRequest o g).group.has m = g.has m := by
  cases m <;> rfl

/-- What the others did last to a member of a group; `none` if they did nothing. -/
def lastOp (others : List Op) (id : ℕ) (m : Member) : Option Bool :=
  (others.find? fun op => op.group = id ∧ op.member = m).map Op.added

theorem lastOp_cons {others : List Op} {id' : ℕ} :
    lastOp (⟨id', m', b⟩ :: others) id m =
      if id' = id ∧ m' = m then some b else lastOp others id m := by
  by_cases h : id' = id ∧ m' = m <;> simp [lastOp, h]

theorem lastOp_eq_none {others : List Op} (h : ∀ op ∈ others, op.group ≠ id) :
    lastOp others id m = none := by
  rw [lastOp, Option.map_eq_none_iff, List.find?_eq_none]
  intro op hop hp
  simp only [decide_eq_true_eq] at hp
  exact h op hop hp.1

/-- **The memberships are as the others left them**: what they added last is there, and what they
removed last is not. A group that was deleted has no members to speak of. -/
def Kept (s : State) : Prop :=
  ∀ id g, s.groups.get id = some g → ∀ m b, lastOp s.others id m = some b → g.has m = b

/-- **The condition on an event.** The members an update writes are those the group has. -/
def Undisturbed (s : State) : Event → Prop
  | .message none => ∀ o id req, s.pending = some (.updateGroup o id req) →
      ∀ g, s.groups.get id = some g → ∀ m, req.group.has m = g.has m
  | _ => True

/-! ### What an event does -/

/-- No update is pending, unless it was before. -/
def NoNewUpdate (s s' : State) : Prop :=
  ∀ o id req, s'.pending = some (.updateGroup o id req) →
    s.pending = some (.updateGroup o id req)

/-- **What an event can do** to the groups, to the record of the others' changes, and to the update
a pass is about to send. -/
inductive Change (s : State) (e : Event) (s' : State) : Prop
  | quiet (groups : s'.groups = s.groups) (others : s'.others = s.others)
      (pending : NoNewUpdate s s')
  | read (o : CR) (id : ℕ) (g : NetbirdGroup) (get : s.groups.get id = some g)
      (groups : s'.groups = s.groups) (others : s'.others = s.others)
      (pending : s'.pending = some (.updateGroup o id (updateRequest o g)))
  | wrote (o : CR) (id : ℕ) (req : GroupRequest) (g : NetbirdGroup) (event : e = .message none)
      (pending : s.pending = some (.updateGroup o id req)) (get : s.groups.get id = some g)
      (groups : s'.groups = s.groups.update id req.group) (others : s'.others = s.others)
      (done : ∀ o id req, s'.pending ≠ some (.updateGroup o id req))
  | created (g : NetbirdGroup) (empty : ∀ m, g.has m = false)
      (groups : s'.groups = s.groups.create g) (others : s'.others = s.others)
      (done : ∀ o id req, s'.pending ≠ some (.updateGroup o id req))
  | deleted (id : ℕ) (groups : s'.groups = s.groups.delete id) (others : s'.others = s.others)
      (pending : NoNewUpdate s s')
  | foreign (id : ℕ) (m : Member) (b : Bool) (g : NetbirdGroup) (get : s.groups.get id = some g)
      (groups : s'.groups = s.groups.update id (g.set m b))
      (others : s'.others = ⟨id, m, b⟩ :: s.others) (pending : s'.pending = s.pending)

theorem change_finish {r : Except Err Result} : Change s e (s.finish r) :=
  .quiet rfl rfl fun _ _ _ h => by simp [State.finish] at h

theorem change_patch {change : CR → CR} {next : State → State}
    (hnext : ∀ cr, Change s e (next { s with cr := cr })) : Change s e (patch s change next) := by
  unfold patch
  cases s.cr with
  | none => exact change_finish
  | some o => exact hnext _

/-- Going on with anything but an update changes nothing here. -/
theorem change_continue (cr : Option CR) {msg : Message}
    (hmsg : ∀ o id req, msg ≠ .updateGroup o id req) :
    Change s e (State.continue { s with cr := cr } msg) :=
  .quiet rfl rfl fun o id req h => absurd (Option.some.inj h) (hmsg o id req)

theorem change_patch_finish {change : CR → CR} {r : Except Err Result} :
    Change s e (patch s change fun s => s.finish r) :=
  change_patch fun _ => .quiet rfl rfl fun _ _ _ h => by simp [State.finish] at h

theorem change_ensureGroup (cr : Option CR) (o : CR) :
    Change s e (ensureGroup o { s with cr := cr }) := by
  unfold ensureGroup
  cases o.status.groupID with
  | some id => exact change_continue cr (by simp)
  | none => exact change_continue cr (by simp)

theorem change_answer {msg : Message} (hpending : s.pending = some msg) (he : e = .message none) :
    Change s e (answer s msg) := by
  cases msg with
  | patchFinalizer o => exact change_patch fun cr => change_ensureGroup cr o
  | getGroup o id =>
    rw [answer]
    cases hget : s.groups.get id with
    | none => exact change_continue s.cr (by simp)
    | some g => exact .read o id g hget rfl rfl rfl
  | updateGroup o id req =>
    rw [answer]
    cases hget : s.groups.get id with
    | none => exact change_continue s.cr (by simp)
    | some g =>
      exact .wrote o id req g he hpending hget rfl rfl (by simp [putGroup, State.continue])
  | createGroup o =>
    refine .created _ (fun m => ?_) rfl rfl (by simp [answer, State.continue])
    cases m <;> rfl
  | patchReady o id => exact change_patch_finish
  | deleteGroup o id => exact .deleted id rfl rfl (by simp [NoNewUpdate, answer, State.continue])
  | patchRemoveFinalizer o => exact change_patch_finish

theorem change_failed {f : Fault} {msg : Message} : Change s e (failed s msg f) := by
  unfold failed
  split <;> exact change_finish

theorem firstMessage_ne_update {o o' : CR} {req : GroupRequest} :
    firstMessage o ≠ .updateGroup o' id req := by
  unfold firstMessage
  split <;> simp

theorem step_change (s : State) (e : Event) : Change s e (step s e) := by
  have hsame : Change s e s := .quiet rfl rfl fun _ _ _ => id
  cases e with
  | reconcile =>
    rw [step]
    cases s.pending with
    | some msg => exact hsame
    | none =>
      rw [begin]
      cases s.cr with
      | none => exact change_finish
      | some o => exact change_continue s.cr fun _ _ _ => firstMessage_ne_update
  | message fault =>
    rw [step]
    cases hpending : s.pending with
    | none => exact hsame
    | some msg =>
      cases fault with
      | none => exact change_answer hpending rfl
      | some f => exact change_failed
  | foreign id m added =>
    rw [step]
    cases hget : s.groups.get id with
    | none => exact hsame
    | some g => exact .foreign id m added g hget rfl rfl rfl
  | foreignDelete gone => exact .deleted gone rfl rfl fun _ _ _ => id
  | edit spec => exact .quiet rfl rfl fun _ _ _ => id
  | delete => exact .quiet rfl rfl fun _ _ _ => id

/-! ### The record and the snapshot -/

/-- What is true of every run: the record speaks of groups that exist or existed, and where a
pending update differs from the group it is for, the others had their hands in it. -/
structure Recorded (s : State) : Prop where
  below : ∀ op ∈ s.others, op.group < s.groups.next
  snapshot : ∀ o id req, s.pending = some (.updateGroup o id req) →
    ∀ g, s.groups.get id = some g → ∀ m, req.group.has m = g.has m ∨ lastOp s.others id m ≠ none

theorem recorded_initial {cr : Option CR} {groups : Store NetbirdGroup} :
    Recorded (State.initial cr groups) :=
  ⟨by simp [State.initial], by simp [State.initial]⟩

theorem Recorded.step (h : Recorded s) (e : Event) : Recorded (step s e) := by
  cases step_change s e with
  | quiet groups others pending =>
    refine ⟨?_, fun o id req hp => ?_⟩
    · rw [groups, others]
      exact h.below
    · rw [groups, others]
      exact h.snapshot o id req (pending o id req hp)
  | read o id g get groups others pending =>
    refine ⟨?_, fun o' id' req hp g' hget m => Or.inl ?_⟩
    · rw [groups, others]
      exact h.below
    · obtain ⟨rfl, rfl, rfl⟩ : o = o' ∧ id = id' ∧ updateRequest o g = req := by
        simpa using pending.symm.trans hp
      rw [groups] at hget
      obtain rfl := Option.some.inj (get.symm.trans hget)
      exact has_updateRequest o
  | wrote o id req g event pending get groups others done =>
    refine ⟨?_, fun o id req hp => absurd hp (done o id req)⟩
    rw [groups, others]
    exact h.below
  | created g empty groups others done =>
    refine ⟨?_, fun o id req hp => absurd hp (done o id req)⟩
    rw [groups, others]
    exact fun op hop => Nat.lt_succ_of_lt (h.below op hop)
  | deleted id groups others pending =>
    refine ⟨?_, fun o id' req hp g hget => ?_⟩
    · rw [groups, others]
      exact h.below
    · rw [others]
      rw [groups] at hget
      exact h.snapshot o id' req (pending o id' req hp) g (Store.get_of_get_delete hget)
  | foreign id m b g get groups others pending =>
    refine ⟨?_, fun o id' req hp g' hget m' => ?_⟩
    · rw [groups, others]
      intro op hop
      rcases List.mem_cons.mp hop with rfl | hop
      · exact (Store.has_of_get get).lt_next
      · exact h.below op hop
    · rw [pending] at hp
      rw [others, lastOp_cons]
      by_cases hm : id = id' ∧ m = m'
      · exact Or.inr (by simp [hm])
      · rw [if_neg hm]
        rw [groups] at hget
        obtain ⟨rfl, rfl⟩ | ⟨-, hget⟩ := Store.get_of_get_update hget
        · have hne : m' ≠ m := fun heq => hm ⟨rfl, heq.symm⟩
          rw [NetbirdGroup.has_set, if_neg hne]
          exact h.snapshot o id' req hp g get m'
        · exact h.snapshot o id' req hp g' hget m'

/-! ### What is kept -/

/-- A write of the members the group has changes no membership. -/
theorem Kept.step (hrec : Recorded s) (h : Kept s) (he : Undisturbed s e) : Kept (step s e) := by
  intro id' g' hget m' b' hop
  cases step_change s e with
  | quiet groups others pending =>
    rw [groups] at hget
    rw [others] at hop
    exact h id' g' hget m' b' hop
  | read o id g get groups others pending =>
    rw [groups] at hget
    rw [others] at hop
    exact h id' g' hget m' b' hop
  | wrote o id req g event pending get groups others done =>
    subst event
    rw [groups] at hget
    rw [others] at hop
    obtain ⟨rfl, rfl⟩ | ⟨-, hget⟩ := Store.get_of_get_update hget
    · rw [he o id' req pending g get m']
      exact h id' g get m' b' hop
    · exact h id' g' hget m' b' hop
  | created g empty groups others done =>
    rw [groups] at hget
    rw [others] at hop
    obtain ⟨rfl, rfl⟩ | hget := Store.get_of_get_create hget
    · have hnone : lastOp s.others s.groups.next m' = none :=
        lastOp_eq_none fun op hop => Nat.ne_of_lt (hrec.below op hop)
      rw [hnone] at hop
      simp at hop
    · exact h id' g' hget m' b' hop
  | deleted id groups others pending =>
    rw [groups] at hget
    rw [others] at hop
    exact h id' g' (Store.get_of_get_delete hget) m' b' hop
  | foreign id m b g get groups others pending =>
    rw [groups] at hget
    rw [others, lastOp_cons] at hop
    obtain ⟨rfl, rfl⟩ | ⟨hne, hget⟩ := Store.get_of_get_update hget
    · rw [NetbirdGroup.has_set]
      by_cases hm : m' = m
      · rw [if_pos ⟨rfl, hm.symm⟩] at hop
        rw [if_pos hm]
        exact Option.some.inj hop
      · rw [if_neg fun hc => hm hc.2.symm] at hop
        rw [if_neg hm]
        exact h id' g get m' b' hop
    · rw [if_neg fun hc => hne hc.1.symm] at hop
      exact h id' g' hget m' b' hop

/-- A write that changes the membership of somebody undoes the last thing the others did to it. -/
theorem undisturbed_of_kept (hrec : Recorded s) (h : Kept s) (h' : Kept (step s e)) :
    Undisturbed s e := by
  unfold Undisturbed
  split
  · intro o id req hpending g hget m
    rcases hrec.snapshot o id req hpending g hget m with hsame | hop
    · exact hsame
    · obtain ⟨b, hb⟩ := Option.ne_none_iff_exists'.mp hop
      have hstep : step s (.message none) =
          { s with groups := s.groups.update id req.group }.continue (.patchReady o id) := by
        rw [step, hpending]
        show putGroup s o id req (s.groups.get id) = _
        rw [hget, putGroup]
        rfl
      have hafter := h' id req.group (by rw [hstep]; exact Store.get_update_self hget _) m b
        (by rw [hstep]; exact hb)
      rw [hafter, h id g hget m b hb]
  · trivial

/-- **Memberships under a pass.** In every run, the groups agree with what the others did in every
state reached if and only if each update that arrives finds the members the pass has read. -/
theorem memberships_kept_iff (cr : Option CR) (groups : Store NetbirdGroup) (es : List Event) :
    (∀ pre post, es = pre ++ post → Kept (run step (State.initial cr groups) pre)) ↔
      Along es fun pre e => Undisturbed (run step (State.initial cr groups) pre) e := by
  have hrec : ∀ fs, Recorded (run step (State.initial cr groups) fs) := fun fs =>
    run_keeps recorded_initial fun s e hs => hs.step e
  constructor
  · intro h pre e post hes
    have hafter := h (pre ++ [e]) post (by simp [hes])
    rw [run_concat] at hafter
    exact undisturbed_of_kept (hrec pre) (h pre (e :: post) hes) hafter
  · rintro h pre post rfl
    have hinv : Recorded _ ∧ Kept _ :=
      run_invariant (I := fun s => Recorded s ∧ Kept s) h.left
        ⟨recorded_initial, by simp [Kept, State.initial, lastOp]⟩
        fun s e hs he => ⟨hs.1.step e, hs.2.step hs.1 he⟩
    exact hinv.2

/-! ### A peer that joins between the two messages -/

/-- A Group object that has its NetBird group. -/
def routers : CR :=
  ⟨"default", "routers", 1, false, true, ⟨"routers"⟩, ⟨1, some markTrue, some 0⟩⟩

/-- The account with that group, and one peer in it. -/
def account : Store NetbirdGroup := Store.empty.create ⟨"routers", ["node-a"], []⟩

/-- A resync of an object nobody changed, with a peer that enrolls after the group is read. -/
def enrollDuringResync : List Event :=
  [.reconcile, .message none, .message none, .foreign 0 (.peer "node-b") true, .message none,
    .message none]

/-- The pass succeeds, and the peer that joined is no member any more. -/
theorem peer_lost_between_get_and_put :
    let s := run step (.initial (some routers) account) enrollDuringResync
    s.pending = none ∧ s.result.map Except.toOption = some (some ⟨some resyncInterval⟩) ∧
      lastOp s.others 0 (.peer "node-b") = some true ∧
      s.groups.get 0 = some ⟨"routers", ["node-a"], []⟩ ∧ ¬ Kept s := by
  refine ⟨by decide, by decide, by decide, by decide, fun h => ?_⟩
  have hmember := h 0 ⟨"routers", ["node-a"], []⟩ (by decide) (.peer "node-b") true (by decide)
  exact absurd hmember (by decide)

end Group

end NetbirdOperator
