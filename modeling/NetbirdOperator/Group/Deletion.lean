import NetbirdOperator.Group.LostWrites

/-!
# The deletion of a Group

A pass over a Group is a sequence of messages with the object as it was read in memory, and anything
may happen between two of them: the user edits or deletes the object, others delete its group.
`Tracked` says what the pass can still rely on at each message, and `Turn` what the message then
does. From the two follows how far a deletion is: `rank` counts the turns of the controller until
the object is released, and every message that goes through brings it down, wherever the running
pass was when the object was deleted.

## Main results

* `Group.Tracked.turn` — what a turn does
* `Group.Tracked.tick` — the pass goes on knowing, whichever message fails
* `Group.Tracked.tick_rank` — each turn brings the deletion forward
-/

namespace NetbirdOperator

open ControlLoop

namespace Group

variable {s s' : State} {fault : Option Fault} {g : ℕ}

/-! ### What a pass knows -/

/-- What is known of the object on the server when a pass is about to send a message. -/
def Knows (groups : Store NetbirdGroup) (c : CR) : Message → Prop
  | .patchFinalizer o => c.status.groupID = o.status.groupID
  | .getGroup _ id => c.finalizer = true ∧ c.status.groupID = some id
  | .updateGroup _ id _ => c.finalizer = true ∧ c.status.groupID = some id
  | .createGroup _ => c.finalizer = true ∧ ∀ i, c.status.groupID = some i → ¬ groups.Has i
  | .patchReady _ id => c.finalizer = true ∧ id < groups.next ∧
      ∀ i, c.status.groupID = some i → i = id ∨ ¬ groups.Has i
  | .deleteGroup _ id => c.deleting = true ∧ c.status.groupID = some id
  | .patchRemoveFinalizer _ => c.deleting = true ∧
      ∀ i, c.status.groupID = some i → ¬ groups.Has i

/-- The running pass knows the object, and the recorded group was given out and is held by the
finalizer. -/
structure Tracked (s : State) : Prop where
  knows : ∀ c msg, s.cr = some c → s.pending = some msg → Knows s.groups c msg
  held : ∀ c, s.cr = some c → c.status.groupID ≠ none → c.finalizer = true
  issued : ∀ c id, s.cr = some c → c.status.groupID = some id → id < s.groups.next

theorem tracked_of_gone (hcr : s.cr = none) : Tracked s where
  knows c _ hc := absurd (hcr.symm.trans hc) (by simp)
  held c hc := absurd (hcr.symm.trans hc) (by simp)
  issued c _ hc := absurd (hcr.symm.trans hc) (by simp)

/-- What is known of an object that is there. -/
theorem tracked_of_some {c : CR} (hcr : s.cr = some c)
    (hknows : ∀ msg, s.pending = some msg → Knows s.groups c msg)
    (hheld : c.status.groupID ≠ none → c.finalizer = true)
    (hissued : ∀ id, c.status.groupID = some id → id < s.groups.next) : Tracked s := by
  refine ⟨fun c' msg hc' => ?_, fun c' hc' => ?_, fun c' id hc' => ?_⟩ <;>
    obtain rfl := Option.some.inj (hcr.symm.trans hc')
  · exact hknows msg
  · exact hheld
  · exact hissued id

/-! ### One turn -/

/-- One turn of the controller: it begins a pass, or sends the next message of the running one. -/
def tick (s : State) (fault : Option Fault) : State :=
  step s (if s.pending.isNone then .reconcile else .message fault)

theorem tick_of_idle (h : s.pending = none) (fault : Option Fault) : tick s fault = begin s := by
  simp [tick, step, h]

theorem tick_of_pending {msg : Message} (h : s.pending = some msg) (fault : Option Fault) :
    tick s fault = deliver s fault msg := by
  simp [tick, step, h]

/-- **What a turn does**, as far as the object, the groups and the next message go. -/
inductive Turn (s : State) (fault : Option Fault) (s' : State) : Prop where
  | gone (hcr : s.cr = none) (hcr' : s'.cr = none) (hnext : s.groups.next ≤ s'.groups.next)
      (hhas : ∀ i, s'.groups.Has i → s.groups.Has i ∨ s.groups.next ≤ i)
      (hpending : s.pending = none → s'.pending = none)
  | failed {msg : Message} {f : Fault} (hfault : fault = some f) (hmsg : s.pending = some msg)
      (hcr' : s'.cr = s.cr) (hgroups : s'.groups = s.groups) (hpending : s'.pending = none)
  | began {c : CR} (hmsg : s.pending = none) (hcr : s.cr = some c) (hcr' : s'.cr = some c)
      (hgroups : s'.groups = s.groups) (hpending : s'.pending = some (firstMessage c))
  | claimed {c o : CR} {msg : Message} (hmsg : s.pending = some (.patchFinalizer o))
      (hcr : s.cr = some c) (hcr' : s'.cr = some { c with finalizer := true })
      (hgroups : s'.groups = s.groups) (hpending : s'.pending = some msg)
      (hnext : (∃ id, o.status.groupID = some id ∧ msg = .getGroup o id) ∨
        (o.status.groupID = none ∧ msg = .createGroup o))
  | got {c o : CR} {id : ℕ} {req : GroupRequest} (hmsg : s.pending = some (.getGroup o id))
      (hcr : s.cr = some c) (hcr' : s'.cr = some c) (hgroups : s'.groups = s.groups)
      (hpending : s'.pending = some (.updateGroup o id req))
  | missing {c o : CR} {id : ℕ} (hmsg : s.pending = some (.getGroup o id) ∨
        ∃ req, s.pending = some (.updateGroup o id req))
      (hcr : s.cr = some c) (hcr' : s'.cr = some c) (hgone : ¬ s.groups.Has id)
      (hgroups : s'.groups = s.groups) (hpending : s'.pending = some (.createGroup o))
  | updated {c o : CR} {id : ℕ} {req : GroupRequest}
      (hmsg : s.pending = some (.updateGroup o id req)) (hcr : s.cr = some c)
      (hcr' : s'.cr = some c) (hgroups : s'.groups = s.groups.update id req.group)
      (hpending : s'.pending = some (.patchReady o id))
  | created {c o : CR} {group : NetbirdGroup} (hmsg : s.pending = some (.createGroup o))
      (hcr : s.cr = some c) (hcr' : s'.cr = some c) (hgroups : s'.groups = s.groups.create group)
      (hpending : s'.pending = some (.patchReady o s.groups.next))
  | reported {c o : CR} {id : ℕ} (hmsg : s.pending = some (.patchReady o id))
      (hcr : s.cr = some c) (hcr' : s'.cr = some (asReady id o.generation c))
      (hgroups : s'.groups = s.groups) (hpending : s'.pending = none)
  | deleted {c o : CR} {id : ℕ} (hfault : fault = none)
      (hmsg : s.pending = some (.deleteGroup o id)) (hcr : s.cr = some c) (hcr' : s'.cr = some c)
      (hgroups : s'.groups = s.groups.delete id)
      (hpending : s'.pending = some (.patchRemoveFinalizer o))
  | released {c o : CR} (hmsg : s.pending = some (.patchRemoveFinalizer o)) (hcr : s.cr = some c)
      (hcr' : s'.cr = none) (hgroups : s'.groups = s.groups) (hpending : s'.pending = none)

/-- Without an object the rest of a pass comes to nothing. -/
theorem turn_of_gone (hcr : s.cr = none) (fault : Option Fault) : Turn s fault (tick s fault) := by
  cases hmsg : s.pending with
  | none =>
    rw [tick_of_idle hmsg, begin, hcr]
    exact .gone hcr hcr (Nat.le_refl _) (fun _ => .inl) fun _ => rfl
  | some msg =>
    have hidle : ∀ {P : Prop}, s.pending = none → P := fun h => absurd (hmsg.symm.trans h) (by simp)
    have hsame : ∀ {s' : State}, s'.cr = none → s'.groups = s.groups → Turn s fault s' := by
      intro s' h hgroups
      exact .gone hcr h (hgroups ▸ Nat.le_refl _) (fun i hi => .inl (hgroups ▸ hi)) hidle
    have hpatch : ∀ change next, patch s change next = s.finish (.error .notFound) :=
      fun change next => by rw [patch, hcr]
    rw [tick_of_pending hmsg]
    cases fault with
    | some f =>
      rw [deliver, failed.eq_def]
      split <;> exact hsame hcr rfl
    | none =>
      rw [deliver]
      cases msg with
      | patchFinalizer o => rw [answer, hpatch]; exact hsame hcr rfl
      | patchReady o id => rw [answer, hpatch]; exact hsame hcr rfl
      | patchRemoveFinalizer o => rw [answer, hpatch]; exact hsame hcr rfl
      | createGroup o =>
        refine .gone hcr hcr (Nat.le_succ _) (fun i hi => ?_) hidle
        rcases Store.has_create.mp hi with hi | rfl
        · exact .inl hi
        · exact .inr (Nat.le_refl _)
      | deleteGroup o id =>
        exact .gone hcr hcr (Nat.le_refl _) (fun i hi => .inl (Store.has_delete.mp hi).1) hidle
      | getGroup o id =>
        rw [answer]
        cases s.groups.get id <;> exact hsame hcr rfl
      | updateGroup o id req =>
        rw [answer]
        cases s.groups.get id with
        | none => exact hsame hcr rfl
        | some x =>
          exact .gone hcr hcr (Nat.le_refl _) (fun i hi => .inl (Store.has_update.mp hi)) hidle

/-- **The turns there are.** -/
theorem Tracked.turn (h : Tracked s) (fault : Option Fault) : Turn s fault (tick s fault) := by
  cases hcr : s.cr with
  | none => exact turn_of_gone hcr fault
  | some c =>
    cases hmsg : s.pending with
    | none =>
      rw [tick_of_idle hmsg, begin, hcr]
      exact .began hmsg hcr hcr rfl rfl
    | some msg =>
      rw [tick_of_pending hmsg]
      cases fault with
      | some f =>
        rw [deliver, Group.failed.eq_def]
        split <;> exact .failed rfl hmsg rfl rfl rfl
      | none =>
        have hknows := h.knows c msg hcr hmsg
        rw [deliver]
        cases msg with
        | patchFinalizer o =>
          rw [answer, patch_of_held hcr rfl, ensureGroup]
          split
          · next id hid => exact .claimed hmsg hcr rfl rfl rfl (.inl ⟨id, hid, rfl⟩)
          · next hid => exact .claimed hmsg hcr rfl rfl rfl (.inr ⟨hid, rfl⟩)
        | getGroup o id =>
          rw [answer]
          cases hget : s.groups.get id with
          | none =>
            refine .missing (.inl hmsg) hcr hcr ?_ rfl rfl
            rintro ⟨e, he, hid⟩
            exact Store.get_eq_none.mp hget e he hid
          | some x => exact .got hmsg hcr hcr rfl rfl
        | updateGroup o id req =>
          rw [answer]
          cases hget : s.groups.get id with
          | none =>
            refine .missing (.inr ⟨req, hmsg⟩) hcr hcr ?_ rfl rfl
            rintro ⟨e, he, hid⟩
            exact Store.get_eq_none.mp hget e he hid
          | some x => exact .updated hmsg hcr hcr rfl rfl
        | createGroup o => exact .created hmsg hcr hcr rfl rfl
        | patchReady o id =>
          rw [answer, patch_of_held hcr (hknows.1 : (asReady id o.generation c).finalizer = true)]
          exact .reported hmsg hcr rfl rfl rfl
        | deleteGroup o id => exact .deleted rfl hmsg hcr hcr rfl rfl
        | patchRemoveFinalizer o =>
          rw [answer, patch, hcr]
          dsimp only
          rw [if_pos ⟨hknows.1, by simp⟩]
          exact .released hmsg hcr rfl rfl rfl

/-! ### What a turn keeps -/

theorem Tracked.tick (h : Tracked s) (fault : Option Fault) : Tracked (tick s fault) := by
  cases h.turn fault with
  | gone _ hcr' _ _ _ => exact tracked_of_gone hcr'
  | failed _ hmsg hcr' hgroups hpending =>
    refine ⟨fun _ msg _ hmsg' => absurd (hpending.symm.trans hmsg') (by simp), ?_, ?_⟩
    · rw [hcr']
      exact h.held
    · rw [hcr', hgroups]
      exact h.issued
  | began hmsg hcr hcr' hgroups hpending =>
    refine tracked_of_some hcr' (fun msg hmsg' => ?_) (h.held _ hcr) ?_
    · obtain rfl := Option.some.inj (hpending.symm.trans hmsg')
      rw [firstMessage]
      split
      · exact rfl
      · next hdel hid => exact ⟨hdel, hid⟩
      · next hdel hid => exact ⟨hdel, fun i hi => absurd (hid.symm.trans hi) (by simp)⟩
    · rw [hgroups]
      exact fun id => h.issued _ id hcr
  | @claimed c o _ hmsg hcr hcr' hgroups hpending hnext =>
    have hknows := h.knows c _ hcr hmsg
    refine tracked_of_some hcr' (fun msg hmsg' => ?_) (fun _ => rfl) ?_
    · obtain rfl := Option.some.inj (hpending.symm.trans hmsg')
      rcases hnext with ⟨id, hid, rfl⟩ | ⟨hid, rfl⟩
      · exact ⟨rfl, hknows.trans hid⟩
      · exact ⟨rfl, fun i hi => absurd ((hknows.trans hid).symm.trans hi) (by simp)⟩
    · rw [hgroups]
      exact fun id => h.issued c id hcr
  | got hmsg hcr hcr' hgroups hpending =>
    refine tracked_of_some hcr' (fun msg hmsg' => ?_) (h.held _ hcr) ?_
    · obtain rfl := Option.some.inj (hpending.symm.trans hmsg')
      exact h.knows _ _ hcr hmsg
    · rw [hgroups]
      exact fun id => h.issued _ id hcr
  | @missing c o id hmsg hcr hcr' hgone hgroups hpending =>
    have hknows : c.finalizer = true ∧ c.status.groupID = some id := by
      rcases hmsg with hmsg | ⟨req, hmsg⟩
      · exact h.knows c _ hcr hmsg
      · exact h.knows c _ hcr hmsg
    refine tracked_of_some hcr' (fun msg hmsg' => ?_) (h.held c hcr) ?_
    · obtain rfl := Option.some.inj (hpending.symm.trans hmsg')
      refine ⟨hknows.1, fun i hi => ?_⟩
      obtain rfl := Option.some.inj (hknows.2.symm.trans hi)
      rwa [hgroups]
    · rw [hgroups]
      exact fun id => h.issued c id hcr
  | updated hmsg hcr hcr' hgroups hpending =>
    have hknows := h.knows _ _ hcr hmsg
    refine tracked_of_some hcr' (fun msg hmsg' => ?_) (h.held _ hcr) ?_
    · obtain rfl := Option.some.inj (hpending.symm.trans hmsg')
      rw [hgroups]
      exact ⟨hknows.1, h.issued _ _ hcr hknows.2, fun i hi =>
        .inl (Option.some.inj (hi.symm.trans hknows.2))⟩
    · rw [hgroups]
      exact fun id => h.issued _ id hcr
  | created hmsg hcr hcr' hgroups hpending =>
    have hknows := h.knows _ _ hcr hmsg
    refine tracked_of_some hcr' (fun msg hmsg' => ?_) (h.held _ hcr) ?_
    · obtain rfl := Option.some.inj (hpending.symm.trans hmsg')
      rw [hgroups]
      refine ⟨hknows.1, Nat.lt_succ_self _, fun i hi => .inr fun hhas => ?_⟩
      rcases Store.has_create.mp hhas with hhas | rfl
      · exact hknows.2 i hi hhas
      · exact Nat.lt_irrefl _ (h.issued _ _ hcr hi)
    · rw [hgroups]
      exact fun id hid => Nat.lt_succ_of_lt (h.issued _ id hcr hid)
  | reported hmsg hcr hcr' hgroups hpending =>
    have hknows := h.knows _ _ hcr hmsg
    refine tracked_of_some hcr' (fun msg hmsg' => absurd (hpending.symm.trans hmsg') (by simp))
      (fun _ => hknows.1) fun id hid => ?_
    rw [hgroups, ← Option.some.inj hid]
    exact hknows.2.1
  | deleted _ hmsg hcr hcr' hgroups hpending =>
    have hknows := h.knows _ _ hcr hmsg
    refine tracked_of_some hcr' (fun msg hmsg' => ?_) (h.held _ hcr) ?_
    · obtain rfl := Option.some.inj (hpending.symm.trans hmsg')
      refine ⟨hknows.1, fun i hi hhas => ?_⟩
      obtain rfl := Option.some.inj (hknows.2.symm.trans hi)
      rw [hgroups] at hhas
      exact (Store.has_delete.mp hhas).2 rfl
    · rw [hgroups]
      exact fun id => h.issued _ id hcr
  | released _ _ hcr' _ _ => exact tracked_of_gone hcr'

theorem Tracked.delete (h : Tracked s) : Tracked (step s .delete) := by
  cases hcr : s.cr with
  | none => exact tracked_of_gone (by rw [step, hcr]; rfl)
  | some c =>
    cases hfin : c.finalizer with
    | false => exact tracked_of_gone (by simp [step, hcr, hfin])
    | true =>
      have hcr' : (step s .delete).cr = some { c with deleting := true } := by
        simp [step, hcr, hfin]
      refine tracked_of_some hcr' (fun msg hmsg => ?_) (fun _ => hfin) (h.issued c · hcr)
      have hknows := h.knows c msg hcr hmsg
      cases msg with
      | deleteGroup o id => exact ⟨rfl, hknows.2⟩
      | patchRemoveFinalizer o => exact ⟨rfl, hknows.2⟩
      | _ => exact hknows

/-- Others create and delete groups, and ids are not used again. -/
theorem Tracked.others (h : Tracked s) {groups : Store NetbirdGroup}
    (hnext : s.groups.next ≤ groups.next)
    (hnew : ∀ i, groups.Has i → s.groups.Has i ∨ s.groups.next ≤ i) :
    Tracked { s with groups := groups } := by
  have hgone : ∀ c i, s.cr = some c → c.status.groupID = some i → ¬ s.groups.Has i →
      ¬ groups.Has i := by
    intro c i hc hi hhas hhas'
    rcases hnew i hhas' with h' | h'
    · exact hhas h'
    · exact Nat.not_le_of_lt (h.issued c i hc hi) h'
  refine ⟨fun c msg hc hmsg => ?_, h.held, fun c id hc hid =>
    Nat.lt_of_lt_of_le (h.issued c id hc hid) hnext⟩
  have hknows := h.knows c msg hc hmsg
  cases msg with
  | createGroup o => exact ⟨hknows.1, fun i hi => hgone c i hc hi (hknows.2 i hi)⟩
  | patchReady o id =>
    exact ⟨hknows.1, Nat.lt_of_lt_of_le hknows.2.1 hnext, fun i hi =>
      (hknows.2.2 i hi).imp_right (hgone c i hc hi)⟩
  | patchRemoveFinalizer o => exact ⟨hknows.1, fun i hi => hgone c i hc hi (hknows.2 i hi)⟩
  | _ => exact hknows

/-- Ids are given out in order, and none is used again. -/
theorem Tracked.grows (h : Tracked s) (fault : Option Fault) :
    s.groups.next ≤ (Group.tick s fault).groups.next ∧
      ∀ i, (Group.tick s fault).groups.Has i → s.groups.Has i ∨ s.groups.next ≤ i := by
  have hsame : (Group.tick s fault).groups = s.groups →
      s.groups.next ≤ (Group.tick s fault).groups.next ∧
        ∀ i, (Group.tick s fault).groups.Has i → s.groups.Has i ∨ s.groups.next ≤ i := by
    intro hgroups
    rw [hgroups]
    exact ⟨Nat.le_refl _, fun _ => .inl⟩
  cases h.turn fault with
  | gone _ _ hnext hhas _ => exact ⟨hnext, hhas⟩
  | created _ _ _ hgroups _ =>
    rw [hgroups]
    refine ⟨Nat.le_succ _, fun i hi => ?_⟩
    exact (Store.has_create.mp hi).imp_right fun hi => Nat.le_of_eq hi.symm
  | updated _ _ _ hgroups _ =>
    rw [hgroups]
    exact ⟨Nat.le_refl _, fun i hi => .inl (Store.has_update.mp hi)⟩
  | deleted _ _ _ _ hgroups _ =>
    rw [hgroups]
    exact ⟨Nat.le_refl _, fun i hi => .inl (Store.has_delete.mp hi).1⟩
  | failed _ _ _ hgroups _ => exact hsame hgroups
  | began _ _ _ hgroups _ => exact hsame hgroups
  | claimed _ _ _ hgroups _ _ => exact hsame hgroups
  | got _ _ _ hgroups _ => exact hsame hgroups
  | missing _ _ _ _ hgroups _ => exact hsame hgroups
  | reported _ _ _ hgroups _ => exact hsame hgroups
  | released _ _ _ hgroups _ => exact hsame hgroups

/-- A turn that lets the object go is the last of its pass. -/
theorem Tracked.pending_of_tick_gone (h : Tracked s) (hidle : s.cr = none → s.pending = none)
    (hcr : (Group.tick s fault).cr = none) : (Group.tick s fault).pending = none := by
  have hthere : ∀ {c : CR} {P : Prop}, (Group.tick s fault).cr = some c → P :=
    fun h => absurd (hcr.symm.trans h) (by simp)
  cases h.turn fault with
  | gone hcr _ _ _ hpending => exact hpending (hidle hcr)
  | failed _ _ _ _ hpending => exact hpending
  | reported _ _ _ _ hpending => exact hpending
  | released _ _ _ _ hpending => exact hpending
  | began _ _ hcr' _ _ => exact hthere hcr'
  | claimed _ _ hcr' _ _ _ => exact hthere hcr'
  | got _ _ hcr' _ _ => exact hthere hcr'
  | missing _ _ hcr' _ _ _ => exact hthere hcr'
  | updated _ _ hcr' _ _ => exact hthere hcr'
  | created _ _ hcr' _ _ => exact hthere hcr'
  | deleted _ _ _ hcr' _ _ => exact hthere hcr'

/-! ### The way to the end of a deletion -/

/-- A turn does not undo a deletion. -/
theorem Tracked.tick_deleting (h : Tracked s) (hdel : ∀ c, s.cr = some c → c.deleting = true) :
    ∀ c, (Group.tick s fault).cr = some c → c.deleting = true := by
  intro c hc
  have hsame : ∀ {c₀ : CR}, s.cr = some c₀ → (Group.tick s fault).cr = some c₀ →
      c.deleting = true := by
    intro c₀ hc₀ hc'
    obtain rfl := Option.some.inj (hc'.symm.trans hc)
    exact hdel c₀ hc₀
  cases h.turn fault with
  | gone _ hcr' _ _ _ => exact absurd (hcr'.symm.trans hc) (by simp)
  | released _ _ hcr' _ _ => exact absurd (hcr'.symm.trans hc) (by simp)
  | failed _ _ hcr' _ _ => exact hdel c (hcr'.symm.trans hc)
  | @claimed c₀ _ _ _ hcr hcr' _ _ _ =>
    obtain rfl := Option.some.inj (hcr'.symm.trans hc)
    exact hdel c₀ hcr
  | @reported c₀ _ _ _ hcr hcr' _ _ =>
    obtain rfl := Option.some.inj (hcr'.symm.trans hc)
    exact hdel c₀ hcr
  | began _ hcr hcr' _ _ => exact hsame hcr hcr'
  | got _ hcr hcr' _ _ => exact hsame hcr hcr'
  | missing _ hcr hcr' _ _ _ => exact hsame hcr hcr'
  | updated _ hcr hcr' _ _ => exact hsame hcr hcr'
  | created _ hcr hcr' _ _ => exact hsame hcr hcr'
  | deleted _ _ hcr hcr' _ _ => exact hsame hcr hcr'

/-- An object that is gone stays gone. -/
theorem tick_gone (hcr : s.cr = none) (fault : Option Fault) : (tick s fault).cr = none := by
  cases turn_of_gone hcr fault with
  | gone _ hcr' _ _ _ => exact hcr'
  | failed _ _ hcr' _ _ => exact hcr'.trans hcr
  | released _ _ hcr' _ _ => exact hcr'
  | began _ h _ _ _ => exact absurd (hcr.symm.trans h) (by simp)
  | claimed _ h _ _ _ _ => exact absurd (hcr.symm.trans h) (by simp)
  | got _ h _ _ _ => exact absurd (hcr.symm.trans h) (by simp)
  | missing _ h _ _ _ _ => exact absurd (hcr.symm.trans h) (by simp)
  | updated _ h _ _ _ => exact absurd (hcr.symm.trans h) (by simp)
  | created _ h _ _ _ => exact absurd (hcr.symm.trans h) (by simp)
  | reported _ h _ _ _ => exact absurd (hcr.symm.trans h) (by simp)
  | deleted _ _ h _ _ _ => exact absurd (hcr.symm.trans h) (by simp)

/-- How many turns there are at most until the object is released. -/
def rank : Option Message → ℕ
  | some (.patchRemoveFinalizer _) => 1
  | some (.deleteGroup _ _) => 2
  | none => 3
  | some (.patchReady _ _) => 4
  | some (.createGroup _) => 5
  | some (.updateGroup _ _ _) => 6
  | some (.getGroup _ _) => 7
  | some (.patchFinalizer _) => 8

theorem rank_pos (pending : Option Message) : 0 < rank pending := by
  unfold rank
  split <;> omega

theorem rank_le (pending : Option Message) : rank pending ≤ 8 := by
  unfold rank
  split <;> omega

/-- **Each turn brings the deletion forward**, if the message goes through. -/
theorem Tracked.tick_rank (h : Tracked s) (hdel : ∀ c, s.cr = some c → c.deleting = true) :
    (Group.tick s none).cr = none ∨ rank (Group.tick s none).pending < rank s.pending := by
  cases h.turn none with
  | gone _ hcr' _ _ _ => exact .inl hcr'
  | released _ _ hcr' _ _ => exact .inl hcr'
  | failed hfault _ _ _ _ => cases hfault
  | @began c hmsg hcr _ _ hpending =>
    rw [hmsg, hpending, firstMessage, hdel c hcr]
    cases c.status.groupID with
    | none => exact .inr (by decide : 1 < 3)
    | some id => exact .inr (by decide : 2 < 3)
  | claimed hmsg _ _ _ hpending hnext =>
    rw [hmsg, hpending]
    rcases hnext with ⟨id, -, rfl⟩ | ⟨-, rfl⟩
    · exact .inr (by decide : 7 < 8)
    · exact .inr (by decide : 5 < 8)
  | got hmsg _ _ _ hpending =>
    rw [hmsg, hpending]
    exact .inr (by decide : 6 < 7)
  | missing hmsg _ _ _ _ hpending =>
    rw [hpending]
    rcases hmsg with hmsg | ⟨req, hmsg⟩ <;> rw [hmsg]
    · exact .inr (by decide : 5 < 7)
    · exact .inr (by decide : 5 < 6)
  | updated hmsg _ _ _ hpending =>
    rw [hmsg, hpending]
    exact .inr (by decide : 4 < 6)
  | created hmsg _ _ _ hpending =>
    rw [hmsg, hpending]
    exact .inr (by decide : 4 < 5)
  | reported hmsg _ _ _ hpending =>
    rw [hmsg, hpending]
    exact .inr (by decide : 3 < 4)
  | deleted _ hmsg _ _ _ hpending =>
    rw [hmsg, hpending]
    exact .inr (by decide : 1 < 2)

/-! ### The groups of the object -/

/-- The group is that of the object: it is on record, or about to be, or it may still be given
out. -/
def Owned (s : State) (g : ℕ) : Prop :=
  (∃ c, s.cr = some c ∧ (c.status.groupID = some g ∨ ∃ o, s.pending = some (.patchReady o g))) ∨
    s.groups.next ≤ g

/-- The object comes into no group that was not its own. -/
theorem Tracked.owned_of_tick (h : Tracked s) (hg : Owned (Group.tick s fault) g) : Owned s g := by
  rcases hg with ⟨c', hc', hg⟩ | hg
  swap
  · exact .inr (Nat.le_trans (h.grows fault).1 hg)
  -- The object and its status are as they were, and the next message is another one.
  have hsame : ∀ {c : CR} {msg : Message}, s.cr = some c → c'.status = c.status →
      (Group.tick s fault).pending = some msg → (∀ o, msg = .patchReady o g → Owned s g) →
        Owned s g := by
    intro c msg hc hstatus hpending hmsg
    rcases hg with hg | ⟨o, hg⟩
    · exact .inl ⟨c, hc, .inl (hstatus ▸ hg)⟩
    · exact hmsg o (Option.some.inj (hpending.symm.trans hg))
  cases h.turn fault with
  | gone _ hcr' _ _ _ => exact absurd (hcr'.symm.trans hc') (by simp)
  | released _ _ hcr' _ _ => exact absurd (hcr'.symm.trans hc') (by simp)
  | failed _ _ hcr' _ hpending =>
    rcases hg with hg | ⟨o, hg⟩
    · exact .inl ⟨c', hcr'.symm.trans hc', .inl hg⟩
    · exact absurd (hpending.symm.trans hg) (by simp)
  | began _ hcr hcr' _ hpending =>
    obtain rfl := Option.some.inj (hcr'.symm.trans hc')
    refine hsame hcr rfl hpending fun o ho => ?_
    rw [firstMessage] at ho
    split at ho <;> cases ho
  | claimed _ hcr hcr' _ hpending hnext =>
    obtain rfl := Option.some.inj (hcr'.symm.trans hc')
    refine hsame hcr rfl hpending fun o ho => ?_
    rcases hnext with ⟨id, -, rfl⟩ | ⟨-, rfl⟩ <;> cases ho
  | got _ hcr hcr' _ hpending =>
    obtain rfl := Option.some.inj (hcr'.symm.trans hc')
    exact hsame hcr rfl hpending fun o ho => by cases ho
  | missing _ hcr hcr' _ _ hpending =>
    obtain rfl := Option.some.inj (hcr'.symm.trans hc')
    exact hsame hcr rfl hpending fun o ho => by cases ho
  | updated hmsg hcr hcr' _ hpending =>
    obtain rfl := Option.some.inj (hcr'.symm.trans hc')
    refine hsame hcr rfl hpending fun o ho => ?_
    cases ho
    exact .inl ⟨_, hcr, .inl (h.knows _ _ hcr hmsg).2⟩
  | created _ hcr hcr' _ hpending =>
    obtain rfl := Option.some.inj (hcr'.symm.trans hc')
    refine hsame hcr rfl hpending fun o ho => ?_
    cases ho
    exact .inr (Nat.le_refl _)
  | reported hmsg hcr hcr' _ hpending =>
    obtain rfl := Option.some.inj (hcr'.symm.trans hc')
    rcases hg with hg | ⟨o, hg⟩
    · obtain rfl := Option.some.inj hg
      exact .inl ⟨_, hcr, .inr ⟨_, hmsg⟩⟩
    · exact absurd (hpending.symm.trans hg) (by simp)
  | deleted _ _ hcr hcr' _ hpending =>
    obtain rfl := Option.some.inj (hcr'.symm.trans hc')
    exact hsame hcr rfl hpending fun o ho => by cases ho

/-- **A group that is not deleted stays that of its object**, and the object stays. -/
theorem Tracked.tick_holds (h : Tracked s) {c : CR} (hcr : s.cr = some c)
    (hid : c.status.groupID = some g) (hhas : s.groups.Has g)
    (hkept : fault = none → ∀ o, s.pending ≠ some (.deleteGroup o g)) :
    (∃ c', (Group.tick s fault).cr = some c' ∧ c'.status.groupID = some g) ∧
      (Group.tick s fault).groups.Has g := by
  have hown : ∀ {c₀ : CR}, s.cr = some c₀ → c₀.status.groupID = some g := by
    intro c₀ hc₀
    obtain rfl := Option.some.inj (hcr.symm.trans hc₀)
    exact hid
  cases h.turn fault with
  | gone hnone _ _ _ _ => exact absurd (hnone.symm.trans hcr) (by simp)
  | failed _ _ hcr' hgroups _ => exact ⟨⟨c, hcr'.trans hcr, hid⟩, hgroups ▸ hhas⟩
  | began _ hc hcr' hgroups _ => exact ⟨⟨_, hcr', hown hc⟩, hgroups ▸ hhas⟩
  | @claimed c₀ _ _ _ hc hcr' hgroups _ _ =>
    have hid₀ : c₀.status.groupID = some g := hown hc
    exact ⟨⟨_, hcr', hid₀⟩, hgroups ▸ hhas⟩
  | got _ hc hcr' hgroups _ => exact ⟨⟨_, hcr', hown hc⟩, hgroups ▸ hhas⟩
  | missing _ hc hcr' _ hgroups _ => exact ⟨⟨_, hcr', hown hc⟩, hgroups ▸ hhas⟩
  | updated _ hc hcr' hgroups _ =>
    exact ⟨⟨_, hcr', hown hc⟩, hgroups ▸ Store.has_update.mpr hhas⟩
  | created _ hc hcr' hgroups _ => exact ⟨⟨_, hcr', hown hc⟩, hgroups ▸ hhas.create _⟩
  | reported hmsg hc hcr' hgroups _ =>
    refine ⟨⟨_, hcr', ?_⟩, hgroups ▸ hhas⟩
    rw [((h.knows _ _ hc hmsg).2.2 g (hown hc)).resolve_right fun hgone => hgone hhas]
    rfl
  | deleted hfault hmsg hc hcr' hgroups _ =>
    have hid' := (h.knows _ _ hc hmsg).2
    obtain rfl := Option.some.inj ((hown hc).symm.trans hid')
    exact absurd hmsg (hkept hfault _)
  | released hmsg hc _ _ _ => exact absurd hhas ((h.knows _ _ hc hmsg).2 g (hown hc))

theorem Tracked.has_of_tick (h : Tracked s) (hlt : g < s.groups.next)
    (hhas : (Group.tick s fault).groups.Has g) : s.groups.Has g :=
  ((h.grows fault).2 g hhas).resolve_right (Nat.not_le_of_lt hlt)

/-- **A group is gone before its object.** -/
theorem Tracked.tick_clears (h : Tracked s) {c : CR} (hcr : s.cr = some c)
    (hid : c.status.groupID = some g) :
    (∃ c', (Group.tick s fault).cr = some c' ∧ c'.status.groupID = some g) ∨
      ¬ (Group.tick s fault).groups.Has g := by
  by_cases hhas : s.groups.Has g
  · by_cases hdeleted : fault = none ∧ ∃ o, s.pending = some (.deleteGroup o g)
    · obtain ⟨rfl, o, hmsg⟩ := hdeleted
      right
      rw [tick_of_pending hmsg]
      exact fun hhas' => (Store.has_delete.mp hhas').2 rfl
    · exact .inl (h.tick_holds hcr hid hhas fun hfault o hmsg => hdeleted ⟨hfault, o, hmsg⟩).1
  · exact .inr fun hhas' => hhas (h.has_of_tick (h.issued c g hcr hid) hhas')

end Group

end NetbirdOperator
