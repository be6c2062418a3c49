import NetbirdOperator.ControlLoop.Ledger
import NetbirdOperator.Group.Model

/-!
# A Group and its lost status writes

The Group controller finds its group by the recorded id alone, so a Group object and the groups of
the account are a ledger. Message by message there is one more place where the id can be: after the
create the pass has it in memory, until the message that writes it into the status. The owner of the
ledger is the object together with that memory, so the create is no slip; the slip is the message
that fails while memory and status differ.

Nobody else works on the account here and the specification stays as it is; the user may ask for
the deletion at any time, also between two messages.

## Main results

* `Group.Handling.step` — what holds of every state of every run
* `Group.keepsBooks` — an event keeps the books, unless it is the loss of a fresh id
-/

namespace NetbirdOperator

open ControlLoop Ledger

namespace Group

variable {s : State} {c : CR} {groups : Store NetbirdGroup}

/-- A pass and its messages, or the deletion of the object by the user. -/
def Alone : Event → Prop
  | .reconcile | .message _ | .delete => True
  | _ => False

/-- The id that the object and a pass over it know of. -/
def known (pending : Option Message) (c : CR) : Option ℕ :=
  match pending with
  | some (.patchReady _ id) => some id
  | _ => c.status.groupID

/-- The object with the memory of its pass, and the groups. -/
def ledger (s : State) : Ledger NetbirdGroup := ⟨s.cr.map (known s.pending), s.groups⟩

/-- The status write of a pass goes through, or its group is on record already. -/
def Records (s : State) : Event → Prop
  | .message (some _) => ∀ o id, s.pending = some (.patchReady o id) →
      ∀ c, s.cr = some c → c.status.groupID = some id
  | _ => True

/-- **What a message finds** of the object and the groups. -/
def Finds (groups : Store NetbirdGroup) (c : CR) : Message → Prop
  | .patchFinalizer o =>
    c.status.groupID = o.status.groupID ∧ ∀ id, o.status.groupID = some id → groups.Has id
  | .getGroup _ id | .updateGroup _ id _ =>
    c.finalizer = true ∧ c.status.groupID = some id ∧ groups.Has id
  | .createGroup _ => c.finalizer = true ∧ c.status.groupID = none
  | .patchReady _ id =>
    c.finalizer = true ∧ groups.Has id ∧ (c.status.groupID = some id ∨ c.status.groupID = none)
  | .deleteGroup _ id => c.finalizer = true ∧ c.deleting = true ∧ c.status.groupID = some id
  | .patchRemoveFinalizer _ =>
    c.finalizer = true ∧ c.deleting = true ∧ ∀ id, c.status.groupID = some id → ¬ groups.Has id

/-- What holds of the object between two messages: one that is not held has nothing on record and
is not being deleted, and a live one has its group. -/
structure Own (groups : Store NetbirdGroup) (c : CR) : Prop where
  unheld : c.finalizer = false → c.status.groupID = none ∧ c.deleting = false
  live : c.deleting = false → ∀ id, c.status.groupID = some id → groups.Has id

/-- **How a run with nobody else stands.** Only the first message of a pass may find its object
gone. -/
structure Handling (s : State) : Prop where
  own : ∀ c, s.cr = some c → Own s.groups c
  finds : ∀ c msg, s.cr = some c → s.pending = some msg → Finds s.groups c msg
  gone : ∀ msg, s.cr = none → s.pending = some msg → ∃ o, msg = .patchFinalizer o

theorem ledger_of_some (hcr : s.cr = some c) : ledger s = ⟨some (known s.pending c), s.groups⟩ := by
  rw [ledger, hcr]
  rfl

theorem ledger_of_none (hcr : s.cr = none) : ledger s = ⟨none, s.groups⟩ := by
  rw [ledger, hcr]
  rfl

theorem handling_of_continue {msg : Message} (hcr : s.cr = some c) (hpending : s.pending = some msg)
    (hown : Own s.groups c) (hfinds : Finds s.groups c msg) : Handling s where
  own c' hc' := by
    rwa [← Option.some.inj (hcr.symm.trans hc')]
  finds c' msg' hc' hmsg' := by
    rwa [← Option.some.inj (hcr.symm.trans hc'), ← Option.some.inj (hpending.symm.trans hmsg')]
  gone msg' hnone := absurd (hcr.symm.trans hnone) (by simp)

theorem handling_of_finish (hpending : s.pending = none)
    (hown : ∀ c, s.cr = some c → Own s.groups c) : Handling s where
  own := hown
  finds c msg _ hmsg := absurd (hpending.symm.trans hmsg) (by simp)
  gone msg _ hmsg := absurd (hpending.symm.trans hmsg) (by simp)

theorem Own.withFinalizer (h : Own groups c) : Own groups { c with finalizer := true } :=
  ⟨fun hfin => absurd hfin (by simp), h.live⟩

/-- A patch that leaves the finalizer on finds the object where it was. -/
theorem patch_of_held {change : CR → CR} {next : State → State} (hcr : s.cr = some c)
    (hfin : (change c).finalizer = true) :
    patch s change next = next { s with cr := some (change c) } := by
  rw [patch, hcr]
  dsimp only
  rw [if_neg (by simp [hfin])]

/-- The state is as it should be, and the books were kept on the way there. -/
def Handled (s s' : State) : Prop := Handling s' ∧ Step (ledger s) (ledger s')

section Answer

variable (h : Handling s) (hcr : s.cr = some c) {o : CR} {id : ℕ}

include h hcr

theorem answer_patchFinalizer (hmsg : s.pending = some (.patchFinalizer o)) :
    Handled s (answer s (.patchFinalizer o)) := by
  obtain ⟨hid, hhas⟩ := h.finds c _ hcr hmsg
  have hown := (h.own c hcr).withFinalizer
  have hanswer : answer s (.patchFinalizer o) =
      ensureGroup o { s with cr := some { c with finalizer := true } } := patch_of_held hcr rfl
  rw [Handled, hanswer, ledger_of_some hcr, hmsg, ensureGroup]
  cases hgroup : o.status.groupID with
  | none => exact ⟨handling_of_continue rfl rfl hown ⟨rfl, hid.trans hgroup⟩, .idle⟩
  | some i =>
    exact ⟨handling_of_continue rfl rfl hown ⟨rfl, hid.trans hgroup, hhas i hgroup⟩, .idle⟩

theorem answer_getGroup (hmsg : s.pending = some (.getGroup o id)) :
    Handled s (answer s (.getGroup o id)) := by
  obtain ⟨hfin, hid, hhas⟩ := h.finds c _ hcr hmsg
  obtain ⟨g, hg⟩ := Option.isSome_iff_exists.mp (Store.isSome_get.mpr hhas)
  have hanswer : answer s (.getGroup o id) =
      s.continue (.updateGroup o id (updateRequest o g)) := by
    rw [answer, hg, gotGroup]
  rw [Handled, hanswer, ledger_of_some hcr, hmsg, ledger_of_some (s := s.continue _) hcr]
  exact ⟨handling_of_continue hcr rfl (h.own c hcr) ⟨hfin, hid, hhas⟩, .idle⟩

theorem answer_updateGroup {req : GroupRequest} (hmsg : s.pending = some (.updateGroup o id req)) :
    Handled s (answer s (.updateGroup o id req)) := by
  obtain ⟨hfin, hid, hhas⟩ := h.finds c _ hcr hmsg
  obtain ⟨g, hg⟩ := Option.isSome_iff_exists.mp (Store.isSome_get.mpr hhas)
  have hanswer : answer s (.updateGroup o id req) =
      { s with groups := s.groups.update id req.group }.continue (.patchReady o id) := by
    rw [answer, hg, putGroup]
  have hown : Own (s.groups.update id req.group) c :=
    ⟨(h.own c hcr).unheld, fun hlive i hi => Store.has_update.mpr ((h.own c hcr).live hlive i hi)⟩
  have hafter : ledger ({ s with groups := s.groups.update id req.group }.continue
      (.patchReady o id)) = ⟨some (some id), s.groups.update id req.group⟩ := ledger_of_some hcr
  have hbefore : ledger s = ⟨some (some id), s.groups⟩ := by
    rw [ledger_of_some hcr, hmsg, ← hid]
    rfl
  rw [Handled, hanswer, hafter, hbefore]
  exact ⟨handling_of_continue hcr rfl hown ⟨hfin, Store.has_update.mpr hhas, Or.inl hid⟩,
    .update id req.group⟩

theorem answer_createGroup (hmsg : s.pending = some (.createGroup o)) :
    Handled s (answer s (.createGroup o)) := by
  obtain ⟨hfin, hid⟩ := h.finds c _ hcr hmsg
  have hown : ∀ g, Own (s.groups.create g) c := fun g =>
    ⟨(h.own c hcr).unheld, fun hlive i hi => ((h.own c hcr).live hlive i hi).create g⟩
  have hbefore : ledger s = ⟨some none, s.groups⟩ := by
    rw [ledger_of_some hcr, hmsg, ← hid]
    rfl
  refine ⟨handling_of_continue hcr rfl (hown _) ⟨hfin, Store.has_create_next _ _, Or.inr hid⟩, ?_⟩
  rw [hbefore, ledger_of_some (s := answer s (.createGroup o)) hcr]
  exact Step.create (l := ⟨some none, s.groups⟩) rfl (fun i hi => absurd hi (by simp)) _

theorem answer_patchReady (hmsg : s.pending = some (.patchReady o id)) :
    Handled s (answer s (.patchReady o id)) := by
  obtain ⟨hfin, hhas, -⟩ := h.finds c _ hcr hmsg
  have hanswer : answer s (.patchReady o id) =
      { s with cr := some (asReady id o.generation c) }.finish (.ok ⟨some resyncInterval⟩) := by
    have hfin' : (asReady id o.generation c).finalizer = true := hfin
    rw [answer, patch_of_held hcr hfin']
  rw [Handled, hanswer, ledger_of_some hcr, hmsg]
  refine ⟨handling_of_finish rfl fun c' hc' => ?_, .idle⟩
  obtain rfl := Option.some.inj hc'
  refine ⟨fun hoff => absurd (hoff.symm.trans hfin) (by simp), fun _ i hi => ?_⟩
  obtain rfl := Option.some.inj hi
  exact hhas

theorem answer_deleteGroup (hmsg : s.pending = some (.deleteGroup o id)) :
    Handled s (answer s (.deleteGroup o id)) := by
  obtain ⟨hfin, hdel, hid⟩ := h.finds c _ hcr hmsg
  have hown : Own (s.groups.delete id) c :=
    ⟨(h.own c hcr).unheld, fun hlive => absurd (hlive.symm.trans hdel) (by simp)⟩
  have hgone : ∀ i, c.status.groupID = some i → ¬ (s.groups.delete id).Has i := by
    intro i hi hhas
    exact (Store.has_delete.mp hhas).2 (Option.some.inj (hi.symm.trans hid))
  have hbefore : ledger s = ⟨some (some id), s.groups⟩ := by
    rw [ledger_of_some hcr, hmsg, ← hid]
    rfl
  have hafter : ledger (answer s (.deleteGroup o id)) = ⟨some (some id), s.groups.delete id⟩ := by
    rw [ledger_of_some (s := answer s (.deleteGroup o id)) hcr, ← hid]
    rfl
  rw [Handled, hbefore, hafter]
  exact ⟨handling_of_continue hcr rfl hown ⟨hfin, hdel, hgone⟩,
    Step.remove (l := ⟨some (some id), s.groups⟩) rfl⟩

theorem answer_patchRemoveFinalizer (hmsg : s.pending = some (.patchRemoveFinalizer o)) :
    Handled s (answer s (.patchRemoveFinalizer o)) := by
  obtain ⟨hfin, hdel, hgone⟩ := h.finds c _ hcr hmsg
  have hanswer : answer s (.patchRemoveFinalizer o) =
      { s with cr := none }.finish (.ok ⟨none⟩) := by
    rw [answer, patch, hcr]
    dsimp only
    rw [if_pos (by simp [hdel])]
  have hbefore : ledger s = ⟨some c.status.groupID, s.groups⟩ := by
    rw [ledger_of_some hcr, hmsg]
    rfl
  rw [Handled, hanswer, hbefore]
  refine ⟨handling_of_finish rfl fun c' hc' => absurd hc' (by simp [State.finish]), ?_⟩
  have hrelease : Step (⟨some c.status.groupID, s.groups⟩ : Ledger NetbirdGroup)
      ⟨none, without s.groups c.status.groupID⟩ := .release rfl
  rwa [without_eq_self hgone] at hrelease

end Answer

/-- A message that goes through. -/
theorem Handling.answer (h : Handling s) {msg : Message} (hmsg : s.pending = some msg) :
    Handled s (answer s msg) := by
  cases hcr : s.cr with
  | none =>
    obtain ⟨o, rfl⟩ := h.gone msg hcr hmsg
    rw [Handled, Group.answer, patch, hcr]
    refine ⟨handling_of_finish rfl fun c hc => absurd (hcr.symm.trans hc) (by simp), ?_⟩
    rw [ledger_of_none hcr, ledger_of_none (s := s.finish _) hcr]
    exact .idle
  | some c =>
    cases msg with
    | patchFinalizer o => exact answer_patchFinalizer h hcr hmsg
    | getGroup o id => exact answer_getGroup h hcr hmsg
    | updateGroup o id req => exact answer_updateGroup h hcr hmsg
    | createGroup o => exact answer_createGroup h hcr hmsg
    | patchReady o id => exact answer_patchReady h hcr hmsg
    | deleteGroup o id => exact answer_deleteGroup h hcr hmsg
    | patchRemoveFinalizer o => exact answer_patchRemoveFinalizer h hcr hmsg

/-- A message that fails ends the pass, and nothing else. -/
theorem failed_eq (s : State) (msg : Message) (f : Fault) :
    ∃ r, failed s msg f = s.finish r := by
  unfold failed
  split
  · exact ⟨_, rfl⟩
  · exact ⟨_, rfl⟩

/-- A message that fails is a slip exactly if it was to write down the id of a fresh group. -/
theorem Handling.failed (h : Handling s) {msg : Message} (hmsg : s.pending = some msg) (f : Fault) :
    Handling (failed s msg f) ∧
      Books (Records s (.message (some f))) (ledger s) (ledger (failed s msg f)) := by
  obtain ⟨r, hfailed⟩ := failed_eq s msg f
  rw [hfailed]
  refine ⟨handling_of_finish rfl h.own, ?_⟩
  cases hcr : s.cr with
  | none =>
    rw [ledger_of_none hcr, ledger_of_none (s := s.finish r) hcr]
    exact Or.inl ⟨fun _ _ _ c hc => absurd (hcr.symm.trans hc) (by simp), .idle⟩
  | some c =>
    have hafter : ledger (s.finish r) = ⟨some c.status.groupID, s.groups⟩ := ledger_of_some hcr
    rw [ledger_of_some hcr, hafter, hmsg]
    cases msg with
    | patchReady o id =>
      obtain ⟨-, hhas, hid | hid⟩ := h.finds c _ hcr hmsg
      · rw [hid]
        refine Or.inl ⟨fun o' i hpending c' hc' => ?_, .idle⟩
        cases hmsg.symm.trans hpending
        rwa [← Option.some.inj (hcr.symm.trans hc')]
      · rw [hid]
        refine Or.inr ⟨fun hrecords => ?_, Slip.forget (l := ⟨some (some id), s.groups⟩) rfl hhas⟩
        exact absurd (hid.symm.trans (hrecords o id hmsg c hcr)) (by simp)
    | _ =>
      refine Or.inl ⟨fun o id hpending => ?_, .idle⟩
      cases hmsg.symm.trans hpending

theorem Handling.begin (h : Handling s) (hidle : s.pending = none) : Handled s (begin s) := by
  rw [Group.begin]
  cases hcr : s.cr with
  | none =>
    refine ⟨handling_of_finish rfl h.own, ?_⟩
    rw [ledger_of_none hcr, ledger_of_none (s := s.finish _) hcr]
    exact .idle
  | some c =>
    have hown := h.own c hcr
    have hheld : c.deleting = true → c.finalizer = true := by
      intro hdel
      by_contra hfin
      exact absurd (hdel.symm.trans (hown.unheld (by simpa using hfin)).2) (by simp)
    have hafter : ledger (s.continue (firstMessage c)) = ⟨some c.status.groupID, s.groups⟩ := by
      rw [ledger_of_some (s := s.continue _) hcr, State.continue, firstMessage]
      split <;> rfl
    have hfinds : Finds s.groups c (firstMessage c) := by
      rw [firstMessage]
      split
      · next hlive => exact ⟨rfl, hown.live hlive⟩
      · next hdel hid => exact ⟨hheld hdel, hdel, hid⟩
      · next hdel hid =>
        exact ⟨hheld hdel, hdel, fun id h => absurd (hid.symm.trans h) (by simp)⟩
    refine ⟨handling_of_continue hcr rfl hown hfinds, ?_⟩
    rw [ledger_of_some hcr, hidle]
    dsimp only
    rw [hafter]
    exact .idle

/-- An object that is not held has no message in flight but the one that is to hold it. -/
theorem Handling.patchFinalizer_of_unheld (h : Handling s) (hcr : s.cr = some c)
    (hfin : c.finalizer = false) {msg : Message} (hmsg : s.pending = some msg) :
    ∃ o, msg = .patchFinalizer o := by
  have hfinds := h.finds c msg hcr hmsg
  cases msg with
  | patchFinalizer o => exact ⟨o, rfl⟩
  | _ => exact absurd (hfin.symm.trans hfinds.1) (by simp)

theorem Finds.deleting {msg : Message} (h : Finds groups c msg) :
    Finds groups { c with deleting := true } msg := by
  cases msg with
  | deleteGroup o id => exact ⟨h.1, rfl, h.2.2⟩
  | patchRemoveFinalizer o => exact ⟨h.1, rfl, h.2.2⟩
  | _ => exact h

/-- The user may ask for the deletion between any two messages. -/
theorem Handling.delete (h : Handling s) : Handled s (step s .delete) := by
  cases hcr : s.cr with
  | none =>
    have hsame : step s .delete = s := by
      rw [step, hcr]
      exact congrArg (State.mk · _ _ _ _) hcr.symm
    rw [hsame]
    exact ⟨h, .idle⟩
  | some c =>
    cases hfin : c.finalizer with
    | true =>
      have hstep : step s .delete = { s with cr := some { c with deleting := true } } := by
        rw [step, hcr, Option.bind_some, if_pos hfin]
      have hknown : known s.pending { c with deleting := true } = known s.pending c := by
        unfold known
        split <;> rfl
      rw [Handled, hstep, ledger_of_some hcr, ledger_of_some rfl, hknown]
      refine ⟨⟨fun c' hc' => ?_, fun c' msg hc' hmsg => ?_, fun _ hnone => ?_⟩, .idle⟩
      · obtain rfl := Option.some.inj hc'
        exact ⟨fun hoff => absurd (hoff.symm.trans hfin) (by simp), fun hlive => by simp at hlive⟩
      · obtain rfl := Option.some.inj hc'
        exact (h.finds c msg hcr hmsg).deleting
      · exact absurd hnone (by simp)
    | false =>
      have hstep : step s .delete = { s with cr := none } := by
        rw [step, hcr, Option.bind_some, if_neg (by simp [hfin])]
      have hknown : known s.pending c = none := by
        rw [← ((h.own c hcr).unheld hfin).1]
        unfold known
        split
        · next o id hmsg =>
          obtain ⟨o', ho'⟩ := h.patchFinalizer_of_unheld hcr hfin hmsg
          exact absurd ho' (by simp)
        · rfl
      rw [Handled, hstep, ledger_of_some hcr, ledger_of_none rfl, hknown]
      refine ⟨⟨fun c' hc' => ?_, fun c' msg hc' => ?_, fun msg _ hmsg => ?_⟩,
        step_release_none s.groups⟩
      · exact absurd hc' (by simp)
      · exact absurd hc' (by simp)
      · exact h.patchFinalizer_of_unheld hcr hfin hmsg

/-- **What an event does** when nobody else works on the account. -/
theorem Handling.step (h : Handling s) {ev : Event} (hev : Alone ev) :
    Handling (step s ev) ∧ Books (Records s ev) (ledger s) (ledger (step s ev)) := by
  have hhandled : ∀ {s' : State}, Handled s s' → Handling s' ∧ Books True (ledger s) (ledger s') :=
    fun hs' => ⟨hs'.1, hs'.2.books⟩
  cases ev with
  | reconcile =>
    rw [Group.step]
    split
    · next hidle => exact hhandled (h.begin (by simpa using hidle))
    · exact hhandled ⟨h, .idle⟩
  | delete => exact hhandled h.delete
  | message fault =>
    rw [Group.step]
    cases hmsg : s.pending with
    | none =>
      refine ⟨h, Or.inl ⟨?_, .idle⟩⟩
      cases fault with
      | none => trivial
      | some f => exact fun o id hpending => absurd (hmsg.symm.trans hpending) (by simp)
    | some msg =>
      cases fault with
      | none => exact hhandled (h.answer hmsg)
      | some f => exact h.failed hmsg f
  | foreign | foreignDelete | edit => exact hev.elim

theorem keepsBooks : KeepsBooks step ledger Handling (fun _ ev => Alone ev) Records where
  inv _ _ hs hev := (hs.step hev).1
  books _ _ hs hev := (hs.step hev).2

/-- An object that was just created, in an account with any groups. -/
def single (groups : Store NetbirdGroup) (ns name : String) (spec : Spec) : State :=
  .initial (some ⟨ns, name, 1, false, false, spec, {}⟩) groups

/-- What holds of every run of the one object. -/
def MirroredIffRecorded (ns name : String) : Prop :=
  ∀ (groups : Store NetbirdGroup) (spec : Spec) (es : List Event),
    (∀ ev ∈ es, Alone ev) → Faithful step ledger Records (single groups ns name spec) es

theorem mirroredIffRecorded (ns name : String) : MirroredIffRecorded ns name := by
  intro groups spec es hes
  refine keepsBooks.faithful (handling_of_finish rfl fun c hc => ?_) (along_of_forall hes) rfl
  obtain rfl := Option.some.inj hc
  exact ⟨fun _ => ⟨rfl, rfl⟩, fun _ id hid => absurd hid (by simp)⟩

/-- An object that was just declared, in an empty account. -/
def declared : State := single .empty "apps" "devs" { name := "devs" }

/-- Two passes, of which the first loses its status write. -/
def lostRun : List Event :=
  [.reconcile, .message none, .message none, .message (some .other),
    .reconcile, .message none, .message none, .message none]

/-- The object is deleted and let go. -/
def removal : List Event := [.delete, .reconcile, .message none, .message none]

end Group

end NetbirdOperator
