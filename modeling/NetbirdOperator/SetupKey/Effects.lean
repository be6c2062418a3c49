import NetbirdOperator.SetupKey.Rotation

/-!
# What a pass of the SetupKey controller does

A pass may give up at any of its calls, and what it did before stays. `Effect` says once what that
can be, for the object, the keys and the Secret; `reconcile_of_deleting` is the pass over an object
that is being deleted, if no call fails.

The order of a rotation shows in `Effect`: the new key is minted first, and the Secret has it before
the old key is deleted. So whatever fails, and however often passes over the object are interrupted,
the Secret never has a key that the operator has deleted.

## Main results

* `SetupKey.reconcile_effect` — there are no other ways
* `SetupKey.handed_out_exists` — the key in the Secret exists, in every run
-/

namespace NetbirdOperator

open ControlLoop

namespace SetupKey

open Pass

variable {env : Env} {w w' : World} {o o' : CR}

/-- A live object after a pass: it has its finalizer. -/
structure Live (o' : CR) : Prop where
  deleting : o'.deleting = false
  finalizer : o'.finalizer = true

/-- **The ways a pass can end.** -/
inductive Effect (env : Env) (w w' : World) : Prop where
  | idle (hsame : w' = w)
  | kept {o o' : CR} (hcr : w.cr = some o) (hlive : o.deleting = false) (hcr' : w'.cr = some o')
      (ho : Live o') (hid : o'.status.setupKeyID = o.status.setupKeyID)
      (hkeys : w'.keys = w.keys ∨
        ∃ id key, o.status.setupKeyID = some id ∧ w'.keys = w.keys.update id key)
      (hsecret : w'.secret = w.secret)
  | interrupted {o o' : CR} {key : Key} (hcr : w.cr = some o) (hlive : o.deleting = false)
      (hcr' : w'.cr = some o') (ho : Live o')
      (hid : o'.status.setupKeyID = o.status.setupKeyID ∨
        o'.status.setupKeyID = some w.keys.next)
      (hkeys : w'.keys = w.keys.create key)
      (hsecret : w'.secret = w.secret ∨ w'.secret = some env.plainKey)
      (hfault : ∃ c, env.fault c ≠ none)
  | rotated {o o' : CR} {key : Key} (hcr : w.cr = some o) (hlive : o.deleting = false)
      (hcr' : w'.cr = some o') (ho : Live o') (hid : o'.status.setupKeyID = some w.keys.next)
      (hkeys : w'.keys = Ledger.without (w.keys.create key) o.status.setupKeyID)
      (hsecret : w'.secret = some env.plainKey)
  | deleted {o : CR} (hcr : w.cr = some o) (hdel : o.deleting = true)
      (hcr' : w'.cr = some o ∨ w'.cr = none)
      (hkeys : w'.keys = Ledger.without w.keys o.status.setupKeyID)

/-! ### The check of the recorded key -/

/-- The check leaves the world as it is, unless it finds the key up to date and sets its groups. -/
theorem upToDate_spec (env : Env) (o : CR) (autoGroupIDs : List String) (w : World) :
    Triple (fun w' => w' = w) (upToDate env o autoGroupIDs)
      (fun ok w' => w' = w ∨ ok = true ∧ ∃ id key, o.status.setupKeyID = some id ∧
        w' = { w with keys := w.keys.update id key })
      fun _ w' => w' = w := by
  rw [upToDate]
  cases o.status.setupKeyID with
  | none => exact fun _ h => .inl h
  | some id =>
    refine Triple.bind (Q := fun _ w' => w' = w) ?_ fun key => ?_
    · exact Triple.bind (call_triple fun _ _ h => h) fun _ => Triple.read (Q := fun _ w' => w' = w)
    cases key with
    | none => exact fun _ h => .inl h
    | some key =>
      dsimp only
      cases key.state with
      | overused => exact fun _ h => h
      | other name => exact fun _ h => .inl h
      | valid =>
        refine Triple.bind (call_triple fun _ _ h => h) fun _ => ?_
        refine Triple.bind (Triple.read (Q := fun _ w' => w' = w)) fun secret => ?_
        cases secret with
        | none => exact fun _ h => .inl h
        | some storedKey =>
          dsimp only
          split
          · refine Triple.bind (Q := fun _ w' => ∃ i key', some id = some i ∧
              w' = { w with keys := w.keys.update i key' }) ?_ fun _ w' h => .inr ⟨rfl, h⟩
            refine Triple.bind (call_triple fun _ _ h => h) fun _ => ?_
            refine Triple.bind (Triple.read (Q := fun _ w' => w' = w)) fun found => ?_
            cases found with
            | none => exact fun _ h => h
            | some key' =>
              rintro w' rfl
              exact ⟨id, _, rfl, rfl⟩
          · exact fun _ h => .inl h

/-! ### The rotation -/

/-- The world once a new key is minted and on record. -/
def withMinted (w : World) (o : CR) (key : Key) : World :=
  { w with
    cr := some (withKey o w.keys.next)
    keys := w.keys.create key
    minted := w.minted ++ [w.keys.next] }

theorem patch_of_some {c : Call} {f : Fault} (h : env.fault c = some f) (w : World) :
    patch env c o w = (.error (.api c f), w) := bind_of_error (call_of_some h w)

/-- The end of a rotation writes the status or does not. -/
theorem patchReady_cr (env : Env) (hfin : o.finalizer = true) (w : World)
    (hcr : w.cr = some o) :
    ∃ o', ((do patch env .patchReady (asReady o); pure ⟨some resyncInterval⟩ : M Result) w).2 =
      { w with cr := some o' } ∧ (o' = o ∨ o' = asReady o) := by
  have hfin' : (asReady o).finalizer = true := hfin
  cases hpatch : env.fault .patchReady with
  | none => exact ⟨asReady o, by rw [bind_of_ok (patch_of_none hpatch hfin' w)]; rfl, .inr rfl⟩
  | some f =>
    refine ⟨o, ?_, .inl rfl⟩
    rw [bind_of_error (patch_of_some hpatch w), ← hcr]

theorem handOver_effect {key : Key} (hcr : w.cr = some o) (hlive : o.deleting = false)
    (hfin : o'.finalizer = true) (hdel : o'.deleting = false) {w₀ : World}
    (hkeys : w₀.keys = w.keys) (hsecret : w₀.secret = w.secret) :
    Effect env w (handOver env (withKey o' w₀.keys.next) o.status.setupKeyID
      (withMinted w₀ o' key)).2 := by
  rw [hkeys]
  have hfin' : (withKey o' w.keys.next).finalizer = true := hfin
  have hlive' : ∀ o'', o'' = withKey o' w.keys.next ∨ o'' = asReady (withKey o' w.keys.next) →
      Live o'' ∧ o''.status.setupKeyID = some w.keys.next := by
    rintro o'' (rfl | rfl) <;> exact ⟨⟨hdel, hfin⟩, rfl⟩
  have hcr₀ : (withMinted w₀ o' key).cr = some (withKey o' w.keys.next) := by
    rw [withMinted, hkeys]
  have hkeys₀ : (withMinted w₀ o' key).keys = w.keys.create key := by rw [withMinted, hkeys]
  rw [handOver]
  cases happly : env.fault .applySecret with
  | some f =>
    rw [bind_of_error (call_of_some happly _)]
    exact .interrupted hcr hlive hcr₀ (hlive' _ (.inl rfl)).1 (.inr rfl) hkeys₀ (.inl hsecret)
      ⟨.applySecret, by simp [happly]⟩
  | none =>
    rw [bind_of_ok (call_of_none happly _), bind_of_ok (modify_apply _ _)]
    cases hold : env.fault .deleteOldKey with
    | none =>
      rw [bind_of_ok (deleteOldKey_of_none hold _ _)]
      obtain ⟨o'', hw', ho''⟩ := patchReady_cr env hfin'
        { (withMinted w₀ o' key) with
          secret := some env.plainKey
          keys := Ledger.without (withMinted w₀ o' key).keys o.status.setupKeyID } hcr₀
      rw [hw']
      exact .rotated hcr hlive rfl (hlive' _ ho'').1 (hlive' _ ho'').2 (by rw [hkeys₀]) rfl
    | some f =>
      cases hrec : o.status.setupKeyID with
      | none =>
        rw [deleteOldKey, bind_of_ok (pure_apply _ _)]
        obtain ⟨o'', hw', ho''⟩ := patchReady_cr env hfin'
          { (withMinted w₀ o' key) with secret := some env.plainKey } hcr₀
        rw [hw']
        exact .rotated hcr hlive rfl (hlive' _ ho'').1 (hlive' _ ho'').2
          (by rw [hrec]; exact hkeys₀) rfl
      | some id =>
        rw [deleteOldKey, deleteKey, bind_of_error (bind_of_error (call_of_some hold _))]
        exact .interrupted hcr hlive hcr₀ (hlive' _ (.inl rfl)).1 (.inr rfl) hkeys₀ (.inr rfl)
          ⟨.deleteOldKey, by simp [hold]⟩

theorem rotate_effect (hcr : w.cr = some o) (hlive : o.deleting = false) {w₀ : World}
    (hcr₀ : w₀.cr = some o') (hfin : o'.finalizer = true) (hdel : o'.deleting = false)
    (hid : o'.status.setupKeyID = o.status.setupKeyID) (hkeys : w₀.keys = w.keys)
    (hsecret : w₀.secret = w.secret) (autoGroupIDs : List String) :
    Effect env w (rotate env o' autoGroupIDs w₀).2 := by
  cases hcreate : env.fault .createKey with
  | some f =>
    have hfail : createKey env (keyRequest env o'.spec autoGroupIDs) w₀ =
        (.error (.api .createKey f), w₀) := bind_of_error (call_of_some hcreate w₀)
    rw [rotate, bind_of_error hfail]
    exact .kept hcr hlive hcr₀ ⟨hdel, hfin⟩ hid (.inl hkeys) hsecret
  | none =>
    cases hpatch : env.fault .patchKeyID with
    | none =>
      rw [rotate_of_minted hcreate hpatch hfin, hid]
      exact handOver_effect hcr hlive hfin hdel hkeys hsecret
    | some f =>
      have hmint : createKey env (keyRequest env o'.spec autoGroupIDs) w₀ =
          (.ok w₀.keys.next, { w₀ with
            keys := w₀.keys.create (keyRequest env o'.spec autoGroupIDs)
            minted := w₀.minted ++ [w₀.keys.next] }) := by
        rw [createKey, bind_of_ok (call_of_none hcreate w₀)]
        rfl
      rw [rotate, bind_of_ok hmint, bind_of_error (patch_of_some hpatch _)]
      exact .interrupted hcr hlive hcr₀ ⟨hdel, hfin⟩ (.inl hid) (by rw [hkeys]) (.inl hsecret)
        ⟨.patchKeyID, by simp [hpatch]⟩

/-! ### A pass -/

theorem reconcileLive_effect (hcr : w.cr = some o) (hlive : o.deleting = false) :
    Effect env w (reconcileLive env o w).2 := by
  rw [reconcileLive]
  cases hpatch : env.fault .patchFinalizer with
  | some f =>
    rw [bind_of_error (patch_of_some hpatch w)]
    exact .idle rfl
  | none =>
    rw [bind_of_ok (patch_of_none hpatch rfl w)]
    have hwaits : Effect env w { w with cr := some { o with finalizer := true } } :=
      .kept hcr hlive rfl ⟨hlive, rfl⟩ rfl (.inl rfl) rfl
    refine Triple.final (P := fun w' => w' = { w with cr := some { o with finalizer := true } })
      (G := Effect env w) ?_ rfl
    rw [ensureKey]
    refine Triple.bind (Q := fun _ w' => w' = { w with cr := some { o with finalizer := true } })
      (Triple.of_unchanged (fun _ => rfl) ?_) fun autoGroupIDs => ?_
    · rintro e w' rfl
      exact hwaits
    refine Triple.bind ((upToDate_spec env _ autoGroupIDs _).conseq (fun _ h => h)
      (fun _ _ h => h) ?_) fun ok => ?_
    · rintro e w' rfl
      exact hwaits
    cases ok with
    | true =>
      rintro w' (rfl | ⟨-, id, key, hid, rfl⟩)
      · exact hwaits
      · exact .kept hcr hlive rfl ⟨hlive, rfl⟩ rfl (.inr ⟨id, key, hid, rfl⟩) rfl
    | false =>
      refine Triple.of_final fun w' h => ?_
      obtain rfl : w' = { w with cr := some { o with finalizer := true } } :=
        h.resolve_right fun h => absurd h.1 (by simp)
      have hcr₀ : ({ w with cr := some { o with finalizer := true } } : World).cr =
          some { o with finalizer := true } := rfl
      exact rotate_effect hcr hlive hcr₀ rfl hlive rfl rfl rfl autoGroupIDs

theorem deleteRecorded_of_none (h : env.fault .deleteKey = none) (o : CR) (w : World) :
    deleteRecorded env o w =
      (.ok (), { w with keys := Ledger.without w.keys o.status.setupKeyID }) := by
  rw [deleteRecorded]
  cases o.status.setupKeyID with
  | none => rfl
  | some id =>
    dsimp only
    rw [deleteKey, bind_of_ok (call_of_none h w)]
    rfl

theorem reconcileDelete_effect (hcr : w.cr = some o) (hdel : o.deleting = true) :
    Effect env w (reconcileDelete env o w).2 := by
  have hgiveUp : ∀ {w₁ : World}, deleteRecorded env o w = (.ok (), w₁) → w₁.cr = w.cr →
      w₁.keys = Ledger.without w.keys o.status.setupKeyID →
      Effect env w (reconcileDelete env o w).2 := by
    intro w₁ h hcr₁ hkeys
    rw [reconcileDelete, bind_of_ok h]
    cases hpatch : env.fault .patchRemoveFinalizer with
    | some f =>
      rw [bind_of_error (patch_of_some hpatch _)]
      exact .deleted hcr hdel (.inl (hcr₁.trans hcr)) hkeys
    | none =>
      rw [patch, bind_assoc, bind_of_ok (call_of_none hpatch _)]
      exact .deleted hcr hdel (.inr (if_pos ⟨hdel, by simp⟩)) hkeys
  cases hfault : env.fault .deleteKey with
  | none => exact hgiveUp (deleteRecorded_of_none hfault o w) rfl rfl
  | some f =>
    cases hid : o.status.setupKeyID with
    | none =>
      have hnothing : deleteRecorded env o w = (.ok (), w) := by
        rw [deleteRecorded, hid]
        rfl
      exact hgiveUp hnothing rfl (by rw [hid]; rfl)
    | some id =>
      have hfail : deleteRecorded env o w = (.error (.api .deleteKey f), w) := by
        rw [deleteRecorded, hid]
        exact bind_of_error (call_of_some hfault w)
      rw [reconcileDelete, bind_of_error hfail]
      exact .idle rfl

/-- **There are no other ways.** -/
theorem reconcile_effect (env : Env) (w : World) : Effect env w (reconcile env w).2 := by
  rw [reconcile]
  cases hget : env.fault .get with
  | some f =>
    rw [bind_of_error (call_of_some hget w)]
    exact .idle rfl
  | none =>
    rw [bind_of_ok (call_of_none hget w), bind_of_ok (read_apply _ _)]
    cases hcr : w.cr with
    | none => exact .idle rfl
    | some o =>
      dsimp only
      split
      · next hdel => exact reconcileDelete_effect hcr hdel
      · next hdel => exact reconcileLive_effect hcr (Bool.eq_false_iff.mpr hdel)

/-- A pass over an object that is being deleted, if no call fails. -/
theorem reconcile_of_deleting (hcalm : ∀ c, env.fault c = none) (hcr : w.cr = some o)
    (hdel : o.deleting = true) : (reconcile env w).2.cr = none := by
  rw [reconcile, bind_of_ok (call_of_none (hcalm _) w), bind_of_ok (read_apply _ _), hcr]
  dsimp only
  rw [if_pos hdel, reconcileDelete, bind_of_ok (deleteRecorded_of_none (hcalm _) o w), patch,
    bind_assoc, bind_of_ok (call_of_none (hcalm _) _)]
  exact if_pos ⟨hdel, by simp⟩

/-! ### The key in the Secret -/

section HandedOut

variable (text : ℕ → String)

/-- The condition on an event, for keys with these plain texts: a create is answered with the text
of the new key. Others may delete the Secret, but not write it, and any key but the one in it. -/
def Sparing (w : World) : Event → Prop
  | .reconcile env => env.plainKey = text w.keys.next
  | .foreignDelete id => w.secret ≠ some (text id)
  | .foreignSecret secret => secret = none
  | .edit _ | .delete | .foreignUpdate _ _ => True

/-- What the Secret has is the text of a key that exists. -/
def HandedOut (w : World) : Prop :=
  ∀ t, w.secret = some t → ∃ i, t = text i ∧ w.keys.Has i

/-- While the object is live, its Secret has a key that exists. The recorded id was given out. -/
structure Served (w : World) : Prop where
  handedOut : ∀ o, w.cr = some o → o.deleting = false → HandedOut text w
  issued : ∀ o id, w.cr = some o → o.status.setupKeyID = some id → id < w.keys.next

variable {text}

theorem HandedOut.mono (h : HandedOut text w) (hsecret : w'.secret = w.secret)
    (hkeys : ∀ i, w.keys.Has i → w'.keys.Has i) : HandedOut text w' := by
  intro t ht
  obtain ⟨i, hi, hhas⟩ := h t (hsecret ▸ ht)
  exact ⟨i, hi, hkeys i hhas⟩

/-- The Secret has the key that was just minted. -/
theorem handedOut_next (hplain : env.plainKey = text w.keys.next)
    (hsecret : w'.secret = some env.plainKey) (hhas : w'.keys.Has w.keys.next) :
    HandedOut text w' := by
  intro t ht
  exact ⟨w.keys.next, (Option.some.inj (hsecret.symm.trans ht)).symm.trans hplain, hhas⟩

theorem Served.reconcile (h : Served text w) (hplain : env.plainKey = text w.keys.next) :
    Served text (reconcile env w).2 := by
  cases reconcile_effect env w with
  | idle hsame =>
    rw [hsame]
    exact h
  | kept hcr hlive hcr' _ hid hkeys hsecret =>
    have hsub : (SetupKey.reconcile env w).2.keys.next = w.keys.next ∧
        ∀ i, w.keys.Has i → (SetupKey.reconcile env w).2.keys.Has i := by
      rcases hkeys with hkeys | ⟨id, key, -, hkeys⟩ <;> rw [hkeys]
      · exact ⟨rfl, fun _ hi => hi⟩
      · exact ⟨rfl, fun _ hi => Store.has_update.mpr hi⟩
    refine ⟨fun _ _ _ => (h.handedOut _ hcr hlive).mono hsecret hsub.2, fun o'' id ho hid' => ?_⟩
    obtain rfl := Option.some.inj (hcr'.symm.trans ho)
    rw [hsub.1]
    exact h.issued _ id hcr (hid ▸ hid')
  | interrupted hcr hlive hcr' _ hid hkeys hsecret _ =>
    refine ⟨fun _ _ _ => ?_, fun o'' id ho hid' => ?_⟩
    · rcases hsecret with hsecret | hsecret
      · exact (h.handedOut _ hcr hlive).mono hsecret fun i hi => by
          rw [hkeys]
          exact hi.create _
      · exact handedOut_next hplain hsecret (by rw [hkeys]; exact Store.has_create_next _ _)
    · obtain rfl := Option.some.inj (hcr'.symm.trans ho)
      rw [hkeys]
      show id < w.keys.next + 1
      rcases hid with hid | hid
      · exact Nat.lt_succ_of_lt (h.issued _ id hcr (hid ▸ hid'))
      · rw [Option.some.inj (hid'.symm.trans hid)]
        exact Nat.lt_succ_self _
  | rotated hcr hlive hcr' _ hid hkeys hsecret =>
    refine ⟨fun _ _ _ => handedOut_next hplain hsecret ?_, fun o'' id ho hid' => ?_⟩
    · -- The old key was given out before, so it is not the one that is handed out.
      obtain ⟨e, he, hide⟩ := Store.has_create_next w.keys _
      rw [hkeys]
      refine ⟨e, Ledger.mem_without.mpr ⟨he, fun hold => ?_⟩, hide⟩
      have hlt := h.issued _ _ hcr hold
      omega
    · obtain rfl := Option.some.inj (hcr'.symm.trans ho)
      rw [hkeys, Ledger.next_without, Option.some.inj (hid'.symm.trans hid)]
      exact Nat.lt_succ_self _
  | deleted hcr hdel hcr' hkeys =>
    refine ⟨fun o' ho hlive => ?_, fun o' id ho hid => ?_⟩ <;>
      rcases hcr' with hcr' | hcr' <;> cases hcr'.symm.trans ho
    · exact absurd (hdel.symm.trans hlive) (by simp)
    · rw [hkeys, Ledger.next_without]
      exact h.issued _ id hcr hid

theorem Served.step (h : Served text w) {ev : Event} (hev : Sparing text w ev) :
    Served text (step w ev) := by
  cases ev with
  | reconcile env => exact h.reconcile hev
  | edit spec =>
    refine ⟨fun o ho hlive => ?_, fun o id ho hid => ?_⟩ <;>
      obtain ⟨o₀, ho₀, rfl⟩ := Option.map_eq_some_iff.mp ho
    · exact h.handedOut o₀ ho₀ hlive
    · exact h.issued o₀ id ho₀ hid
  | delete =>
    refine ⟨fun o ho hlive => ?_, fun o id ho hid => ?_⟩ <;>
      obtain ⟨o₀, ho₀, rfl⟩ := exists_of_marked ho
    · exact absurd hlive (by simp)
    · exact h.issued o₀ id ho₀ hid
  | foreignUpdate id key =>
    refine ⟨fun o ho hlive => ?_, h.issued⟩
    exact (h.handedOut o ho hlive).mono rfl fun _ hi => Store.has_update.mpr hi
  | foreignDelete id =>
    refine ⟨fun o ho hlive t ht => ?_, h.issued⟩
    obtain ⟨i, hi, hhas⟩ := h.handedOut o ho hlive t ht
    refine ⟨i, hi, Store.has_delete.mpr ⟨hhas, ?_⟩⟩
    rintro rfl
    exact hev (hi ▸ ht)
  | foreignSecret secret =>
    refine ⟨fun o ho hlive t ht => ?_, h.issued⟩
    exact absurd (hev.symm.trans ht) (by simp)

/-- **The key in the Secret exists.** Whatever fails in the passes over a SetupKey, and however
often they are interrupted, the Secret of the live object never has a key that is gone, as long as
others do not delete that key or write to the Secret. -/
theorem handed_out_exists (text : ℕ → String) (ns name : String) (spec : Spec) (keys : Store Key)
    (es : List Event)
    (h : Along es fun pre ev => Sparing text (run step (initial ns name spec keys none) pre) ev)
    (o : CR) (ho : (run step (initial ns name spec keys none) es).cr = some o)
    (hlive : o.deleting = false) (t : String)
    (ht : (run step (initial ns name spec keys none) es).secret = some t) :
    ∃ i, t = text i ∧ (run step (initial ns name spec keys none) es).keys.Has i := by
  have hinitial : Served text (initial ns name spec keys none) := by
    refine ⟨fun _ _ _ t ht => (by cases ht), fun o id ho hid => ?_⟩
    obtain rfl := Option.some.inj ho
    cases hid
  exact (run_invariant (C := Sparing text) (I := Served text) h hinitial
    fun _ _ hs hev => hs.step hev).handedOut o ho hlive t ht

/-- A pass whose create is answered with this text. -/
def answered (plain : String) (fault : Call → Option Fault) : Env :=
  { calm with plainKey := plain, shownKey := plain, fault := fault }

/-- A key is minted and expires; its rotation stops before the Secret. -/
def stoppedRotation : List Event :=
  [.reconcile (answered "key-0" fun _ => none),
    .foreignUpdate 0 { keyRequest calm { name := "router", ephemeral := true } [] with
      state := .other "expired" },
    .reconcile (answered "key-1" fun c => if c = .applySecret then some .other else none)]

/-- The Secret has the first key, which is still there beside the second. -/
theorem handed_out_exists_stopped :
    ∃ i, "key-0" = "key-" ++ toString i ∧ (after stoppedRotation).keys.Has i :=
  handed_out_exists (fun i => "key-" ++ toString i) "net" "router"
    { name := "router", ephemeral := true } .empty stoppedRotation
    (along_cons.mpr ⟨by unfold Sparing; decide +kernel, along_cons.mpr ⟨trivial,
      along_cons.mpr ⟨by unfold Sparing; decide +kernel, along_nil⟩⟩⟩)
    ((after stoppedRotation).cr.getD ⟨"", "", 0, false, false, ⟨"", false, false, none, []⟩, {}⟩)
    (by decide +kernel) (by decide +kernel) "key-0" (by decide +kernel)

end HandedOut

end SetupKey

end NetbirdOperator
