import NetbirdOperator.ControlLoop.Run
import NetbirdOperator.Mirror

/-!
# What `Ready` says

An object of a mirrored kind is `Ready` for its generation. What does a reader learn from that? The
condition was written by a pass that applied the specification the object has now, since an edit
makes another generation. But the account has gone on since: later passes over the object may have
failed in the middle, and the other objects have had theirs.

For a kind whose objects have their entries of the account to themselves the answer is: under the
ids on record there is what the specification asks for. `PrivateKind` is such a kind. What it has to
say about itself is how an apply and a deletion write to the account; the rest is about the
reconciler, and done here once.

Other clients may create entries, and delete any. After a deletion there may be nothing under the
recorded ids until the next pass, but never anything else. Updates by other clients are left out of
the runs, as they change what an object stands for behind its back.

## Main results

* `Mirror.PrivateKind.truthful_of_run` — in every run
-/

namespace NetbirdOperator

open ControlLoop

namespace Mirror

/-! ### The status a pass leaves -/

section Status

variable {S R A C : Type} {fault : Call C → Option Fault} {m : Mirror S R A C}
  {w : World S R A} {uid : ℕ} {o : Object S (Status R)}

/-- The status of an object after a pass that applied it with that outcome: the one it had, one that
says what the object waits for, or one with the new ids. -/
inductive Reported (o : Object S (Status R)) (out : Except (Err C) R) :
    Object S (Status R) → Prop
  | same : Reported o out (withFinalizer o)
  | waiting (msg : String) : Reported o out (asNotReady (withFinalizer o) msg)
  | ready (r : R) (hout : out = .ok r) : Reported o out (asReady (withFinalizer o) r)

theorem reported_cases (fault : Call C → Option Fault) (o : Object S (Status R))
    (out : Except (Err C) R) : Reported o out (reported fault o out) := by
  unfold reported
  split
  · split
    · exact .ready _ rfl
    · exact .same
  · split
    · exact .waiting _
    · exact .same
  · exact .same

end Status

/-! ### Kinds with entries of their own -/

/-- A mirrored kind whose objects have entries of the account to themselves. `key` reads off the
recorded ids which entry it is, `get` looks it up, and `Issued` says of a key that it will not be
given out again. `Asks env o i x` says that `x` under `i` is what the specification of `o` asks for,
as a pass with the inputs `env` resolves it. -/
structure PrivateKind where
  {S R A C ι α K : Type}
  fault : ι → Call C → Option Fault
  mirror : ι → Mirror S R A C
  fresh : R
  WellFormed : R → Prop
  key : R → Option K
  get : A → K → Option α
  Issued : A → K → Prop
  Asks : ι → Object S (Status R) → K → α → Prop
  asks_congr : ∀ {env o o' i x}, o'.ns = o.ns → o'.name = o.name → o'.spec = o.spec →
    Asks env o i x → Asks env o' i x
  wellFormed_fresh : WellFormed fresh
  key_fresh : key fresh = none
  /-- An apply that fails leaves the entries as they were. -/
  failed : ∀ env o a e, WellFormed o.status.recorded → ((mirror env).apply o a).1 = .error e →
    ∀ i, (Issued a i → Issued ((mirror env).apply o a).2 i) ∧
      get ((mirror env).apply o a).2 i = get a i
  /-- One that returns has written the entry it hands back, which is that of the object or a new
  one, and no other; it has written what is asked for. -/
  returned : ∀ env o a r, WellFormed o.status.recorded → ((mirror env).apply o a).1 = .ok r →
    WellFormed r ∧ ∃ j x, key r = some j ∧ (key o.status.recorded = some j ∨ ¬ Issued a j) ∧
      Issued ((mirror env).apply o a).2 j ∧ get ((mirror env).apply o a).2 j = some x ∧
      Asks env o j x ∧ ∀ i, (Issued a i → Issued ((mirror env).apply o a).2 i) ∧
        (i ≠ j → get ((mirror env).apply o a).2 i = get a i)
  /-- A deletion changes the entry of its object at most. -/
  deleted : ∀ env uid objects o a i, (Issued a i → Issued ((mirror env).del uid objects o a).2 i) ∧
    (get ((mirror env).del uid objects o a).2 i = get a i ∨ key o.status.recorded = some i)

namespace PrivateKind

variable (k : PrivateKind)

/-- What happens: a pass, a user's change, and what other clients do to the account. -/
inductive Event where
  | reconcile (uid : ℕ) (env : k.ι)
  | user (ev : UserEvent k.S)
  | account (a : k.A)

/-- The effect of an event. -/
def step (w : World k.S k.R k.A) : k.Event → World k.S k.R k.A
  | .reconcile uid env => (Mirror.reconcile (k.fault env) (k.mirror env) uid w).2
  | .user ev => { w with objects := w.objects.submit { recorded := k.fresh } ev }
  | .account a => { w with account := a }

/-- No object of the kind, and any account. -/
def start (a : k.A) : World k.S k.R k.A := ⟨.empty, a⟩

/-- Other clients leave the entries that are there as they are, or delete them unless nothing is
lost. -/
structure Spares (lossless : Prop) (a a' : k.A) : Prop where
  issued : ∀ i, k.Issued a i → k.Issued a' i
  kept : ∀ i, k.Issued a i → k.get a' i = k.get a i ∨ (¬ lossless ∧ k.get a' i = none)

/-- The condition on an event: a pass has inputs of `E`, and other clients update nothing. -/
def Allowed (E : k.ι → Prop) (lossless : Prop) (w : World k.S k.R k.A) : k.Event → Prop
  | .reconcile _ env => E env
  | .user _ => True
  | .account a => k.Spares lossless w.account a

variable {k}

/-- The object is `Ready` for its generation. -/
def isReady (o : Object k.S (Status k.R)) : Prop :=
  o.status.ready.any Condition.status = true ∧ o.status.observedGeneration = o.generation

/-- **What `Ready` says is so**: an entry is on record for the object, there is nothing under it
but what its specification asks for, and if nothing was lost it is there. -/
def Truthful (E : k.ι → Prop) (lossless : Prop) (a : k.A) (o : Object k.S (Status k.R)) : Prop :=
  ∃ i, k.key o.status.recorded = some i ∧
    (∀ x, k.get a i = some x → ∃ env, E env ∧ k.Asks env o i x) ∧
    (lossless → ∃ x, k.get a i = some x)

/-- What every state of a run has in common. -/
structure Invariant (E : k.ι → Prop) (lossless : Prop) (w : World k.S k.R k.A) : Prop where
  truthful : ∀ e ∈ w.objects, e.val.deleting = false → isReady e.val →
    Truthful E lossless w.account e.val
  issued : ∀ e ∈ w.objects, ∀ i, k.key e.val.status.recorded = some i → k.Issued w.account i
  exclusive : ∀ e ∈ w.objects, ∀ f ∈ w.objects, ∀ i, k.key e.val.status.recorded = some i →
    k.key f.val.status.recorded = some i → e = f
  observed : ∀ e ∈ w.objects, e.val.status.observedGeneration ≤ e.val.generation
  wellFormed : ∀ e ∈ w.objects, k.WellFormed e.val.status.recorded

variable {E : k.ι → Prop} {lossless : Prop} {w : World k.S k.R k.A} {a' : k.A}

/-- An object whose entry is as it was. -/
theorem Truthful.of_same {a : k.A} {o : Object k.S (Status k.R)} (h : Truthful E lossless a o)
    (hsame : ∀ i, k.key o.status.recorded = some i → k.get a' i = k.get a i) :
    Truthful E lossless a' o := by
  obtain ⟨i, hkey, hasks, hpresent⟩ := h
  refine ⟨i, hkey, ?_, ?_⟩
  · rwa [hsame i hkey]
  · rwa [hsame i hkey]

theorem Truthful.of_asks {a : k.A} {o : Object k.S (Status k.R)} {i : k.K} {x : k.α} {env : k.ι}
    (hkey : k.key o.status.recorded = some i) (hget : k.get a i = some x) (henv : E env)
    (hasks : k.Asks env o i x) : Truthful E lossless a o := by
  refine ⟨i, hkey, fun y hy => ?_, fun _ => ⟨x, hget⟩⟩
  obtain rfl := Option.some.inj (hget.symm.trans hy)
  exact ⟨env, henv, hasks⟩

theorem Truthful.withFinalizer {a : k.A} {o : Object k.S (Status k.R)}
    (h : Truthful E lossless a o) : Truthful E lossless a (Mirror.withFinalizer o) := by
  obtain ⟨i, hkey, hasks, hpresent⟩ := h
  refine ⟨i, hkey, fun x hx => ?_, hpresent⟩
  obtain ⟨env, henv, hx⟩ := hasks x hx
  exact ⟨env, henv, k.asks_congr (o := o) rfl rfl rfl hx⟩

/-- **What an apply does to an entry**: it is as it was, or it is that of the object or new, and has
what is asked for. -/
theorem entry_of_apply (env : k.ι) {o : Object k.S (Status k.R)}
    (hwf : k.WellFormed o.status.recorded) (a : k.A) (i : k.K) :
    (k.Issued a i → k.Issued ((k.mirror env).apply o a).2 i) ∧
      (k.get ((k.mirror env).apply o a).2 i = k.get a i ∨
        (k.key o.status.recorded = some i ∨ ¬ k.Issued a i) ∧
          ∃ x, k.get ((k.mirror env).apply o a).2 i = some x ∧ k.Asks env o i x) := by
  cases hout : ((k.mirror env).apply o a).1 with
  | error e => exact (k.failed env o a e hwf hout i).imp_right .inl
  | ok r =>
    obtain ⟨-, j, x, -, hnew, -, hx, hasks, hframe⟩ := k.returned env o a r hwf hout
    refine ⟨(hframe i).1, ?_⟩
    by_cases hij : i = j
    · subst hij
      exact .inr ⟨hnew, x, hx, hasks⟩
    · exact .inl ((hframe i).2 hij)

/-- An entry that belongs to another object is not written by a pass over `o`. -/
theorem Invariant.get_of_other (h : Invariant E lossless w) {uid : ℕ}
    {o : Object k.S (Status k.R)} (ho : (⟨uid, o⟩ : Entry (Object k.S (Status k.R))) ∈ w.objects)
    {e : Entry (Object k.S (Status k.R))} (he : e ∈ w.objects) (hne : e.id ≠ uid) {i : k.K}
    (hkey : k.key e.val.status.recorded = some i) :
    k.Issued w.account i ∧ k.key o.status.recorded ≠ some i := by
  refine ⟨h.issued e he i hkey, fun hown => hne ?_⟩
  rw [h.exclusive e he ⟨uid, o⟩ ho i hkey hown]

/-- A pass over a live object. -/
theorem Invariant.applied (h : Invariant E lossless w) {uid : ℕ} {o o' : Object k.S (Status k.R)}
    {env : k.ι} (hget : w.objects.get uid = some o) (henv : E env)
    (hreported : Reported o ((k.mirror env).apply (withFinalizer o) w.account).1 o') :
    Invariant E lossless
      ⟨w.objects.update uid o', ((k.mirror env).apply (withFinalizer o) w.account).2⟩ := by
  have ho := Store.get_eq_some.mp hget
  have hwf : k.WellFormed (withFinalizer o).status.recorded := h.wellFormed ⟨uid, o⟩ ho
  have hreturned := fun r => k.returned env (withFinalizer o) w.account r hwf
  have happlied := entry_of_apply env hwf w.account
  generalize (k.mirror env).apply (withFinalizer o) w.account = applied at *
  obtain ⟨out, a⟩ := applied
  -- Entries of other objects are as they were.
  have hothers : ∀ e ∈ w.objects, e.id ≠ uid → ∀ i, k.key e.val.status.recorded = some i →
      k.get a i = k.get w.account i := by
    intro e he hne i hkey
    obtain ⟨hissued, hother⟩ := h.get_of_other ho he hne hkey
    exact (happlied i).2.resolve_right fun hwrote => hwrote.1.elim hother fun hnew => hnew hissued
  -- The ids on record for the object are the old ones, or of an entry that is its own or new.
  have hown : ∀ i, k.key o'.status.recorded = some i →
      k.Issued a i ∧ (k.key o.status.recorded = some i ∨ ¬ k.Issued w.account i) := by
    intro i hi
    cases hreported with
    | same => exact ⟨(happlied i).1 (h.issued _ ho i hi), .inl hi⟩
    | waiting msg => exact ⟨(happlied i).1 (h.issued _ ho i hi), .inl hi⟩
    | ready r hout =>
      obtain ⟨-, j, x, hj, hnew, hissued, -⟩ := hreturned r hout
      obtain rfl := Option.some.inj (hj.symm.trans hi)
      exact ⟨hissued, hnew⟩
  have hfree : ∀ e ∈ w.objects, e.id ≠ uid → ∀ i, k.key e.val.status.recorded = some i →
      k.key o'.status.recorded ≠ some i := by
    intro e he hne i hkey hi
    obtain ⟨hissued, hother⟩ := h.get_of_other ho he hne hkey
    exact (hown i hi).2.elim hother fun hnew => hnew hissued
  refine ⟨fun e he hlive hready => ?_, fun e he i hi => ?_, fun e he f hf i hi hi' => ?_,
    fun e he => ?_, fun e he => ?_⟩
  · rcases Store.mem_update.mp he with ⟨he, hne⟩ | ⟨rfl, -⟩
    · exact (h.truthful e he hlive hready).of_same (hothers e he hne)
    · cases hreported with
      | same =>
        have hbefore := h.truthful ⟨uid, o⟩ ho hlive hready
        obtain ⟨i, hkey, -⟩ := id hbefore
        rcases (happlied i).2 with hsame | ⟨-, x, hx, hasks⟩
        · refine (hbefore.of_same fun j hj => ?_).withFinalizer
          rwa [Option.some.inj (hj.symm.trans hkey)]
        · exact .of_asks hkey hx henv hasks
      | waiting msg => exact absurd hready.1 (by simp [asNotReady, markFalse])
      | ready r hout =>
        obtain ⟨-, i, x, hkey, -, -, hx, hasks, -⟩ := hreturned r hout
        exact .of_asks hkey hx henv (k.asks_congr (o := withFinalizer o) rfl rfl rfl hasks)
  · rcases Store.mem_update.mp he with ⟨he, hne⟩ | ⟨rfl, -⟩
    · exact (happlied i).1 (h.issued e he i hi)
    · exact (hown i hi).1
  · rcases Store.mem_update.mp he with ⟨he, hne⟩ | ⟨rfl, -⟩ <;>
      rcases Store.mem_update.mp hf with ⟨hf, hne'⟩ | ⟨rfl, -⟩
    · exact h.exclusive e he f hf i hi hi'
    · exact absurd hi' (hfree e he hne i hi)
    · exact absurd hi (hfree f hf hne' i hi')
    · rfl
  · rcases Store.mem_update.mp he with ⟨he, -⟩ | ⟨rfl, -⟩
    · exact h.observed e he
    · have hobserved := h.observed ⟨uid, o⟩ ho
      cases hreported with
      | same => exact hobserved
      | waiting msg => exact hobserved
      | ready r hout => exact Int.le_refl _
  · rcases Store.mem_update.mp he with ⟨he, -⟩ | ⟨rfl, -⟩
    · exact h.wellFormed e he
    · cases hreported with
      | same => exact hwf
      | waiting msg => exact hwf
      | ready r hout => exact (hreturned r hout).1

/-- The account changes, and some objects go; the entries of those that stay live are as they were,
or lost. -/
theorem Invariant.shrink (h : Invariant E lossless w) {objects : Store (Object k.S (Status k.R))}
    (hobjects : ∀ e ∈ objects, e ∈ w.objects)
    (hissued : ∀ i, k.Issued w.account i → k.Issued a' i)
    (hkept : ∀ e ∈ objects, e.val.deleting = false → ∀ i, k.key e.val.status.recorded = some i →
      k.get a' i = k.get w.account i ∨ (¬ lossless ∧ k.get a' i = none)) :
    Invariant E lossless ⟨objects, a'⟩ := by
  refine ⟨fun e he hlive hready => ?_, fun e he i hi => hissued i (h.issued e (hobjects e he) i hi),
    fun e he f hf => h.exclusive e (hobjects e he) f (hobjects f hf),
    fun e he => h.observed e (hobjects e he), fun e he => h.wellFormed e (hobjects e he)⟩
  have htruthful := h.truthful e (hobjects e he) hlive hready
  obtain ⟨i, hkey, -, -⟩ := id htruthful
  rcases hkept e he hlive i hkey with hsame | ⟨hlossy, hnone⟩
  · refine htruthful.of_same fun j hj => ?_
    rwa [Option.some.inj (hj.symm.trans hkey)]
  · exact ⟨i, hkey, fun x hx => absurd (hnone.symm.trans hx) (by simp), fun hl => absurd hl hlossy⟩

/-- A pass over an object that is being deleted. -/
theorem Invariant.deleted (h : Invariant E lossless w) {uid : ℕ} {o : Object k.S (Status k.R)}
    {env : k.ι} (hget : w.objects.get uid = some o) (hdel : o.deleting = true)
    {objects : Store (Object k.S (Status k.R))} (hobjects : ∀ e ∈ objects, e ∈ w.objects) :
    Invariant E lossless ⟨objects, ((k.mirror env).del uid w.objects o w.account).2⟩ := by
  have ho := Store.get_eq_some.mp hget
  refine h.shrink hobjects (fun i => (k.deleted env uid w.objects o w.account i).1) ?_
  intro e he hlive i hkey
  have hne : e.id ≠ uid := by
    rintro rfl
    have hsame : e.val = o := Store.val_eq_of_get hget (hobjects e he) rfl
    exact absurd (hsame ▸ hlive) (by simp [hdel])
  have hother := (h.get_of_other ho (hobjects e he) hne hkey).2
  exact .inl ((k.deleted env uid w.objects o w.account i).2.resolve_right hother)

theorem Invariant.reconcile (h : Invariant E lossless w) (uid : ℕ) {env : k.ι} (henv : E env) :
    Invariant E lossless (Mirror.reconcile (k.fault env) (k.mirror env) uid w).2 := by
  cases hget : w.objects.get uid with
  | none =>
    rw [reconcile_gone hget]
    exact h
  | some o =>
    cases hdel : o.deleting with
    | false =>
      rw [reconcile_live_eq (k.fault env) (k.mirror env) hget hdel]
      split
      · exact h.applied hget henv (reported_cases ..)
      · exact h
    | true =>
      have heffect : Effect (k.mirror env) w uid
          (Mirror.reconcile (k.fault env) (k.mirror env) uid w).2 := reconcile_effect
      generalize (Mirror.reconcile (k.fault env) (k.mirror env) uid w).2 = w' at heffect ⊢
      cases heffect with
      | idle => exact h
      | applied hget' hlive _ _ =>
        obtain rfl := Option.some.inj (hget.symm.trans hget')
        exact absurd (hdel.symm.trans hlive) (by simp)
      | kept hget' _ =>
        obtain rfl := Option.some.inj (hget.symm.trans hget')
        exact h.deleted hget hdel fun _ he => he
      | released hget' _ _ =>
        obtain rfl := Option.some.inj (hget.symm.trans hget')
        exact h.deleted hget hdel fun _ he => (Store.mem_delete.mp he).1

/-- An edit makes another generation, which the object is not `Ready` for. -/
theorem Invariant.user (h : Invariant E lossless w) (ev : UserEvent k.S) :
    Invariant E lossless { w with objects := w.objects.submit { recorded := k.fresh } ev } := by
  -- What is known of the object with the same uid before the event.
  have horigin : ∀ e ∈ w.objects.submit { recorded := k.fresh } ev,
      (e.val.status = { recorded := k.fresh }) ∨ ∃ f ∈ w.objects, f.id = e.id ∧
        e.val.status = f.val.status ∧ f.val.generation ≤ e.val.generation ∧
        (e.val.deleting = false → isReady e.val → e.val = f.val) := by
    intro e he
    rcases w.objects.submit_cases { recorded := k.fresh } ev with
        hs | ⟨ns, name, spec, -, hs⟩ | ⟨f, hf, spec, -, hs⟩ | ⟨f, hf, -, -, hs⟩ |
        ⟨f, hf, -, -, hs⟩ <;>
      rw [hs] at he
    · exact .inr ⟨e, he, rfl, rfl, Nat.le_refl _, fun _ _ => rfl⟩
    · rcases Store.mem_create.mp he with he | rfl
      · exact .inr ⟨e, he, rfl, rfl, Nat.le_refl _, fun _ _ => rfl⟩
      · exact .inl rfl
    · rcases Store.mem_update.mp he with ⟨he, -⟩ | ⟨rfl, -⟩
      · exact .inr ⟨e, he, rfl, rfl, Nat.le_refl _, fun _ _ => rfl⟩
      · refine .inr ⟨f, hf, rfl, rfl, Nat.le_succ _, fun _ hready => absurd hready.2 ?_⟩
        have hobserved := h.observed f hf
        push_cast
        omega
    · rcases Store.mem_update.mp he with ⟨he, -⟩ | ⟨rfl, -⟩
      · exact .inr ⟨e, he, rfl, rfl, Nat.le_refl _, fun _ _ => rfl⟩
      · exact .inr ⟨f, hf, rfl, rfl, Nat.le_refl _, fun hlive => absurd hlive (by simp)⟩
    · exact .inr ⟨e, (Store.mem_delete.mp he).1, rfl, rfl, Nat.le_refl _, fun _ _ => rfl⟩
  have hkey : ∀ e ∈ w.objects.submit { recorded := k.fresh } ev, ∀ i,
      k.key e.val.status.recorded = some i → ∃ f ∈ w.objects, f.id = e.id ∧
        k.key f.val.status.recorded = some i := by
    intro e he i hi
    rcases horigin e he with hfresh | ⟨f, hf, hid, hstatus, -, -⟩
    · rw [hfresh, k.key_fresh] at hi
      exact absurd hi (by simp)
    · exact ⟨f, hf, hid, hstatus ▸ hi⟩
  refine ⟨fun e he hlive hready => ?_, fun e he i hi => ?_, fun e he f hf i hi hi' => ?_,
    fun e he => ?_, fun e he => ?_⟩
  · rcases horigin e he with hfresh | ⟨f, hf, -, -, -, hsame⟩
    · rw [isReady, hfresh] at hready
      exact absurd hready.1 (by simp)
    · have heq := hsame hlive hready
      rw [heq] at hlive hready ⊢
      exact h.truthful f hf hlive hready
  · obtain ⟨f, hf, -, hi⟩ := hkey e he i hi
    exact h.issued f hf i hi
  · obtain ⟨e', he', hid, hi⟩ := hkey e he i hi
    obtain ⟨f', hf', hid', hi'⟩ := hkey f hf i hi'
    refine Store.eq_of_id_eq he hf ?_
    rw [← hid, ← hid', h.exclusive e' he' f' hf' i hi hi']
  · rcases horigin e he with hfresh | ⟨f, hf, -, hstatus, hle, -⟩
    · rw [hfresh]
      show (-1 : ℤ) ≤ _
      omega
    · rw [hstatus]
      exact Int.le_trans (h.observed f hf) (Int.ofNat_le.mpr hle)
  · rcases horigin e he with hfresh | ⟨f, hf, -, hstatus, -, -⟩
    · rw [hfresh]
      exact k.wellFormed_fresh
    · rw [hstatus]
      exact h.wellFormed f hf

/-- **One event.** -/
theorem Invariant.step (h : Invariant E lossless w) (ev : k.Event)
    (hev : k.Allowed E lossless w ev) : Invariant E lossless (k.step w ev) := by
  cases ev with
  | reconcile uid env => exact h.reconcile uid hev
  | user ev => exact h.user ev
  | account a =>
    exact h.shrink (fun _ he => he) hev.issued fun e he _ i hi => hev.kept i (h.issued e he i hi)

theorem invariant_start (a : k.A) : Invariant E lossless (k.start a) := by
  have hempty : ∀ e, e ∉ (k.start a).objects := fun e he => by
    simp [start, Store.empty, Store.mem_def] at he
  exact ⟨fun e he => absurd he (hempty e), fun e he => absurd he (hempty e),
    fun e he => absurd he (hempty e), fun e he => absurd he (hempty e),
    fun e he => absurd he (hempty e)⟩

/-- The inputs of the passes of a run are those of its events. -/
theorem allowed_of_spares {a : k.A} {es : List k.Event}
    (h : Along es fun pre ev => ∀ a', ev = .account a' →
      k.Spares lossless (run k.step (k.start a) pre).account a') :
    Along es fun pre ev => k.Allowed (fun env => ∃ uid, .reconcile uid env ∈ es) lossless
      (run k.step (k.start a) pre) ev := by
  intro pre ev post hes
  cases ev with
  | reconcile uid env => exact ⟨uid, by rw [hes]; simp⟩
  | user ev => trivial
  | account a' => exact h pre _ post hes a' rfl

/-- **What `Ready` says is so in every run** in which other clients update nothing. -/
theorem truthful_of_run (a : k.A) {es : List k.Event}
    (h : Along es fun pre ev => k.Allowed E lossless (run k.step (k.start a) pre) ev)
    {e : Entry (Object k.S (Status k.R))} (he : e ∈ (run k.step (k.start a) es).objects)
    (hlive : e.val.deleting = false) (hready : isReady e.val) :
    Truthful E lossless (run k.step (k.start a) es).account e.val :=
  (run_invariant (C := k.Allowed E lossless) (I := Invariant E lossless) h (invariant_start a)
    fun _ ev hw hev => hw.step ev hev).truthful e he hlive hready

end PrivateKind

end Mirror

end NetbirdOperator
