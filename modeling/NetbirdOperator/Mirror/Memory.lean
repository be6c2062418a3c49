import NetbirdOperator.Mirror

/-!
# The object in memory

In the source an `apply` gets the object as the pass has it in memory, and writes the ids it learns
into the status there, some of them before calls that may still fail. What becomes of these writes
depends on how it fails. On a plain error the object in memory is dropped. On a dependency that is
not ready it is patched to the server, ids and all.

`Mirror` does not show this: there, an apply hands back ids or an error, never both. `Memory` is the
finer model, with the ids in memory as part of the state of an apply. The two agree on every kind
whose dependency errors come before its first write to the status (`Memory.reconcile_eq`), and such
a kind never changes the ids on the server in a pass whose apply fails (`Memory.keepsIDs`).

## Main results

* `Mirror.Memory.reconcile_eq` — the finer model refines the other
* `Mirror.Memory.keepsIDs` — a failed apply leaves the ids on the server as they were
-/

namespace NetbirdOperator

open ControlLoop

namespace Mirror

open Pass

/-- A kind whose `apply` works on the account and on the ids of the object in memory. -/
structure Memory (S R A C : Type) where
  apply : Object S (Status R) → Pass (A × R) (Err C) Unit
  del : ℕ → Store (Object S (Status R)) → Object S (Status R) → Pass A (Err C) Unit

/-! ### Writing an apply -/

section Apply

variable {R A E α : Type}

/-- Calls work on the account. -/
def inAccount (p : Pass A E α) : Pass (A × R) E α := fun x => ((p x.1).1, ((p x.1).2, x.2))

/-- The ids in memory. -/
def ids : Pass (A × R) E R := Pass.read Prod.snd

/-- Write ids in memory. -/
def setIDs (f : R → R) : Pass (A × R) E Unit := Pass.modify fun x => (x.1, f x.2)

/-- `obj.Status.F, err = p()`: the field gets the result, or the zero value with an error. -/
def assign (set : Option ℕ → R → R) (p : Pass A E (Option ℕ)) : Pass (A × R) E Unit := do
  let outcome ← Pass.observe (inAccount p)
  match outcome with
  | .error e => do
    setIDs (set none)
    Pass.throw e
  | .ok id => setIDs (set id)

theorem inAccount_apply (p : Pass A E α) (a : A) (r : R) :
    inAccount p (a, r) = ((p a).1, ((p a).2, r)) := rfl

theorem inAccount_of_eq {p : Pass A E α} {a a' : A} {out : Except E α} (h : p a = (out, a'))
    (r : R) : inAccount p (a, r) = (out, (a', r)) := by
  rw [inAccount_apply, h]

theorem setIDs_apply (f : R → R) (a : A) (r : R) :
    (setIDs f : Pass (A × R) E Unit) (a, r) = (.ok (), (a, f r)) := rfl

theorem assign_of_ok {set : Option ℕ → R → R} {p : Pass A E (Option ℕ)} {a a' : A}
    {id : Option ℕ} (h : p a = (.ok id, a')) (r : R) :
    assign set p (a, r) = (.ok (), (a', set id r)) := by
  rw [assign, bind_of_ok (observe_apply _ _), inAccount_of_eq h]
  rfl

theorem assign_of_error {set : Option ℕ → R → R} {p : Pass A E (Option ℕ)} {a a' : A} {e : E}
    (h : p a = (.error e, a')) (r : R) :
    assign set p (a, r) = (.error e, (a', set none r)) := by
  rw [assign, bind_of_ok (observe_apply _ _), inAccount_of_eq h]
  rfl

end Apply

namespace Memory

variable {S R A C : Type} {fault : Call C → Option Fault} {m : Memory S R A C}
  {w : World S R A} {uid : ℕ} {o : Object S (Status R)}

/-! ### Reconcile -/

/-- The object with other ids in memory. -/
def withIDs (o : Object S (Status R)) (r : R) : Object S (Status R) :=
  { o with status := { o.status with recorded := r } }

/-- The apply, on the account and the object in memory: how it ended, and the ids it left there. -/
def run (m : Memory S R A C) (o : Object S (Status R)) :
    Pass (World S R A) (Err C) (Except (Err C) Unit × R) := fun w =>
  let x := m.apply o (w.account, o.status.recorded)
  (.ok (x.1, x.2.2), { w with account := x.2.1 })

/-- Report the outcome of the apply, with the object as it is in memory by then. -/
def report (fault : Call C → Option Fault) (uid : ℕ) (o : Object S (Status R)) :
    Except (Err C) Unit × R → Pass (World S R A) (Err C) Result
  | (.ok (), r) => do
    patch fault .patchReady uid (asReady o r)
    pure ⟨some resyncInterval⟩
  | (.error (.dependencyNotReady msg), r) => do
    patch fault .patchNotReady uid (asNotReady (withIDs o r) msg)
    pure ⟨some dependencyRetry⟩
  | (.error e, _) => Pass.throw e

/-- `Reconcile` on an object that is not being deleted. -/
def reconcileLive (fault : Call C → Option Fault) (m : Memory S R A C) (uid : ℕ)
    (o : Object S (Status R)) : Pass (World S R A) (Err C) Result := do
  patch fault .patchFinalizer uid (withFinalizer o)
  let outcome ← m.run (withFinalizer o)
  report fault uid (withFinalizer o) outcome

/-- The kind without the object in memory: an apply hands back the ids, or an error. -/
def forget (m : Memory S R A C) : Mirror S R A C where
  apply o a :=
    let x := m.apply o (a, o.status.recorded)
    (x.1.map fun _ => x.2.2, x.2.1)
  del := m.del

/-- `MirrorReconciler.Reconcile` of the object with that uid. Deletion writes nothing to the object
in memory but the finalizer. -/
def reconcile (fault : Call C → Option Fault) (m : Memory S R A C) (uid : ℕ) :
    Pass (World S R A) (Err C) Result := do
  call fault .get
  let found ← Pass.read fun w => w.objects.get uid
  match found with
  | none => pure ⟨none⟩
  | some o =>
    if o.deleting then reconcileDelete fault m.forget uid o else reconcileLive fault m uid o

/-! ### Refinement -/

/-- An apply that ends in a dependency that is not ready has not written to the ids in memory. -/
def WaitsFirst (m : Memory S R A C) : Prop :=
  ∀ o a msg, (m.apply o (a, o.status.recorded)).1 = .error (.dependencyNotReady msg) →
    (m.apply o (a, o.status.recorded)).2.2 = o.status.recorded

theorem reconcileLive_eq (h : m.WaitsFirst) :
    reconcileLive fault m uid o = Mirror.reconcileLive (A := A) fault m.forget uid o := by
  refine congrArg (Bind.bind _) (funext fun _ => funext fun w => ?_)
  rw [bind_of_ok (show m.run (withFinalizer o) w = _ from rfl),
    bind_of_ok (observe_apply _ _)]
  have hwaits := h (withFinalizer o) w.account
  show report fault uid (withFinalizer o) _ _ = Mirror.report fault uid (withFinalizer o) _ _
  rcases hx : m.apply (withFinalizer o) (w.account, (withFinalizer o).status.recorded)
    with ⟨r, a', ids⟩
  rw [hx] at hwaits
  have hforget : onAccount (S := S) (R := R) (m.forget.apply (withFinalizer o)) w =
      (r.map fun _ => ids, { w with account := a' }) := by
    simp [onAccount, forget, hx]
  rw [hforget]
  match r with
  | .ok () => rfl
  | .error (.dependencyNotReady msg) =>
    have hids : ids = (withFinalizer o).status.recorded := hwaits msg rfl
    subst hids
    rfl
  | .error (.api _ _) | .error (.notFound _) | .error (.group _) | .error (.invalid _) => rfl

/-- **The finer model refines the other** on a kind whose dependency errors come first. -/
theorem reconcile_eq (h : m.WaitsFirst) :
    reconcile fault m uid = Mirror.reconcile fault m.forget uid := by
  refine congrArg (Bind.bind _) (funext fun _ => ?_)
  refine congrArg (Bind.bind _) (funext fun found => ?_)
  cases found with
  | none => rfl
  | some o =>
    show (if o.deleting then _ else reconcileLive fault m uid o) = _
    rw [reconcileLive_eq h]

/-- A pass whose apply fails leaves the recorded ids of all objects as they were. -/
def KeepsIDs (fault : Call C → Option Fault) (m : Memory S R A C) : Prop :=
  ∀ w uid o e, w.objects.get uid = some o → o.deleting = false →
    (m.apply (withFinalizer o) (w.account, o.status.recorded)).1 = .error e →
    ∀ i, ((reconcile fault m uid w).2.objects.get i).map (fun o => o.status.recorded) =
      (w.objects.get i).map fun o => o.status.recorded

/-- **A failed apply leaves the ids on the server as they were.** -/
theorem keepsIDs (h : m.WaitsFirst) : KeepsIDs fault m := by
  intro w uid o e hget hlive hfails i
  rw [reconcile_eq h]
  have heffect : Effect m.forget w uid (Mirror.reconcile fault m.forget uid w).2 :=
    reconcile_effect
  generalize (Mirror.reconcile fault m.forget uid w).2 = w' at heffect
  cases heffect with
  | idle => rfl
  | @applied o₁ o₂ hget₁ _ _ hrec =>
    obtain rfl : o = o₁ := Option.some.inj (hget.symm.trans hget₁)
    have hsame : o₂.status.recorded = o.status.recorded := by
      refine hrec.resolve_right fun hok => ?_
      simp only [forget] at hok
      rw [show (withFinalizer o).status.recorded = o.status.recorded from rfl, hfails] at hok
      cases hok
    by_cases hi : i = uid
    · subst hi
      rw [Store.get_update_self hget, hget, Option.map_some, Option.map_some, hsame]
    · rw [Store.get_update_of_ne hi]
  | kept hget₁ hdel =>
    obtain rfl : o = _ := Option.some.inj (hget.symm.trans hget₁)
    exact absurd hdel (by simp [hlive])
  | released hget₁ hdel _ =>
    obtain rfl : o = _ := Option.some.inj (hget.symm.trans hget₁)
    exact absurd hdel (by simp [hlive])

/-! ### Following an apply -/

/-- No error of the pass is a dependency that is not ready. -/
def NeverWaits {σ α : Type} (p : Pass σ (Err C) α) : Prop :=
  Triple (fun _ => True) p (fun _ _ => True) fun e _ => ∀ msg, e ≠ .dependencyNotReady msg

/-- With the ids `r` in memory, `p` does what `q` does, and ends with the ids that `q` hands back.
If it waits for a dependency, it ends with `r₀` there. -/
def Follows (r₀ r : R) (p : Pass (A × R) (Err C) Unit) (q : Pass A (Err C) R) : Prop :=
  ∀ a, match q a with
    | (.ok r', a') => p (a, r) = (.ok (), (a', r'))
    | (.error e, a') => ∃ r', p (a, r) = (.error e, (a', r')) ∧
        ∀ msg, e = .dependencyNotReady msg → r' = r₀

/-- The kind does what `k` does, and writes to the ids in memory only once it has nothing to wait
for. -/
def Implements (m : Memory S R A C) (k : Mirror S R A C) : Prop :=
  m.del = k.del ∧ ∀ o : Object S (Status R),
    Follows o.status.recorded o.status.recorded (m.apply o) (k.apply o)

theorem Implements.waitsFirst {k : Mirror S R A C} (h : m.Implements k) : m.WaitsFirst := by
  intro o a msg hmsg
  have := h.2 o a
  rcases hk : k.apply o a with ⟨out, a'⟩
  rw [hk] at this
  cases out with
  | ok r => rw [this] at hmsg; cases hmsg
  | error e =>
    obtain ⟨r', hr, hwait⟩ := this
    rw [hr] at hmsg ⊢
    exact hwait msg (Except.error.inj hmsg)

theorem Implements.forget_eq {k : Mirror S R A C} (h : m.Implements k) : m.forget = k := by
  obtain ⟨hdel, happly⟩ := h
  have hforget : m.forget.apply = k.apply := by
    funext o a
    have := happly o a
    rcases hk : k.apply o a with ⟨out, a'⟩
    rw [hk] at this
    cases out with
    | ok r => simp [forget, this, Except.map]
    | error e =>
      obtain ⟨r', hr, -⟩ := this
      simp [forget, hr, Except.map]
  calc m.forget = ⟨m.forget.apply, m.del⟩ := rfl
    _ = ⟨k.apply, k.del⟩ := by rw [hforget, hdel]

/-- **A pass with the object in memory is the pass without.** -/
theorem Implements.reconcile_eq {k : Mirror S R A C} (h : m.Implements k) :
    reconcile fault m uid = Mirror.reconcile fault k uid := by
  rw [Memory.reconcile_eq h.waitsFirst, h.forget_eq]

section Rules

variable {α : Type} {r₀ r : R} {x : Pass A (Err C) α} {g : α → Pass A (Err C) R}

theorem Follows.call {f : α → Pass (A × R) (Err C) Unit} (hx : r = r₀ ∨ NeverWaits x)
    (h : ∀ b, Follows r₀ r (f b) (g b)) : Follows r₀ r (inAccount x >>= f) (x >>= g) := by
  intro a
  rcases hxa : x a with ⟨out, a'⟩
  cases out with
  | ok b =>
    rw [bind_of_ok hxa, bind_of_ok (inAccount_of_eq hxa r)]
    exact h b a'
  | error e =>
    rw [bind_of_error hxa, bind_of_error (inAccount_of_eq hxa r)]
    refine ⟨r, rfl, fun msg hmsg => ?_⟩
    exact hx.resolve_right fun hnever => hnever.error trivial hxa msg hmsg

theorem Follows.set {f : R → R} {p : Unit → Pass (A × R) (Err C) Unit} {q : Pass A (Err C) R}
    (h : Follows r₀ (f r) (p ()) q) : Follows r₀ r (setIDs f >>= p) q := by
  intro a
  rw [bind_of_ok (setIDs_apply f a r)]
  exact h a

theorem Follows.ids {p : R → Pass (A × R) (Err C) Unit} {q : Pass A (Err C) R}
    (h : Follows r₀ r (p r) q) : Follows r₀ r (ids >>= p) q := by
  intro a
  rw [bind_of_ok (show (Mirror.ids : Pass (A × R) (Err C) R) (a, r) = _ from rfl)]
  exact h a

theorem Follows.assign {set : Option ℕ → R → R} {x : Pass A (Err C) (Option ℕ)}
    {p : Unit → Pass (A × R) (Err C) Unit} {g : Option ℕ → Pass A (Err C) R} (hx : NeverWaits x)
    (h : ∀ id, Follows r₀ (set id r) (p ()) (g id)) :
    Follows r₀ r (assign set x >>= p) (x >>= g) := by
  intro a
  rcases hxa : x a with ⟨out, a'⟩
  cases out with
  | ok id =>
    rw [bind_of_ok hxa, bind_of_ok (assign_of_ok hxa r)]
    exact h id a'
  | error e =>
    rw [bind_of_error hxa, bind_of_error (assign_of_error hxa r)]
    exact ⟨_, rfl, fun msg hmsg => absurd hmsg (hx.error trivial hxa msg)⟩

theorem Follows.done {f : R → R} : Follows r₀ r (setIDs f) (pure (f r) : Pass A (Err C) R) :=
  fun _ => rfl

end Rules

section NeverWaits

variable {σ α β : Type}

theorem NeverWaits.bind {p : Pass σ (Err C) α} {f : α → Pass σ (Err C) β} (hp : NeverWaits p)
    (hf : ∀ a, NeverWaits (f a)) : NeverWaits (p >>= f) :=
  Triple.bind hp hf

theorem neverWaits_call (c : Call C) : NeverWaits (call fault c : Pass σ (Err C) Unit) := by
  intro s _
  rw [call]
  cases fault c with
  | none => trivial
  | some f => exact fun msg h => by cases h

theorem neverWaits_read (f : σ → α) : NeverWaits (Pass.read f : Pass σ (Err C) α) :=
  fun _ _ => trivial

theorem neverWaits_modify (f : σ → σ) : NeverWaits (Pass.modify f : Pass σ (Err C) Unit) :=
  fun _ _ => trivial

theorem neverWaits_pure (a : α) : NeverWaits (pure a : Pass σ (Err C) α) := fun _ _ => trivial

/-- The shape of a request: the call, what is read off the account, and the change. -/
theorem neverWaits_sent (c : Call C) (f : σ → α) (g : σ → σ) (h : α → β) :
    NeverWaits (do
      call fault c
      let a ← Pass.read f
      Pass.modify g
      pure (h a) : Pass σ (Err C) β) :=
  (neverWaits_call c).bind fun _ => (neverWaits_read f).bind fun a =>
    (neverWaits_modify g).bind fun _ => neverWaits_pure (h a)

/-- The shape of an upsert: an update that finds nothing is followed by a create. -/
theorem neverWaits_updateOrCreate {update : Pass σ (Err C) Bool} {create : Pass σ (Err C) ℕ}
    (hupdate : NeverWaits update) (hcreate : NeverWaits create) (id : ℕ) :
    NeverWaits (do
      let updated ← update
      if updated then pure id else create) := by
  refine hupdate.bind fun updated => ?_
  cases updated with
  | true => exact neverWaits_pure id
  | false => exact hcreate

theorem neverWaits_verify {id : Option ℕ} {get : ℕ → Pass σ (Err C) Bool}
    (h : ∀ i, NeverWaits (get i)) : NeverWaits (verifyNetbirdID id get) := by
  cases id with
  | none => exact neverWaits_pure none
  | some i => exact (h i).bind fun found => by cases found <;> exact neverWaits_pure _

end NeverWaits

end Memory

end Mirror

end NetbirdOperator
