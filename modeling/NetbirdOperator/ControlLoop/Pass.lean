import Mathlib.Tactic.Common

/-!
# Passes of a control loop

A pass reads and writes a world one request at a time, and may give up at any of them. What it
wrote before giving up stays written: there is no transaction to roll back. `Pass σ ε α` is that
shape, a state function whose failures carry the state they leave behind.

Passes are reasoned about with triples that have two postconditions, one for each way out.
A property that has to survive every failure point is one whose error postcondition is as strong
as the other.

## Main definitions

* `ControlLoop.Pass`, with its `Monad` instance
* `Pass.throw`, `read`, `modify`, `lift`, `call`, `observe` — the primitive passes
* `Pass.Triple` — `{P} m {Q | E}`
* `Pass.Keeps` — an invariant of a pass
* `Pass.Agree` — two runs of one pass, from related worlds

## Main results

* `Triple.of_unchanged`, `Triple.bind`, `Triple.observe`, `Triple.conseq` — the rules of the logic
* `Agree.bind` — the sequencing rule for two runs
-/

namespace ControlLoop

/-! ### Results without a world -/

section Results

universe u

variable {ε ε' : Type*} {α β : Type u} {x : Except ε α}

/-- A sequence that succeeds is two steps that do. -/
theorem bind_eq_ok {f : α → Except ε β} {b : β} :
    x >>= f = .ok b ↔ ∃ a, x = .ok a ∧ f a = .ok b := by
  cases x with
  | error e => exact ⟨fun h => (by cases h), fun ⟨_, h, _⟩ => (by cases h)⟩
  | ok a => exact ⟨fun h => ⟨a, rfl, h⟩, fun ⟨_, ha, hf⟩ => Except.ok.inj ha ▸ hf⟩

theorem map_eq_ok {f : α → β} {b : β} : x.map f = .ok b ↔ ∃ a, x = .ok a ∧ f a = b := by
  cases x with
  | error e => exact ⟨fun h => (by cases h), fun ⟨_, h, _⟩ => (by cases h)⟩
  | ok a =>
    exact ⟨fun h => ⟨a, rfl, Except.ok.inj h⟩, fun ⟨_, ha, hf⟩ => by rw [ha, ← hf]; rfl⟩

theorem mapError_eq_ok {f : ε → ε'} {a : α} : x.mapError f = .ok a ↔ x = .ok a := by
  cases x with
  | error e => exact ⟨fun h => (by cases h), fun h => (by cases h)⟩
  | ok b => exact ⟨fun h => congrArg _ (Except.ok.inj h), fun h => congrArg _ (Except.ok.inj h)⟩

/-- A loop whose steps succeed or not whatever came before succeeds if each of them does. -/
theorem exists_foldlM_ok {γ : Type*} {f : α → γ → Except ε α} {p : γ → Prop} {cs : List γ}
    (h : ∀ c ∈ cs, ∀ a, (∃ a', f a c = .ok a') ↔ p c) (a : α) :
    (∃ a', cs.foldlM f a = .ok a') ↔ ∀ c ∈ cs, p c := by
  induction cs generalizing a with
  | nil => exact ⟨fun _ => List.forall_mem_nil p, fun _ => ⟨a, rfl⟩⟩
  | cons c cs ih =>
    obtain ⟨hc, hcs⟩ := List.forall_mem_cons.mp h
    simp only [List.foldlM_cons, bind_eq_ok, List.forall_mem_cons]
    constructor
    · rintro ⟨a', mid, hmid, hrest⟩
      exact ⟨(hc a).mp ⟨mid, hmid⟩, (ih hcs mid).mp ⟨a', hrest⟩⟩
    · rintro ⟨hpc, hpcs⟩
      obtain ⟨mid, hmid⟩ := (hc a).mpr hpc
      obtain ⟨a', hrest⟩ := (ih hcs mid).mpr hpcs
      exact ⟨a', mid, hmid, hrest⟩

end Results

/-! ### Passes -/

/-- A pass over a world `σ`. A failed pass keeps what it did before it failed. -/
def Pass (σ ε α : Type*) := σ → Except ε α × σ

namespace Pass

universe u

variable {σ ε : Type*} {α β : Type u}

instance : Monad (Pass σ ε) where
  pure a := fun s => (.ok a, s)
  bind m f := fun s =>
    match m s with
    | (.ok a, s') => f a s'
    | (.error e, s') => (.error e, s')

/-- Give up. -/
def throw (e : ε) : Pass σ ε α := fun s => (.error e, s)

/-- Look at the world. -/
def read (f : σ → α) : Pass σ ε α := fun s => (.ok (f s), s)

/-- Change the world. -/
def modify (f : σ → σ) : Pass σ ε Unit := fun s => (.ok (), f s)

/-- Take a result that does not depend on the world. -/
def lift (r : Except ε α) : Pass σ ε α := fun s => (r, s)

/-- A request that changes nothing and fails with `err f` where there is a fault `f`. -/
def call {φ : Type*} (fault : Option φ) (err : φ → ε) : Pass σ ε Unit :=
  match fault with
  | none => pure ()
  | some f => throw (err f)

/-- Run a pass and hand its outcome to the caller as a value. -/
def observe (m : Pass σ ε α) : Pass σ ε (Except ε α) := fun s => (.ok (m s).1, (m s).2)

@[simp] theorem pure_apply (a : α) (s : σ) : (pure a : Pass σ ε α) s = (.ok a, s) := rfl

@[simp] theorem throw_apply (e : ε) (s : σ) : (throw e : Pass σ ε α) s = (.error e, s) := rfl

@[simp] theorem read_apply (f : σ → α) (s : σ) : (read f : Pass σ ε α) s = (.ok (f s), s) := rfl

@[simp] theorem modify_apply (f : σ → σ) (s : σ) :
    (modify f : Pass σ ε Unit) s = (.ok (), f s) := rfl

@[simp] theorem observe_apply (m : Pass σ ε α) (s : σ) : observe m s = (.ok (m s).1, (m s).2) := rfl

theorem bind_apply (m : Pass σ ε α) (f : α → Pass σ ε β) (s : σ) :
    (m >>= f) s =
      match m s with
      | (.ok a, s') => f a s'
      | (.error e, s') => (.error e, s') := rfl

theorem bind_of_ok {m : Pass σ ε α} {f : α → Pass σ ε β} {s s' : σ} {a : α}
    (h : m s = (.ok a, s')) : (m >>= f) s = f a s' := by
  rw [bind_apply, h]

theorem bind_of_error {m : Pass σ ε α} {f : α → Pass σ ε β} {s s' : σ} {e : ε}
    (h : m s = (.error e, s')) : (m >>= f) s = (.error e, s') := by
  rw [bind_apply, h]

theorem call_of_none {φ : Type*} {fault : Option φ} {err : φ → ε} (h : fault = none) (s : σ) :
    call fault err s = (.ok (), s) := by
  rw [h]
  rfl

theorem call_of_some {φ : Type*} {fault : Option φ} {err : φ → ε} {f : φ} (h : fault = some f)
    (s : σ) : call fault err s = (.error (err f), s) := by
  rw [h]
  rfl

theorem call_of_ne_none {φ : Type*} {fault : Option φ} {err : φ → ε} (h : fault ≠ none) (s : σ) :
    ∃ e, call fault err s = (.error e, s) :=
  (Option.ne_none_iff_exists'.mp h).imp' err fun _ hf => call_of_some hf s

theorem bind_lift_apply (r : Except ε α) (f : α → Pass σ ε β) (s : σ) :
    (lift r >>= f) s =
      match r with
      | .ok a => f a s
      | .error e => (.error e, s) := by
  cases r <;> rfl

theorem bind_pure (m : Pass σ ε α) : m >>= pure = m := by
  funext s
  rcases h : m s with ⟨r, s'⟩
  cases r with
  | ok a => rw [bind_of_ok h, pure_apply]
  | error e => rw [bind_of_error h]

theorem snd_bind_pure (m : Pass σ ε α) (f : α → β) (s : σ) :
    ((m >>= fun a => pure (f a)) s).2 = (m s).2 := by
  rw [bind_apply]
  rcases m s with ⟨e | a, s'⟩ <;> rfl

/-- Sequencing is associative. -/
theorem bind_assoc {γ : Type u} (m : Pass σ ε α) (f : α → Pass σ ε β) (g : β → Pass σ ε γ) :
    m >>= f >>= g = m >>= fun a => f a >>= g := by
  funext s
  rcases h : m s with ⟨r, s'⟩
  cases r with
  | ok a => rw [bind_apply, bind_of_ok h, bind_of_ok h, ← bind_apply]
  | error e => rw [bind_of_error h, bind_of_error (bind_of_error h)]

/-! ### Triples -/

/-- `{P} m {Q | E}`: from a world with `P`, a result satisfies `Q` and a failure satisfies `E`,
each together with the world it comes in. -/
def Triple (P : σ → Prop) (m : Pass σ ε α) (Q : α → σ → Prop) (E : ε → σ → Prop) : Prop :=
  ∀ s, P s →
    match m s with
    | (.ok a, s') => Q a s'
    | (.error e, s') => E e s'

variable {P P' : σ → Prop} {Q Q' : α → σ → Prop} {R : β → σ → Prop} {E E' : ε → σ → Prop}

theorem Triple.ok {m : Pass σ ε α} (h : Triple P m Q E) {s s' : σ} {a : α} (hs : P s)
    (hm : m s = (.ok a, s')) : Q a s' := by
  have := h s hs
  rwa [hm] at this

theorem Triple.error {m : Pass σ ε α} (h : Triple P m Q E) {s s' : σ} {e : ε} (hs : P s)
    (hm : m s = (.error e, s')) : E e s' := by
  have := h s hs
  rwa [hm] at this

/-- Both ways out at once, for a postcondition that looks at the outcome. -/
theorem Triple.outcome {m : Pass σ ε α} {T : Except ε α → σ → Prop}
    (h : Triple P m (fun a => T (.ok a)) fun e => T (.error e)) {s : σ} (hs : P s) :
    T (m s).1 (m s).2 := by
  have := h s hs
  rcases hm : m s with ⟨r, s'⟩
  rw [hm] at this
  cases r <;> exact this

/-- Both ways out at once, for a postcondition that does not look at the result. -/
theorem Triple.final {m : Pass σ ε α} {G : σ → Prop}
    (h : Triple P m (fun _ => G) fun _ => G) {s : σ} (hs : P s) : G (m s).2 :=
  Triple.outcome (T := fun _ => G) h hs

/-- The converse: what is known of the world left behind is a triple. -/
theorem Triple.of_final {m : Pass σ ε α} {G : σ → Prop} (h : ∀ s, P s → G (m s).2) :
    Triple P m (fun _ => G) fun _ => G := by
  intro s hs
  have hG := h s hs
  rcases hm : m s with ⟨r, s'⟩
  rw [hm] at hG
  cases r <;> exact hG

theorem Triple.read {f : σ → α} : Triple (fun s => Q (f s) s) (Pass.read f : Pass σ ε α) Q E :=
  fun _ h => h

/-- A pass that leaves the world as it is keeps what is known of it, whether it gives up or not. -/
theorem Triple.of_unchanged {m : Pass σ ε α} (hm : ∀ s, (m s).2 = s) (hE : ∀ e s, P s → E e s) :
    Triple P m (fun _ => P) E := by
  intro s hs
  have hsame := hm s
  rcases h : m s with ⟨r, s'⟩
  rw [h] at hsame
  obtain rfl : s' = s := hsame
  cases r with
  | ok a => exact hs
  | error e => exact hE e s' hs

/-- A call changes nothing, and may give up. -/
theorem call_triple {φ : Type*} {fault : Option φ} {err : φ → ε} (hE : ∀ e s, P s → E e s) :
    Triple P (call fault err) (fun _ => P) E :=
  Triple.of_unchanged (fun _ => by cases fault <;> rfl) hE

/-- **Sequencing.** The error postcondition is shared: the first pass may give up too. -/
theorem Triple.bind {m : Pass σ ε α} {f : α → Pass σ ε β} (hm : Triple P m Q E)
    (hf : ∀ a, Triple (Q a) (f a) R E) : Triple P (m >>= f) R E := by
  intro s hs
  rcases h : m s with ⟨r, s'⟩
  cases r with
  | ok a =>
    rw [bind_of_ok h]
    exact hf a s' (hm.ok hs h)
  | error e =>
    rw [bind_of_error h]
    exact hm.error hs h

/-- An observed pass cannot fail: both of its postconditions are about the value handed over. -/
theorem Triple.observe {m : Pass σ ε α} {T : Except ε α → σ → Prop}
    (h : Triple P m (fun a => T (.ok a)) fun e => T (.error e)) :
    Triple P (Pass.observe m) T E := by
  intro s hs
  rcases hm : m s with ⟨r, s'⟩
  rw [observe_apply, hm]
  cases r with
  | ok a => exact h.ok hs hm
  | error e => exact h.error hs hm

theorem Triple.conseq {m : Pass σ ε α} (h : Triple P m Q E) (hP : ∀ s, P' s → P s)
    (hQ : ∀ a s, Q a s → Q' a s) (hE : ∀ e s, E e s → E' e s) : Triple P' m Q' E' := by
  intro s hs
  rcases hm : m s with ⟨r, s'⟩
  cases r with
  | ok a => exact hQ a s' (h.ok (hP s hs) hm)
  | error e => exact hE e s' (h.error (hP s hs) hm)

/-- Strengthen only the precondition. -/
theorem Triple.of_pre {m : Pass σ ε α} (h : Triple P m Q E) (hP : ∀ s, P' s → P s) :
    Triple P' m Q E :=
  h.conseq hP (fun _ _ => id) fun _ _ => id

/-- What a pass does from each world, as a relation between the world it starts in and the one it
leaves. -/
theorem Triple.relate {m : Pass σ ε α} {T : σ → α → σ → Prop}
    (h : ∀ s, Triple (fun s' => s' = s) m (T s) fun _ _ => True) :
    Triple P m (fun a s' => ∃ s, P s ∧ T s a s') fun _ _ => True := by
  intro s hs
  rcases hm : m s with ⟨r, s'⟩
  cases r with
  | ok a => exact ⟨s, hs, (h s).ok rfl hm⟩
  | error e => trivial

/-- The part of a precondition that does not look at the world is a hypothesis. -/
theorem Triple.assume {m : Pass σ ε α} {p : Prop} (h : p → Triple P m Q E) :
    Triple (fun s => P s ∧ p) m Q E :=
  fun s hs => h hs.2 s hs.1

/-! ### Invariants of a pass -/

/-- The pass keeps `I`, whether it gives up or not. -/
def Keeps (I : σ → Prop) (m : Pass σ ε α) : Prop := Triple I m (fun _ => I) fun _ => I

variable {I : σ → Prop}

theorem keeps_pure (a : α) : Keeps I (pure a : Pass σ ε α) := fun _ h => h

theorem keeps_throw (e : ε) : Keeps I (throw e : Pass σ ε α) := fun _ h => h

theorem keeps_read (f : σ → α) : Keeps I (Pass.read f : Pass σ ε α) := fun _ h => h

theorem keeps_call {φ : Type*} (fault : Option φ) (err : φ → ε) :
    Keeps I (call fault err : Pass σ ε Unit) :=
  call_triple fun _ _ h => h

theorem keeps_modify {f : σ → σ} (hf : ∀ s, I s → I (f s)) :
    Keeps I (modify f : Pass σ ε Unit) :=
  hf

theorem Keeps.bind {m : Pass σ ε α} {f : α → Pass σ ε β} (hm : Keeps I m)
    (hf : ∀ a, Keeps I (f a)) : Keeps I (m >>= f) :=
  Triple.bind hm hf

theorem Keeps.observe {m : Pass σ ε α} (hm : Keeps I m) : Keeps I (Pass.observe m) :=
  Triple.observe (T := fun _ => I) hm

/-! ### Two runs of one pass -/

/-- Started in two worlds related by `A`, the pass answers the same both times; if it succeeds, it
leaves worlds related by `B`. -/
def Agree (A : σ → σ → Prop) (m : Pass σ ε α) (B : α → σ → σ → Prop) : Prop :=
  ∀ s t, A s t → (m s).1 = (m t).1 ∧ ∀ a, (m s).1 = .ok a → B a (m s).2 (m t).2

theorem Agree.bind {A : σ → σ → Prop} {B : α → σ → σ → Prop} {D : β → σ → σ → Prop}
    {m : Pass σ ε α} {f : α → Pass σ ε β} (hm : Agree A m B) (hf : ∀ a, Agree (B a) (f a) D) :
    Agree A (m >>= f) D := by
  intro s t hst
  obtain ⟨hans, hpost⟩ := hm s t hst
  rcases hs : m s with ⟨r, s'⟩
  rcases ht : m t with ⟨r', t'⟩
  rw [hs, ht] at hans
  obtain rfl : r = r' := hans
  cases r with
  | ok a =>
    have hB := hpost a (by rw [hs])
    rw [hs, ht] at hB
    rw [bind_of_ok hs, bind_of_ok ht]
    exact hf a s' t' hB
  | error e =>
    rw [bind_of_error hs, bind_of_error ht]
    exact ⟨rfl, fun a ha => by simp at ha⟩

/-- A pass that does not look at the world answers the same in any two. -/
theorem Agree.lift {A : σ → σ → Prop} {B : α → σ → σ → Prop} {r : Except ε α}
    (h : ∀ a s t, A s t → B a s t) : Agree A (Pass.lift r) B :=
  fun s t hst => ⟨rfl, fun a _ => h a s t hst⟩

theorem Agree.call {φ : Type*} {fault : Option φ} {err : φ → ε} {A : σ → σ → Prop} :
    Agree A (Pass.call fault err) fun _ => A := by
  cases fault with
  | none => exact fun s t hst => ⟨rfl, fun _ _ => hst⟩
  | some f => exact fun s t _ => ⟨rfl, fun _ h => by simp [Pass.call] at h⟩

end Pass

end ControlLoop
