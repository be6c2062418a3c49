import NetbirdOperator.ControlLoop.Run

/-!
# Work queues

A controller does not poll. It runs a pass over a key when a watch reports a change that concerns
the key, when its last pass over the key failed, or when that pass asked for another after a while.
What happens in between and is reported by no watch is not noticed.

The keys that a watch has put in the queue and those whose last pass failed are `awake`: they are
run over as soon as there is time. Those that wait for a timer are `timed`. A controller that needs
no timers keeps `AtRest`: for a key that is not awake there is nothing to do. It is kept by every
change of the world that wakes the keys it concerns (`AtRest.change`), and by every pass that leaves
nothing to do for its own key and wakes the others it concerns (`AtRest.finish`).

## Scope

What there is to do, which changes concern a key, and who is woken are the controller's. A watch
reports the objects that are not the same before and after a change, `changed`; a write that changes
nothing is not reported. Everybody else is one event, which may leave any world behind; what a
controller needs of it is a condition on the event.

## Main definitions

* `ControlLoop.changed` — the objects a watch reports
* `ControlLoop.Queued`, `Controller` — a world with the queue of a controller, and the controller
* `ControlLoop.AtRest` — keys that are not awake have nothing to do

## Main results

* `ControlLoop.Controller.Rests.run` — the rule for runs: what has to be said of a pass and of a
  change that does not wake a key
-/

namespace ControlLoop

/-! ### What a watch reports -/

section Changed

variable {α : Type*} [DecidableEq α] {before after : List α} {a : α}

/-- The objects of a collection that are not the same before and after. -/
def changed (before after : List α) : List α :=
  (before ++ after).filter fun a => a ∉ before ∨ a ∉ after

theorem mem_changed_of_lost (ha : a ∈ before) (hnot : a ∉ after) : a ∈ changed before after :=
  List.mem_filter.mpr ⟨List.mem_append_left _ ha, by simp [hnot]⟩

theorem mem_changed_of_new (ha : a ∈ after) (hnot : a ∉ before) : a ∈ changed before after :=
  List.mem_filter.mpr ⟨List.mem_append_right _ ha, by simp [hnot]⟩

theorem mem_after_of_not_changed (ha : a ∈ before) (h : a ∉ changed before after) : a ∈ after := by
  by_contra hnot
  exact h (mem_changed_of_lost ha hnot)

theorem mem_before_of_not_changed (ha : a ∈ after) (h : a ∉ changed before after) :
    a ∈ before := by
  by_contra hnot
  exact h (mem_changed_of_new ha hnot)

/-- A collection that stays has no changed objects. -/
theorem changed_self (as : List α) : changed as as = [] := by
  refine List.filter_eq_nil_iff.mpr fun a ha => ?_
  have hmem : a ∈ as := by simpa using ha
  simp [hmem]

/-- A lookup that at most one object answers to is answered as before if no changed object does. -/
theorem find?_eq_of_not_changed {p : α → Bool}
    (hone : ∀ a ∈ before, ∀ b ∈ before, p a = true → p b = true → a = b)
    (hsame : ∀ a ∈ changed before after, p a = false) : after.find? p = before.find? p := by
  have hnot : ∀ a, p a = true → a ∉ changed before after := fun a ha hmem =>
    Bool.false_ne_true ((hsame a hmem).symm.trans ha)
  cases hafter : after.find? p with
  | none =>
    refine (List.find?_eq_none.mpr fun a ha hp => ?_).symm
    exact List.find?_eq_none.mp hafter a (mem_after_of_not_changed ha (hnot a hp)) hp
  | some a =>
    have hp := List.find?_some hafter
    have ha := mem_before_of_not_changed (List.mem_of_find?_eq_some hafter) (hnot a hp)
    cases hbefore : before.find? p with
    | none => exact absurd hp (List.find?_eq_none.mp hbefore a ha)
    | some b =>
      rw [hone a ha b (List.mem_of_find?_eq_some hbefore) hp (List.find?_some hbefore)]

end Changed

/-! ### Queues -/

/-- How a pass ends, as far as the queue is concerned. -/
inductive Ending where
  | failed
  | again
  | done
  deriving DecidableEq, Repr

/-- A world with the queue of a controller. -/
structure Queued (W κ : Type*) where
  world : W
  awake : List κ
  timed : List κ

namespace Queued

variable {W κ : Type*} {s : Queued W κ} {k : κ}

/-- A controller starts with every key awake. -/
def start (w : W) (keys : List κ) : Queued W κ := ⟨w, keys, []⟩

/-- The world changes, and the watches wake some keys. -/
def change (s : Queued W κ) (w : W) (woken : List κ) : Queued W κ :=
  { s with world := w, awake := woken ++ s.awake }

/-- Something is going to run a pass over the key. -/
def Due (s : Queued W κ) (k : κ) : Prop := k ∈ s.awake ∨ k ∈ s.timed

variable [DecidableEq κ]

instance (s : Queued W κ) (k : κ) : Decidable (s.Due k) :=
  inferInstanceAs (Decidable (_ ∨ _))

/-- A pass over a key ends. What it changed may wake keys, its own included. -/
def finish (s : Queued W κ) (k : κ) (ending : Ending) (w : W) (woken : List κ) : Queued W κ where
  world := w
  awake := (if ending = .failed then [k] else []) ++ (woken ++ s.awake.filter fun k' => k' ≠ k)
  timed := (if ending = .again then [k] else []) ++ s.timed.filter fun k' => k' ≠ k

end Queued

/-! ### Keys at rest -/

section AtRest

variable {W κ : Type*} {Idle : W → κ → Prop} {s : Queued W κ} {k : κ} {w : W} {woken : List κ}

/-- **For a key that is not awake there is nothing to do.** -/
def AtRest (Idle : W → κ → Prop) (s : Queued W κ) : Prop := ∀ k, k ∉ s.awake → Idle s.world k

/-- A change keeps it if it wakes every key for which there is something to do. -/
theorem AtRest.change (h : AtRest Idle s)
    (hkeep : ∀ k, k ∉ s.awake → k ∉ woken → Idle s.world k → Idle w k) :
    AtRest Idle (s.change w woken) := by
  intro k hk
  obtain ⟨hwoken, hawake⟩ := not_or.mp (mt List.mem_append.mpr hk)
  exact hkeep k hawake hwoken (h k hawake)

/-- A pass keeps it if it leaves nothing to do for its key, unless it fails or wakes it again, and
wakes the other keys for which there is something to do. -/
theorem AtRest.finish [DecidableEq κ] {ending : Ending} (h : AtRest Idle s)
    (hself : ending ≠ .failed → k ∉ woken → Idle w k)
    (hothers : ∀ k', k' ≠ k → k' ∉ s.awake → k' ∉ woken → Idle s.world k' → Idle w k') :
    AtRest Idle (s.finish k ending w woken) := by
  intro k' hk'
  obtain ⟨hfailed, hrest⟩ := not_or.mp (mt List.mem_append.mpr hk')
  obtain ⟨hwoken, hawake⟩ := not_or.mp (mt List.mem_append.mpr hrest)
  by_cases hne : k' = k
  · subst hne
    refine hself (fun hend => hfailed ?_) hwoken
    rw [if_pos hend]
    exact List.mem_singleton_self _
  · have hrests : k' ∉ s.awake := fun hmem =>
      hawake (List.mem_filter.mpr ⟨hmem, decide_eq_true hne⟩)
    exact hothers k' hne hrests hwoken (h k' hrests)

end AtRest

/-! ### Controllers -/

/-- A controller as its queue sees it: a pass over a key with some inputs, and the keys its watches
wake when the world changes. Some watches have to list objects to find the keys they wake, which may
fail. -/
structure Controller (W κ ι : Type*) where
  pass : κ → ι → W → Ending × W
  woken : Bool → W → W → List κ

namespace Controller

variable {W κ ι : Type*}

/-- What happens: the others leave another world, and may wake more keys than those it concerns; the
controller runs over a key. -/
inductive Event (W κ ι : Type*) where
  | others (w : W) (listed : Bool) (also : List κ)
  | pass (k : κ) (inputs : ι) (listed : Bool)

/-- The world after an event. -/
def after (C : Controller W κ ι) (w : W) : Event W κ ι → W
  | .others w' _ _ => w'
  | .pass k i _ => (C.pass k i w).2

/-- The keys that the watches wake. -/
def wakes (C : Controller W κ ι) (w : W) (e : Event W κ ι) : List κ :=
  match e with
  | .others _ listed _ => C.woken listed w (C.after w e)
  | .pass _ _ listed => C.woken listed w (C.after w e)

variable [DecidableEq κ]

/-- The effect of an event. A pass happens only to a key that is due. -/
def step (C : Controller W κ ι) (s : Queued W κ) (e : Event W κ ι) : Queued W κ :=
  match e with
  | .others w _ also => s.change w (C.wakes s.world e ++ also)
  | .pass k i _ =>
    if s.Due k then s.finish k (C.pass k i s.world).1 (C.after s.world e) (C.wakes s.world e) else s

/-- What has to be said of a controller whose keys rest: `Good` is kept, a pass that does not fail
leaves its key idle unless what it writes wakes the key again, and a key at rest that is not woken
stays idle. -/
structure Rests (C : Controller W κ ι) (Good : W → Prop) (Idle : W → κ → Prop)
    (Orderly : Queued W κ → Event W κ ι → Prop) : Prop where
  good : ∀ s e, Good s.world → Orderly s e → Good (C.after s.world e)
  passed : ∀ s k i listed, Good s.world → Orderly s (.pass k i listed) →
    (C.pass k i s.world).1 ≠ .failed → k ∉ C.wakes s.world (.pass k i listed) →
      Idle (C.pass k i s.world).2 k
  kept : ∀ s e k, Good s.world → Orderly s e → Good (C.after s.world e) → k ∉ s.awake →
    k ∉ C.wakes s.world e → Idle s.world k → Idle (C.after s.world e) k

/-- One event. -/
theorem Rests.step {C : Controller W κ ι} {Good : W → Prop} {Idle : W → κ → Prop}
    {Orderly : Queued W κ → Event W κ ι → Prop} (hC : C.Rests Good Idle Orderly) {s : Queued W κ}
    (hgood : Good s.world) (hrest : AtRest Idle s) (e : Event W κ ι) (he : Orderly s e) :
    Good (C.step s e).world ∧ AtRest Idle (C.step s e) := by
  have hgood' := hC.good s e hgood he
  cases e with
  | others w listed also =>
    refine ⟨hgood', hrest.change fun k hawake hnot hidle => ?_⟩
    have hwoken := fun hmem => hnot (List.mem_append_left also hmem)
    exact hC.kept s _ k hgood he hgood' hawake hwoken hidle
  | pass k i listed =>
    rw [Controller.step]
    split
    · refine ⟨hgood', hrest.finish (hC.passed s k i listed hgood he) ?_⟩
      exact fun k' _ hawake hnot hidle => hC.kept s _ k' hgood he hgood' hawake hnot hidle
    · exact ⟨hgood, hrest⟩

/-- **Keys at rest are idle**, in every state of every orderly run. -/
theorem Rests.run {C : Controller W κ ι} {Good : W → Prop} {Idle : W → κ → Prop}
    {Orderly : Queued W κ → Event W κ ι → Prop} (hC : C.Rests Good Idle Orderly) {s : Queued W κ}
    (hgood : Good s.world) (hrest : AtRest Idle s) {es : List (Event W κ ι)}
    (h : Along es fun pre e => Orderly (run C.step s pre) e) :
    Good (run C.step s es).world ∧ AtRest Idle (run C.step s es) :=
  run_invariant (C := Orderly) (I := fun s => Good s.world ∧ AtRest Idle s) h ⟨hgood, hrest⟩
    fun _ e hs he => hC.step hs.1 hs.2 e he

end Controller

end ControlLoop
