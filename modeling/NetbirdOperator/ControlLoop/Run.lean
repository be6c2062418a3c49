import Mathlib.Data.List.Induction
import Mathlib.Tactic.Common

/-!
# Runs

A system takes one event after another; `run step s es` is the state after all of `es`. Claims
about every run are claims about every list of events, so the induction is on the list, and it
runs from the back: the last event happens in the state the others lead to.

A condition on a run is a condition on each event, given what happened before it. `Along` says it
of every event, and `along_concat` splits off the last one.

## Main results

* `ControlLoop.run_concat`, `along_concat` — the last event of a run
* `ControlLoop.run_induction` — induction along a run, with the events so far in sight
* `ControlLoop.run_invariant` — what every event keeps, every run keeps
-/

namespace ControlLoop

variable {σ ε : Type*} {step : σ → ε → σ} {s : σ} {es : List ε} {e : ε}

/-- The state after a list of events. -/
def run (step : σ → ε → σ) (s : σ) (es : List ε) : σ := es.foldl step s

@[simp] theorem run_nil : run step s [] = s := rfl

@[simp] theorem run_cons : run step s (e :: es) = run step (step s e) es := rfl

theorem run_append (es fs : List ε) : run step s (es ++ fs) = run step (run step s es) fs :=
  List.foldl_append

@[simp] theorem run_concat : run step s (es ++ [e]) = step (run step s es) e := by
  rw [run_append, run_cons, run_nil]

/-- Every event of the run meets `C`, which sees the events before it. -/
def Along (es : List ε) (C : List ε → ε → Prop) : Prop :=
  ∀ pre e post, es = pre ++ e :: post → C pre e

variable {C : List ε → ε → Prop}

theorem along_nil : Along [] C := by
  intro pre e post h
  simp at h

theorem along_cons : Along (e :: es) C ↔ C [] e ∧ Along es fun pre => C (e :: pre) := by
  constructor
  · intro h
    refine ⟨h [] e es rfl, fun pre f post hes => h (e :: pre) f post ?_⟩
    rw [hes, List.cons_append]
  · rintro ⟨he, hes⟩ pre f post h
    cases pre with
    | nil =>
      obtain ⟨rfl, -⟩ := List.cons.inj h
      exact he
    | cons g pre =>
      obtain ⟨rfl, htail⟩ := List.cons.inj h
      exact hes pre f post htail

theorem along_concat : Along (es ++ [e]) C ↔ Along es C ∧ C es e := by
  constructor
  · intro h
    refine ⟨fun pre f post hes => h pre f (post ++ [e]) ?_, h es e [] rfl⟩
    rw [hes, List.append_assoc, List.cons_append]
  · rintro ⟨hes, he⟩ pre f post h
    rcases List.eq_nil_or_concat post with rfl | ⟨post', x, rfl⟩
    · obtain ⟨rfl, hf⟩ := List.append_inj' h rfl
      obtain rfl : e = f := by simpa using hf
      exact he
    · rw [List.concat_eq_append, ← List.cons_append, ← List.append_assoc] at h
      exact hes pre f post' (List.append_inj' h rfl).1

theorem along_append {fs : List ε} :
    Along (es ++ fs) C ↔ Along es C ∧ Along fs fun pre => C (es ++ pre) := by
  induction es generalizing C with
  | nil => exact ⟨fun h => ⟨along_nil, h⟩, fun h => h.2⟩
  | cons e es ih => rw [List.cons_append, along_cons, along_cons, ih, and_assoc]; rfl

/-- A condition along a run holds along each beginning of it. -/
theorem Along.left {fs : List ε} (h : Along (es ++ fs) C) : Along es C := (along_append.mp h).1

/-- A condition that can be tested event by event can be tested along a run. -/
instance decidableAlong : (es : List ε) → (C : List ε → ε → Prop) →
    [∀ pre e, Decidable (C pre e)] → Decidable (Along es C)
  | [], _, _ => .isTrue along_nil
  | e :: es, C, _ =>
    have : Decidable (Along es fun pre => C (e :: pre)) := decidableAlong es fun pre => C (e :: pre)
    decidable_of_iff' (C [] e ∧ Along es fun pre => C (e :: pre)) along_cons

/-- A condition on single events holds along a run if it holds of each of its events. -/
theorem along_of_forall {C : ε → Prop} (h : ∀ e ∈ es, C e) : Along es fun _ e => C e := by
  rintro pre e post rfl
  exact h e (by simp)

/-- **Induction along a run.** The property may speak of the events that have happened. -/
theorem run_induction {I : List ε → Prop} (h : Along es C) (h0 : I [])
    (hstep : ∀ fs e, I fs → C fs e → I (fs ++ [e])) : I es := by
  induction es using List.reverseRecOn with
  | nil => exact h0
  | append_singleton fs e ih =>
    obtain ⟨hfs, he⟩ := along_concat.mp h
    exact hstep fs e (ih hfs) he

/-- **Invariants.** What every event keeps, every run keeps. -/
theorem run_invariant {C : σ → ε → Prop} {I : σ → Prop}
    (h : Along es fun pre e => C (run step s pre) e) (h0 : I s)
    (hstep : ∀ s e, I s → C s e → I (step s e)) : I (run step s es) := by
  refine run_induction (I := fun es => I (run step s es)) h h0 fun fs e hI he => ?_
  rw [run_concat]
  exact hstep _ e hI he

/-- What every step keeps, every run keeps. -/
theorem run_keeps {I : σ → Prop} (h0 : I s) (hstep : ∀ s e, I s → I (step s e)) :
    I (run step s es) :=
  run_invariant (C := fun _ _ => True) (along_of_forall fun _ _ => trivial) h0
    fun s e h _ => hstep s e h

end ControlLoop
