import NetbirdOperator.ControlLoop.Run

/-!
# Stages

A system comes to an end in stages: each stage is kept by every event, and left for the next one by
the events of one of its parties. Which events happen in between, and in which order the parties
take turns, does not matter. In a run that consists of rounds, with a turn for every party in each,
there is at least one stage to a round.

This is all that is needed of fairness here. The order in a round is arbitrary, and a round may have
any number of other events.

## Main definitions

* `ControlLoop.Staged` — stages, and the events that leave them

## Main results

* `ControlLoop.Staged.run` — a stage to a round
-/

namespace ControlLoop

variable {σ ε : Type*} {step : σ → ε → σ} {s : σ} {C : σ → ε → Prop} {P : ℕ → σ → Prop}
  {turn : ℕ → ε → Prop} {k : ℕ}

/-- The events that meet `C` keep each stage, and the turns of a stage lead to the next one. -/
structure Staged (step : σ → ε → σ) (C : σ → ε → Prop) (P : ℕ → σ → Prop)
    (turn : ℕ → ε → Prop) : Prop where
  kept : ∀ {k s e}, P k s → C s e → P k (step s e)
  left : ∀ {k s e}, P k s → C s e → turn k e → P (k + 1) (step s e)

namespace Staged

theorem kept_run (h : Staged step C P turn) {es : List ε} (hk : P k s)
    (hC : Along es fun pre e => C (ControlLoop.run step s pre) e) :
    P k (ControlLoop.run step s es) :=
  run_invariant hC hk fun _ _ hs he => h.kept hs he

/-- One round. -/
theorem round (h : Staged step C P turn) {es : List ε} (hk : P k s)
    (hC : Along es fun pre e => C (ControlLoop.run step s pre) e) (hturn : ∃ e ∈ es, turn k e) :
    P (k + 1) (ControlLoop.run step s es) := by
  obtain ⟨e, he, hturn⟩ := hturn
  obtain ⟨pre, post, rfl⟩ := List.append_of_mem he
  obtain ⟨hpre, hpost⟩ := along_append.mp hC
  obtain ⟨hstep, hpost⟩ := along_cons.mp hpost
  rw [List.append_nil] at hstep
  simp only [run_append, run_cons] at hpost ⊢
  exact h.kept_run (h.left (h.kept_run hk hpre) hstep hturn) hpost

/-- **There is at least one stage to a round.** -/
protected theorem run (h : Staged step C P turn) {rounds : List (List ε)} (hk : P k s)
    (hC : Along rounds.flatten fun pre e => C (ControlLoop.run step s pre) e)
    (hturns : ∀ r ∈ rounds, ∀ k, ∃ e ∈ r, turn k e) :
    P (k + rounds.length) (ControlLoop.run step s rounds.flatten) := by
  induction rounds generalizing k s with
  | nil => exact hk
  | cons r rounds ih =>
    rw [List.flatten_cons] at hC ⊢
    obtain ⟨hr, hrounds⟩ := along_append.mp hC
    simp only [run_append] at hrounds
    rw [run_append, List.length_cons, Nat.add_comm rounds.length 1, ← Nat.add_assoc]
    exact ih (h.round hk hr (hturns r List.mem_cons_self k)) hrounds fun r' hr' =>
      hturns r' (List.mem_cons_of_mem _ hr')

end Staged

end ControlLoop
