import Mathlib.Data.List.Basic

namespace Exec

open List

variable {σ ε : Type}

-- A run takes events one after the other.
def run (step : σ → ε → σ) (state : σ) (events : List ε) : σ := events.foldl step state

-- Every step of the run meets a condition on the state it starts from.
def Along (step : σ → ε → σ) (allowed : σ → ε → Prop) : σ → List ε → Prop
  | _, [] => True
  | state, event :: events => allowed state event ∧ Along step allowed (step state event) events

theorem run_cons (step : σ → ε → σ) (state : σ) (event : ε) (events : List ε) :
    run step state (event :: events) = run step (step state event) events := rfl

theorem run_append (step : σ → ε → σ) (state : σ) (first second : List ε) :
    run step state (first ++ second) = run step (run step state first) second := foldl_append

theorem along_append (step : σ → ε → σ) (allowed : σ → ε → Prop) (state : σ) (first second : List ε) :
    Along step allowed state (first ++ second) ↔
      Along step allowed state first ∧ Along step allowed (run step state first) second := by
  induction first generalizing state with
  | nil => simp [Along, run]
  | cons _ _ ih =>
    simp only [cons_append, Along, ih, and_assoc]
    rfl

theorem along_all (step : σ → ε → σ) (allowed : ε → Prop) (state : σ) (events : List ε)
    (all : ∀ event ∈ events, allowed event) :
    Along step (fun _ event => allowed event) state events := by
  induction events generalizing state with
  | nil => trivial
  | cons event _ ih =>
    exact ⟨all event mem_cons_self, ih (step state event) fun other listed => all other (mem_cons_of_mem _ listed)⟩

theorem along_and {step : σ → ε → σ} {first second : σ → ε → Prop} (state : σ) {events : List ε}
    (one : Along step first state events)
    (two : Along step second state events) :
      Along step (fun reached event => first reached event ∧ second reached event) state events := by
  induction events generalizing state with
  | nil => trivial
  | cons event _ ih => exact ⟨⟨one.1, two.1⟩, ih (step state event) one.2 two.2⟩

theorem run_invariant {step : σ → ε → σ} {allowed : σ → ε → Prop} {invariant : σ → Prop}
    (preserves : ∀ state event, allowed state event → invariant state → invariant (step state event))
    (state : σ) {events : List ε} (holds : invariant state) (along : Along step allowed state events) :
      invariant (run step state events) := by
  induction events generalizing state with
  | nil => exact holds
  | cons event _ ih => exact ih (step state event) (preserves state event along.1 holds) along.2

theorem run_preserves (step : σ → ε → σ) (invariant : σ → Prop)
    (preserves : ∀ state event, invariant state → invariant (step state event)) (state : σ) (events : List ε)
    (holds : invariant state) : invariant (run step state events) := by
  induction events generalizing state with
  | nil => exact holds
  | cons event _ ih => exact ih (step state event) (preserves state event holds)

theorem run_leaves {step : σ → ε → σ} {holds : σ → Prop} (state : σ) {events : List ε} (starts : holds state)
    (ends : ¬holds (run step state events)) :
    ∃ before event after, events = before ++ event :: after ∧ Along step (fun reached _ => holds reached) state
      (before ++ [event]) ∧
      ¬holds (step (run step state before) event) := by
  induction events generalizing state with
  | nil => exact absurd starts ends
  | cons event events ih =>
    by_cases next : holds (step state event)
    · obtain ⟨before, last, after, split, along, left⟩ := ih (step state event) next ends
      exact ⟨event :: before, last, after, by rw [split]; rfl, ⟨starts, along⟩, left⟩
    · exact ⟨[], event, events, rfl, ⟨starts, trivial⟩, next⟩

-- A value that is carried along a run and looks at the states it passes.
def history {γ : Type} (step : σ → ε → σ) (grow : σ → ε → γ → γ) : σ → γ → List ε → γ
  | _, ghost, [] => ghost
  | state, ghost, event :: events => history step grow (step state event) (grow state event ghost) events

theorem history_invariant {γ : Type} {step : σ → ε → σ} {grow : σ → ε → γ → γ} {allowed : σ → ε → Prop}
    {invariant : σ → γ → Prop}
    (preserves : ∀ state event ghost, allowed state event → invariant state ghost →
      invariant (step state event) (grow state event ghost))
    (state : σ) (ghost : γ) {events : List ε} (holds : invariant state ghost)
    (along : Along step allowed state events) :
    invariant (run step state events) (history step grow state ghost events) := by
  induction events generalizing state ghost with
  | nil => exact holds
  | cons event _ ih => exact ih (step state event) (grow state event ghost) (preserves state event ghost along.1 holds) along.2

end Exec
