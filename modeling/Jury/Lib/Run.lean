import Mathlib

-- A machine that answers one input after another, and what holds along its runs.
namespace Jury.Lib

variable {σ ι ο : Type}

structure Machine (σ ι ο : Type) where
  step : σ → ι → ο × σ

structure Event (σ ι ο : Type) where
  before : σ
  input : ι
  output : ο
  after : σ

namespace Machine

variable (machine : Machine σ ι ο)

def event (state : σ) (input : ι) : Event σ ι ο where
  before := state
  input
  output := (machine.step state input).1
  after := (machine.step state input).2

def trace : σ → List ι → List (Event σ ι ο)
  | _, [] => []
  | state, input :: rest => machine.event state input :: trace (machine.step state input).2 rest

def final : σ → List ι → σ
  | state, [] => state
  | state, input :: rest => final (machine.step state input).2 rest

theorem final_append (state : σ) (xs ys : List ι) :
    machine.final state (xs ++ ys) = machine.final (machine.final state xs) ys := by
  induction xs generalizing state with
  | nil => rfl
  | cons input rest ih => exact ih _

theorem trace_append (state : σ) (xs ys : List ι) :
    machine.trace state (xs ++ ys) = machine.trace state xs ++ machine.trace (machine.final state xs) ys := by
  induction xs generalizing state with
  | nil => rfl
  | cons input rest ih => simp only [trace, final, List.cons_append, ih]

variable {state : σ} {inputs : List ι} {P : σ → Prop}

theorem mem_trace {event : Event σ ι ο} : event ∈ machine.trace state inputs ↔
      ∃ earlier input later, inputs = earlier ++ input :: later ∧
        event = machine.event (machine.final state earlier) input := by
  constructor
  · intro h
    induction inputs generalizing state with
    | nil => cases h
    | cons input rest ih =>
      rcases List.mem_cons.mp h with rfl | h
      · exact ⟨[], input, rest, rfl, rfl⟩
      · obtain ⟨earlier, other, later, rfl, rfl⟩ := ih h
        exact ⟨input :: earlier, other, later, rfl, rfl⟩
  · rintro ⟨earlier, input, later, rfl, rfl⟩
    rw [trace_append]
    exact List.mem_append_right _ List.mem_cons_self

theorem event_after (state : σ) (earlier : List ι) (input : ι) :
    (machine.event (machine.final state earlier) input).after = machine.final state (earlier ++ [input]) := by
  rw [final_append]
  rfl

-- Of two events of a run one comes first, and the run goes on from it to the other.
theorem trace_total {first second : Event σ ι ο} (hfirst : first ∈ machine.trace state inputs)
    (hsecond : second ∈ machine.trace state inputs) : (∃ between, second.after = machine.final first.after between) ∨
      ∃ between, first.after = machine.final second.after between := by
  induction inputs generalizing state with
  | nil => cases hfirst
  | cons input rest ih =>
    have hlater : ∀ event ∈ machine.trace (machine.step state input).2 rest,
        ∃ between, event.after = machine.final (machine.event state input).after between := by
      intro event hevent
      obtain ⟨earlier, last, later, -, rfl⟩ := (mem_trace machine).mp hevent
      exact ⟨earlier ++ [last], event_after machine _ earlier last⟩
    rcases List.mem_cons.mp hfirst with rfl | hfirst
    · rcases List.mem_cons.mp hsecond with rfl | hsecond
      · exact .inl ⟨[], rfl⟩
      · exact .inl (hlater second hsecond)
    · rcases List.mem_cons.mp hsecond with rfl | hsecond
      · exact .inr (hlater first hfirst)
      · exact ih hfirst hsecond

variable {machine}

-- What every step preserves, a run preserves.
theorem final_preserves (h : P state) (hstep : ∀ state, ∀ input ∈ inputs, P state → P (machine.step state input).2) :
    P (machine.final state inputs) := by
  induction inputs generalizing state with
  | nil => exact h
  | cons input rest ih =>
    exact ih (hstep state input List.mem_cons_self h) fun state input hinput =>
      hstep state input (List.mem_cons_of_mem _ hinput)

-- A property of single events that holds in every state with the invariant holds along a run.
theorem forall_trace {Q : Event σ ι ο → Prop} (h : P state)
    (hstep : ∀ state, ∀ input ∈ inputs, P state → P (machine.step state input).2)
    (hevent : ∀ state, ∀ input ∈ inputs, P state → Q (machine.event state input)) :
    ∀ event ∈ machine.trace state inputs, Q event := by
  intro event hmem
  obtain ⟨earlier, input, later, rfl, rfl⟩ := (mem_trace machine).mp hmem
  refine hevent _ input (by simp) (final_preserves h fun state input hinput => hstep state input ?_)
  exact List.mem_append_left _ hinput

end Machine

end Jury.Lib
