import Mathlib.Data.List.Induction

/-!
# Deterministic machines and their histories

A machine answers every input with a new state and a list of events. A run is the
machine fed with a list of inputs: it ends in a state and leaves behind the history
of all emitted events, oldest first. An open system is modelled by putting whatever
its environment decides (the schedule, clock readings, random bytes, replies of other
parties) into the inputs, so that "every run" reads "every list of inputs".
-/
namespace Execution

structure Machine (State Input Event : Type*) where
  step : State → Input → State × List Event

namespace Machine

variable {State Input Event : Type*} (m : Machine State Input Event)

/-- Final state and history of a run. -/
def exec (start : State) : List Input → State × List Event
  | [] => (start, [])
  | input :: rest =>
      let next := m.step start input
      let tail := exec next.1 rest
      (tail.1, next.2 ++ tail.2)

@[simp] theorem exec_nil (start : State) : m.exec start [] = (start, []) := rfl

theorem exec_append (start : State) (xs ys : List Input) :
    m.exec start (xs ++ ys) =
      ((m.exec (m.exec start xs).1 ys).1,
        (m.exec start xs).2 ++ (m.exec (m.exec start xs).1 ys).2) := by
  induction xs generalizing start with
  | nil => simp
  | cons input rest ih => simp [exec, ih, List.append_assoc]

/-- The last step of a run appends its own events to the history so far. -/
theorem exec_concat (start : State) (xs : List Input) (input : Input) :
    m.exec start (xs ++ [input]) =
      ((m.step (m.exec start xs).1 input).1,
        (m.exec start xs).2 ++ (m.step (m.exec start xs).1 input).2) := by
  simp [exec_append, exec]

/-- The invariant rule: what holds at the start with an empty history and is kept by
every step, with the history grown by that step's events, holds after every run. -/
theorem invariant (holds : State → List Event → Prop) (start : State)
    (initial : holds start [])
    (preserved : ∀ state history input, holds state history →
      holds (m.step state input).1 (history ++ (m.step state input).2))
    (inputs : List Input) : holds (m.exec start inputs).1 (m.exec start inputs).2 := by
  induction inputs using List.reverseRecOn with
  | nil => exact initial
  | append_singleton xs input ih =>
    rw [exec_concat]
    exact preserved _ _ _ ih

/-- Every step of the run meets `condition`, which sees the state before the step. -/
def Meets (condition : State → Input → Prop) : State → List Input → Prop
  | _, [] => True
  | state, input :: rest =>
      condition state input ∧ Meets condition (m.step state input).1 rest

theorem meets_append (condition : State → Input → Prop) (start : State) (xs ys : List Input) :
    m.Meets condition start (xs ++ ys) ↔
      m.Meets condition start xs ∧ m.Meets condition (m.exec start xs).1 ys := by
  induction xs generalizing start with
  | nil => simp [Meets]
  | cons input rest ih => simp [Meets, exec, ih, and_assoc]

theorem meets_concat (condition : State → Input → Prop) (start : State) (xs : List Input)
    (input : Input) :
    m.Meets condition start (xs ++ [input]) ↔
      m.Meets condition start xs ∧ condition (m.exec start xs).1 input := by
  simp [meets_append, Meets]

/-- A condition on the inputs alone is met by a run iff every input has it. -/
theorem meets_inputs (condition : Input → Prop) (start : State) (inputs : List Input) :
    m.Meets (fun _ input => condition input) start inputs ↔ ∀ input ∈ inputs, condition input := by
  induction inputs generalizing start with
  | nil => simp [Meets]
  | cons input rest ih => simp [Meets, ih]

/-- The invariant rule for runs whose steps all meet a condition. -/
theorem invariant_of_meets (condition : State → Input → Prop)
    (holds : State → List Event → Prop) (start : State) (initial : holds start [])
    (preserved : ∀ state history input, condition state input → holds state history →
      holds (m.step state input).1 (history ++ (m.step state input).2))
    (inputs : List Input) (met : m.Meets condition start inputs) :
    holds (m.exec start inputs).1 (m.exec start inputs).2 := by
  induction inputs using List.reverseRecOn with
  | nil => exact initial
  | append_singleton xs input ih =>
    obtain ⟨earlier, last⟩ := (meets_concat m condition start xs input).mp met
    rw [exec_concat]
    exact preserved _ _ _ last (ih earlier)

section Simulation

variable {State' Input' Event' : Type*} (abstract : Machine State' Input' Event')

/-- `m` simulates `abstract` when each of its steps is, through `project` and on the
events that `observe` picks, a run of `abstract` over the inputs `expand` gives. -/
structure Simulates (project : State → State') (expand : Input → List Input')
    (observe : Event → Option Event') : Prop where
  state : ∀ state input,
    project (m.step state input).1 = (abstract.exec (project state) (expand input)).1
  events : ∀ state input,
    (m.step state input).2.filterMap observe = (abstract.exec (project state) (expand input)).2

/-- A simulation lifts to runs: final state and observed history are those of the
abstract run over the expanded inputs. -/
theorem Simulates.exec_eq {project : State → State'} {expand : Input → List Input'}
    {observe : Event → Option Event'} (sim : m.Simulates abstract project expand observe)
    (start : State) (inputs : List Input) :
    abstract.exec (project start) (inputs.flatMap expand) =
      (project (m.exec start inputs).1, (m.exec start inputs).2.filterMap observe) := by
  induction inputs generalizing start with
  | nil => rfl
  | cons input rest ih =>
    simp only [List.flatMap_cons, exec_append, exec, List.filterMap_append]
    rw [← sim.state, ih, ← sim.events]

/-- `m` drives `abstract` when each of its steps is, through `project` and on the events that
`observe` picks, some run of `abstract`; the inputs of that run may depend on the state. -/
def Drives (project : State → State') (observe : Event → Option Event') : Prop :=
  ∀ state input, ∃ inputs, abstract.exec (project state) inputs =
    (project (m.step state input).1, (m.step state input).2.filterMap observe)

/-- So what holds of every run of `abstract` holds of what a run of `m` does to it. -/
theorem Drives.exec_eq {project : State → State'} {observe : Event → Option Event'}
    (drives : m.Drives abstract project observe) (start : State) (inputs : List Input) :
    ∃ inputs', abstract.exec (project start) inputs' =
      (project (m.exec start inputs).1, (m.exec start inputs).2.filterMap observe) := by
  induction inputs generalizing start with
  | nil => exact ⟨[], rfl⟩
  | cons input rest ih =>
    obtain ⟨first, step⟩ := drives start input
    obtain ⟨later, run⟩ := ih (m.step start input).1
    refine ⟨first ++ later, ?_⟩
    simp only [exec_append, exec, List.filterMap_append, step, run]

end Simulation

section Purge

variable {State' : Type*} (abstract : Machine State' Input Event)

/-- The unwinding rule for histories seen through a filter. If the inputs that are not `owned`
emit nothing `observed`, and the owned ones emit what `abstract` emits for them, then what is
observed of a run is the run of `abstract` over the owned inputs alone. The relation that
carries the argument sees the inputs still to come, so it may ask something of them. -/
theorem exec_filter_eq (owned : Input → Bool) (observed : Event → Bool)
    (related : List Input → State → State' → Prop)
    (skipped : ∀ input rest state state', owned input = false →
      related (input :: rest) state state' →
        related rest (m.step state input).1 state' ∧
          (m.step state input).2.filter observed = [])
    (taken : ∀ input rest state state', owned input = true →
      related (input :: rest) state state' →
        related rest (m.step state input).1 (abstract.step state' input).1 ∧
          (m.step state input).2.filter observed = (abstract.step state' input).2)
    (inputs : List Input) (start : State) (start' : State')
    (initial : related inputs start start') :
    (m.exec start inputs).2.filter observed = (abstract.exec start' (inputs.filter owned)).2 := by
  induction inputs generalizing start start' with
  | nil => simp
  | cons input rest ih =>
    simp only [exec, List.filter_append]
    cases mine : owned input with
    | false =>
      -- the abstract machine does not see this input
      obtain ⟨kept, silent⟩ := skipped input rest start start' mine initial
      rw [silent, List.nil_append, List.filter_cons_of_neg (by simp [mine])]
      exact ih _ _ kept
    | true =>
      -- both machines take the step
      obtain ⟨kept, same⟩ := taken input rest start start' mine initial
      rw [same, List.filter_cons_of_pos mine, ih _ _ kept]
      rfl

/-- The same rule for states: what the skipped inputs do not separate, the end of the run does not
separate either. -/
theorem exec_filter_related (owned : Input → Bool) (related : List Input → State → State → Prop)
    (skipped : ∀ input rest state state', owned input = false →
      related (input :: rest) state state' → related rest (m.step state input).1 state')
    (taken : ∀ input rest state state', owned input = true →
      related (input :: rest) state state' →
        related rest (m.step state input).1 (m.step state' input).1)
    (inputs : List Input) (start start' : State) (initial : related inputs start start') :
    related [] (m.exec start inputs).1 (m.exec start' (inputs.filter owned)).1 := by
  induction inputs generalizing start start' with
  | nil => exact initial
  | cons input rest ih =>
    cases mine : owned input with
    | false =>
      rw [List.filter_cons_of_neg (by simp [mine])]
      exact ih _ _ (skipped input rest start start' mine initial)
    | true =>
      rw [List.filter_cons_of_pos mine]
      exact ih _ _ (taken input rest start start' mine initial)

end Purge

end Machine

end Execution
