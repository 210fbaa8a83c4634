import AuthKit.Library.Machine
import AuthKit.Library.Past
import Mathlib.Logic.Function.Basic

/-!
# Concurrent calls cut into atomic sections

A procedure runs as a sequence of atomic sections over a state it shares with all other
calls. Between two sections a call rests at a program point. A schedule invokes any number
of calls and lets any of them execute its next section at any time, so the runs of
`Procedure.machine` are exactly the interleavings of the calls' sections.
-/
namespace Execution

/-- `start` is what a call does before its first section (it touches no shared state);
`advance` executes one section. Both either stop at a program point or return. -/
structure Procedure (Shared Args Input Point Result : Type*) where
  start : Args → Point ⊕ Result
  advance : Args → Point → Input → Shared → Shared × (Point ⊕ Result)

inductive Call (Args Point Result : Type*) where
  | running (args : Args) (point : Point)
  | returned (args : Args) (result : Result)

structure World (Shared Args Point Result : Type*) where
  shared : Shared
  calls : Nat → Option (Call Args Point Result)

def Call.args {Args Point Result : Type*} : Call Args Point Result → Args
  | .running args _ => args
  | .returned args _ => args

/-- No call has been invoked yet. -/
def World.idle {Shared Args Point Result : Type*} (shared : Shared) :
    World Shared Args Point Result := ⟨shared, fun _ => none⟩

inductive Action (Args Input : Type*) where
  | invoke (id : Nat) (args : Args)
  | advance (id : Nat) (input : Input)

/-- The execution of one section. -/
structure Section (Args Input Point Result : Type*) where
  id : Nat
  args : Args
  point : Point
  input : Input
  outcome : Point ⊕ Result

/-- The name of the call, when the section is the one in which it returns. -/
def Section.returnedId {Args Input Point Result : Type*}
    (sect : Section Args Input Point Result) : Option Nat :=
  match sect.outcome with
  -- the call stopped at its next point
  | .inl _ => none
  | .inr _ => some sect.id

theorem Section.returnedId_eq_some_iff {Args Input Point Result : Type*}
    (sect : Section Args Input Point Result) (id : Nat) :
    sect.returnedId = some id ↔ sect.id = id ∧ ∃ result, sect.outcome = .inr result := by
  unfold Section.returnedId
  cases sect.outcome <;> simp

namespace Procedure

variable {Shared Args Input Point Result : Type*}
variable (p : Procedure Shared Args Input Point Result)

/-- The record of a call that stopped at a point or returned. -/
def status (args : Args) : Point ⊕ Result → Call Args Point Result
  | .inl point => .running args point
  | .inr result => .returned args result

def step (world : World Shared Args Point Result) :
    Action Args Input → World Shared Args Point Result × List (Section Args Input Point Result)
  | .invoke id args =>
      match world.calls id with
      | none =>
          (⟨world.shared, Function.update world.calls id (some (status args (p.start args)))⟩, [])
      -- the name is taken
      | some _ => (world, [])
  | .advance id input =>
      match world.calls id with
      | some (.running args point) =>
          let next := p.advance args point input world.shared
          (⟨next.1, Function.update world.calls id (some (status args next.2))⟩,
            [⟨id, args, point, input, next.2⟩])
      -- nothing to execute: no such call, or it has returned
      | _ => (world, [])

def machine : Machine (World Shared Args Point Result) (Action Args Input)
    (Section Args Input Point Result) := ⟨p.step⟩

/-- World and history of a schedule that starts with no call in flight. -/
def run (shared : Shared) (schedule : List (Action Args Input)) :
    World Shared Args Point Result × List (Section Args Input Point Result) :=
  p.machine.exec (World.idle shared) schedule

/-- One more action appends its section, if it executes one, to the history. -/
theorem run_concat (shared : Shared) (earlier : List (Action Args Input))
    (action : Action Args Input) :
    p.run shared (earlier ++ [action]) =
      ((p.step (p.run shared earlier).1 action).1,
        (p.run shared earlier).2 ++ (p.step (p.run shared earlier).1 action).2) :=
  p.machine.exec_concat (World.idle shared) earlier action

/-- A running call that is scheduled adds its next section to the history. -/
theorem run_advance (shared : Shared) (earlier : List (Action Args Input)) (id : Nat)
    (input : Input) (args : Args) (point : Point)
    (running : (p.run shared earlier).1.calls id = some (.running args point)) :
    (p.run shared (earlier ++ [.advance id input])).2 =
      (p.run shared earlier).2 ++ [⟨id, args, point, input,
        (p.advance args point input (p.run shared earlier).1.shared).2⟩] := by
  rw [run_concat]
  simp only [step, running]

/-- Everything a scheduled action can do: nothing, invoke a call under an unused name, or
execute one section of a running call. -/
theorem step_cases (world : World Shared Args Point Result) (action : Action Args Input) :
    p.step world action = (world, []) ∨
    (∃ id args, action = .invoke id args ∧ world.calls id = none ∧ p.step world action =
      (⟨world.shared, Function.update world.calls id (some (status args (p.start args)))⟩, [])) ∨
    (∃ id args point input shared outcome, action = .advance id input ∧
      world.calls id = some (.running args point) ∧
      p.advance args point input world.shared = (shared, outcome) ∧
      p.step world action = (⟨shared, Function.update world.calls id (some (status args outcome))⟩,
        [⟨id, args, point, input, outcome⟩])) := by
  cases action with
  | invoke id args =>
    cases found : world.calls id with
    | none => exact Or.inr (Or.inl ⟨id, args, rfl, found, by simp [step, found]⟩)
    -- the name is taken
    | some call => exact Or.inl (by simp [step, found])
  | advance id input =>
    cases found : world.calls id with
    | none => exact Or.inl (by simp [step, found])
    | some call =>
      cases call with
      | running args point =>
        exact Or.inr (Or.inr ⟨id, args, point, input, _, _, rfl, found, rfl,
          by simp [step, found]⟩)
      -- a call that has returned has no section left
      | returned args result => exact Or.inl (by simp [step, found])

/-- The invariant rule for interleavings: it is enough that the invariant survives the
invocation of a call and the execution of one section of a running call. -/
theorem invariant
    (holds : World Shared Args Point Result → List (Section Args Input Point Result) → Prop)
    (shared : Shared) (initial : holds (World.idle shared) [])
    (invoked : ∀ world history id args, holds world history → world.calls id = none →
      holds ⟨world.shared, Function.update world.calls id (some (status args (p.start args)))⟩
        history)
    (advanced : ∀ world history id args point input shared outcome, holds world history →
      world.calls id = some (.running args point) →
      p.advance args point input world.shared = (shared, outcome) →
      holds ⟨shared, Function.update world.calls id (some (status args outcome))⟩
        (history ++ [⟨id, args, point, input, outcome⟩]))
    (schedule : List (Action Args Input)) :
    holds (p.run shared schedule).1 (p.run shared schedule).2 := by
  apply p.machine.invariant holds _ initial
  intro world history action now
  change holds (p.step world action).1 (history ++ (p.step world action).2)
  -- an action does nothing, invokes a call or executes a section
  rcases p.step_cases world action with same | ⟨id, args, _, free, result⟩ |
    ⟨id, args, point, input, shared', outcome, _, running, section', result⟩
  · rw [same, List.append_nil]; exact now
  · rw [result, List.append_nil]; exact invoked world history id args now free
  · rw [result]; exact advanced world history id args point input shared' outcome now running section'

/-! ### One call at a time -/

/-- A call that nothing interrupts, from the point it rests at, one input per section. -/
def solo (args : Args) (shared : Shared) : Point ⊕ Result → List Input → Shared × (Point ⊕ Result)
  | .inr result, _ => (shared, .inr result)
  | .inl point, [] => (shared, .inl point)
  | .inl point, input :: rest =>
      let next := p.advance args point input shared
      solo args next.1 next.2 rest

private theorem exec_advance (args : Args) (id : Nat) (inputs : List Input) (shared : Shared)
    (calls : Nat → Option (Call Args Point Result)) (rests : Point ⊕ Result) :
    (p.machine.exec ⟨shared, Function.update calls id (some (status args rests))⟩
        (inputs.map (.advance id))).1 =
      ⟨(p.solo args shared rests inputs).1,
        Function.update calls id (some (status args (p.solo args shared rests inputs).2))⟩ := by
  induction inputs generalizing shared rests with
  | nil => cases rests <;> rfl
  | cons input rest ih =>
    cases rests with
    | inl point =>
      simp only [List.map_cons, Machine.exec, machine, step, Function.update_self, status, solo,
        Function.update_idem]
      exact ih _ _
    | inr result =>
      have same := ih shared (.inr result)
      simp only [List.map_cons, Machine.exec, machine, step, Function.update_self, status, solo]
        at same ⊢
      cases rest <;> exact same

/-- A call that is invoked and then runs alone acts on the shared state as its sections in a
row do. -/
theorem exec_solo (world : World Shared Args Point Result) (id : Nat) (args : Args)
    (free : world.calls id = none) (inputs : List Input) :
    (p.machine.exec world (.invoke id args :: inputs.map (.advance id))).1 =
      ⟨(p.solo args world.shared (p.start args) inputs).1,
        Function.update world.calls id
          (some (status args (p.solo args world.shared (p.start args) inputs).2))⟩ := by
  have invoked : p.machine.step world (.invoke id args) =
      (⟨world.shared, Function.update world.calls id (some (status args (p.start args)))⟩, []) := by
    simp only [machine, step, free]
  rw [Machine.exec, invoked]
  exact p.exec_advance args id inputs world.shared world.calls (p.start args)

/-! ### What the history of a run says -/

section History

variable (shared : Shared) (schedule : List (Action Args Input))

/-- A call runs with the arguments it was invoked with. -/
theorem invoked (id : Nat) (call : Call Args Point Result)
    (found : (p.run shared schedule).1.calls id = some call) :
    .invoke id call.args ∈ schedule := by
  induction schedule using List.reverseRecOn generalizing call with
  | nil => cases found
  | append_singleton earlier action ih =>
    rw [run_concat] at found
    rcases p.step_cases (p.run shared earlier).1 action with same | ⟨other, args, rfl, _, result⟩ |
      ⟨other, args, point, input, shared', outcome, _, running, _, result⟩
    · rw [same] at found
      exact List.mem_append_left _ (ih call found)
    · rw [result] at found
      by_cases named : id = other
      · -- this very action invoked the call
        subst named
        simp only [Function.update_self, Option.some.injEq] at found
        rw [← found]
        cases p.start args <;> exact List.mem_append_right _ (List.mem_singleton.mpr rfl)
      · simp only [Function.update_of_ne named] at found
        exact List.mem_append_left _ (ih call found)
    · rw [result] at found
      by_cases named : id = other
      · -- a section leaves its call's arguments as they are
        subst named
        simp only [Function.update_self, Option.some.injEq] at found
        have before := ih _ running
        rw [← found]
        cases outcome <;> exact List.mem_append_left _ before
      · simp only [Function.update_of_ne named] at found
        exact List.mem_append_left _ (ih call found)

/-- A call that rests at a point was started there or sent there by one of its sections. -/
theorem entered (id : Nat) (args : Args) (point : Point)
    (running : (p.run shared schedule).1.calls id = some (.running args point)) :
    p.start args = .inl point ∨
      ∃ sect ∈ (p.run shared schedule).2, sect.id = id ∧ sect.args = args ∧
        sect.outcome = .inl point := by
  refine p.invariant (fun world history => ∀ id args point,
    world.calls id = some (.running args point) → p.start args = .inl point ∨
      ∃ sect ∈ history, sect.id = id ∧ sect.args = args ∧
        sect.outcome = .inl point) shared ?_ ?_ ?_ schedule id args point running
  · intro id args point running
    -- nothing runs in the idle world
    cases running
  · intro world history call args before _ id args' point running
    by_cases same : id = call
    · subst same
      simp only [Function.update_self, Option.some.injEq] at running
      -- an invoked call rests where it starts, if it does not return at once
      cases started : p.start args with
      | inl first =>
        rw [started] at running
        cases running
        exact Or.inl started
      | inr result =>
        rw [started] at running
        cases running
    · simp only [Function.update_of_ne same] at running
      exact before id args' point running
  · intro world history call args at' input shared' outcome before _ _ id args' point running
    by_cases same : id = call
    · subst same
      simp only [Function.update_self, Option.some.injEq] at running
      -- the call that has just moved rests where its section sent it
      cases outcome with
      | inl next =>
        cases running
        exact Or.inr ⟨_, List.mem_append_right _ (List.mem_singleton.mpr rfl), rfl, rfl, rfl⟩
      | inr result => cases running
    · simp only [Function.update_of_ne same] at running
      rcases before id args' point running with started | ⟨earlier, member, facts⟩
      · exact Or.inl started
      · exact Or.inr ⟨earlier, List.mem_append_left _ member, facts⟩

/-- A call whose section returned has returned for good. -/
theorem stays_returned (sect : Section Args Input Point Result) (result : Result)
    (member : sect ∈ (p.run shared schedule).2) (returns : sect.outcome = .inr result) :
    (p.run shared schedule).1.calls sect.id = some (.returned sect.args result) := by
  refine p.invariant (fun world history => ∀ sect ∈ history, ∀ result,
    sect.outcome = .inr result → world.calls sect.id =
      some (.returned sect.args result)) shared (by simp) ?_ ?_ schedule sect member
        result returns
  · intro world history call args before free sect member result returns
    have done := before sect member result returns
    -- a name that has returned is neither free nor running, so this is another call
    have other : sect.id ≠ call := by
      intro same
      rw [same, free] at done
      cases done
    simp only [Function.update_of_ne other]
    exact done
  · intro world history call args point input shared' outcome before running _ sect member
      result returns
    rcases List.mem_append.mp member with old | new
    · have done := before sect old result returns
      have other : sect.id ≠ call := by
        intro same
        rw [same, running] at done
        cases done
      simp only [Function.update_of_ne other]
      exact done
    · -- the section that has just returned
      cases List.mem_singleton.mp new
      simp only [Function.update_self]
      cases outcome with
      | inl next => cases returns
      | inr value =>
        cases returns
        rfl

/-- Every section in the history of a run was executed in a world that an initial part of the
schedule reaches. -/
theorem reached (before after : List (Section Args Input Point Result))
    (sect : Section Args Input Point Result)
    (split : (p.run shared schedule).2 = before ++ sect :: after) :
    ∃ earlier rest, schedule = earlier ++ .advance sect.id sect.input :: rest ∧
      (p.run shared earlier).2 = before ∧
      (p.run shared earlier).1.calls sect.id =
        some (.running sect.args sect.point) ∧
      (p.advance sect.args sect.point sect.input
        (p.run shared earlier).1.shared).2 = sect.outcome := by
  induction schedule using List.reverseRecOn generalizing after with
  | nil => simp [run] at split
  | append_singleton earlier action ih =>
    rw [run_concat] at split
    rcases p.step_cases (p.run shared earlier).1 action with same | ⟨id, args, _, _, result⟩ |
      ⟨id, args, point, input, shared', outcome, rfl, running, advanced, result⟩
    · rw [same, List.append_nil] at split
      obtain ⟨first, rest, rfl, facts⟩ := ih after split
      exact ⟨first, rest ++ [action], by simp, facts⟩
    · rw [result, List.append_nil] at split
      obtain ⟨first, rest, rfl, facts⟩ := ih after split
      exact ⟨first, rest ++ [action], by simp, facts⟩
    · rw [result] at split
      rcases List.eq_nil_or_concat after with rfl | ⟨later, final, rfl⟩
      · -- the section is the last one of the run
        obtain ⟨historyEq, sectionEq⟩ := List.append_inj' split rfl
        cases List.singleton_inj.mp sectionEq
        exact ⟨earlier, [], rfl, historyEq, running, by rw [advanced]⟩
      · rw [List.concat_eq_append, ← List.cons_append, ← List.append_assoc] at split
        obtain ⟨historyEq, _⟩ := List.append_inj' split rfl
        obtain ⟨first, rest, rfl, facts⟩ := ih later historyEq
        exact ⟨first, rest ++ [.advance id input], by simp, facts⟩

/-- Before a section that is not its call's first comes the section that led to it. -/
theorem preceded (before after : List (Section Args Input Point Result))
    (sect : Section Args Input Point Result)
    (split : (p.run shared schedule).2 = before ++ sect :: after) :
    p.start sect.args = .inl sect.point ∨
      ∃ first prior between, before = first ++ prior :: between ∧ prior.id = sect.id ∧
        prior.args = sect.args ∧ prior.outcome = .inl sect.point := by
  obtain ⟨earlier, _, _, historyEq, running, _⟩ := p.reached shared schedule before after sect split
  rcases p.entered shared earlier sect.id sect.args sect.point running with
    started | ⟨prior, member, sameId, sameArgs, outcome⟩
  · exact Or.inl started
  · rw [historyEq] at member
    obtain ⟨first, between, rfl⟩ := List.append_of_mem member
    exact Or.inr ⟨first, prior, between, rfl, sameId, sameArgs, outcome⟩

/-- A call executes no section after the one in which it returned. -/
theorem silent_after_return (before after : List (Section Args Input Point Result))
    (sect later : Section Args Input Point Result) (result : Result)
    (split : (p.run shared schedule).2 = before ++ later :: after) (member : sect ∈ before)
    (returns : sect.outcome = .inr result) : later.id ≠ sect.id := by
  intro same
  obtain ⟨earlier, _, _, historyEq, running, _⟩ := p.reached shared schedule before after later split
  have done := p.stays_returned shared earlier sect result (historyEq ▸ member) returns
  rw [← same, running] at done
  cases done

/-- No call returns twice. -/
theorem returns_once : ((p.run shared schedule).2.filterMap Section.returnedId).Nodup := by
  rw [nodup_filterMap_iff]
  intro before sect after id split returned repeated
  obtain ⟨earlier, member, returnedEarlier⟩ := List.mem_filterMap.mp repeated
  obtain ⟨rfl, _⟩ := (Section.returnedId_eq_some_iff sect _).mp returned
  obtain ⟨same, result, returns⟩ := (Section.returnedId_eq_some_iff earlier _).mp returnedEarlier
  exact p.silent_after_return shared schedule before after earlier sect result split member returns
    same.symm

/-- If every section that goes on leads to a point of higher rank, the sections of a call come in
the order of their ranks. -/
theorem ranked (rank : Point → Nat)
    (ascends : ∀ args point input shared next,
      (p.advance args point input shared).2 = .inl next → rank point < rank next) :
    (p.run shared schedule).2.Pairwise fun earlier later =>
      earlier.id = later.id → rank earlier.point < rank later.point := by
  refine (p.invariant (fun world history =>
    (history.Pairwise fun earlier later =>
      earlier.id = later.id → rank earlier.point < rank later.point) ∧
    ∀ sect ∈ history, ∃ call, world.calls sect.id = some call ∧
      ∀ args point, call = .running args point → rank sect.point < rank point)
    shared ?_ ?_ ?_ schedule).1
  · exact ⟨List.Pairwise.nil, by simp⟩
  · intro world history id args ⟨inOrder, below⟩ free
    refine ⟨inOrder, fun sect member => ?_⟩
    obtain ⟨call, found, lower⟩ := below sect member
    -- a name with a section in the history is taken
    have other : sect.id ≠ id := by
      intro same
      rw [same, free] at found
      cases found
    exact ⟨call, (Function.update_of_ne other _ _).trans found, lower⟩
  · intro world history id args point input shared' outcome ⟨inOrder, below⟩ running advanced
    constructor
    · rw [List.pairwise_append]
      refine ⟨inOrder, List.pairwise_singleton _ _, fun sect member last new => ?_⟩
      cases List.mem_singleton.mp new
      intro (mine : sect.id = id)
      obtain ⟨call, found, lower⟩ := below sect member
      rw [mine, running] at found
      cases found
      exact lower args point rfl
    · intro sect member
      rcases List.mem_append.mp member with old | new
      · obtain ⟨call, found, lower⟩ := below sect old
        by_cases mine : sect.id = id
        · subst mine
          rw [running] at found
          cases found
          refine ⟨_, Function.update_self .., ?_⟩
          intro args' next rests
          cases outcome with
          | inl point' =>
            cases rests
            exact Nat.lt_trans (lower args point rfl)
              (ascends args point input world.shared _ (congrArg Prod.snd advanced))
          | inr result => cases rests
        · exact ⟨call, (Function.update_of_ne mine _ _).trans found, lower⟩
      · cases List.mem_singleton.mp new
        refine ⟨_, Function.update_self .., ?_⟩
        intro args' next rests
        cases outcome with
        | inl point' =>
          cases rests
          exact ascends args point input world.shared _ (congrArg Prod.snd advanced)
        | inr result => cases rests

end History

end Procedure

end Execution
