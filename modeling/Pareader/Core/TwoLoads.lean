import Pareader.Core.Machine

/-!
# Reading in two loads

A read which follows a shared pointer loads a key first, and the value at that
key later; in between others take steps.  It is linearizable if the value which
it returns is the one which both loads together would have returned at some
moment between them.

This holds as soon as the value at a key which the pointer has left is frozen:
from the step on which leaves it until the pointer comes back, it is the value
which was last there.
-/

namespace Pareader.Core

namespace Machine

variable {State Action : Type}

/-- A trace from one state passes through another. -/
def Passes (machine : Machine State Action) (state : State)
    (trace : List Action) (middle : State) : Prop :=
  ∃ before after, trace = before ++ after ∧
    machine.replay state before = some middle

theorem Passes.append
    {machine : Machine State Action} {state middle : State}
    {trace : List Action} (passes : machine.Passes state trace middle)
    (more : List Action) :
    machine.Passes state (trace ++ more) middle := by
  rcases passes with ⟨before, after, rfl, replayed⟩
  exact ⟨before, after ++ more, List.append_assoc _ _ _, replayed⟩

/-- A trace passes through its end. -/
theorem passes_last
    {machine : Machine State Action} {state final : State}
    {trace : List Action}
    (replayed : machine.replay state trace = some final) :
    machine.Passes state trace final :=
  ⟨trace, [], (List.append_nil trace).symm, replayed⟩

end Machine

/-- A read which loads a key and then the value at that key. -/
structure TwoLoads (State Key Value : Type) where
  key : State → Key
  value : Key → State → Value

namespace TwoLoads

variable {State Action Key Value : Type}

/-- Both loads at once. -/
def atomic (read : TwoLoads State Key Value) (state : State) : Value :=
  read.value (read.key state) state

/-- What the value at a key does while the pointer is elsewhere. -/
structure Frozen (machine : Machine State Action)
    (read : TwoLoads State Key Value) where
  left : Key → State → Prop
  leaves : ∀ state action next,
    machine.Reachable state →
    machine.step state action = some next →
    read.key next ≠ read.key state →
      left (read.key state) next ∧
        read.value (read.key state) next = read.atomic state
  stays : ∀ key state action next,
    machine.Reachable state →
    left key state →
    machine.step state action = some next →
      read.key next = key ∨
        left key next ∧ read.value key next = read.value key state

/--
The value at a key which was loaded is still the one at the pointer, or it is
the last one which was there since then.
-/
def Frozen.Seen {machine : Machine State Action}
    {read : TwoLoads State Key Value} (frozen : read.Frozen machine)
    (key : Key) (history : List State) (state : State) : Prop :=
  read.key state = key ∨
    frozen.left key state ∧
      ∃ middle ∈ history, read.atomic middle = read.value key state

namespace Frozen

variable {machine : Machine State Action} {read : TwoLoads State Key Value}
variable {frozen : read.Frozen machine}

theorem Seen.step
    {key : Key} {history : List State} {state next : State} {action : Action}
    (seen : frozen.Seen key history state)
    (reached : machine.Reachable state)
    (taken : machine.step state action = some next) :
    frozen.Seen key (history ++ [state]) next := by
  by_cases back : read.key next = key
  · exact Or.inl back
  · rcases seen with here | ⟨left, middle, member, same⟩
    · have moved : read.key next ≠ read.key state := by
        rwa [here]
      rcases frozen.leaves state action next reached taken moved with
        ⟨left, kept⟩
      rw [here] at left kept
      exact Or.inr ⟨left, state, by simp, kept.symm⟩
    · rcases frozen.stays key state action next reached left taken with
        returned | ⟨leftOn, kept⟩
      · exact (back returned).elim
      · exact Or.inr ⟨leftOn, middle, List.mem_append_left _ member,
          same.trans kept.symm⟩

theorem Seen.extend
    {key : Key} {history : List State} {state : State}
    (seen : frozen.Seen key history state) (more : List State) :
    frozen.Seen key (history ++ more) state := by
  rcases seen with here | ⟨left, middle, member, same⟩
  · exact Or.inl here
  · exact Or.inr ⟨left, middle, List.mem_append_left _ member, same⟩

/-- The second load returns a value which was there at some moment. -/
theorem Seen.sample
    {key : Key} {history : List State} {state : State}
    (seen : frozen.Seen key history state) :
    ∃ middle ∈ history ++ [state],
      read.atomic middle = read.value key state := by
  rcases seen with here | ⟨-, middle, member, same⟩
  · exact ⟨state, by simp, congrArg (read.value · state) here⟩
  · exact ⟨middle, List.mem_append_left _ member, same⟩

/-- Two loads of a frozen value are linearizable. -/
theorem linearizable (frozen : read.Frozen machine) {state later : State}
    (reached : machine.Reachable state) (trace : List Action)
    (replayed : machine.replay state trace = some later) :
    ∃ middle, machine.Passes state trace middle ∧
      read.atomic middle = read.value (read.key state) later := by
  have tracked : ∃ history,
      (∀ middle ∈ history, machine.Passes state trace middle) ∧
        frozen.Seen (read.key state) history later := by
    induction trace using List.reverseRecOn generalizing later with
    | nil =>
        cases replayed
        exact ⟨[], by simp, Or.inl rfl⟩
    | append_singleton trace action induction =>
        rw [Machine.replay_concat] at replayed
        rcases Option.bind_eq_some_iff.mp replayed with
          ⟨last, before, taken⟩
        rcases induction before with ⟨history, passed, seen⟩
        refine ⟨history ++ [last], ?_,
          seen.step (reached.replay trace before) taken⟩
        intro middle member
        rcases List.mem_append.mp member with earlier | here
        · exact (passed middle earlier).append [action]
        · rw [List.mem_singleton.mp here]
          exact (Machine.passes_last before).append [action]
  rcases tracked with ⟨history, passed, seen⟩
  rcases seen.sample with ⟨middle, member, same⟩
  rcases List.mem_append.mp member with earlier | here
  · exact ⟨middle, passed middle earlier, same⟩
  · rw [List.mem_singleton.mp here] at same
    exact ⟨later, Machine.passes_last replayed, same⟩

end Frozen

end TwoLoads

/-! ## Samples of a history -/

/-- The tests are passed, in their order, by states of the history. -/
def Samples {State : Type} (tests : List (State → Prop))
    (history : List State) : Prop :=
  List.SublistForall₂ (fun test state => test state) tests history

namespace Samples

variable {State : Type} {tests more : List (State → Prop)}
variable {history later : List State}

theorem append (samples : Samples tests history)
    (further : Samples more later) :
    Samples (tests ++ more) (history ++ later) := by
  rcases List.sublistForall₂_iff.mp samples with ⟨states, passed, inside⟩
  rcases List.sublistForall₂_iff.mp further with ⟨others, passedOn, insideOn⟩
  exact List.sublistForall₂_iff.mpr
    ⟨states ++ others, List.rel_append passed passedOn,
      inside.append insideOn⟩

theorem extend (samples : Samples tests history) (later : List State) :
    Samples tests (history ++ later) := by
  have extended := samples.append (List.SublistForall₂.nil (l := later))
  rwa [List.append_nil] at extended

/-- One more test, passed by some state after the others. -/
theorem concat (samples : Samples tests history) {test : State → Prop}
    (passed : ∃ state ∈ later, test state) :
    Samples (tests ++ [test]) (history ++ later) := by
  rcases passed with ⟨state, member, holds⟩
  refine samples.append (List.sublistForall₂_iff.mpr ⟨[state], ?_, ?_⟩)
  · exact .cons holds .nil
  · exact List.singleton_sublist.mpr member

theorem left (samples : Samples (tests ++ more) history) :
    Samples tests history := by
  rcases List.sublistForall₂_iff.mp samples with ⟨states, passed, inside⟩
  refine List.sublistForall₂_iff.mpr ⟨states.take tests.length, ?_, ?_⟩
  · have taken := List.forall₂_take tests.length passed
    rwa [List.take_left] at taken
  · exact (List.take_sublist _ _).trans inside

theorem exists_of_mem (samples : Samples tests history) {test : State → Prop}
    (member : test ∈ tests) : ∃ state ∈ history, test state := by
  rcases List.sublistForall₂_iff.mp samples with ⟨states, passed, inside⟩
  rcases List.forall₂_iff_get.mp passed with ⟨length, each⟩
  rcases List.mem_iff_get.mp member with ⟨index, rfl⟩
  have bound : index < states.length := length ▸ index.isLt
  exact ⟨states.get ⟨index, bound⟩, inside.subset (List.get_mem _ _),
    each index index.isLt bound⟩

end Samples

end Pareader.Core
