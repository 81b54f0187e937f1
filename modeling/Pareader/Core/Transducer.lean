import Mathlib

/-!
# Deterministic transducers

A transducer reads one input at a time, updates its state and emits a finite
list of outputs.  A run is therefore compositional in its input, so the way a
stream is cut into chunks cannot be observed.

The module also provides the two rules by which runs are analysed: invariants
of the states along a run, and a simulation rule in which one concrete step
corresponds to any number of abstract steps and only part of the concrete
output is visible.

The last sections are two abstract machines.  The change detector stores the
last value it was shown and emits only values which differ from it.  A register
is a part of a state which some events write and no other event touches, so that
it holds the last value written.
-/

namespace Pareader.Core

/-- A deterministic machine with a finite list of outputs per input. -/
structure Transducer (State Input Output : Type) where
  step : State → Input → State × List Output

namespace Transducer

variable {State Input Output : Type}
variable (machine : Transducer State Input Output)

/-- Run a machine, collecting its outputs in order. -/
def run : State → List Input → State × List Output
  | state, [] => (state, [])
  | state, input :: rest =>
      let first := machine.step state input
      let final := run first.1 rest
      (final.1, first.2 ++ final.2)

@[simp]
theorem run_nil (state : State) :
    machine.run state [] = (state, []) :=
  rfl

theorem run_cons
    (state : State) (input : Input) (rest : List Input) :
    machine.run state (input :: rest) =
      ((machine.run (machine.step state input).1 rest).1,
        (machine.step state input).2 ++
          (machine.run (machine.step state input).1 rest).2) :=
  rfl

@[simp]
theorem run_singleton (state : State) (input : Input) :
    machine.run state [input] = machine.step state input := by
  simp [run_cons]

theorem run_append
    (state : State) (first second : List Input) :
    machine.run state (first ++ second) =
      ((machine.run (machine.run state first).1 second).1,
        (machine.run state first).2 ++
          (machine.run (machine.run state first).1 second).2) := by
  induction first generalizing state with
  | nil => simp
  | cons input rest induction =>
      simp [run_cons, induction, List.append_assoc]

/-- Deliver an input stream chunk by chunk. -/
def runChunks : State → List (List Input) → State × List Output
  | state, [] => (state, [])
  | state, chunk :: rest =>
      let first := machine.run state chunk
      let final := runChunks first.1 rest
      (final.1, first.2 ++ final.2)

/-- The chunk boundaries of a stream cannot be observed. -/
theorem runChunks_eq_run
    (state : State) (chunks : List (List Input)) :
    machine.runChunks state chunks =
      machine.run state chunks.flatten := by
  induction chunks generalizing state with
  | nil => rfl
  | cons chunk rest induction =>
      simp [runChunks, induction, run_append]

/-! ## Invariants along a run -/

theorem run_invariant
    {invariant : State → Prop}
    (preserved : ∀ state input,
      invariant state → invariant (machine.step state input).1)
    (state : State) (inputs : List Input)
    (initially : invariant state) :
    invariant (machine.run state inputs).1 := by
  induction inputs generalizing state with
  | nil => exact initially
  | cons input rest induction =>
      rw [run_cons]
      exact induction _ (preserved state input initially)

/-! ## Simulation -/

/--
One concrete step is matched by a whole abstract run.  `view` gives the
abstract inputs which a concrete step stands for, `visible` the abstract
meaning of a concrete output, and `admissible` restricts the concrete steps
for which the correspondence is claimed.
-/
structure Simulation
    {AbstractState AbstractInput AbstractOutput : Type}
    (abstraction :
      Transducer AbstractState AbstractInput AbstractOutput) where
  related : State → AbstractState → Prop
  admissible : State → Input → Prop
  view : State → Input → List AbstractInput
  visible : Output → Option AbstractOutput
  step_related : ∀ state abstractState input,
    related state abstractState →
    admissible state input →
      related (machine.step state input).1
        (abstraction.run abstractState (view state input)).1
  step_visible : ∀ state abstractState input,
    related state abstractState →
    admissible state input →
      (machine.step state input).2.filterMap visible =
        (abstraction.run abstractState (view state input)).2

namespace Simulation

variable {machine}
variable {AbstractState AbstractInput AbstractOutput : Type}
variable {abstraction :
  Transducer AbstractState AbstractInput AbstractOutput}

/-- The abstract inputs of a concrete run. -/
def viewRun (simulation : Simulation machine abstraction) :
    State → List Input → List AbstractInput
  | _, [] => []
  | state, input :: rest =>
      simulation.view state input ++
        simulation.viewRun (machine.step state input).1 rest

/-- Every step of a concrete run is admissible where it is taken. -/
def AdmissibleRun (simulation : Simulation machine abstraction) :
    State → List Input → Prop
  | _, [] => True
  | state, input :: rest =>
      simulation.admissible state input ∧
        simulation.AdmissibleRun (machine.step state input).1 rest

theorem admissibleRun_iff
    (simulation : Simulation machine abstraction)
    (state : State) (inputs : List Input) :
    simulation.AdmissibleRun state inputs ↔
      ∀ before input after, inputs = before ++ input :: after →
        simulation.admissible (machine.run state before).1 input := by
  induction inputs generalizing state with
  | nil => simp [AdmissibleRun]
  | cons first rest induction =>
      rw [AdmissibleRun, induction]
      constructor
      · rintro ⟨head, tail⟩ before input after split
        cases before with
        | nil =>
            rcases List.cons.inj split with ⟨rfl, -⟩
            exact head
        | cons earlier before =>
            rcases List.cons.inj split with ⟨rfl, remaining⟩
            exact tail before input after remaining
      · intro everywhere
        refine ⟨everywhere [] first rest rfl, ?_⟩
        intro before input after split
        exact everywhere (first :: before) input after
          (congrArg (first :: ·) split)

/-- Run lemma: whole runs correspond, and so do their visible outputs. -/
theorem run_related
    (simulation : Simulation machine abstraction)
    {state : State} {abstractState : AbstractState}
    (inputs : List Input)
    (related : simulation.related state abstractState)
    (admissible : simulation.AdmissibleRun state inputs) :
    simulation.related (machine.run state inputs).1
        (abstraction.run abstractState
          (simulation.viewRun state inputs)).1 ∧
      (machine.run state inputs).2.filterMap simulation.visible =
        (abstraction.run abstractState
          (simulation.viewRun state inputs)).2 := by
  induction inputs generalizing state abstractState with
  | nil => exact ⟨related, rfl⟩
  | cons input rest induction =>
      rcases admissible with ⟨stepAdmissible, restAdmissible⟩
      have stepRelated :=
        simulation.step_related state abstractState input
          related stepAdmissible
      have stepVisible :=
        simulation.step_visible state abstractState input
          related stepAdmissible
      rcases induction stepRelated restAdmissible with
        ⟨restRelated, restVisible⟩
      rw [run_cons, viewRun, run_append]
      exact ⟨restRelated, by
        rw [List.filterMap_append, stepVisible, restVisible]⟩

end Simulation

/-! ## Change detection -/

section ChangeDetector

variable {Value : Type} [DecidableEq Value]

/-- Store the last value shown and emit the values which change it. -/
def changeDetector (emit : Value → Output) :
    Transducer Value Value Output where
  step stored shown :=
    if shown = stored then (stored, []) else (shown, [emit shown])

theorem changeDetector_step (emit : Value → Output) (stored shown : Value) :
    (changeDetector emit).step stored shown =
      if shown = stored then (stored, []) else (shown, [emit shown]) :=
  rfl

/--
The emitted values, together with the one stored before, are the shown values
without adjacent repetitions.
-/
theorem changeDetector_outputs
    (emit : Value → Output) (stored : Value) (shown : List Value) :
    emit stored :: ((changeDetector emit).run stored shown).2 =
      (shown.destutter' (· ≠ ·) stored).map emit := by
  induction shown generalizing stored with
  | nil => rfl
  | cons first rest induction =>
      rw [run_cons, changeDetector_step]
      by_cases same : first = stored
      · rw [if_pos same, List.destutter'_cons_neg rest (by simp [same]),
          ← induction]
        rfl
      · rw [if_neg same,
          List.destutter'_cons_pos rest (Ne.symm same),
          List.map_cons, ← induction]
        rfl

/-- The last emitted value, if any, is the stored one. -/
theorem changeDetector_last
    (emit : Value → Output) (stored : Value) (shown : List Value) :
    ((changeDetector emit).run stored shown).2.getLastD (emit stored) =
      emit ((changeDetector emit).run stored shown).1 := by
  induction shown generalizing stored with
  | nil => rfl
  | cons first rest induction =>
      rw [run_cons, changeDetector_step]
      by_cases same : first = stored
      · rw [if_pos same]
        exact induction stored
      · rw [if_neg same]
        exact List.getLastD_cons.trans (induction first)

end ChangeDetector

end Transducer

/-! ## Registers -/

/--
A view of the state which every event either leaves alone or replaces by what
the event writes shows the last value written.
-/
theorem foldl_register
    {State Event Item Value : Type}
    {step : State → Event → State} (view : State → Value)
    (write : Event → Option Item) (decode : Item → Value)
    (effect : ∀ state event,
      view (step state event) =
        ((write event).map decode).getD (view state))
    {state : State} {initial : Item} (events : List Event)
    (initially : view state = decode initial) :
    view (events.foldl step state) =
      decode ((events.filterMap write).getLastD initial) := by
  induction events generalizing state initial with
  | nil => exact initially
  | cons event rest induction =>
      have stepped := effect state event
      cases written : write event with
      | none =>
          rw [written] at stepped
          rw [List.filterMap_cons_none written]
          exact induction (stepped.trans initially)
      | some item =>
          rw [written] at stepped
          rw [List.filterMap_cons_some written, List.getLastD_cons]
          exact induction stepped

end Pareader.Core
