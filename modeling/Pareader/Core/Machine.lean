import Mathlib

/-!
# Executable transition systems

A transition system offers, in each state, a set of actions; taking one is a
partial function.  Concurrency is interleaving: the order in which the actions
of different parties are taken is the trace of the run.

Because steps are executable, a concrete trace can be replayed, and reaching
its last state is evidence for `Reachable`.
-/

namespace Pareader.Core

/-- A transition system with executable steps. -/
structure Machine (State Action : Type) where
  start : State
  step : State → Action → Option State

namespace Machine

variable {State Action : Type}
variable (machine : Machine State Action)

/-- The states reached by finitely many steps. -/
inductive Reachable : State → Prop where
  | start : Reachable machine.start
  | step {state next : State}
      (reached : Reachable state)
      (action : Action)
      (taken : machine.step state action = some next) :
      Reachable next

/-- The states reached by steps which all meet a condition. -/
inductive ReachableWhile (condition : State → Action → Prop) :
    State → Prop where
  | start : ReachableWhile condition machine.start
  | step {state next : State}
      (reached : ReachableWhile condition state)
      (action : Action)
      (met : condition state action)
      (taken : machine.step state action = some next) :
      ReachableWhile condition next

/-- Replay a trace. -/
def replay : State → List Action → Option State
  | state, [] => some state
  | state, action :: rest =>
      (machine.step state action).bind (fun next => replay next rest)

variable {machine}

/-- Invariant rule. -/
theorem Reachable.invariant
    {property : State → Prop}
    {state : State}
    (reached : machine.Reachable state)
    (initially : property machine.start)
    (preserved : ∀ state action next,
      machine.Reachable state →
      property state →
      machine.step state action = some next →
        property next) :
    property state := by
  induction reached with
  | start => exact initially
  | step reached action taken induction =>
      exact preserved _ action _ reached induction taken

/-- Invariant rule for the runs whose steps all meet a condition. -/
theorem ReachableWhile.invariant
    {condition : State → Action → Prop} {property : State → Prop}
    {state : State}
    (reached : machine.ReachableWhile condition state)
    (initially : property machine.start)
    (preserved : ∀ state action next,
      condition state action →
      property state →
      machine.step state action = some next →
        property next) :
    property state := by
  induction reached with
  | start => exact initially
  | step reached action met taken induction =>
      exact preserved _ action _ met induction taken

/-- A trace is replayed one action after another. -/
theorem replay_concat
    (state : State) (trace : List Action) (action : Action) :
    machine.replay state (trace ++ [action]) =
      (machine.replay state trace).bind
        (fun middle => machine.step middle action) := by
  induction trace generalizing state with
  | nil =>
      simp only [List.nil_append, Machine.replay, Option.bind_some,
        Option.bind_fun_some]
  | cons first rest induction =>
      simp only [List.cons_append, Machine.replay, Option.bind_assoc,
        induction]

variable (machine) in
/-- The states in which the actions of a trace are taken. -/
def states : State → List Action → List State
  | _, [] => []
  | state, action :: rest =>
      state ::
        (machine.step state action).elim [] (fun next => states next rest)

theorem states_concat
    {state middle : State} {trace : List Action} (action : Action)
    (replayed : machine.replay state trace = some middle) :
    machine.states state (trace ++ [action]) =
      machine.states state trace ++ [middle] := by
  induction trace generalizing state with
  | nil =>
      rw [← Option.some.inj replayed]
      show state :: (machine.step state action).elim [] (fun _ => []) =
        [state]
      cases machine.step state action <;> rfl
  | cons first rest induction =>
      rcases Option.bind_eq_some_iff.mp replayed with ⟨next, taken, continued⟩
      simp only [List.cons_append, Machine.states, taken, Option.elim_some]
      rw [induction continued]

/-- A component which is recorded at every step is a list of the states. -/
theorem recorded_states
    {Component : Type} {component : State → Component}
    {history : State → List Component}
    (records : ∀ state action next,
      machine.step state action = some next →
        history next = history state ++ [component state])
    {state final : State} {trace : List Action}
    (initially : history state = [])
    (replayed : machine.replay state trace = some final) :
    history final = (machine.states state trace).map component := by
  induction trace using List.reverseRecOn generalizing final with
  | nil =>
      cases replayed
      exact initially
  | append_singleton trace action induction =>
      have first := replayed
      rw [replay_concat] at first
      rcases Option.bind_eq_some_iff.mp first with ⟨middle, before, taken⟩
      rw [states_concat action before, List.map_append,
        records middle action final taken, induction before]
      rfl

/-- Invariant rule for the traces which continue a run. -/
theorem replay_invariant
    (property : State → Prop)
    (preserved : ∀ state action next,
      property state →
      machine.step state action = some next →
        property next)
    {state final : State}
    (initially : property state)
    (trace : List Action)
    (replayed : machine.replay state trace = some final) :
    property final := by
  induction trace generalizing state with
  | nil =>
      simp only [Machine.replay, Option.some.injEq] at replayed
      exact replayed ▸ initially
  | cons action rest induction =>
      simp only [Machine.replay, Option.bind_eq_some_iff] at replayed
      rcases replayed with ⟨next, taken, continued⟩
      exact induction (preserved _ action _ initially taken) continued

variable (machine) in
/-- Every step of a trace meets a condition where it is taken. -/
def Throughout (condition : State → Action → Prop) :
    State → List Action → Prop
  | _, [] => True
  | state, action :: rest =>
      condition state action ∧
        ∀ next, machine.step state action = some next →
          Throughout condition next rest

/--
A property which a step keeps exactly when the step meets a condition holds at
the end of a trace exactly when it held before and all steps met the condition.
-/
theorem replay_property_iff
    {invariant property : State → Prop}
    {condition : State → Action → Prop}
    (stable : ∀ state action next,
      invariant state →
      machine.step state action = some next →
        invariant next)
    (stepwise : ∀ state action next,
      invariant state →
      machine.step state action = some next →
        (property next ↔ property state ∧ condition state action))
    {state final : State} (initially : invariant state)
    (trace : List Action)
    (replayed : machine.replay state trace = some final) :
    property final ↔
      property state ∧ machine.Throughout condition state trace := by
  induction trace generalizing state with
  | nil =>
      simp only [Machine.replay, Option.some.injEq] at replayed
      rw [replayed]
      exact (and_iff_left trivial).symm
  | cons action rest induction =>
      simp only [Machine.replay, Option.bind_eq_some_iff] at replayed
      rcases replayed with ⟨next, taken, continued⟩
      rw [induction (stable _ action _ initially taken) continued,
        stepwise _ action _ initially taken, and_assoc]
      constructor
      · rintro ⟨before, met, remaining⟩
        refine ⟨before, met, ?_⟩
        intro other again
        rwa [Option.some.inj (again.symm.trans taken)]
      · rintro ⟨before, met, remaining⟩
        exact ⟨before, met, remaining next taken⟩

theorem Reachable.replay
    {state final : State}
    (reached : machine.Reachable state)
    (trace : List Action)
    (replayed : machine.replay state trace = some final) :
    machine.Reachable final :=
  replay_invariant machine.Reachable
    (fun _ action _ before taken => before.step action taken)
    reached trace replayed

/-- A trace which ends in a state with a decidable property reaches one. -/
theorem exists_reachable_of_replay
    (machine : Machine State Action) (property : State → Bool)
    (trace : List Action)
    (holds :
      (machine.replay machine.start trace).any property = true) :
    ∃ state, machine.Reachable state ∧ property state = true := by
  rcases (Option.any_eq_true _ _).mp holds with ⟨final, replayed, satisfied⟩
  exact ⟨final, Reachable.start.replay trace replayed, satisfied⟩

variable (machine) in
/-- The machine which takes only the steps which meet a condition. -/
def restrict (condition : State → Action → Prop)
    [∀ state action, Decidable (condition state action)] :
    Machine State Action where
  start := machine.start
  step state action :=
    if condition state action then machine.step state action else none

/-- A restricted machine reaches what is reached by steps of that kind. -/
theorem reachableWhile_of_restrict
    {condition : State → Action → Prop}
    [∀ state action, Decidable (condition state action)] {state : State}
    (reached : (machine.restrict condition).Reachable state) :
    machine.ReachableWhile condition state := by
  induction reached with
  | start => exact .start
  | step reached action taken induction =>
      simp only [restrict] at taken
      split at taken
      · exact induction.step action ‹_› taken
      · cases taken

end Machine

/-! ## Threads as entries of a list -/

section Threads

variable {Point : Type} {points : List Point} {index other : Nat}
variable {target point : Point}

/-- A thread is where it was moved to, or it is another thread. -/
theorem thread_of_set
    (located : (points.set index target)[other]? = some point) :
    (index = other ∧ point = target) ∨
      (index ≠ other ∧ points[other]? = some point) := by
  rw [List.getElem?_set] at located
  split at located
  · rename_i same
    split at located
    · exact Or.inl ⟨same, (Option.some.inj located).symm⟩
    · cases located
  · rename_i different
    exact Or.inr ⟨different, located⟩

/-- A thread was started just now, or it was there before. -/
theorem thread_of_append
    (located : (points ++ [target])[other]? = some point) :
    point = target ∨ points[other]? = some point := by
  rw [List.getElem?_append] at located
  split at located
  · exact Or.inr located
  · exact Or.inl (List.mem_singleton.mp (List.mem_of_getElem? located))

/-- The thread at the index is the only one of its kind. -/
structure Sole (kind : Point → Bool) (points : List Point) (index : Nat)
    (point : Point) : Prop where
  located : points[index]? = some point
  holds : kind point = true
  only : ∀ (other : Nat) (found : Point),
    points[other]? = some found → kind found = true → other = index

namespace Sole

variable {kind : Point → Bool}

theorem inside (sole : Sole kind points index point) :
    index < points.length :=
  (List.getElem?_eq_some_iff.mp sole.located).1

theorem findIdx_eq (sole : Sole kind points index point) :
    points.findIdx kind = index := by
  have found := (List.getElem?_eq_some_iff.mp sole.located).2
  refine (List.findIdx_eq sole.inside).mpr ⟨by rw [found, sole.holds], ?_⟩
  intro earlier below
  by_contra known
  have same := sole.only earlier _
    (List.getElem?_eq_getElem (below.trans sole.inside))
    (Bool.not_eq_false _ ▸ known)
  omega

/-- The thread moves on and stays of its kind. -/
theorem move (sole : Sole kind points index point)
    (holds : kind target = true) :
    Sole kind (points.set index target) index target where
  located := List.getElem?_set_self sole.inside
  holds := holds
  only other found located known := by
    rcases thread_of_set located with ⟨same, -⟩ | ⟨-, before⟩
    · exact same.symm
    · exact sole.only other found before known

/-- Another thread moves on. -/
theorem moveOther (sole : Sole kind points index point)
    (different : other ≠ index) (fails : kind target = false) :
    Sole kind (points.set other target) index point where
  located := by
    rw [List.getElem?_set_ne different]
    exact sole.located
  holds := sole.holds
  only number found located known := by
    rcases thread_of_set located with ⟨-, rfl⟩ | ⟨-, before⟩
    · rw [fails] at known
      cases known
    · exact sole.only number found before known

/-- A thread of another kind is started. -/
theorem spawn (sole : Sole kind points index point)
    (fails : kind target = false) :
    Sole kind (points ++ [target]) index point where
  located := by
    rw [List.getElem?_append_left sole.inside]
    exact sole.located
  holds := sole.holds
  only number found located known := by
    rcases thread_of_append located with rfl | before
    · rw [fails] at known
      cases known
    · exact sole.only number found before known

/-- The thread ends and starts its successor. -/
theorem handOver (sole : Sole kind points index point) {rest : Point}
    (fails : kind rest = false) (holds : kind target = true) :
    Sole kind (points.set index rest ++ [target]) points.length target where
  located := by
    rw [← List.length_set]
    exact List.getElem?_concat_length
  holds := holds
  only number found located known := by
    rw [List.getElem?_append, List.length_set] at located
    split at located
    · rcases thread_of_set located with ⟨-, rfl⟩ | ⟨different, before⟩
      · rw [fails] at known
        cases known
      · exact absurd (sole.only number found before known).symm different
    · rename_i outside
      rcases List.getElem?_eq_some_iff.mp located with ⟨bound, -⟩
      rw [List.length_singleton] at bound
      omega

end Sole

end Threads

end Pareader.Core
