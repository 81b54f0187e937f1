import Pareader.Core.Machine

/-!
# Fairness and progress

A run of a machine goes on for ever; at each moment one action is taken or the
moment passes.  A party is the set of actions of one participant.  A run is
fair to a party which, again and again, acts or has nothing to do.

Progress is proved with a rank and a helper.  While the goal is not reached,
the helper can act and lowers the rank when it does, and no other action raises
the rank or relieves the helper without lowering the rank.

Two kinds of runs are constructed: those which replay a trace and come to rest,
and those which follow a policy for ever.
-/

namespace Pareader.Core

namespace Machine

variable {State Action Index : Type}

/-- A party can act. -/
def Enabled (machine : Machine State Action) (party : Action → Prop)
    (state : State) : Prop :=
  ∃ action next, party action ∧ machine.step state action = some next

theorem enabled_of_isSome
    {machine : Machine State Action} {party : Action → Prop} {state : State}
    (action : Action) (acts : party action)
    (taken : (machine.step state action).isSome = true) :
    machine.Enabled party state := by
  rcases Option.isSome_iff_exists.mp taken with ⟨next, taken⟩
  exact ⟨action, next, acts, taken⟩

/-- An endless run. -/
structure Run (machine : Machine State Action) where
  state : Nat → State
  action : Nat → Option Action
  starts : state 0 = machine.start
  steps : ∀ moment,
    (action moment).elim (some (state moment))
        (machine.step (state moment)) =
      some (state (moment + 1))

namespace Run

variable {machine : Machine State Action}

/-- A moment passes, or an action is taken. -/
theorem cases (run : machine.Run) (moment : Nat) :
    (run.action moment = none ∧
        run.state (moment + 1) = run.state moment) ∨
      ∃ action, run.action moment = some action ∧
        machine.step (run.state moment) action =
          some (run.state (moment + 1)) := by
  have stepped := run.steps moment
  cases acted : run.action moment with
  | none =>
      rw [acted] at stepped
      exact Or.inl ⟨rfl, (Option.some.inj stepped).symm⟩
  | some action =>
      rw [acted] at stepped
      exact Or.inr ⟨action, rfl, stepped⟩

theorem reachable (run : machine.Run) (moment : Nat) :
    machine.Reachable (run.state moment) := by
  induction moment with
  | zero =>
      rw [run.starts]
      exact .start
  | succ moment induction =>
      rcases run.cases moment with ⟨-, same⟩ | ⟨action, -, taken⟩
      · rwa [same]
      · exact induction.step action taken

/-- What every step keeps is kept for ever. -/
theorem stable (run : machine.Run) {property : State → Prop}
    (kept : ∀ state action next,
      machine.Reachable state →
      property state →
      machine.step state action = some next →
        property next)
    {moment later : Nat} (order : moment ≤ later)
    (holds : property (run.state moment)) :
    property (run.state later) := by
  induction later, order using Nat.le_induction with
  | base => exact holds
  | succ later order induction =>
      rcases run.cases later with ⟨-, same⟩ | ⟨action, -, taken⟩
      · rwa [same]
      · exact kept _ action _ (run.reachable later) induction taken

/-- Again and again the party acts or has nothing to do. -/
def Fair (run : machine.Run) (party : Action → Prop) : Prop :=
  ∀ moment, ∃ later, moment ≤ later ∧
    ((∃ action, run.action later = some action ∧ party action) ∨
      ¬ machine.Enabled party (run.state later))

/-- From a moment on, only allowed actions are taken. -/
def LawfulFrom (run : machine.Run) (allowed : State → Action → Prop)
    (start : Nat) : Prop :=
  ∀ moment, start ≤ moment → ∀ action,
    run.action moment = some action → allowed (run.state moment) action

theorem LawfulFrom.mono {run : machine.Run}
    {allowed : State → Action → Prop} {start later : Nat}
    (lawful : run.LawfulFrom allowed start) (order : start ≤ later) :
    run.LawfulFrom allowed later :=
  fun moment after => lawful moment (order.trans after)

/-- Finitely many conditions hold together from some moment on. -/
theorem lawfulFrom_below (run : machine.Run)
    {condition : Nat → State → Action → Prop}
    (each : ∀ index, ∃ start, run.LawfulFrom (condition index) start)
    (bound : Nat) :
    ∃ start, run.LawfulFrom
      (fun state action => ∀ index, index < bound →
        condition index state action) start := by
  induction bound with
  | zero => exact ⟨0, fun _ _ _ _ _ below => absurd below (Nat.not_lt_zero _)⟩
  | succ bound induction =>
      rcases induction with ⟨first, below⟩
      rcases each bound with ⟨second, last⟩
      refine ⟨max first second, ?_⟩
      intro moment order action acted index inside
      rcases Nat.lt_succ_iff_lt_or_eq.mp inside with before | rfl
      · exact below moment ((Nat.le_max_left _ _).trans order) action acted
          index before
      · exact last moment ((Nat.le_max_right _ _).trans order) action acted

end Run

/--
A certificate for progress: as long as the goal is not reached, the helper can
act, and each allowed action reaches the goal, lowers the rank, or is not one
of the helper and changes neither.
-/
structure Progress (machine : Machine State Action)
    (allowed : State → Action → Prop) (party : Index → Action → Prop)
    (waiting goal : State → Prop) where
  rank : State → Nat
  helper : State → Index
  enabled : ∀ state,
    machine.Reachable state →
    waiting state →
      goal state ∨ machine.Enabled (party (helper state)) state
  advances : ∀ state action next,
    machine.Reachable state →
    waiting state →
    allowed state action →
    machine.step state action = some next →
      goal next ∨
        waiting next ∧
          (rank next < rank state ∨
            rank next = rank state ∧ helper next = helper state ∧
              ¬ party (helper state) action)

namespace Progress

variable {machine : Machine State Action}
variable {allowed : State → Action → Prop} {party : Index → Action → Prop}
variable {waiting goal : State → Prop}

/-- Without progress, neither the rank nor the helper changes. -/
theorem settled
    (progress : machine.Progress allowed party waiting goal)
    (run : machine.Run) {start : Nat}
    (lawful : run.LawfulFrom allowed start)
    (begins : waiting (run.state start))
    (never : ∀ later, start ≤ later → ¬ goal (run.state later))
    (stuck : ∀ later, start ≤ later → waiting (run.state later) →
      progress.rank (run.state start) ≤ progress.rank (run.state later))
    {later : Nat} (order : start ≤ later) :
    waiting (run.state later) ∧
      progress.rank (run.state later) =
        progress.rank (run.state start) ∧
      progress.helper (run.state later) =
        progress.helper (run.state start) := by
  induction later, order using Nat.le_induction with
  | base => exact ⟨begins, rfl, rfl⟩
  | succ later order induction =>
      have onward : start ≤ later + 1 := Nat.le_succ_of_le order
      rcases induction with ⟨waits, rank, helper⟩
      rcases run.cases later with ⟨-, same⟩ | ⟨action, acted, taken⟩
      · rw [same]
        exact ⟨waits, rank, helper⟩
      · rcases
            progress.advances _ action _ (run.reachable later) waits
              (lawful later order action acted) taken with
          reached | ⟨waitsOn, lower | ⟨sameRank, sameHelper, -⟩⟩
        · exact (never _ onward reached).elim
        · have least := stuck _ onward waitsOn
          omega
        · exact ⟨waitsOn, sameRank.trans rank, sameHelper.trans helper⟩

/-- Progress rule: a fair run which waits for the goal reaches it. -/
theorem reaches
    (progress : machine.Progress allowed party waiting goal)
    (run : machine.Run) (fair : ∀ index, run.Fair (party index))
    {start : Nat} (lawful : run.LawfulFrom allowed start)
    (begins : waiting (run.state start)) :
    ∃ later, start ≤ later ∧ goal (run.state later) := by
  generalize bound : progress.rank (run.state start) = rank
  induction rank using Nat.strongRecOn generalizing start with
  | _ rank induction =>
      by_contra missed
      have never : ∀ later, start ≤ later → ¬ goal (run.state later) :=
        fun later order reached => missed ⟨later, order, reached⟩
      have stuck : ∀ later, start ≤ later → waiting (run.state later) →
          progress.rank (run.state start) ≤
            progress.rank (run.state later) := by
        intro later order waits
        by_contra lower
        rcases
            induction _ (bound ▸ Nat.lt_of_not_le lower)
              (lawful.mono order) waits rfl with
          ⟨final, after, reached⟩
        exact never final (order.trans after) reached
      rcases fair (progress.helper (run.state start)) start with
        ⟨later, order, acted | blocked⟩
      · have onward : start ≤ later + 1 := Nat.le_succ_of_le order
        rcases progress.settled run lawful begins never stuck order with
          ⟨waits, sameRank, sameHelper⟩
        rcases acted with ⟨action, acted, mine⟩
        rcases run.cases later with ⟨passed, -⟩ | ⟨other, same, taken⟩
        · rw [acted] at passed
          cases passed
        · obtain rfl : action = other :=
            Option.some.inj (acted.symm.trans same)
          rcases
              progress.advances _ action _ (run.reachable later) waits
                (lawful later order action acted) taken with
            reached | ⟨waitsOn, lower | ⟨-, -, other⟩⟩
          · exact never _ onward reached
          · have least := stuck _ onward waitsOn
            omega
          · exact other (sameHelper ▸ mine)
      · rcases progress.settled run lawful begins never stuck order with
          ⟨waits, -, sameHelper⟩
        rcases progress.enabled _ (run.reachable later) waits with
          reached | enabled
        · exact never later order reached
        · exact blocked (sameHelper ▸ enabled)

end Progress

/-! ## Components -/

/-- A component of a machine takes a step, or none, in each of its steps. -/
structure Component {Piece Move : Type} (machine : Machine State Action)
    (part : Machine Piece Move) where
  view : State → Piece
  move : State → Action → Option Move
  starts : view machine.start = part.start
  moves : ∀ state action next,
    machine.step state action = some next →
      (move state action).elim (some (view state)) (part.step (view state)) =
        some (view next)

section Components

variable {Piece Move : Type}
variable {machine : Machine State Action} {part : Machine Piece Move}

/-- The run of the component. -/
def Run.project (run : machine.Run) (component : machine.Component part) :
    part.Run where
  state moment := component.view (run.state moment)
  action moment :=
    (run.action moment).bind (component.move (run.state moment))
  starts := (congrArg component.view run.starts).trans component.starts
  steps moment := by
    rcases run.cases moment with ⟨passed, same⟩ | ⟨action, acted, taken⟩
    · rw [passed, same]
      rfl
    · rw [acted, Option.bind_some]
      exact component.moves _ action _ taken

/-- Fairness for the component follows from fairness for its actions. -/
theorem Run.project_fair
    {run : machine.Run} (component : machine.Component part)
    {party : Action → Prop} {inner : Move → Prop} (fair : run.Fair party)
    (acts : ∀ state action, party action →
      ∃ move, component.move state action = some move ∧ inner move)
    (enabled : ∀ moment,
      part.Enabled inner (component.view (run.state moment)) →
        machine.Enabled party (run.state moment)) :
    (run.project component).Fair inner := by
  intro moment
  rcases fair moment with ⟨later, order, ⟨action, acted, mine⟩ | rests⟩
  · rcases acts (run.state later) action mine with ⟨move, moved, inside⟩
    refine ⟨later, order, Or.inl ⟨move, ?_, inside⟩⟩
    show (run.action later).bind _ = some move
    rw [acted, Option.bind_some, moved]
  · exact ⟨later, order, Or.inr (fun able => rests (enabled later able))⟩

theorem Run.project_lawful
    {run : machine.Run} (component : machine.Component part)
    {allowed : State → Action → Prop} {inner : Piece → Move → Prop}
    {start : Nat} (lawful : run.LawfulFrom allowed start)
    (implies : ∀ state action move, allowed state action →
      component.move state action = some move →
        inner (component.view state) move) :
    (run.project component).LawfulFrom inner start := by
  intro moment order move moved
  rcases Option.bind_eq_some_iff.mp moved with ⟨action, acted, same⟩
  exact implies _ action move (lawful moment order action acted) same

end Components

/-! ## Runs which come to rest -/

section Rest

variable {machine : Machine State Action}

/-- Every beginning of a trace can be replayed. -/
theorem exists_replay_take
    {state final : State} {actions : List Action}
    (replayed : machine.replay state actions = some final) (count : Nat) :
    ∃ middle, machine.replay state (actions.take count) = some middle := by
  induction actions generalizing state count with
  | nil => exact ⟨state, by rw [List.take_nil]; rfl⟩
  | cons action rest induction =>
      cases count with
      | zero => exact ⟨state, rfl⟩
      | succ count =>
          rcases Option.bind_eq_some_iff.mp replayed with
            ⟨next, taken, continued⟩
          rcases induction continued count with ⟨middle, reached⟩
          refine ⟨middle, ?_⟩
          show (machine.step state action).bind
            (fun next => machine.replay next (rest.take count)) = some middle
          rw [taken, Option.bind_some, reached]

/-- Replay a trace, then let all moments pass. -/
def Run.ofTrace (actions : List Action) {final : State}
    (replayed : machine.replay machine.start actions = some final) :
    machine.Run where
  state moment :=
    (machine.replay machine.start (actions.take moment)).getD final
  action moment := actions[moment]?
  starts := rfl
  steps moment := by
    rcases exists_replay_take replayed moment with ⟨middle, before⟩
    rcases exists_replay_take replayed (moment + 1) with ⟨next, after⟩
    rw [before, after, Option.getD_some, Option.getD_some]
    by_cases inside : moment < actions.length
    · rw [List.getElem?_eq_getElem inside, Option.elim_some]
      rw [List.take_succ_eq_append_getElem inside, replay_concat, before,
        Option.bind_some] at after
      exact after
    · have outside := Nat.le_of_not_lt inside
      rw [List.getElem?_eq_none outside, Option.elim_none, ← before, ← after,
        List.take_of_length_le outside,
        List.take_of_length_le (Nat.le_succ_of_le outside)]

theorem Run.ofTrace_state
    {actions : List Action} {final middle : State}
    (replayed : machine.replay machine.start actions = some final)
    {moment : Nat}
    (reached : machine.replay machine.start (actions.take moment) =
      some middle) :
    (Run.ofTrace actions replayed).state moment = middle :=
  congrArg (Option.getD · final) reached

theorem Run.ofTrace_rests
    {actions : List Action} {final : State}
    (replayed : machine.replay machine.start actions = some final)
    {moment : Nat} (order : actions.length ≤ moment) :
    (Run.ofTrace actions replayed).state moment = final := by
  refine Run.ofTrace_state replayed ?_
  rw [List.take_of_length_le order, replayed]

/-- A run is fair to those who have nothing to do at its end. -/
theorem Run.ofTrace_fair
    {actions : List Action} {final : State}
    (replayed : machine.replay machine.start actions = some final)
    {party : Action → Prop} (rests : ¬ machine.Enabled party final) :
    (Run.ofTrace actions replayed).Fair party := by
  intro moment
  refine ⟨max moment actions.length, Nat.le_max_left _ _, Or.inr ?_⟩
  rwa [Run.ofTrace_rests replayed (Nat.le_max_right _ _)]

/-- At the end of a trace nothing happens, so nothing forbidden does. -/
theorem Run.ofTrace_lawful
    {actions : List Action} {final : State}
    (replayed : machine.replay machine.start actions = some final)
    (allowed : State → Action → Prop) :
    (Run.ofTrace actions replayed).LawfulFrom allowed actions.length := by
  intro moment order action acted
  have silent : actions[moment]? = none := List.getElem?_eq_none order
  exact absurd (silent.symm.trans acted) (by simp)

end Rest

/-! ## Runs which follow a policy -/

section Policies

variable {machine : Machine State Action} {policy : State → Action}

/-- Let a policy choose the actions; one which cannot be taken is left out. -/
def followed (machine : Machine State Action) (policy : State → Action) :
    Nat → State
  | 0 => machine.start
  | moment + 1 =>
      let state := machine.followed policy moment
      (machine.step state (policy state)).getD state

/-- The run of a policy. -/
def Run.follow (machine : Machine State Action) (policy : State → Action) :
    machine.Run where
  state := machine.followed policy
  action moment :=
    let state := machine.followed policy moment
    (machine.step state (policy state)).map (fun _ => policy state)
  starts := rfl
  steps moment := by
    simp only [followed]
    cases taken : machine.step (machine.followed policy moment)
        (policy (machine.followed policy moment)) with
    | none => rfl
    | some next => exact taken

theorem Run.follow_taken
    {moment : Nat} {next : State}
    (taken :
      machine.step ((Run.follow machine policy).state moment)
        (policy ((Run.follow machine policy).state moment)) = some next) :
    (Run.follow machine policy).action moment =
        some (policy ((Run.follow machine policy).state moment)) ∧
      (Run.follow machine policy).state (moment + 1) = next :=
  ⟨congrArg (Option.map _) taken, congrArg (Option.getD · _) taken⟩

/-- A policy is safe if the action which it chooses keeps its invariant. -/
def Safe (machine : Machine State Action) (policy : State → Action)
    (invariant : State → Prop) : Prop :=
  ∀ state, invariant state →
    ∃ next, machine.step state (policy state) = some next ∧ invariant next

theorem Safe.holds
    {invariant : State → Prop} (safe : machine.Safe policy invariant)
    {start : Nat}
    (begins : invariant ((Run.follow machine policy).state start))
    {moment : Nat} (order : start ≤ moment) :
    invariant ((Run.follow machine policy).state moment) := by
  induction moment, order using Nat.le_induction with
  | base => exact begins
  | succ moment order induction =>
      rcases safe _ induction with ⟨next, taken, kept⟩
      rw [(Run.follow_taken taken).2]
      exact kept

/--
The run of a safe policy is fair to a party if, wherever the party can act, it
is its turn or its turn comes closer.
-/
theorem Safe.fair
    {invariant : State → Prop} (safe : machine.Safe policy invariant)
    {start : Nat}
    (begins : invariant ((Run.follow machine policy).state start))
    {party : Action → Prop} (distance : State → Nat)
    (turns : ∀ state next, invariant state →
      machine.step state (policy state) = some next →
        ¬ machine.Enabled party state ∨ party (policy state) ∨
          distance next < distance state) :
    (Run.follow machine policy).Fair party := by
  have soon : ∀ moment, start ≤ moment → ∃ later, moment ≤ later ∧
      ((∃ action, (Run.follow machine policy).action later =
          some action ∧ party action) ∨
        ¬ machine.Enabled party
          ((Run.follow machine policy).state later)) := by
    intro moment order
    generalize far :
      distance ((Run.follow machine policy).state moment) = bound
    induction bound using Nat.strongRecOn generalizing moment with
    | _ bound induction =>
        have held := safe.holds begins order
        rcases safe _ held with ⟨next, taken, -⟩
        rcases Run.follow_taken taken with ⟨acted, reached⟩
        rcases turns _ next held taken with rests | mine | closer
        · exact ⟨moment, Nat.le_refl _, Or.inr rests⟩
        · exact ⟨moment, Nat.le_refl _, Or.inl ⟨_, acted, mine⟩⟩
        · rw [← reached, far] at closer
          rcases
              induction _ closer (moment + 1) (Nat.le_succ_of_le order)
                rfl with
            ⟨later, after, decided⟩
          exact ⟨later, (Nat.le_succ moment).trans after, decided⟩
  intro moment
  rcases soon (max moment start) (Nat.le_max_right _ _) with
    ⟨later, order, decided⟩
  exact ⟨later, (Nat.le_max_left _ _).trans order, decided⟩

end Policies

end Machine

end Pareader.Core
