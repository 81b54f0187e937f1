import Pareader.Host.Getters
import Pareader.Host.Shutdown

/-!
# The exported functions

The library exports one initialisation and a few getters.  Any number of calls
of `aime_io_init` may run at the same time: each one which finds no service
creates its own, and a compare-and-swap decides whose is kept.  The others are
closed before their calls return.

The library is a transition system around the services which its calls have
created.  Each service takes its own steps, as many as it likes, between two
operations of a call.
-/

namespace Pareader.Host.Exports

open Pareader.Core
open Pareader.Host.Protocol
open Pareader.Host.Sessions
open Pareader.Host.Supervision
open Pareader.Host.Ownership

variable {Info : Type}

/-! ## Result codes -/

def sOK : UInt32 := 0x00000000
def sFalse : UInt32 := 0x00000001
def eFail : UInt32 := 0x80004005
def eInvalidArg : UInt32 := 0x80070057

def result (value : UInt32) : Int32 := value.toInt32

theorem result_eFail : result eFail ≠ result sOK := by
  decide

theorem result_sFalse : result sFalse ≠ result sOK := by
  decide

theorem result_eInvalidArg : result eInvalidArg ≠ result sOK := by
  decide

/-! ## Initialisation -/

/-- The control points of `aime_io_init`. -/
inductive InitPoint where
  | loading
  | configuring
  | swapping (index : Nat)
  | closing (index : Nat)
  | returned (code : Int32)
deriving DecidableEq

/-- A service which `NewService` returned, with its timeout. -/
structure Hosted (Info : Type) where
  timeout : Int
  service : Service Info

/--
`activeService` and the calls of `aime_io_init`.  Services are identified by
the order of their creation.
-/
structure Library (Info : Type) where
  activeService : Option Nat
  services : List (Hosted Info)
  inits : List InitPoint

def loadedLibrary : Library Info := ⟨none, [], []⟩

/-- What can happen to the library. -/
inductive LibraryAction (Info : Type) where
  | callInit
  | load (call : Nat)
  | configFails (call : Nat)
  | create (call : Nat) (timeout : Int)
  | swap (call : Nat)
  | closed (call : Nat)
  | service (index : Nat) (action : ServiceAction Info)

/-- Let one service take a step. -/
def Library.stepService (library : Library Info) (index : Nat)
    (action : ServiceAction Info) : Option (Library Info) :=
  library.services[index]?.bind (fun hosted =>
    (hosted.service.step hosted.timeout action).map (fun next =>
      { library with
        services :=
          library.services.set index { hosted with service := next } }))

/-- A call of `aime_io_init` moves on. -/
def Library.moveTo (library : Library Info) (call : Nat)
    (point : InitPoint) : Library Info :=
  { library with inits := library.inits.set call point }

/-- The call of `Close` which `aime_io_init` has made has returned. -/
def Hosted.closeReturned (hosted : Hosted Info) : Bool :=
  match hosted.service.closers with
  | [.returned] => true
  | _ => false

/--
One step.  Only `aime_io_init` calls `Close`, on a service which no other call
can see.
-/
def Library.step (library : Library Info) :
    LibraryAction Info → Option (Library Info)
  | .callInit =>
      some { library with inits := library.inits ++ [.loading] }
  | .load call =>
      if library.inits[call]? = some .loading then
        some (library.moveTo call
          (if library.activeService.isSome then
            .returned (result sOK)
          else
            .configuring))
      else
        none
  | .configFails call =>
      if library.inits[call]? = some .configuring then
        some (library.moveTo call (.returned (result eFail)))
      else
        none
  | .create call timeout =>
      if library.inits[call]? = some .configuring then
        some
          { library with
            services := library.services ++ [⟨timeout, newService⟩]
            inits :=
              library.inits.set call (.swapping library.services.length) }
      else
        none
  | .swap call =>
      match library.inits[call]? with
      | some (.swapping index) =>
          if library.activeService = none then
            some
              { library with
                activeService := some index
                inits :=
                  library.inits.set call (.returned (result sOK)) }
          else
            (library.stepService index .callClose).map
              (·.moveTo call (.closing index))
      | _ => none
  | .closed call =>
      match library.inits[call]? with
      | some (.closing index) =>
          if library.services[index]?.any Hosted.closeReturned then
            some (library.moveTo call (.returned (result sOK)))
          else
            none
      | _ => none
  | .service index action =>
      match action with
      | .callClose => none
      | action => library.stepService index action

def libraryMachine (Info : Type) :
    Machine (Library Info) (LibraryAction Info) where
  start := loadedLibrary
  step := Library.step

/-! ## What a step can do -/

theorem stepService_eq_some
    {library next : Library Info} {index : Nat}
    {action : ServiceAction Info}
    (taken : library.stepService index action = some next) :
    ∃ hosted after,
      library.services[index]? = some hosted ∧
      hosted.service.step hosted.timeout action = some after ∧
      next =
        { library with
          services :=
            library.services.set index { hosted with service := after } } := by
  rcases Option.bind_eq_some_iff.mp taken with ⟨hosted, found, stepped⟩
  rcases Option.map_eq_some_iff.mp stepped with ⟨after, moved, rfl⟩
  exact ⟨hosted, after, found, moved, rfl⟩

/-- The effect of a step. -/
inductive Effect (library : Library Info) : Library Info → Prop where
  | calls :
      Effect library { library with inits := library.inits ++ [.loading] }
  | finds (call : Nat) (located : library.inits[call]? = some .loading)
      (active : library.activeService.isSome = true) :
      Effect library (library.moveTo call (.returned (result sOK)))
  | misses (call : Nat) (located : library.inits[call]? = some .loading) :
      Effect library (library.moveTo call .configuring)
  | fails (call : Nat)
      (located : library.inits[call]? = some .configuring) :
      Effect library (library.moveTo call (.returned (result eFail)))
  | creates (call : Nat) (timeout : Int)
      (located : library.inits[call]? = some .configuring) :
      Effect library
        { library with
          services := library.services ++ [⟨timeout, newService⟩]
          inits :=
            library.inits.set call (.swapping library.services.length) }
  | wins (call index : Nat)
      (located : library.inits[call]? = some (.swapping index))
      (inactive : library.activeService = none) :
      Effect library
        { library with
          activeService := some index
          inits := library.inits.set call (.returned (result sOK)) }
  | loses (call index : Nat) (hosted : Hosted Info)
      (located : library.inits[call]? = some (.swapping index))
      (active : library.activeService ≠ none)
      (found : library.services[index]? = some hosted)
      (after : Service Info)
      (taken :
        hosted.service.step hosted.timeout .callClose = some after) :
      Effect library
        { library with
          services :=
            library.services.set index { hosted with service := after }
          inits := library.inits.set call (.closing index) }
  | returns (call index : Nat) (hosted : Hosted Info)
      (located : library.inits[call]? = some (.closing index))
      (found : library.services[index]? = some hosted)
      (closed : hosted.closeReturned = true) :
      Effect library (library.moveTo call (.returned (result sOK)))
  | service (index : Nat) (hosted : Hosted Info)
      (action : ServiceAction Info) (other : action ≠ .callClose)
      (found : library.services[index]? = some hosted)
      (after : Service Info)
      (taken : hosted.service.step hosted.timeout action = some after) :
      Effect library
        { library with
          services :=
            library.services.set index { hosted with service := after } }

theorem effect_of_step
    {library next : Library Info} {action : LibraryAction Info}
    (taken : library.step action = some next) :
    Effect library next := by
  cases action with
  | callInit =>
      cases taken
      exact .calls
  | load call =>
      simp only [Library.step] at taken
      split at taken
      · rename_i located
        cases taken
        split
        · exact .finds call located ‹_›
        · exact .misses call located
      · cases taken
  | configFails call =>
      simp only [Library.step] at taken
      split at taken <;> cases taken
      exact .fails call ‹_›
  | create call timeout =>
      simp only [Library.step] at taken
      split at taken <;> cases taken
      exact .creates call timeout ‹_›
  | swap call =>
      simp only [Library.step] at taken
      split at taken
      · rename_i index located
        split at taken
        · rename_i inactive
          cases taken
          exact .wins call index located inactive
        · rename_i active
          rcases Option.map_eq_some_iff.mp taken with ⟨middle, stepped, rfl⟩
          rcases stepService_eq_some stepped with
            ⟨hosted, after, found, closes, rfl⟩
          exact .loses call index hosted located active found after closes
      · cases taken
  | closed call =>
      simp only [Library.step] at taken
      split at taken
      · rename_i index located
        split at taken
        · rename_i closed
          cases taken
          rcases (Option.any_eq_true _ _).mp closed with
            ⟨hosted, found, returned⟩
          exact .returns call index hosted located found returned
        · cases taken
      · cases taken
  | service index action =>
      by_cases closes : action = .callClose
      · subst closes
        cases taken
      · have stepped : library.stepService index action = some next := by
          simp only [Library.step] at taken
          exact taken
        rcases stepService_eq_some stepped with
          ⟨hosted, after, found, moved, rfl⟩
        exact .service index hosted action closes found after moved

/-! ## Who answers for a service -/

/-- The service which a call of `aime_io_init` has created and still holds. -/
def holding : InitPoint → Option Nat
  | .swapping index => some index
  | .closing index => some index
  | _ => none

/-- Some call of `aime_io_init` holds the service. -/
def Held (library : Library Info) (index : Nat) : Prop :=
  ∃ (call : Nat) (point : InitPoint),
    library.inits[call]? = some point ∧ holding point = some index

/--
Each service is published, held by one call of `aime_io_init`, or closed; and
only a call which has lost closes its service.
-/
structure Arbitrated (library : Library Info) : Prop where
  reachable : ∀ (index : Nat) (hosted : Hosted Info),
    library.services[index]? = some hosted →
      (serviceMachine Info hosted.timeout).Reachable hosted.service
  created : ∀ index, Held library index →
    index < library.services.length ∧ library.activeService ≠ some index
  distinct : ∀ (call other index : Nat) (point place : InitPoint),
    library.inits[call]? = some point →
    library.inits[other]? = some place →
    holding point = some index →
    holding place = some index → call = other
  untouched : ∀ (index : Nat) (hosted : Hosted Info),
    library.services[index]? = some hosted →
    (library.activeService = some index ∨
      ∃ call : Nat, library.inits[call]? = some (.swapping index)) →
        hosted.service.closers = []
  answered : ∀ (index : Nat) (hosted : Hosted Info),
    library.services[index]? = some hosted →
      library.activeService = some index ∨ Held library index ∨
        hosted.closeReturned = true
  chosen : ∀ index, library.activeService = some index →
    index < library.services.length
  succeeded : ∀ call : Nat,
    library.inits[call]? = some (.returned (result sOK)) ∨
      (∃ index, library.inits[call]? = some (.closing index)) →
        library.activeService ≠ none

/-- A step of a service other than a call of `Close` keeps it open. -/
theorem closers_of_step
    {timeout : Int} {service next : Service Info}
    {action : ServiceAction Info} (other : action ≠ .callClose)
    (taken : service.step timeout action = some next)
    (settled : ∀ point ∈ service.closers, point = .returned) :
    next.closers = service.closers := by
  rcases Shutdown.flags_of_step taken with
    ⟨same, -⟩ | ⟨called, -⟩ | ⟨index, point, -, located, effect⟩
  · simp only [Shutdown.flags, Prod.mk.injEq] at same
    exact same.2.2
  · exact (other called).elim
  · rw [settled point (List.mem_of_getElem? located)] at effect
    cases effect

theorem closeReturned_iff (hosted : Hosted Info) :
    hosted.closeReturned = true ↔ hosted.service.closers = [.returned] := by
  unfold Hosted.closeReturned
  constructor
  · intro returned
    split at returned
    · assumption
    · cases returned
  · intro returned
    rw [returned]

/-- Whoever lets go of a service lets another call go on. -/
theorem held_of_set
    {library : Library Info} {call index : Nat} {before target : InitPoint}
    (located : library.inits[call]? = some before)
    (held : Held library index) (kept : holding before ≠ some index) :
    Held (library.moveTo call target) index := by
  rcases held with ⟨other, point, found, holds⟩
  refine ⟨other, point, ?_, holds⟩
  show (library.inits.set call target)[other]? = some point
  rw [List.getElem?_set_ne, found]
  rintro rfl
  obtain rfl : before = point :=
    Option.some.inj (located.symm.trans found)
  exact kept holds

/-- A call of `aime_io_init` moves on without a service in its hands. -/
theorem Arbitrated.moveTo
    {library : Library Info} (arbitrated : Arbitrated library)
    {call : Nat} {before target : InitPoint}
    (located : library.inits[call]? = some before)
    (releases : ∀ (index : Nat) (hosted : Hosted Info),
      holding before = some index →
      library.services[index]? = some hosted →
        hosted.closeReturned = true)
    (free : holding target = none)
    (succeeds : target = .returned (result sOK) →
      library.activeService ≠ none) :
    Arbitrated (library.moveTo call target) := by
  have before_of : ∀ {other : Nat} {point : InitPoint} {index : Nat},
      (library.inits.set call target)[other]? = some point →
      holding point = some index →
        library.inits[other]? = some point := by
    intro other point index found holds
    rcases thread_of_set found with ⟨-, rfl⟩ | ⟨-, found⟩
    · rw [free] at holds
      cases holds
    · exact found
  constructor
  · exact arbitrated.reachable
  · rintro index ⟨other, point, found, holds⟩
    exact arbitrated.created index ⟨other, point, before_of found holds, holds⟩
  · intro first second index point place found again holds same
    exact arbitrated.distinct first second index point place
      (before_of found holds) (before_of again same) holds same
  · rintro index hosted found (active | ⟨other, swapping⟩)
    · exact arbitrated.untouched index hosted found (Or.inl active)
    · exact arbitrated.untouched index hosted found
        (Or.inr ⟨other, before_of swapping rfl⟩)
  · intro index hosted found
    rcases arbitrated.answered index hosted found with
      active | held | closed
    · exact Or.inl active
    · by_cases mine : holding before = some index
      · exact Or.inr (Or.inr (releases index hosted mine found))
      · exact Or.inr (Or.inl (held_of_set located held mine))
    · exact Or.inr (Or.inr closed)
  · exact arbitrated.chosen
  · rintro other (returned | ⟨index, closing⟩)
    · rcases thread_of_set returned with ⟨-, same⟩ | ⟨-, found⟩
      · exact succeeds same.symm
      · exact arbitrated.succeeded other (Or.inl found)
    · exact arbitrated.succeeded other
        (Or.inr ⟨index, before_of closing rfl⟩)

/-- A service takes a step of its own. -/
theorem Arbitrated.service
    {library : Library Info} (arbitrated : Arbitrated library)
    {index : Nat} {hosted : Hosted Info} {action : ServiceAction Info}
    (other : action ≠ .callClose)
    (found : library.services[index]? = some hosted) {after : Service Info}
    (taken : hosted.service.step hosted.timeout action = some after) :
    Arbitrated
      { library with
        services :=
          library.services.set index { hosted with service := after } } := by
  constructor
  · intro place entry located
    rcases thread_of_set located with ⟨-, rfl⟩ | ⟨-, before⟩
    · exact (arbitrated.reachable index hosted found).step action taken
    · exact arbitrated.reachable place entry before
  · intro place held
    rw [List.length_set]
    exact arbitrated.created place held
  · exact arbitrated.distinct
  · intro place entry located free
    rcases thread_of_set located with ⟨rfl, rfl⟩ | ⟨-, before⟩
    · have untouched := arbitrated.untouched index hosted found free
      refine (closers_of_step other taken ?_).trans untouched
      rw [untouched]
      exact List.forall_mem_nil _
    · exact arbitrated.untouched place entry before free
  · intro place entry located
    rcases thread_of_set located with ⟨rfl, rfl⟩ | ⟨-, before⟩
    · rcases arbitrated.answered index hosted found with
        active | held | closed
      · exact Or.inl active
      · exact Or.inr (Or.inl held)
      · refine Or.inr (Or.inr ?_)
        rw [closeReturned_iff] at closed ⊢
        refine (closers_of_step other taken ?_).trans closed
        rw [closed]
        intro point member
        exact List.mem_singleton.mp member
    · exact arbitrated.answered place entry before
  · intro place active
    rw [List.length_set]
    exact arbitrated.chosen place active
  · exact arbitrated.succeeded

/-- A call of `aime_io_init` creates a service which nobody else knows. -/
theorem Arbitrated.creates
    {library : Library Info} (arbitrated : Arbitrated library)
    {call : Nat} (timeout : Int)
    (located : library.inits[call]? = some .configuring) :
    Arbitrated
      { library with
        services := library.services ++ [⟨timeout, newService⟩]
        inits :=
          library.inits.set call (.swapping library.services.length) } := by
  rcases List.getElem?_eq_some_iff.mp located with ⟨inside, -⟩
  have mine : ∀ {other : Nat} {point : InitPoint} {index : Nat},
      (library.inits.set call
          (.swapping library.services.length))[other]? = some point →
      holding point = some index →
        (call = other ∧ library.services.length = index) ∨
          call ≠ other ∧ library.inits[other]? = some point := by
    intro other point index found holds
    rcases thread_of_set found with ⟨same, rfl⟩ | before
    · exact Or.inl ⟨same, Option.some.inj holds⟩
    · exact Or.inr before
  have older : ∀ {index : Nat}, Held library index →
      index ≠ library.services.length :=
    fun held => Nat.ne_of_lt (arbitrated.created _ held).1
  constructor
  · intro index hosted found
    rcases thread_of_append found with rfl | before
    · exact .start
    · exact arbitrated.reachable index hosted before
  · rintro index ⟨other, point, found, holds⟩
    rw [List.length_append]
    rcases mine found holds with ⟨-, rfl⟩ | ⟨-, before⟩
    · refine ⟨Nat.lt_succ_self _, ?_⟩
      intro active
      exact Nat.lt_irrefl _ (arbitrated.chosen _ active)
    · rcases arbitrated.created index ⟨other, point, before, holds⟩ with
        ⟨below, unpublished⟩
      exact ⟨Nat.lt_succ_of_lt below, unpublished⟩
  · intro first second index point place found again holds same
    rcases mine found holds with ⟨rfl, new⟩ | ⟨-, before⟩
    · rcases mine again same with ⟨rfl, -⟩ | ⟨-, earlier⟩
      · rfl
      · exact (older ⟨second, place, earlier, same⟩ new.symm).elim
    · rcases mine again same with ⟨rfl, new⟩ | ⟨-, earlier⟩
      · exact (older ⟨first, point, before, holds⟩ new.symm).elim
      · exact arbitrated.distinct first second index point place before
          earlier holds same
  · intro index hosted found free
    rcases thread_of_append found with rfl | before
    · rfl
    · have below := (List.getElem?_eq_some_iff.mp before).1
      refine arbitrated.untouched index hosted before (free.imp_right ?_)
      rintro ⟨other, swapping⟩
      rcases mine swapping rfl with ⟨-, new⟩ | ⟨-, earlier⟩
      · exact (Nat.ne_of_lt below new.symm).elim
      · exact ⟨other, earlier⟩
  · intro index hosted found
    by_cases new : index = library.services.length
    · exact Or.inr (Or.inl ⟨call, .swapping library.services.length,
        List.getElem?_set_self inside, congrArg some new.symm⟩)
    · have below : library.services[index]? = some hosted := by
        rcases List.getElem?_eq_some_iff.mp found with ⟨bound, -⟩
        rw [List.length_append, List.length_singleton] at bound
        rwa [List.getElem?_append_left (by omega)] at found
      rcases arbitrated.answered index hosted below with
        active | held | closed
      · exact Or.inl active
      · refine Or.inr (Or.inl ?_)
        rcases held_of_set located held nofun with
          ⟨other, point, kept, holds⟩
        exact ⟨other, point, kept, holds⟩
      · exact Or.inr (Or.inr closed)
  · intro index active
    rw [List.length_append]
    exact Nat.lt_succ_of_lt (arbitrated.chosen index active)
  · rintro other (returned | ⟨index, closing⟩)
    · rcases thread_of_set returned with ⟨-, impossible⟩ | ⟨-, before⟩
      · cases impossible
      · exact arbitrated.succeeded other (Or.inl before)
    · rcases thread_of_set closing with ⟨-, impossible⟩ | ⟨-, before⟩
      · cases impossible
      · exact arbitrated.succeeded other (Or.inr ⟨index, before⟩)

/-- The first service to arrive is published. -/
theorem Arbitrated.wins
    {library : Library Info} (arbitrated : Arbitrated library)
    {call index : Nat}
    (located : library.inits[call]? = some (.swapping index))
    (inactive : library.activeService = none) :
    Arbitrated
      { library with
        activeService := some index
        inits := library.inits.set call (.returned (result sOK)) } := by
  have mine : Held library index := ⟨call, _, located, rfl⟩
  have before_of : ∀ {other : Nat} {point : InitPoint} {place : Nat},
      (library.inits.set call (.returned (result sOK)))[other]? =
          some point →
      holding point = some place →
        place ≠ index ∧ library.inits[other]? = some point := by
    intro other point place found holds
    rcases thread_of_set found with ⟨-, rfl⟩ | ⟨different, before⟩
    · cases holds
    · refine ⟨?_, before⟩
      rintro rfl
      exact different
        (arbitrated.distinct call other place _ _ located before rfl holds)
  constructor
  · exact arbitrated.reachable
  · rintro place ⟨other, point, found, holds⟩
    rcases before_of found holds with ⟨different, before⟩
    refine ⟨(arbitrated.created place ⟨other, point, before, holds⟩).1, ?_⟩
    intro active
    exact different (Option.some.inj active).symm
  · intro first second place point entry found again holds same
    exact arbitrated.distinct first second place point entry
      (before_of found holds).2 (before_of again same).2 holds same
  · rintro place hosted found (active | ⟨other, swapping⟩)
    · obtain rfl : index = place := Option.some.inj active
      exact arbitrated.untouched index hosted found
        (Or.inr ⟨call, located⟩)
    · exact arbitrated.untouched place hosted found
        (Or.inr ⟨other, (before_of swapping rfl).2⟩)
  · intro place hosted found
    by_cases same : place = index
    · exact Or.inl (congrArg some same.symm)
    · rcases arbitrated.answered place hosted found with
        active | held | closed
      · rw [inactive] at active
        cases active
      · refine Or.inr (Or.inl ?_)
        rcases held_of_set located held
            (fun holds => same (Option.some.inj holds).symm) with
          ⟨other, point, kept, holds⟩
        exact ⟨other, point, kept, holds⟩
      · exact Or.inr (Or.inr closed)
  · intro place active
    obtain rfl : index = place := Option.some.inj active
    exact (arbitrated.created index mine).1
  · exact fun _ _ => Option.some_ne_none index

/-- A service which comes too late is closed by the call which created it. -/
theorem Arbitrated.loses
    {library : Library Info} (arbitrated : Arbitrated library)
    {call index : Nat} {hosted : Hosted Info}
    (located : library.inits[call]? = some (.swapping index))
    (active : library.activeService ≠ none)
    (found : library.services[index]? = some hosted) {after : Service Info}
    (taken : hosted.service.step hosted.timeout .callClose = some after) :
    Arbitrated
      { library with
        services :=
          library.services.set index { hosted with service := after }
        inits := library.inits.set call (.closing index) } := by
  rcases List.getElem?_eq_some_iff.mp located with ⟨inside, -⟩
  have mine : Held library index := ⟨call, _, located, rfl⟩
  have before_of : ∀ {other : Nat} {point : InitPoint} {place : Nat},
      (library.inits.set call (.closing index))[other]? = some point →
      holding point = some place →
        ∃ entry, library.inits[other]? = some entry ∧
          holding entry = some place := by
    intro other point place found holds
    rcases thread_of_set found with ⟨rfl, rfl⟩ | ⟨-, before⟩
    · exact ⟨_, located, holds⟩
    · exact ⟨point, before, holds⟩
  constructor
  · intro place entry found'
    rcases thread_of_set found' with ⟨-, rfl⟩ | ⟨-, before⟩
    · exact (arbitrated.reachable index hosted found).step .callClose taken
    · exact arbitrated.reachable place entry before
  · rintro place ⟨other, point, found', holds⟩
    rw [List.length_set]
    rcases before_of found' holds with ⟨entry, before, holds⟩
    exact arbitrated.created place ⟨other, entry, before, holds⟩
  · intro first second place point entry found' again holds same
    rcases before_of found' holds with ⟨point, before, holds⟩
    rcases before_of again same with ⟨entry, earlier, same⟩
    exact arbitrated.distinct first second place point entry before earlier
      holds same
  · intro place entry found' free
    have different : place ≠ index := by
      rintro rfl
      rcases free with published | ⟨other, swapping⟩
      · exact (arbitrated.created place mine).2 published
      · rcases thread_of_set swapping with ⟨-, impossible⟩ | ⟨other, before⟩
        · cases impossible
        · exact other (arbitrated.distinct _ _ place _ _ located before
            rfl rfl)
    rcases thread_of_set found' with ⟨same, -⟩ | ⟨-, before⟩
    · exact (different same.symm).elim
    · refine arbitrated.untouched place entry before (free.imp_right ?_)
      rintro ⟨other, swapping⟩
      rcases thread_of_set swapping with ⟨-, impossible⟩ | ⟨-, before⟩
      · cases impossible
      · exact ⟨other, before⟩
  · intro place entry found'
    rcases thread_of_set found' with ⟨rfl, -⟩ | ⟨different, before⟩
    · exact Or.inr (Or.inl ⟨call, .closing index,
        List.getElem?_set_self inside, rfl⟩)
    · rcases arbitrated.answered place entry before with
        published | held | closed
      · exact Or.inl published
      · refine Or.inr (Or.inl ?_)
        rcases held_of_set located held
            (fun holds => different (Option.some.inj holds)) with
          ⟨other, point, kept, holds⟩
        exact ⟨other, point, kept, holds⟩
      · exact Or.inr (Or.inr closed)
  · intro place published
    rw [List.length_set]
    exact arbitrated.chosen place published
  · exact fun _ _ => active

/-- A new call of `aime_io_init` holds no service. -/
theorem Arbitrated.calls
    {library : Library Info} (arbitrated : Arbitrated library) :
    Arbitrated { library with inits := library.inits ++ [.loading] } := by
  have before_of : ∀ {other : Nat} {point : InitPoint} {index : Nat},
      (library.inits ++ [.loading])[other]? = some point →
      holding point = some index →
        library.inits[other]? = some point := by
    intro other point index found holds
    rcases thread_of_append found with rfl | before
    · cases holds
    · exact before
  constructor
  · exact arbitrated.reachable
  · rintro index ⟨other, point, found, holds⟩
    exact arbitrated.created index
      ⟨other, point, before_of found holds, holds⟩
  · intro first second index point place found again holds same
    exact arbitrated.distinct first second index point place
      (before_of found holds) (before_of again same) holds same
  · intro index hosted found free
    refine arbitrated.untouched index hosted found (free.imp_right ?_)
    rintro ⟨other, swapping⟩
    exact ⟨other, before_of swapping rfl⟩
  · intro index hosted found
    rcases arbitrated.answered index hosted found with
      active | ⟨other, point, located, holds⟩ | closed
    · exact Or.inl active
    · rcases List.getElem?_eq_some_iff.mp located with ⟨inside, -⟩
      exact Or.inr (Or.inl ⟨other, point,
        (List.getElem?_append_left inside).trans located, holds⟩)
    · exact Or.inr (Or.inr closed)
  · exact arbitrated.chosen
  · rintro other (returned | ⟨index, closing⟩)
    · rcases thread_of_append returned with impossible | before
      · cases impossible
      · exact arbitrated.succeeded other (Or.inl before)
    · exact arbitrated.succeeded other
        (Or.inr ⟨index, before_of closing rfl⟩)

/-- Step lemma: every action keeps the arbitration. -/
theorem Arbitrated.step
    {library next : Library Info} (arbitrated : Arbitrated library)
    (action : LibraryAction Info)
    (taken : library.step action = some next) :
    Arbitrated next := by
  cases effect_of_step taken with
  | calls => exact arbitrated.calls
  | finds call located active =>
      exact arbitrated.moveTo located (fun _ _ holds => by cases holds) rfl
        (fun _ => Option.isSome_iff_ne_none.mp active)
  | misses call located =>
      refine arbitrated.moveTo located (fun _ _ holds => by cases holds) rfl ?_
      intro impossible
      cases impossible
  | fails call located =>
      refine arbitrated.moveTo located (fun _ _ holds => by cases holds) rfl ?_
      intro same
      exact (result_eFail (InitPoint.returned.inj same)).elim
  | creates call timeout located => exact arbitrated.creates timeout located
  | wins call index located inactive =>
      exact arbitrated.wins located inactive
  | loses call index hosted located active found after closes =>
      exact arbitrated.loses located active found closes
  | returns call index hosted located found closed =>
      refine arbitrated.moveTo located ?_ rfl
        (fun _ => arbitrated.succeeded call (Or.inr ⟨index, located⟩))
      intro place entry holds found'
      obtain rfl : index = place := Option.some.inj holds
      obtain rfl : hosted = entry :=
        Option.some.inj (found.symm.trans found')
      exact closed
  | service index hosted action other found after moved =>
      exact arbitrated.service other found moved

theorem arbitrated_of_reachable
    {library : Library Info}
    (reached : (libraryMachine Info).Reachable library) :
    Arbitrated library := by
  refine reached.invariant ?_ ?_
  · constructor <;> simp [libraryMachine, loadedLibrary, Held]
  · intro state action next _ arbitrated taken
    exact arbitrated.step action taken

/-! ## The race is decided once -/

/-- Whom nobody answers for any more is shut down. -/
theorem shutDown_of_closeReturned
    {hosted : Hosted Info}
    (reached : (serviceMachine Info hosted.timeout).Reachable hosted.service)
    (closed : hosted.closeReturned = true) :
    ShutDown hosted.service := by
  rw [closeReturned_iff] at closed
  have stopped : hosted.service.stopped = true := by
    refine (halted_of_reachable reached).returned 0 ?_
    rw [closed]
    rfl
  exact shutDown_of_stopped reached stopped

/-- Once published, a service stays published. -/
theorem active_of_effect
    {library next : Library Info} (effect : Effect library next)
    {index : Nat} (active : library.activeService = some index) :
    next.activeService = some index := by
  cases effect with
  | wins call other located inactive =>
      rw [inactive] at active
      cases active
  | _ => exact active

/-- A session which is not released belongs to the supervisor of its service. -/
theorem live_unique
    {timeout : Int} {service : Service Info}
    (reached : (serviceMachine Info timeout).Reachable service)
    {first second : Nat} {left right : Session}
    (foundLeft : service.sessions[first]? = some left)
    (foundRight : service.sessions[second]? = some right)
    (liveLeft : ¬ Released left) (liveRight : ¬ Released right) :
    first = second := by
  have owned := owned_of_reachable reached
  have ownsLeft : owner service.run = some first := by
    by_contra elsewhere
    exact liveLeft (owned.released first left foundLeft elsewhere)
  have ownsRight : owner service.run = some second := by
    by_contra elsewhere
    exact liveRight (owned.released second right foundRight elsewhere)
  exact Option.some.inj (ownsLeft.symm.trans ownsRight)

/-- A service which is neither published nor held is shut down. -/
theorem Arbitrated.shutDown
    {library : Library Info} (arbitrated : Arbitrated library)
    {index : Nat} {hosted : Hosted Info}
    (found : library.services[index]? = some hosted)
    (elsewhere : library.activeService ≠ some index)
    (released : ¬ Held library index) :
    ShutDown hosted.service := by
  rcases arbitrated.answered index hosted found with
    active | held | closed
  · exact (elsewhere active).elim
  · exact (released held).elim
  · exact shutDown_of_closeReturned
      (arbitrated.reachable index hosted found) closed

/-- A live session belongs to a service which is published or held. -/
theorem Arbitrated.published_of_live
    {library : Library Info} (arbitrated : Arbitrated library)
    {index place : Nat} {hosted : Hosted Info} {session : Session}
    (free : ¬ Held library index)
    (found : library.services[index]? = some hosted)
    (located : hosted.service.sessions[place]? = some session)
    (live : ¬ Released session) :
    library.activeService = some index := by
  by_contra elsewhere
  exact live ((arbitrated.shutDown found elsewhere free).released session
    (List.mem_of_getElem? located))

/--
However many calls of `aime_io_init` race, one service is published, for ever,
and it is never closed.  Every other service is shut down when the call which
created it has returned.  While no call is under way, at most one session of
all services together is live.
-/
theorem init_race
    (Info : Type) (library : Library Info)
    (reached : (libraryMachine Info).Reachable library) :
    (∀ call : Nat,
      library.inits[call]? = some (.returned (result sOK)) →
        ∃ (index : Nat) (hosted : Hosted Info),
          library.activeService = some index ∧
          library.services[index]? = some hosted ∧
          hosted.service.closers = []) ∧
    (∀ index, library.activeService = some index →
      ∀ trace later,
        (libraryMachine Info).replay library trace = some later →
          later.activeService = some index) ∧
    (∀ (index : Nat) (hosted : Hosted Info),
      library.services[index]? = some hosted →
      library.activeService ≠ some index →
      ¬ Held library index → ShutDown hosted.service) ∧
    ((∀ point ∈ library.inits, ∃ code, point = .returned code) →
      ∀ (first second : Nat) (one two : Hosted Info)
        (left right : Nat) (session other : Session),
        library.services[first]? = some one →
        library.services[second]? = some two →
        one.service.sessions[left]? = some session →
        two.service.sessions[right]? = some other →
        ¬ Released session → ¬ Released other →
          first = second ∧ left = right) := by
  have arbitrated := arbitrated_of_reachable reached
  refine ⟨?_, ?_, ?_, ?_⟩
  · intro call returned
    rcases Option.ne_none_iff_exists'.mp
        (arbitrated.succeeded call (Or.inl returned)) with ⟨index, active⟩
    have found := List.getElem?_eq_getElem (arbitrated.chosen index active)
    exact ⟨index, _, active, found,
      arbitrated.untouched index _ found (Or.inl active)⟩
  · intro index active trace later replayed
    refine
      @Machine.replay_invariant _ _ (libraryMachine Info)
        (fun state => state.activeService = some index) ?_ library later
        active trace replayed
    intro state action next before taken
    exact active_of_effect (effect_of_step taken) before
  · intro index hosted found elsewhere released
    exact arbitrated.shutDown found elsewhere released
  · intro quiet first second one two left right session other foundOne
      foundTwo foundSession foundOther liveSession liveOther
    have free : ∀ index, ¬ Held library index := by
      rintro index ⟨call, point, located, holds⟩
      rcases quiet point (List.mem_of_getElem? located) with ⟨code, rfl⟩
      cases holds
    have publishedOne :=
      arbitrated.published_of_live (free first) foundOne foundSession
        liveSession
    have publishedTwo :=
      arbitrated.published_of_live (free second) foundTwo foundOther
        liveOther
    obtain rfl : first = second :=
      Option.some.inj (publishedOne.symm.trans publishedTwo)
    obtain rfl : one = two :=
      Option.some.inj (foundOne.symm.trans foundTwo)
    exact ⟨rfl, live_unique (arbitrated.reachable first one foundOne)
      foundSession foundOther liveSession liveOther⟩

/-- Two calls find no service; the second one arrives too late. -/
def racing : List (LibraryAction Nat) :=
  [.callInit, .callInit, .load 0, .load 1, .create 0 1000, .create 1 1000,
    .swap 0, .swap 1, .service 1 (.closer 0), .service 1 (.closer 0),
    .service 1 (.closer 0), .service 1 .run, .service 1 .run,
    .service 1 (.closer 0), .closed 1]

theorem init_race_lost :
    ∃ (library : Library Nat) (hosted : Hosted Nat),
      (libraryMachine Nat).Reachable library ∧
      library.activeService = some 0 ∧
      library.services[1]? = some hosted ∧
      ShutDown hosted.service := by
  rcases
      (libraryMachine Nat).exists_reachable_of_replay
        (fun library => decide (library.activeService = some 0) &&
          decide (library.inits =
            [.returned (result sOK), .returned (result sOK)]) &&
          decide (library.services.length = 2))
        racing (by decide +kernel) with
    ⟨library, reached, passed⟩
  simp only [Bool.and_eq_true, decide_eq_true_eq] at passed
  rcases passed with ⟨⟨active, inits⟩, two⟩
  have inside : 1 < library.services.length := by
    rw [two]
    decide
  have found := List.getElem?_eq_getElem inside
  have free : ¬ Held library 1 := by
    rintro ⟨call, point, located, holds⟩
    rw [inits] at located
    have member := List.mem_of_getElem? located
    simp only [List.mem_cons, List.not_mem_nil, or_false, or_self] at member
    rw [member] at holds
    cases holds
  refine ⟨library, _, reached, active, found, ?_⟩
  refine (init_race Nat library reached).2.2.1 1 _ found ?_ free
  rw [active]
  decide

/-! ## Getters -/

/-- What a getter returns, and what it writes through its pointer. -/
structure Answer (Value : Type) where
  code : Int32
  written : Option Value

/-- The published service. -/
def Library.published (library : Library Info) : Option (Service Info) :=
  (library.activeService.bind (library.services[·]?)).map Hosted.service

/-- A getter of a card, with what it requires of its pointer. -/
def exported {Value : Type} (library : Library Info) (unit : UInt8)
    (accepted : Bool) (getter : Service Info → Option Value) :
    Answer Value :=
  match library.published with
  | none => ⟨result eFail, none⟩
  | some service =>
      if unit ≠ 0 then
        ⟨result sFalse, none⟩
      else if accepted = false then
        ⟨result eInvalidArg, none⟩
      else
        match getter service with
        | none => ⟨result sFalse, none⟩
        | some value => ⟨result sOK, some value⟩

def aimeIoNfcPoll (library : Library Info) (unit : UInt8) : Int32 :=
  match library.published with
  | none => result eFail
  | some _ => if unit ≠ 0 then result sFalse else result sOK

/-- `present` tells whether the pointer is not nil. -/
def aimeIoNfcGetAimeId (library : Library Info) (unit : UInt8)
    (present : Bool) (luidSize : Nat) : Answer (Vector Byte 10) :=
  exported library unit (present && luidSize == 10) Service.aimeID

def aimeIoNfcGetMifareBlock (library : Library Info) (unit : UInt8)
    (present : Bool) (blocksSize : Nat) : Answer (Vector Byte 32) :=
  exported library unit (present && blocksSize == 32) Service.mifareBlocks

def aimeIoNfcGetFelicaId (library : Library Info) (unit : UInt8)
    (present : Bool) : Answer UInt64 :=
  exported library unit present Service.feliCaID

theorem exported_written
    {Value : Type} {library : Library Info} {unit : UInt8}
    {accepted : Bool} {getter : Service Info → Option Value}
    {value : Value}
    (written : (exported library unit accepted getter).written =
      some value) :
    (exported library unit accepted getter).code = result sOK ∧
      unit = 0 ∧ accepted = true ∧
      ∃ service, library.published = some service ∧
        getter service = some value := by
  unfold exported at written ⊢
  cases published : library.published with
  | none =>
      rw [published] at written
      cases written
  | some service =>
      rw [published] at written
      dsimp only at written ⊢
      split at written
      · cases written
      · rename_i first
        split at written
        · cases written
        · rename_i admitted
          cases got : getter service with
          | none =>
              rw [got] at written
              cases written
          | some other =>
              rw [got] at written
              obtain rfl : other = value := Option.some.inj written
              rw [if_neg first, if_neg admitted]
              exact ⟨rfl, not_not.mp first,
                Bool.not_eq_false _ ▸ admitted, service, rfl, got⟩

/-- A getter writes through its pointer exactly when it succeeds. -/
theorem exported_code
    {Value : Type} (library : Library Info) (unit : UInt8)
    (accepted : Bool) (getter : Service Info → Option Value) :
    (exported library unit accepted getter).code = result sOK ↔
      (exported library unit accepted getter).written ≠ none := by
  constructor
  · unfold exported
    split
    · exact fun same => (result_eFail same).elim
    · split
      · exact fun same => (result_sFalse same).elim
      · split
        · exact fun same => (result_eInvalidArg same).elim
        · split
          · exact fun same => (result_sFalse same).elim
          · exact fun _ => Option.some_ne_none _
  · intro written
    rcases Option.ne_none_iff_exists'.mp written with ⟨value, written⟩
    exact (exported_written written).1

/-- A unit is ready exactly if it is the first and a service is published. -/
theorem aimeIoNfcPoll_iff (library : Library Info) (unit : UInt8) :
    aimeIoNfcPoll library unit = result sOK ↔
      unit = 0 ∧ ∃ service, library.published = some service := by
  unfold aimeIoNfcPoll
  cases library.published with
  | none =>
      refine iff_of_false result_eFail ?_
      rintro ⟨-, service, impossible⟩
      cases impossible
  | some service =>
      dsimp only
      split
      · rename_i other
        exact iff_of_false result_sFalse (fun both => other both.1)
      · rename_i first
        exact iff_of_true rfl ⟨not_not.mp first, service, rfl⟩

/-- A getter which has nothing to read writes nothing. -/
theorem exported_silent
    {Value : Type} {library : Library Info} {service : Service Info}
    (published : library.published = some service)
    {getter : Service Info → Option Value}
    (absent : getter service = none) (unit : UInt8) (accepted : Bool) :
    (exported library unit accepted getter).written = none := by
  unfold exported
  rw [published]
  dsimp only
  split
  · rfl
  · split
    · rfl
    · rw [absent]

/--
The card is the one which the published session shows; that session has
answered its version query, and has received the card in a valid card state.
-/
def Reported (service : Service Info) (card : Card) : Prop :=
  ∃ id, service.active = some id ∧
    OfSession service.sessions id (fun session =>
      session.Verified ∧ session.currentCard = card ∧
        ∃ raw ∈ session.received, decodeCardStateSignal raw = .ok card)

theorem reported_of_present
    {timeout : Int} {service : Service Info}
    (reached : (serviceMachine Info timeout).Reachable service)
    (present : service.currentCard ≠ Card.none) :
    Reported service service.currentCard := by
  have card : service.currentCard = Getters.cardAt service.active service :=
    rfl
  rw [card] at present ⊢
  cases active : service.active with
  | none =>
      rw [active] at present
      exact (present rfl).elim
  | some id =>
      rcases verified_of_active reached active with
        ⟨session, found, verified⟩
      have shown : Getters.cardAt (some id) service =
          session.currentCard := by
        rw [Getters.cardAt, Option.bind_some, found]
      rw [active, shown] at present
      rw [shown]
      refine ⟨id, active, session, found, verified, rfl, ?_⟩
      have invariant := invariant_of_reachable
        ((sessionsValid_of_reachable reached).reachable session
          (List.mem_of_getElem? found))
      exact invariant.decoded.resolve_left present

/-- The published service of a reachable library is reachable. -/
theorem reachable_of_published
    {library : Library Info}
    (reached : (libraryMachine Info).Reachable library)
    {service : Service Info}
    (published : library.published = some service) :
    ∃ timeout, (serviceMachine Info timeout).Reachable service := by
  rcases Option.map_eq_some_iff.mp published with ⟨hosted, bound, rfl⟩
  rcases Option.bind_eq_some_iff.mp bound with ⟨index, -, found⟩
  exact ⟨hosted.timeout,
    (arbitrated_of_reachable reached).reachable index hosted found⟩

/-- A getter which writes reads the card which the service shows. -/
theorem exported_reported
    {Value : Type} {library : Library Info}
    (reached : (libraryMachine Info).Reachable library)
    {getter : Service Info → Option Value} {read : Card → Option Value}
    (shows : ∀ service, getter service = read service.currentCard)
    (empty : read Card.none = none)
    {unit : UInt8} {accepted : Bool} {value : Value}
    (written : (exported library unit accepted getter).written =
      some value) :
    unit = 0 ∧ accepted = true ∧
      ∃ service, library.published = some service ∧
        Reported service service.currentCard ∧
        read service.currentCard = some value := by
  rcases exported_written written with
    ⟨-, first, accepted, service, published, got⟩
  rcases reachable_of_published reached published with ⟨timeout, known⟩
  rw [shows] at got
  refine ⟨first, accepted, service, published,
    reported_of_present known ?_, got⟩
  intro absent
  rw [absent, empty] at got
  cases got

theorem type_of_mifareBlocks
    {card : Card} {blocks : Vector Byte 32}
    (present : card.mifareBlocks = some blocks) :
    card.type = .mifare ∧ card.blocks = blocks := by
  unfold Card.mifareBlocks at present
  split at present
  · exact ⟨‹_›, Option.some.inj present⟩
  · cases present

theorem type_of_feliCaID
    {card : Card} {idm : UInt64}
    (present : card.feliCaID = some idm) : card.type = .felica := by
  unfold Card.feliCaID at present
  split at present
  · cases present
  · exact not_not.mp ‹_›

/-- A MIFARE card has no FeliCa ID. -/
theorem feliCaID_of_mifare
    {card : Card} (mifare : card.type = .mifare) :
    card.feliCaID = none := by
  rw [Card.feliCaID, mifare]
  rfl

/-- A FeliCa card has no access code. -/
theorem aimeID_of_felica
    {card : Card} (felica : card.type = .felica) : card.aimeID = none := by
  rw [Card.aimeID, felica]
  rfl

/-- A FeliCa card has no MIFARE blocks. -/
theorem mifareBlocks_of_felica
    {card : Card} (felica : card.type = .felica) :
    card.mifareBlocks = none := by
  rw [Card.mifareBlocks, felica]
  rfl

/-! The getters of a service read the card which it shows. -/

theorem aimeID_current (service : Service Info) :
    service.aimeID = service.currentCard.aimeID :=
  Getters.aimeID_eq service service

theorem mifareBlocks_current (service : Service Info) :
    service.mifareBlocks = service.currentCard.mifareBlocks :=
  Getters.mifareBlocks_eq service service

theorem feliCaID_current (service : Service Info) :
    service.feliCaID = service.currentCard.feliCaID :=
  Getters.feliCaID_eq service service

/-- The getter of the blocks succeeds if the published service shows some. -/
theorem mifareBlock_of_blocks
    {library : Library Info} {service : Service Info}
    (published : library.published = some service)
    {blocks : Vector Byte 32}
    (shown : service.mifareBlocks = some blocks) :
    aimeIoNfcGetMifareBlock library 0 true 32 =
      ⟨result sOK, some blocks⟩ := by
  simp [aimeIoNfcGetMifareBlock, exported, published, shown]

/--
A getter succeeds exactly when it writes.  Whatever it writes, for unit 0 and a
good buffer only, is what a verified session of the published service has
received in a valid card state.  With an access code, the getter of the blocks
succeeds, with the blocks of the same card; and no two of the getters show cards
of different types.
-/
theorem exported_card
    (Info : Type) (library : Library Info)
    (reached : (libraryMachine Info).Reachable library) :
    (∀ unit present size,
      ((aimeIoNfcGetAimeId library unit present size).code = result sOK ↔
        (aimeIoNfcGetAimeId library unit present size).written ≠ none) ∧
      ((aimeIoNfcGetMifareBlock library unit present size).code =
          result sOK ↔
        (aimeIoNfcGetMifareBlock library unit present size).written ≠
          none) ∧
      ((aimeIoNfcGetFelicaId library unit present).code = result sOK ↔
        (aimeIoNfcGetFelicaId library unit present).written ≠ none)) ∧
    (∀ unit present luidSize luid,
      (aimeIoNfcGetAimeId library unit present luidSize).written =
        some luid →
      unit = 0 ∧ present = true ∧ luidSize = 10 ∧ AccessCode luid ∧
      ∃ service card, library.published = some service ∧
        Reported service card ∧ card.luid = luid ∧
        aimeIoNfcGetMifareBlock library 0 true 32 =
          ⟨result sOK, some card.blocks⟩ ∧
        ∀ other place,
          (aimeIoNfcGetFelicaId library other place).written = none) ∧
    (∀ unit present blocksSize blocks,
      (aimeIoNfcGetMifareBlock library unit present blocksSize).written =
        some blocks →
      unit = 0 ∧ present = true ∧ blocksSize = 32 ∧
      ∃ service card, library.published = some service ∧
        Reported service card ∧ card.type = .mifare ∧
        card.blocks = blocks ∧
        ∀ other place,
          (aimeIoNfcGetFelicaId library other place).written = none) ∧
    ∀ unit present idm,
      (aimeIoNfcGetFelicaId library unit present).written = some idm →
      unit = 0 ∧ present = true ∧
      ∃ service card, library.published = some service ∧
        Reported service card ∧ card.feliCaID = some idm ∧
        ∀ other place size,
          (aimeIoNfcGetAimeId library other place size).written = none ∧
          (aimeIoNfcGetMifareBlock library other place size).written =
            none := by
  refine ⟨?_, ?_, ?_, ?_⟩
  · intro unit present size
    exact ⟨exported_code library unit _ _, exported_code library unit _ _,
      exported_code library unit _ _⟩
  · intro unit present luidSize luid written
    rcases exported_reported reached aimeID_current rfl written with
      ⟨first, accepted, service, published, reported, shown⟩
    rw [Bool.and_eq_true, beq_iff_eq] at accepted
    have received := reported
    rcases received with ⟨-, -, -, -, -, -, raw, -, decoded⟩
    rcases accessCode_of_aimeID decoded shown with
      ⟨valid, luidOf, blocks, noFelica⟩
    have written :=
      mifareBlock_of_blocks published
        ((mifareBlocks_current service).trans blocks)
    have silent :=
      exported_silent published ((feliCaID_current service).trans noFelica)
    exact ⟨first, accepted.1, accepted.2, valid, service,
      service.currentCard, published, reported, luidOf, written, silent⟩
  · intro unit present blocksSize blocks written
    rcases exported_reported reached mifareBlocks_current rfl written with
      ⟨first, accepted, service, published, reported, shown⟩
    rw [Bool.and_eq_true, beq_iff_eq] at accepted
    rcases type_of_mifareBlocks shown with ⟨type, same⟩
    have silent :=
      exported_silent published
        ((feliCaID_current service).trans (feliCaID_of_mifare type))
    exact ⟨first, accepted.1, accepted.2, service, service.currentCard,
      published, reported, type, same, silent⟩
  · intro unit present idm written
    rcases exported_reported reached feliCaID_current rfl written with
      ⟨first, accepted, service, published, reported, shown⟩
    have type := type_of_feliCaID shown
    have noCode :=
      exported_silent published
        ((aimeID_current service).trans (aimeID_of_felica type))
    have noBlocks :=
      exported_silent published
        ((mifareBlocks_current service).trans (mifareBlocks_of_felica type))
    exact ⟨first, accepted, service, service.currentCard, published,
      reported, shown,
      fun other place size => ⟨noCode other _, noBlocks other _⟩⟩

/-- One call publishes its service, which connects and reads a card. -/
def initialising : List (LibraryAction Nat) :=
  [.callInit, .load 0, .create 0 1000, .swap 0]

def swiping : List (ServiceAction Nat) :=
  [.session 0 (.read mifareReport), .session 0 .loop]

def reading : List (LibraryAction Nat) :=
  (connecting ++ swiping).map (LibraryAction.service 0)

theorem exported_card_mifare :
    ∃ library : Library Nat, (libraryMachine Nat).Reachable library ∧
      ∃ service card, library.published = some service ∧
        Reported service card ∧
        card.luid = #v[0, 0, 0, 0, 0, 0, 0, 0, 0, 1] ∧
        aimeIoNfcGetMifareBlock library 0 true 32 =
          ⟨result sOK, some card.blocks⟩ ∧
        ∀ other place,
          (aimeIoNfcGetFelicaId library other place).written = none := by
  rcases
      (libraryMachine Nat).exists_reachable_of_replay
        (fun library => decide
          ((aimeIoNfcGetAimeId library 0 true 10).written =
            some #v[0, 0, 0, 0, 0, 0, 0, 0, 0, 1]))
        (initialising ++ reading) (by decide +kernel) with
    ⟨library, reached, written⟩
  rcases exported_card Nat library reached with ⟨-, code, blocks, -⟩
  rcases code 0 true 10 _ (of_decide_eq_true written) with
    ⟨-, -, -, -, service, card, published, reported, luid, same, -⟩
  rcases blocks 0 true 32 card.blocks (congrArg Answer.written same) with
    ⟨-, -, -, -, -, -, -, -, -, silent⟩
  exact ⟨library, reached, service, card, published, reported, luid, same,
    silent⟩

end Pareader.Host.Exports
