import Pareader.Core.Liveness
import Pareader.Host.Ownership

/-!
# Shutdown terminates

`Service.Close` waits for the supervisor, the supervisor waits for the read
loop of its session, and a second call of `Close` waits for the first.  None of
these waits is for ever.

Once the context is cancelled, the supervisor goes through its control points
in one direction only, so that a bound on its remaining operations is a function
of the control point.  Where the supervisor cannot move, the read loop can, and
each of its operations brings it closer to its end.  A call of `Close` in its
turn waits for nobody but the call which cancels the context and the
supervisor.

The environment has to let every goroutine act which can act: `open`, `Write`
and `Read` return.  And a transport which was closed returns only finitely many
further reports.
-/

namespace Pareader.Host.Shutdown

open Pareader.Core
open Pareader.Host.Protocol
open Pareader.Host.Calls
open Pareader.Host.Sessions
open Pareader.Host.Supervision
open Pareader.Host.Ownership

variable {Info : Type}

/-! ## The way of the supervisor -/

/-- The action is one of `Service.run`. -/
def supervises : ServiceAction Info → Bool
  | .session _ _ => false
  | .callClose => false
  | .closer _ => false
  | _ => true

/-- A bound on the operations from a control point of `Allocate`. -/
def allocatingRemaining : Allocating → Nat
  | .trying attempts => 17 + 2 * (0xFFFF - attempts)
  | .probing attempts _ => 18 + 2 * (0xFFFF - (attempts + 1))
  | .adding _ => 16
  | .allocated _ _ => 15
  | .failed _ => 6

/-- A bound on the operations of `run` after the context was cancelled. -/
def remaining : RunPoint → Nat
  | .opening => 18 + 2 * 0xFFFF
  | .allocating _ state => allocatingRemaining state
  | .writing _ _ _ => 14
  | .awaiting _ _ => 13
  | .storingInfo _ => 12
  | .clearingErr _ => 11
  | .storingActive _ => 10
  | .serving _ => 9
  | .cancelling _ => 8
  | .joining _ => 7
  | .detaching _ => 6
  | .forgettingInfo _ => 5
  | .verifyFailed _ _ => 5
  | .storingErr _ => 4
  | .rejecting _ => 4
  | .releasing _ => 3
  | .draining _ => 3
  | .openFailed _ => 3
  | .retrying => 3
  | .retryCheck => 2
  | .checking => 2
  | .stopping => 1
  | .stopped => 0

theorem remaining_le (point : RunPoint) : remaining point ≤ 131088 := by
  cases point with
  | allocating id state =>
      cases state <;> simp only [remaining, allocatingRemaining] <;> omega
  | _ => simp [remaining]

theorem allocatingRemaining_step
    {caller next : Caller} {state after : Allocating}
    (taken : caller.allocateStep state = some (next, after)) :
    allocatingRemaining after < allocatingRemaining state := by
  cases state with
  | trying attempts =>
      simp only [Caller.allocateStep] at taken
      split at taken
      · cases taken
        split <;> simp only [allocatingRemaining] <;> omega
      · cases taken
        simp only [allocatingRemaining]
        omega
  | probing attempts sequence =>
      simp only [Caller.allocateStep, Option.some.injEq,
        Prod.mk.injEq] at taken
      rcases taken with ⟨-, rfl⟩
      by_cases pending : (caller.calls.get sequence).1.isSome
      · rw [if_pos pending]
        simp only [allocatingRemaining]
        omega
      · rw [if_neg pending]
        simp only [allocatingRemaining]
        omega
  | adding sequence =>
      cases taken
      simp [allocatingRemaining]
  | failed failure => cases taken
  | allocated sequence call => cases taken

theorem remaining_allocate (id : Nat) (timeout : Int) :
    remaining (.allocating id (allocate timeout)) < remaining .opening := by
  unfold allocate
  split <;> simp [remaining, allocatingRemaining]

theorem remaining_verifyPoint (id call : Nat) (raw : List Byte) :
    remaining (verifyPoint id raw) < remaining (.awaiting id call) := by
  rcases verifyPoint_cases id raw with ⟨failure, failed⟩ | ⟨passed, -⟩
  · rw [failed]
    simp [remaining]
  · rw [passed]
    simp [remaining]

/-- After the cancellation, `run` does not turn back. -/
theorem remaining_moves
    {service : Service Info} (cancelled : service.cancelled = true)
    {source target : RunPoint} (legal : service.Moves source target) :
    remaining target < remaining source ∧ target ≠ .opening := by
  cases legal with
  | tries running => simp [cancelled] at running
  | pauses running => simp [cancelled] at running
  | allocateFails id failure =>
      simp [remaining, allocatingRemaining]
  | allocated id sequence call =>
      simp [remaining, allocatingRemaining]
  | _ => simp [remaining]

/-- Every operation of the supervisor lowers the bound. -/
theorem remaining_of_transition
    {timeout : Int} {service next : Service Info}
    {action : ServiceAction Info}
    (transition : service.Transition timeout action next)
    (cancelled : service.cancelled = true)
    (supervised : supervises action = true) :
    remaining next.run < remaining service.run ∧ next.run ≠ .opening := by
  cases transition with
  | moves point legal =>
      rw [point]
      exact remaining_moves cancelled legal
  | closes point legal found =>
      rw [point]
      cases legal <;> simp [remaining]
  | opens point =>
      rw [point]
      exact ⟨remaining_allocate _ _, nofun⟩
  | allocates point found operation =>
      rw [point]
      exact ⟨allocatingRemaining_step operation, nofun⟩
  | @receives id call session raw caller point found operation =>
      rw [point]
      refine ⟨remaining_verifyPoint id call raw, ?_⟩
      rcases verifyPoint_cases id raw with ⟨failure, failed⟩ | ⟨passed, -⟩
      · simp [failed]
      · simp [passed]
  | session found taken => cases supervised
  | callClose => cases supervised
  | closer => cases supervised
  | closerCloses found => cases supervised
  | _ => simp [remaining, *]

/-! ## What a call of `Close` does -/

/-- The operations of a call of `Close`, by the control point. -/
inductive CloseEffect (service : Service Info) (index : Nat) :
    ClosePoint → Service Info → Prop where
  | yields (closed : service.closed = true) :
      CloseEffect service index .entering
        { service with closers := service.closers.set index .waiting }
  | claims (unclaimed : service.closed = false) :
      CloseEffect service index .entering
        { service with
          closed := true
          closers := service.closers.set index .cancelling }
  | cancels :
      CloseEffect service index .cancelling
        { service with
          cancelled := true
          closers := service.closers.set index .loading }
  | misses (inactive : service.active = none) :
      CloseEffect service index .loading
        { service with closers := service.closers.set index .waiting }
  | finds (id : Nat) (active : service.active = some id) :
      CloseEffect service index .loading
        { service with closers := service.closers.set index (.closing id) }
  | closes (id : Nat) (session : Session)
      (found : service.sessions[id]? = some session) :
      CloseEffect service index (.closing id)
        { service with
          sessions :=
            service.sessions.set id { session with transportClosed := true }
          closers := service.closers.set index .waiting }
  | returns (stopped : service.stopped = true) :
      CloseEffect service index .waiting
        { service with closers := service.closers.set index .returned }

theorem closeEffect_of_step
    {service next : Service Info} {index : Nat}
    (taken : service.closeStep index = some next) :
    ∃ point, service.closers[index]? = some point ∧
      CloseEffect service index point next := by
  unfold Service.closeStep at taken
  dsimp only at taken
  split at taken
  · cases taken
  · rename_i located
    refine ⟨_, located, ?_⟩
    split at taken <;> cases taken
    · exact .yields ‹_›
    · exact .claims (Bool.not_eq_true _ ▸ ‹_›)
  · rename_i located
    cases taken
    exact ⟨_, located, .cancels⟩
  · rename_i located
    refine ⟨_, located, ?_⟩
    split at taken <;> cases taken
    · exact .misses ‹_›
    · exact .finds _ ‹_›
  · rename_i located
    rcases Option.map_eq_some_iff.mp taken with ⟨middle, stepped, rfl⟩
    rcases Service.stepSession_eq_some stepped with
      ⟨session, after, found, closed, rfl⟩
    cases closed
    exact ⟨_, located, .closes _ session found⟩
  · rename_i located
    split at taken <;> cases taken
    exact ⟨_, located, .returns ‹_›⟩
  · cases taken

/-- A bound on the operations of a call of `Close`. -/
def closeRemaining : ClosePoint → Nat
  | .entering => 5
  | .cancelling => 4
  | .loading => 3
  | .closing _ => 2
  | .waiting => 1
  | .returned => 0

/-- An operation of a call of `Close` moves that call, forwards. -/
theorem CloseEffect.moves
    {service next : Service Info} {index : Nat} {point : ClosePoint}
    (effect : CloseEffect service index point next) :
    ∃ target, next.closers = service.closers.set index target ∧
      closeRemaining target < closeRemaining point := by
  cases effect with
  | finds id active => exact ⟨_, rfl, by simp [closeRemaining]⟩
  | closes id session found => exact ⟨_, rfl, by simp [closeRemaining]⟩
  | _ => exact ⟨_, rfl, by simp [closeRemaining]⟩

theorem CloseEffect.run
    {service next : Service Info} {index : Nat} {point : ClosePoint}
    (effect : CloseEffect service index point next) :
    next.run = service.run := by
  cases effect <;> rfl

/-- The other goroutines leave the supervisor where it is. -/
theorem run_of_step
    {timeout : Int} {service next : Service Info}
    {action : ServiceAction Info}
    (taken : service.step timeout action = some next)
    (other : supervises action = false) :
    next.run = service.run := by
  cases action with
  | session id event =>
      rcases Service.stepSession_eq_some taken with
        ⟨session, after, found, stepped, rfl⟩
      rfl
  | callClose =>
      cases taken
      rfl
  | closer index =>
      rcases closeEffect_of_step taken with ⟨point, located, effect⟩
      exact effect.run
  | _ => cases other

/-- The action belongs to a call of `Close`. -/
def closes : ServiceAction Info → Bool
  | .callClose => true
  | .closer _ => true
  | _ => false

/-- The flags of `Close`, and how far its calls have come. -/
def flags (service : Service Info) : Bool × Bool × List ClosePoint :=
  (service.closed, service.cancelled, service.closers)

@[simp]
theorem flags_storeError
    (service : Service Info) (failure : Option GoError) :
    flags (service.storeError failure) = flags service := by
  cases failure <;> rfl

/-- Only calls of `Close` touch their flags. -/
theorem flags_of_transition
    {timeout : Int} {service next : Service Info}
    {action : ServiceAction Info}
    (transition : service.Transition timeout action next)
    (other : closes action = false) :
    flags next = flags service := by
  cases transition with
  | callClose => cases other
  | closer => cases other
  | closerCloses found => cases other
  | storesErr point => exact flags_storeError service _
  | _ => rfl

/-- What a step does to the flags of `Close` and to its calls. -/
theorem flags_of_step
    {timeout : Int} {service next : Service Info}
    {action : ServiceAction Info}
    (taken : service.step timeout action = some next) :
    (flags next = flags service ∧ ∀ index, action ≠ .closer index) ∨
      action = .callClose ∧
        next = { service with closers := service.closers ++ [.entering] } ∨
      ∃ index point, action = .closer index ∧
        service.closers[index]? = some point ∧
        CloseEffect service index point next := by
  cases touches : closes action with
  | false =>
      refine Or.inl ⟨flags_of_transition
        (Service.transition_of_step taken) touches, ?_⟩
      rintro index rfl
      cases touches
  | true =>
      cases action with
      | callClose =>
          cases taken
          exact Or.inr (Or.inl ⟨rfl, rfl⟩)
      | closer index =>
          rcases closeEffect_of_step taken with ⟨point, located, effect⟩
          exact Or.inr (Or.inr ⟨index, point, rfl, located, effect⟩)
      | _ => cases touches

/-- A cancelled context stays cancelled. -/
theorem cancelled_of_step
    {timeout : Int} {service next : Service Info}
    {action : ServiceAction Info}
    (taken : service.step timeout action = some next)
    (cancelled : service.cancelled = true) :
    next.cancelled = true := by
  rcases flags_of_step taken with
    ⟨same, -⟩ | ⟨-, rfl⟩ | ⟨index, point, -, -, effect⟩
  · exact (congrArg (fun flags => flags.2.1) same).trans cancelled
  · exact cancelled
  · cases effect <;> first | exact cancelled | rfl

/-! ## The supervisor needs a bounded number of operations -/

/-- Cancelled, the supervisor opens the reader at most here. -/
def opening : RunPoint → Nat
  | .opening => 1
  | _ => 0

theorem opening_eq_zero {point : RunPoint} (other : point ≠ .opening) :
    opening point = 0 := by
  cases point with
  | opening => exact (other rfl).elim
  | _ => rfl

theorem opened_of_transition
    {timeout : Int} {service next : Service Info}
    {action : ServiceAction Info}
    (transition : service.Transition timeout action next) :
    next.opened.length ≤ service.opened.length + opening service.run ∧
      (supervises action = false → next.opened = service.opened) := by
  cases transition with
  | opens point =>
      rw [point]
      exact ⟨by simp [opening], nofun⟩
  | storesErr point => simp
  | _ => exact ⟨Nat.le_add_right _ _, fun _ => rfl⟩

/-- Step lemma for the bounds on the operations and on the open sessions. -/
theorem bounded_step
    {timeout : Int} {service next : Service Info}
    {action : ServiceAction Info}
    (taken : service.step timeout action = some next)
    (cancelled : service.cancelled = true) :
    (supervises action).toNat + remaining next.run ≤
        remaining service.run ∧
      next.opened.length + opening next.run ≤
        service.opened.length + opening service.run := by
  have transition := Service.transition_of_step taken
  cases supervised : supervises action with
  | true =>
      rcases remaining_of_transition transition cancelled supervised with
        ⟨lower, elsewhere⟩
      have opened := (opened_of_transition transition).1
      rw [opening_eq_zero elsewhere]
      exact ⟨by simp only [Bool.toNat_true]; omega, opened⟩
  | false =>
      rw [run_of_step taken supervised,
        (opened_of_transition transition).2 supervised]
      exact ⟨by simp, Nat.le_refl _⟩

/-- Run lemma for the bounds on the operations and on the open sessions. -/
theorem bounded_replay
    {timeout : Int} {service later : Service Info}
    (cancelled : service.cancelled = true)
    (trace : List (ServiceAction Info))
    (replayed :
      (serviceMachine Info timeout).replay service trace = some later) :
    trace.countP supervises + remaining later.run ≤
        remaining service.run ∧
      later.opened.length + opening later.run ≤
        service.opened.length + opening service.run := by
  induction trace generalizing service with
  | nil =>
      cases replayed
      simp
  | cons action rest induction =>
      rcases Option.bind_eq_some_iff.mp replayed with
        ⟨next, taken, continued⟩
      rcases bounded_step taken cancelled with ⟨operations, opened⟩
      rcases induction (cancelled_of_step taken cancelled) continued with
        ⟨restOperations, restOpened⟩
      refine ⟨?_, restOpened.trans opened⟩
      rw [List.countP_cons]
      cases supervised : supervises action with
      | true =>
          simp only [supervised, Bool.toNat_true] at operations
          simp only [if_pos]
          omega
      | false =>
          simp only [supervised, Bool.toNat_false] at operations
          simp only [Bool.false_eq_true, if_false]
          omega

/--
Once the context is cancelled, whatever happens, the supervisor takes at most
131088 further operations, and it opens the reader at most once more.
-/
theorem shutdown_bounded
    (Info : Type) (timeout : Int) (service later : Service Info)
    (cancelled : service.cancelled = true)
    (trace : List (ServiceAction Info))
    (replayed :
      (serviceMachine Info timeout).replay service trace = some later) :
    trace.countP supervises ≤ 131088 ∧
      later.opened.length ≤ service.opened.length + 1 := by
  rcases bounded_replay cancelled trace replayed with ⟨operations, opened⟩
  have within := remaining_le service.run
  have once : opening service.run ≤ 1 := by
    cases service.run <;> simp [opening]
  constructor
  · omega
  · omega

/-- The supervisor of a connected service, after its context is cancelled. -/
def leaving : List (ServiceAction Nat) :=
  [.contextDone, .run, .session 0 (.readFails (.code .disconnected)),
    .session 0 .loop, .session 0 .loop, .session 0 .loop, .run, .run, .run,
    .run, .run, .run, .run]

theorem shutdown_bounded_connected :
    ∃ service later : Service Nat,
      service.cancelled = true ∧
      (serviceMachine Nat 1000).replay service leaving = some later ∧
      leaving.countP supervises ≤ 131088 ∧
      later.opened.length ≤ service.opened.length + 1 := by
  have passes :
      ((serviceMachine Nat 1000).replay (serviceMachine Nat 1000).start
        (connecting ++ [.callClose, .closer 0, .closer 0])).any
          (fun service => service.cancelled &&
            ((serviceMachine Nat 1000).replay service leaving).isSome) =
        true := by
    decide +kernel
  rcases (Option.any_eq_true _ _).mp passes with ⟨service, -, passed⟩
  rcases Bool.and_eq_true_iff.mp passed with ⟨cancelled, continues⟩
  rcases Option.isSome_iff_exists.mp continues with ⟨later, replayed⟩
  exact ⟨service, later, cancelled, replayed,
    shutdown_bounded Nat 1000 service later cancelled leaving replayed⟩

/-! ## Read loops come to their end -/

/-- What the supervisor can see of a session. -/
def view (session : Session) : LoopPoint × Bool :=
  (session.loop, session.done)

/-- The action is one of the read loop. -/
def SessionEvent.loops : SessionEvent → Bool
  | .expire _ => false
  | _ => true

theorem view_of_expire
    {session next : Session} {event : SessionEvent}
    (taken : session.step event.action = some next)
    (other : SessionEvent.loops event = false) :
    view next = view session := by
  cases event with
  | expire sequence =>
      cases taken
      rfl
  | _ => cases other

/-- A bound on the operations of a read loop without another report. -/
def loopRemaining (point : LoopPoint) : Nat :=
  point.rank + if point.alive then 4 else 0

theorem loopRemaining_le (point : LoopPoint) : loopRemaining point ≤ 9 := by
  have within := point.rank_le
  unfold loopRemaining
  split <;> omega

/-- An operation of the read loop brings it closer to its end. -/
theorem loopStep_advances
    {session next : Session} (taken : session.loopStep = some next) :
    loopRemaining next.loop < loopRemaining session.loop ∧
      (next.loop = .ended → next.done = true) := by
  cases point : session.loop with
  | reading =>
      rw [Session.loopStep, point] at taken
      cases taken
  | storing card =>
      rw [Session.loopStep, point] at taken
      cases taken
      exact ⟨by simp [loopRemaining, LoopPoint.rank, LoopPoint.alive],
        fun finished => by cases finished⟩
  | consuming state =>
      rw [Session.loopStep, point] at taken
      cases state with
      | returned outcome =>
          cases taken
          exact
            ⟨by simp [loopRemaining, LoopPoint.rank, LoopPoint.alive],
        fun finished => by cases finished⟩
      | _ =>
          rcases Option.map_eq_some_iff.mp taken with
            ⟨⟨caller, after⟩, consumed, rfl⟩
          have lower := LoopPoint.rank_consumeStep consumed
          refine ⟨?_, fun finished => by cases finished⟩
          simp only [loopRemaining, LoopPoint.alive, if_true]
          omega
  | clearing failure =>
      rw [Session.loopStep, point] at taken
      cases taken
      exact ⟨by simp [loopRemaining, LoopPoint.rank, LoopPoint.alive],
        fun finished => by cases finished⟩
  | recording failure =>
      rw [Session.loopStep, point] at taken
      cases taken
      exact ⟨by simp [loopRemaining, LoopPoint.rank, LoopPoint.alive],
        fun finished => by cases finished⟩
  | closing =>
      rw [Session.loopStep, point] at taken
      cases taken
      exact
        ⟨by simp [loopRemaining, LoopPoint.rank, LoopPoint.alive],
          fun _ => rfl⟩
  | ended =>
      rw [Session.loopStep, point] at taken
      cases taken

/-- The `done` channel of a session whose read loop has ended is closed. -/
theorem done_of_ended
    {session : Session} (reached : sessionMachine.Reachable session) :
    session.loop = .ended → session.done = true := by
  refine
    @Machine.Reachable.invariant _ _ sessionMachine
      (fun session => session.loop = .ended → session.done = true)
      session reached (fun finished => by cases finished) ?_
  intro session action next _ finished taken
  cases action with
  | read raw =>
      simp only [sessionMachine, Session.step] at taken
      split at taken <;> cases taken
      intro ended
      unfold routePoint at ended
      split at ended <;> cases ended
  | readFails failure =>
      simp only [sessionMachine, Session.step] at taken
      split at taken <;> cases taken
      exact fun finished => by cases finished
  | loop => exact (loopStep_advances taken).2
  | allocate state =>
      rcases Option.map_eq_some_iff.mp taken with ⟨-, -, rfl⟩
      exact finished
  | receive call =>
      rcases Option.map_eq_some_iff.mp taken with ⟨-, -, rfl⟩
      exact finished
  | expire sequence =>
      cases taken
      exact finished
  | write raw =>
      cases taken
      exact finished
  | close =>
      cases taken
      exact finished

/-! ## What the goroutines rely on -/

/-- What the supervisor relies on where it needs one of the sessions. -/
structure Attending (service : Service Info) : Prop where
  owns : ∀ id, owner service.run = some id → id < service.sessions.length
  joins : ∀ id, service.run = .joining id →
    OfSession service.sessions id (fun session =>
      session.transportClosed = true)
  stopped : service.run = .stopped → service.stopped = true

/-- Moving on, the supervisor acquires no session. -/
theorem owner_of_move
    {service : Service Info} {source target : RunPoint}
    (legal : service.Moves source target) {id : Nat}
    (owns : owner target = some id) :
    owner source = some id := by
  cases legal <;> first | exact owns | cases owns

/-- There are never fewer sessions. -/
theorem sessions_of_transition
    {timeout : Int} {service next : Service Info}
    {action : ServiceAction Info}
    (transition : service.Transition timeout action next) :
    service.sessions.length ≤ next.sessions.length := by
  cases transition.sessionsEffect with
  | same sessions opened => exact Nat.le_of_eq (congrArg _ sessions.symm)
  | opens info sessions opened => simp [sessions]
  | steps id session after action found taken allowed sessions opened =>
      simp [sessions]

theorem owns_of_transition
    {timeout : Int} {service next : Service Info}
    {action : ServiceAction Info}
    (transition : service.Transition timeout action next)
    (owns : ∀ id, owner service.run = some id →
      id < service.sessions.length)
    {id : Nat} (owned : owner next.run = some id) :
    id < next.sessions.length := by
  have grown := sessions_of_transition transition
  by_cases before : owner service.run = some id
  · exact (owns id before).trans_le grown
  · cases transition with
    | opens point =>
        obtain rfl : service.sessions.length = id := Option.some.inj owned
        simp
    | moves point legal =>
        rw [point] at before
        exact (before (owner_of_move legal owned)).elim
    | closes point legal found =>
        rw [point] at before
        cases legal with
        | releasing => cases owned
        | _ => exact (before owned).elim
    | @receives other call session raw caller point found operation =>
        rw [point] at before
        rw [owner_verifyPoint] at owned
        exact (before owned).elim
    | session found taken => exact (before owned).elim
    | callClose => exact (before owned).elim
    | closer => exact (before owned).elim
    | closerCloses found => exact (before owned).elim
    | reportsOpen point => cases owned
    | stops point => cases owned
    | _ => exact (before (by rwa [‹service.run = _›])).elim

/-- Where the supervisor begins to wait for a read loop. -/
theorem joins_of_transition
    {timeout : Int} {service next : Service Info}
    {action : ServiceAction Info}
    (transition : service.Transition timeout action next) {id : Nat}
    (joins : next.run = .joining id) :
    service.run = .joining id ∨
      OfSession next.sessions id (fun session =>
        session.transportClosed = true) := by
  cases transition with
  | moves point legal =>
      dsimp only at joins
      subst joins
      cases legal
  | closes point legal found =>
      rcases List.getElem?_eq_some_iff.mp found with ⟨inside, -⟩
      cases legal with
      | cancelling =>
          cases joins
          exact Or.inr ⟨_, List.getElem?_set_self inside, rfl⟩
      | _ => cases joins
  | @receives other call session raw caller point found operation =>
      rcases verifyPoint_cases other raw with ⟨failure, failed⟩ | ⟨passed, -⟩
      · exact absurd (failed.symm.trans joins) nofun
      · exact absurd (passed.symm.trans joins) nofun
  | session found taken => exact Or.inl joins
  | callClose => exact Or.inl joins
  | closer => exact Or.inl joins
  | closerCloses found => exact Or.inl joins
  | _ => cases joins

theorem stopped_of_run
    {timeout : Int} {service next : Service Info}
    {action : ServiceAction Info}
    (transition : service.Transition timeout action next)
    (before : service.run = .stopped → service.stopped = true)
    (rests : next.run = .stopped) :
    next.stopped = true := by
  cases transition with
  | stops point => rfl
  | moves point legal =>
      dsimp only at rests
      subst rests
      cases legal
  | closes point legal found =>
      dsimp only at rests
      subst rests
      cases legal
  | @receives other call session raw caller point found operation =>
      rcases verifyPoint_cases other raw with ⟨failure, failed⟩ | ⟨passed, -⟩
      · exact absurd (failed.symm.trans rests) nofun
      · exact absurd (passed.symm.trans rests) nofun
  | session found taken => exact before rests
  | callClose => exact before rests
  | closer => exact before rests
  | closerCloses found => exact before rests
  | _ => cases rests

/-- A property of one of the sessions which no step ends. -/
theorem closed_of_transition
    {timeout : Int} {service next : Service Info}
    {action : ServiceAction Info}
    (transition : service.Transition timeout action next) {id : Nat}
    (closed : OfSession service.sessions id (fun session =>
      session.transportClosed = true)) :
    OfSession next.sessions id (fun session =>
      session.transportClosed = true) := by
  rcases closed with ⟨session, found, closed⟩
  rcases
      transition.sessionsEffect.related Onward.refl
        (fun _ _ _ _ stepped => onward_of_step stepped) found with
    ⟨after, located, onward⟩
  exact ⟨after, located, onward.closed closed⟩

theorem attending_of_reachable
    {timeout : Int} {service : Service Info}
    (reached : (serviceMachine Info timeout).Reachable service) :
    Attending service := by
  refine reached.invariant ?_ ?_
  · exact ⟨nofun, nofun, nofun⟩
  · intro state action next _ attending taken
    have transition := Service.transition_of_step taken
    refine
      ⟨fun _ => owns_of_transition transition attending.owns, ?_,
        stopped_of_run transition attending.stopped⟩
    intro id joins
    rcases joins_of_transition transition joins with before | closed
    · exact closed_of_transition transition (attending.joins id before)
    · exact closed

/-- What the calls of `Close` rely on. -/
structure Claimed (service : Service Info) : Prop where
  entered : ∀ (index : Nat) point,
    service.closers[index]? = some point →
    point ≠ .entering → service.closed = true
  claimed : service.closed = true →
    service.cancelled = true ∨
      ∃ index : Nat, service.closers[index]? = some .cancelling
  found : ∀ (index id : Nat),
    service.closers[index]? = some (.closing id) →
      id < service.sessions.length

/-- A step of a call of `Close` which claims, cancels or does neither. -/
theorem Claimed.closer
    {service next : Service Info} (claimed : Claimed service)
    (published : ∀ id, service.active = some id →
      id < service.sessions.length)
    {index : Nat} {point : ClosePoint}
    (located : service.closers[index]? = some point)
    (effect : CloseEffect service index point next) :
    Claimed next := by
  rcases List.getElem?_eq_some_iff.mp located with ⟨inside, -⟩
  -- A call which is not the claiming one leaves the claiming one alone.
  have kept : ∀ target, point ≠ .cancelling → service.closed = true →
      service.cancelled = true ∨
        ∃ other : Nat,
          (service.closers.set index target)[other]? =
            some .cancelling := by
    intro target different closed
    rcases claimed.claimed closed with cancelled | ⟨other, cancelling⟩
    · exact Or.inl cancelled
    · refine Or.inr ⟨other, ?_⟩
      rw [List.getElem?_set_ne, cancelling]
      rintro rfl
      exact different (Option.some.inj (located.symm.trans cancelling))
  have found : ∀ target,
      (∀ id, target = .closing id → id < service.sessions.length) →
        ∀ (other id : Nat),
          (service.closers.set index target)[other]? =
              some (.closing id) →
            id < service.sessions.length := by
    intro target inside other id closing
    rcases thread_of_set closing with ⟨-, same⟩ | ⟨-, before⟩
    · exact inside id same.symm
    · exact claimed.found other id before
  have closed : point ≠ .entering → service.closed = true :=
    claimed.entered index point located
  cases effect with
  | yields already =>
      exact ⟨fun _ _ _ _ => already, kept _ nofun, found _ nofun⟩
  | claims unclaimed =>
      exact ⟨fun _ _ _ _ => rfl,
        fun _ => Or.inr ⟨index, List.getElem?_set_self inside⟩,
        found _ nofun⟩
  | cancels =>
      exact ⟨fun _ _ _ _ => closed nofun, fun _ => Or.inl rfl,
        found _ nofun⟩
  | misses inactive =>
      exact ⟨fun _ _ _ _ => closed nofun, kept _ nofun, found _ nofun⟩
  | finds id active =>
      refine ⟨fun _ _ _ _ => closed nofun, kept _ nofun, found _ ?_⟩
      rintro _ ⟨⟩
      exact published id active
  | closes id session _ =>
      refine ⟨fun _ _ _ _ => closed nofun, kept _ nofun, ?_⟩
      intro other id closing
      rw [List.length_set]
      exact found .waiting nofun other id closing
  | returns stopped =>
      exact ⟨fun _ _ _ _ => closed nofun, kept _ nofun,
        found _ nofun⟩

/-- A published session exists. -/
theorem exists_of_active
    {timeout : Int} {service : Service Info}
    (reached : (serviceMachine Info timeout).Reachable service) {id : Nat}
    (active : service.active = some id) :
    id < service.sessions.length := by
  rcases verified_of_active reached active with ⟨session, found, -⟩
  exact (List.getElem?_eq_some_iff.mp found).1

theorem claimed_of_reachable
    {timeout : Int} {service : Service Info}
    (reached : (serviceMachine Info timeout).Reachable service) :
    Claimed service := by
  refine reached.invariant ?_ ?_
  · constructor <;> simp [serviceMachine, newService]
  · intro state action next before claimed taken
    rcases flags_of_step taken with
      ⟨same, -⟩ | ⟨-, rfl⟩ | ⟨index, point, -, located, effect⟩
    · have grown := sessions_of_transition
        (Service.transition_of_step taken)
      simp only [flags, Prod.mk.injEq] at same
      rcases same with ⟨closed, cancelled, closers⟩
      refine ⟨?_, ?_, ?_⟩
      · rw [closers, closed]
        exact claimed.entered
      · rw [closers, closed, cancelled]
        exact claimed.claimed
      · intro index id closing
        rw [closers] at closing
        exact (claimed.found index id closing).trans_le grown
    · refine ⟨?_, ?_, ?_⟩
      · intro index point located later
        rcases thread_of_append located with fresh | before
        · exact (later fresh).elim
        · exact claimed.entered index point before later
      · intro closed
        rcases claimed.claimed closed with cancelled | ⟨index, cancelling⟩
        · exact Or.inl cancelled
        · rcases List.getElem?_eq_some_iff.mp cancelling with ⟨inside, -⟩
          exact Or.inr ⟨index,
            (List.getElem?_append_left inside).trans cancelling⟩
      · intro index id located
        rcases thread_of_append located with fresh | before
        · cases fresh
        · exact claimed.found index id before
    · exact claimed.closer (fun _ => exists_of_active before) located effect

/-! ## Everybody who waits is helped -/

/-- The participants. -/
inductive Party where
  | supervisor
  | loop (id : Nat)
  | closer (index : Nat)

/-- The actions of a participant. -/
def Party.acts : Party → ServiceAction Info → Prop
  | .supervisor, action => supervises action = true
  | .loop id, action =>
      ∃ event, SessionEvent.loops event = true ∧ action = .session id event
  | .closer index, action => action = .closer index

/-- The action is not a report from a transport which was closed. -/
def Silent (id : Nat) (service : Service Info)
    (action : ServiceAction Info) : Prop :=
  ∀ raw, action = .session id (.read raw) →
    ¬ OfSession service.sessions id (fun session =>
      session.transportClosed = true)

/--
The environment lets every goroutine act which can act, and a transport which
was closed returns finitely many further reports.
-/
structure Cooperative {timeout : Int}
    (run : (serviceMachine Info timeout).Run) : Prop where
  fair : ∀ party : Party, run.Fair party.acts
  silent : ∀ id, ∃ start, run.LawfulFrom (Silent id) start

/-- The read loop for whose end the supervisor waits. -/
def awaited : RunPoint → Option Nat
  | .draining id => some id
  | .joining id => some id
  | _ => none

/-- Who brings the supervisor closer to its end. -/
def helper (service : Service Info) : Party :=
  match awaited service.run with
  | none => .supervisor
  | some id => if service.sessionDone id then .supervisor else .loop id

/-- How far the awaited read loop is from its end. -/
def awaitedRemaining (service : Service Info) : Nat :=
  ((awaited service.run).bind (service.sessions[·]?)).elim 0
    (fun session => loopRemaining session.loop)

/-- How far the supervisor is from its end. -/
def shutdownRank (service : Service Info) : Nat :=
  16 * remaining service.run + awaitedRemaining service

theorem awaitedRemaining_le (service : Service Info) :
    awaitedRemaining service ≤ 9 := by
  unfold awaitedRemaining
  cases (awaited service.run).bind (service.sessions[·]?) with
  | none => exact Nat.zero_le 9
  | some session => exact loopRemaining_le session.loop

/-- Where the supervisor waits, the transport was closed. -/
theorem closed_of_awaited
    {timeout : Int} {service : Service Info}
    (reached : (serviceMachine Info timeout).Reachable service) {id : Nat}
    (waits : awaited service.run = some id) :
    OfSession service.sessions id (fun session =>
      session.transportClosed = true) := by
  cases point : service.run with
  | draining other =>
      rw [point] at waits
      cases waits
      have releasing := (owned_of_reachable reached).releasing
      rw [point] at releasing
      exact releasing
  | joining other =>
      rw [point] at waits
      cases waits
      exact (attending_of_reachable reached).joins id point
  | _ =>
      rw [point] at waits
      cases waits

/-- A step on a session which exists is taken. -/
theorem stepSession_isSome
    {service : Service Info} {id : Nat} {action : SessionAction}
    {session next : Session} (found : service.sessions[id]? = some session)
    (taken : session.step action = some next) :
    service.stepSession id action =
      some { service with sessions := service.sessions.set id next } := by
  unfold Service.stepSession
  rw [found]
  dsimp only
  rw [taken, Option.map_some]

/-- A read loop which has not ended can act, if only with a failed read. -/
theorem loop_enabled
    {timeout : Int} {service : Service Info}
    (valid : service.SessionsValid) {id : Nat} {session : Session}
    (found : service.sessions[id]? = some session)
    (running : session.done = false) :
    (serviceMachine Info timeout).Enabled (Party.loop id).acts service := by
  have reached := valid.reachable session (List.mem_of_getElem? found)
  have invariant := invariant_of_reachable reached
  by_cases rests : session.loop.rank = 0
  · rcases LoopPoint.resting_of_rank rests with reading | ended
    · have taken : session.step (.readFails (.code .disconnected)) =
          some { session with loop := .clearing (.code .disconnected) } := by
        rw [Session.step, reading]
      exact ⟨.session id (.readFails (.code .disconnected)), _,
        ⟨_, rfl, rfl⟩, stepSession_isSome found taken⟩
    · rw [done_of_ended reached ended] at running
      cases running
  · rcases invariant.busy rests with ⟨next, taken, -⟩
    exact ⟨.session id .loop, _, ⟨_, rfl, rfl⟩,
      stepSession_isSome found taken⟩

/-- An unfinished `Allocate` always has a next operation. -/
theorem allocateStep_isSome
    (caller : Caller) (state : Allocating)
    (unfailed : ∀ failure, state ≠ .failed failure)
    (unallocated : ∀ sequence call, state ≠ .allocated sequence call) :
    ∃ next after, caller.allocateStep state = some (next, after) := by
  cases state with
  | trying attempts =>
      rw [Caller.allocateStep]
      split
      · exact ⟨_, _, rfl⟩
      · exact ⟨_, _, rfl⟩
  | probing attempts sequence => exact ⟨_, _, rfl⟩
  | adding sequence => exact ⟨_, _, rfl⟩
  | failed failure => exact (unfailed failure rfl).elim
  | allocated sequence call => exact (unallocated sequence call rfl).elim

theorem runStep_of_allocating
    {service : Service Info} {id : Nat} {state : Allocating}
    (point : service.run = .allocating id state)
    (inside : id < service.sessions.length) :
    ∃ next, service.runStep = some next := by
  have found := List.getElem?_eq_getElem inside
  have operates : ∀ next after,
      service.sessions[id].caller.allocateStep state =
          some (next, after) →
        (service.sessions[id]?.bind (fun session =>
          (session.caller.allocateStep state).bind (fun operation =>
            (service.stepSession id (.allocate state)).bind (fun next =>
              some
                { next with run := RunPoint.allocating id operation.2 })))) =
        some
          { service with
            sessions :=
              service.sessions.set id
                { service.sessions[id] with caller := next }
            run := .allocating id after } := by
    intro next after operation
    have taken : service.sessions[id].step (.allocate state) =
        some { service.sessions[id] with caller := next } := by
      rw [Session.step, operation, Option.map_some]
    rw [stepSession_isSome found taken, found]
    simp only [Option.bind_some, operation]
  have unfinished : ∀ {next after},
      service.sessions[id].caller.allocateStep state =
          some (next, after) →
        ∃ result, service.runStep = some result := by
    intro next after operation
    have result := operates next after operation
    rw [Service.runStep, point]
    cases state with
    | failed failure => exact ⟨_, rfl⟩
    | allocated sequence call => exact ⟨_, rfl⟩
    | _ => exact ⟨_, result⟩
  by_cases failed : ∃ failure, state = .failed failure
  · rcases failed with ⟨failure, rfl⟩
    exact ⟨_, by rw [Service.runStep, point]⟩
  · by_cases allocated : ∃ sequence call, state = .allocated sequence call
    · rcases allocated with ⟨sequence, call, rfl⟩
      exact ⟨_, by rw [Service.runStep, point]⟩
    · rcases
          allocateStep_isSome service.sessions[id].caller state
            (fun failure same => failed ⟨failure, same⟩)
            (fun sequence call same => allocated ⟨sequence, call, same⟩) with
        ⟨next, after, operation⟩
      exact unfinished operation

/-- The supervisor can act, unless it waits for a read loop or is done. -/
theorem supervisor_enabled
    {timeout : Int} {service : Service Info} (attending : Attending service)
    (cancelled : service.cancelled = true)
    (attended : ∀ id, awaited service.run = some id →
      service.sessionDone id = true) :
    service.stopped = true ∨
      (serviceMachine Info timeout).Enabled Party.supervisor.acts
        service := by
  have closes : ∀ {id : Nat} (target : RunPoint),
      owner service.run = some id →
        ∃ next, (service.stepSession id .close).map
          (fun next => { next with run := target }) = some next := by
    intro id target owned
    rw [stepSession_isSome
      (List.getElem?_eq_getElem (attending.owns id owned)) rfl]
    exact ⟨_, rfl⟩
  have acts : ∀ {action : ServiceAction Info} {next},
      supervises action = true →
      service.step timeout action = some next →
        service.stopped = true ∨
          (serviceMachine Info timeout).Enabled Party.supervisor.acts
            service :=
    fun supervised taken => Or.inr ⟨_, _, supervised, taken⟩
  have runs : ∀ {next}, service.runStep = some next →
      service.stopped = true ∨
        (serviceMachine Info timeout).Enabled Party.supervisor.acts
          service :=
    fun taken => Or.inr ⟨.run, _, rfl, taken⟩
  cases point : service.run with
  | opening =>
      have fails : service.step timeout
          (.openFails (.code .disconnected)) =
            some { service with run := .openFailed (.code .disconnected) } := by
        rw [Service.step, point]
      exact acts rfl fails
  | writing id sequence call =>
      have fails : service.step timeout
          (.writeFails (.code .disconnected)) =
            some
              { service with
                run := .verifyFailed id (.code .disconnected) } := by
        rw [Service.step, point]
      exact acts rfl fails
  | awaiting id call =>
      have expires : service.step timeout .timesOut =
          some { service with run := .verifyFailed id (.code .timeout) } := by
        rw [Service.step, Service.timeOut, point]
      exact acts rfl expires
  | serving id =>
      have leaves : service.step timeout .contextDone =
          some { service with run := .cancelling id } := by
        rw [Service.step, Service.contextDone, if_pos cancelled, point]
      exact acts rfl leaves
  | retrying =>
      have expires : service.step timeout .timesOut =
          some { service with run := .checking } := by
        rw [Service.step, Service.timeOut, point]
      exact acts rfl expires
  | allocating id state =>
      rcases runStep_of_allocating point
          (attending.owns id (by rw [point]; rfl)) with ⟨next, taken⟩
      exact runs taken
  | rejecting id =>
      rcases closes (.draining id) (by rw [point]; rfl) with ⟨next, taken⟩
      exact runs (by rw [Service.runStep, point]; exact taken)
  | cancelling id =>
      rcases closes (.joining id) (by rw [point]; rfl) with ⟨next, taken⟩
      exact runs (by rw [Service.runStep, point]; exact taken)
  | releasing id =>
      rcases closes .retryCheck (by rw [point]; rfl) with ⟨next, taken⟩
      exact runs (by rw [Service.runStep, point]; exact taken)
  | draining id =>
      have done := attended id (by rw [point]; rfl)
      exact runs (by rw [Service.runStep, point]; exact if_pos done)
  | joining id =>
      have done := attended id (by rw [point]; rfl)
      exact runs (by rw [Service.runStep, point]; exact if_pos done)
  | stopped => exact Or.inl (attending.stopped point)
  | _ => exact runs (by rw [Service.runStep, point])

/-- Who is neither the supervisor nor the read loop leaves its view alone. -/
theorem view_of_step
    {timeout : Int} {service next : Service Info}
    {action : ServiceAction Info}
    (taken : service.step timeout action = some next)
    (unsupervised : supervises action = false) {id : Nat}
    (other : ¬ (Party.loop id).acts action) {session : Session}
    (found : service.sessions[id]? = some session) :
    ∃ after, next.sessions[id]? = some after ∧
      view after = view session := by
  rcases List.getElem?_eq_some_iff.mp found with ⟨inside, -⟩
  cases action with
  | session place event =>
      rcases Service.stepSession_eq_some taken with
        ⟨before, after, located, stepped, rfl⟩
      by_cases same : place = id
      · subst same
        obtain rfl : session = before :=
          Option.some.inj (found.symm.trans located)
        refine ⟨after, List.getElem?_set_self inside, ?_⟩
        refine view_of_expire stepped ?_
        exact Bool.eq_false_iff.mpr (fun loops => other ⟨event, loops, rfl⟩)
      · exact ⟨session, (List.getElem?_set_ne same).trans found, rfl⟩
  | callClose =>
      cases taken
      exact ⟨session, found, rfl⟩
  | closer index =>
      rcases closeEffect_of_step taken with ⟨point, -, effect⟩
      cases effect with
      | closes place before located =>
          by_cases same : place = id
          · subst same
            obtain rfl : session = before :=
              Option.some.inj (found.symm.trans located)
            exact ⟨_, List.getElem?_set_self inside, rfl⟩
          · exact ⟨session, (List.getElem?_set_ne same).trans found, rfl⟩
      | _ => exact ⟨session, found, rfl⟩
  | _ => cases unsupervised

/-- Without further reports, the read loop comes closer to its end. -/
theorem loop_advances
    {timeout : Int} {service next : Service Info}
    {action : ServiceAction Info} {id : Nat}
    (taken : service.step timeout action = some next)
    (acts : (Party.loop id).acts action)
    (closed : OfSession service.sessions id (fun session =>
      session.transportClosed = true))
    (silent : Silent id service action) {session : Session}
    (found : service.sessions[id]? = some session) :
    ∃ after, next.sessions[id]? = some after ∧
      loopRemaining after.loop < loopRemaining session.loop := by
  rcases List.getElem?_eq_some_iff.mp found with ⟨inside, -⟩
  rcases acts with ⟨event, loops, rfl⟩
  rcases Service.stepSession_eq_some taken with
    ⟨before, after, located, stepped, rfl⟩
  obtain rfl : session = before :=
    Option.some.inj (found.symm.trans located)
  refine ⟨after, List.getElem?_set_self inside, ?_⟩
  cases event with
  | read raw => exact (silent raw rfl closed).elim
  | readFails failure =>
      simp only [SessionEvent.action, Session.step] at stepped
      split at stepped
      · rename_i reading
        cases stepped
        rw [reading]
        simp [loopRemaining, LoopPoint.rank, LoopPoint.alive]
      · cases stepped
  | loop => exact (loopStep_advances stepped).1
  | expire sequence => cases loops

theorem awaitedRemaining_eq
    {service : Service Info} {id : Nat} {session : Session}
    (waits : awaited service.run = some id)
    (found : service.sessions[id]? = some session) :
    awaitedRemaining service = loopRemaining session.loop := by
  rw [awaitedRemaining, waits, Option.bind_some, found, Option.elim_some]

theorem helper_eq
    {service : Service Info} {id : Nat} {session : Session}
    (waits : awaited service.run = some id)
    (found : service.sessions[id]? = some session) :
    helper service = if session.done then .supervisor else .loop id := by
  simp only [helper, waits, Service.sessionDone, found, Option.any_some]

/-- Cancelled, the service has opened or may still open so many sessions. -/
structure Ending (bound : Nat) (service : Service Info) : Prop where
  cancelled : service.cancelled = true
  bounded : service.opened.length + opening service.run ≤ bound

theorem helper_enabled
    {timeout : Int} {service : Service Info}
    (reached : (serviceMachine Info timeout).Reachable service)
    (cancelled : service.cancelled = true) :
    service.stopped = true ∨
      (serviceMachine Info timeout).Enabled (helper service).acts
        service := by
  have attending := attending_of_reachable reached
  cases waits : awaited service.run with
  | none =>
      have helped : helper service = .supervisor := by
        rw [helper, waits]
      rw [helped]
      exact supervisor_enabled attending cancelled
        (fun id waiting => by rw [waits] at waiting; cases waiting)
  | some id =>
      rcases closed_of_awaited reached waits with ⟨session, found, -⟩
      rw [helper_eq waits found]
      cases done : session.done with
      | true =>
          refine supervisor_enabled attending cancelled ?_
          intro other waiting
          obtain rfl : id = other :=
            Option.some.inj (waits.symm.trans waiting)
          rw [Service.sessionDone, found, Option.any_some, done]
      | false =>
          exact Or.inr (loop_enabled (sessionsValid_of_reachable reached)
            found done)

/--
While the supervisor rests, the read loop which it waits for comes closer to its
end, or nothing changes for whoever helps.
-/
theorem rest_advances
    {timeout : Int} {service next : Service Info}
    {action : ServiceAction Info}
    (reached : (serviceMachine Info timeout).Reachable service)
    (silent : ∀ id, id < service.sessions.length →
      Silent id service action)
    (taken : service.step timeout action = some next)
    (rests : supervises action = false) :
    shutdownRank next < shutdownRank service ∨
      shutdownRank next = shutdownRank service ∧
        helper next = helper service ∧ ¬ (helper service).acts action := by
  have run := run_of_step taken rests
  have unsupervised : ¬ Party.supervisor.acts action := by
    intro acts
    exact Bool.false_ne_true (rests.symm.trans acts)
  cases waits : awaited service.run with
  | none =>
      have helped : helper service = .supervisor := by
        rw [helper, waits]
      refine Or.inr ⟨?_, ?_, helped ▸ unsupervised⟩
      · simp only [shutdownRank, awaitedRemaining, run, waits,
          Option.bind_none]
      · rw [helper, helper, run, waits]
  | some id =>
      have closed := closed_of_awaited reached waits
      have ⟨session, found, _⟩ := closed
      have waitsOn : awaited next.run = some id := by rw [run, waits]
      by_cases acts : (Party.loop id).acts action
      · rcases
            loop_advances taken acts closed
              (silent id (List.getElem?_eq_some_iff.mp found).1)
              found with
          ⟨after, located, lower⟩
        refine Or.inl ?_
        rw [shutdownRank, shutdownRank, run,
          awaitedRemaining_eq waits found,
          awaitedRemaining_eq waitsOn located]
        omega
      · rcases view_of_step taken rests acts found with
          ⟨after, located, same⟩
        simp only [view, Prod.mk.injEq] at same
        refine Or.inr ⟨?_, ?_, ?_⟩
        · rw [shutdownRank, shutdownRank, run,
            awaitedRemaining_eq waits found,
            awaitedRemaining_eq waitsOn located, same.1]
        · rw [helper_eq waits found, helper_eq waitsOn located, same.2]
        · rw [helper_eq waits found]
          split
          · exact unsupervised
          · exact acts

theorem shutdown_advances
    {timeout : Int} {service next : Service Info}
    {action : ServiceAction Info}
    (reached : (serviceMachine Info timeout).Reachable service)
    (cancelled : service.cancelled = true)
    (silent : ∀ id, id < service.sessions.length →
      Silent id service action)
    (taken : service.step timeout action = some next) :
    shutdownRank next < shutdownRank service ∨
      shutdownRank next = shutdownRank service ∧
        helper next = helper service ∧ ¬ (helper service).acts action := by
  rcases bounded_step taken cancelled with ⟨operations, -⟩
  cases supervised : supervises action with
  | true =>
      have within := awaitedRemaining_le next
      rw [supervised, Bool.toNat_true] at operations
      unfold shutdownRank
      exact Or.inl (by omega)
  | false => exact rest_advances reached silent taken supervised

/-- A cancelled service stops. -/
def stopping (timeout : Int) (bound : Nat) :
    (serviceMachine Info timeout).Progress
      (fun service action => ∀ id, id < bound → Silent id service action)
      Party.acts (Ending bound) (fun service => service.stopped = true) where
  rank := shutdownRank
  helper := helper
  enabled _ reached ending := helper_enabled reached ending.cancelled
  advances service action next reached ending silent taken := by
    rcases bounded_step taken ending.cancelled with ⟨-, opened⟩
    have recorded := (sessionsValid_of_reachable reached).recorded
    have bounded := ending.bounded
    refine Or.inr ⟨⟨cancelled_of_step taken ending.cancelled,
      opened.trans bounded⟩, ?_⟩
    refine shutdown_advances reached ending.cancelled ?_ taken
    intro id inside
    exact silent id (by omega)

/-! ## A call of `Close` returns -/

/-- A call of `Close` stays where it is, or it takes its next operation. -/
theorem closer_of_step
    {timeout : Int} {service next : Service Info}
    {action : ServiceAction Info}
    (taken : service.step timeout action = some next)
    {index : Nat} {point : ClosePoint}
    (located : service.closers[index]? = some point) :
    (¬ (Party.closer index).acts action ∧
        next.closers[index]? = some point) ∨
      CloseEffect service index point next := by
  rcases List.getElem?_eq_some_iff.mp located with ⟨inside, -⟩
  rcases flags_of_step taken with
    ⟨same, other⟩ | ⟨called, rfl⟩ | ⟨moved, place, acted, found, effect⟩
  · simp only [flags, Prod.mk.injEq] at same
    exact Or.inl ⟨other index, by rw [same.2.2, located]⟩
  · refine Or.inl ⟨?_, (List.getElem?_append_left inside).trans located⟩
    intro acts
    cases called.symm.trans acts
  · by_cases mine : moved = index
    · subst mine
      obtain rfl : point = place :=
        Option.some.inj (located.symm.trans found)
      exact Or.inr effect
    · rcases effect.moves with ⟨target, closers, -⟩
      refine Or.inl ⟨?_, ?_⟩
      · intro acts
        cases acted.symm.trans acts
        exact mine rfl
      · rw [closers, List.getElem?_set_ne mine, located]

/-- A call of `Close` waits for the supervisor only. -/
theorem closer_enabled
    {timeout : Int} {service : Service Info}
    (claimed : Claimed service) {index : Nat} {point : ClosePoint}
    (located : service.closers[index]? = some point)
    (pending : point ≠ .returned)
    (waits : point = .waiting → service.stopped = true) :
    (serviceMachine Info timeout).Enabled (Party.closer index).acts
      service := by
  have taken : (service.closeStep index).isSome = true := by
    cases point with
    | entering =>
        rw [Service.closeStep, located]
        cases closed : service.closed <;> simp
    | cancelling =>
        rw [Service.closeStep, located]
        rfl
    | loading =>
        rw [Service.closeStep, located]
        cases active : service.active <;> simp
    | closing id =>
        have found :=
          List.getElem?_eq_getElem (claimed.found index id located)
        rw [Service.closeStep, located]
        dsimp only
        rw [stepSession_isSome found rfl]
        rfl
    | waiting =>
        rw [Service.closeStep, located]
        dsimp only
        rw [if_pos (waits rfl)]
        rfl
    | returned => exact (pending rfl).elim
  exact Machine.enabled_of_isSome (.closer index) rfl taken

/-- Any action is allowed. -/
def anyAction (_ : Service Info) (_ : ServiceAction Info) : Prop := True

/-- A call of `Close` looks at the flag `closed`. -/
def entering (Info : Type) (timeout : Int) (index : Nat) :
    (serviceMachine Info timeout).Progress anyAction Party.acts
      (fun service => service.closers[index]? = some .entering)
      (fun service => service.closed = true) where
  rank _ := 0
  helper _ := .closer index
  enabled _ reached located :=
    Or.inr (closer_enabled (claimed_of_reachable reached) located
      nofun nofun)
  advances service action next _ located _ taken := by
    rcases closer_of_step taken located with ⟨other, kept⟩ | effect
    · exact Or.inr ⟨kept, Or.inr ⟨rfl, rfl, other⟩⟩
    · cases effect with
      | yields closed => exact Or.inl closed
      | claims unclaimed => exact Or.inl rfl

/-- The call of `Close` which came first cancels the context. -/
def cancelling (Info : Type) (timeout : Int) (index : Nat) :
    (serviceMachine Info timeout).Progress anyAction Party.acts
      (fun service => service.closers[index]? = some .cancelling)
      (fun service => service.cancelled = true) where
  rank _ := 0
  helper _ := .closer index
  enabled _ reached located :=
    Or.inr (closer_enabled (claimed_of_reachable reached) located
      nofun nofun)
  advances service action next _ located _ taken := by
    rcases closer_of_step taken located with ⟨other, kept⟩ | effect
    · exact Or.inr ⟨kept, Or.inr ⟨rfl, rfl, other⟩⟩
    · cases effect
      exact Or.inl rfl

/-- The supervisor has stopped and a call of `Close` is under way. -/
structure Returning (index : Nat) (service : Service Info) : Prop where
  stopped : service.stopped = true
  called : ∃ point, service.closers[index]? = some point

/-- After the supervisor has stopped, a call of `Close` returns. -/
def returning (Info : Type) (timeout : Int) (index : Nat) :
    (serviceMachine Info timeout).Progress anyAction Party.acts
      (Returning index)
      (fun service => service.closers[index]? = some .returned) where
  rank service := (service.closers[index]?).elim 0 closeRemaining
  helper _ := .closer index
  enabled service reached returning := by
    rcases returning.called with ⟨point, located⟩
    by_cases returned : point = .returned
    · exact Or.inl (returned ▸ located)
    · exact Or.inr (closer_enabled (claimed_of_reachable reached) located
        returned (fun _ => returning.stopped))
  advances service action next _ returning _ taken := by
    rcases returning.called with ⟨point, located⟩
    have stopped := stopped_of_transition
      (Service.transition_of_step taken) returning.stopped
    rcases closer_of_step taken located with ⟨other, kept⟩ | effect
    · refine Or.inr ⟨⟨stopped, point, kept⟩, Or.inr ⟨?_, rfl, other⟩⟩
      rw [kept, located]
    · rcases effect.moves with ⟨target, closers, lower⟩
      rcases List.getElem?_eq_some_iff.mp located with ⟨inside, -⟩
      have after : next.closers[index]? = some target := by
        rw [closers]
        exact List.getElem?_set_self inside
      refine Or.inr ⟨⟨stopped, target, after⟩, Or.inl ?_⟩
      rw [after, located]
      exact lower

/-- A call of `Close` does not vanish. -/
theorem called_of_step
    {timeout : Int} {service next : Service Info}
    {action : ServiceAction Info}
    (taken : service.step timeout action = some next) {index : Nat}
    (called : ∃ point, service.closers[index]? = some point) :
    ∃ point, next.closers[index]? = some point := by
  rcases called with ⟨point, located⟩
  rcases closer_of_step taken located with ⟨-, kept⟩ | effect
  · exact ⟨point, kept⟩
  · rcases effect.moves with ⟨target, closers, -⟩
    rcases List.getElem?_eq_some_iff.mp located with ⟨inside, -⟩
    exact ⟨target, by rw [closers]; exact List.getElem?_set_self inside⟩

theorem called_stays
    {timeout : Int} (run : (serviceMachine Info timeout).Run)
    {index moment later : Nat} (order : moment ≤ later)
    (called : ∃ point, (run.state moment).closers[index]? = some point) :
    ∃ point, (run.state later).closers[index]? = some point :=
  @Machine.Run.stable _ _ _ run
    (fun service => ∃ point, service.closers[index]? = some point)
    (fun _ _ _ _ called taken => called_of_step taken called)
    moment later order called

/-- Some call of `Close` claims the service. -/
theorem closed_eventually
    {timeout : Int} {run : (serviceMachine Info timeout).Run}
    (cooperative : Cooperative run) {moment index : Nat}
    (called : index < (run.state moment).closers.length) :
    ∃ later, moment ≤ later ∧ (run.state later).closed = true := by
  have located := List.getElem?_eq_getElem called
  by_cases enters : (run.state moment).closers[index] = .entering
  · exact (entering Info timeout index).reaches run cooperative.fair
      (fun _ _ _ _ => trivial) (enters ▸ located)
  · exact ⟨moment, Nat.le_refl _,
      (claimed_of_reachable (run.reachable moment)).entered index _ located
        enters⟩

/-- The call of `Close` which claimed the service cancels its context. -/
theorem cancelled_eventually
    {timeout : Int} {run : (serviceMachine Info timeout).Run}
    (cooperative : Cooperative run) {moment : Nat}
    (closed : (run.state moment).closed = true) :
    ∃ later, moment ≤ later ∧ (run.state later).cancelled = true := by
  rcases (claimed_of_reachable (run.reachable moment)).claimed closed with
    cancelled | ⟨index, located⟩
  · exact ⟨moment, Nat.le_refl _, cancelled⟩
  · exact (cancelling Info timeout index).reaches run cooperative.fair
      (fun _ _ _ _ => trivial) located

/-- The supervisor of a cancelled service stops. -/
theorem stopped_eventually
    {timeout : Int} {run : (serviceMachine Info timeout).Run}
    (cooperative : Cooperative run) {moment : Nat}
    (cancelled : (run.state moment).cancelled = true) :
    ∃ later, moment ≤ later ∧ (run.state later).stopped = true := by
  generalize total : (run.state moment).opened.length +
    opening (run.state moment).run = bound
  rcases run.lawfulFrom_below cooperative.silent bound with ⟨start, lawful⟩
  have ending : Ending bound (run.state (max moment start)) := by
    refine run.stable ?_ (Nat.le_max_left moment start)
      ⟨cancelled, Nat.le_of_eq total⟩
    intro service action next _ ending taken
    exact ⟨cancelled_of_step taken ending.cancelled,
      (bounded_step taken ending.cancelled).2.trans ending.bounded⟩
  rcases
      (stopping timeout bound).reaches run cooperative.fair
        (lawful.mono (Nat.le_max_right moment start)) ending with
    ⟨later, order, stopped⟩
  exact ⟨later, (Nat.le_max_left moment start).trans order, stopped⟩

/-- A call of `Close` returns, when the supervisor has stopped. -/
theorem returned_eventually
    {timeout : Int} {run : (serviceMachine Info timeout).Run}
    (cooperative : Cooperative run) {moment index : Nat}
    (called : index < (run.state moment).closers.length) :
    ∃ later, moment ≤ later ∧ (run.state later).stopped = true ∧
      (run.state later).closers[index]? = some .returned := by
  rcases closed_eventually cooperative called with ⟨claims, first, closed⟩
  rcases cancelled_eventually cooperative closed with
    ⟨cancels, second, cancelled⟩
  rcases stopped_eventually cooperative cancelled with
    ⟨stops, third, stopped⟩
  have order := first.trans (second.trans third)
  have still := called_stays run order ⟨_, List.getElem?_eq_getElem called⟩
  rcases
      (returning Info timeout index).reaches run cooperative.fair
        (fun _ _ _ _ => trivial) ⟨stopped, still⟩ with
    ⟨later, fourth, returned⟩
  refine ⟨later, order.trans fourth, ?_, returned⟩
  exact run.stable
    (fun _ _ _ _ stopped taken =>
      stopped_of_transition (Service.transition_of_step taken) stopped)
    fourth stopped

/--
In every run in which each goroutine acts again and again as long as it can,
and in which no closed transport returns reports for ever, every call of
`Close` returns, at whatever moment it came and whatever the other calls do.
From then on, every getter shows a disconnected service.
-/
theorem close_returns
    (Info : Type) (timeout : Int) (run : (serviceMachine Info timeout).Run)
    (cooperative : Cooperative run) (moment index : Nat)
    (called : index < (run.state moment).closers.length) :
    ∃ later, moment ≤ later ∧
      (run.state later).closers[index]? = some .returned ∧
      ∀ after, later ≤ after → ShutDown (run.state after) := by
  rcases returned_eventually cooperative called with
    ⟨later, order, stopped, returned⟩
  refine ⟨later, order, returned, ?_⟩
  intro after last
  refine shutDown_of_stopped (run.reachable after) ?_
  refine
    @Machine.Run.stable _ _ _ run (fun service => service.stopped = true) ?_
      later after last stopped
  intro service action next _ stopped taken
  exact stopped_of_transition (Service.transition_of_step taken) stopped

/-! ## A run which is closed -/

/-- Nobody has anything left to do. -/
structure Quiet (service : Service Info) : Prop where
  run : service.run = .stopped
  loops : ∀ session ∈ service.sessions, session.loop = .ended
  closers : ∀ point ∈ service.closers, point = .returned

theorem Quiet.disabled
    {timeout : Int} {service : Service Info} (quiet : Quiet service)
    (party : Party) :
    ¬ (serviceMachine Info timeout).Enabled party.acts service := by
  rintro ⟨action, next, acts, taken⟩
  cases party with
  | supervisor =>
      cases Service.transition_of_step taken with
      | moves point legal =>
          rw [quiet.run] at point
          subst point
          cases legal
      | closes point legal found =>
          rw [quiet.run] at point
          subst point
          cases legal
      | session found stepped => cases acts
      | callClose => cases acts
      | closer => cases acts
      | closerCloses found => cases acts
      | _ => exact absurd quiet.run (by simp [*])
  | loop id =>
      rcases acts with ⟨event, loops, rfl⟩
      rcases Service.stepSession_eq_some taken with
        ⟨session, after, found, stepped, rfl⟩
      have ended := quiet.loops session (List.mem_of_getElem? found)
      cases event with
      | expire sequence => cases loops
      | read raw =>
          simp [SessionEvent.action, Session.step, ended] at stepped
      | readFails failure =>
          simp [SessionEvent.action, Session.step, ended] at stepped
      | loop =>
          simp [SessionEvent.action, Session.step, Session.loopStep,
            ended] at stepped
  | closer index =>
      cases acts
      rcases closeEffect_of_step taken with ⟨point, located, effect⟩
      have returned := quiet.closers point (List.mem_of_getElem? located)
      rw [returned] at effect
      cases effect

/-- Whether nobody has anything left to do. -/
def quiet (service : Service Nat) : Bool :=
  (match service.run with
    | .stopped => true
    | _ => false) &&
  service.sessions.all (fun session =>
    match session.loop with
    | .ended => true
    | _ => false) &&
  service.closers.all (fun point =>
    match point with
    | .returned => true
    | _ => false)

theorem quiet_of_quiet {service : Service Nat} (rests : quiet service = true) :
    Quiet service := by
  simp only [quiet, Bool.and_eq_true, List.all_eq_true] at rests
  rcases rests with ⟨⟨run, loops⟩, closers⟩
  refine ⟨?_, ?_, ?_⟩
  · cases point : service.run <;> simp [point] at run
    rfl
  · intro session member
    have rested := loops session member
    cases point : session.loop <;> simp [point] at rested
    rfl
  · intro point member
    have rested := closers point member
    cases point <;> simp at rested
    rfl

/-- Two calls of `Close`: the second one waits for the first. -/
def closingTwice : List (ServiceAction Nat) :=
  [.callClose, .callClose, .closer 1, .closer 0, .closer 1, .closer 1,
    .closer 1, .session 0 (.readFails (.code .disconnected)),
    .session 0 .loop, .session 0 .loop, .session 0 .loop, .sessionDone,
    .run, .run, .run, .run, .run, .run, .closer 0, .closer 1]

theorem close_returns_twice :
    ∃ run : (serviceMachine Nat 1000).Run,
      (run.state 19).closers.length = 2 ∧
      (∃ later, (run.state later).closers[0]? = some .returned) ∧
      ∃ later, (run.state later).closers[1]? = some .returned := by
  have rests :
      ((serviceMachine Nat 1000).replay (serviceMachine Nat 1000).start
        (connecting ++ closingTwice)).any quiet = true := by
    decide +kernel
  have calls :
      ((serviceMachine Nat 1000).replay (serviceMachine Nat 1000).start
        ((connecting ++ closingTwice).take 19)).any (fun service =>
          decide (service.closers.length = 2)) = true := by
    decide +kernel
  rcases (Option.any_eq_true _ _).mp rests with ⟨final, replayed, rested⟩
  rcases (Option.any_eq_true _ _).mp calls with ⟨middle, reached, two⟩
  have quieted := quiet_of_quiet rested
  have cooperative : Cooperative (Machine.Run.ofTrace _ replayed) :=
    ⟨fun party => Machine.Run.ofTrace_fair replayed (quieted.disabled party),
      fun id => ⟨_, Machine.Run.ofTrace_lawful replayed (Silent id)⟩⟩
  have called : ((Machine.Run.ofTrace _ replayed).state 19).closers.length =
      2 := by
    rw [Machine.Run.ofTrace_state replayed reached]
    exact of_decide_eq_true two
  rcases
      close_returns Nat 1000 _ cooperative 19 0 (by rw [called]; decide) with
    ⟨first, -, firstReturned, -⟩
  rcases
      close_returns Nat 1000 _ cooperative 19 1 (by rw [called]; decide) with
    ⟨second, -, secondReturned, -⟩
  exact ⟨_, called, ⟨first, firstReturned⟩, ⟨second, secondReturned⟩⟩

end Pareader.Host.Shutdown
