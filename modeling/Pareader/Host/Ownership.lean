import Pareader.Host.Supervision

/-!
# Ownership of the transports

The supervisor owns at most one session at a time, and only between the call
of `open` which produced it and the point where its transport is closed and its
read loop has ended.  At every control point all other sessions are released.

`Service.Close` returns after the supervisor has stopped, and it stops at
control points at which it owns no session.  Nothing moves afterwards but
closers, so what holds when a call of `Close` returns holds for ever.
-/

namespace Pareader.Host.Ownership

open Pareader.Core
open Pareader.Host.Protocol
open Pareader.Host.Calls
open Pareader.Host.Sessions
open Pareader.Host.Supervision

variable {Info : Type}

/-! ## Released sessions -/

/-- The transport was closed and the read loop has ended. -/
structure Released (session : Session) : Prop where
  closed : session.transportClosed = true
  ended : session.loop = .ended

/-- A closed transport stays closed, and an ended read loop stays ended. -/
structure Onward (session next : Session) : Prop where
  closed : session.transportClosed = true → next.transportClosed = true
  ended : session.loop = .ended → next.loop = .ended

theorem Onward.refl (session : Session) : Onward session session :=
  ⟨id, id⟩

theorem Onward.released
    {session next : Session} (onward : Onward session next)
    (released : Released session) :
    Released next :=
  ⟨onward.closed released.closed, onward.ended released.ended⟩

theorem onward_of_step
    {session next : Session} {action : SessionAction}
    (taken : session.step action = some next) :
    Onward session next := by
  cases action with
  | read raw =>
      simp only [Session.step] at taken
      split at taken
      · rename_i reading
        cases taken
        exact ⟨id, fun ended => by simp [reading] at ended⟩
      · cases taken
  | readFails failure =>
      simp only [Session.step] at taken
      split at taken
      · rename_i reading
        cases taken
        exact ⟨id, fun ended => by simp [reading] at ended⟩
      · cases taken
  | loop =>
      have active : session.loop ≠ .ended := by
        intro ended
        simp [Session.step, Session.loopStep, ended] at taken
      have kept : next.transportClosed = session.transportClosed := by
        simp only [Session.step, Session.loopStep] at taken
        split at taken
        case h_4 =>
          rcases Option.map_eq_some_iff.mp taken with ⟨-, -, rfl⟩
          rfl
        all_goals
          cases taken
          try rfl
      exact ⟨fun closed => kept.trans closed,
        fun ended => (active ended).elim⟩
  | allocate state =>
      rcases Option.map_eq_some_iff.mp taken with ⟨-, -, rfl⟩
      exact ⟨id, id⟩
  | receive call =>
      rcases Option.map_eq_some_iff.mp taken with ⟨-, -, rfl⟩
      exact ⟨id, id⟩
  | expire sequence =>
      cases taken
      exact ⟨id, id⟩
  | write raw =>
      cases taken
      exact ⟨id, id⟩
  | close =>
      cases taken
      exact ⟨fun _ => rfl, id⟩

/-! ## What the supervisor owns -/

/-- The session which the supervisor owns at a control point. -/
def owner : RunPoint → Option Nat
  | .allocating id _ => some id
  | .writing id _ _ => some id
  | .awaiting id _ => some id
  | .verifyFailed id _ => some id
  | .rejecting id => some id
  | .draining id => some id
  | .storingInfo id => some id
  | .clearingErr id => some id
  | .storingActive id => some id
  | .serving id => some id
  | .cancelling id => some id
  | .joining id => some id
  | .detaching id => some id
  | .forgettingInfo id => some id
  | .storingErr id => some id
  | .releasing id => some id
  | .checking => none
  | .opening => none
  | .openFailed _ => none
  | .retryCheck => none
  | .retrying => none
  | .stopping => none
  | .stopped => none

/-- How far the supervisor has come in releasing its session. -/
def Releasing (sessions : List Session) : RunPoint → Prop
  | .draining id =>
      OfSession sessions id (fun session => session.transportClosed = true)
  | .detaching id =>
      OfSession sessions id (fun session => session.loop = .ended)
  | .forgettingInfo id =>
      OfSession sessions id (fun session => session.loop = .ended)
  | .storingErr id =>
      OfSession sessions id (fun session => session.loop = .ended)
  | .releasing id =>
      OfSession sessions id (fun session => session.loop = .ended)
  | _ => True

/-- All sessions which the supervisor does not own are released. -/
structure Owned (service : Service Info) : Prop where
  released : ∀ (id : Nat) session, service.sessions[id]? = some session →
    owner service.run ≠ some id → Released session
  releasing : Releasing service.sessions service.run

/-- What is known about a session which is being released stays true. -/
theorem Releasing.onward
    {sessions next : List Session} {point : RunPoint}
    (releasing : Releasing sessions point)
    (onward : ∀ (id : Nat) session, sessions[id]? = some session →
      ∃ after, next[id]? = some after ∧ Onward session after) :
    Releasing next point := by
  have closed : ∀ {id},
      OfSession sessions id (fun session =>
        session.transportClosed = true) →
      OfSession next id (fun session => session.transportClosed = true) := by
    rintro id ⟨session, found, closed⟩
    rcases onward id session found with ⟨after, located, later⟩
    exact ⟨after, located, later.closed closed⟩
  have ended : ∀ {id},
      OfSession sessions id (fun session => session.loop = .ended) →
      OfSession next id (fun session => session.loop = .ended) := by
    rintro id ⟨session, found, ended⟩
    rcases onward id session found with ⟨after, located, later⟩
    exact ⟨after, located, later.ended ended⟩
  cases point with
  | draining id => exact closed releasing
  | detaching id => exact ended releasing
  | forgettingInfo id => exact ended releasing
  | storingErr id => exact ended releasing
  | releasing id => exact ended releasing
  | _ => trivial

/-- The read loop of a session whose `done` channel is closed has ended. -/
theorem ended_of_sessionDone
    {service : Service Info} (valid : service.SessionsValid) {id : Nat}
    (done : service.sessionDone id = true) :
    OfSession service.sessions id (fun session =>
      session.loop = .ended) := by
  rcases (Option.any_eq_true _ _).mp done with ⟨session, found, finished⟩
  have invariant := invariant_of_reachable
    (valid.reachable session (List.mem_of_getElem? found))
  exact ⟨session, found, invariant.finished finished⟩

/-- Moving on, the supervisor keeps its session or has released it. -/
theorem owner_of_moves
    {service : Service Info} (valid : service.SessionsValid)
    {source target : RunPoint} (legal : service.Moves source target)
    (releasing : Releasing service.sessions source) :
    Releasing service.sessions target ∧
      ∀ id, owner source = some id →
        owner target = some id ∨
          OfSession service.sessions id Released := by
  cases legal with
  | drained id done =>
      refine ⟨trivial, ?_⟩
      rintro _ ⟨⟩
      rcases releasing with ⟨session, found, closed⟩
      rcases ended_of_sessionDone valid done with ⟨same, located, ended⟩
      obtain rfl : session = same :=
        Option.some.inj (found.symm.trans located)
      exact Or.inr ⟨session, found, closed, ended⟩
  | ended id done =>
      exact ⟨ended_of_sessionDone valid done, fun _ => Or.inl⟩
  | joined id done =>
      exact ⟨ended_of_sessionDone valid done, fun _ => Or.inl⟩
  | _ => exact ⟨trivial, fun _ => Or.inl⟩

/-- Closing a session, the supervisor keeps it or has released it. -/
theorem owner_of_closes
    {sessions : List Session} {closing : Nat} {source target : RunPoint}
    (legal : source.Closes closing target) {session : Session}
    (found : sessions[closing]? = some session)
    (releasing : Releasing sessions source) :
    let closed := { session with transportClosed := true }
    Releasing (sessions.set closing closed) target ∧
      ∀ id, owner source = some id →
        owner target = some id ∨
          OfSession (sessions.set closing closed) id Released := by
  rcases List.getElem?_eq_some_iff.mp found with ⟨inside, -⟩
  cases legal with
  | rejecting =>
      exact ⟨⟨_, List.getElem?_set_self inside, rfl⟩, fun _ => Or.inl⟩
  | cancelling => exact ⟨trivial, fun _ => Or.inl⟩
  | releasing =>
      refine ⟨trivial, ?_⟩
      rintro _ ⟨⟩
      rcases releasing with ⟨same, located, ended⟩
      obtain rfl : session = same :=
        Option.some.inj (found.symm.trans located)
      exact Or.inr ⟨_, List.getElem?_set_self inside, rfl, ended⟩

theorem owner_verifyPoint (id : Nat) (raw : List Byte) :
    owner (verifyPoint id raw) = some id := by
  rcases verifyPoint_cases id raw with ⟨failure, failed⟩ | ⟨passed, -⟩
  · rw [failed]
    rfl
  · rw [passed]
    rfl

/-- A step keeps the supervisor's session, or it has released it. -/
theorem owner_of_transition
    {timeout : Int} {service next : Service Info}
    {action : ServiceAction Info}
    (transition : service.Transition timeout action next)
    (valid : service.SessionsValid)
    (onward : ∀ (id : Nat) session, service.sessions[id]? = some session →
      ∃ after, next.sessions[id]? = some after ∧ Onward session after)
    (releasing : Releasing service.sessions service.run) :
    Releasing next.sessions next.run ∧
      ∀ id, owner service.run = some id →
        owner next.run = some id ∨ OfSession next.sessions id Released := by
  have moved := releasing.onward onward
  cases transition with
  | moves point legal =>
      rw [point] at releasing ⊢
      exact owner_of_moves valid legal releasing
  | closes point legal found =>
      rw [point] at releasing ⊢
      exact owner_of_closes legal found releasing
  | reportsOpen point =>
      rw [point]
      exact ⟨trivial, fun _ => Or.inl⟩
  | reportsVerify point =>
      rw [point]
      exact ⟨trivial, fun _ => Or.inl⟩
  | storesInfo point =>
      rw [point]
      exact ⟨trivial, fun _ => Or.inl⟩
  | clearsErr point =>
      rw [point]
      exact ⟨trivial, fun _ => Or.inl⟩
  | storesActive point =>
      rw [point]
      exact ⟨trivial, fun _ => Or.inl⟩
  | detaches point =>
      rw [point] at moved ⊢
      exact ⟨moved, fun _ => Or.inl⟩
  | forgetsInfo point =>
      rw [point] at moved ⊢
      exact ⟨moved, fun _ => Or.inl⟩
  | storesErr point =>
      rw [point] at moved ⊢
      exact ⟨moved, fun _ => Or.inl⟩
  | stops point =>
      rw [point]
      exact ⟨trivial, fun _ => Or.inl⟩
  | opens point =>
      rw [point]
      exact ⟨trivial, nofun⟩
  | allocates point found operation =>
      rw [point]
      exact ⟨trivial, fun _ => Or.inl⟩
  | writes point found =>
      rw [point]
      exact ⟨trivial, fun _ => Or.inl⟩
  | @receives id call session raw caller point found operation =>
      rw [point]
      refine ⟨?_, ?_⟩
      · rcases verifyPoint_cases id raw with ⟨failure, failed⟩ | ⟨passed, -⟩
        · rw [failed]
          trivial
        · rw [passed]
          trivial
      · rintro _ ⟨⟩
        exact Or.inl (owner_verifyPoint id raw)
  | session found taken => exact ⟨moved, fun _ => Or.inl⟩
  | callClose => exact ⟨moved, fun _ => Or.inl⟩
  | closer => exact ⟨moved, fun _ => Or.inl⟩
  | closerCloses found => exact ⟨moved, fun _ => Or.inl⟩

/-- A session which a step has opened is owned. -/
theorem owner_of_opened
    {timeout : Int} {service next : Service Info}
    {action : ServiceAction Info}
    (transition : service.Transition timeout action next)
    {id : Nat} {session : Session}
    (located : next.sessions[id]? = some session)
    (fresh : service.sessions.length ≤ id) :
    owner next.run = some id := by
  rcases List.getElem?_eq_some_iff.mp located with ⟨inside, -⟩
  cases transition with
  | opens point =>
      simp only [List.length_append, List.length_singleton] at inside
      exact congrArg some (by omega)
  | _ => exact absurd inside (by simpa using fresh)

/-- Step lemma: every action keeps the ownership. -/
theorem Owned.step
    {timeout : Int} {service next : Service Info}
    (owned : Owned service) (valid : service.SessionsValid)
    (action : ServiceAction Info)
    (taken : service.step timeout action = some next) :
    Owned next := by
  have transition := Service.transition_of_step taken
  have onward : ∀ (id : Nat) session,
      service.sessions[id]? = some session →
        ∃ after, next.sessions[id]? = some after ∧ Onward session after :=
    fun _ _ found => transition.sessionsEffect.related Onward.refl
      (fun _ _ _ _ stepped => onward_of_step stepped) found
  rcases owner_of_transition transition valid onward owned.releasing with
    ⟨releasing, kept⟩
  refine ⟨?_, releasing⟩
  intro id after located elsewhere
  by_cases known : id < service.sessions.length
  · have found := List.getElem?_eq_getElem known
    rcases onward id _ found with ⟨same, stored, later⟩
    obtain rfl : after = same :=
      Option.some.inj (located.symm.trans stored)
    by_cases mine : owner service.run = some id
    · rcases kept id mine with still | ⟨same, stored, released⟩
      · exact (elsewhere still).elim
      · obtain rfl : after = same :=
          Option.some.inj (located.symm.trans stored)
        exact released
    · exact later.released (owned.released id _ found mine)
  · have fresh := owner_of_opened transition located (Nat.le_of_not_lt known)
    exact (elsewhere fresh).elim

/-- Run lemma: all sessions but the owned one are released. -/
theorem owned_of_reachable
    {timeout : Int} {service : Service Info}
    (reached : (serviceMachine Info timeout).Reachable service) :
    Owned service := by
  refine reached.invariant ?_ ?_
  · exact ⟨by simp [serviceMachine, newService], trivial⟩
  · intro state action next before owned taken
    exact owned.step (sessionsValid_of_reachable before) action taken

/-! ## Shutdown -/

@[simp]
theorem storeError_stopped
    (service : Service Info) (failure : Option GoError) :
    (service.storeError failure).stopped = service.stopped := by
  cases failure <;> rfl

@[simp]
theorem storeError_closers
    (service : Service Info) (failure : Option GoError) :
    (service.storeError failure).closers = service.closers := by
  cases failure <;> rfl

theorem stopped_of_transition
    {timeout : Int} {service next : Service Info}
    {action : ServiceAction Info}
    (transition : service.Transition timeout action next)
    (stopped : service.stopped = true) :
    next.stopped = true := by
  cases transition with
  | stops point => rfl
  | storesErr point => simpa using stopped
  | _ => exact stopped

/-- Only a call of `Close` which has seen the supervisor stop returns. -/
theorem returned_of_closeStep
    {service next : Service Info} {closing index : Nat}
    (taken : service.closeStep closing = some next)
    (returned : next.closers[index]? = some .returned) :
    service.closers[index]? = some .returned ∨ service.stopped = true := by
  have kept : ∀ {point : ClosePoint}, point ≠ .returned →
      (service.closers.set closing point)[index]? = some .returned →
        service.closers[index]? = some .returned := by
    intro point other located
    rw [List.getElem?_set] at located
    split at located
    · split at located
      · exact (other (Option.some.inj located)).elim
      · cases located
    · exact located
  unfold Service.closeStep at taken
  dsimp only at taken
  split at taken
  · cases taken
  · split at taken <;> cases taken <;>
      exact Or.inl (kept (by simp) returned)
  · cases taken
    exact Or.inl (kept (by simp) returned)
  · split at taken <;> cases taken <;>
      exact Or.inl (kept (by simp) returned)
  · rcases Option.map_eq_some_iff.mp taken with ⟨middle, stepped, rfl⟩
    rcases Service.stepSession_eq_some stepped with
      ⟨session, after, found, closed, rfl⟩
    exact Or.inl (kept (by simp) returned)
  · split at taken <;> cases taken
    exact Or.inr ‹_›
  · cases taken

theorem returned_of_step
    {timeout : Int} {service next : Service Info}
    {action : ServiceAction Info}
    (taken : service.step timeout action = some next) {index : Nat}
    (returned : next.closers[index]? = some .returned) :
    service.closers[index]? = some .returned ∨ service.stopped = true := by
  cases Service.transition_of_step taken with
  | closer => exact returned_of_closeStep taken returned
  | closerCloses found => exact returned_of_closeStep taken returned
  | callClose =>
      rw [List.getElem?_append] at returned
      split at returned
      · exact Or.inl returned
      · have entering := List.mem_of_getElem? returned
        simp at entering
  | storesErr point => exact Or.inl (by simpa using returned)
  | _ => exact Or.inl returned

/-- A stopped supervisor stays where it is, and only then `Close` returns. -/
structure Halted (service : Service Info) : Prop where
  stopped : service.stopped = true → service.run = .stopped
  returned : ∀ index : Nat, service.closers[index]? = some .returned →
    service.stopped = true

theorem Halted.step
    {timeout : Int} {service next : Service Info}
    (halted : Halted service) (action : ServiceAction Info)
    (taken : service.step timeout action = some next) :
    Halted next := by
  have transition := Service.transition_of_step taken
  constructor
  · intro stopped
    cases transition with
    | stops point => rfl
    | session found taken => exact halted.stopped stopped
    | callClose => exact halted.stopped stopped
    | closer => exact halted.stopped stopped
    | closerCloses found => exact halted.stopped stopped
    | moves point legal =>
        rw [halted.stopped stopped] at point
        subst point
        cases legal
    | closes point legal found =>
        rw [halted.stopped stopped] at point
        subst point
        cases legal
    | storesErr point =>
        rw [halted.stopped (by simpa using stopped)] at point
        cases point
    | _ => exact absurd (halted.stopped stopped) (by simp [*])
  · intro index returned
    have stopped : service.stopped = true := by
      rcases returned_of_step taken returned with before | stopped
      · exact halted.returned index before
      · exact stopped
    exact stopped_of_transition transition stopped

theorem halted_of_reachable
    {timeout : Int} {service : Service Info}
    (reached : (serviceMachine Info timeout).Reachable service) :
    Halted service := by
  refine reached.invariant ?_ ?_
  · exact ⟨nofun, by simp [serviceMachine, newService]⟩
  · intro state action next _ halted taken
    exact halted.step action taken

/-- What every getter shows of a service which was shut down. -/
structure ShutDown (service : Service Info) : Prop where
  released : ∀ session ∈ service.sessions, Released session
  active : service.active = none
  deviceInfo : service.deviceInfo = none
  currentCard : service.currentCard = Card.none
  aimeID : service.aimeID = none
  mifareBlocks : service.mifareBlocks = none
  feliCaID : service.feliCaID = none
  err : service.err ≠ none

/-- Where the supervisor owns no session, all are released. -/
theorem Owned.all_released
    {service : Service Info} (owned : Owned service)
    (nothing : owner service.run = none) :
    ∀ session ∈ service.sessions, Released session := by
  intro session member
  rcases List.mem_iff_getElem?.mp member with ⟨id, found⟩
  exact owned.released id session found (by simp [nothing])

theorem shutDown_of_stopped
    {timeout : Int} {service : Service Info}
    (reached : (serviceMachine Info timeout).Reachable service)
    (stopped : service.stopped = true) :
    ShutDown service := by
  have resting := (halted_of_reachable reached).stopped stopped
  have idle : service.Idle := by
    have assertion := assertion_of_reachable reached
    rw [Service.Assertion, resting] at assertion
    exact assertion
  exact {
    released := (owned_of_reachable reached).all_released (by rw [resting]; rfl)
    active := idle.1
    deviceInfo := idle.2
    currentCard := by simp [Service.currentCard, idle.1]
    aimeID := by simp [Service.aimeID, idle.1]
    mifareBlocks := by simp [Service.mifareBlocks, idle.1]
    feliCaID := by simp [Service.feliCaID, idle.1]
    err := by simp [Service.err, idle.1] }

theorem stopped_of_replay
    {timeout : Int} {service later : Service Info}
    (stopped : service.stopped = true) (trace : List (ServiceAction Info))
    (replayed : (serviceMachine Info timeout).replay service trace =
      some later) :
    later.stopped = true := by
  refine
    Machine.replay_invariant (fun state => state.stopped = true) ?_ stopped
      trace replayed
  intro state action next stopped taken
  exact stopped_of_transition (Service.transition_of_step taken) stopped

/--
The reader is opened only while every session opened before is released, so
at most one session is live.  Once a call of `Close` has returned, every
session is released and every getter shows a disconnected service, for ever.
-/
theorem transport_ownership
    (Info : Type) (timeout : Int) (service : Service Info)
    (reached : (serviceMachine Info timeout).Reachable service) :
    (service.run = .opening →
      ∀ session ∈ service.sessions, Released session) ∧
    (∀ (first second : Nat) left right,
      service.sessions[first]? = some left →
      service.sessions[second]? = some right →
      ¬ Released left → ¬ Released right → first = second) ∧
    ∀ index : Nat, service.closers[index]? = some .returned →
      ∀ trace later,
        (serviceMachine Info timeout).replay service trace = some later →
          ShutDown later := by
  have owned := owned_of_reachable reached
  refine ⟨?_, ?_, ?_⟩
  · intro opening
    exact owned.all_released (by rw [opening]; rfl)
  · intro first second left right foundLeft foundRight liveLeft liveRight
    have ownsLeft : owner service.run = some first := by
      by_contra elsewhere
      exact liveLeft (owned.released first left foundLeft elsewhere)
    have ownsRight : owner service.run = some second := by
      by_contra elsewhere
      exact liveRight (owned.released second right foundRight elsewhere)
    exact Option.some.inj (ownsLeft.symm.trans ownsRight)
  · intro index returned trace later replayed
    have stopped := (halted_of_reachable reached).returned index returned
    exact shutDown_of_stopped (reached.replay trace replayed)
      (stopped_of_replay stopped trace replayed)

/-- A connected service is closed and its session ends. -/
def closing : List (ServiceAction Nat) :=
  connecting ++
    [.callClose, .closer 0, .closer 0, .closer 0, .closer 0,
      .session 0 (.readFails (.code .disconnected)), .session 0 .loop,
      .session 0 .loop, .session 0 .loop, .sessionDone, .run, .run, .run,
      .run, .run, .run, .closer 0]

/-- The first call of `Close` has returned. -/
def firstCloseReturned (service : Service Nat) : Bool :=
  match service.closers[0]? with
  | some ClosePoint.returned => true
  | _ => false

theorem transport_ownership_closed :
    ∃ service : Service Nat,
      (serviceMachine Nat 1000).Reachable service ∧
      service.sessions ≠ [] ∧ ShutDown service := by
  rcases
      (serviceMachine Nat 1000).exists_reachable_of_replay
        (fun service => firstCloseReturned service &&
          !service.sessions.isEmpty)
        closing (by decide +kernel) with
    ⟨service, reached, passed⟩
  rcases Bool.and_eq_true_iff.mp passed with ⟨returned, opened⟩
  have first : service.closers[0]? = some .returned := by
    unfold firstCloseReturned at returned
    split at returned
    · assumption
    · cases returned
  refine ⟨service, reached, by simpa using opened, ?_⟩
  exact (transport_ownership Nat 1000 service reached).2.2 0 first [] service
    rfl

end Pareader.Host.Ownership
