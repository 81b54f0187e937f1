import Pareader.Host.Sessions

/-!
# Supervision of the connection

`Service.run` opens the reader, verifies its version, publishes the session and
waits for its end, over and over.  It shares three atomic variables with the
getters and with any number of concurrent calls of `Close`.  The service is a
transition system in which every operation on shared data is one step of one of
the goroutines involved: the supervisor, the read loops of all sessions ever
opened, and the closers.  The outcomes of `open`, `Write`, `Read`, of the timers
and of every `select` are chosen by the environment.

The invariant annotates every control point of the supervisor with what the
shared variables hold there.  No other goroutine writes them, so the assertion
is stable under the steps of the others.
-/

namespace Pareader.Host.Supervision

open Pareader.Core
open Pareader.Host.Protocol
open Pareader.Host.Calls
open Pareader.Host.Sessions

/-! ## State -/

/-- The control points of `Service.run`, with `VerifyVersion` inlined. -/
inductive RunPoint where
  | checking
  | opening
  | openFailed (failure : GoError)
  | allocating (id : Nat) (state : Allocating)
  | writing (id : Nat) (sequence : UInt16) (call : Nat)
  | awaiting (id : Nat) (call : Nat)
  | verifyFailed (id : Nat) (failure : GoError)
  | rejecting (id : Nat)
  | draining (id : Nat)
  | storingInfo (id : Nat)
  | clearingErr (id : Nat)
  | storingActive (id : Nat)
  | serving (id : Nat)
  | cancelling (id : Nat)
  | joining (id : Nat)
  | detaching (id : Nat)
  | forgettingInfo (id : Nat)
  | storingErr (id : Nat)
  | releasing (id : Nat)
  | retryCheck
  | retrying
  | stopping
  | stopped

/-- The control points of one call of `Service.Close`. -/
inductive ClosePoint where
  | entering
  | cancelling
  | loading
  | closing (id : Nat)
  | waiting
  | returned

/--
`Service` and its goroutines.  Sessions are identified by the order in which
they were opened, `info` is the local variable of `run`, and `opened` records
what each successful `open` returned, for the specification only.
-/
structure Service (Info : Type) where
  active : Option Nat
  deviceInfo : Option Info
  lastErr : Option GoError
  cancelled : Bool
  stopped : Bool
  closed : Bool
  run : RunPoint
  info : Option Info
  sessions : List Session
  opened : List Info
  closers : List ClosePoint

variable {Info : Type}

def newService : Service Info where
  active := none
  deviceInfo := none
  lastErr := none
  cancelled := false
  stopped := false
  closed := false
  run := .checking
  info := none
  sessions := []
  opened := []
  closers := []

/-! ## Getters -/

def Service.currentCard (service : Service Info) : Card :=
  match service.active.bind (service.sessions[·]?) with
  | none => Card.none
  | some session => session.currentCard

def Service.aimeID (service : Service Info) : Option (Vector Byte 10) :=
  (service.active.bind (service.sessions[·]?)).bind Session.aimeID

def Service.mifareBlocks (service : Service Info) :
    Option (Vector Byte 32) :=
  (service.active.bind (service.sessions[·]?)).bind Session.mifareBlocks

def Service.feliCaID (service : Service Info) : Option UInt64 :=
  (service.active.bind (service.sessions[·]?)).bind Session.feliCaID

def Service.err (service : Service Info) : Option GoError :=
  if service.active.isSome then
    none
  else
    some (service.lastErr.getD (.code .disconnected))

/-! ## Steps -/

/-- Let one session take a step. -/
def Service.stepSession (service : Service Info) (id : Nat)
    (action : SessionAction) : Option (Service Info) :=
  match service.sessions[id]? with
  | none => none
  | some session =>
      (session.step action).map (fun next =>
        { service with sessions := service.sessions.set id next })

/-- The `done` channel of a session is closed. -/
def Service.sessionDone (service : Service Info) (id : Nat) : Bool :=
  service.sessions[id]?.any Session.done

/-- `session.Err()` -/
def Service.sessionErr (service : Service Info) (id : Nat) :
    Option GoError :=
  service.sessions[id]?.bind Session.err

/-- `storeError` -/
def Service.storeError (service : Service Info)
    (failure : Option GoError) : Service Info :=
  match failure with
  | none => service
  | some failure => { service with lastErr := some failure }

/-- The next operation of `run` where it does not depend on a choice. -/
def Service.runStep (service : Service Info) : Option (Service Info) :=
  match service.run with
  | .checking =>
      some
        { service with
          run := if service.cancelled then .stopping else .opening }
  | .openFailed failure =>
      some { service.storeError (some failure) with run := .retryCheck }
  | .allocating id (.failed failure) =>
      some { service with run := .verifyFailed id (.code failure) }
  | .allocating id (.allocated sequence call) =>
      some { service with run := .writing id sequence call }
  | .allocating id state => do
      let session ← service.sessions[id]?
      let (_, after) ← session.caller.allocateStep state
      let next ← service.stepSession id (.allocate state)
      return { next with run := .allocating id after }
  | .verifyFailed id failure =>
      some { service.storeError (some failure) with run := .rejecting id }
  | .rejecting id =>
      (service.stepSession id .close).map
        (fun next => { next with run := .draining id })
  | .draining id =>
      if service.sessionDone id then
        some { service with run := .retryCheck }
      else
        none
  | .storingInfo id =>
      some
        { service with
          deviceInfo := service.info
          run := .clearingErr id }
  | .clearingErr id =>
      some { service with lastErr := none, run := .storingActive id }
  | .storingActive id =>
      some { service with active := some id, run := .serving id }
  | .cancelling id =>
      (service.stepSession id .close).map
        (fun next => { next with run := .joining id })
  | .joining id =>
      if service.sessionDone id then
        some { service with run := .detaching id }
      else
        none
  | .detaching id =>
      some
        { service with
          active :=
            if service.active = some id then none else service.active
          run := .forgettingInfo id }
  | .forgettingInfo id =>
      some { service with deviceInfo := none, run := .storingErr id }
  | .storingErr id =>
      some
        { service.storeError (service.sessionErr id) with
          run := .releasing id }
  | .releasing id =>
      (service.stepSession id .close).map
        (fun next => { next with run := .retryCheck })
  | .retryCheck =>
      some
        { service with
          run := if service.cancelled then .stopping else .retrying }
  | .stopping =>
      some { service with stopped := true, run := .stopped }
  | .opening => none
  | .writing _ _ _ => none
  | .awaiting _ _ => none
  | .serving _ => none
  | .retrying => none
  | .stopped => none

/-- Where `VerifyVersion` continues with a response. -/
def verifyPoint (id : Nat) (raw : List Byte) : RunPoint :=
  match decodeGetVersionResponse raw with
  | .error failure => .verifyFailed id failure
  | .ok version =>
      if version.major ≠ 0 ∨ version.minor ≠ 1 then
        .verifyFailed id (.code .unsupportedVersion)
      else
        .storingInfo id

/-- The branch of a `select` on the response channel. -/
def Service.respond (service : Service Info) : Option (Service Info) :=
  match service.run with
  | .awaiting id call => do
      let session ← service.sessions[id]?
      let (raw, _) ← session.caller.receive call
      let next ← service.stepSession id (.receive call)
      return { next with run := verifyPoint id raw }
  | _ => none

/-- The branch of a `select` on a timer. -/
def Service.timeOut (service : Service Info) : Option (Service Info) :=
  match service.run with
  | .awaiting id _ =>
      some { service with run := .verifyFailed id (.code .timeout) }
  | .retrying => some { service with run := .checking }
  | _ => none

/-- The branch of a `select` on the context. -/
def Service.contextDone (service : Service Info) : Option (Service Info) :=
  if service.cancelled then
    match service.run with
    | .awaiting id _ =>
        some { service with run := .verifyFailed id (.code .contextDone) }
    | .serving id => some { service with run := .cancelling id }
    | .retrying => some { service with run := .stopping }
    | _ => none
  else
    none

/-- The branch of a `select` on the `done` channel of the session. -/
def Service.observeDone (service : Service Info) : Option (Service Info) :=
  match service.run with
  | .awaiting id _ =>
      if service.sessionDone id then
        match service.sessionErr id with
        | some failure =>
            some { service with run := .verifyFailed id failure }
        | none => some { service with run := .storingInfo id }
      else
        none
  | .serving id =>
      if service.sessionDone id then
        some { service with run := .detaching id }
      else
        none
  | _ => none

/-- One operation of a call of `Close`. -/
def Service.closeStep (service : Service Info) (index : Nat) :
    Option (Service Info) :=
  let moveTo (service : Service Info) (point : ClosePoint) :=
    { service with closers := service.closers.set index point }
  match service.closers[index]? with
  | none => none
  | some .entering =>
      if service.closed then
        some (moveTo service .waiting)
      else
        some (moveTo { service with closed := true } .cancelling)
  | some .cancelling =>
      some (moveTo { service with cancelled := true } .loading)
  | some .loading =>
      match service.active with
      | none => some (moveTo service .waiting)
      | some id => some (moveTo service (.closing id))
  | some (.closing id) =>
      (service.stepSession id .close).map (moveTo · .waiting)
  | some .waiting =>
      if service.stopped then some (moveTo service .returned) else none
  | some .returned => none

/-- What a session does without the supervisor. -/
inductive SessionEvent where
  | read (raw : List Byte)
  | readFails (failure : GoError)
  | loop
  | expire (sequence : UInt16)

def SessionEvent.action : SessionEvent → SessionAction
  | .read raw => .read raw
  | .readFails failure => .readFails failure
  | .loop => .loop
  | .expire sequence => .expire sequence

/-- What can happen to the service. -/
inductive ServiceAction (Info : Type) where
  | run
  | opens (info : Info)
  | openFails (failure : GoError)
  | writes
  | writeFails (failure : GoError)
  | responds
  | timesOut
  | contextDone
  | sessionDone
  | session (id : Nat) (event : SessionEvent)
  | callClose
  | closer (index : Nat)

/-- The action is a successful `transport.Read` of some session. -/
def ServiceAction.reads : ServiceAction Info → Bool
  | .session _ event => event.action.reads
  | _ => false

def Service.step (timeout : Int) (service : Service Info) :
    ServiceAction Info → Option (Service Info)
  | .run => service.runStep
  | .opens info =>
      match service.run with
      | .opening =>
          some
            { service with
              info := some info
              sessions := service.sessions ++ [newSession]
              opened := service.opened ++ [info]
              run := .allocating service.sessions.length
                (allocate timeout) }
      | _ => none
  | .openFails failure =>
      match service.run with
      | .opening => some { service with run := .openFailed failure }
      | _ => none
  | .writes =>
      match service.run with
      | .writing id sequence call =>
          (service.stepSession id
              (.write (encodeGetVersion sequence))).map
            (fun next => { next with run := .awaiting id call })
      | _ => none
  | .writeFails failure =>
      match service.run with
      | .writing id _ _ =>
          some { service with run := .verifyFailed id failure }
      | _ => none
  | .responds => service.respond
  | .timesOut => service.timeOut
  | .contextDone => service.contextDone
  | .sessionDone => service.observeDone
  | .session id event => service.stepSession id event.action
  | .callClose =>
      some { service with closers := service.closers ++ [.entering] }
  | .closer index => service.closeStep index

/-- The service under every interleaving. -/
def serviceMachine (Info : Type) (timeout : Int) :
    Machine (Service Info) (ServiceAction Info) where
  start := newService
  step := Service.step timeout

/-! ## What a step can do -/

theorem Service.stepSession_eq_some
    {service next : Service Info} {id : Nat} {action : SessionAction}
    (taken : service.stepSession id action = some next) :
    ∃ session after,
      service.sessions[id]? = some session ∧
      session.step action = some after ∧
      next = { service with sessions := service.sessions.set id after } := by
  unfold Service.stepSession at taken
  split at taken
  · cases taken
  · rename_i session found
    rcases Option.map_eq_some_iff.mp taken with ⟨after, stepped, rfl⟩
    exact ⟨session, after, found, stepped, rfl⟩

/-- A finished session has an error. -/
theorem Service.sessionErr_of_done
    {service : Service Info} {id : Nat}
    (done : service.sessionDone id = true) :
    service.sessionErr id ≠ none := by
  unfold Service.sessionDone at done
  unfold Service.sessionErr
  rcases (Option.any_eq_true _ _).mp done with ⟨session, found, finished⟩
  simp [found, Session.err, finished]

/-- Where `run` may continue without an operation on shared data. -/
inductive Service.Moves (service : Service Info) :
    RunPoint → RunPoint → Prop where
  | leaves (cancelled : service.cancelled = true) :
      service.Moves .checking .stopping
  | tries (running : service.cancelled = false) :
      service.Moves .checking .opening
  | openFails (failure : GoError) :
      service.Moves .opening (.openFailed failure)
  | allocateFails (id : Nat) (failure : ErrCode) :
      service.Moves (.allocating id (.failed failure))
        (.verifyFailed id (.code failure))
  | allocated (id : Nat) (sequence : UInt16) (call : Nat) :
      service.Moves (.allocating id (.allocated sequence call))
        (.writing id sequence call)
  | writeFails (id : Nat) (sequence : UInt16) (call : Nat)
      (failure : GoError) :
      service.Moves (.writing id sequence call) (.verifyFailed id failure)
  | unanswered (id call : Nat) :
      service.Moves (.awaiting id call)
        (.verifyFailed id (.code .timeout))
  | abandoned (id call : Nat) (cancelled : service.cancelled = true) :
      service.Moves (.awaiting id call)
        (.verifyFailed id (.code .contextDone))
  | lost (id call : Nat) (failure : GoError)
      (done : service.sessionDone id = true)
      (err : service.sessionErr id = some failure) :
      service.Moves (.awaiting id call) (.verifyFailed id failure)
  | drained (id : Nat) (done : service.sessionDone id = true) :
      service.Moves (.draining id) .retryCheck
  | cancelled (id : Nat) (cancelled : service.cancelled = true) :
      service.Moves (.serving id) (.cancelling id)
  | ended (id : Nat) (done : service.sessionDone id = true) :
      service.Moves (.serving id) (.detaching id)
  | joined (id : Nat) (done : service.sessionDone id = true) :
      service.Moves (.joining id) (.detaching id)
  | refused (cancelled : service.cancelled = true) :
      service.Moves .retryCheck .stopping
  | pauses (running : service.cancelled = false) :
      service.Moves .retryCheck .retrying
  | retries : service.Moves .retrying .checking
  | interrupted (cancelled : service.cancelled = true) :
      service.Moves .retrying .stopping

/-- Where `run` closes the transport of a session. -/
inductive RunPoint.Closes (id : Nat) : RunPoint → RunPoint → Prop where
  | rejecting : Closes id (.rejecting id) (.draining id)
  | cancelling : Closes id (.cancelling id) (.joining id)
  | releasing : Closes id (.releasing id) .retryCheck

/--
The effect of a step.  The supervisor moves on, operates on shared data or on
one session; or one of the other goroutines takes a step, which the supervisor
can only notice in the sessions and in the flags of `Close`.
-/
inductive Service.Transition (timeout : Int) (service : Service Info) :
    ServiceAction Info → Service Info → Prop where
  | moves {action : ServiceAction Info} {source target : RunPoint}
      (point : service.run = source)
      (legal : service.Moves source target) :
      Transition timeout service action { service with run := target }
  | reportsOpen {failure : GoError}
      (point : service.run = .openFailed failure) :
      Transition timeout service .run
        { service.storeError (some failure) with run := .retryCheck }
  | reportsVerify {id : Nat} {failure : GoError}
      (point : service.run = .verifyFailed id failure) :
      Transition timeout service .run
        { service.storeError (some failure) with run := .rejecting id }
  | storesInfo {id : Nat} (point : service.run = .storingInfo id) :
      Transition timeout service .run
        { service with
          deviceInfo := service.info
          run := .clearingErr id }
  | clearsErr {id : Nat} (point : service.run = .clearingErr id) :
      Transition timeout service .run
        { service with lastErr := none, run := .storingActive id }
  | storesActive {id : Nat} (point : service.run = .storingActive id) :
      Transition timeout service .run
        { service with active := some id, run := .serving id }
  | detaches {id : Nat} (point : service.run = .detaching id) :
      Transition timeout service .run
        { service with
          active :=
            if service.active = some id then none else service.active
          run := .forgettingInfo id }
  | forgetsInfo {id : Nat} (point : service.run = .forgettingInfo id) :
      Transition timeout service .run
        { service with deviceInfo := none, run := .storingErr id }
  | storesErr {id : Nat} (point : service.run = .storingErr id) :
      Transition timeout service .run
        { service.storeError (service.sessionErr id) with
          run := .releasing id }
  | stops (point : service.run = .stopping) :
      Transition timeout service .run
        { service with stopped := true, run := .stopped }
  | opens {info : Info} (point : service.run = .opening) :
      Transition timeout service (.opens info)
        { service with
          info := some info
          sessions := service.sessions ++ [newSession]
          opened := service.opened ++ [info]
          run := .allocating service.sessions.length (allocate timeout) }
  | allocates {id : Nat} {state after : Allocating} {session : Session}
      {caller : Caller}
      (point : service.run = .allocating id state)
      (found : service.sessions[id]? = some session)
      (operation :
        session.caller.allocateStep state = some (caller, after)) :
      Transition timeout service .run
        { service with
          sessions :=
            service.sessions.set id { session with caller := caller }
          run := .allocating id after }
  | writes {id : Nat} {sequence : UInt16} {call : Nat} {session : Session}
      (point : service.run = .writing id sequence call)
      (found : service.sessions[id]? = some session) :
      Transition timeout service .writes
        { service with
          sessions :=
            service.sessions.set id
              { session with
                written := session.written ++ [encodeGetVersion sequence] }
          run := .awaiting id call }
  | receives {id call : Nat} {session : Session} {raw : List Byte}
      {caller : Caller}
      (point : service.run = .awaiting id call)
      (found : service.sessions[id]? = some session)
      (operation : session.caller.receive call = some (raw, caller)) :
      Transition timeout service .responds
        { service with
          sessions :=
            service.sessions.set id { session with caller := caller }
          run := verifyPoint id raw }
  | closes {id : Nat} {source target : RunPoint} {session : Session}
      (point : service.run = source)
      (legal : source.Closes id target)
      (found : service.sessions[id]? = some session) :
      Transition timeout service .run
        { service with
          sessions :=
            service.sessions.set id { session with transportClosed := true }
          run := target }
  | session {id : Nat} {event : SessionEvent} {session after : Session}
      (found : service.sessions[id]? = some session)
      (taken : session.step event.action = some after) :
      Transition timeout service (.session id event)
        { service with sessions := service.sessions.set id after }
  | callClose :
      Transition timeout service .callClose
        { service with closers := service.closers ++ [.entering] }
  | closer {index : Nat} {closed cancelled : Bool}
      {closers : List ClosePoint} :
      Transition timeout service (.closer index)
        { service with
          closed := closed
          cancelled := cancelled
          closers := closers }
  | closerCloses {index id : Nat} {session : Session}
      {closers : List ClosePoint}
      (found : service.sessions[id]? = some session) :
      Transition timeout service (.closer index)
        { service with
          sessions :=
            service.sessions.set id { session with transportClosed := true }
          closers := closers }

/-- A session closed by the supervisor. -/
theorem Service.transition_of_close
    {timeout : Int} {service next : Service Info} {id : Nat}
    {target : RunPoint}
    (legal : service.run.Closes id target)
    (taken :
      (service.stepSession id .close).map
        (fun next => { next with run := target }) = some next) :
    service.Transition timeout .run next := by
  rcases Option.map_eq_some_iff.mp taken with ⟨middle, stepped, rfl⟩
  rcases Service.stepSession_eq_some stepped with
    ⟨session, after, found, closed, rfl⟩
  cases closed
  exact .closes rfl legal found

/-- The supervisor's own steps. -/
theorem Service.transition_of_runStep
    {timeout : Int} {service next : Service Info}
    (taken : service.runStep = some next) :
    service.Transition timeout .run next := by
  cases point : service.run with
  | checking =>
      rw [Service.runStep, point] at taken
      cases taken
      refine .moves point ?_
      split
      · exact .leaves ‹_›
      · exact .tries (Bool.not_eq_true _ ▸ ‹_›)
  | retryCheck =>
      rw [Service.runStep, point] at taken
      cases taken
      refine .moves point ?_
      split
      · exact .refused ‹_›
      · exact .pauses (Bool.not_eq_true _ ▸ ‹_›)
  | allocating id state =>
      rw [Service.runStep, point] at taken
      cases state with
      | failed failure =>
          cases taken
          exact .moves point (.allocateFails id failure)
      | allocated sequence call =>
          cases taken
          exact .moves point (.allocated id sequence call)
      | _ =>
          rcases Option.bind_eq_some_iff.mp taken with
            ⟨session, found, allocated⟩
          rcases Option.bind_eq_some_iff.mp allocated with
            ⟨⟨caller, after⟩, operation, stepped⟩
          simp only [Service.stepSession, found, Session.step, operation,
            Option.map_some] at stepped
          cases stepped
          exact .allocates point found operation
  | rejecting id =>
      rw [Service.runStep, point] at taken
      exact Service.transition_of_close (point ▸ .rejecting) taken
  | cancelling id =>
      rw [Service.runStep, point] at taken
      exact Service.transition_of_close (point ▸ .cancelling) taken
  | releasing id =>
      rw [Service.runStep, point] at taken
      exact Service.transition_of_close (point ▸ .releasing) taken
  | draining id =>
      rw [Service.runStep, point] at taken
      dsimp only at taken
      split at taken <;> cases taken
      exact .moves point (.drained id ‹_›)
  | joining id =>
      rw [Service.runStep, point] at taken
      dsimp only at taken
      split at taken <;> cases taken
      exact .moves point (.joined id ‹_›)
  | openFailed failure =>
      rw [Service.runStep, point] at taken
      cases taken
      exact .reportsOpen point
  | verifyFailed id failure =>
      rw [Service.runStep, point] at taken
      cases taken
      exact .reportsVerify point
  | storingInfo id =>
      rw [Service.runStep, point] at taken
      cases taken
      exact .storesInfo point
  | clearingErr id =>
      rw [Service.runStep, point] at taken
      cases taken
      exact .clearsErr point
  | storingActive id =>
      rw [Service.runStep, point] at taken
      cases taken
      exact .storesActive point
  | detaching id =>
      rw [Service.runStep, point] at taken
      cases taken
      exact .detaches point
  | forgettingInfo id =>
      rw [Service.runStep, point] at taken
      cases taken
      exact .forgetsInfo point
  | storingErr id =>
      rw [Service.runStep, point] at taken
      cases taken
      exact .storesErr point
  | stopping =>
      rw [Service.runStep, point] at taken
      cases taken
      exact .stops point
  | _ =>
      rw [Service.runStep, point] at taken
      cases taken

/-- The steps of a call of `Close`. -/
theorem Service.transition_of_closeStep
    {timeout : Int} {service next : Service Info} {index : Nat}
    (taken : service.closeStep index = some next) :
    service.Transition timeout (.closer index) next := by
  unfold Service.closeStep at taken
  dsimp only at taken
  split at taken
  · cases taken
  · split at taken <;> cases taken <;> exact .closer
  · cases taken
    exact .closer
  · split at taken <;> cases taken <;> exact .closer
  · rcases Option.map_eq_some_iff.mp taken with ⟨middle, stepped, rfl⟩
    rcases Service.stepSession_eq_some stepped with
      ⟨session, after, found, closed, rfl⟩
    cases closed
    exact .closerCloses found
  · split at taken <;> cases taken
    exact .closer
  · cases taken

/-- Inversion: everything a step of the service can do. -/
theorem Service.transition_of_step
    {timeout : Int} {service next : Service Info}
    {action : ServiceAction Info}
    (taken : service.step timeout action = some next) :
    service.Transition timeout action next := by
  cases action with
  | run => exact Service.transition_of_runStep taken
  | closer index => exact Service.transition_of_closeStep taken
  | callClose =>
      cases taken
      exact .callClose
  | session id event =>
      rcases Service.stepSession_eq_some taken with
        ⟨session, after, found, stepped, rfl⟩
      exact .session found stepped
  | opens info =>
      simp only [Service.step] at taken
      split at taken <;> cases taken
      exact .opens ‹_›
  | openFails failure =>
      simp only [Service.step] at taken
      split at taken <;> cases taken
      exact .moves ‹_› (.openFails failure)
  | writes =>
      simp only [Service.step] at taken
      split at taken
      · rename_i point
        rcases Option.map_eq_some_iff.mp taken with ⟨middle, stepped, rfl⟩
        rcases Service.stepSession_eq_some stepped with
          ⟨session, after, found, wrote, rfl⟩
        cases wrote
        exact .writes point found
      · cases taken
  | writeFails failure =>
      simp only [Service.step] at taken
      split at taken <;> cases taken
      exact .moves ‹_› (.writeFails _ _ _ failure)
  | responds =>
      simp only [Service.step, Service.respond] at taken
      split at taken
      · rename_i point
        rcases Option.bind_eq_some_iff.mp taken with
          ⟨session, found, received⟩
        rcases Option.bind_eq_some_iff.mp received with
          ⟨⟨raw, caller⟩, operation, stepped⟩
        simp only [Service.stepSession, found, Session.step, operation,
          Option.map_some] at stepped
        cases stepped
        exact .receives point found operation
      · cases taken
  | timesOut =>
      simp only [Service.step, Service.timeOut] at taken
      split at taken
      · cases taken
        exact .moves ‹_› (.unanswered _ _)
      · cases taken
        exact .moves ‹_› .retries
      · cases taken
  | contextDone =>
      simp only [Service.step, Service.contextDone] at taken
      split at taken
      · rename_i cancelled
        split at taken
        · cases taken
          exact .moves ‹_› (.abandoned _ _ cancelled)
        · cases taken
          exact .moves ‹_› (.cancelled _ cancelled)
        · cases taken
          exact .moves ‹_› (.interrupted cancelled)
        · cases taken
      · cases taken
  | sessionDone =>
      simp only [Service.step, Service.observeDone] at taken
      split at taken
      · rename_i point
        split at taken
        · rename_i done
          split at taken
          · cases taken
            exact .moves point (.lost _ _ _ done ‹_›)
          · rename_i nothing
            exact (Service.sessionErr_of_done done nothing).elim
        · cases taken
      · rename_i point
        split at taken <;> cases taken
        exact .moves point (.ended _ ‹_›)
      · cases taken

/-! ## What happens to the sessions -/

/--
A step opens a session, lets one session take a step, or does neither.  The
flag says whether that step may be a read.
-/
inductive Service.SessionsEffect
    (reads : Bool) (service next : Service Info) : Prop where
  | same
      (sessions : next.sessions = service.sessions)
      (opened : next.opened = service.opened)
  | opens (info : Info)
      (sessions : next.sessions = service.sessions ++ [newSession])
      (opened : next.opened = service.opened ++ [info])
  | steps (id : Nat) (session after : Session) (action : SessionAction)
      (found : service.sessions[id]? = some session)
      (taken : session.step action = some after)
      (allowed : action.reads = true → reads = true)
      (sessions : next.sessions = service.sessions.set id after)
      (opened : next.opened = service.opened)

@[simp]
theorem Service.storeError_sessions
    (service : Service Info) (failure : Option GoError) :
    (service.storeError failure).sessions = service.sessions := by
  cases failure <;> rfl

@[simp]
theorem Service.storeError_opened
    (service : Service Info) (failure : Option GoError) :
    (service.storeError failure).opened = service.opened := by
  cases failure <;> rfl

theorem Service.Transition.sessionsEffect
    {timeout : Int} {service next : Service Info}
    {action : ServiceAction Info}
    (transition : service.Transition timeout action next) :
    Service.SessionsEffect action.reads service next := by
  cases transition with
  | opens point => exact .opens _ rfl rfl
  | storesErr point => exact .same (by simp) (by simp)
  | @allocates id state after session caller point found operation =>
      exact .steps id session _ (.allocate state) found
        (by simp [Session.step, operation]) Bool.noConfusion rfl rfl
  | @writes id sequence call session point found =>
      exact .steps id session _ (.write (encodeGetVersion sequence)) found
        rfl Bool.noConfusion rfl rfl
  | @receives id call session raw caller point found operation =>
      exact .steps id session _ (.receive call) found
        (by simp [Session.step, operation]) Bool.noConfusion rfl rfl
  | @closes id source target session point legal found =>
      exact .steps id session _ .close found rfl Bool.noConfusion rfl rfl
  | @session id event session after found taken =>
      exact .steps id session after event.action found taken
        (fun reads => reads) rfl rfl
  | @closerCloses index id session closers found =>
      exact .steps id session _ .close found rfl Bool.noConfusion rfl rfl
  | _ => exact .same rfl rfl

theorem Service.sessionsEffect_of_step
    {timeout : Int} {service next : Service Info}
    {action : ServiceAction Info}
    (taken : service.step timeout action = some next) :
    Service.SessionsEffect action.reads service next :=
  (Service.transition_of_step taken).sessionsEffect

/-- Every session behaves as a session on its own, and has its record. -/
structure Service.SessionsValid (service : Service Info) : Prop where
  reachable : ∀ session ∈ service.sessions,
    sessionMachine.Reachable session
  recorded : service.opened.length = service.sessions.length

theorem Service.SessionsValid.step
    {timeout : Int} {service next : Service Info}
    (valid : service.SessionsValid) (action : ServiceAction Info)
    (taken : service.step timeout action = some next) :
    next.SessionsValid := by
  cases Service.sessionsEffect_of_step taken with
  | same sessions opened =>
      exact ⟨sessions ▸ valid.reachable,
        by rw [sessions, opened, valid.recorded]⟩
  | opens info sessions opened =>
      constructor
      · intro session member
        rw [sessions] at member
        rcases List.mem_append.mp member with member | member
        · exact valid.reachable session member
        · rw [List.mem_singleton.mp member]
          exact .start
      · simp [sessions, opened, valid.recorded]
  | steps id session after action found stepped allowed sessions opened =>
      constructor
      · intro other member
        rw [sessions] at member
        rcases List.mem_or_eq_of_mem_set member with member | rfl
        · exact valid.reachable other member
        · exact (valid.reachable session
            (List.mem_of_getElem? found)).step action stepped
      · simp [sessions, opened, valid.recorded]

/-- Refinement: a service runs its sessions as the session machine does. -/
theorem sessionsValid_of_reachable
    {timeout : Int} {service : Service Info}
    (reached : (serviceMachine Info timeout).Reachable service) :
    service.SessionsValid := by
  refine reached.invariant ?_ ?_
  · exact ⟨by simp [serviceMachine, newService], rfl⟩
  · intro state action next _ valid taken
    exact valid.step action taken

/-! ## What the shared variables hold -/

/-- Nothing is published. -/
def Service.Idle (service : Service Info) : Prop :=
  service.active = none ∧ service.deviceInfo = none

/-- The local variable `info` belongs to the session. -/
def Service.Opened (service : Service Info) (id : Nat) : Prop :=
  ∃ info, service.opened[id]? = some info ∧ service.info = some info

/-- The published device information belongs to the session. -/
def Service.Informed (service : Service Info) (id : Nat) : Prop :=
  ∃ info, service.opened[id]? = some info ∧
    service.deviceInfo = some info

/-- The session is published, with its device and without an error. -/
def Service.Published (service : Service Info) (id : Nat) : Prop :=
  service.active = some id ∧ service.Informed id ∧ service.lastErr = none

/-- The shared variables at each control point of the supervisor. -/
def Service.Assertion (service : Service Info) : Prop :=
  match service.run with
  | .allocating id _ => service.Idle ∧ service.Opened id
  | .writing id _ _ => service.Idle ∧ service.Opened id
  | .awaiting id _ => service.Idle ∧ service.Opened id
  | .storingInfo id => service.Idle ∧ service.Opened id
  | .clearingErr id => service.active = none ∧ service.Informed id
  | .storingActive id =>
      service.active = none ∧ service.Informed id ∧
        service.lastErr = none
  | .serving id => service.Published id
  | .cancelling id => service.Published id
  | .joining id => service.Published id
  | .detaching id => service.Published id
  | .forgettingInfo _ => service.active = none
  | _ => service.Idle

/-- Steps of the other goroutines do not touch the annotated variables. -/
theorem Service.Assertion.of_same
    {service next : Service Info} (assertion : service.Assertion)
    (run : next.run = service.run)
    (active : next.active = service.active)
    (deviceInfo : next.deviceInfo = service.deviceInfo)
    (lastErr : next.lastErr = service.lastErr)
    (info : next.info = service.info)
    (opened : next.opened = service.opened) :
    next.Assertion := by
  unfold Service.Assertion at assertion ⊢
  simpa only [run, Service.Idle, Service.Opened, Service.Informed,
    Service.Published, active, deviceInfo, lastErr, info, opened]
    using assertion

theorem Service.storeError_idle
    {service : Service Info} (idle : service.Idle)
    (failure : Option GoError) :
    (service.storeError failure).Idle := by
  cases failure <;> exact idle

theorem verifyPoint_cases (id : Nat) (raw : List Byte) :
    (∃ failure, verifyPoint id raw = .verifyFailed id failure) ∨
      verifyPoint id raw = .storingInfo id ∧
        decodeGetVersionResponse raw = .ok ⟨0, 1⟩ := by
  unfold verifyPoint
  split
  · rename_i failure _
    exact Or.inl ⟨failure, rfl⟩
  · rename_i version decoded
    split
    · exact Or.inl ⟨_, rfl⟩
    · rename_i supported
      rcases not_or.mp supported with ⟨major, minor⟩
      rcases version with ⟨versionMajor, versionMinor⟩
      rw [not_not] at major minor
      cases major
      cases minor
      exact Or.inr ⟨rfl, decoded⟩

/-- Moving on keeps the assertion. -/
theorem Service.Moves.assertion
    {service : Service Info} {source target : RunPoint}
    (legal : service.Moves source target)
    (point : service.run = source) (assertion : service.Assertion) :
    Service.Assertion { service with run := target } := by
  rw [Service.Assertion, point] at assertion
  cases legal with
  | allocateFails id failure => exact assertion.1
  | writeFails id sequence call failure => exact assertion.1
  | unanswered id call => exact assertion.1
  | abandoned id call cancelled => exact assertion.1
  | lost id call failure done err => exact assertion.1
  | _ => exact assertion

/-- Step lemma: every action keeps the assertion. -/
theorem Service.Assertion.step
    {timeout : Int} {service next : Service Info}
    (assertion : service.Assertion) (valid : service.SessionsValid)
    (action : ServiceAction Info)
    (taken : service.step timeout action = some next) :
    next.Assertion := by
  cases Service.transition_of_step taken with
  | moves point legal => exact legal.assertion point assertion
  | reportsOpen point =>
      rw [Service.Assertion, point] at assertion
      exact Service.storeError_idle assertion _
  | reportsVerify point =>
      rw [Service.Assertion, point] at assertion
      exact Service.storeError_idle assertion _
  | storesErr point =>
      rw [Service.Assertion, point] at assertion
      exact Service.storeError_idle assertion _
  | storesInfo point =>
      rw [Service.Assertion, point] at assertion
      rcases assertion with ⟨⟨active, -⟩, info, recorded, stored⟩
      exact ⟨active, info, recorded, stored⟩
  | clearsErr point =>
      rw [Service.Assertion, point] at assertion
      exact ⟨assertion.1, assertion.2, rfl⟩
  | storesActive point =>
      rw [Service.Assertion, point] at assertion
      exact ⟨rfl, assertion.2⟩
  | detaches point =>
      rw [Service.Assertion, point] at assertion
      exact if_pos assertion.1
  | forgetsInfo point =>
      rw [Service.Assertion, point] at assertion
      exact ⟨assertion, rfl⟩
  | stops point =>
      rw [Service.Assertion, point] at assertion
      exact assertion
  | @opens info point =>
      rw [Service.Assertion, point] at assertion
      refine ⟨assertion, info, ?_, rfl⟩
      simp [← valid.recorded]
  | allocates point found operation =>
      rw [Service.Assertion, point] at assertion
      exact assertion
  | writes point found =>
      rw [Service.Assertion, point] at assertion
      exact assertion
  | @receives id call session raw caller point found operation =>
      rw [Service.Assertion, point] at assertion
      rcases verifyPoint_cases id raw with ⟨failure, failed⟩ | ⟨passed, -⟩
      · rw [failed]
        exact assertion.1
      · rw [passed]
        exact assertion
  | closes point legal found =>
      rw [Service.Assertion, point] at assertion
      cases legal <;> exact assertion
  | _ => exact assertion.of_same rfl rfl rfl rfl rfl rfl

theorem assertion_of_reachable
    {timeout : Int} {service : Service Info}
    (reached : (serviceMachine Info timeout).Reachable service) :
    service.Assertion := by
  refine reached.invariant ⟨rfl, rfl⟩ ?_
  intro state action next before assertion taken
  exact assertion.step (sessionsValid_of_reachable before) action taken

/-! ## What the handshake has established -/

/-- Every session is still there, with a longer history. -/
def LaterSessions (sessions next : List Session) : Prop :=
  ∀ (id : Nat) (session : Session), sessions[id]? = some session →
    ∃ after, next[id]? = some after ∧ session.Later after

/-- What every step of a session respects, a step of the service respects. -/
theorem Service.SessionsEffect.related
    {relation : Session → Session → Prop}
    {reads : Bool} {service next : Service Info}
    (effect : Service.SessionsEffect reads service next)
    (reflexive : ∀ session, relation session session)
    (stepped : ∀ session ∈ service.sessions, ∀ action after,
      session.step action = some after → relation session after)
    {id : Nat} {session : Session}
    (found : service.sessions[id]? = some session) :
    ∃ after, next.sessions[id]? = some after ∧ relation session after := by
  cases effect with
  | same sessions opened =>
      exact ⟨session, by rw [sessions, found], reflexive session⟩
  | opens info sessions opened =>
      rcases List.getElem?_eq_some_iff.mp found with ⟨inside, -⟩
      refine ⟨session, ?_, reflexive session⟩
      rw [sessions, List.getElem?_append_left inside, found]
  | steps other before after action located taken allowed sessions opened =>
      rcases List.getElem?_eq_some_iff.mp located with ⟨inside, -⟩
      by_cases same : other = id
      · subst same
        obtain rfl : session = before :=
          Option.some.inj (found.symm.trans located)
        exact ⟨after, by rw [sessions, List.getElem?_set_self inside],
          stepped session (List.mem_of_getElem? found) action after taken⟩
      · exact ⟨session, by rw [sessions, List.getElem?_set_ne same, found],
          reflexive session⟩

theorem Service.SessionsEffect.later
    {reads : Bool} {service next : Service Info}
    (valid : service.SessionsValid)
    (effect : Service.SessionsEffect reads service next) :
    LaterSessions service.sessions next.sessions := by
  intro id session found
  refine effect.related Session.Later.refl ?_ found
  intro known member action after taken
  exact (invariant_of_reachable (valid.reachable known member)).later taken

/-- A property of one of the sessions. -/
def OfSession (sessions : List Session) (id : Nat)
    (property : Session → Prop) : Prop :=
  ∃ session, sessions[id]? = some session ∧ property session

theorem OfSession.later
    {sessions next : List Session} {id : Nat}
    {property : Session → Prop}
    (holds : OfSession sessions id property)
    (later : LaterSessions sessions next)
    (stable : ∀ session after, session.Later after →
      property session → property after) :
    OfSession next id property := by
  rcases holds with ⟨session, found, known⟩
  rcases later id session found with ⟨after, located, grown⟩
  exact ⟨after, located, stable session after grown known⟩

/-- What the supervisor knows about its session at each control point. -/
def RunPoint.Handshake (sessions : List Session) : RunPoint → Prop
  | .allocating id (.allocated sequence call) =>
      OfSession sessions id (fun session =>
        session.caller.sequenceOf call = some sequence)
  | .writing id sequence call =>
      OfSession sessions id (fun session =>
        session.caller.sequenceOf call = some sequence)
  | .awaiting id call =>
      OfSession sessions id (fun session => session.Requested call)
  | .storingInfo id => OfSession sessions id Session.Verified
  | .clearingErr id => OfSession sessions id Session.Verified
  | .storingActive id => OfSession sessions id Session.Verified
  | .serving id => OfSession sessions id Session.Verified
  | .cancelling id => OfSession sessions id Session.Verified
  | .joining id => OfSession sessions id Session.Verified
  | .detaching id => OfSession sessions id Session.Verified
  | _ => True

/-- What is known about a session stays true. -/
theorem RunPoint.Handshake.later
    {sessions next : List Session} {point : RunPoint}
    (handshake : point.Handshake sessions)
    (later : LaterSessions sessions next) :
    point.Handshake next := by
  have sequence : ∀ {id call number},
      OfSession sessions id (fun session =>
        session.caller.sequenceOf call = some number) →
      OfSession next id (fun session =>
        session.caller.sequenceOf call = some number) :=
    fun known => known.later later
      (fun _ _ grown same => grown.calls _ _ same)
  have verified : ∀ {id}, OfSession sessions id Session.Verified →
      OfSession next id Session.Verified :=
    fun known => known.later later
      (fun _ _ grown verified => verified.later grown)
  cases point with
  | allocating id state =>
      cases state with
      | allocated number call => exact sequence handshake
      | _ => trivial
  | writing id number call => exact sequence handshake
  | awaiting id call =>
      exact OfSession.later handshake later
        (fun _ _ grown requested => requested.later grown)
  | storingInfo id => exact verified handshake
  | clearingErr id => exact verified handshake
  | storingActive id => exact verified handshake
  | serving id => exact verified handshake
  | cancelling id => exact verified handshake
  | joining id => exact verified handshake
  | detaching id => exact verified handshake
  | _ => trivial

/-- Moving on keeps what the handshake established. -/
theorem Service.Moves.handshake
    {service : Service Info} {sessions : List Session}
    {source target : RunPoint}
    (legal : service.Moves source target)
    (handshake : source.Handshake sessions) :
    target.Handshake sessions := by
  cases legal with
  | allocated id sequence call => exact handshake
  | cancelled id cancelled => exact handshake
  | ended id done => exact handshake
  | joined id done => exact handshake
  | _ => trivial

/-- A received response which passes the version check verifies. -/
theorem handshake_verifyPoint
    {session : Session} (invariant : session.Invariant) {call : Nat}
    (requested : session.Requested call)
    {raw : List Byte} {caller : Caller}
    (operation : session.caller.receive call = some (raw, caller))
    {sessions : List Session} {id : Nat}
    (located : sessions[id]? = some { session with caller := caller }) :
    (verifyPoint id raw).Handshake sessions := by
  rcases requested with ⟨sequence, allocated, written⟩
  rcases receive_sound invariant.sound operation with
    ⟨⟨number, same, passed⟩, -, extending⟩
  rcases verifyPoint_cases id raw with ⟨failure, failed⟩ | ⟨ok, version⟩
  · rw [failed]
    trivial
  · rw [ok]
    obtain rfl : sequence = number :=
      Option.some.inj (allocated.symm.trans same)
    exact ⟨{ session with caller := caller }, located, call, sequence, raw,
      extending _ _ allocated, written, passed.1,
      decodeHeader_of_version passed.2 version, version⟩

/-- Step lemma: every action keeps what the handshake established. -/
theorem Service.handshake_step
    {timeout : Int} {service next : Service Info}
    (valid : service.SessionsValid)
    (handshake : service.run.Handshake service.sessions)
    (action : ServiceAction Info)
    (taken : service.step timeout action = some next) :
    next.run.Handshake next.sessions := by
  have transition := Service.transition_of_step taken
  have moved := handshake.later
    (Service.SessionsEffect.later valid transition.sessionsEffect)
  cases transition with
  | moves point legal =>
      rw [point] at handshake
      exact legal.handshake handshake
  | storesInfo point =>
      rw [point] at handshake
      exact handshake
  | clearsErr point =>
      rw [point] at handshake
      exact handshake
  | storesActive point =>
      rw [point] at handshake
      exact handshake
  | opens point =>
      unfold allocate
      split <;> trivial
  | @allocates id state after session caller point found operation =>
      rcases List.getElem?_eq_some_iff.mp found with ⟨inside, -⟩
      cases after with
      | allocated sequence call =>
          exact ⟨{ session with caller := caller },
            List.getElem?_set_self inside,
            sequenceOf_allocated operation⟩
      | _ => trivial
  | @writes id sequence call session point found =>
      rw [point] at handshake
      rcases handshake with ⟨known, located, allocated⟩
      obtain rfl : session = known :=
        Option.some.inj (found.symm.trans located)
      rcases List.getElem?_eq_some_iff.mp found with ⟨inside, -⟩
      exact ⟨_, List.getElem?_set_self inside, sequence, allocated,
        by simp⟩
  | @receives id call session raw caller point found operation =>
      rw [point] at handshake
      rcases handshake with ⟨known, located, requested⟩
      obtain rfl : session = known :=
        Option.some.inj (found.symm.trans located)
      rcases List.getElem?_eq_some_iff.mp found with ⟨inside, -⟩
      exact handshake_verifyPoint
        (invariant_of_reachable
          (valid.reachable session (List.mem_of_getElem? found)))
        requested operation (List.getElem?_set_self inside)
  | closes point legal found =>
      rw [point] at moved
      cases legal with
      | cancelling => exact moved
      | _ => trivial
  | session found taken => exact moved
  | callClose => exact moved
  | closer => exact moved
  | closerCloses found => exact moved
  | _ => trivial

def Service.HandshakeHolds (service : Service Info) : Prop :=
  service.run.Handshake service.sessions

theorem handshake_of_reachable
    {timeout : Int} {service : Service Info}
    (reached : (serviceMachine Info timeout).Reachable service) :
    service.HandshakeHolds := by
  refine reached.invariant ?_ ?_
  · trivial
  · intro state action next before handshake taken
    exact Service.handshake_step (sessionsValid_of_reachable before)
      handshake action taken

/-! ## The supervision invariant -/

/-- A published session is being served. -/
theorem Service.Assertion.published
    {service : Service Info} (assertion : service.Assertion)
    {id : Nat} (active : service.active = some id) :
    service.Published id ∧
      (service.run = .serving id ∨ service.run = .cancelling id ∨
        service.run = .joining id ∨ service.run = .detaching id) := by
  unfold Service.Assertion at assertion
  cases point : service.run <;> rw [point] at assertion
  case serving other =>
    obtain rfl : id = other :=
      Option.some.inj (active.symm.trans assertion.1)
    exact ⟨assertion, Or.inl rfl⟩
  case cancelling other =>
    obtain rfl : id = other :=
      Option.some.inj (active.symm.trans assertion.1)
    exact ⟨assertion, Or.inr (Or.inl rfl)⟩
  case joining other =>
    obtain rfl : id = other :=
      Option.some.inj (active.symm.trans assertion.1)
    exact ⟨assertion, Or.inr (Or.inr (Or.inl rfl))⟩
  case detaching other =>
    obtain rfl : id = other :=
      Option.some.inj (active.symm.trans assertion.1)
    exact ⟨assertion, Or.inr (Or.inr (Or.inr rfl))⟩
  all_goals
    simp [Service.Idle, active] at assertion

theorem verified_of_active
    {timeout : Int} {service : Service Info}
    (reached : (serviceMachine Info timeout).Reachable service)
    {id : Nat} (active : service.active = some id) :
    OfSession service.sessions id Session.Verified := by
  have handshake := handshake_of_reachable reached
  unfold Service.HandshakeHolds at handshake
  rcases (assertion_of_reachable reached).published active with
    ⟨-, serving | cancelling | joining | detaching⟩
  · rwa [serving] at handshake
  · rwa [cancelling] at handshake
  · rwa [joining] at handshake
  · rwa [detaching] at handshake

/--
In every reachable state a published session has answered its version query,
the published device is the one it was opened on, and no error is stored; and
without a published session there is an error.
-/
theorem supervision_invariant
    (Info : Type) (timeout : Int) (service : Service Info)
    (reached : (serviceMachine Info timeout).Reachable service) :
    (∀ id, service.active = some id →
      OfSession service.sessions id Session.Verified ∧
      (∃ info, service.opened[id]? = some info ∧
        service.deviceInfo = some info) ∧
      service.lastErr = none) ∧
    (service.active = none → service.err ≠ none) := by
  constructor
  · intro id active
    rcases (assertion_of_reachable reached).published active with
      ⟨⟨-, informed, lastErr⟩, -⟩
    exact ⟨verified_of_active reached active, informed, lastErr⟩
  · intro inactive
    simp [Service.err, inactive]

/-- The response of protocol 0.1 to the first call of a session. -/
def versionResponse : List Byte :=
  [0x02, 0x01, 0x01, 0x00, 0x00, 0x00, 0x01] ++ List.replicate 57 0x00

/-- The first connection of a service to a reader which answers. -/
def connecting : List (ServiceAction Nat) :=
  [.run, .opens 7, .run, .run, .run, .run, .writes,
    .session 0 (.read versionResponse), .session 0 .loop,
    .session 0 .loop, .session 0 .loop, .session 0 .loop,
    .session 0 .loop, .responds, .run, .run, .run]

theorem supervision_invariant_connected :
    ∃ service : Service Nat,
      (serviceMachine Nat 1000).Reachable service ∧
      service.active = some 0 ∧
      OfSession service.sessions 0 Session.Verified ∧
      service.deviceInfo = some 7 := by
  rcases
      (serviceMachine Nat 1000).exists_reachable_of_replay
        (fun service => decide (service.active = some 0) &&
          decide (service.opened = [7]))
        connecting (by decide +kernel) with
    ⟨service, reached, connected⟩
  simp only [Bool.and_eq_true, decide_eq_true_eq] at connected
  rcases connected with ⟨active, opened⟩
  rcases (supervision_invariant Nat 1000 service reached).1 0 active with
    ⟨verified, ⟨info, recorded, published⟩, -⟩
  rw [opened] at recorded
  cases recorded
  exact ⟨service, reached, active, verified, published⟩

end Pareader.Host.Supervision
