import Pareader.Core.Machine
import Pareader.Host.Calls

/-!
# One connection to the reader

A session has a read loop of its own, while the goroutine which opened it
allocates calls, waits for their responses and may close the transport.  The
session is therefore a transition system: an action is a result of
`transport.Read`, one operation of the read loop, one operation of another
thread on the call table, or the end of the lifetime of a cached call.

Reports which `Read` returned are recorded in order.  They are the history on
which the specification of the card state is phrased: at every point where the
read loop waits for a report, the stored card is the decoding of the last
received report which is a valid card state.
-/

namespace Pareader.Host.Sessions

open Pareader.Core
open Pareader.Host.Protocol
open Pareader.Host.Calls

/-! ## Routing -/

/-- The effect which `Router.Dispatch` requests. -/
inductive Routed where
  | consume (sequence : UInt16)
  | store (card : Card)
deriving DecidableEq, Repr

/-- The signal handlers which `newSession` registers. -/
def sessionSignals (opcode : Byte) :
    Option (List Byte → Except GoError Card) :=
  if opcode = opcodeCardState then some decodeCardStateSignal else none

/-- `Router.Dispatch`, up to the effect of the chosen handler. -/
def dispatch (raw : List Byte) : Except GoError Routed :=
  match decodeHeader raw with
  | .error failure => .error failure
  | .ok header =>
      match header.type with
      | .response => .ok (.consume header.sequence)
      | .signal =>
          match sessionSignals header.opcode with
          | none => .error (.code .unknownSignal)
          | some handler => (handler raw).map Routed.store
      | .request => .error (.code .unexpectedType)

/-- The report is a response with the given sequence. -/
def IsResponse (sequence : UInt16) (raw : List Byte) : Prop :=
  ∃ header, decodeHeader raw = .ok header ∧
    header.type = .response ∧ header.sequence = sequence

theorem dispatch_consume
    {raw : List Byte} {sequence : UInt16}
    (routed : dispatch raw = .ok (.consume sequence)) :
    IsResponse sequence raw := by
  unfold dispatch at routed
  split at routed
  · cases routed
  · rename_i header decoded
    split at routed
    · rename_i response
      cases routed
      exact ⟨header, decoded, response, rfl⟩
    · split at routed
      · cases routed
      · rename_i handler _
        cases handled : handler raw <;> simp [handled, Except.map] at routed
    · cases routed

/-- The card-state handler runs exactly on the valid card states. -/
theorem dispatch_store_iff (raw : List Byte) (card : Card) :
    dispatch raw = .ok (.store card) ↔
      decodeCardStateSignal raw = .ok card := by
  unfold dispatch
  constructor
  · intro routed
    split at routed
    · cases routed
    · split at routed
      · cases routed
      · unfold sessionSignals at routed
        split at routed
        · cases routed
        · rename_i handler found
          split at found
          · cases found
            cases decoded : decodeCardStateSignal raw with
            | error failure => simp [decoded, Except.map] at routed
            | ok other =>
                simp only [decoded, Except.map, Except.ok.injEq,
                  Routed.store.injEq] at routed
                rw [routed]
          · cases found
      · cases routed
  · intro accepted
    rw [decodeHeader_of_cardStateReport
      (decodeCardStateSignal_ok accepted).1]
    simp [sessionSignals, accepted, Except.map]

/-! ## The transition system -/

/-- The control points of the read loop. -/
inductive LoopPoint where
  | reading
  | storing (card : Card)
  | consuming (state : Consuming)
  | clearing (failure : GoError)
  | recording (failure : GoError)
  | closing
  | ended

/--
`Session`, the control point of its read loop, and whether its transport was
closed.  The reports which `Read` returned and those which `Write` accepted are
recorded for the specification only.
-/
structure Session where
  caller : Caller
  latest : Option Card
  readErr : Option GoError
  done : Bool
  loop : LoopPoint
  transportClosed : Bool
  received : List (List Byte)
  written : List (List Byte)

def newSession : Session where
  caller := newCaller
  latest := some Card.none
  readErr := none
  done := false
  loop := .reading
  transportClosed := false
  received := []
  written := []

/-- Where the read loop continues with a report; dispatch errors are dropped. -/
def routePoint (raw : List Byte) : LoopPoint :=
  match dispatch raw with
  | .error _ => .reading
  | .ok (.consume sequence) => .consuming (.finding sequence raw)
  | .ok (.store card) => .storing card

/-- One operation of the read loop other than `transport.Read`. -/
def Session.loopStep (session : Session) : Option Session :=
  match session.loop with
  | .reading => none
  | .storing card =>
      some { session with latest := some card, loop := .reading }
  | .consuming (.returned _) => some { session with loop := .reading }
  | .consuming state =>
      (session.caller.consumeStep state).map (fun (caller, after) =>
        { session with caller := caller, loop := .consuming after })
  | .clearing failure =>
      some
        { session with
          latest := some Card.none
          loop := .recording failure }
  | .recording failure =>
      some { session with readErr := some failure, loop := .closing }
  | .closing => some { session with done := true, loop := .ended }
  | .ended => none

/-- What can happen to a session. -/
inductive SessionAction where
  | read (raw : List Byte)
  | readFails (failure : GoError)
  | loop
  | allocate (state : Allocating)
  | receive (call : Nat)
  | expire (sequence : UInt16)
  | write (raw : List Byte)
  | close

def Session.step (session : Session) : SessionAction → Option Session
  | .read raw =>
      match session.loop with
      | .reading =>
          some
            { session with
              loop := routePoint raw
              received := session.received ++ [raw] }
      | _ => none
  | .readFails failure =>
      match session.loop with
      | .reading => some { session with loop := .clearing failure }
      | _ => none
  | .loop => session.loopStep
  | .allocate state =>
      (session.caller.allocateStep state).map (fun (caller, _) =>
        { session with caller := caller })
  | .receive call =>
      (session.caller.receive call).map (fun (_, caller) =>
        { session with caller := caller })
  | .expire sequence =>
      some { session with caller := session.caller.expire sequence }
  | .write raw => some { session with written := session.written ++ [raw] }
  | .close => some { session with transportClosed := true }

/-- A session under every interleaving. -/
def sessionMachine : Machine Session SessionAction where
  start := newSession
  step := Session.step

/-- The read loop has not met a failed read. -/
def LoopPoint.alive : LoopPoint → Bool
  | .reading => true
  | .storing _ => true
  | .consuming _ => true
  | _ => false

/-- The transport is open and still being read. -/
def Session.connected (session : Session) : Bool :=
  !session.transportClosed && session.loop.alive

/--
What an action does to the card, the reports and the `done` channel.  All but
four kinds of actions leave these alone and do not reconnect.
-/
inductive Session.Effect
    (session : Session) (action : SessionAction) (next : Session) :
    Prop where
  | stores (card : Card)
      (point : session.loop = .storing card)
      (result :
        next = { session with latest := some card, loop := .reading })
  | clears (failure : GoError)
      (point : session.loop = .clearing failure)
      (result :
        next =
          { session with
            latest := some Card.none
            loop := .recording failure })
  | finishes
      (point : session.loop = .closing)
      (result : next = { session with done := true, loop := .ended })
  | reads (raw : List Byte)
      (cause : action = .read raw)
      (point : session.loop = .reading)
      (result :
        next =
          { session with
            loop := routePoint raw
            received := session.received ++ [raw] })
  | keeps
      (latest : next.latest = session.latest)
      (done : next.done = session.done)
      (received : next.received = session.received)
      (connected : next.connected = true → session.connected = true)

theorem Session.effect_of_step
    {session next : Session} {action : SessionAction}
    (taken : session.step action = some next) :
    session.Effect action next := by
  cases action with
  | read raw =>
      simp only [Session.step] at taken
      split at taken
      · rename_i reading
        cases taken
        exact .reads raw rfl reading rfl
      · cases taken
  | readFails failure =>
      simp only [Session.step] at taken
      split at taken
      · rename_i reading
        cases taken
        exact .keeps rfl rfl rfl (by simp [Session.connected, reading,
          LoopPoint.alive])
      · cases taken
  | loop =>
      simp only [Session.step, Session.loopStep] at taken
      split at taken
      · cases taken
      · rename_i card point
        cases taken
        exact .stores card point rfl
      · rename_i point
        cases taken
        exact .keeps rfl rfl rfl (by simp [Session.connected, point,
          LoopPoint.alive])
      · rename_i point
        rcases Option.map_eq_some_iff.mp taken with ⟨⟨caller, after⟩, -, rfl⟩
        exact .keeps rfl rfl rfl (by simp [Session.connected, point,
          LoopPoint.alive])
      · rename_i failure point
        cases taken
        exact .clears failure point rfl
      · cases taken
        exact .keeps rfl rfl rfl (by simp [Session.connected,
          LoopPoint.alive])
      · rename_i point
        cases taken
        exact .finishes point rfl
      · cases taken
  | allocate state =>
      rcases Option.map_eq_some_iff.mp taken with ⟨⟨caller, after⟩, -, rfl⟩
      exact .keeps rfl rfl rfl id
  | receive call =>
      rcases Option.map_eq_some_iff.mp taken with ⟨⟨raw, caller⟩, -, rfl⟩
      exact .keeps rfl rfl rfl id
  | expire sequence =>
      cases taken
      exact .keeps rfl rfl rfl id
  | write raw =>
      cases taken
      exact .keeps rfl rfl rfl id
  | close =>
      cases taken
      exact .keeps rfl rfl rfl (by simp [Session.connected])

/-- A session whose connection was lost does not come back. -/
theorem Session.connected_of_step
    {session next : Session} {action : SessionAction}
    (taken : session.step action = some next)
    (connected : next.connected = true) :
    session.connected = true := by
  cases Session.effect_of_step taken with
  | stores card point result =>
      simp_all [Session.connected, LoopPoint.alive]
  | clears failure point result =>
      simp_all [Session.connected, LoopPoint.alive]
  | finishes point result =>
      simp_all [Session.connected, LoopPoint.alive]
  | reads raw cause point result =>
      simp_all [Session.connected, LoopPoint.alive]
  | keeps latest done received same => exact same connected

/-- The action is a successful `transport.Read`. -/
def SessionAction.reads : SessionAction → Bool
  | .read _ => true
  | _ => false

theorem Session.received_of_silent
    {session next : Session} {action : SessionAction}
    (taken : session.step action = some next)
    (silent : action.reads = false) :
    next.received = session.received := by
  cases Session.effect_of_step taken with
  | stores card point result => rw [result]
  | clears failure point result => rw [result]
  | finishes point result => rw [result]
  | reads raw cause point result =>
      rw [cause] at silent
      cases silent
  | keeps latest done received same => exact received

/-! ## Observations -/

def Session.currentCard (session : Session) : Card :=
  session.latest.getD Card.none

def Session.err (session : Session) : Option GoError :=
  if session.done then
    some (session.readErr.getD (.code .disconnected))
  else
    none

def Session.aimeID (session : Session) : Option (Vector Byte 10) :=
  session.currentCard.aimeID

def Session.mifareBlocks (session : Session) : Option (Vector Byte 32) :=
  session.currentCard.mifareBlocks

def Session.feliCaID (session : Session) : Option UInt64 :=
  session.currentCard.feliCaID

/-- The valid card states among the received reports, decoded. -/
def cardStates (received : List (List Byte)) : List Card :=
  received.filterMap (fun raw => (decodeCardStateSignal raw).toOption)

/-- The decoding of the last valid card state, or no card. -/
def lastCard (received : List (List Byte)) : Card :=
  (cardStates received).getLastD Card.none

theorem lastCard_append_of_ok
    {raw : List Byte} {card : Card} (received : List (List Byte))
    (accepted : decodeCardStateSignal raw = .ok card) :
    lastCard (received ++ [raw]) = card := by
  simp [lastCard, cardStates, accepted, Except.toOption]

theorem lastCard_append_of_error
    {raw : List Byte} {failure : GoError} (received : List (List Byte))
    (rejected : decodeCardStateSignal raw = .error failure) :
    lastCard (received ++ [raw]) = lastCard received := by
  simp [lastCard, cardStates, rejected, Except.toOption]

/-- A report which is not routed to the card-state handler is ignored. -/
theorem lastCard_append_of_not_stored
    (received : List (List Byte)) (raw : List Byte)
    (elsewhere : ∀ card, dispatch raw ≠ .ok (.store card)) :
    lastCard (received ++ [raw]) = lastCard received := by
  cases decoded : decodeCardStateSignal raw with
  | ok card =>
      exact (elsewhere card
        ((dispatch_store_iff raw card).mpr decoded)).elim
  | error failure => exact lastCard_append_of_error received decoded

/-- The last card is none or was decoded from a received report. -/
theorem lastCard_decoded (received : List (List Byte)) :
    lastCard received = Card.none ∨
      ∃ raw ∈ received,
        decodeCardStateSignal raw = .ok (lastCard received) := by
  induction received using List.reverseRecOn with
  | nil => exact Or.inl rfl
  | append_singleton earlier raw induction =>
      cases decoded : decodeCardStateSignal raw with
      | ok card =>
          rw [lastCard_append_of_ok earlier decoded]
          exact Or.inr ⟨raw, by simp, decoded⟩
      | error failure =>
          rw [lastCard_append_of_error earlier decoded]
          rcases induction with none | ⟨report, member, same⟩
          · exact Or.inl none
          · exact Or.inr ⟨report, by simp [member], same⟩

/-! ## The invariant of a session -/

/-- A received response with the given sequence. -/
def Passed (received : List (List Byte))
    (sequence : UInt16) (raw : List Byte) : Prop :=
  raw ∈ received ∧ IsResponse sequence raw

theorem Passed.append
    (received more : List (List Byte))
    (sequence : UInt16) (raw : List Byte)
    (passed : Passed received sequence raw) :
    Passed (received ++ more) sequence raw :=
  ⟨List.mem_append_left more passed.1, passed.2⟩

/-- The stored card at each control point of the read loop. -/
def Session.CardPoint (session : Session) : Prop :=
  match session.loop with
  | .reading => session.latest = some (lastCard session.received)
  | .consuming _ =>
      session.latest = some (lastCard session.received) ∧
        ∃ raw sequence, session.received.getLast? = some raw ∧
          IsResponse sequence raw
  | .clearing _ => session.latest = some (lastCard session.received)
  | .storing card =>
      ∃ earlier raw,
        session.received = earlier ++ [raw] ∧
        decodeCardStateSignal raw = .ok card ∧
        session.latest = some (lastCard earlier)
  | .recording _ => session.latest = some Card.none
  | .closing => session.latest = some Card.none
  | .ended => session.latest = some Card.none

structure Session.Invariant (session : Session) : Prop where
  card : session.CardPoint
  sound : session.caller.Sound (Passed session.received)
  running : ∀ state, session.loop = .consuming state →
    state.Sound (Passed session.received) session.caller
  unclaimed : session.caller.Unclaimed
  ready : ∀ state, session.loop = .consuming state →
    state.Ready session.caller
  finished : session.done = true → session.loop = .ended

theorem newSession_invariant : newSession.Invariant where
  card := rfl
  sound := newCaller_sound
  running _ impossible := nomatch impossible
  unclaimed := newCaller_unclaimed
  ready _ impossible := nomatch impossible
  finished impossible := nomatch impossible

/-- Another thread's operation on the call table. -/
theorem Session.Invariant.withCaller
    {session : Session} (invariant : session.Invariant) {caller : Caller}
    (sound : caller.Sound (Passed session.received))
    (extending : session.caller.Extends caller)
    (room : session.caller.KeepsRoom caller) :
    Session.Invariant { session with caller := caller } where
  card := invariant.card
  sound := sound
  running state consuming :=
    (invariant.running state consuming).mono (fun _ _ passed => passed)
      extending
  unclaimed := room.unclaimed invariant.unclaimed
  ready state consuming := (invariant.ready state consuming).mono room
  finished := invariant.finished

/-- The read loop receives a report. -/
theorem Session.Invariant.read
    {session : Session} (invariant : session.Invariant)
    (reading : session.loop = .reading) (raw : List Byte) :
    Session.Invariant
      { session with
        loop := routePoint raw
        received := session.received ++ [raw] } := by
  have latest : session.latest = some (lastCard session.received) := by
    have card := invariant.card
    rw [Session.CardPoint, reading] at card
    exact card
  have unfinished : session.done = true → routePoint raw = .ended := by
    intro done
    have ended := invariant.finished done
    rw [reading] at ended
    cases ended
  have sound := invariant.sound.mono
    (Passed.append session.received [raw])
  unfold routePoint at unfinished ⊢
  cases routed : dispatch raw with
  | error failure =>
      rw [routed] at unfinished
      have ignored := lastCard_append_of_not_stored session.received
        raw (by simp [routed])
      exact ⟨latest.trans (congrArg some ignored.symm), sound, nofun,
        invariant.unclaimed, nofun, unfinished⟩
  | ok effect =>
      rw [routed] at unfinished
      cases effect with
      | consume sequence =>
          have response := dispatch_consume routed
          have ignored := lastCard_append_of_not_stored session.received
            raw (by simp [routed])
          refine ⟨⟨latest.trans (congrArg some ignored.symm), raw,
            sequence, by simp, response⟩, sound, ?_,
            invariant.unclaimed, ?_, unfinished⟩
          · rintro _ ⟨⟩
            exact ⟨by simp, response⟩
          · rintro _ ⟨⟩
            trivial
      | store card =>
          exact ⟨⟨session.received, raw, rfl,
            (dispatch_store_iff raw card).mp routed, latest⟩,
            sound, nofun, invariant.unclaimed, nofun, unfinished⟩

/-- The read loop takes one operation. -/
theorem Session.Invariant.loopStep
    {session next : Session} (invariant : session.Invariant)
    (taken : session.loopStep = some next) :
    next.Invariant := by
  rcases invariant with ⟨card, sound, running, unclaimed, ready, finished⟩
  rw [Session.CardPoint] at card
  have unfinished : session.loop ≠ .ended → session.done = false := by
    intro active
    exact Bool.eq_false_iff.mpr (fun done => active (finished done))
  unfold Session.loopStep at taken
  cases point : session.loop with
  | reading =>
      rw [point] at taken
      cases taken
  | storing stored =>
      rw [point] at taken card
      have live := unfinished (by simp [point])
      cases taken
      rcases card with ⟨earlier, raw, received, accepted, -⟩
      refine ⟨?_, sound, nofun, unclaimed, nofun, by simp [live]⟩
      rw [← lastCard_append_of_ok earlier accepted, ← received]
      rfl
  | consuming state =>
      rw [point] at card
      have live := unfinished (by simp [point])
      cases state with
      | returned outcome =>
          rw [point] at taken
          cases taken
          exact ⟨card.1, sound, nofun, unclaimed, nofun, by simp [live]⟩
      | _ =>
          rw [point] at taken
          rcases Option.map_eq_some_iff.mp taken with
            ⟨⟨caller, after⟩, consumed, rfl⟩
          rcases consumeStep_sound sound (running _ point) consumed with
            ⟨nextSound, nextRunning, -⟩
          rcases
              consumeStep_ready sound unclaimed (ready _ point) consumed with
            ⟨nextUnclaimed, nextReady⟩
          refine ⟨card, nextSound, ?_, nextUnclaimed, ?_, by simp [live]⟩
          · rintro _ ⟨⟩
            exact nextRunning
          · rintro _ ⟨⟩
            exact nextReady
  | clearing failure =>
      rw [point] at taken
      have live := unfinished (by simp [point])
      cases taken
      exact ⟨rfl, sound, nofun, unclaimed, nofun, by simp [live]⟩
  | recording failure =>
      rw [point] at taken card
      have live := unfinished (by simp [point])
      cases taken
      exact ⟨card, sound, nofun, unclaimed, nofun, by simp [live]⟩
  | closing =>
      rw [point] at taken card
      cases taken
      exact ⟨card, sound, nofun, unclaimed, nofun, fun _ => rfl⟩
  | ended =>
      rw [point] at taken
      cases taken

/-- Step lemma: every action keeps the invariant. -/
theorem Session.Invariant.step
    {session next : Session} (invariant : session.Invariant)
    (action : SessionAction) (taken : session.step action = some next) :
    next.Invariant := by
  cases action with
  | read raw =>
      simp only [Session.step] at taken
      split at taken
      · rename_i reading
        cases taken
        exact invariant.read reading raw
      · cases taken
  | readFails failure =>
      simp only [Session.step] at taken
      split at taken
      · rename_i reading
        cases taken
        have card := invariant.card
        rw [Session.CardPoint, reading] at card
        refine ⟨card, invariant.sound, nofun, invariant.unclaimed,
          nofun, ?_⟩
        intro done
        have ended := invariant.finished done
        rw [reading] at ended
        cases ended
      · cases taken
  | loop => exact invariant.loopStep taken
  | allocate state =>
      rcases Option.map_eq_some_iff.mp taken with
        ⟨⟨caller, after⟩, allocated, rfl⟩
      rcases allocateStep_sound invariant.sound allocated with
        ⟨sound, extending⟩
      exact invariant.withCaller sound extending
        (allocateStep_keepsRoom allocated)
  | receive call =>
      rcases Option.map_eq_some_iff.mp taken with
        ⟨⟨raw, caller⟩, received, rfl⟩
      rcases receive_sound invariant.sound received with ⟨-, sound, extending⟩
      exact invariant.withCaller sound extending
        (receive_keepsRoom received)
  | expire sequence =>
      cases taken
      rcases expire_sound invariant.sound sequence with ⟨sound, extending⟩
      exact invariant.withCaller sound extending
        ⟨id, Nat.le_refl _, fun _ => id⟩
  | write raw =>
      cases taken
      exact ⟨invariant.card, invariant.sound, invariant.running,
        invariant.unclaimed, invariant.ready, invariant.finished⟩
  | close =>
      cases taken
      exact ⟨invariant.card, invariant.sound, invariant.running,
        invariant.unclaimed, invariant.ready, invariant.finished⟩

/-- Run lemma: the invariant holds in every reachable session. -/
theorem invariant_of_reachable
    {session : Session} (reached : sessionMachine.Reachable session) :
    session.Invariant :=
  reached.invariant newSession_invariant
    (fun _ action _ _ invariant taken => invariant.step action taken)

/-- The history of a session, and its calls, only grow. -/
structure Session.Later (session next : Session) : Prop where
  received : ∀ raw ∈ session.received, raw ∈ next.received
  written : ∀ raw ∈ session.written, raw ∈ next.written
  calls : session.caller.Extends next.caller

theorem Session.Later.refl (session : Session) : session.Later session :=
  ⟨fun _ => id, fun _ => id, Caller.Extends.refl _⟩

theorem Session.Invariant.later
    {session next : Session} (invariant : session.Invariant)
    {action : SessionAction} (taken : session.step action = some next) :
    session.Later next := by
  have same : session.caller.Extends session.caller :=
    Caller.Extends.refl _
  cases action with
  | read raw =>
      simp only [Session.step] at taken
      split at taken <;> cases taken
      exact ⟨fun _ => List.mem_append_left _, fun _ => id, same⟩
  | readFails failure =>
      simp only [Session.step] at taken
      split at taken <;> cases taken
      exact ⟨fun _ => id, fun _ => id, same⟩
  | loop =>
      simp only [Session.step, Session.loopStep] at taken
      split at taken
      case h_1 => cases taken
      case h_4 =>
        rename_i point
        rcases Option.map_eq_some_iff.mp taken with
          ⟨⟨caller, after⟩, consumed, rfl⟩
        rcases
            consumeStep_sound invariant.sound
              (invariant.running _ point) consumed with
          ⟨-, -, extending⟩
        exact ⟨fun _ => id, fun _ => id, extending⟩
      case h_8 => cases taken
      all_goals
        cases taken
        exact ⟨fun _ => id, fun _ => id, same⟩
  | allocate state =>
      rcases Option.map_eq_some_iff.mp taken with
        ⟨⟨caller, after⟩, allocated, rfl⟩
      exact ⟨fun _ => id, fun _ => id,
        (allocateStep_sound invariant.sound allocated).2⟩
  | receive call =>
      rcases Option.map_eq_some_iff.mp taken with
        ⟨⟨raw, caller⟩, received, rfl⟩
      exact ⟨fun _ => id, fun _ => id,
        (receive_sound invariant.sound received).2.2⟩
  | expire sequence =>
      cases taken
      exact ⟨fun _ => id, fun _ => id, same⟩
  | write raw =>
      cases taken
      exact ⟨fun _ => id, fun _ => List.mem_append_left _, same⟩
  | close =>
      cases taken
      exact ⟨fun _ => id, fun _ => id, same⟩

/-! ## What the version handshake establishes -/

/-- The session sent a version query with the sequence of the call. -/
def Session.Requested (session : Session) (call : Nat) : Prop :=
  ∃ sequence, session.caller.sequenceOf call = some sequence ∧
    encodeGetVersion sequence ∈ session.written

/--
The transport delivered a successful response for protocol 0.1, with the
sequence which was allocated for a version query and sent in it.
-/
def Session.Verified (session : Session) : Prop :=
  ∃ call sequence raw,
    session.caller.sequenceOf call = some sequence ∧
    encodeGetVersion sequence ∈ session.written ∧
    raw ∈ session.received ∧
    decodeHeader raw =
      .ok ⟨.response, opcodeGetVersion, sequence, statusSuccess⟩ ∧
    decodeGetVersionResponse raw = .ok ⟨0, 1⟩

theorem Session.Requested.later
    {session next : Session} {call : Nat}
    (requested : session.Requested call)
    (later : session.Later next) :
    next.Requested call := by
  rcases requested with ⟨sequence, known, written⟩
  exact ⟨sequence, later.calls _ _ known, later.written _ written⟩

theorem Session.Verified.later
    {session next : Session} (verified : session.Verified)
    (later : session.Later next) :
    next.Verified := by
  rcases verified with
    ⟨call, sequence, raw, known, written, received, header, version⟩
  exact ⟨call, sequence, raw, later.calls _ _ known,
    later.written _ written, later.received _ received, header, version⟩

/-- An accepted version response has the expected header. -/
theorem decodeHeader_of_version
    {raw : List Byte} {version : Version} {sequence : UInt16}
    (response : IsResponse sequence raw)
    (accepted : decodeGetVersionResponse raw = .ok version) :
    decodeHeader raw =
      .ok ⟨.response, opcodeGetVersion, sequence, statusSuccess⟩ := by
  rcases response with
    ⟨⟨type, opcode, number, status⟩, decoded, response, same⟩
  cases response
  cases same
  unfold decodeGetVersionResponse validateResponse at accepted
  rw [decoded] at accepted
  dsimp only at accepted
  split at accepted
  · cases accepted
  · rename_i header checked
    split at checked
    · cases checked
    · split at checked
      · cases checked
      · rename_i opcodeOk
        split at checked
        · cases checked
        · rename_i statusOk
          rw [not_not] at opcodeOk statusOk
          rw [decoded, opcodeOk, statusOk]

/-! ## The read loop is never stuck -/

/-- A bound on the operations until the read loop waits again or ends. -/
def LoopPoint.rank : LoopPoint → Nat
  | .reading => 0
  | .storing _ => 1
  | .consuming (.finding _ _) => 5
  | .consuming (.claiming _ _ _) => 4
  | .consuming (.removing _ _ _) => 3
  | .consuming (.sending _ _) => 2
  | .consuming (.returned _) => 1
  | .clearing _ => 3
  | .recording _ => 2
  | .closing => 1
  | .ended => 0

theorem LoopPoint.rank_le (point : LoopPoint) : point.rank ≤ 5 := by
  cases point with
  | consuming state => cases state <;> simp [LoopPoint.rank]
  | _ => simp [LoopPoint.rank]

/-- The read loop waits for a report or has ended. -/
def LoopPoint.Resting (point : LoopPoint) : Prop :=
  point = .reading ∨ point = .ended

theorem LoopPoint.resting_of_rank
    {point : LoopPoint} (zero : point.rank = 0) : point.Resting := by
  cases point with
  | reading => exact Or.inl rfl
  | ended => exact Or.inr rfl
  | consuming state => cases state <;> cases zero
  | _ => cases zero

theorem LoopPoint.rank_consumeStep
    {caller next : Caller} {state after : Consuming}
    (taken : caller.consumeStep state = some (next, after)) :
    (LoopPoint.consuming after).rank <
      (LoopPoint.consuming state).rank := by
  cases state with
  | finding sequence raw =>
      simp only [Caller.consumeStep, Option.some.injEq,
        Prod.mk.injEq] at taken
      rcases taken with ⟨-, rfl⟩
      cases (caller.calls.get sequence).1 <;> simp [LoopPoint.rank]
  | claiming sequence call raw =>
      simp only [Caller.consumeStep] at taken
      split at taken
      · cases taken
      · split at taken <;> cases taken <;> simp [LoopPoint.rank]
  | removing sequence call raw =>
      cases taken
      simp [LoopPoint.rank]
  | sending call raw =>
      simp only [Caller.consumeStep] at taken
      split at taken
      · cases taken
      · split at taken <;> cases taken
        simp [LoopPoint.rank]
  | returned outcome => cases taken

/-- A busy read loop has a next operation, which brings it closer to rest. -/
theorem Session.Invariant.busy
    {session : Session} (invariant : session.Invariant)
    (busy : session.loop.rank ≠ 0) :
    ∃ next, session.loopStep = some next ∧
      next.loop.rank < session.loop.rank := by
  cases point : session.loop with
  | reading => exact (busy (by rw [point]; rfl)).elim
  | ended => exact (busy (by rw [point]; rfl)).elim
  | consuming state =>
      have ready := invariant.ready state point
      cases state with
      | returned outcome =>
          exact ⟨_, by rw [Session.loopStep, point], by simp [LoopPoint.rank]⟩
      | _ =>
          rcases
              Option.isSome_iff_exists.mp
                (consumeStep_isSome ready nofun) with
            ⟨⟨caller, after⟩, consumed⟩
          refine ⟨{ session with
            caller := caller
            loop := .consuming after }, ?_,
            LoopPoint.rank_consumeStep consumed⟩
          rw [Session.loopStep, point]
          dsimp only
          rw [consumed, Option.map_some]
  | storing card =>
      exact ⟨_, by rw [Session.loopStep, point], by simp [LoopPoint.rank]⟩
  | clearing failure =>
      exact ⟨_, by rw [Session.loopStep, point], by simp [LoopPoint.rank]⟩
  | recording failure =>
      exact ⟨_, by rw [Session.loopStep, point], by simp [LoopPoint.rank]⟩
  | closing =>
      exact ⟨_, by rw [Session.loopStep, point], by simp [LoopPoint.rank]⟩

/-- Left alone, the read loop comes to rest. -/
theorem Session.Invariant.processed
    {session : Session} (invariant : session.Invariant) :
    ∃ count ≤ session.loop.rank, ∃ next,
      sessionMachine.replay session (List.replicate count .loop) =
        some next ∧
      next.loop.Resting := by
  generalize bound : session.loop.rank = rank
  induction rank using Nat.strongRecOn generalizing session with
  | _ rank induction =>
      by_cases zero : session.loop.rank = 0
      · exact ⟨0, Nat.zero_le _, session, rfl,
          LoopPoint.resting_of_rank zero⟩
      · rcases invariant.busy zero with ⟨next, taken, closer⟩
        rcases
            induction next.loop.rank (bound ▸ closer)
              (invariant.loopStep taken) rfl with
          ⟨count, within, final, replayed, rests⟩
        refine ⟨count + 1, by omega, final, ?_, rests⟩
        exact (congrArg (Option.bind · _) taken).trans replayed

/-! ## The contract of the card state -/

/-- Twenty decimal digits which are not all zero. -/
def AccessCode (luid : Vector Byte 10) : Prop :=
  (∀ octet ∈ luid.toList, octet >>> 4 ≤ 9 ∧ octet &&& 0x0F ≤ 9) ∧
    ∃ octet ∈ luid.toList, octet ≠ 0

/-- What a session promises about its card. -/
structure Session.CardContract (session : Session) : Prop where
  /-- Every received report is processed in finitely many operations. -/
  processed : ∃ count ≤ 5, ∃ next,
    sessionMachine.replay session (List.replicate count .loop) =
      some next ∧
    next.loop.Resting
  /-- Between two reports, the card is the last valid card state. -/
  settled : session.loop = .reading →
    session.currentCard = lastCard session.received
  /-- Only a valid card state or a failed read changes the card. -/
  changed : ∀ action next,
    session.step action = some next →
    next.currentCard ≠ session.currentCard →
      (∃ raw, session.received.getLast? = some raw ∧
        decodeCardStateSignal raw = .ok next.currentCard) ∨
      ∃ failure, session.loop = .clearing failure
  /-- The read loop touches the call table for responses only. -/
  resolved : ∀ next,
    session.loopStep = some next →
    next.caller ≠ session.caller →
      ∃ raw sequence, session.received.getLast? = some raw ∧
        IsResponse sequence raw
  /-- Whatever a call was resolved with is a response to it. -/
  delivered : ∀ pending ∈ session.caller.pending,
    ∀ raw ∈ pending.response,
      raw ∈ session.received ∧ IsResponse pending.sequence raw
  /-- Once the session is done, there is no card for ever. -/
  ended : session.done = true →
    ∀ trace later,
      sessionMachine.replay session trace = some later →
        later.currentCard = Card.none
  /-- An access code comes with its blocks and without a FeliCa ID. -/
  exclusive : ∀ luid,
    session.aimeID = some luid →
      AccessCode luid ∧
      (∃ raw ∈ session.received, ∃ card,
        decodeCardStateSignal raw = .ok card ∧
        card.luid = luid ∧
        session.mifareBlocks = some card.blocks) ∧
      session.feliCaID = none

theorem Session.Invariant.currentCard_settled
    {session : Session} (invariant : session.Invariant)
    (reading : session.loop = .reading) :
    session.currentCard = lastCard session.received := by
  have card := invariant.card
  rw [Session.CardPoint, reading] at card
  simp [Session.currentCard, card]

/-- Only two operations of the read loop touch the stored card. -/
theorem Session.latest_changed
    {session next : Session} {action : SessionAction}
    (taken : session.step action = some next)
    (different : next.latest ≠ session.latest) :
    (∃ card, session.loop = .storing card ∧ next.latest = some card) ∨
      ∃ failure, session.loop = .clearing failure := by
  cases Session.effect_of_step taken with
  | stores card point result =>
      exact Or.inl ⟨card, point, congrArg Session.latest result⟩
  | clears failure point => exact Or.inr ⟨failure, point⟩
  | finishes point result =>
      exact (different (by rw [result])).elim
  | reads raw cause point result =>
      exact (different (by rw [result])).elim
  | keeps latest => exact (different latest).elim

theorem Session.Invariant.changed
    {session next : Session} (invariant : session.Invariant)
    {action : SessionAction} (taken : session.step action = some next)
    (different : next.currentCard ≠ session.currentCard) :
    (∃ raw, session.received.getLast? = some raw ∧
        decodeCardStateSignal raw = .ok next.currentCard) ∨
      ∃ failure, session.loop = .clearing failure := by
  have latest : next.latest ≠ session.latest := by
    intro same
    exact different (congrArg (Option.getD · Card.none) same)
  rcases Session.latest_changed taken latest with
    ⟨card, point, stored⟩ | cleared
  · have located := invariant.card
    rw [Session.CardPoint, point] at located
    rcases located with ⟨earlier, raw, received, accepted, -⟩
    refine Or.inl ⟨raw, by simp [received], ?_⟩
    simp [Session.currentCard, stored, accepted]
  · exact Or.inr cleared

/-- The read loop leaves the call table alone unless it consumes. -/
theorem Session.Invariant.resolved
    {session next : Session} (invariant : session.Invariant)
    (taken : session.loopStep = some next)
    (different : next.caller ≠ session.caller) :
    ∃ raw sequence, session.received.getLast? = some raw ∧
      IsResponse sequence raw := by
  have card := invariant.card
  rw [Session.CardPoint] at card
  unfold Session.loopStep at taken
  split at taken
  · cases taken
  · cases taken
    exact (different rfl).elim
  · cases taken
    exact (different rfl).elim
  · rename_i point
    rw [point] at card
    exact card.2
  · cases taken
    exact (different rfl).elim
  · cases taken
    exact (different rfl).elim
  · cases taken
    exact (different rfl).elim
  · cases taken

/-- A closed `done` channel stays closed. -/
theorem Session.done_stays
    {session next : Session} {action : SessionAction}
    (taken : session.step action = some next)
    (done : session.done = true) :
    next.done = true := by
  cases Session.effect_of_step taken with
  | stores card point result => rw [result, done]
  | clears failure point result => rw [result, done]
  | finishes point result => rw [result]
  | reads raw cause point result => rw [result, done]
  | keeps latest same received => rw [same, done]

theorem Session.Invariant.ended
    {session : Session} (invariant : session.Invariant)
    (done : session.done = true)
    (trace : List SessionAction) (later : Session)
    (replayed : sessionMachine.replay session trace = some later) :
    later.currentCard = Card.none := by
  have kept : later.Invariant ∧ later.done = true := by
    refine
      Machine.replay_invariant
        (fun state => state.Invariant ∧ state.done = true) ?_
        ⟨invariant, done⟩ trace replayed
    rintro state action next ⟨before, finished⟩ taken
    exact ⟨before.step action taken, Session.done_stays taken finished⟩
  have card := kept.1.card
  rw [Session.CardPoint, kept.1.finished kept.2] at card
  simp [Session.currentCard, card]

/-- The stored card is none or was decoded from a received report. -/
theorem Session.Invariant.decoded
    {session : Session} (invariant : session.Invariant) :
    session.currentCard = Card.none ∨
      ∃ raw ∈ session.received,
        decodeCardStateSignal raw = .ok session.currentCard := by
  have card := invariant.card
  rw [Session.CardPoint] at card
  have settled : session.latest = some (lastCard session.received) →
      session.currentCard = Card.none ∨
        ∃ raw ∈ session.received,
          decodeCardStateSignal raw = .ok session.currentCard := by
    intro latest
    rw [Session.currentCard, latest, Option.getD_some]
    exact lastCard_decoded session.received
  have cleared : session.latest = some Card.none →
      session.currentCard = Card.none := by
    intro latest
    rw [Session.currentCard, latest, Option.getD_some]
  split at card
  · exact settled card
  · exact settled card.1
  · exact settled card
  · rcases card with ⟨earlier, raw, received, -, latest⟩
    rw [Session.currentCard, latest, Option.getD_some, received]
    rcases lastCard_decoded earlier with none | ⟨report, member, same⟩
    · exact Or.inl none
    · exact Or.inr ⟨report, List.mem_append_left _ member, same⟩
  · exact Or.inl (cleared card)
  · exact Or.inl (cleared card)
  · exact Or.inl (cleared card)

/-- A decoded MIFARE card has a decimal access code. -/
theorem accessCode_of_aimeID
    {raw : List Byte} {card : Card} {luid : Vector Byte 10}
    (accepted : decodeCardStateSignal raw = .ok card)
    (present : card.aimeID = some luid) :
    AccessCode luid ∧ card.luid = luid ∧
      card.mifareBlocks = some card.blocks ∧ card.feliCaID = none := by
  rcases decodeCardStateSignal_ok accepted with ⟨-, body⟩
  rcases decodeCardBody_cases body with
    ⟨-, rfl⟩ | ⟨-, valid, rfl⟩ | ⟨-, rfl⟩
  · cases present
  · simp only [Card.aimeID, ne_eq, not_true_eq_false, if_false] at present
    split at present
    · rename_i nonzero
      cases present
      refine ⟨⟨?_, ?_⟩, rfl, rfl, rfl⟩
      · intro octet member
        have digits := List.all_eq_true.mp valid octet member
        simpa [UInt8.not_lt] using digits
      · rcases List.any_eq_true.mp nonzero with ⟨octet, member, other⟩
        exact ⟨octet, member, by simpa using other⟩
    · cases present
  · cases present

/-- In every reachable state the session keeps its contract. -/
theorem session_card_contract
    (session : Session) (reached : sessionMachine.Reachable session) :
    session.CardContract := by
  have invariant := invariant_of_reachable reached
  rcases invariant.processed with ⟨count, within, next, replayed, rests⟩
  refine ⟨⟨count, Nat.le_trans within (LoopPoint.rank_le _), next,
      replayed, rests⟩,
    invariant.currentCard_settled,
    fun _ _ taken => invariant.changed taken,
    fun _ taken => invariant.resolved taken,
    invariant.sound.buffered,
    fun done => invariant.ended done, ?_⟩
  intro luid present
  rcases invariant.decoded with none | ⟨raw, member, accepted⟩
  · rw [Session.aimeID, none] at present
    cases present
  · rcases accessCode_of_aimeID accepted present with
      ⟨code, same, blocks, absent⟩
    exact ⟨code, ⟨raw, member, _, accepted, same, blocks⟩, absent⟩

/-- The report of a MIFARE card with access code 01 and empty blocks. -/
def mifareReport : List Byte :=
  [0x03, 0x02, 0x00, 0x00, 0x00, 0x01] ++
    (List.replicate 9 0x00 ++ [0x01]) ++ List.replicate 48 0x00

theorem session_card_contract_mifare :
    ∃ session, sessionMachine.Reachable session ∧
      session.CardContract ∧
      session.aimeID = some #v[0, 0, 0, 0, 0, 0, 0, 0, 0, 1] := by
  rcases
      sessionMachine.exists_reachable_of_replay
        (fun session => decide
          (session.aimeID = some #v[0, 0, 0, 0, 0, 0, 0, 0, 0, 1]))
        [.read [], .read mifareReport, .loop] (by decide +kernel) with
    ⟨session, reached, present⟩
  exact ⟨session, reached, session_card_contract session reached,
    of_decide_eq_true present⟩

end Pareader.Host.Sessions
