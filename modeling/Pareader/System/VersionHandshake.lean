import Pareader.Firmware.AppMain
import Pareader.Firmware.PrhpConformance
import Pareader.Host.Correlation
import Pareader.Host.Supervision
import Pareader.System.CardCodec

/-!
# The version handshake between host and reader

The host writes a request with a sequence of its own, and the reader answers it
with one response among any number of card states.  The two sides write and
read the sequence with routines of their own and check the header
independently, so the agreement is shown on the octets: every report which the
reader can send is accepted by the host, and the response finds the channel
which was allocated with its sequence.

The read loop of the host handles one report after another.  Handling a report
is its read followed by the operations of the read loop until it waits again.
-/

namespace Pareader.System.VersionHandshake

open Pareader.Core
open Pareader.Firmware.Pn532
open Pareader.Firmware.Reader
open Pareader.Firmware.Hid
open Pareader.Firmware.AppMain
open Pareader.Firmware.PrhpConformance
open Pareader.Host.Protocol
open Pareader.Host.Calls
open Pareader.Host.Sessions
open Pareader.Host.Supervision
open Pareader.Host.Correlation
open Pareader.System.CardCodec

/-! ## The reports of the reader -/

/-- The host reads the fields of a report where the reader does. -/
theorem decodeHeader_response
    {report : Report} (type : messageTypeOf report = prhpResponse)
    (nonzero : sequenceOf report ≠ 0) :
    decodeHeader report.toList =
      .ok ⟨.response, opcodeOf report, sequenceOf report,
        statusOf report⟩ := by
  have octet : ∀ index (inside : index < 64),
      byteAt report.toList index = report[index] :=
    fun _ inside => byteAt_toList_of_lt report inside
  have response : byteAt report.toList 0 = messageResponse := by
    rw [octet 0 (by omega)]
    exact type
  have opcode : byteAt report.toList 1 = opcodeOf report :=
    octet 1 (by omega)
  have sequence :
      le16 (byteAt report.toList 2) (byteAt report.toList 3) =
        sequenceOf report := by
    rw [octet 2 (by omega), octet 3 (by omega)]
    rfl
  have status : byteAt report.toList 4 = statusOf report :=
    octet 4 (by omega)
  have length : report.toList.length = reportSize := by
    simp [reportSize]
  unfold decodeHeader
  rw [if_neg (not_not.mpr length)]
  dsimp only
  rw [response, opcode, sequence, status, if_neg (by decide), if_pos rfl,
    if_neg nonzero]

theorem versionOf_eq (report : Report) :
    versionOf report =
      (byteAt report.toList 5, byteAt report.toList 6) := by
  rw [versionOf, byteAt_toList_of_lt _ (by omega),
    byteAt_toList_of_lt _ (by omega)]

/-- The host accepts every response of the reader. -/
theorem decodeHeader_answer
    {request : Report} (correlated : IsRequest request) :
    decodeHeader (answer request).toList =
      .ok ⟨.response, opcodeOf request, sequenceOf request,
        statusFor request⟩ := by
  have answers := answer_answers request
  have nonzero : sequenceOf (answer request) ≠ 0 := by
    rw [answers.sequence]
    exact correlated.2
  rw [decodeHeader_response answers.type nonzero, answers.opcode,
    answers.sequence, statusOf_answer]

theorem decodeHeader_prhpDispatch
    {request report : Report}
    (sent : prhpDispatch request = some report) :
    ∃ header, decodeHeader report.toList = .ok header ∧
      header.type = .response := by
  rw [prhpDispatch_eq] at sent
  by_cases correlated : IsRequest request
  · rw [if_pos correlated] at sent
    rw [← Option.some.inj sent]
    exact ⟨_, decodeHeader_answer correlated, rfl⟩
  · rw [if_neg correlated] at sent
    cases sent

theorem dispatch_answer
    {request : Report} (correlated : IsRequest request) :
    dispatch (answer request).toList =
      .ok (.consume (sequenceOf request)) := by
  rw [dispatch, decodeHeader_answer correlated]

/-- The router never takes a card state for a response. -/
theorem routePoint_publish (card : ReaderCard) :
    routePoint (prhpPublishCardState card).toList = .reading ∨
      ∃ stored,
        routePoint (prhpPublishCardState card).toList =
          .storing stored := by
  have header :=
    decodeHeader_of_cardStateReport (cardStateReport_publish card)
  unfold routePoint
  rw [dispatch, header]
  simp only [sessionSignals, if_true]
  cases decodeCardStateSignal (prhpPublishCardState card).toList with
  | error failure => exact Or.inl rfl
  | ok stored => exact Or.inr ⟨stored, rfl⟩

/-! ## The request of the host -/

/-- The request as the reader receives it. -/
def versionRequest (sequence : UInt16) : Report :=
  load 64 (encodeGetVersion sequence) 0

theorem sequenceOf_versionRequest (sequence : UInt16) :
    sequenceOf (versionRequest sequence) = sequence := by
  rw [versionRequest, sequenceOf_load]
  exact le16_toUInt8 sequence

theorem versionRequest_header (sequence : UInt16) :
    messageTypeOf (versionRequest sequence) = prhpRequest ∧
      opcodeOf (versionRequest sequence) = prhpGetVersion ∧
      statusOf (versionRequest sequence) = 0 := by
  rw [versionRequest, messageTypeOf_load, opcodeOf_load, statusOf_load]
  exact ⟨rfl, rfl, rfl⟩

theorem isRequest_versionRequest
    {sequence : UInt16} (nonzero : sequence ≠ 0) :
    IsRequest (versionRequest sequence) := by
  refine ⟨(versionRequest_header sequence).1, ?_⟩
  rw [sequenceOf_versionRequest]
  exact nonzero

/-- The reader answers a version request with version 0.1. -/
theorem prhpDispatch_versionRequest
    {sequence : UInt16} (nonzero : sequence ≠ 0) :
    prhpDispatch (versionRequest sequence) =
      some (answer (versionRequest sequence)) := by
  rw [prhpDispatch_eq, if_pos (isRequest_versionRequest nonzero)]

theorem decodeGetVersionResponse_answer
    {sequence : UInt16} (nonzero : sequence ≠ 0) :
    decodeGetVersionResponse (answer (versionRequest sequence)).toList =
      .ok ⟨0, 1⟩ := by
  rcases versionRequest_header sequence with ⟨-, opcode, status⟩
  have success : statusFor (versionRequest sequence) = statusSuccess := by
    rw [statusFor, if_neg (not_not.mpr status), if_pos opcode]
    rfl
  have header :=
    decodeHeader_answer (isRequest_versionRequest nonzero)
  have named : opcodeOf (versionRequest sequence) = opcodeGetVersion :=
    opcode
  rw [success, named] at header
  have version : versionOf (answer (versionRequest sequence)) = (0, 1) := by
    rw [(answer_answers _).version, statusOf_answer, success]
    rfl
  rw [versionOf_eq] at version
  rcases Prod.mk.inj version with ⟨major, minor⟩
  rw [decodeGetVersionResponse, validateResponse, header]
  simp only [ne_eq, not_true, if_false]
  rw [major, minor]

/-! ## Handling a report -/

/-- Run the read loop until it waits for a report, at most `fuel` steps. -/
def settle : Nat → Session → Option Session
  | 0, session =>
      match session.loop with
      | .reading => some session
      | _ => none
  | fuel + 1, session =>
      match session.loop with
      | .reading => some session
      | _ => session.loopStep.bind (settle fuel)

/-- The read loop receives a report and handles it. -/
def handleReport (session : Session) (raw : List Byte) : Option Session :=
  (session.step (.read raw)).bind (settle 5)

def handleReports : Session → List (List Byte) → Option Session
  | session, [] => some session
  | session, raw :: rest =>
      (handleReport session raw).bind
        (fun next => handleReports next rest)

theorem handleReports_append
    (session : Session) (first second : List (List Byte)) :
    handleReports session (first ++ second) =
      (handleReports session first).bind
        (fun next => handleReports next second) := by
  induction first generalizing session with
  | nil => rfl
  | cons raw rest induction =>
      simp only [List.cons_append, handleReports, Option.bind_assoc,
        induction]

theorem settle_reading
    (fuel : Nat) {session : Session} (waiting : session.loop = .reading) :
    settle fuel session = some session := by
  cases fuel <;> rw [settle, waiting]

/-- The read loop continues after a `Consume`, whatever it returned. -/
theorem settle_returned
    (fuel : Nat) {session : Session} {outcome : Except ErrCode Unit}
    (returned : session.loop = .consuming (.returned outcome)) :
    settle (fuel + 1) session = some { session with loop := .reading } := by
  rw [settle, returned]
  simp only [Session.loopStep, returned, Option.bind_some]
  exact settle_reading fuel rfl

/-- One operation of `Consume` in the read loop. -/
theorem settle_step
    (fuel : Nat) {session : Session} {point after : Consuming}
    {caller : Caller} (consuming : session.loop = .consuming point)
    (taken : session.caller.consumeStep point = some (caller, after)) :
    settle (fuel + 1) session =
      settle fuel
        { session with caller := caller, loop := .consuming after } := by
  rw [settle, consuming]
  cases point with
  | finding sequence raw =>
      simp only [Session.loopStep, consuming, taken, Option.map_some,
        Option.bind_some]
  | claiming sequence target raw =>
      simp only [Session.loopStep, consuming, taken, Option.map_some,
        Option.bind_some]
  | removing sequence target raw =>
      simp only [Session.loopStep, consuming, taken, Option.map_some,
        Option.bind_some]
  | sending target raw =>
      simp only [Session.loopStep, consuming, taken, Option.map_some,
        Option.bind_some]
  | returned outcome => cases taken

/-- The read loop runs `Consume` to its end. -/
theorem settle_consuming
    (fuel : Nat) {session : Session} {point : Consuming}
    {caller : Caller} {outcome : Except ErrCode Unit}
    (consuming : session.loop = .consuming point)
    (consumed :
      runConsume fuel session.caller point = some (caller, outcome)) :
    settle (fuel + 1) session =
      some { session with caller := caller, loop := .reading } := by
  induction fuel generalizing session point with
  | zero =>
      rcases runConsume_cases consumed with
        ⟨rfl, rfl⟩ | ⟨less, next, after, short, -⟩
      · exact settle_returned 0 consuming
      · cases short
  | succ fuel induction =>
      rcases runConsume_cases consumed with
        ⟨rfl, rfl⟩ | ⟨less, next, after, same, taken, continued⟩
      · exact settle_returned (fuel + 1) consuming
      · cases same
        rw [settle_step (fuel + 1) consuming taken]
        exact induction rfl continued

/-- A card state leaves the calls alone. -/
theorem handleReport_publish
    {session : Session} (waiting : session.loop = .reading)
    (card : ReaderCard) :
    ∃ next,
      handleReport session (prhpPublishCardState card).toList =
          some next ∧
        next.loop = .reading ∧ next.caller = session.caller := by
  have read :
      session.step (.read (prhpPublishCardState card).toList) =
        some
          { session with
            loop := routePoint (prhpPublishCardState card).toList
            received :=
              session.received ++ [(prhpPublishCardState card).toList] } := by
    rw [Session.step, waiting]
  rw [handleReport, read, Option.bind_some]
  rcases routePoint_publish card with dropped | ⟨stored, accepted⟩
  · rw [dropped]
    exact ⟨_, rfl, rfl, rfl⟩
  · rw [accepted]
    exact ⟨_, rfl, rfl, rfl⟩

/-- The card states which the reader publishes for some observations. -/
def signals (cards : List ReaderCard) : List (List Byte) :=
  cards.map (fun card => (prhpPublishCardState card).toList)

theorem handleReports_signals
    {session : Session} (waiting : session.loop = .reading)
    (cards : List ReaderCard) :
    ∃ next,
      handleReports session (signals cards) = some next ∧
        next.loop = .reading ∧ next.caller = session.caller := by
  induction cards generalizing session with
  | nil => exact ⟨session, rfl, waiting, rfl⟩
  | cons card rest induction =>
      rcases handleReport_publish waiting card with
        ⟨middle, handled, reading, caller⟩
      rcases induction reading with ⟨next, continued, done, same⟩
      refine ⟨next, ?_, done, same.trans caller⟩
      rw [signals, List.map_cons, handleReports, handled,
        Option.bind_some]
      exact continued

/-- A response reaches the channel of its call. -/
theorem handleReport_response
    {session : Session} (waiting : session.loop = .reading)
    {raw : List Byte} {sequence : UInt16} {call : Nat}
    {pending : PendingCall}
    (routed : dispatch raw = .ok (.consume sequence))
    (member : (sequence, call) ∈ session.caller.calls.entries)
    (located : session.caller.pending[call]? = some pending)
    (unconsumed : pending.consumed = false)
    (empty : pending.response = []) :
    ∃ next, handleReport session raw = some next ∧
      next.loop = .reading ∧
      Delivered session.caller sequence call raw next.caller := by
  rcases
      consumeCall_present raw member located unconsumed empty with
    ⟨caller, consumed, delivered⟩
  have read :
      session.step (.read raw) =
        some
          { session with
            loop := .consuming (.finding sequence raw)
            received := session.received ++ [raw] } := by
    rw [Session.step, waiting, routePoint, routed]
  rw [handleReport, read, Option.bind_some]
  exact ⟨_, settle_consuming 4 rfl consumed, rfl, delivered⟩

/-- A response reaches the channel of its call among any card states. -/
theorem handleReports_response
    {session : Session} (waiting : session.loop = .reading)
    {raw : List Byte} {sequence : UInt16} {call : Nat}
    {pending : PendingCall}
    (routed : dispatch raw = .ok (.consume sequence))
    (member : (sequence, call) ∈ session.caller.calls.entries)
    (located : session.caller.pending[call]? = some pending)
    (unconsumed : pending.consumed = false)
    (empty : pending.response = []) (between after : List ReaderCard) :
    ∃ final,
      handleReports session (signals between ++ [raw] ++ signals after) =
          some final ∧
        channel final.caller call = some [raw] ∧
        ∀ other, other ≠ call →
          channel final.caller other = channel session.caller other := by
  rcases handleReports_signals waiting between with
    ⟨before, handled, reading, unchanged⟩
  rw [← unchanged] at member located
  rcases
      handleReport_response reading routed member located unconsumed
        empty with
    ⟨served, consumed, again, delivered⟩
  rcases handleReports_signals again after with
    ⟨final, finished, -, kept⟩
  refine ⟨final, ?_, ?_, ?_⟩
  · rw [handleReports_append, handleReports_append, handled,
      Option.bind_some, handleReports, consumed, Option.bind_some,
      handleReports, Option.bind_some]
    exact finished
  · rw [kept]
    exact delivered.target
  · intro other different
    rw [kept, channel, delivered.others other different, unchanged]
    rfl

/-! ## The handshake -/

/-- What `Allocate` leaves behind is found by its sequence. -/
theorem allocated_entry
    {caller next : Caller} {point : Allocating} {sequence : UInt16}
    {call : Nat}
    (allocated :
      caller.allocateStep point = some (next, .allocated sequence call)) :
    (sequence, call) ∈ next.calls.entries ∧
      next.pending[call]? = some ⟨sequence, [], false⟩ := by
  rcases Caller.allocateStep_cases allocated with
    ⟨number, calls, -, -, other⟩ | ⟨created, rfl, same⟩
  · exact (other sequence call rfl).elim
  · cases same
    refine ⟨?_, by simp⟩
    rw [Lru.add]
    exact List.mem_cons_self

/--
The reader answers the request with one response, which is delivered to its
channel and to no other, among any card states, and which the host accepts.

The card states `between` are read after the allocation and before the
response.  Those which were read earlier are part of the session.
-/
structure Handshake
    (session : Session) (sequence : UInt16) (call : Nat)
    (between after : List ReaderCard) (response : Report) : Prop where
  emitted : prhpDispatch (versionRequest sequence) = some response
  serviced : ∀ app iteration,
    iteration.message = some ⟨.hid, encodeGetVersion sequence⟩ →
      (serviceMessage app iteration).2 =
        [.prhp response (sendHid iteration.responseLink)]
  delivered : ∃ final,
    handleReports session
        (signals between ++ [response.toList] ++ signals after) =
        some final ∧
      channel final.caller call = some [response.toList] ∧
      ∀ other, other ≠ call →
        channel final.caller other = channel session.caller other
  decoded : decodeGetVersionResponse response.toList = .ok ⟨0, 1⟩
  verified : ∀ id, verifyPoint id response.toList = .storingInfo id

theorem serviceMessage_versionRequest
    {sequence : UInt16} (nonzero : sequence ≠ 0)
    {app : App} {iteration : Iteration}
    (received :
      iteration.message = some ⟨.hid, encodeGetVersion sequence⟩) :
    (serviceMessage app iteration).2 =
      [.prhp (answer (versionRequest sequence))
        (sendHid iteration.responseLink)] := by
  have length :
      (encodeGetVersion sequence).length = prhpReportSize := by
    simp [encodeGetVersion, newRequest, prhpReportSize]
  have answered := prhpDispatch_versionRequest nonzero
  rw [versionRequest] at answered
  simp only [serviceMessage, received, length, if_true, answered]
  rfl

/--
The handshake succeeds for every sequence which `Allocate` returns, in every
session whose read loop waits for a report, and every report which the reader
can send is accepted by the host as a response or as a signal.
-/
theorem version_handshake
    {session : Session} {point : Allocating} {caller : Caller}
    {sequence : UInt16} {call : Nat}
    (waiting : session.loop = .reading)
    (nonzero : sequence ≠ 0)
    (allocated :
      session.caller.allocateStep point =
        some (caller, .allocated sequence call))
    (between after : List ReaderCard) :
    (∃ response,
      Handshake { session with caller := caller } sequence call between
        after response) ∧
    (∀ request report, prhpDispatch request = some report →
      ∃ header, decodeHeader report.toList = .ok header ∧
        header.type = .response) ∧
    ∀ card, ∃ header,
      decodeHeader (prhpPublishCardState card).toList = .ok header ∧
        header.type = .signal := by
  refine ⟨⟨answer (versionRequest sequence), ?_⟩, ?_, ?_⟩
  · have decoded := decodeGetVersionResponse_answer nonzero
    refine ⟨prhpDispatch_versionRequest nonzero, ?_, ?_, decoded, ?_⟩
    · intro app iteration received
      exact serviceMessage_versionRequest nonzero received
    · rcases allocated_entry allocated with ⟨member, located⟩
      have routed := dispatch_answer (isRequest_versionRequest nonzero)
      rw [sequenceOf_versionRequest] at routed
      exact
        @handleReports_response { session with caller := caller } waiting
          _ _ _ _ routed member located rfl rfl between after
    · intro id
      rw [verifyPoint, decoded]
      rfl
  · intro request report sent
    exact decodeHeader_prhpDispatch sent
  · intro card
    exact ⟨_, decodeHeader_of_cardStateReport
      (cardStateReport_publish card), rfl⟩

/-- The first call of a new session, with a card state on either side. -/
theorem version_handshake_first :
    ∃ response,
      Handshake
        { newSession with
          caller :=
            { newCaller with
              calls := newCaller.calls.add 1 0
              pending := [⟨1, [], false⟩] } }
        1 0 [felicaCard (zeros 8)] [ReaderCard.zero] response :=
  (version_handshake rfl (by decide)
    (rfl :
      newSession.caller.allocateStep (.adding 1) =
        some
          ({ newCaller with
              calls := newCaller.calls.add 1 0
              pending := [⟨1, [], false⟩] },
            .allocated 1 0))
    [felicaCard (zeros 8)] [ReaderCard.zero]).1

end Pareader.System.VersionHandshake
