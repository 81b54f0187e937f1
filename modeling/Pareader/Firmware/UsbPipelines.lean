import Pareader.Firmware.Independence
import Pareader.Firmware.PrhpConformance
import Pareader.Firmware.UsbDevice

/-!
# From the USB host and back

The messages which the loop services determine what it hands to the two ports on
which it answers.  On the CDC port these are the replies which the dispatcher
computes for the requests in the serviced octets, one request after another and
each in the reader state which it meets.  On the PRHP interface they are the
answers to those serviced reports which are requests.

Both statements hold of every interleaving, whether or not messages were lost.
Where nothing was lost they speak about what the host has sent.
-/

namespace Pareader.Firmware.UsbPipelines

open Pareader.Core
open Pareader.Firmware.Pn532
open Pareader.Firmware.Reader
open Pareader.Firmware.Hid
open Pareader.Firmware.SegaFraming
open Pareader.Firmware.SegaDispatch
open Pareader.Firmware.AppMain
open Pareader.Firmware.Independence
open Pareader.Firmware.UsbDevice

/-! ## Replies to one request -/

/-- A request with the reader and the controller which it meets. -/
structure Served where
  request : List Byte
  reader : ReaderState
  world : Pn532World

/-- The frames which `dispatch` sends there. -/
def Served.frames (served : Served) : List (List Byte) :=
  ((dispatch served.reader served.request).run served.world).2

/--
What replies to a request look like, before escaping: at most one, with its
address, sequence and command.  Only a FeliCa exchange decides about its reply
by what the controller answers.
-/
structure ReplyForm (request : List Byte) (replies : List (List Byte)) :
    Prop where
  atMostOne : replies.length ≤ 1
  echoes : ∀ reply ∈ replies,
    Framed reply ∧
      byteAt reply 1 = byteAt request 1 ∧
      byteAt reply 2 = byteAt request 2 ∧
      byteAt reply 3 = byteAt request 3
  nfc : Accepted request → byteAt request 1 = sgAddressNfc →
    byteAt request 3 ≠ SgNfc.felicaEncap.code → replies ≠ []
  led : Accepted request → byteAt request 1 = sgAddressLed →
    (replies = [] ↔ byteAt request 3 = sgLedSetColor)
  silent : ¬ Accepted request ∨
    (byteAt request 1 ≠ sgAddressNfc ∧ byteAt request 1 ≠ sgAddressLed) →
      replies = []

/-- The replies which `dispatch` computes, with status and payload. -/
structure Replies (served : Served) (replies : List (List Byte)) : Prop
    extends ReplyForm served.request replies where
  frames : served.frames = replies.map encodeFrame

/-- The frames of replies in this form. -/
def RepliesIn (request : List Byte) (frames : List (List Byte)) : Prop :=
  ∃ replies, ReplyForm request replies ∧ frames = replies.map encodeFrame

theorem repliesIn_of_repliedOnce
    {request : List Byte} {frames : List (List Byte)}
    (accepted : Accepted request) (once : RepliedOnce request frames)
    (other : byteAt request 1 = sgAddressNfc ∨
      byteAt request 1 = sgAddressLed ∧ byteAt request 3 ≠ sgLedSetColor) :
    RepliesIn request frames := by
  rcases once with ⟨frame, rfl, reply, rfl, framed, echoed⟩
  refine ⟨[reply], ⟨Nat.le_refl 1, ?_, ?_, ?_, ?_⟩, rfl⟩
  · intro member only
    rw [List.mem_singleton.mp only]
    exact ⟨framed, echoed⟩
  · exact fun _ _ _ => List.cons_ne_nil _ _
  · intro _ led
    rcases other with nfc | ⟨-, different⟩
    · rw [led] at nfc
      exact absurd nfc (by decide)
    · exact iff_of_false (List.cons_ne_nil _ _) different
  · rintro (refused | ⟨notNfc, notLed⟩)
    · exact (refused accepted).elim
    · rcases other with nfc | ⟨led, -⟩
      · exact (notNfc nfc).elim
      · exact (notLed led).elim

theorem repliesIn_nil
    {request : List Byte}
    (excused : Accepted request → byteAt request 1 = sgAddressNfc →
      byteAt request 3 = SgNfc.felicaEncap.code)
    (color : Accepted request → byteAt request 1 = sgAddressLed →
      byteAt request 3 = sgLedSetColor) :
    RepliesIn request [] := by
  refine ⟨[], ⟨Nat.zero_le 1, List.forall_mem_nil _, ?_, ?_, ?_⟩, rfl⟩
  · intro accepted nfc other
    exact (other (excused accepted nfc)).elim
  · intro accepted led
    exact iff_of_true rfl (color accepted led)
  · exact fun _ => rfl

/-- Data is sent once, or it is too long and not sent at all. -/
theorem sendData_cases
    (request : List Byte) (outcome : EspResult (List Byte)) :
    sendData request outcome = [] ∨
      RepliedOnce request (sendData request outcome) := by
  by_cases small : OnSuccess (fun payload => payload.length ≤ 249) outcome
  · exact Or.inr ((sendData_repliedOnce_iff request outcome).mpr small)
  · cases outcome with
    | error failure => exact (small trivial).elim
    | ok payload =>
        have large : 249 < payload.length := Nat.lt_of_not_le small
        exact Or.inl (sendResponse_silent request 0 large)

/-- A FeliCa exchange is answered at most once. -/
theorem dispatchNfc_felicaEncap
    (reader : ReaderState) (request payload : List Byte)
    (encap : byteAt request 3 = SgNfc.felicaEncap.code) :
    (dispatchNfc reader request payload).Always (fun result =>
      result.2 = [] ∨ RepliedOnce request result.2) := by
  have known :
      SgNfc.ofCode (byteAt request 3) = some .felicaEncap :=
    (SgNfc.ofCode_eq_some_iff _ _).mpr encap
  unfold dispatchNfc
  simp only [known]
  cases felicaRequest payload with
  | none =>
      exact Or.inr (sendStatus_repliedOnce request (.error .invalidSize))
  | some forwarded =>
      refine Interaction.Always.after ?_
      intro outcome
      exact sendData_cases request outcome

theorem dispatch_repliesIn (reader : ReaderState) (request : List Byte) :
    (dispatch reader request).Always (fun result =>
      RepliesIn request result.2) := by
  have distinct : sgAddressNfc ≠ sgAddressLed := by decide
  unfold dispatch
  split
  · rename_i refused
    exact repliesIn_nil (fun accepted => (refused accepted).elim)
      (fun accepted => (refused accepted).elim)
  rename_i accepted
  rw [not_not] at accepted
  split
  · rename_i nfc
    by_cases encap : byteAt request 3 = SgNfc.felicaEncap.code
    · refine (dispatchNfc_felicaEncap reader request _ encap).mono ?_
      rintro ⟨next, frames⟩ (rfl | once)
      · refine repliesIn_nil (fun _ _ => encap) ?_
        intro _ led
        exact (distinct (nfc.symm.trans led)).elim
      · exact repliesIn_of_repliedOnce accepted once (Or.inl nfc)
    · refine (dispatchNfc_repliedOnce reader request _ encap).mono ?_
      rintro ⟨next, frames⟩ once
      exact repliesIn_of_repliedOnce accepted once (Or.inl nfc)
  · rename_i notNfc
    split
    · rename_i led
      by_cases color : byteAt request 3 = sgLedSetColor
      · have silent : dispatchLed request = [] := by
          rw [dispatchLed, if_pos color]
        rw [silent]
        exact repliesIn_nil (fun _ nfc => (notNfc nfc).elim)
          (fun _ _ => color)
      · exact repliesIn_of_repliedOnce accepted
          (dispatchLed_repliedOnce request color) (Or.inr ⟨led, color⟩)
    · rename_i notLed
      exact repliesIn_nil (fun _ nfc => (notNfc nfc).elim)
        (fun _ led => (notLed led).elim)

theorem exists_replies (served : Served) :
    ∃ replies, Replies served replies := by
  rcases (dispatch_repliesIn served.reader served.request).run
      served.world with
    ⟨replies, form, sent⟩
  exact ⟨replies, form, sent⟩

/-! ## Replies to a stream of requests -/

/-- Requests which are dispatched one after another. -/
def servedBy (reader : ReaderState) (world : Pn532World) :
    List (List Byte) → List Served
  | [] => []
  | request :: rest =>
      ⟨request, reader, world⟩ ::
        servedBy ((dispatch reader request).run world).1
          (world.drop ((dispatch reader request).transcript world).length)
          rest

theorem servedBy_request
    (reader : ReaderState) (world : Pn532World)
    (requests : List (List Byte)) :
    (servedBy reader world requests).map Served.request = requests := by
  induction requests generalizing reader world with
  | nil => rfl
  | cons request rest induction =>
      exact congrArg (request :: ·) (induction _ _)

/-- One request, and then the others where it has left off. -/
theorem dispatchAll_run
    (reader : ReaderState) (request : List Byte)
    (rest : List (List Byte)) (world : Pn532World) :
    (dispatchAll reader (request :: rest)).run world =
      let first := (dispatch reader request).run world
      let others :=
        (dispatchAll first.1 rest).run
          (world.drop ((dispatch reader request).transcript world).length)
      (others.1, first.2 ++ others.2) := by
  rw [dispatchAll, Interaction.run_bind]
  exact Interaction.run_bind_done _ _ _

theorem dispatchAll_transcript
    (reader : ReaderState) (request : List Byte)
    (rest : List (List Byte)) (world : Pn532World) :
    (dispatchAll reader (request :: rest)).transcript world =
      (dispatch reader request).transcript world ++
        (dispatchAll ((dispatch reader request).run world).1
          rest).transcript
          (world.drop
            ((dispatch reader request).transcript world).length) := by
  rw [dispatchAll, Interaction.transcript_bind]
  exact congrArg _ (Interaction.transcript_bind_done _ _ _)

theorem dispatchAll_frames
    (reader : ReaderState) (requests : List (List Byte))
    (world : Pn532World) :
    ((dispatchAll reader requests).run world).2 =
      (servedBy reader world requests).flatMap Served.frames := by
  induction requests generalizing reader world with
  | nil => rfl
  | cons request rest induction =>
      rw [dispatchAll_run, servedBy, List.flatMap_cons, ← induction]
      rfl

/-- The second part starts where the first one has left off. -/
theorem servedBy_append
    (reader : ReaderState) (world : Pn532World)
    (first second : List (List Byte)) :
    servedBy reader world (first ++ second) =
      servedBy reader world first ++
        servedBy ((dispatchAll reader first).run world).1
          (world.drop
            ((dispatchAll reader first).transcript world).length)
          second := by
  induction first generalizing reader world with
  | nil => rfl
  | cons request rest induction =>
      rw [List.cons_append, servedBy, induction, servedBy,
        dispatchAll_run, dispatchAll_transcript, List.length_append,
        Interaction.World.drop_drop, List.cons_append]

theorem segaReceive_frames
    (parser : SgParser) (reader : ReaderState) (data : List Byte)
    (world : Pn532World) :
    ((segaReceive parser reader data).run world).2 =
      (servedBy reader world (segaParser.run parser data).2).flatMap
        Served.frames := by
  induction data generalizing parser reader world with
  | nil => rfl
  | cons byte rest induction =>
      rw [segaReceive, Interaction.run_bind, Transducer.run_cons,
        servedBy_append, List.flatMap_append, ← dispatchAll_frames]
      refine Eq.trans
        (congrArg Prod.snd (Interaction.run_bind_done _ _ _)) ?_
      exact congrArg _ (induction _ _ _)

/--
The requests of a run of the loop: each one where `sega_receive` dispatches it,
with the variables which earlier requests and scans have left.
-/
def servedIn (app : App) : List Iteration → List Served
  | [] => []
  | iteration :: rest =>
      servedBy app.reader iteration.messageWorld
          (segaParser.run app.parser iteration.cdcData).2 ++
        servedIn (iterate app iteration).1 rest

/-! ## The CDC port of the loop -/

/-- A frame handed to the CDC port. -/
def cdcFrame : Output → Option (List Byte)
  | .prhp _ _ => none
  | .cardio _ _ _ => none
  | .cdc frame => some frame

theorem publish_cdcFrame (card : ReaderCard) (iteration : Iteration) :
    (publish card iteration).filterMap cdcFrame = [] := by
  simp [publish, cdcFrame]

theorem serviceMessage_frames (app : App) (iteration : Iteration) :
    (serviceMessage app iteration).2.filterMap cdcFrame =
      (servedBy app.reader iteration.messageWorld
        (segaParser.run app.parser iteration.cdcData).2).flatMap
          Served.frames := by
  unfold serviceMessage Iteration.cdcData
  cases iteration.message with
  | none => rfl
  | some message =>
      rcases message with ⟨_ | _, data⟩
      · dsimp only
        split
        · cases prhpDispatch (load 64 data 0) with
          | none => rfl
          | some report => rfl
        · rfl
      · have framed : cdcFrame ∘ Output.cdc = some := rfl
        dsimp only
        rw [List.filterMap_map, framed, List.filterMap_some]
        exact segaReceive_frames _ _ _ _

/-- An iteration parses the octets of its message, and replies to them. -/
theorem iterate_frames (app : App) (iteration : Iteration) :
    (iterate app iteration).1.parser =
        (segaParser.run app.parser iteration.cdcData).1 ∧
      (iterate app iteration).2.filterMap cdcFrame =
        (servedBy app.reader iteration.messageWorld
          (segaParser.run app.parser iteration.cdcData).2).flatMap
            Served.frames := by
  have parsed := serviceMessage_parses app iteration
  have replied := serviceMessage_frames app iteration
  unfold iterate
  dsimp only
  split
  · exact ⟨parsed, replied⟩
  · let scanning : App :=
      { (serviceMessage app iteration).1 with
        nextScan := iteration.now + cardScanIntervalUs }
    have quiet : (scan scanning iteration).2.filterMap cdcFrame = [] := by
      rw [(scan_effect scanning iteration).2]
      rcases Option.filter _ _ with _ | card
      · rfl
      · exact publish_cdcFrame card iteration
    rw [List.filterMap_append, quiet, List.append_nil]
    exact ⟨(scan_frame scanning iteration).2.1.trans parsed, replied⟩

/-- Run lemma: the frames are those of the requests, in order. -/
theorem run_frames (app : App) (iterations : List Iteration) :
    (appMain.run app iterations).2.filterMap cdcFrame =
      (servedIn app iterations).flatMap Served.frames := by
  induction iterations generalizing app with
  | nil => rfl
  | cons iteration rest induction =>
      rw [servedIn, List.flatMap_append, ← (iterate_frames app iteration).2,
        ← induction, Transducer.run_cons, List.filterMap_append]
      rfl

/-- Run lemma: the requests are those in the octets of the iterations. -/
theorem servedIn_request (app : App) (iterations : List Iteration) :
    (servedIn app iterations).map Served.request =
      (segaParser.run app.parser
        (iterations.flatMap Iteration.cdcData)).2 := by
  induction iterations generalizing app with
  | nil => rfl
  | cons iteration rest induction =>
      rw [servedIn, List.map_append, servedBy_request, induction,
        (iterate_frames app iteration).1, List.flatMap_cons,
        Transducer.run_append]

theorem exists_allReplies (served : List Served) :
    ∃ replies : List (List (List Byte)),
      List.Forall₂ Replies served replies ∧
        served.flatMap Served.frames =
          replies.flatten.map encodeFrame := by
  induction served with
  | nil => exact ⟨[], .nil, rfl⟩
  | cons first rest induction =>
      rcases exists_replies first with ⟨replies, computed⟩
      rcases induction with ⟨others, matched, sent⟩
      refine ⟨replies :: others, .cons computed matched, ?_⟩
      rw [List.flatMap_cons, computed.frames, sent, List.flatten_cons,
        List.map_append]

/-- A host which speaks the same framing reads the replies back. -/
theorem run_replies
    {served : List Served} {replies : List (List (List Byte))}
    (matched : List.Forall₂ Replies served replies) :
    segaParser.run segaInit (replies.flatten.map encodeFrame).flatten =
      (resetParser, replies.flatten) := by
  have framed : ∀ reply ∈ replies.flatten, Framed reply := by
    intro reply member
    induction matched with
    | nil => cases member
    | @cons first replies rest others computed _ induction =>
        rw [List.flatten_cons, List.mem_append] at member
        rcases member with here | later
        · exact (computed.echoes reply here).1
        · exact induction later
  generalize replies.flatten = decoded at framed
  induction decoded with
  | nil => rfl
  | cons reply rest induction =>
      rcases List.forall_mem_cons.mp framed with ⟨head, tail⟩
      have others := induction tail
      rw [List.map_cons, List.flatten_cons, Transducer.run_append,
        run_encodeFrame rfl head]
      exact congrArg
        (fun run : SgParser × List (List Byte) =>
          (run.1, reply :: run.2)) others

/-- The octets of the iterations are those of the messages they serviced. -/
theorem cdcData_serviced (iterations : List Iteration) :
    iterations.flatMap Iteration.cdcData =
      (iterations.filterMap Iteration.message).flatMap cdcOctets := by
  induction iterations with
  | nil => rfl
  | cons iteration rest induction =>
      rw [List.flatMap_cons, induction]
      cases known : iteration.message with
      | none =>
          rw [List.filterMap_cons_none known, Iteration.cdcData, known]
          rfl
      | some message =>
          rw [List.filterMap_cons_some known, List.flatMap_cons,
            Iteration.cdcData, known]
          rcases message with ⟨_ | _, data⟩ <;> rfl

/-- Nothing which was sent is still on its way. -/
structure Drained (device : Device) : Prop where
  passed : device.passed = device.serviced
  rx : device.rx = []

theorem run_requests
    {requests : List (List Byte)}
    (framed : ∀ request ∈ requests, Framed request) :
    segaParser.run segaInit (requests.map encodeFrame).flatten =
      (resetParser, requests) := by
  induction requests with
  | nil => rfl
  | cons request rest induction =>
      rcases List.forall_mem_cons.mp framed with ⟨head, tail⟩
      have others := induction tail
      rw [List.map_cons, List.flatten_cons, Transducer.run_append,
        run_encodeFrame rfl head]
      exact congrArg
        (fun run : SgParser × List (List Byte) =>
          (run.1, request :: run.2)) others

/--
For every interleaving, what the loop hands to the CDC port are the replies
which `dispatch` computes, in order, to the requests in the octets which it has
serviced, and a host decodes exactly these replies from it.  Once everything
which the host has sent is serviced without a loss, these requests are the ones
which the host has framed.
-/
theorem sega_pipeline
    (device : Device) (reached : usbMachine.Reachable device) :
    let served := servedIn appStart device.iterations
    served.map Served.request =
        (segaParser.run segaInit
          (device.serviced.flatMap cdcOctets)).2 ∧
    (∃ replies : List (List (List Byte)),
      List.Forall₂ Replies served replies ∧
      device.outputs.filterMap cdcFrame =
        replies.flatten.map encodeFrame ∧
      segaParser.run segaInit
          (device.outputs.filterMap cdcFrame).flatten =
        (resetParser, replies.flatten)) ∧
    ∀ requests : List (List Byte),
      (∀ request ∈ requests, Framed request) →
      device.arrived = (requests.map encodeFrame).flatten →
      device.NothingLost → Drained device →
        served.map Served.request = requests := by
  have consistent := consistent_of_reachable reached
  have parsed := servedIn_request appStart device.iterations
  rw [cdcData_serviced] at parsed
  refine ⟨parsed, ?_, ?_⟩
  · rcases exists_allReplies (servedIn appStart device.iterations) with
      ⟨replies, matched, sent⟩
    have handed : device.outputs.filterMap cdcFrame =
        replies.flatten.map encodeFrame := by
      rw [consistent.outputs]
      exact (run_frames appStart device.iterations).trans sent
    refine ⟨replies, matched, handed, ?_⟩
    rw [handed]
    exact run_replies matched
  · intro requests framed arrived complete drained
    have octets := complete.octets
    rw [drained.passed, drained.rx, List.append_nil, arrived] at octets
    have found := run_requests framed
    rw [← octets] at found
    exact parsed.trans (congrArg Prod.snd found)

/-- Everything arrived and was serviced, in a form which can be run. -/
def settled (device : Device) : Bool :=
  decide (device.serviced.filterMap hidData = device.reports) &&
    decide (device.serviced.flatMap cdcOctets = device.arrived) &&
    decide (device.passed = device.serviced) && decide (device.rx = [])

theorem settled_complete
    {device : Device} (complete : settled device = true) :
    device.NothingLost ∧ Drained device := by
  simp only [settled, Bool.and_eq_true, decide_eq_true_eq] at complete
  rcases complete with ⟨⟨⟨reports, octets⟩, passed⟩, rx⟩
  refine ⟨⟨?_, ?_⟩, ⟨passed, rx⟩⟩
  · rw [passed, reports]
  · rw [passed, octets, rx, List.append_nil]

/-- A request for the firmware version. -/
def versionRequest : List Byte :=
  [0x05, 0x00, 0x01, 0x30, 0x00]

/-- Its reply has status 0 and one octet of payload. -/
def versionReply : List Byte :=
  [0x07, 0x00, 0x01, 0x30, 0x00, 0x01, 0x94]

/-- The version is the same for every reader and every controller. -/
theorem frames_versionRequest
    {served : Served} (asked : served.request = versionRequest) :
    served.frames = [encodeFrame versionReply] := by
  rw [Served.frames, asked]
  rfl

theorem sega_pipeline_version :
    ∃ device, usbMachine.Reachable device ∧
      device.arrived = encodeFrame versionRequest ∧
      device.outputs.filterMap cdcFrame = [encodeFrame versionReply] ∧
      segaParser.run segaInit
          (device.outputs.filterMap cdcFrame).flatten =
        (resetParser, [versionReply]) := by
  rcases
      usbMachine.exists_reachable_of_replay
        (fun device => settled device &&
          decide (device.arrived = encodeFrame versionRequest))
        (startsUp ++
          [.cdcArrives (encodeFrame versionRequest),
            .cdcReceive (.ok 64)] ++ iterates)
        (by decide +kernel) with
    ⟨device, reached, passed⟩
  simp only [Bool.and_eq_true, decide_eq_true_eq] at passed
  rcases passed with ⟨complete, arrived⟩
  rcases settled_complete complete with ⟨nothingLost, drained⟩
  rcases sega_pipeline device reached with
    ⟨-, ⟨replies, matched, handed, -⟩, framed⟩
  have requests := framed [versionRequest] (by decide)
    (by simpa using arrived) nothingLost drained
  generalize servedIn appStart device.iterations = served
    at matched requests
  rcases List.map_eq_singleton_iff.mp requests with ⟨only, rfl, asked⟩
  rcases List.forall₂_cons_left_iff.mp matched with
    ⟨reply, none, computed, rest, rfl⟩
  rw [List.forall₂_nil_left_iff.mp rest, List.flatten_singleton,
    ← computed.frames, frames_versionRequest asked] at handed
  refine ⟨device, reached, arrived, handed, ?_⟩
  rw [handed, List.flatten_singleton]
  exact run_encodeFrame rfl (by decide)

/-! ## The PRHP interface of the loop -/

/-- A report which the dispatcher hands to the PRHP endpoint. -/
def prhpReply : Output → Option Report
  | .prhp report _ => if isCardState report then none else some report
  | .cardio _ _ _ => none
  | .cdc _ => none

/-- The request in an output report, if it is one. -/
def requestIn (data : List Byte) : Option Report :=
  if PrhpConformance.IsRequest (load 64 data 0) then
    some (load 64 data 0)
  else
    none

theorem publish_prhpReply (card : ReaderCard) (iteration : Iteration) :
    (publish card iteration).filterMap prhpReply = [] := by
  simp [publish, prhpReply]

/-- The requests in some messages. -/
def requestsIn (messages : List UsbMessage) : List Report :=
  (messages.filterMap hidData).filterMap requestIn

theorem answer_requestIn (data : List Byte) :
    (requestIn data).map PrhpConformance.answer =
      prhpDispatch (load 64 data 0) := by
  rw [PrhpConformance.prhpDispatch_eq, requestIn]
  split <;> rfl

theorem serviceMessage_prhpReply (app : App) (iteration : Iteration)
    (wellFormed : ∀ message ∈ iteration.message.toList,
      WellFormed message) :
    (serviceMessage app iteration).2.filterMap prhpReply =
      (requestsIn iteration.message.toList).map PrhpConformance.answer := by
  unfold serviceMessage
  cases known : iteration.message with
  | none => rfl
  | some message =>
      rcases message with ⟨_ | _, data⟩
      · have sized : data.length = prhpReportSize :=
          wellFormed ⟨.hid, data⟩ (by simp [known])
        have listed : requestsIn (some ⟨.hid, data⟩ : Option _).toList =
            (requestIn data).toList := by
          cases held : requestIn data <;>
            simp [requestsIn, hidData, held]
        have answered : (requestIn data).toList.map PrhpConformance.answer =
            (prhpDispatch (load 64 data 0)).toList := by
          rw [← answer_requestIn]
          cases requestIn data <;> rfl
        rw [listed, answered]
        dsimp only
        rw [if_pos sized]
        cases sent : prhpDispatch (load 64 data 0) with
        | none => rfl
        | some report => simp [prhpReply, isCardState_dispatch sent]
      · have framed : prhpReply ∘ Output.cdc = fun _ => none := rfl
        dsimp only
        rw [List.filterMap_map, framed]
        simp [requestsIn, hidData]

theorem iterate_prhpReply (app : App) (iteration : Iteration)
    (wellFormed : ∀ message ∈ iteration.message.toList,
      WellFormed message) :
    (iterate app iteration).2.filterMap prhpReply =
      (requestsIn iteration.message.toList).map PrhpConformance.answer := by
  have replied := serviceMessage_prhpReply app iteration wellFormed
  unfold iterate
  dsimp only
  split
  · exact replied
  · let scanning : App :=
      { (serviceMessage app iteration).1 with
        nextScan := iteration.now + cardScanIntervalUs }
    have quiet : (scan scanning iteration).2.filterMap prhpReply = [] := by
      rw [(scan_effect scanning iteration).2]
      rcases Option.filter _ _ with _ | card
      · rfl
      · exact publish_prhpReply card iteration
    rw [List.filterMap_append, quiet, List.append_nil]
    exact replied

theorem requestsIn_append (first second : List UsbMessage) :
    requestsIn (first ++ second) = requestsIn first ++ requestsIn second := by
  simp [requestsIn]

theorem run_prhpReply (app : App) (iterations : List Iteration)
    (wellFormed : ∀ message ∈ iterations.filterMap Iteration.message,
      WellFormed message) :
    (appMain.run app iterations).2.filterMap prhpReply =
      (requestsIn (iterations.filterMap Iteration.message)).map
        PrhpConformance.answer := by
  induction iterations generalizing app with
  | nil => rfl
  | cons iteration rest induction =>
      have split :
          (iteration :: rest).filterMap Iteration.message =
            iteration.message.toList ++
              rest.filterMap Iteration.message := by
        cases known : iteration.message <;> simp [known]
      rw [split] at wellFormed ⊢
      rcases List.forall_mem_append.mp wellFormed with ⟨head, tail⟩
      rw [Transducer.run_cons, List.filterMap_append, requestsIn_append,
        List.map_append, ← induction (iterate app iteration).1 tail]
      exact congrArg (· ++ _) (iterate_prhpReply app iteration head)

theorem serviced_offered
    {device : Device} (reached : usbMachine.Reachable device) :
    device.serviced.Sublist device.queue.offered := by
  apply List.Sublist.trans ?_ device.queue.selected
  rw [(consistent_of_reachable reached).admitted, Device.passed,
    List.append_assoc]
  exact List.sublist_append_left _ _

/-- The loop answers the requests which it has serviced. -/
theorem prhpReply_of_reachable
    {device : Device} (reached : usbMachine.Reachable device) :
    device.outputs.filterMap prhpReply =
      (requestsIn device.serviced).map PrhpConformance.answer := by
  have consistent := consistent_of_reachable reached
  rw [consistent.outputs]
  apply run_prhpReply
  intro message member
  exact consistent.wellFormed message
    ((serviced_offered reached).subset member)

/-- What the loop has serviced are requests which the host has sent. -/
theorem requestsIn_sublist
    {device : Device} (reached : usbMachine.Reachable device) :
    (requestsIn device.serviced).Sublist
      (device.reports.filterMap requestIn) := by
  rw [← (consistent_of_reachable reached).reports]
  exact ((serviced_offered reached).filterMap hidData).filterMap requestIn

/-- With nothing lost and nothing on its way, these are all requests. -/
theorem requestsIn_complete
    {device : Device} (complete : device.NothingLost)
    (drained : Drained device) :
    requestsIn device.serviced = device.reports.filterMap requestIn := by
  rw [← complete.reports, drained.passed, requestsIn]

/--
For every interleaving, what the loop hands to the PRHP endpoint besides card
states are the answers, in order, to the requests among the reports which it has
serviced.  These are a selection in order of the reports of the host, each
answered once and with its sequence, and all of them once everything is serviced
without a loss.
-/
theorem prhp_pipeline
    (device : Device) (reached : usbMachine.Reachable device) :
    device.outputs.filterMap prhpReply =
      (requestsIn device.serviced).map PrhpConformance.answer ∧
    (requestsIn device.serviced).Sublist
      (device.reports.filterMap requestIn) ∧
    ((device.outputs.filterMap prhpReply).map sequenceOf).Sublist
      ((device.reports.filterMap requestIn).map sequenceOf) ∧
    (device.NothingLost → Drained device →
      device.outputs.filterMap prhpReply =
        (device.reports.filterMap requestIn).map
          PrhpConformance.answer) := by
  have answered := prhpReply_of_reachable reached
  have chosen := requestsIn_sublist reached
  have echoed : ∀ requests : List Report,
      (requests.map PrhpConformance.answer).map sequenceOf =
        requests.map sequenceOf := by
    intro requests
    rw [List.map_map]
    apply List.map_congr_left
    intro request _
    exact (PrhpConformance.answer_answers request).sequence
  refine ⟨answered, chosen, ?_, ?_⟩
  · rw [answered, echoed]
    exact chosen.map sequenceOf
  · intro complete drained
    rw [answered, requestsIn_complete complete drained]

theorem prhp_pipeline_queried :
    ∃ device, usbMachine.Reachable device ∧
      device.reports.length = 1 ∧
      device.outputs.filterMap prhpReply =
        (device.reports.filterMap requestIn).map
          PrhpConformance.answer := by
  rcases
      usbMachine.exists_reachable_of_replay
        (fun device => settled device &&
          decide (device.reports.length = 1))
        (startsUp ++ queries :: iterates) (by decide +kernel) with
    ⟨device, reached, passed⟩
  simp only [Bool.and_eq_true, decide_eq_true_eq] at passed
  rcases passed with ⟨complete, sent⟩
  rcases settled_complete complete with ⟨nothingLost, drained⟩
  exact ⟨device, reached, sent,
    (prhp_pipeline device reached).2.2.2 nothingLost drained⟩

end Pareader.Firmware.UsbPipelines
