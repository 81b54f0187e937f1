import Pareader.Firmware.ReaderRuns

/-!
# SEGA sessions

A SEGA session interleaves accepted requests with the periodic scans of the
main loop.  A request makes at most one call of the reader interface, and the
reader cannot tell a scan made for `POLL` from a periodic one.  The runs of a
session, and those of the main loop, are therefore runs of the reader
interface, and what was shown of these holds of both.

The last section follows one of the shared variables through such runs, the
FeliCa system code which every scan may toggle.
-/

namespace Pareader.Firmware.SegaSessions

open Pareader.Core
open Pareader.Firmware.Pn532
open Pareader.Firmware.Pn532Codec
open Pareader.Firmware.Reader
open Pareader.Firmware.SegaFraming
open Pareader.Firmware.SegaDispatch
open Pareader.Firmware.AppMain
open Pareader.Firmware.Scan
open Pareader.Firmware.ReaderRuns

/-! ## The reader call of a request -/

/-- The reader call which an NFC command makes, if its payload is well sized. -/
def nfcCall (payload : List Byte) : SgNfc → Option ReaderCall
  | .radioOn => some (.radioSet true)
  | .radioOff => some (.radioSet false)
  | .poll => some .readCard
  | .mifareSelectTag =>
      if payload.length ≠ 4 then none
      else some (.mifareSelect (load 4 payload 0))
  | .mifareSetKeyAime =>
      if payload.length ≠ 6 then none
      else some (.mifareSetKey readerKeyAime (load 6 payload 0))
  | .mifareSetKeyBana =>
      if payload.length ≠ 6 then none
      else some (.mifareSetKey readerKeyBana (load 6 payload 0))
  | .mifareAuthenticateAime => some (.mifareAuthenticate readerKeyAime)
  | .mifareAuthenticateBana => some (.mifareAuthenticate readerKeyBana)
  | .mifareReadBlock =>
      if payload.length ≠ 5 then none
      else some (.mifareReadBlock (load 4 payload 0) (byteAt payload 4))
  | .felicaEncap =>
      (felicaRequest payload).map
        (fun forwarded => .felicaTransact forwarded 250)
  | _ => none

/-- The reader call which a framed request makes. -/
def requestCall (request : List Byte) : Option ReaderCall :=
  if Accepted request ∧ byteAt request 1 = sgAddressNfc then
    (SgNfc.ofCode (byteAt request 3)).bind
      (nfcCall (requestPayload request))
  else
    none

/-- The program of a call which may be absent. -/
def callProgram (reader : ReaderState) :
    Option ReaderCall → Driver (EspResult Answer × ReaderState)
  | none => .done (.ok .done, reader)
  | some call => call.program reader

/-- A handler leaves the reader as its call does. -/
def SameReader (sent : ReaderState × List (List Byte))
    (called : EspResult Answer × ReaderState) : Prop :=
  sent.1 = called.2

/-- A handler which makes one call and then replies. -/
theorem matches_of_reply
    {α : Type} (call : Driver α)
    {reply : α → ReaderState × List (List Byte)}
    {answer : α → EspResult Answer × ReaderState}
    (same : ∀ result, SameReader (reply result) (answer result)) :
    Interaction.Matches SameReader
      (call >>= fun result => .done (reply result))
      (call >>= fun result => .done (answer result)) := by
  refine Interaction.Matches.bind
    (Interaction.Matches.refl (fun _ => rfl) call) ?_
  rintro result _ rfl
  exact same result

theorem dispatchNfc_matches
    (reader : ReaderState) (request payload : List Byte) :
    Interaction.Matches SameReader
      (dispatchNfc reader request payload)
      (callProgram reader
        ((SgNfc.ofCode (byteAt request 3)).bind (nfcCall payload))) := by
  unfold dispatchNfc
  cases SgNfc.ofCode (byteAt request 3) with
  | none => exact rfl
  | some command =>
      cases command with
      | radioOn => exact matches_of_reply _ (fun _ => rfl)
      | radioOff => exact matches_of_reply _ (fun _ => rfl)
      | poll => exact matches_of_reply _ (fun _ => rfl)
      | mifareSelectTag =>
          simp only [Option.bind_some, nfcCall]
          split <;> rfl
      | mifareSetKeyAime =>
          simp only [Option.bind_some, nfcCall]
          split <;> rfl
      | mifareSetKeyBana =>
          simp only [Option.bind_some, nfcCall]
          split <;> rfl
      | mifareReadBlock =>
          simp only [Option.bind_some, nfcCall]
          split
          · rfl
          · exact matches_of_reply _ (fun _ => rfl)
      | felicaEncap =>
          simp only [Option.bind_some, nfcCall]
          cases felicaRequest payload with
          | none => exact rfl
          | some forwarded => exact matches_of_reply _ (fun _ => rfl)
      | getFwVersion => exact rfl
      | getHwVersion => exact rfl
      | mifareAuthenticateAime => exact rfl
      | mifareAuthenticateBana => exact rfl
      | toUpdateMode => exact rfl
      | sendHexData => exact rfl
      | reset => exact rfl

/-- A request makes the exchanges of its call and leaves the same reader. -/
theorem dispatch_matches (reader : ReaderState) (request : List Byte) :
    Interaction.Matches SameReader (dispatch reader request)
      (callProgram reader (requestCall request)) := by
  unfold dispatch requestCall
  by_cases accepted : Accepted request
  · rw [if_neg (not_not.mpr accepted)]
    by_cases nfc : byteAt request 1 = sgAddressNfc
    · rw [if_pos nfc, if_pos ⟨accepted, nfc⟩]
      exact dispatchNfc_matches reader request _
    · have other :
          ¬ (Accepted request ∧ byteAt request 1 = sgAddressNfc) :=
        fun both => nfc both.2
      rw [if_neg nfc, if_neg other]
      split <;> rfl
  · have other :
        ¬ (Accepted request ∧ byteAt request 1 = sgAddressNfc) :=
      fun both => accepted both.1
    rw [if_pos accepted, if_neg other]
    rfl

/-! ## Sessions -/

/-- An event of a session, with the controller which it meets. -/
inductive SegaEvent where
  | request (framed : { request : List Byte // Accepted request })
      (world : Pn532World)
  | scan (world : Pn532World)

/-- The variables of the reader after an event. -/
def SegaEvent.next (reader : ReaderState) : SegaEvent → ReaderState
  | .request framed world => ((dispatch reader framed.1).run world).1
  | .scan world => ((readerReadCard reader).run world).2

/-- The exchanges of an event. -/
def SegaEvent.exchanges (reader : ReaderState) : SegaEvent → History
  | .request framed world =>
      (dispatch reader framed.1).transcript world
  | .scan world => (readerReadCard reader).transcript world

def readerFrom (reader : ReaderState) (events : List SegaEvent) :
    ReaderState :=
  events.foldl SegaEvent.next reader

/-- The variables of the reader after a session. -/
def readerAfter (events : List SegaEvent) : ReaderState :=
  readerFrom readerInit events

@[simp]
theorem readerFrom_singleton (reader : ReaderState) (event : SegaEvent) :
    readerFrom reader [event] = event.next reader :=
  rfl

theorem readerFrom_append
    (reader : ReaderState) (first second : List SegaEvent) :
    readerFrom reader (first ++ second) =
      readerFrom (readerFrom reader first) second :=
  List.foldl_append

/-- The reader call of an event. -/
def SegaEvent.call : SegaEvent → Option ReaderCall
  | .request framed _ => requestCall framed.1
  | .scan _ => some .readCard

def SegaEvent.world : SegaEvent → Pn532World
  | .request _ world => world
  | .scan world => world

/-- The step of the reader interface which an event makes, if it makes one. -/
def SegaEvent.step (event : SegaEvent) : Option ReaderStep :=
  event.call.map (fun call => ⟨call, event.world⟩)

/-- An event does to the reader what its call does. -/
theorem SegaEvent.next_eq (event : SegaEvent) (reader : ReaderState) :
    event.next reader =
      ((callProgram reader event.call).run event.world).2 := by
  cases event with
  | request framed world =>
      exact (dispatch_matches reader framed.1).run world
  | scan world =>
      exact (congrArg Prod.snd (result_readCard reader world)).symm

theorem SegaEvent.next_of_step
    {event : SegaEvent} {step : ReaderStep}
    (made : event.step = some step) (reader : ReaderState) :
    event.next reader = (step.result reader).2 := by
  rw [event.next_eq]
  rcases Option.map_eq_some_iff.mp made with ⟨call, called, rfl⟩
  rw [called]
  rfl

theorem SegaEvent.next_of_no_step
    {event : SegaEvent} (silent : event.step = none)
    (reader : ReaderState) :
    event.next reader = reader := by
  rw [event.next_eq, Option.map_eq_none_iff.mp silent]
  rfl

/-- The variables at the end of a session are those of a run of calls. -/
theorem readerFrom_session
    (events : List SegaEvent) (session : Session) :
    readerFrom session.reader events =
      ((events.filterMap SegaEvent.step).foldl Session.next
        session).reader := by
  induction events generalizing session with
  | nil => rfl
  | cons event rest induction =>
      change readerFrom (event.next session.reader) rest = _
      cases made : event.step with
      | none =>
          rw [SegaEvent.next_of_no_step made,
            List.filterMap_cons_none made]
          exact induction session
      | some step =>
          rw [SegaEvent.next_of_step made,
            List.filterMap_cons_some made]
          exact induction (session.next step)

theorem readerAfter_session (events : List SegaEvent) :
    readerAfter events =
      (sessionAfter (events.filterMap SegaEvent.step)).reader :=
  readerFrom_session events sessionStart

/-! ## The main loop is a session -/

theorem dispatchAll_session
    (requests : List (List Byte)) (reader : ReaderState)
    (world : Pn532World) :
    ∃ events,
      ((dispatchAll reader requests).run world).1 =
        readerFrom reader events := by
  induction requests generalizing reader world with
  | nil => exact ⟨[], rfl⟩
  | cons request rest induction =>
      have moved : ∃ events,
          ((dispatch reader request).run world).1 =
            readerFrom reader events := by
        by_cases accepted : Accepted request
        · refine ⟨[.request ⟨request, accepted⟩ world], ?_⟩
          rw [readerFrom_singleton, SegaEvent.next]
        · refine ⟨[], ?_⟩
          rw [dispatch, if_pos accepted]
          rfl
      rcases moved with ⟨first, moved⟩
      rcases
          induction ((dispatch reader request).run world).1
            (world.drop
              ((dispatch reader request).transcript world).length) with
        ⟨second, continued⟩
      refine ⟨first ++ second, ?_⟩
      rw [dispatchAll, Interaction.run_bind]
      simp only [Interaction.pure_eq, Interaction.run_bind_done]
      rw [continued, moved, readerFrom_append]

theorem segaReceive_session
    (data : List Byte) (parser : SgParser) (reader : ReaderState)
    (world : Pn532World) :
    ∃ events,
      ((segaReceive parser reader data).run world).1.2 =
        readerFrom reader events := by
  induction data generalizing parser reader world with
  | nil => exact ⟨[], rfl⟩
  | cons byte rest induction =>
      let requests := (receiveByte parser byte).2
      rcases dispatchAll_session requests reader world with
        ⟨first, moved⟩
      rcases
          induction (receiveByte parser byte).1
            ((dispatchAll reader requests).run world).1
            (world.drop
              ((dispatchAll reader requests).transcript world).length) with
        ⟨second, continued⟩
      refine ⟨first ++ second, ?_⟩
      rw [segaReceive, Interaction.run_bind]
      simp only [Interaction.pure_eq, Interaction.run_bind_done]
      rw [continued, moved, readerFrom_append]

theorem iterate_session (app : App) (iteration : Iteration) :
    ∃ events,
      (iterate app iteration).1.reader = readerFrom app.reader events := by
  have serviced : ∃ events,
      (serviceMessage app iteration).1.reader =
        readerFrom app.reader events := by
    unfold serviceMessage
    split
    · exact ⟨[], rfl⟩
    · split
      · split <;> exact ⟨[], rfl⟩
      · exact ⟨[], rfl⟩
    · exact segaReceive_session _ app.parser app.reader _
  rcases serviced with ⟨events, moved⟩
  unfold iterate
  dsimp only
  split
  · exact ⟨events, moved⟩
  · refine ⟨events ++ [.scan iteration.scanWorld], ?_⟩
    rw [(scan_frame _ _).1, moved, readerFrom_append,
      readerFrom_singleton, SegaEvent.next]

/-- The main loop only does to the reader what a session does. -/
theorem stateAfter_session (iterations : List Iteration) :
    ∃ events, (stateAfter iterations).reader = readerAfter events := by
  induction iterations using List.reverseRecOn with
  | nil => exact ⟨[], rfl⟩
  | append_singleton iterations iteration induction =>
      rcases induction with ⟨before, reached⟩
      rcases iterate_session (stateAfter iterations) iteration with
        ⟨events, moved⟩
      refine ⟨before ++ events, ?_⟩
      rw [stateAfter, Transducer.run_append, Transducer.run_singleton]
      rw [readerAfter, readerFrom_append]
      change (iterate (stateAfter iterations) iteration).1.reader = _
      rw [moved, reached]
      rfl

/-! ## The system code -/

/-- One of the two codes which the reader polls with. -/
def KnownCode (code : UInt16) : Prop :=
  code = felicaSystemCodeTransit ∨ code = felicaSystemCodeWildcard

theorem knownCode_other (code : UInt16) :
    KnownCode (otherSystemCode code) := by
  unfold otherSystemCode
  split
  · exact Or.inr rfl
  · exact Or.inl rfl

/-- A scan keeps the system code or changes to the other one. -/
theorem ScanOutcome.systemCode
    {reader next : ReaderState} {world : Pn532World}
    {result : EspResult ReaderCard}
    (outcome : ScanOutcome reader world result next) :
    next.felicaSystemCode = reader.felicaSystemCode ∨
      next.felicaSystemCode = otherSystemCode reader.felicaSystemCode := by
  have toggled :
      (afterTypeA reader world).felicaSystemCode =
          reader.felicaSystemCode ∨
        (afterTypeA reader world).felicaSystemCode =
          otherSystemCode reader.felicaSystemCode := by
    unfold afterTypeA afterFelica
    dsimp only
    split
    · exact Or.inr rfl
    · exact Or.inl rfl
  cases outcome with
  | off disabled => exact Or.inl rfl
  | felica enabled completed found => exact Or.inl rfl
  | failed enabled missed broken => exact toggled
  | unusable enabled missed completed empty => exact toggled
  | mifare enabled missed completed usable type uid => exact toggled

/-- Every state of the reader polls with one of the two codes. -/
theorem knownCode_sessionAfter (steps : List ReaderStep) :
    KnownCode (sessionAfter steps).reader.felicaSystemCode := by
  induction steps using List.reverseRecOn with
  | nil => exact Or.inl rfl
  | append_singleton steps step known =>
      rw [sessionAfter_concat]
      rcases step.scan_or_command with ⟨world, rfl⟩ | command
      · rw [reader_readCard]
        rcases
            ScanOutcome.systemCode
              (readerReadCard_outcome (sessionAfter steps).reader
                world) with
          same | other
        · rw [same]
          exact known
        · rw [other]
          exact knownCode_other _
      · have post := step.commandPost (sessionAfter steps).reader command
        change KnownCode (step.result _).2.felicaSystemCode
        rw [post.systemCode]
        exact known

/-! ## A FeliCa target which stays in the field -/

/-- A FeliCa target which answers at least one of the two codes. -/
structure FieldTarget where
  idm : Vector Byte 8
  answers : UInt16 → Bool
  reachable :
    answers felicaSystemCodeTransit = true ∨
      answers felicaSystemCodeWildcard = true

/-- A poll completes and finds the target exactly under its codes. -/
structure InField (target : FieldTarget) (world : Pn532World) : Prop where
  completed : ∀ code stored, KnownCode code →
    ((pn532PollFelica code stored false).run world).status = .ok ()
  found : ∀ code stored, KnownCode code →
    ((pn532PollFelica code stored false).run world).found =
      target.answers code
  identified : ∀ code stored, KnownCode code →
    target.answers code = true →
      ((pn532PollFelica code stored false).run world).target.idm =
        target.idm

/-- A scan, made by the main loop or for the SEGA host. -/
inductive ScanEvent where
  | periodic (world : Pn532World)
  | poll
      (framed :
        { request : List Byte //
          Accepted request ∧ byteAt request 1 = sgAddressNfc ∧
            byteAt request 3 = SgNfc.poll.code })
      (world : Pn532World)

def ScanEvent.world : ScanEvent → Pn532World
  | .periodic world => world
  | .poll _ world => world

/-- The event of a session which makes the scan. -/
def ScanEvent.event : ScanEvent → SegaEvent
  | .periodic world => .scan world
  | .poll framed world => .request ⟨framed.1, framed.2.1⟩ world

/-- What the host is sent for the card of a scan; only `POLL` replies. -/
def ScanEvent.Replies (reader : ReaderState) (card : ReaderCard) :
    ScanEvent → Prop
  | .periodic _ => True
  | .poll framed world =>
      ((dispatch reader framed.1).run world).2 =
        sendResponse framed.1 0
          ([0x01, 0x20, 0x10] ++ card.idm.toList ++ card.pmm.toList)

/-- The scan reports a FeliCa card with this IDm. -/
def ScanEvent.Reports
    (idm : Vector Byte 8) (reader : ReaderState) (event : ScanEvent) :
    Prop :=
  ∃ card,
    ((readerReadCard reader).run event.world).1 = .ok card ∧
      card.type = .felica ∧ card.idm = idm ∧ event.Replies reader card

/-- A request to poll scans and replies with the payload of the card. -/
theorem dispatch_poll
    {request : List Byte} (accepted : Accepted request)
    (nfc : byteAt request 1 = sgAddressNfc)
    (poll : byteAt request 3 = SgNfc.poll.code)
    (reader : ReaderState) (world : Pn532World) :
    (dispatch reader request).run world =
      (((readerReadCard reader).run world).2,
        sendData request
          (((readerReadCard reader).run world).1.map pollPayload)) := by
  rw [dispatch, if_neg (not_not.mpr accepted), if_pos nfc, dispatchNfc,
    poll, SgNfc.ofCode_code]
  exact Interaction.run_bind_done world (readerReadCard reader)
    (fun result =>
      (result.2, sendData request (result.1.map pollPayload)))

/-- Both kinds of scan leave the reader alike. -/
theorem ScanEvent.next_eq (event : ScanEvent) (reader : ReaderState) :
    event.event.next reader =
      ((readerReadCard reader).run event.world).2 := by
  cases event with
  | periodic world => rfl
  | poll framed world =>
      rcases framed with ⟨request, accepted, nfc, poll⟩
      exact congrArg Prod.fst
        (dispatch_poll accepted nfc poll reader world)

/-- A FeliCa card found by a scan is replied to `POLL`. -/
theorem ScanEvent.replies_of_felica
    (event : ScanEvent) {reader : ReaderState} {card : ReaderCard}
    (observed :
      ((readerReadCard reader).run event.world).1 = .ok card)
    (type : card.type = .felica) :
    event.Replies reader card := by
  cases event with
  | periodic world => trivial
  | poll framed world =>
      rcases framed with ⟨request, accepted, nfc, poll⟩
      change ((dispatch reader request).run world).2 = _
      change ((readerReadCard reader).run world).1 = .ok card at observed
      rw [dispatch_poll accepted nfc poll, observed]
      simp only [Except.map, sendData, pollPayload, type]

/-- The radio is on and the reader polls with one of the two codes. -/
structure Ready (reader : ReaderState) : Prop where
  enabled : reader.radioEnabled = true
  known : KnownCode reader.felicaSystemCode

section Acquisition

variable {target : FieldTarget} {reader : ReaderState} {event : ScanEvent}

/-- A scan under a code which the target answers reports it. -/
theorem reports_of_answers
    (ready : Ready reader) (present : InField target event.world)
    (answered : target.answers reader.felicaSystemCode = true) :
    event.Reports target.idm reader ∧
      (event.event.next reader).felicaSystemCode =
        reader.felicaSystemCode := by
  have found : (felicaPoll reader event.world).found = true :=
    (present.found _ _ ready.known).trans answered
  have completed : (felicaPoll reader event.world).status = .ok () :=
    present.completed _ _ ready.known
  rw [event.next_eq]
  have outcome := readerReadCard_outcome reader event.world
  have replies := @ScanEvent.replies_of_felica event reader
  unfold ScanEvent.Reports
  generalize ((readerReadCard reader).run event.world).1 = result
    at outcome replies ⊢
  generalize ((readerReadCard reader).run event.world).2 = next
    at outcome ⊢
  have hit : ¬ FelicaMissed reader event.world := by
    intro missed
    rw [missed completed] at found
    cases found
  cases outcome with
  | off disabled =>
      rw [ready.enabled] at disabled
      cases disabled
  | felica enabled completed found =>
      refine ⟨⟨_, rfl, rfl, ?_, replies rfl rfl⟩, rfl⟩
      exact present.identified _ _ ready.known answered
  | failed enabled missed broken => exact (hit missed).elim
  | unusable enabled missed completed empty => exact (hit missed).elim
  | mifare enabled missed completed usable type uid =>
      exact (hit missed).elim

/-- A scan under a code which the target does not answer tries the other. -/
theorem other_of_unanswered
    (ready : Ready reader) (present : InField target event.world)
    (silent : target.answers reader.felicaSystemCode = false) :
    ¬ event.Reports target.idm reader ∧
      (event.event.next reader).felicaSystemCode =
        otherSystemCode reader.felicaSystemCode := by
  have absent : (felicaPoll reader event.world).found = false :=
    (present.found _ _ ready.known).trans silent
  have completed : (felicaPoll reader event.world).status = .ok () :=
    present.completed _ _ ready.known
  have toggled :
      (afterTypeA reader event.world).felicaSystemCode =
        otherSystemCode reader.felicaSystemCode := by
    unfold afterTypeA afterFelica
    exact if_pos completed
  rw [event.next_eq]
  have outcome := readerReadCard_outcome reader event.world
  unfold ScanEvent.Reports
  generalize ((readerReadCard reader).run event.world).1 = result
    at outcome ⊢
  generalize ((readerReadCard reader).run event.world).2 = next
    at outcome ⊢
  cases outcome with
  | off disabled =>
      rw [ready.enabled] at disabled
      cases disabled
  | felica enabled completed found =>
      rw [absent] at found
      cases found
  | failed enabled missed broken =>
      refine ⟨?_, toggled⟩
      rintro ⟨card, impossible, -⟩
      cases impossible
  | unusable enabled missed completed empty =>
      refine ⟨?_, toggled⟩
      rintro ⟨card, same, type, -⟩
      cases same
      cases type
  | mifare enabled missed completed usable type uid =>
      refine ⟨?_, toggled⟩
      rintro ⟨card, same, felica, -⟩
      cases same
      rw [type] at felica
      cases felica

/-- Either code is answered, or the other one is. -/
theorem answers_other
    {code : UInt16} (known : KnownCode code)
    (silent : target.answers code = false) :
    target.answers (otherSystemCode code) = true := by
  rcases known with rfl | rfl
  · rcases target.reachable with transit | wildcard
    · rw [transit] at silent
      cases silent
    · exact wildcard
  · rcases target.reachable with transit | wildcard
    · exact transit
    · rw [wildcard] at silent
      cases silent

theorem ready_next (ready : Ready reader) (event : ScanEvent) :
    Ready (event.event.next reader) := by
  rw [event.next_eq]
  have outcome := readerReadCard_outcome reader event.world
  refine ⟨outcome.frame.2.2.2.2.trans ready.enabled, ?_⟩
  rcases ScanOutcome.systemCode outcome with same | other
  · rw [same]
    exact ready.known
  · rw [other]
    exact knownCode_other _

theorem ready_readerFrom (ready : Ready reader) (events : List ScanEvent) :
    Ready (readerFrom reader (events.map ScanEvent.event)) := by
  induction events generalizing reader with
  | nil => exact ready
  | cons event rest induction => exact induction (ready_next ready event)

/-- After any scan the reader polls with a code which is answered. -/
theorem answers_next
    (ready : Ready reader) (present : InField target event.world) :
    target.answers (event.event.next reader).felicaSystemCode = true := by
  cases answered : target.answers reader.felicaSystemCode with
  | true =>
      rw [(reports_of_answers ready present answered).2]
      exact answered
  | false =>
      rw [(other_of_unanswered ready present answered).2]
      exact answers_other ready.known answered

/-- Run lemma: a code which is answered is kept. -/
theorem systemCode_kept
    (ready : Ready reader)
    (answered : target.answers reader.felicaSystemCode = true)
    (events : List ScanEvent)
    (stays : ∀ event ∈ events, InField target event.world) :
    (readerFrom reader
        (events.map ScanEvent.event)).felicaSystemCode =
      reader.felicaSystemCode := by
  induction events generalizing reader with
  | nil => rfl
  | cons event rest induction =>
      have present := stays event List.mem_cons_self
      have kept := (reports_of_answers ready present answered).2
      have further :=
        induction (ready_next ready event) (by rw [kept]; exact answered)
          (fun later member => stays later (List.mem_cons_of_mem _ member))
      exact further.trans kept

/-- From the second scan on, the code in use is answered. -/
theorem answers_after_first
    (ready : Ready reader) {events : List ScanEvent}
    (nonempty : events ≠ [])
    (stays : ∀ event ∈ events, InField target event.world) :
    target.answers
        (readerFrom reader
          (events.map ScanEvent.event)).felicaSystemCode = true := by
  cases events with
  | nil => exact (nonempty rfl).elim
  | cons first rest =>
      have present := stays first List.mem_cons_self
      have answered := answers_next ready present
      have kept :=
        systemCode_kept (ready_next ready first) answered rest
          (fun later member => stays later (List.mem_cons_of_mem _ member))
      exact (congrArg target.answers kept).trans answered

end Acquisition

/--
Every reachable reader polls with one of the two codes.  While a FeliCa target
stays in its field, at most the first scan misses it, and the code under which
it is reported is kept.
-/
theorem felica_acquired (steps : List ReaderStep) :
    KnownCode (sessionAfter steps).reader.felicaSystemCode ∧
      ∀ (target : FieldTarget) (events : List ScanEvent),
        (sessionAfter steps).reader.radioEnabled = true →
        (∀ event ∈ events, InField target event.world) →
          ∀ before event after, events = before ++ event :: after →
            let reader := (sessionAfter steps).reader
            let current :=
              readerFrom reader (before.map ScanEvent.event)
            (before ≠ [] → event.Reports target.idm current) ∧
              (event.Reports target.idm current →
                (readerFrom reader
                  (events.map ScanEvent.event)).felicaSystemCode =
                    current.felicaSystemCode) := by
  have known := knownCode_sessionAfter steps
  refine ⟨known, ?_⟩
  rintro target events enabled stays before event after rfl
  have ready : Ready (sessionAfter steps).reader := ⟨enabled, known⟩
  have earlier : ∀ other ∈ before, InField target other.world :=
    fun other member => stays other (List.mem_append_left _ member)
  have later : ∀ other ∈ event :: after, InField target other.world :=
    fun other member => stays other (List.mem_append_right _ member)
  have present := later event List.mem_cons_self
  have current := ready_readerFrom ready before
  constructor
  · intro nonempty
    have answered := answers_after_first ready nonempty earlier
    exact (reports_of_answers current present answered).1
  · intro reported
    rw [List.map_append, readerFrom_append]
    cases answered : target.answers
        (readerFrom (sessionAfter steps).reader
          (before.map ScanEvent.event)).felicaSystemCode with
    | true => exact systemCode_kept current answered _ later
    | false =>
        exact ((other_of_unanswered current present answered).1
          reported).elim

/-- A field with a FeliCa card which answers the wildcard code only. -/
def wildcardWorld : Pn532World :=
  fun _ frame =>
    .answering pn532CommandInListPassiveTarget
      (if byteAt frame 10 = 0xFF then
        [0x01, 0x01, 0x14, 0x01, 1, 2, 3, 4, 5, 6, 7, 8, 0, 0, 0, 0, 0, 0,
          0, 0, 0x00, 0x03]
      else
        [0x00])

def wildcardTarget : FieldTarget where
  idm := load 8 [1, 2, 3, 4, 5, 6, 7, 8] 0
  answers code := code = felicaSystemCodeWildcard
  reachable := Or.inr (by decide)

theorem wildcardWorld_transit (stored : FelicaTarget) :
    (pn532PollFelica felicaSystemCodeTransit stored false).run
        wildcardWorld = ⟨.ok (), stored, false⟩ := by
  have answered :
      (command pn532CommandInListPassiveTarget
          (Pn532Targets.felicaRequest felicaSystemCodeTransit) 64).run
        wildcardWorld = .ok [0x00] := by
    decide +kernel
  exact Pn532Targets.pn532PollFelica_run stored false answered

theorem wildcardWorld_wildcard (stored : FelicaTarget) :
    (pn532PollFelica felicaSystemCodeWildcard stored false).run
        wildcardWorld =
      ⟨.ok (), ⟨0x01, #v[1, 2, 3, 4, 5, 6, 7, 8], zeros 8⟩, true⟩ := by
  have answered :
      (command pn532CommandInListPassiveTarget
          (Pn532Targets.felicaRequest felicaSystemCodeWildcard) 64).run
        wildcardWorld =
          .ok [0x01, 0x01, 0x14, 0x01, 1, 2, 3, 4, 5, 6, 7, 8, 0, 0, 0, 0,
            0, 0, 0, 0, 0x00, 0x03] := by
    decide +kernel
  exact Pn532Targets.pn532PollFelica_run stored false answered

theorem inField_wildcardWorld :
    InField wildcardTarget wildcardWorld where
  completed code stored known := by
    rcases known with rfl | rfl
    · rw [wildcardWorld_transit]
    · rw [wildcardWorld_wildcard]
  found code stored known := by
    rcases known with rfl | rfl
    · rw [wildcardWorld_transit]
      rfl
    · rw [wildcardWorld_wildcard]
      rfl
  identified code stored known answered := by
    rcases known with rfl | rfl
    · cases answered
    · rw [wildcardWorld_wildcard]
      rfl

/-- A periodic scan and then a `POLL` meet this card. -/
def wildcardScans : List ScanEvent :=
  [.periodic wildcardWorld,
    .poll ⟨[0x05, 0x00, 0x01, 0x42, 0x00], by decide⟩ wildcardWorld]

/-- The first scan misses the card, the second one reports it. -/
theorem felica_acquired_wildcard :
    ¬ (ScanEvent.periodic wildcardWorld).Reports wildcardTarget.idm
        (sessionAfter []).reader ∧
      (ScanEvent.poll ⟨[0x05, 0x00, 0x01, 0x42, 0x00], by decide⟩
          wildcardWorld).Reports wildcardTarget.idm
        (readerFrom (sessionAfter []).reader [.scan wildcardWorld]) := by
  have stays : ∀ event ∈ wildcardScans,
      InField wildcardTarget event.world := by
    intro event member
    rcases List.mem_pair.mp member with rfl | rfl
    · exact inField_wildcardWorld
    · exact inField_wildcardWorld
  constructor
  · exact
      (other_of_unanswered ⟨rfl, Or.inl rfl⟩ inField_wildcardWorld rfl).1
  · exact
      ((felica_acquired []).2 wildcardTarget wildcardScans rfl stays
        [.periodic wildcardWorld] _ [] rfl).1 (List.cons_ne_nil _ _)

end Pareader.Firmware.SegaSessions
