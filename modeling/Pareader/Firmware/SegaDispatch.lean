import Pareader.Firmware.Reader
import Pareader.Firmware.SegaFraming

/-!
# SEGA command handlers

`dispatch` validates a framed request, chooses a handler by address and replies
through `send_response`.  A handler is an interaction with the PN532 which
returns the reader state and the frames handed to the CDC port.

Exactly one request reaches a silent handler by accident.  A FeliCa exchange
may return 250 octets, which fits the handler's buffer, while `send_response`
drops every payload above 249.
-/

namespace Pareader.Firmware.SegaDispatch

open Pareader.Core
open Pareader.Firmware.Pn532
open Pareader.Firmware.Reader
open Pareader.Firmware.SegaFraming

/-! ## Commands -/

def sgAddressNfc : Byte := 0x00
def sgAddressLed : Byte := 0x08

/-- The commands at the NFC address. -/
inductive SgNfc where
  | getFwVersion
  | getHwVersion
  | radioOn
  | radioOff
  | poll
  | mifareSelectTag
  | mifareSetKeyAime
  | mifareAuthenticateAime
  | mifareReadBlock
  | mifareSetKeyBana
  | mifareAuthenticateBana
  | toUpdateMode
  | sendHexData
  | reset
  | felicaEncap
deriving DecidableEq, Repr

/-- The command octet of each NFC command. -/
def SgNfc.code : SgNfc → Byte
  | .getFwVersion => 0x30
  | .getHwVersion => 0x32
  | .radioOn => 0x40
  | .radioOff => 0x41
  | .poll => 0x42
  | .mifareSelectTag => 0x43
  | .mifareSetKeyAime => 0x50
  | .mifareAuthenticateAime => 0x51
  | .mifareReadBlock => 0x52
  | .mifareSetKeyBana => 0x54
  | .mifareAuthenticateBana => 0x55
  | .toUpdateMode => 0x60
  | .sendHexData => 0x61
  | .reset => 0x62
  | .felicaEncap => 0x71

/-- All NFC commands. -/
def SgNfc.all : List SgNfc :=
  [.getFwVersion, .getHwVersion, .radioOn, .radioOff, .poll,
    .mifareSelectTag, .mifareSetKeyAime, .mifareAuthenticateAime,
    .mifareReadBlock, .mifareSetKeyBana, .mifareAuthenticateBana,
    .toUpdateMode, .sendHexData, .reset, .felicaEncap]

/-- The command with a given octet, if there is one. -/
def SgNfc.ofCode (code : Byte) : Option SgNfc :=
  SgNfc.all.find? (fun command => command.code == code)

theorem SgNfc.code_of_ofCode
    {code : Byte} {command : SgNfc}
    (found : SgNfc.ofCode code = some command) :
    code = command.code := by
  have matched := List.find?_some found
  exact (beq_iff_eq.mp matched).symm

theorem SgNfc.ofCode_code (command : SgNfc) :
    SgNfc.ofCode command.code = some command := by
  cases command <;> rfl

theorem SgNfc.ofCode_eq_some_iff (code : Byte) (command : SgNfc) :
    SgNfc.ofCode code = some command ↔ code = command.code := by
  constructor
  · exact SgNfc.code_of_ofCode
  · rintro rfl
    exact SgNfc.ofCode_code command

def sgLedSetColor : Byte := 0x81
def sgLedGetInfo : Byte := 0xF0
def sgLedReset : Byte := 0xF5

/-! ## Handlers -/

/-- The frames sent by `dispatch_led`. -/
def dispatchLed (request : List Byte) : List (List Byte) :=
  if byteAt request 3 = sgLedSetColor then
    []
  else if byteAt request 3 = sgLedReset then
    sendResponse request 0 [0]
  else if byteAt request 3 = sgLedGetInfo then
    sendResponse request 0
      [0x30, 0x30, 0x30, 0x2D, 0x30, 0x30, 0x30, 0x30, 0x30, 0xFF, 0x11,
        0x40]
  else
    sendResponse request 1 []

/-- The final `send_response` of `dispatch_nfc`. -/
def sendStatus (request : List Byte) (outcome : EspResult Unit) :
    List (List Byte) :=
  match outcome with
  | .ok () => sendResponse request 0 []
  | .error _ => sendResponse request 1 []

/-- The reply to a command which returns data when it succeeds. -/
def sendData (request : List Byte) (outcome : EspResult (List Byte)) :
    List (List Byte) :=
  match outcome with
  | .ok payload => sendResponse request 0 payload
  | .error failure => sendStatus request (.error failure)

/-- The payload of a successful poll. -/
def pollPayload (card : ReaderCard) : List Byte :=
  match card.type with
  | .mifare => [0x01, 0x10, 0x04] ++ card.mifareUid.toList
  | .felica =>
      [0x01, 0x20, 0x10] ++ card.idm.toList ++ card.pmm.toList
  | .none => [0x00]

/-- The octets which `FELICA_ENCAP` forwards, if its payload is well sized. -/
def felicaRequest (payload : List Byte) : Option (List Byte) :=
  if payload.length < 9 ∨
      payload.length ≠ 8 + (byteAt payload 8).toNat then
    none
  else
    some (slice payload 8 (byteAt payload 8).toNat)

/-- The reader state and the frames sent by `dispatch_nfc`. -/
def dispatchNfc (reader : ReaderState) (request payload : List Byte) :
    Driver (ReaderState × List (List Byte)) :=
  match SgNfc.ofCode (byteAt request 3) with
  | none => .done (reader, sendResponse request 1 [])
  | some .reset => .done (reader, sendResponse request 3 [])
  | some .getFwVersion => .done (reader, sendResponse request 0 [0x94])
  | some .getHwVersion =>
      .done (reader,
        sendResponse request 0
          [0x38, 0x33, 0x37, 0x2D, 0x31, 0x35, 0x32, 0x38, 0x36])
  | some .radioOn => do
      let (outcome, reader) ← readerRadioSet reader true
      return (reader, sendStatus request outcome)
  | some .radioOff => do
      let (outcome, reader) ← readerRadioSet reader false
      return (reader, sendStatus request outcome)
  | some .poll => do
      let (outcome, reader) ← readerReadCard reader
      return (reader, sendData request (outcome.map pollPayload))
  | some .mifareSelectTag =>
      if payload.length ≠ 4 then
        .done (reader, sendStatus request (.error .invalidSize))
      else
        .done (reader,
          sendStatus request
            (readerMifareSelect reader (load 4 payload 0)))
  | some .mifareSetKeyAime =>
      if payload.length ≠ 6 then
        .done (reader, sendStatus request (.error .invalidSize))
      else
        let (outcome, reader) :=
          readerMifareSetKey reader readerKeyAime (load 6 payload 0)
        .done (reader, sendStatus request outcome)
  | some .mifareSetKeyBana =>
      if payload.length ≠ 6 then
        .done (reader, sendStatus request (.error .invalidSize))
      else
        let (outcome, reader) :=
          readerMifareSetKey reader readerKeyBana (load 6 payload 0)
        .done (reader, sendStatus request outcome)
  | some .mifareAuthenticateAime =>
      let (outcome, reader) :=
        readerMifareAuthenticate reader readerKeyAime
      .done (reader, sendStatus request outcome)
  | some .mifareAuthenticateBana =>
      let (outcome, reader) :=
        readerMifareAuthenticate reader readerKeyBana
      .done (reader, sendStatus request outcome)
  | some .mifareReadBlock =>
      if payload.length ≠ 5 then
        .done (reader, sendStatus request (.error .invalidSize))
      else do
        let outcome ←
          readerMifareReadBlock reader (load 4 payload 0)
            (byteAt payload 4)
        return (reader,
          sendData request (outcome.map (fun block => block.toList)))
  | some .felicaEncap =>
      match felicaRequest payload with
      | none => .done (reader, sendStatus request (.error .invalidSize))
      | some forwarded => do
          let outcome ← readerFelicaTransact reader forwarded 250
          return (reader, sendData request outcome)
  | some .toUpdateMode => .done (reader, sendStatus request (.ok ()))
  | some .sendHexData =>
      .done (reader,
        sendResponse request
          (if payload.length = 0x2B then 0x20 else 0) [])

/-- The size checks which `dispatch` makes on a framed request. -/
def Accepted (request : List Byte) : Prop :=
  5 ≤ request.length ∧
    (byteAt request 0).toNat = request.length ∧
    (byteAt request 4).toNat = request.length - 5

instance (request : List Byte) : Decidable (Accepted request) :=
  inferInstanceAs (Decidable (_ ∧ _ ∧ _))

/-- The payload of an accepted request. -/
def requestPayload (request : List Byte) : List Byte :=
  slice request 5 (byteAt request 4).toNat

def dispatch (reader : ReaderState) (request : List Byte) :
    Driver (ReaderState × List (List Byte)) :=
  if ¬ Accepted request then
    .done (reader, [])
  else if byteAt request 1 = sgAddressNfc then
    dispatchNfc reader request (requestPayload request)
  else if byteAt request 1 = sgAddressLed then
    .done (reader, dispatchLed request)
  else
    .done (reader, [])

/-- Dispatch requests one after another. -/
def dispatchAll (reader : ReaderState) :
    List (List Byte) → Driver (ReaderState × List (List Byte))
  | [] => .done (reader, [])
  | request :: rest => do
      let (reader, frames) ← dispatch reader request
      let (reader, more) ← dispatchAll reader rest
      return (reader, frames ++ more)

/-- `sega_receive`, with the parser and the reader it leaves. -/
def segaReceive (parser : SgParser) (reader : ReaderState) :
    List Byte →
      Driver ((SgParser × ReaderState) × List (List Byte))
  | [] => .done ((parser, reader), [])
  | byte :: rest => do
      let (next, requests) := receiveByte parser byte
      let (reader, frames) ← dispatchAll reader requests
      let (state, more) ← segaReceive next reader rest
      return (state, frames ++ more)

/-! ## One reply per request -/

/-- A response frame repeats address, sequence and command of its request. -/
def Echoes (request frame : List Byte) : Prop :=
  ∃ decoded, frame = encodeFrame decoded ∧ Framed decoded ∧
    byteAt decoded 1 = byteAt request 1 ∧
    byteAt decoded 2 = byteAt request 2 ∧
    byteAt decoded 3 = byteAt request 3

/-- Exactly one frame, which echoes the request. -/
def RepliedOnce (request : List Byte) (frames : List (List Byte)) : Prop :=
  ∃ frame, frames = [frame] ∧ Echoes request frame

theorem sendResponse_repliedOnce
    (request : List Byte) (status : Byte) {payload : List Byte}
    (small : payload.length ≤ 249) :
    RepliedOnce request (sendResponse request status payload) := by
  refine ⟨encodeFrame (decodedResponse request status payload), ?_,
    decodedResponse request status payload, rfl, ?_, rfl, rfl, rfl⟩
  · rw [sendResponse, if_neg (by omega)]
  · exact @Response.framed ⟨request, status, payload⟩ small

theorem sendResponse_silent
    (request : List Byte) (status : Byte) {payload : List Byte}
    (large : 249 < payload.length) :
    sendResponse request status payload = [] := by
  rw [sendResponse, if_pos (by omega)]

theorem sendStatus_repliedOnce
    (request : List Byte) (outcome : EspResult Unit) :
    RepliedOnce request (sendStatus request outcome) := by
  cases outcome <;> exact sendResponse_repliedOnce request _ (by simp)

/-- Data is replied once exactly when it fits a response. -/
theorem sendData_repliedOnce_iff
    (request : List Byte) (outcome : EspResult (List Byte)) :
    RepliedOnce request (sendData request outcome) ↔
      OnSuccess (fun payload => payload.length ≤ 249) outcome := by
  cases outcome with
  | error failure =>
      exact iff_of_true
        (sendStatus_repliedOnce request (.error failure)) trivial
  | ok payload =>
      constructor
      · rintro ⟨frame, sent, -⟩
        apply Nat.le_of_not_lt
        intro large
        rw [sendData, sendResponse_silent request 0 large] at sent
        cases sent
      · exact sendResponse_repliedOnce request 0

theorem pollPayload_length (card : ReaderCard) :
    (pollPayload card).length ≤ 249 := by
  unfold pollPayload
  cases card.type <;> simp

/-- A handler which ends with one response. -/
theorem always_sendResponse
    (reader : ReaderState) (request : List Byte) (code : Byte)
    {payload : List Byte} (small : payload.length ≤ 249) :
    (Interaction.done (reader, sendResponse request code payload) :
        Driver (ReaderState × List (List Byte))).Always
      (fun result => RepliedOnce request result.2) :=
  sendResponse_repliedOnce request code small

/-- A handler which ends with its status. -/
theorem always_sendStatus
    (reader : ReaderState) (request : List Byte)
    (outcome : EspResult Unit) :
    (Interaction.done (reader, sendStatus request outcome) :
        Driver (ReaderState × List (List Byte))).Always
      (fun result => RepliedOnce request result.2) :=
  sendStatus_repliedOnce request outcome

/-- Every NFC command but the FeliCa exchange replies once. -/
theorem dispatchNfc_repliedOnce
    (reader : ReaderState) (request payload : List Byte)
    (other : byteAt request 3 ≠ SgNfc.felicaEncap.code) :
    (dispatchNfc reader request payload).Always
      (fun result => RepliedOnce request result.2) := by
  unfold dispatchNfc
  cases known : SgNfc.ofCode (byteAt request 3) with
  | none => exact always_sendResponse _ _ _ (by simp)
  | some command =>
    cases command with
    | felicaEncap => exact (other (SgNfc.code_of_ofCode known)).elim
    | reset => exact always_sendResponse _ _ _ (by simp)
    | getFwVersion => exact always_sendResponse _ _ _ (by simp)
    | getHwVersion => exact always_sendResponse _ _ _ (by simp)
    | sendHexData => exact always_sendResponse _ _ _ (by simp)
    | toUpdateMode => exact always_sendStatus _ _ _
    | mifareAuthenticateAime => exact always_sendStatus _ _ _
    | mifareAuthenticateBana => exact always_sendStatus _ _ _
    | radioOn =>
        refine Interaction.Always.after ?_
        rintro ⟨outcome, next⟩
        exact always_sendStatus next request outcome
    | radioOff =>
        refine Interaction.Always.after ?_
        rintro ⟨outcome, next⟩
        exact always_sendStatus next request outcome
    | poll =>
        refine Interaction.Always.after ?_
        rintro ⟨outcome, next⟩
        apply (sendData_repliedOnce_iff _ _).mpr
        cases outcome with
        | error failure => trivial
        | ok card => exact pollPayload_length card
    | mifareSelectTag =>
        dsimp only
        split
        · exact always_sendStatus _ _ _
        · exact always_sendStatus _ _ _
    | mifareSetKeyAime =>
        dsimp only
        split
        · exact always_sendStatus _ _ _
        · exact always_sendStatus _ _ _
    | mifareSetKeyBana =>
        dsimp only
        split
        · exact always_sendStatus _ _ _
        · exact always_sendStatus _ _ _
    | mifareReadBlock =>
        dsimp only
        split
        · exact always_sendStatus _ _ _
        · refine Interaction.Always.after ?_
          intro outcome
          apply (sendData_repliedOnce_iff _ _).mpr
          cases outcome with
          | error failure => trivial
          | ok block => simp [OnSuccess, Except.map]

/-! ## The FeliCa exchange -/

/--
The controller answers the forwarded request of a FeliCa exchange with status
zero and exactly 250 response octets.
-/
def OversizedAnswer
    (reader : ReaderState) (request : List Byte) (world : Pn532World) :
    Prop :=
  byteAt request 1 = sgAddressNfc ∧
    byteAt request 3 = SgNfc.felicaEncap.code ∧
    ∃ forwarded raw,
      felicaRequest (requestPayload request) = some forwarded ∧
      (command pn532CommandInDataExchange
          (reader.activeFelica.target :: forwarded) 255).run world =
        .ok raw ∧
      byteAt raw 0 = 0 ∧ raw.length = 251

theorem felicaRequest_length
    {payload forwarded : List Byte}
    (sized : felicaRequest payload = some forwarded) :
    forwarded.length = payload.length - 8 := by
  unfold felicaRequest at sized
  split at sized
  · cases sized
  · rename_i fits
    rcases not_or.mp fits with ⟨long, length⟩
    cases sized
    simp only [slice, List.length_take, List.length_drop]
    omega

theorem requestPayload_length (request : List Byte) :
    (requestPayload request).length ≤ 255 := by
  have bound := (byteAt request 4).toNat_lt
  simp only [requestPayload, slice, List.length_take]
  omega

/-- The result of a FeliCa exchange is that of one `command`. -/
theorem run_readerFelicaTransact
    (reader : ReaderState) {forwarded : List Byte}
    (short : forwarded.length + 1 ≤ 254)
    (capacity : Nat) (world : Pn532World) :
    (readerFelicaTransact reader forwarded capacity).run world =
      ((command pn532CommandInDataExchange
        (reader.activeFelica.target :: forwarded) 255).run world).bind
        (parseFelicaResponse capacity) := by
  have guarded : ¬ forwarded.length + 1 > 254 := by omega
  have finished := Interaction.run_bind_done world
    (command pn532CommandInDataExchange
      (reader.activeFelica.target :: forwarded) 255)
    (fun result => result.bind (parseFelicaResponse capacity))
  rw [← finished]
  simp only [readerFelicaTransact, pn532FelicaTransact, if_neg guarded]
  congr 2
  funext result
  cases result <;> rfl

/-- Which raw answers yield more octets than a response can carry. -/
theorem parseFelicaResponse_large_iff (raw : List Byte) :
    ¬ OnSuccess (fun response => response.length ≤ 249)
        (parseFelicaResponse 250 raw) ↔
      byteAt raw 0 = 0 ∧ raw.length = 251 := by
  unfold parseFelicaResponse
  split
  · rename_i rejected
    simp only [OnSuccess, not_true_eq_false, false_iff, not_and]
    intro zero length
    rcases rejected with empty | failed | long
    · omega
    · exact failed zero
    · omega
  · rename_i accepted
    rcases not_or.mp accepted with ⟨nonempty, accepted⟩
    rcases not_or.mp accepted with ⟨status, short⟩
    simp only [not_not] at status
    simp only [OnSuccess, slice, List.length_take, List.length_drop]
    constructor
    · intro large
      exact ⟨status, by omega⟩
    · rintro ⟨-, length⟩
      omega

/-- The FeliCa exchange replies once unless the answer is oversized. -/
theorem dispatchNfc_felicaEncap_iff
    (reader : ReaderState) (request : List Byte) (world : Pn532World)
    (address : byteAt request 1 = sgAddressNfc)
    (encap : byteAt request 3 = SgNfc.felicaEncap.code) :
    RepliedOnce request
        ((dispatchNfc reader request (requestPayload request)).run
          world).2 ↔
      ¬ OversizedAnswer reader request world := by
  have known :
      SgNfc.ofCode (byteAt request 3) = some .felicaEncap :=
    (SgNfc.ofCode_eq_some_iff _ _).mpr encap
  unfold dispatchNfc
  simp only [known]
  cases sized : felicaRequest (requestPayload request) with
  | none =>
      apply iff_of_true
      · exact sendStatus_repliedOnce request (.error .invalidSize)
      · rintro ⟨-, -, forwarded, raw, found, -⟩
        rw [sized] at found
        cases found
  | some forwarded =>
      have length := felicaRequest_length sized
      have bound := requestPayload_length request
      have sent := Interaction.run_bind_done world
        (readerFelicaTransact reader forwarded 250)
        (fun outcome => (reader, sendData request outcome))
      change RepliedOnce request
        (Interaction.run world
          (readerFelicaTransact reader forwarded 250 >>= fun outcome =>
            .done (reader, sendData request outcome))).2 ↔ _
      rw [sent, sendData_repliedOnce_iff,
        run_readerFelicaTransact reader (by omega)]
      constructor
      · rintro small ⟨-, -, other, raw, found, answered, oversized⟩
        rw [sized] at found
        cases found
        rw [answered] at small
        exact (parseFelicaResponse_large_iff raw).mpr oversized small
      · intro ordinary
        by_contra large
        cases answered :
            (command pn532CommandInDataExchange
              (reader.activeFelica.target :: forwarded) 255).run world with
        | error failure =>
            rw [answered] at large
            exact large trivial
        | ok raw =>
            rw [answered] at large
            exact ordinary ⟨address, encap, forwarded, raw, sized,
              answered, (parseFelicaResponse_large_iff raw).mp large⟩

/-! ## Every accepted request -/

/-- One reply per request, as the two addressed handlers owe it. -/
def AnswersOnce
    (reader : ReaderState) (request : List Byte) (world : Pn532World) :
    Prop :=
  let frames := ((dispatch reader request).run world).2
  (byteAt request 1 = sgAddressNfc → RepliedOnce request frames) ∧
    (byteAt request 1 = sgAddressLed →
      byteAt request 3 ≠ sgLedSetColor → RepliedOnce request frames) ∧
    (byteAt request 1 = sgAddressLed →
      byteAt request 3 = sgLedSetColor → frames = []) ∧
    (byteAt request 1 ≠ sgAddressNfc →
      byteAt request 1 ≠ sgAddressLed → frames = [])

theorem dispatchLed_repliedOnce
    (request : List Byte)
    (other : byteAt request 3 ≠ sgLedSetColor) :
    RepliedOnce request (dispatchLed request) := by
  unfold dispatchLed
  rw [if_neg other]
  split
  · exact sendResponse_repliedOnce request 0 (by simp)
  · split
    · exact sendResponse_repliedOnce request 0 (by simp)
    · exact sendResponse_repliedOnce request 1 (by simp)

/--
An accepted request gets the replies it is owed, for every reader state and
every controller, exactly unless it is a FeliCa exchange whose answer is
oversized.
-/
theorem answersOnce_iff
    (reader : ReaderState) (request : List Byte) (world : Pn532World)
    (accepted : Accepted request) :
    AnswersOnce reader request world ↔
      ¬ OversizedAnswer reader request world := by
  have distinct : sgAddressNfc ≠ sgAddressLed := by decide
  unfold AnswersOnce dispatch
  simp only [not_not.mpr accepted, if_false]
  by_cases nfc : byteAt request 1 = sgAddressNfc
  · have notLed : byteAt request 1 ≠ sgAddressLed := by
      rw [nfc]
      exact distinct
    simp only [nfc, if_true, true_implies, distinct, false_implies,
      not_true_eq_false, ne_eq, and_true]
    by_cases encap : byteAt request 3 = SgNfc.felicaEncap.code
    · exact dispatchNfc_felicaEncap_iff reader request world nfc encap
    · apply iff_of_true
      · exact (dispatchNfc_repliedOnce reader request _ encap).run world
      · rintro ⟨-, same, -⟩
        exact encap same
  · have ordinary : ¬ OversizedAnswer reader request world :=
      fun oversized => nfc oversized.1
    refine iff_of_true ⟨fun same => (nfc same).elim, ?_, ?_, ?_⟩ ordinary
    · intro led other
      rw [if_neg nfc, if_pos led]
      exact dispatchLed_repliedOnce request other
    · intro led color
      rw [if_neg nfc, if_pos led]
      simp [dispatchLed, color]
    · intro _ notLed
      rw [if_neg nfc, if_neg notLed]
      rfl

theorem answersOnce_radioOn :
    Accepted [0x05, 0x00, 0x01, 0x40, 0x00] ∧
      AnswersOnce readerInit [0x05, 0x00, 0x01, 0x40, 0x00]
        (fun _ _ => .answering pn532CommandRfConfiguration []) := by
  have accepted : Accepted [0x05, 0x00, 0x01, 0x40, 0x00] := by
    decide
  refine ⟨accepted, (answersOnce_iff _ _ _ accepted).mpr ?_⟩
  rintro ⟨-, impossible, -⟩
  revert impossible
  decide

/-- A FeliCa exchange with a request of two octets. -/
def encapRequest : List Byte :=
  [0x0F, 0x00, 0x01, 0x71, 0x0A, 0, 0, 0, 0, 0, 0, 0, 0, 0x02, 0x06]

/-- A controller which answers every exchange with 250 octets of data. -/
def longAnswerWorld : Pn532World :=
  fun _ _ =>
    .answering pn532CommandInDataExchange (0x00 :: List.replicate 250 0x01)

theorem oversized_answer_unanswered :
    ¬ ∀ reader request world, Accepted request →
      AnswersOnce reader request world := by
  intro claimed
  have replied :=
    (claimed readerInit encapRequest longAnswerWorld (by decide)).1
      (by decide)
  have silent :
      ((dispatch readerInit encapRequest).run longAnswerWorld).2 = [] := by
    decide +kernel
  rw [silent] at replied
  rcases replied with ⟨frame, impossible, -⟩
  cases impossible

end Pareader.Firmware.SegaDispatch
