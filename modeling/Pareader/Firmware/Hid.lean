import Pareader.Firmware.Reader

/-!
# The two HID interfaces of the firmware

`prhp.c` and `cardio.c` encode the same observation for two independent HID
interfaces, and `send_hid` in `usb_device.c` hands a report to TinyUSB.  The
encoders are functions to fixed-size reports.  The state of the USB stack which
one send meets is a link: for each of its attempts it says whether the device
is mounted, whether the endpoint is ready and whether the report is accepted.
-/

namespace Pareader.Firmware.Hid

open Pareader.Core
open Pareader.Firmware.Pn532
open Pareader.Firmware.Reader

/-! ## Handing a report to TinyUSB -/

/-- What one attempt of `send_hid` meets. -/
structure HidAttempt where
  mounted : Bool
  ready : Bool
  accepted : Bool

/-- What the successive attempts of one send meet. -/
abbrev HidLink := Nat → HidAttempt

/-- The remaining attempts of `send_hid`, the next one being `attempt`. -/
def sendHidFrom (link : HidLink) : Nat → Nat → EspResult Unit
  | _, 0 => .error .timeout
  | attempt, remaining + 1 =>
      if ¬ (link attempt).mounted then
        .error .invalidState
      else if (link attempt).ready then
        if (link attempt).accepted then .ok () else .error .fail
      else
        sendHidFrom link (attempt + 1) remaining

def sendHid (link : HidLink) : EspResult Unit :=
  sendHidFrom link 0 100

/-! ## PRHP -/

def prhpReportSize : Nat := 64

/-- One PRHP message. -/
abbrev Report := Vector Byte 64

def prhpRequest : Byte := 0x01
def prhpResponse : Byte := 0x02
def prhpSignal : Byte := 0x03

def prhpGetVersion : Byte := 0x01
def prhpCardState : Byte := 0x02
def prhpSetLed : Byte := 0x03

def prhpSuccess : Byte := 0x00
def prhpUnknownOpcode : Byte := 0x01
def prhpInvalidMessage : Byte := 0x02

/-- `write_le16` at an offset of a report. -/
def writeLe16 (report : Report) (offset : Nat) (value : UInt16) : Report :=
  (report.setIfInBounds offset value.toUInt8).setIfInBounds
    (offset + 1) (value >>> 8).toUInt8

def beginResponse (opcode status : Byte) (sequence : UInt16) : Report :=
  let response := (zeros 64).set 0 prhpResponse
  let response := response.set 1 opcode
  let response := writeLe16 response 2 sequence
  response.set 4 status

/-- The type which PRHP reports for a card. -/
def publishedType (card : ReaderCard) : ReaderCardType :=
  if card.type = .mifare ∧ card.hasBlocks = false then .none else card.type

/-- The report which `prhp_publish_card_state` sends. -/
def prhpPublishCardState (card : ReaderCard) : Report :=
  let signal := (zeros 64).set 0 prhpSignal
  let signal := signal.set 1 prhpCardState
  let signal := signal.set 5 (publishedType card).code
  match publishedType card with
  | .mifare => store (store signal 6 card.luid) 16 card.blocks
  | .felica => store signal 6 card.idm
  | .none => signal

/--
The report which `prhp_dispatch` sends, if any.  `SET_LED` calls
`reader_set_led`, which ignores its arguments.
-/
def prhpDispatch (request : Report) : Option Report :=
  let messageType := request[0]
  let opcode := request[1]
  let sequence := le16 request[2] request[3]
  if request[4] ≠ 0 then
    if messageType = prhpRequest ∧ sequence ≠ 0 then
      some (beginResponse opcode prhpInvalidMessage sequence)
    else
      none
  else if messageType = prhpSignal then
    none
  else if messageType ≠ prhpRequest ∨ sequence = 0 then
    none
  else if opcode = prhpGetVersion then
    let response := beginResponse opcode prhpSuccess sequence
    some ((response.set 5 0).set 6 1)
  else
    some (beginResponse opcode prhpUnknownOpcode sequence)

/-! The fields of a report, as `prhp_dispatch` reads them. -/

def messageTypeOf (report : Report) : Byte := report[0]
def opcodeOf (report : Report) : Byte := report[1]
def sequenceOf (report : Report) : UInt16 := le16 report[2] report[3]
def statusOf (report : Report) : Byte := report[4]

/-- Major and minor version in a response to `GET_VERSION`. -/
def versionOf (report : Report) : Byte × Byte := (report[5], report[6])

/-- A report which carries a card state. -/
def isCardState (report : Report) : Bool :=
  report[0] == prhpSignal && report[1] == prhpCardState

/-! ## CardIO -/

def cardioReportMifare : Byte := 0x01
def cardioReportFelica : Byte := 0x02

/-- Report ID and card ID which `cardio_publish_card_state` sends. -/
def cardioPublishCardState (current : ReaderCard) : Byte × Vector Byte 8 :=
  match current.type with
  | .felica => (cardioReportFelica, current.idm)
  | .mifare =>
      let uid := current.mifareUid
      (cardioReportMifare,
        #v[0xE0, 0x04, uid[0], uid[1], uid[2], uid[3], uid[0], uid[1]])
  | .none => (0, zeros 8)

/-! ## The shape of the reports -/

section Fields

variable (buffer : List Byte)

@[simp]
theorem messageTypeOf_load :
    messageTypeOf (load 64 buffer 0) = byteAt buffer 0 := by
  rw [messageTypeOf, getElem_load]

@[simp]
theorem opcodeOf_load : opcodeOf (load 64 buffer 0) = byteAt buffer 1 := by
  rw [opcodeOf, getElem_load]

@[simp]
theorem sequenceOf_load :
    sequenceOf (load 64 buffer 0) =
      le16 (byteAt buffer 2) (byteAt buffer 3) := by
  rw [sequenceOf, getElem_load, getElem_load]

@[simp]
theorem statusOf_load : statusOf (load 64 buffer 0) = byteAt buffer 4 := by
  rw [statusOf, getElem_load]

@[simp]
theorem versionOf_load :
    versionOf (load 64 buffer 0) = (byteAt buffer 5, byteAt buffer 6) := by
  rw [versionOf, getElem_load, getElem_load]

end Fields

/-- The header of a published card state is constant. -/
theorem prhpPublishCardState_header (card : ReaderCard) :
    (prhpPublishCardState card)[0] = prhpSignal ∧
      (prhpPublishCardState card)[1] = prhpCardState ∧
      (prhpPublishCardState card)[2] = 0 ∧
      (prhpPublishCardState card)[3] = 0 ∧
      (prhpPublishCardState card)[4] = 0 ∧
      (prhpPublishCardState card)[5] = (publishedType card).code := by
  unfold prhpPublishCardState
  cases publishedType card <;>
    simp [getElem_store]

@[simp]
theorem isCardState_publish (card : ReaderCard) :
    isCardState (prhpPublishCardState card) = true := by
  rcases prhpPublishCardState_header card with ⟨messageType, opcode, -⟩
  simp [isCardState, messageType, opcode]

theorem load_luid_publish
    {card : ReaderCard} (published : publishedType card = .mifare) :
    load 10 (prhpPublishCardState card).toList 6 = card.luid := by
  unfold prhpPublishCardState
  simp only [published]
  rw [load_store_before _ _ _ _ (by omega) (by omega),
    load_store_same _ _ _ (by omega)]

theorem load_blocks_publish
    {card : ReaderCard} (published : publishedType card = .mifare) :
    load 32 (prhpPublishCardState card).toList 16 = card.blocks := by
  unfold prhpPublishCardState
  simp only [published]
  rw [load_store_same _ _ _ (by omega)]

theorem load_idm_publish
    {card : ReaderCard} (published : publishedType card = .felica) :
    load 8 (prhpPublishCardState card).toList 6 = card.idm := by
  unfold prhpPublishCardState
  simp only [published]
  rw [load_store_same _ _ _ (by omega)]

/-- Every report sent by the dispatcher is a response. -/
theorem prhpDispatch_response
    {request report : Report}
    (sent : prhpDispatch request = some report) :
    report[0] = prhpResponse := by
  have begun : ∀ opcode status sequence,
      (beginResponse opcode status sequence)[0] = prhpResponse := by
    intro opcode status sequence
    simp [beginResponse, writeLe16]
  unfold prhpDispatch at sent
  dsimp only at sent
  split at sent
  · split at sent
    · cases sent
      exact begun _ _ _
    · cases sent
  · split at sent
    · cases sent
    · split at sent
      · cases sent
      · split at sent
        · cases sent
          simp [begun]
        · cases sent
          exact begun _ _ _

theorem isCardState_dispatch
    {request report : Report}
    (sent : prhpDispatch request = some report) :
    isCardState report = false := by
  have response := prhpDispatch_response sent
  simp [isCardState, response, prhpResponse, prhpSignal]

/-! ## What the reports distinguish -/

/-- Two observations agree on everything PRHP publishes of them. -/
structure SamePrhp (first second : ReaderCard) : Prop where
  type : publishedType first = publishedType second
  luid : publishedType first = .mifare → first.luid = second.luid
  blocks : publishedType first = .mifare → first.blocks = second.blocks
  idm : publishedType first = .felica → first.idm = second.idm

/-- Two observations agree on everything CardIO publishes of them. -/
structure SameCardio (first second : ReaderCard) : Prop where
  type : first.type = second.type
  uid : first.type = .mifare → first.mifareUid = second.mifareUid
  idm : first.type = .felica → first.idm = second.idm

theorem ReaderCardType.code_injective
    {first second : ReaderCardType} (same : first.code = second.code) :
    first = second := by
  cases first <;> cases second <;> first | rfl | cases same

/-- PRHP reports are equal exactly when the published fields are. -/
theorem prhpPublishCardState_eq_iff (first second : ReaderCard) :
    prhpPublishCardState first = prhpPublishCardState second ↔
      SamePrhp first second := by
  constructor
  · intro same
    have type : publishedType first = publishedType second := by
      rcases prhpPublishCardState_header first with ⟨-, -, -, -, -, firstType⟩
      rcases prhpPublishCardState_header second with
        ⟨-, -, -, -, -, secondType⟩
      apply ReaderCardType.code_injective
      rw [← firstType, ← secondType, same]
    refine ⟨type, ?_, ?_, ?_⟩
    · intro mifare
      rw [← load_luid_publish mifare, same,
        load_luid_publish (type ▸ mifare)]
    · intro mifare
      rw [← load_blocks_publish mifare, same,
        load_blocks_publish (type ▸ mifare)]
    · intro felica
      rw [← load_idm_publish felica, same,
        load_idm_publish (type ▸ felica)]
  · intro same
    unfold prhpPublishCardState
    rw [← same.type]
    cases known : publishedType first with
    | none => rfl
    | mifare => simp only [same.luid known, same.blocks known]
    | felica => simp only [same.idm known]

/-- CardIO reports are equal exactly when the published fields are. -/
theorem cardioPublishCardState_eq_iff (first second : ReaderCard) :
    cardioPublishCardState first = cardioPublishCardState second ↔
      SameCardio first second := by
  constructor
  · intro same
    unfold cardioPublishCardState at same
    cases firstType : first.type <;> cases secondType : second.type <;>
      simp only [firstType, secondType, Prod.mk.injEq] at same
    case none.none => exact ⟨by simp [*], by simp [*], by simp [*]⟩
    case mifare.mifare =>
      refine ⟨by simp [*], fun _ => ?_, by simp [*]⟩
      apply Vector.ext
      intro index inside
      have byte := Vector.ext_iff.mp same.2 (index + 2) (by omega)
      match index, inside, byte with
      | 0, _, byte => exact byte
      | 1, _, byte => exact byte
      | 2, _, byte => exact byte
      | 3, _, byte => exact byte
    case felica.felica =>
      exact ⟨by simp [*], by simp [*], fun _ => same.2⟩
    all_goals exact absurd same.1 (by decide)
  · intro same
    unfold cardioPublishCardState
    rw [← same.type]
    cases known : first.type with
    | none => rfl
    | mifare => simp only [same.uid known]
    | felica => simp only [same.idm known]

end Pareader.Firmware.Hid
