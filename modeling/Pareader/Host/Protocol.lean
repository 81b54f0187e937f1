import Pareader.Core.Buffer

/-!
# PRHP codecs of the host

The package `protocol` validates the common header of a report and decodes the
operation bodies.  Reports arrive as byte strings of any length, so every
decoder is total on lists and reports its error.
-/

namespace Pareader.Host.Protocol

open Pareader.Core

/-! ## Errors -/

/-- The error codes of the host packages. -/
inductive ErrCode where
  | invalidReport
  | invalidType
  | unexpectedCode
  | unexpectedType
  | unknownCard
  | invalidTimeout
  | sequenceExhausted
  | unknownSequence
  | unknownSignal
  | timeout
  | disconnected
  | contextDone
  | unsupportedVersion
deriving DecidableEq, Repr

/--
A non-nil Go error: a code, a response status, or an error which an opened
device or the operating system produced.
-/
inductive GoError where
  | code (code : ErrCode)
  | status (opcode status : Byte)
  | external (identity : Nat)
deriving DecidableEq, Repr

/-! ## Header -/

def reportSize : Nat := 64

inductive MessageType where
  | request
  | response
  | signal
deriving DecidableEq, Repr

def messageRequest : Byte := 0x01
def messageResponse : Byte := 0x02
def messageSignal : Byte := 0x03

def opcodeGetVersion : Byte := 0x01
def opcodeCardState : Byte := 0x02

def statusSuccess : Byte := 0x00

@[ext]
structure Header where
  type : MessageType
  opcode : Byte
  sequence : UInt16
  status : Byte
deriving DecidableEq, Repr

def decodeHeader (raw : List Byte) : Except GoError Header :=
  if raw.length ≠ reportSize then
    .error (.code .invalidReport)
  else
    let opcode := byteAt raw 1
    let sequence := le16 (byteAt raw 2) (byteAt raw 3)
    let status := byteAt raw 4
    if byteAt raw 0 = messageRequest then
      if sequence = 0 ∨ status ≠ statusSuccess then
        .error (.code .invalidReport)
      else
        .ok ⟨.request, opcode, sequence, status⟩
    else if byteAt raw 0 = messageResponse then
      if sequence = 0 then
        .error (.code .invalidReport)
      else
        .ok ⟨.response, opcode, sequence, status⟩
    else if byteAt raw 0 = messageSignal then
      if sequence ≠ 0 ∨ status ≠ statusSuccess then
        .error (.code .invalidReport)
      else
        .ok ⟨.signal, opcode, sequence, status⟩
    else
      .error (.code .invalidType)

/-- Exactly the well-formed signals decode to a signal header. -/
theorem decodeHeader_signal_iff (raw : List Byte) (header : Header) :
    decodeHeader raw = .ok header ∧ header.type = .signal ↔
      raw.length = reportSize ∧
        byteAt raw 0 = messageSignal ∧
        byteAt raw 2 = 0 ∧ byteAt raw 3 = 0 ∧ byteAt raw 4 = 0 ∧
        header = ⟨.signal, byteAt raw 1, 0, statusSuccess⟩ := by
  unfold decodeHeader
  constructor
  · rintro ⟨decoded, signal⟩
    split at decoded
    · cases decoded
    rename_i length
    dsimp only at decoded
    split at decoded
    · split at decoded
      · cases decoded
      · cases decoded
        cases signal
    · split at decoded
      · split at decoded
        · cases decoded
        · cases decoded
          cases signal
      · split at decoded
        · rename_i messageType
          split at decoded
          · cases decoded
          · rename_i fields
            cases decoded
            simp only [not_or, not_not, ne_eq, le16_eq_zero_iff,
              statusSuccess] at fields length
            rcases fields with ⟨⟨low, high⟩, status⟩
            refine ⟨length, messageType, low, high, status, ?_⟩
            simp [low, high, status, statusSuccess,
              (le16_eq_zero_iff 0 0).mpr ⟨rfl, rfl⟩]
        · cases decoded
  · rintro ⟨length, messageType, low, high, status, rfl⟩
    simp [length, messageType, low, high, status, messageSignal,
      messageRequest, messageResponse, statusSuccess,
      (le16_eq_zero_iff 0 0).mpr ⟨rfl, rfl⟩]

/-! ## Card state -/

inductive CardType where
  | none
  | mifare
  | felica
deriving DecidableEq, Repr

@[ext]
structure Card where
  type : CardType
  luid : Vector Byte 10
  blocks : Vector Byte 32
  idm : Vector Byte 8
deriving DecidableEq, Repr

/-- `Card{Type: CardNone}` -/
def Card.none : Card :=
  ⟨.none, zeros 10, zeros 32, zeros 8⟩

/-- `validateLUID` -/
def validateLUID (luid : Vector Byte 10) : Bool :=
  luid.toList.all
    (fun value => !(decide (value >>> 4 > 9) ||
      decide (value &&& 0x0F > 9)))

/-- The body of a card state, from octet 5 on. -/
def decodeCardBody (raw : List Byte) : Except GoError Card :=
  if byteAt raw 5 = 0x00 then
    .ok Card.none
  else if byteAt raw 5 = 0x01 then
    let card : Card :=
      { Card.none with
        type := .mifare
        luid := load 10 raw 6
        blocks := load 32 raw 16 }
    if validateLUID card.luid then
      .ok card
    else
      .error (.code .invalidReport)
  else if byteAt raw 5 = 0x02 then
    .ok { Card.none with type := .felica, idm := load 8 raw 6 }
  else
    .error (.code .unknownCard)

def decodeCardStateSignal (raw : List Byte) : Except GoError Card :=
  match decodeHeader raw with
  | .error failure => .error failure
  | .ok header =>
      if header.type ≠ .signal then
        .error (.code .unexpectedType)
      else if header.opcode ≠ opcodeCardState then
        .error (.code .unexpectedCode)
      else
        decodeCardBody raw

/-- The reports which the host accepts as a card state. -/
structure CardStateReport (raw : List Byte) : Prop where
  length : raw.length = reportSize
  type : byteAt raw 0 = messageSignal
  opcode : byteAt raw 1 = opcodeCardState
  sequenceLow : byteAt raw 2 = 0
  sequenceHigh : byteAt raw 3 = 0
  status : byteAt raw 4 = 0

theorem decodeHeader_of_cardStateReport
    {raw : List Byte} (report : CardStateReport raw) :
    decodeHeader raw =
      .ok ⟨.signal, opcodeCardState, 0, statusSuccess⟩ := by
  have decoded :=
    (decodeHeader_signal_iff raw
      ⟨.signal, byteAt raw 1, 0, statusSuccess⟩).mpr
      ⟨report.length, report.type, report.sequenceLow,
        report.sequenceHigh, report.status, rfl⟩
  rw [report.opcode] at decoded
  exact decoded.1

theorem decodeCardStateSignal_of_report
    {raw : List Byte} (report : CardStateReport raw) :
    decodeCardStateSignal raw = decodeCardBody raw := by
  simp [decodeCardStateSignal, decodeHeader_of_cardStateReport report]

/-- Acceptance splits into a fixed header and an accepted body. -/
theorem decodeCardStateSignal_ok
    {raw : List Byte} {card : Card}
    (accepted : decodeCardStateSignal raw = .ok card) :
    CardStateReport raw ∧ decodeCardBody raw = .ok card := by
  unfold decodeCardStateSignal at accepted
  split at accepted
  · cases accepted
  · rename_i header decoded
    split at accepted
    · cases accepted
    · rename_i signal
      split at accepted
      · cases accepted
      · rename_i opcode
        rcases
            (decodeHeader_signal_iff raw header).mp
              ⟨decoded, not_not.mp signal⟩ with
          ⟨length, type, low, high, status, rfl⟩
        exact
          ⟨⟨length, type, not_not.mp opcode, low, high, status⟩,
            accepted⟩

/-- The three shapes of an accepted body. -/
theorem decodeCardBody_cases
    {raw : List Byte} {card : Card}
    (accepted : decodeCardBody raw = .ok card) :
    (byteAt raw 5 = 0 ∧ card = Card.none) ∨
      (byteAt raw 5 = 1 ∧
        validateLUID (load 10 raw 6) = true ∧
        card = { Card.none with
          type := .mifare
          luid := load 10 raw 6
          blocks := load 32 raw 16 }) ∨
      (byteAt raw 5 = 2 ∧
        card = { Card.none with type := .felica, idm := load 8 raw 6 }) := by
  unfold decodeCardBody at accepted
  split at accepted
  · rename_i type
    cases accepted
    exact Or.inl ⟨type, rfl⟩
  · split at accepted
    · rename_i type
      dsimp only at accepted
      split at accepted
      · rename_i valid
        cases accepted
        exact Or.inr (Or.inl ⟨type, valid, rfl⟩)
      · cases accepted
    · split at accepted
      · rename_i type
        cases accepted
        exact Or.inr (Or.inr ⟨type, rfl⟩)
      · cases accepted

/-! ## Representations of a card -/

/-- What `Session.AimeID` returns for a card. -/
def Card.aimeID (card : Card) : Option (Vector Byte 10) :=
  if card.type ≠ .mifare then
    .none
  else if card.luid.toList.any (fun value => value != 0) then
    some card.luid
  else
    .none

/-- What `Session.MIFAREBlocks` returns for a card. -/
def Card.mifareBlocks (card : Card) : Option (Vector Byte 32) :=
  if card.type = .mifare then some card.blocks else .none

/-- What `Session.FeliCaID` returns for a card. -/
def Card.feliCaID (card : Card) : Option UInt64 :=
  if card.type ≠ .felica then .none else some (be64 card.idm)

/-! ## Version query -/

structure Version where
  major : Byte
  minor : Byte
deriving DecidableEq, Repr

def newRequest (opcode : Byte) (sequence : UInt16) : List Byte :=
  [messageRequest, opcode, sequence.toUInt8, (sequence >>> 8).toUInt8] ++
    List.replicate 60 0

def encodeGetVersion (sequence : UInt16) : List Byte :=
  newRequest opcodeGetVersion sequence

def validateResponse (raw : List Byte) (opcode : Byte) :
    Except GoError Header :=
  match decodeHeader raw with
  | .error failure => .error failure
  | .ok header =>
      if header.type ≠ .response then
        .error (.code .unexpectedType)
      else if header.opcode ≠ opcode then
        .error (.code .unexpectedCode)
      else if header.status ≠ statusSuccess then
        .error (.status header.opcode header.status)
      else
        .ok header

def decodeGetVersionResponse (raw : List Byte) :
    Except GoError Version :=
  match validateResponse raw opcodeGetVersion with
  | .error failure => .error failure
  | .ok _ => .ok ⟨byteAt raw 5, byteAt raw 6⟩

end Pareader.Host.Protocol
