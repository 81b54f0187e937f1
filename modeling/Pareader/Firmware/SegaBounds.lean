import Pareader.Firmware.DriverBounds
import Pareader.Firmware.SegaDispatch

/-!
# Array bounds of the SEGA port

`sega_receive` and everything it calls, with the arrays of the source: the
parser's buffer of 257 octets, the two buffers of `send_response`, the buffers
of the handlers, and below them those of the driver.  A handler is given the
payload of its request as a view of exactly the announced size, so that reading
past it is a fault like any other.

The host chooses the octets of the stream, the controller those of its replies.
No choice of either leads to a fault: the program with arrays refines the one
without.
-/

namespace Pareader.Firmware.SegaBounds

open Pareader.Core
open Pareader.Core.Checked
open Pareader.Core.Guarded
open Pareader.Firmware.Pn532
open Pareader.Firmware.Reader
open Pareader.Firmware.SegaFraming
open Pareader.Firmware.SegaDispatch
open Pareader.Firmware.DriverBounds

/-! ## Responses -/

/-- `encode_byte`, which appends to an array at its size. -/
def checkedEncodeByte (byte : Byte) (output : List Byte) (size : Nat) :
    Checked (List Byte × Nat) :=
  if byte = sgEscape ∨ byte = sgSync then do
    let output ← writeAt output size sgEscape
    let output ← writeAt output (size + 1) (byte - 1)
    return (output, size + 2)
  else do
    let output ← writeAt output size byte
    return (output, size + 1)

/-- The loop of `send_response`, from an index on. -/
def checkedEncodeBytes (decoded : List Byte) :
    (index count : Nat) → (encoded : List Byte) → (size : Nat) →
      (checksum : Byte) → Checked (List Byte × Nat × Byte)
  | _, 0, encoded, size, checksum => .ok (encoded, size, checksum)
  | index, count + 1, encoded, size, checksum => do
      let byte ← readAt decoded index
      let (encoded, size) ← checkedEncodeByte byte encoded size
      checkedEncodeBytes decoded (index + 1) count encoded size
        (checksum + byte)

/-- The part of `send_response` which fills `decoded`. -/
def checkedDecodedResponse
    (request : List Byte) (status : Byte) (payload : List Byte)
    (payloadSize : Nat) : Checked (List Byte) := do
  let decoded := List.replicate 256 0
  let announced ← narrow (6 + payloadSize)
  let decoded ← writeAt decoded 0 announced
  let address ← readAt request 1
  let decoded ← writeAt decoded 1 address
  let sequence ← readAt request 2
  let decoded ← writeAt decoded 2 sequence
  let command ← readAt request 3
  let decoded ← writeAt decoded 3 command
  let decoded ← writeAt decoded 4 status
  let length ← narrow payloadSize
  let decoded ← writeAt decoded 5 length
  let octets ← viewOf payload 0 payloadSize
  copyTo decoded 6 octets

/-- The part of `send_response` which fills `encoded`, and what it sends. -/
def checkedEncodeFrame (decoded : List Byte) (decodedSize : Nat) :
    Checked (List Byte) := do
  let encoded ← writeAt (List.replicate 520 0) 0 sgSync
  let (encoded, encodedSize, checksum) ←
    checkedEncodeBytes decoded 0 decodedSize encoded 1 0
  let (encoded, encodedSize) ←
    checkedEncodeByte checksum encoded encodedSize
  viewOf encoded 0 encodedSize

/-- `send_response`, with the octets handed to `usb_device_send_cdc`. -/
def checkedSendResponse
    (request : List Byte) (status : Byte) (payload : List Byte)
    (payloadSize : Nat) : Checked (List (List Byte)) :=
  if payloadSize > 249 then
    .ok []
  else do
    let decoded ←
      checkedDecodedResponse request status payload payloadSize
    let sent ← checkedEncodeFrame decoded (6 + payloadSize)
    return [sent]

theorem checkedEncodeByte_spec
    (byte : Byte) {size : Nat} {content output : List Byte}
    (filled : Buffered size content output)
    (room : content.length + 2 ≤ size) :
    ∃ next,
      checkedEncodeByte byte output content.length =
          .ok (next, (content ++ encodeByte byte).length) ∧
        Buffered size (content ++ encodeByte byte) next := by
  unfold checkedEncodeByte encodeByte
  split
  · rcases filled.write sgEscape rfl (by omega) with
      ⟨escaped, wrote, filledEscape⟩
    rcases
        filledEscape.write (byte - 1)
          (show _ = content.length + 1 by simp) (by omega) with
      ⟨next, wroteNext, filledNext⟩
    rw [List.append_assoc] at filledNext
    refine ⟨next, ?_, filledNext⟩
    rw [wrote, ok_bind, wroteNext, ok_bind, List.length_append]
    rfl
  · rcases filled.write byte rfl (by omega) with ⟨next, wrote, filledNext⟩
    refine ⟨next, ?_, filledNext⟩
    rw [wrote, ok_bind, List.length_append]
    rfl

/-- Run lemma of the loop: it appends the escaped octets. -/
theorem checkedEncodeBytes_spec
    {decoded : List Byte} {index count : Nat}
    (inside : index + count ≤ decoded.length)
    {size : Nat} {content encoded : List Byte}
    (filled : Buffered size content encoded)
    (room : content.length + 2 * count ≤ size) (checksum : Byte) :
    let appended := content ++ encodeBytes (slice decoded index count)
    ∃ next,
      checkedEncodeBytes decoded index count encoded content.length
          checksum =
        .ok (next, appended.length,
          checksum + (slice decoded index count).sum) ∧
      Buffered size appended next := by
  induction count generalizing index content encoded checksum with
  | zero =>
      refine ⟨encoded, ?_, ?_⟩
      · simp [checkedEncodeBytes, slice, encodeBytes]
      · simpa [slice, encodeBytes] using filled
  | succ count induction =>
      rcases
          checkedEncodeByte_spec (byteAt decoded index) filled
            (by omega) with
        ⟨middle, encodedByte, filledMiddle⟩
      have grown := length_encodeByte_le (byteAt decoded index)
      rcases
          @induction (index + 1) (by omega) _ _ filledMiddle
            (by rw [List.length_append]; omega)
            (checksum + byteAt decoded index) with
        ⟨next, encodedRest, filledNext⟩
      have split :
          slice decoded index (count + 1) =
            byteAt decoded index :: slice decoded (index + 1) count :=
        slice_cons (by omega) count
      have appended :
          content ++ encodeBytes (slice decoded index (count + 1)) =
            content ++ encodeByte (byteAt decoded index) ++
              encodeBytes (slice decoded (index + 1) count) := by
        rw [split, List.append_assoc]
        simp [encodeBytes]
      dsimp only
      rw [appended, split, List.sum_cons, ← UInt8.add_assoc]
      refine ⟨next, ?_, filledNext⟩
      rw [checkedEncodeBytes, readAt_eq (by omega), ok_bind, encodedByte,
        ok_bind]
      exact encodedRest

/-- The array `decoded` starts with the response. -/
theorem checkedDecodedResponse_spec
    {size : Nat} {content request : List Byte}
    (filled : Buffered size content request) (framed : 4 ≤ content.length)
    (status : Byte) {payload : List Byte} {payloadSize : Nat}
    (inside : payloadSize ≤ payload.length)
    (small : payloadSize ≤ 249) :
    ∃ decoded,
      checkedDecodedResponse request status payload payloadSize =
          .ok decoded ∧
        Buffered 256
          (decodedResponse content status (payload.take payloadSize))
          decoded := by
  have length : (payload.take payloadSize).length = payloadSize :=
    List.length_take_of_le inside
  have octets :
      viewOf payload 0 payloadSize = .ok (payload.take payloadSize) := by
    rw [viewOf_eq (by omega)]
    rfl
  rcases
      (Buffered.zeros 256).write (UInt8.ofNat (6 + payloadSize))
        (show _ = 0 from rfl) (by decide) with
    ⟨decoded0, write0, filled0⟩
  rcases
      filled0.write (byteAt content 1) (show _ = 1 from rfl)
        (by decide) with
    ⟨decoded1, write1, filled1⟩
  rcases
      filled1.write (byteAt content 2) (show _ = 2 from rfl)
        (by decide) with
    ⟨decoded2, write2, filled2⟩
  rcases
      filled2.write (byteAt content 3) (show _ = 3 from rfl)
        (by decide) with
    ⟨decoded3, write3, filled3⟩
  rcases filled3.write status (show _ = 4 from rfl) (by decide) with
    ⟨decoded4, write4, filled4⟩
  rcases
      filled4.write (UInt8.ofNat payloadSize) (show _ = 5 from rfl)
        (by decide) with
    ⟨decoded5, write5, filled5⟩
  rcases
      filled5.copy (payload.take payloadSize) (show _ = 6 from rfl)
        (by omega) with
    ⟨decoded6, write6, filled6⟩
  refine ⟨decoded6, ?_, ?_⟩
  · unfold checkedDecodedResponse
    dsimp only
    rw [narrow_eq (by omega), ok_bind, write0, ok_bind,
      filled.read (by omega), ok_bind, write1, ok_bind,
      filled.read (by omega), ok_bind, write2, ok_bind,
      filled.read (by omega), ok_bind, write3, ok_bind, write4, ok_bind,
      narrow_eq (by omega), ok_bind, write5, ok_bind, octets, ok_bind,
      write6]
  · rw [decodedResponse, length]
    exact filled6

/-- The frame of what an array starts with. -/
theorem checkedEncodeFrame_eq
    {decoded array : List Byte} (filled : Buffered 256 decoded array)
    (small : decoded.length < 256) :
    checkedEncodeFrame array decoded.length =
      .ok (encodeFrame decoded) := by
  rcases
      (Buffered.zeros 520).write sgSync (show _ = 0 from rfl)
        (by decide) with
    ⟨encoded0, sync, synced⟩
  have inside : 0 + decoded.length ≤ array.length := by
    rw [filled.length]
    omega
  rcases
      checkedEncodeBytes_spec inside synced
        (by rw [List.nil_append, List.length_singleton]; omega) 0 with
    ⟨encoded1, encodedBytes, filledBytes⟩
  have whole : slice array 0 decoded.length = decoded := by
    rw [slice, List.drop_zero]
    exact filled.take_eq rfl
  rw [whole, UInt8.zero_add] at encodedBytes
  rw [whole] at filledBytes
  have escapedLength := length_encodeBytes_le decoded
  rcases
      checkedEncodeByte_spec decoded.sum filledBytes
        (by
          rw [List.nil_append, List.length_append, List.length_singleton]
          omega) with
    ⟨encoded2, encodedSum, filledSum⟩
  have frame :
      [] ++ [sgSync] ++ encodeBytes decoded ++ encodeByte decoded.sum =
        encodeFrame decoded := by
    simp [encodeFrame, encodeBytes]
  rw [checkedEncodeFrame, sync, ok_bind]
  change
    (checkedEncodeBytes array 0 decoded.length encoded0
      ([] ++ [sgSync]).length 0 >>= _) = _
  rw [encodedBytes, ok_bind]
  dsimp only
  rw [encodedSum, ok_bind]
  dsimp only
  rw [filledSum.view rfl, frame]

/-- `send_response` sends the response to the request in its array. -/
theorem checkedSendResponse_eq
    {size : Nat} {content request : List Byte}
    (filled : Buffered size content request) (framed : 4 ≤ content.length)
    (status : Byte) {payload : List Byte} {payloadSize : Nat}
    (inside : payloadSize ≤ payload.length) :
    checkedSendResponse request status payload payloadSize =
      .ok (sendResponse content status (payload.take payloadSize)) := by
  have length : (payload.take payloadSize).length = payloadSize :=
    List.length_take_of_le inside
  unfold checkedSendResponse sendResponse
  rw [length]
  split
  · rfl
  · rename_i small
    rcases
        checkedDecodedResponse_spec filled framed status inside
          (by omega) with
      ⟨array, stored, starts⟩
    have decodedLength :
        (decodedResponse content status
          (payload.take payloadSize)).length = 6 + payloadSize := by
      simp [decodedResponse, inside]
      omega
    have encoded := checkedEncodeFrame_eq starts (by omega)
    rw [decodedLength] at encoded
    rw [stored, ok_bind, encoded, ok_bind]
    rfl

/-! ## Handlers -/

/-- `dispatch_led`; the colour is read and has no effect. -/
def checkedDispatchLed (request payload : List Byte) :
    Checked (List (List Byte)) := do
  let command ← readAt request 3
  if command = sgLedSetColor then
    if payload.length = 3 then
      let _ ← readAt payload 0
      let _ ← readAt payload 1
      let _ ← readAt payload 2
      return []
    else
      return []
  else if command = sgLedReset then
    checkedSendResponse request 0 [0] 1
  else if command = sgLedGetInfo then
    checkedSendResponse request 0
      [0x30, 0x30, 0x30, 0x2D, 0x30, 0x30, 0x30, 0x30, 0x30, 0xFF, 0x11,
        0x40] 12
  else
    checkedSendResponse request 1 [] 0

/-- The final `send_response` of `dispatch_nfc`. -/
def checkedSendStatus (request : List Byte) (outcome : EspResult Unit) :
    Checked (List (List Byte)) :=
  match outcome with
  | .ok () => checkedSendResponse request 0 [] 0
  | .error _ => checkedSendResponse request 1 [] 0

/-- The response array of `POLL` and how much of it is sent. -/
def checkedPollPayload (card : ReaderCard) :
    Checked (List Byte × Nat) :=
  let response := List.replicate 19 0
  match card.type with
  | .mifare => do
      let response ← writeAt response 0 0x01
      let response ← writeAt response 1 0x10
      let response ← writeAt response 2 0x04
      let response ← copyTo response 3 card.mifareUid.toList
      return (response, 7)
  | .felica => do
      let response ← writeAt response 0 0x01
      let response ← writeAt response 1 0x20
      let response ← writeAt response 2 0x10
      let response ← copyTo response 3 card.idm.toList
      let response ← copyTo response 11 card.pmm.toList
      return (response, 19)
  | .none => return (response, 1)

/-- The reply to a command whose data stands in an array. -/
def checkedSendData
    (request : List Byte) (outcome : EspResult (List Byte × Nat)) :
    Checked (List (List Byte)) :=
  match outcome with
  | .ok (response, size) => checkedSendResponse request 0 response size
  | .error failure => checkedSendStatus request (.error failure)

/-- The reply of `POLL`. -/
def checkedSendPoll
    (request : List Byte) (outcome : EspResult ReaderCard) :
    Checked (List (List Byte)) :=
  match outcome with
  | .ok card => do
      let (response, size) ← checkedPollPayload card
      checkedSendResponse request 0 response size
  | .error failure => checkedSendStatus request (.error failure)

/-- `FELICA_ENCAP`, which forwards a part of its payload. -/
def checkedFelicaEncap
    (reader : ReaderState) (request payload : List Byte) :
    CheckedDriver (ReaderState × List (List Byte)) := do
  if payload.length < 9 then
    let frames ← checkedSendStatus request (.error .invalidSize)
    return (reader, frames)
  else
    let length ← readAt payload 8
    if payload.length ≠ 8 + length.toNat then
      let frames ← checkedSendStatus request (.error .invalidSize)
      return (reader, frames)
    else
      let forwarded ← viewOf payload 8 (payload.length - 8)
      let outcome ←
        checkedReaderFelicaTransact reader forwarded length.toNat
          (List.replicate 250 0) 250
      let frames ← checkedSendData request outcome
      return (reader, frames)

/-- `dispatch_nfc`, where the payload is a view of the announced size. -/
def checkedDispatchNfc
    (reader : ReaderState) (request payload : List Byte) :
    CheckedDriver (ReaderState × List (List Byte)) := do
  let command ← readAt request 3
  match SgNfc.ofCode command with
  | none =>
      let frames ← checkedSendResponse request 1 [] 0
      return (reader, frames)
  | some .reset =>
      let frames ← checkedSendResponse request 3 [] 0
      return (reader, frames)
  | some .getFwVersion =>
      let frames ← checkedSendResponse request 0 [0x94] 1
      return (reader, frames)
  | some .getHwVersion =>
      let frames ←
        checkedSendResponse request 0
          [0x38, 0x33, 0x37, 0x2D, 0x31, 0x35, 0x32, 0x38, 0x36] 9
      return (reader, frames)
  | some .radioOn =>
      let (outcome, reader) ← checkedReaderRadioSet reader true
      let frames ← checkedSendStatus request outcome
      return (reader, frames)
  | some .radioOff =>
      let (outcome, reader) ← checkedReaderRadioSet reader false
      let frames ← checkedSendStatus request outcome
      return (reader, frames)
  | some .poll =>
      let (outcome, reader) ← checkedReaderReadCard reader
      let frames ← checkedSendPoll request outcome
      return (reader, frames)
  | some .mifareSelectTag =>
      if payload.length ≠ 4 then
        let frames ← checkedSendStatus request (.error .invalidSize)
        return (reader, frames)
      else
        let uid ← loadFrom 4 payload 0
        let frames ←
          checkedSendStatus request (readerMifareSelect reader uid)
        return (reader, frames)
  | some .mifareSetKeyAime =>
      if payload.length ≠ 6 then
        let frames ← checkedSendStatus request (.error .invalidSize)
        return (reader, frames)
      else
        let key ← loadFrom 6 payload 0
        let (outcome, reader) :=
          readerMifareSetKey reader readerKeyAime key
        let frames ← checkedSendStatus request outcome
        return (reader, frames)
  | some .mifareSetKeyBana =>
      if payload.length ≠ 6 then
        let frames ← checkedSendStatus request (.error .invalidSize)
        return (reader, frames)
      else
        let key ← loadFrom 6 payload 0
        let (outcome, reader) :=
          readerMifareSetKey reader readerKeyBana key
        let frames ← checkedSendStatus request outcome
        return (reader, frames)
  | some .mifareAuthenticateAime =>
      let (outcome, reader) :=
        readerMifareAuthenticate reader readerKeyAime
      let frames ← checkedSendStatus request outcome
      return (reader, frames)
  | some .mifareAuthenticateBana =>
      let (outcome, reader) :=
        readerMifareAuthenticate reader readerKeyBana
      let frames ← checkedSendStatus request outcome
      return (reader, frames)
  | some .mifareReadBlock =>
      if payload.length ≠ 5 then
        let frames ← checkedSendStatus request (.error .invalidSize)
        return (reader, frames)
      else
        let uid ← loadFrom 4 payload 0
        let blockNumber ← readAt payload 4
        let outcome ←
          checkedReaderMifareReadBlock reader uid blockNumber
        let frames ←
          checkedSendData request
            (outcome.map (fun block => (block.toList, 16)))
        return (reader, frames)
  | some .felicaEncap => checkedFelicaEncap reader request payload
  | some .toUpdateMode =>
      let frames ← checkedSendStatus request (.ok ())
      return (reader, frames)
  | some .sendHexData =>
      let frames ←
        checkedSendResponse request
          (if payload.length = 0x2B then 0x20 else 0) [] 0
      return (reader, frames)

/-- `dispatch` of the first `size` octets of an array. -/
def checkedDispatch
    (reader : ReaderState) (request : List Byte) (size : Nat) :
    CheckedDriver (ReaderState × List (List Byte)) := do
  if size < 5 then
    return (reader, [])
  else
    let announced ← readAt request 0
    let length ← readAt request 4
    if announced.toNat ≠ size ∨ length.toNat ≠ size - 5 then
      return (reader, [])
    else
      let payload ← viewOf request 5 length.toNat
      let address ← readAt request 1
      if address = sgAddressNfc then
        checkedDispatchNfc reader request payload
      else if address = sgAddressLed then
        let frames ← checkedDispatchLed request payload
        return (reader, frames)
      else
        return (reader, [])

/-- A response array of which a part is sent. -/
theorem checkedPollPayload_spec (card : ReaderCard) :
    ∃ array count,
      checkedPollPayload card = .ok (array, count) ∧
        Buffered 19 (pollPayload card) array ∧
        (pollPayload card).length = count := by
  have start := Buffered.zeros 19
  unfold checkedPollPayload pollPayload
  cases card.type with
  | none =>
      refine ⟨List.replicate 19 0, 1, rfl, ⟨rfl, ?_⟩, rfl⟩
      exact ⟨List.replicate 18 0, rfl⟩
  | mifare =>
      rcases start.write 0x01 (show _ = 0 from rfl) (by decide) with
        ⟨array0, write0, filled0⟩
      rcases filled0.write 0x10 (show _ = 1 from rfl) (by decide) with
        ⟨array1, write1, filled1⟩
      rcases filled1.write 0x04 (show _ = 2 from rfl) (by decide) with
        ⟨array2, write2, filled2⟩
      rcases
          filled2.copy card.mifareUid.toList (show _ = 3 from rfl)
            (by simp) with
        ⟨array3, write3, filled3⟩
      refine ⟨array3, 7, ?_, filled3, by simp⟩
      dsimp only
      rw [write0, ok_bind, write1, ok_bind, write2, ok_bind, write3]
      rfl
  | felica =>
      rcases start.write 0x01 (show _ = 0 from rfl) (by decide) with
        ⟨array0, write0, filled0⟩
      rcases filled0.write 0x20 (show _ = 1 from rfl) (by decide) with
        ⟨array1, write1, filled1⟩
      rcases filled1.write 0x10 (show _ = 2 from rfl) (by decide) with
        ⟨array2, write2, filled2⟩
      rcases
          filled2.copy card.idm.toList (show _ = 3 from rfl)
            (by simp) with
        ⟨array3, write3, filled3⟩
      rcases
          filled3.copy card.pmm.toList (show _ = 11 by simp)
            (by simp) with
        ⟨array4, write4, filled4⟩
      refine ⟨array4, 19, ?_, filled4, by simp⟩
      dsimp only
      rw [write0, ok_bind, write1, ok_bind, write2, ok_bind, write3,
        ok_bind, write4]
      rfl

/-- A block is a whole array. -/
theorem delivered_block (outcome : EspResult (Vector Byte 16)) :
    Delivered 16 (outcome.map (fun block => (block.toList, 16)))
      (outcome.map (fun block => block.toList)) := by
  cases outcome with
  | error failure => rfl
  | ok block =>
      refine ⟨block.length_toList.symm, block.length_toList, ?_⟩
      exact List.prefix_refl _

/-- A handler which replies and leaves the reader. -/
theorem refines_reply
    {access : Checked (List (List Byte))} {frames : List (List Byte)}
    (reader : ReaderState) (inside : access = .ok frames) :
    Refines Eq
      (liftM access >>= fun frames =>
        (pure (reader, frames) :
          CheckedDriver (ReaderState × List (List Byte))))
      (.done (reader, frames)) :=
  Refines.check inside (Refines.done rfl)

section Handlers

variable {size : Nat} {content request : List Byte}
variable (filled : Buffered size content request)
variable (framed : 5 ≤ content.length)

include filled framed

/-- A response whose payload is a whole array. -/
theorem checkedSendResponse_whole (status : Byte) {payload : List Byte}
    {count : Nat} (whole : payload.length = count) :
    checkedSendResponse request status payload count =
      .ok (sendResponse content status payload) := by
  rw [checkedSendResponse_eq filled (by omega) status
    (Nat.le_of_eq whole.symm), List.take_of_length_le
    (Nat.le_of_eq whole)]

theorem checkedSendStatus_eq (outcome : EspResult Unit) :
    checkedSendStatus request outcome =
      .ok (sendStatus content outcome) := by
  cases outcome with
  | error failure =>
      exact checkedSendResponse_whole filled framed 1 rfl
  | ok completed =>
      exact checkedSendResponse_whole filled framed 0 rfl

/-- A response whose payload is what an array starts with. -/
theorem checkedSendResponse_filled {capacity count : Nat}
    {payload array : List Byte} (stored : Buffered capacity payload array)
    (whole : payload.length = count) :
    checkedSendResponse request 0 array count =
      .ok (sendResponse content 0 payload) := by
  have bound := stored.starts.length_le
  rw [checkedSendResponse_eq filled (by omega) 0 (by omega),
    stored.take_eq whole]

theorem checkedSendData_eq {capacity : Nat}
    {outcome : EspResult (List Byte × Nat)}
    {plain : EspResult (List Byte)}
    (delivered : Delivered capacity outcome plain) :
    checkedSendData request outcome = .ok (sendData content plain) := by
  rcases outcome with failure | ⟨array, count⟩
  · rcases plain with expected | payload
    · exact checkedSendStatus_eq filled framed (.error failure)
    · exact delivered.elim
  · rcases plain with expected | payload
    · exact delivered.elim
    · exact checkedSendResponse_filled filled framed delivered.2
        delivered.1.symm

theorem checkedSendPoll_eq (outcome : EspResult ReaderCard) :
    checkedSendPoll request outcome =
      .ok (sendData content (outcome.map pollPayload)) := by
  cases outcome with
  | error failure =>
      exact checkedSendStatus_eq filled framed (.error failure)
  | ok card =>
      rcases checkedPollPayload_spec card with
        ⟨array, count, stored, starts, whole⟩
      rw [checkedSendPoll, stored, ok_bind]
      exact checkedSendResponse_filled filled framed starts whole

theorem checkedDispatchLed_eq (payload : List Byte) :
    checkedDispatchLed request payload = .ok (dispatchLed content) := by
  unfold checkedDispatchLed dispatchLed
  rw [filled.read (by omega), ok_bind]
  split
  · split
    · rename_i color
      rw [readAt_eq (by omega), ok_bind, readAt_eq (by omega), ok_bind,
        readAt_eq (by omega), ok_bind]
      rfl
    · rfl
  · split
    · exact checkedSendResponse_whole filled framed 0 rfl
    · split
      · exact checkedSendResponse_whole filled framed 0 rfl
      · exact checkedSendResponse_whole filled framed 1 rfl

/-- What `FELICA_ENCAP` forwards lies in its payload. -/
theorem checkedFelicaEncap_refines
    (reader : ReaderState) (payload : List Byte) :
    Refines Eq (checkedFelicaEncap reader request payload)
      ((felicaRequest payload).elim
        (.done (reader, sendStatus content (.error .invalidSize)))
        (fun forwarded => do
          let outcome ← readerFelicaTransact reader forwarded 250
          return (reader, sendData content outcome))) := by
  have rejected :=
    refines_reply reader
      (checkedSendStatus_eq filled framed (.error .invalidSize))
  unfold checkedFelicaEncap felicaRequest
  by_cases short : payload.length < 9
  · rw [if_pos short, if_pos (Or.inl short)]
    exact rejected
  · rw [if_neg short]
    refine Refines.check (readAt_eq (by omega)) ?_
    by_cases sized : payload.length = 8 + (byteAt payload 8).toNat
    · have announced : (byteAt payload 8).toNat = payload.length - 8 := by
        omega
      have fits :
          ¬ (payload.length < 9 ∨
            payload.length ≠ 8 + (byteAt payload 8).toNat) := by
        omega
      have whole :
          (slice payload 8 (payload.length - 8)).length =
            payload.length - 8 := by
        rw [slice, List.length_take, List.length_drop]
        omega
      rw [if_neg (not_not.mpr sized), if_neg fits]
      refine Refines.check (viewOf_eq (by omega)) ?_
      have transacted :=
        @checkedFelicaTransact_refines reader.activeFelica.target
          (slice payload 8 (payload.length - 8)) (List.replicate 250 0)
          (byteAt payload 8).toNat 250 (by omega)
          (Nat.le_of_eq List.length_replicate.symm)
      rw [List.take_of_length_le (by omega), ← announced] at transacted
      rw [← announced]
      refine Refines.bind transacted ?_
      intro outcome plain delivered
      exact refines_reply reader
        (checkedSendData_eq filled framed delivered)
    · rw [if_pos sized, if_pos (Or.inr sized)]
      exact rejected

theorem checkedDispatchNfc_refines
    (reader : ReaderState) (payload : List Byte) :
    Refines Eq (checkedDispatchNfc reader request payload)
      (dispatchNfc reader content payload) := by
  have status := checkedSendStatus_eq filled framed
  have response := @checkedSendResponse_whole size content request filled
    framed
  have rejected :=
    refines_reply reader (status (.error .invalidSize))
  unfold checkedDispatchNfc dispatchNfc
  refine Refines.check (filled.read (by omega)) ?_
  cases SgNfc.ofCode (byteAt content 3) with
  | none => exact refines_reply reader (response 1 rfl)
  | some command =>
    cases command with
    | reset => exact refines_reply reader (response 3 rfl)
    | getFwVersion => exact refines_reply reader (response 0 rfl)
    | getHwVersion => exact refines_reply reader (response 0 rfl)
    | radioOn =>
        refine Refines.bind (checkedReaderRadioSet_refines _ _) ?_
        rintro ⟨outcome, next⟩ _ rfl
        exact refines_reply next (status outcome)
    | radioOff =>
        refine Refines.bind (checkedReaderRadioSet_refines _ _) ?_
        rintro ⟨outcome, next⟩ _ rfl
        exact refines_reply next (status outcome)
    | poll =>
        refine Refines.bind (checkedReaderReadCard_refines _) ?_
        rintro ⟨outcome, next⟩ _ rfl
        exact refines_reply next (checkedSendPoll_eq filled framed outcome)
    | mifareSelectTag =>
        dsimp only
        split
        · exact rejected
        · rename_i sized
          refine Refines.check (loadFrom_eq (by omega)) ?_
          exact refines_reply reader (status _)
    | mifareSetKeyAime =>
        dsimp only
        split
        · exact rejected
        · rename_i sized
          refine Refines.check (loadFrom_eq (by omega)) ?_
          exact refines_reply _ (status _)
    | mifareSetKeyBana =>
        dsimp only
        split
        · exact rejected
        · rename_i sized
          refine Refines.check (loadFrom_eq (by omega)) ?_
          exact refines_reply _ (status _)
    | mifareAuthenticateAime => exact refines_reply _ (status _)
    | mifareAuthenticateBana => exact refines_reply _ (status _)
    | mifareReadBlock =>
        dsimp only
        split
        · exact rejected
        · rename_i sized
          refine Refines.check (loadFrom_eq (by omega)) ?_
          refine Refines.check (readAt_eq (by omega)) ?_
          refine Refines.bind
            (checkedReaderMifareReadBlock_refines _ _ _) ?_
          rintro outcome _ rfl
          refine refines_reply reader
            (checkedSendData_eq filled framed (delivered_block outcome))
    | felicaEncap =>
        have forwarded :=
          checkedFelicaEncap_refines filled framed reader payload
        cases sized : felicaRequest payload with
        | none =>
            rw [sized] at forwarded
            exact forwarded
        | some octets =>
            rw [sized] at forwarded
            exact forwarded
    | toUpdateMode => exact refines_reply reader (status _)
    | sendHexData => exact refines_reply reader (response _ rfl)

end Handlers

theorem checkedDispatch_refines
    {content request : List Byte} (filled : Buffered 257 content request)
    (reader : ReaderState) :
    Refines Eq (checkedDispatch reader request content.length)
      (dispatch reader content) := by
  unfold checkedDispatch dispatch
  by_cases short : content.length < 5
  · have refused : ¬ Accepted content := by
      intro accepted
      have long := accepted.1
      omega
    rw [if_pos short, if_pos refused]
    exact Refines.done rfl
  · rw [if_neg short]
    refine Refines.check (filled.read (by omega)) ?_
    refine Refines.check (filled.read (by omega)) ?_
    by_cases accepted : Accepted content
    · rcases accepted with ⟨long, announced, length⟩
      have sized :
          ¬ ((byteAt content 0).toNat ≠ content.length ∨
            (byteAt content 4).toNat ≠ content.length - 5) := by
        omega
      have payload :
          viewOf request 5 (byteAt content 4).toNat =
            .ok (requestPayload content) := by
        have bound := filled.starts.length_le
        rw [viewOf_eq (by omega), filled.slice_eq (by omega)]
        rfl
      rw [if_neg sized, if_neg (not_not.mpr ⟨long, announced, length⟩)]
      refine Refines.check payload ?_
      refine Refines.check (filled.read (by omega)) ?_
      split
      · exact checkedDispatchNfc_refines filled long reader _
      · split
        · exact refines_reply reader
            (checkedDispatchLed_eq filled long _)
        · exact Refines.done rfl
    · have refused :
          (byteAt content 0).toNat ≠ content.length ∨
            (byteAt content 4).toNat ≠ content.length - 5 := by
        by_contra sized
        rw [not_or, not_not, not_not] at sized
        exact accepted ⟨by omega, sized.1, sized.2⟩
      rw [if_pos refused, if_pos accepted]
      exact Refines.done rfl

/-! ## The parser -/

/-- `sg_parser_t` with its array. -/
structure ParserArray where
  synchronized : Bool
  escaped : Bool
  bytes : List Byte
  size : Nat

/-- The static parser, after `sega_init`. -/
def parserArrayInit : ParserArray :=
  ⟨false, false, List.replicate 257 0, 0⟩

def ParserArray.reset (parser : ParserArray) : ParserArray :=
  { parser with synchronized := false, escaped := false, size := 0 }

/-- The part of an iteration which stores an unescaped octet. -/
def checkedAcceptByte
    (parser : ParserArray) (reader : ReaderState) (byte : Byte) :
    CheckedDriver ((ParserArray × ReaderState) × List (List Byte)) := do
  if parser.size ≥ 257 then
    return ((parser.reset, reader), [])
  else
    let bytes ← writeAt parser.bytes parser.size byte
    let parser := { parser with bytes := bytes, size := parser.size + 1 }
    let first ← readAt parser.bytes 0
    let expected := first.toNat + 1
    if parser.size = expected then
      let checksum ← sumFrom parser.bytes 0 (parser.size - 1) 0
      let last ← readAt parser.bytes (parser.size - 1)
      if checksum = last then
        let (reader, frames) ←
          checkedDispatch reader parser.bytes (parser.size - 1)
        return ((parser.reset, reader), frames)
      else
        return ((parser.reset, reader), [])
    else if parser.size > expected then
      return ((parser.reset, reader), [])
    else
      return ((parser, reader), [])

/-- One iteration of `sega_receive`. -/
def checkedReceiveByte
    (parser : ParserArray) (reader : ReaderState) (byte : Byte) :
    CheckedDriver ((ParserArray × ReaderState) × List (List Byte)) :=
  if parser.synchronized = false then
    if byte = sgSync then
      return (({ parser with synchronized := true, size := 0 }, reader), [])
    else
      return ((parser, reader), [])
  else if parser.escaped = false ∧ byte = sgSync then
    return (({ parser with size := 0 }, reader), [])
  else if parser.escaped = false ∧ byte = sgEscape then
    return (({ parser with escaped := true }, reader), [])
  else
    checkedAcceptByte { parser with escaped := false } reader
      (if parser.escaped then byte + 1 else byte)

/-- `sega_receive` of a chunk. -/
def checkedSegaReceive (parser : ParserArray) (reader : ReaderState) :
    List Byte →
      CheckedDriver ((ParserArray × ReaderState) × List (List Byte))
  | [] => return ((parser, reader), [])
  | byte :: rest => do
      let ((parser, reader), frames) ← checkedReceiveByte parser reader byte
      let (state, more) ← checkedSegaReceive parser reader rest
      return (state, frames ++ more)

/-- The array of a parser starts with the octets which it has stored. -/
structure Stores (array : ParserArray) (parser : SgParser) : Prop where
  synchronized : array.synchronized = parser.synchronized
  escaped : array.escaped = parser.escaped
  size : array.size = parser.bytes.length
  filled : Buffered 257 parser.bytes array.bytes

theorem stores_init : Stores parserArrayInit segaInit :=
  ⟨rfl, rfl, rfl, Buffered.zeros 257⟩

theorem stores_reset {array : ParserArray} (sized : array.bytes.length = 257) :
    Stores array.reset resetParser :=
  ⟨rfl, rfl, rfl, sized, List.nil_prefix⟩

/-- An iteration ends in the next parser, and with the calls it makes. -/
def ReceivedAs (next : SgParser)
    (checked : (ParserArray × ReaderState) × List (List Byte))
    (plain : ReaderState × List (List Byte)) : Prop :=
  Stores checked.1.1 next ∧ checked.1.2 = plain.1 ∧ checked.2 = plain.2

/-- An octet which is stored leads to the calls of the plain parser. -/
theorem checkedAcceptByte_refines
    {array : ParserArray} {parser : SgParser} (stores : Stores array parser)
    (reader : ReaderState) (byte : Byte) :
    Refines (ReceivedAs (acceptByte parser byte).1)
      (checkedAcceptByte array reader byte)
      (dispatchAll reader (acceptByte parser byte).2) := by
  unfold checkedAcceptByte acceptByte
  rw [stores.size]
  by_cases full : parser.bytes.length ≥ 257
  · rw [if_pos full, if_pos full]
    exact Refines.done ⟨stores_reset stores.filled.length, rfl, rfl⟩
  · rw [if_neg full, if_neg full]
    rcases stores.filled.write byte rfl (by omega) with
      ⟨bytes, wrote, filled⟩
    have length :
        parser.bytes.length + 1 = (parser.bytes ++ [byte]).length := by
      simp
    refine Refines.check wrote ?_
    dsimp only
    rw [length]
    have nonempty : 0 < (parser.bytes ++ [byte]).length := by
      omega
    refine Refines.check (filled.read nonempty) ?_
    generalize parser.bytes ++ [byte] = content at filled nonempty ⊢
    have bound := filled.starts.length_le
    split
    · have request := filled.take (content.length - 1)
      have requestLength :
          (content.take (content.length - 1)).length =
            content.length - 1 := by
        rw [List.length_take]
        omega
      have sum :
          sumFrom bytes 0 (content.length - 1) 0 =
            .ok (content.take (content.length - 1)).sum := by
        rw [sumFrom_eq (by omega), filled.slice_eq (by omega),
          UInt8.zero_add]
        rfl
      refine Refines.check sum ?_
      refine Refines.check (filled.read (by omega)) ?_
      split
      · have dispatched := checkedDispatch_refines request reader
        rw [requestLength] at dispatched
        refine Refines.bind dispatched ?_
        rintro ⟨next, frames⟩ _ rfl
        refine Refines.done ⟨stores_reset filled.length, rfl, ?_⟩
        exact (List.append_nil frames).symm
      · exact Refines.done ⟨stores_reset filled.length, rfl, rfl⟩
    · split
      · exact Refines.done ⟨stores_reset filled.length, rfl, rfl⟩
      · refine Refines.done ⟨?_, rfl, rfl⟩
        exact ⟨stores.synchronized, stores.escaped, rfl, filled⟩

/-- Step lemma: one octet. -/
theorem checkedReceiveByte_refines
    {array : ParserArray} {parser : SgParser} (stores : Stores array parser)
    (reader : ReaderState) (byte : Byte) :
    Refines (ReceivedAs (receiveByte parser byte).1)
      (checkedReceiveByte array reader byte)
      (dispatchAll reader (receiveByte parser byte).2) := by
  unfold checkedReceiveByte receiveByte
  rw [stores.synchronized, stores.escaped]
  have emptied : Buffered 257 [] array.bytes :=
    ⟨stores.filled.length, List.nil_prefix⟩
  split
  · split
    · refine Refines.done ⟨?_, rfl, rfl⟩
      exact ⟨rfl, rfl, rfl, emptied⟩
    · exact Refines.done ⟨stores, rfl, rfl⟩
  · split
    · refine Refines.done ⟨?_, rfl, rfl⟩
      exact ⟨rfl, rfl, rfl, emptied⟩
    · split
      · refine Refines.done ⟨?_, rfl, rfl⟩
        exact ⟨rfl, rfl, stores.size, stores.filled⟩
      · refine checkedAcceptByte_refines ?_ reader _
        exact ⟨rfl, rfl, stores.size, stores.filled⟩

/-- A call ends as the plain one, with the array of its parser. -/
def EndsAs (checked : (ParserArray × ReaderState) × List (List Byte))
    (plain : (SgParser × ReaderState) × List (List Byte)) : Prop :=
  Stores checked.1.1 plain.1.1 ∧ checked.1.2 = plain.1.2 ∧
    checked.2 = plain.2

/-- Run lemma: a whole chunk. -/
theorem checkedSegaReceive_refines
    (data : List Byte) {array : ParserArray} {parser : SgParser}
    (stores : Stores array parser) (reader : ReaderState) :
    Refines EndsAs (checkedSegaReceive array reader data)
      (segaReceive parser reader data) := by
  induction data generalizing array parser reader with
  | nil => exact Refines.done ⟨stores, rfl, rfl⟩
  | cons byte rest induction =>
      have received := checkedReceiveByte_refines stores reader byte
      rw [checkedSegaReceive, segaReceive]
      generalize receiveByte parser byte = step at received ⊢
      rcases step with ⟨nextParser, requests⟩
      refine Refines.bind received ?_
      rintro ⟨⟨next, moved⟩, frames⟩ ⟨_, _⟩ ⟨nextStores, rfl, rfl⟩
      refine Refines.bind (induction nextStores moved) ?_
      rintro ⟨⟨last, left⟩, more⟩ ⟨⟨_, _⟩, _⟩ ⟨lastStores, rfl, rfl⟩
      exact Refines.done ⟨lastStores, rfl, rfl⟩

/-! ## Every stream -/

/--
One call of `sega_receive`: a chunk of the stream, the reader as the other
callers have left it, and the controller which answers.
-/
structure ReceiveCall where
  reader : ReaderState
  data : List Byte
  world : Interaction.World (List Byte) Exchange

/-- The calls one after another, with the static parser between them. -/
def checkedReceiveAll (parser : ParserArray) :
    List ReceiveCall → Checked (List (ReaderState × List (List Byte)))
  | [] => .ok []
  | call :: calls => do
      let ((parser, reader), frames) ←
        Interaction.run call.world
          (checkedSegaReceive parser call.reader call.data).run
      let results ← checkedReceiveAll parser calls
      return (reader, frames) :: results

/-- The same calls without arrays. -/
def receiveAll (parser : SgParser) :
    List ReceiveCall → List (ReaderState × List (List Byte))
  | [] => []
  | call :: calls =>
      let ((parser, reader), frames) :=
        Interaction.run call.world
          (segaReceive parser call.reader call.data)
      (reader, frames) :: receiveAll parser calls

theorem checkedReceiveAll_eq
    (calls : List ReceiveCall) {array : ParserArray} {parser : SgParser}
    (stores : Stores array parser) :
    checkedReceiveAll array calls = .ok (receiveAll parser calls) := by
  induction calls generalizing array parser with
  | nil => rfl
  | cons call calls induction =>
      rcases
          (checkedSegaReceive_refines call.data stores call.reader).run
            call.world with
        ⟨⟨⟨next, reader⟩, frames⟩, ran, nextStores, sameReader,
          sameFrames⟩
      rw [checkedReceiveAll, receiveAll, ran, ok_bind]
      dsimp only
      rw [induction nextStores, ok_bind]
      change reader = _ at sameReader
      change frames = _ at sameFrames
      rw [sameReader, sameFrames]
      rfl

/--
Whatever the host sends and the controller answers, from `sega_init` on no
access leaves its array and no stored length loses bits: the calls run to their
end, with the results of the program without arrays.
-/
theorem array_bounds_hold (calls : List ReceiveCall) :
    checkedReceiveAll parserArrayInit calls =
      .ok (receiveAll segaInit calls) :=
  checkedReceiveAll_eq calls stores_init

end Pareader.Firmware.SegaBounds
