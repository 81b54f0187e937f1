import Pareader.Core.Checked
import Pareader.Firmware.Pn532Codec
import Pareader.Firmware.Reader

/-!
# Array bounds of the driver

The functions of `pn532.c` and `reader.c` once more, with the arrays on which
the source works: the request and response arrays of every operation, the frame
which is transmitted and the buffer which is received.  Every index, every copy
and every length octet is checked.  Where the source skips a copy of no octets,
that copy is made here; it has no effect.

Each of these functions refines the one without arrays.  The only numbers which
the controller supplies are the length octet of its frame and the UID size of a
Type A target; all other indices are constants or sizes of the request.
-/

namespace Pareader.Firmware.DriverBounds

open Pareader.Core
open Pareader.Core.Checked
open Pareader.Core.Guarded
open Pareader.Firmware.Pn532
open Pareader.Firmware.Pn532Codec
open Pareader.Firmware.Reader

/-- A driver operation whose accesses are checked. -/
abbrev CheckedDriver := Guarded (List Byte) Exchange

/-! ## Frames -/

/-- `write_frame`, with the octets it hands to `i2c_master_transmit`. -/
def checkedWriteFrame
    (command : Byte) (payload : List Byte) (payloadSize : Nat) :
    Checked (EspResult (List Byte)) :=
  let dataSize := payloadSize + 2
  if dataSize > 254 then
    .ok (.error .invalidSize)
  else do
    let frame := List.replicate pn532FrameCapacity 0
    let frame ← writeAt frame 0 0x00
    let frame ← writeAt frame 1 0x00
    let frame ← writeAt frame 2 0xFF
    let size ← narrow dataSize
    let frame ← writeAt frame 3 size
    let frame ← writeAt frame 4 (0 - UInt8.ofNat dataSize)
    let frame ← writeAt frame 5 pn532HostToPn532
    let frame ← writeAt frame 6 command
    let octets ← viewOf payload 0 payloadSize
    let frame ← copyTo frame 7 octets
    let checksum ←
      sumFrom payload 0 payloadSize (pn532HostToPn532 + command)
    let position := 7 + payloadSize
    let frame ← writeAt frame position (0 - checksum)
    let frame ← writeAt frame (position + 1) 0x00
    let transmitted ← viewOf frame 0 (position + 2)
    return .ok transmitted

/--
`read_data` into an array, where the bus delivers the octets of its reply into
`rx`.
-/
def checkedReadData
    (data : List Byte) (size : Nat) (received : EspResult (List Byte)) :
    Checked (EspResult (List Byte)) :=
  if size > pn532FrameCapacity then
    .ok (.error .invalidSize)
  else
    match received with
    | .error failure => .ok (.error failure)
    | .ok octets => do
        let rx ←
          copyTo (List.replicate (pn532FrameCapacity + 1) 0) 0 octets
        let ready ← readAt rx 0
        if ready &&& pn532I2cReady = 0 then
          return .error .invalidState
        else
          let octets ← viewOf rx 1 size
          let data ← copyTo data 0 octets
          return .ok data

def checkedReadAck (received : EspResult (List Byte)) :
    Checked (EspResult Unit) := do
  let result ← checkedReadData (List.replicate 6 0) 6 received
  match result with
  | .error failure => return .error failure
  | .ok ack =>
      let octets ← viewOf ack 0 6
      if octets = [0x00, 0x00, 0xFF, 0x00, 0xFF, 0x00] then
        return .ok ()
      else
        return .error .invalidResponse

/-- The checks of `command` on its frame, and the copy to the caller. -/
def checkedAcceptFrame
    (commandCode : Byte) (response : List Byte) (responseCapacity : Nat)
    (frame : List Byte) : Checked (EspResult (List Byte × Nat)) := do
  let start0 ← readAt frame 0
  let start1 ← readAt frame 1
  let start2 ← readAt frame 2
  if start0 ≠ 0x00 ∨ start1 ≠ 0x00 ∨ start2 ≠ 0xFF then
    return .error .invalidResponse
  else
    let length ← readAt frame 3
    let complement ← readAt frame 4
    let dataSize := length.toNat
    if dataSize < 2 ∨ dataSize = 0xFF ∨ length + complement ≠ 0 then
      return .error .invalidResponse
    else if 5 + dataSize + 2 > pn532FrameCapacity then
      return .error .invalidSize
    else
      let checksum ← sumFrom frame 5 dataSize 0
      let closing ← readAt frame (5 + dataSize)
      let postamble ← readAt frame (5 + dataSize + 1)
      if checksum + closing ≠ 0 ∨ postamble ≠ 0 then
        return .error .invalidCrc
      else
        let direction ← readAt frame 5
        let reply ← readAt frame 6
        if direction ≠ pn532Pn532ToHost ∨ reply ≠ commandCode + 1 then
          return .error .invalidResponse
        else
          let payloadSize := dataSize - 2
          if payloadSize > responseCapacity then
            return .error .invalidSize
          else
            let octets ← viewOf frame 7 payloadSize
            let response ← copyTo response 0 octets
            return .ok (response, payloadSize)

/-- The part of `command` which follows the transmission of its frame. -/
def checkedOutcome
    (exchange : Exchange) (commandCode : Byte) (response : List Byte)
    (responseCapacity : Nat) : Checked (EspResult (List Byte × Nat)) :=
  match exchange.transmitted with
  | .error failure => .ok (.error failure)
  | .ok () =>
    match waitReady exchange.ackStatus with
    | .error failure => .ok (.error failure)
    | .ok () => do
      let acknowledged ←
        checkedReadAck (exchange.ack.map (fun ack => ack.toList))
      match acknowledged with
      | .error failure => return .error failure
      | .ok () =>
        match waitReady exchange.responseStatus with
        | .error failure => return .error failure
        | .ok () =>
          let received ←
            checkedReadData (List.replicate pn532FrameCapacity 0)
              pn532FrameCapacity
              (exchange.response.map (fun rx => rx.toList))
          match received with
          | .error failure => return .error failure
          | .ok frame =>
              checkedAcceptFrame commandCode response responseCapacity
                frame

/-- `command` with the arrays of its caller. -/
def checkedCommand
    (commandCode : Byte) (request : List Byte) (requestSize : Nat)
    (response : List Byte) (responseCapacity : Nat) :
    CheckedDriver (EspResult (List Byte × Nat)) := do
  let written ← checkedWriteFrame commandCode request requestSize
  match written with
  | .error failure => return .error failure
  | .ok frame =>
      let exchange ← send frame
      checkedOutcome exchange commandCode response responseCapacity

/-- The frame of a request array is the frame of its octets. -/
theorem checkedWriteFrame_eq
    (command : Byte) {payload : List Byte} {payloadSize : Nat}
    (inside : payloadSize ≤ payload.length) :
    checkedWriteFrame command payload payloadSize =
      .ok (writeFrame command (payload.take payloadSize)) := by
  have length : (payload.take payloadSize).length = payloadSize :=
    List.length_take_of_le inside
  unfold checkedWriteFrame writeFrame
  dsimp only
  rw [length]
  split
  · rfl
  · rename_i short
    have start := Buffered.zeros pn532FrameCapacity
    rcases start.write 0x00 (show _ = 0 from rfl) (by decide) with
      ⟨frame0, write0, filled0⟩
    rcases filled0.write 0x00 (show _ = 1 from rfl) (by decide) with
      ⟨frame1, write1, filled1⟩
    rcases filled1.write 0xFF (show _ = 2 from rfl) (by decide) with
      ⟨frame2, write2, filled2⟩
    rcases filled2.write (UInt8.ofNat (payloadSize + 2))
        (show _ = 3 from rfl) (by decide) with
      ⟨frame3, write3, filled3⟩
    rcases filled3.write (0 - UInt8.ofNat (payloadSize + 2))
        (show _ = 4 from rfl) (by decide) with
      ⟨frame4, write4, filled4⟩
    rcases filled4.write pn532HostToPn532 (show _ = 5 from rfl)
        (by decide) with
      ⟨frame5, write5, filled5⟩
    rcases filled5.write command (show _ = 6 from rfl) (by decide) with
      ⟨frame6, write6, filled6⟩
    rcases filled6.copy (payload.take payloadSize) (show _ = 7 from rfl)
        (by rw [length, pn532FrameCapacity]; omega) with
      ⟨frame7, write7, filled7⟩
    rcases filled7.write
        (0 - (pn532HostToPn532 + command +
          (payload.take payloadSize).sum))
        (show _ = 7 + payloadSize by simp [inside]; omega)
        (by rw [pn532FrameCapacity]; omega) with
      ⟨frame8, write8, filled8⟩
    rcases filled8.write 0x00
        (show _ = 7 + payloadSize + 1 by simp [inside]; omega)
        (by rw [pn532FrameCapacity]; omega) with
      ⟨frame9, write9, filled9⟩
    have octets :
        viewOf payload 0 payloadSize = .ok (payload.take payloadSize) := by
      rw [viewOf_eq (by omega)]
      rfl
    have sum :
        sumFrom payload 0 payloadSize (pn532HostToPn532 + command) =
          .ok (pn532HostToPn532 + command +
            (payload.take payloadSize).sum) := by
      rw [sumFrom_eq (by omega)]
      rfl
    have transmitted :=
      filled9.view
        (show _ = 7 + payloadSize + 2 by simp [inside]; omega)
    rw [write0, ok_bind, write1, ok_bind, write2, ok_bind,
      narrow_eq (by omega), ok_bind, write3, ok_bind, write4, ok_bind,
      write5, ok_bind, write6, ok_bind, octets, ok_bind, write7, ok_bind,
      sum, ok_bind, write8, ok_bind, write9, ok_bind, transmitted, ok_bind]
    simp only [List.nil_append, List.append_assoc, List.cons_append]
    rfl

/-- An array is filled by a reply of its own size. -/
theorem checkedReadData_eq
    {size : Nat} {data : List Byte} (whole : data.length = size)
    (small : size ≤ pn532FrameCapacity)
    (received : EspResult (Vector Byte (size + 1))) :
    checkedReadData data size (received.map (fun rx => rx.toList)) =
      .ok (readData received) := by
  unfold checkedReadData readData
  rw [if_neg (by omega), if_neg (by omega)]
  cases received with
  | error failure => rfl
  | ok rx =>
      have length : rx.toList.length = size + 1 := rx.length_toList
      rcases
          (Buffered.zeros (pn532FrameCapacity + 1)).copy rx.toList
            (show _ = 0 from rfl) (by omega) with
        ⟨array, copied, filled⟩
      rw [List.nil_append] at filled
      have ready : readAt array 0 = .ok rx[0] := by
        rw [filled.read (by omega), byteAt_toList_of_lt rx (by omega)]
      have octets : viewOf array 1 size = .ok rx.toList.tail := by
        rw [viewOf_eq (by rw [filled.length]; omega),
          filled.slice_eq (by omega), slice, List.drop_one,
          List.take_of_length_le (by simp)]
      have delivered : copyTo data 0 rx.toList.tail = .ok rx.toList.tail :=
        copyTo_whole (by simp [whole])
      simp only [Except.map]
      rw [copied, ok_bind, ready, ok_bind]
      split
      · rfl
      · rw [octets, ok_bind, delivered]
        rfl

theorem length_of_readData
    {size : Nat} {received : EspResult (Vector Byte (size + 1))}
    {data : List Byte} (accepted : readData received = .ok data) :
    data.length = size := by
  unfold readData at accepted
  split at accepted
  · cases accepted
  · split at accepted
    · cases accepted
    · split at accepted
      · cases accepted
      · rw [← Except.ok.inj accepted]
        simp

theorem checkedReadAck_eq (received : EspResult (Vector Byte 7)) :
    checkedReadAck (received.map (fun rx => rx.toList)) =
      .ok (readAck received) := by
  unfold checkedReadAck readAck
  rw [@checkedReadData_eq 6 _ rfl (by decide) received, ok_bind]
  cases accepted : readData received with
  | error failure => rfl
  | ok ack =>
      dsimp only
      rw [viewOf_whole (length_of_readData accepted), ok_bind]
      split <;> rfl

/-- The array which a caller receives, for the payload of a plain call. -/
def Delivered (size : Nat) :
    EspResult (List Byte × Nat) → EspResult (List Byte) → Prop
  | .ok (array, count), .ok payload =>
      count = payload.length ∧ Buffered size payload array
  | .error failure, .error expected => failure = expected
  | _, _ => False

/-- Every index of `command` lies in its frame. -/
theorem checkedAcceptFrame_delivers
    (code : Byte) {response frame : List Byte} {capacity : Nat}
    (full : frame.length = pn532FrameCapacity)
    (room : capacity ≤ response.length) :
    ∃ result, checkedAcceptFrame code response capacity frame =
        .ok result ∧
      Delivered response.length result
        (acceptFrame code capacity frame) := by
  rw [pn532FrameCapacity] at full
  unfold checkedAcceptFrame acceptFrame
  rw [readAt_eq (by omega), ok_bind, readAt_eq (by omega), ok_bind,
    readAt_eq (by omega), ok_bind]
  split
  · exact ⟨_, rfl, rfl⟩
  · rw [readAt_eq (by omega), ok_bind, readAt_eq (by omega), ok_bind]
    dsimp only
    split
    · exact ⟨_, rfl, rfl⟩
    · split
      · exact ⟨_, rfl, rfl⟩
      · rename_i sized fits
        rw [pn532FrameCapacity] at fits
        rw [not_or] at sized
        rw [sumFrom_eq (by omega), ok_bind, readAt_eq (by omega), ok_bind,
          readAt_eq (by omega), ok_bind, UInt8.zero_add]
        split
        · exact ⟨_, rfl, rfl⟩
        · rw [readAt_eq (by omega), ok_bind, readAt_eq (by omega), ok_bind]
          split
          · exact ⟨_, rfl, rfl⟩
          · split
            · exact ⟨_, rfl, rfl⟩
            · rename_i within
              rw [viewOf_eq (by omega), ok_bind]
              have length :
                  (slice frame 7 ((byteAt frame 3).toNat - 2)).length =
                    (byteAt frame 3).toNat - 2 := by
                rw [slice, List.length_take, List.length_drop]
                omega
              rcases
                  (Buffered.any response).copy
                    (slice frame 7 ((byteAt frame 3).toNat - 2))
                    (show _ = 0 from rfl) (by omega) with
                ⟨array, copied, filled⟩
              rw [copied, ok_bind]
              exact ⟨_, rfl, length.symm, filled⟩

theorem checkedOutcome_delivers
    (exchange : Exchange) (code : Byte) {response : List Byte}
    {capacity : Nat} (room : capacity ≤ response.length) :
    ∃ result, checkedOutcome exchange code response capacity =
        .ok result ∧
      Delivered response.length result (exchange.outcome code capacity) := by
  unfold checkedOutcome Exchange.outcome
  cases exchange.transmitted with
  | error failure => exact ⟨_, rfl, rfl⟩
  | ok transmitted =>
      dsimp only
      cases waitReady exchange.ackStatus with
      | error failure => exact ⟨_, rfl, rfl⟩
      | ok ready =>
          dsimp only
          rw [checkedReadAck_eq, ok_bind]
          cases readAck exchange.ack with
          | error failure => exact ⟨_, rfl, rfl⟩
          | ok acknowledged =>
              dsimp only
              cases waitReady exchange.responseStatus with
              | error failure => exact ⟨_, rfl, rfl⟩
              | ok ready =>
                  dsimp only
                  have read :
                      checkedReadData
                          (List.replicate pn532FrameCapacity 0)
                          pn532FrameCapacity
                          (exchange.response.map (fun rx => rx.toList)) =
                        .ok (@readData 280 exchange.response) :=
                    @checkedReadData_eq 280 _ List.length_replicate
                      (Nat.le_refl _) exchange.response
                  rw [read, ok_bind]
                  cases accepted : @readData 280 exchange.response with
                  | error failure => exact ⟨_, rfl, rfl⟩
                  | ok frame =>
                      exact checkedAcceptFrame_delivers code
                        (length_of_readData accepted) room

/-- `command` stays inside its arrays and those of its caller. -/
theorem checkedCommand_refines
    (code : Byte) {request response : List Byte}
    {requestSize capacity size : Nat}
    (inside : requestSize ≤ request.length)
    (sized : response.length = size) (room : capacity ≤ size) :
    Refines (Delivered size)
      (checkedCommand code request requestSize response capacity)
      (command code (request.take requestSize) capacity) := by
  subst sized
  refine Refines.check (checkedWriteFrame_eq code inside) ?_
  unfold command
  cases writeFrame code (request.take requestSize) with
  | error failure => exact Refines.done rfl
  | ok frame =>
      refine Refines.send ?_
      intro exchange
      rcases checkedOutcome_delivers exchange code room with
        ⟨result, checked, delivered⟩
      exact Refines.checkDone checked delivered

/-- A request array which is sent whole, with a response array of zeros. -/
theorem checkedCommand_whole
    (code : Byte) {request : List Byte} {requestSize : Nat} (size : Nat)
    (whole : request.length = requestSize) :
    Refines (Delivered size)
      (checkedCommand code request requestSize (List.replicate size 0) size)
      (command code request size) := by
  have refines :=
    checkedCommand_refines code (Nat.le_of_eq whole.symm)
      (List.length_replicate : (List.replicate size (0 : Byte)).length = _)
      (Nat.le_refl size)
  rw [List.take_of_length_le (Nat.le_of_eq whole)] at refines
  exact refines

/-! ## Operations -/

def checkedSetRadio (enabled : Bool) : CheckedDriver (EspResult Unit) := do
  let result ←
    checkedCommand pn532CommandRfConfiguration
      [0x01, if enabled then 0x01 else 0x00] 2 (List.replicate 8 0) 8
  return result.map (fun _ => ())

def checkedParseTypeA
    (target : TypeATarget) (response : List Byte) (size : Nat) :
    Checked (Poll TypeATarget) := do
  let count ← readAt response 0
  let found := size > 0 ∧ count > 0
  if ¬ found then
    return ⟨.ok (), target, false⟩
  else if size < 6 then
    return ⟨.error .invalidResponse, target, true⟩
  else
    let length ← readAt response 5
    let uidSize := length.toNat
    if uidSize > 10 ∨ size < 6 + uidSize then
      return ⟨.error .invalidResponse, target, true⟩
    else
      let number ← readAt response 1
      let high ← readAt response 2
      let low ← readAt response 3
      let sak ← readAt response 4
      let octets ← viewOf response 6 uidSize
      let uid ← copyTo target.uid.toList 0 octets
      return ⟨.ok (),
        { target := number
          uid := load 10 uid 0
          uidSize := uidSize
          sak := sak
          atqa := (high.toUInt16 <<< 8) ||| low.toUInt16 },
        true⟩

def checkedPollTypeA (target : TypeATarget) (found : Bool) :
    CheckedDriver (Poll TypeATarget) := do
  let result ←
    checkedCommand pn532CommandInListPassiveTarget [0x01, 0x00] 2
      (List.replicate 64 0) 64
  match result with
  | .error failure => return ⟨.error failure, target, found⟩
  | .ok (response, size) =>
      checkedParseTypeA target response size

def checkedParseFelica
    (target : FelicaTarget) (response : List Byte) (size : Nat) :
    Checked (Poll FelicaTarget) := do
  let count ← readAt response 0
  let found := size > 0 ∧ count > 0
  if ¬ found then
    return ⟨.ok (), target, false⟩
  else
    let length ← readAt response 2
    if size < 21 ∨ length < 18 then
      return ⟨.error .invalidResponse, target, true⟩
    else
      let number ← readAt response 1
      let idm ← loadFrom 8 response 4
      let pmm ← loadFrom 8 response 12
      return ⟨.ok (), ⟨number, idm, pmm⟩, true⟩

def checkedPollFelica
    (systemCode : UInt16) (target : FelicaTarget) (found : Bool) :
    CheckedDriver (Poll FelicaTarget) := do
  let result ←
    checkedCommand pn532CommandInListPassiveTarget
      [0x01, 0x01, 0x00, (systemCode >>> 8).toUInt8,
        systemCode.toUInt8, 0x01, 0x00] 7 (List.replicate 64 0) 64
  match result with
  | .error failure => return ⟨.error failure, target, found⟩
  | .ok (response, size) =>
      checkedParseFelica target response size

def checkedMifareAuthenticate
    (target mifareCommand block : Byte)
    (key : Vector Byte 6) (uid : Vector Byte 4) :
    CheckedDriver (EspResult Unit) := do
  let request :=
    [target, mifareCommand, block] ++ List.replicate 10 0
  let request ← copyTo request 3 key.toList
  let request ← copyTo request 9 uid.toList
  let result ←
    checkedCommand pn532CommandInDataExchange request 13
      (List.replicate 8 0) 8
  match result with
  | .error failure => return .error failure
  | .ok (response, size) =>
      let status ← readAt response 0
      if size ≥ 1 ∧ status = 0 then
        return .ok ()
      else
        return .error .invalidResponse

def checkedMifareReadBlock (target block : Byte) :
    CheckedDriver (EspResult (Vector Byte 16)) := do
  let result ←
    checkedCommand pn532CommandInDataExchange [target, 0x30, block] 3
      (List.replicate 20 0) 20
  match result with
  | .error failure => return .error failure
  | .ok (response, size) =>
      let status ← readAt response 0
      if size < 17 ∨ status ≠ 0 then
        return .error .invalidResponse
      else
        let data ← loadFrom 16 response 1
        return .ok data

/-- The checks and the copy at the end of `pn532_felica_transact`. -/
def checkedParseFelicaResponse
    (response : List Byte) (responseCapacity : Nat) (raw : List Byte)
    (rawSize : Nat) : Checked (EspResult (List Byte × Nat)) := do
  let status ← readAt raw 0
  if rawSize < 1 ∨ status ≠ 0 ∨ rawSize - 1 > responseCapacity then
    return .error .invalidResponse
  else
    let octets ← viewOf raw 1 (rawSize - 1)
    let response ← copyTo response 0 octets
    return .ok (response, rawSize - 1)

/-- `pn532_felica_transact` with the request and response of its caller. -/
def checkedFelicaTransact
    (target : Byte) (request : List Byte) (requestSize : Nat)
    (response : List Byte) (responseCapacity : Nat) :
    CheckedDriver (EspResult (List Byte × Nat)) := do
  if requestSize + 1 > 254 then
    return .error .invalidSize
  else
    let payload ← writeAt (List.replicate 255 0) 0 target
    let octets ← viewOf request 0 requestSize
    let payload ← copyTo payload 1 octets
    let result ←
      checkedCommand pn532CommandInDataExchange payload (requestSize + 1)
        (List.replicate 255 0) 255
    match result with
    | .error failure => return .error failure
    | .ok (raw, rawSize) =>
        checkedParseFelicaResponse response responseCapacity raw rawSize

/-- What an operation does with the result of its command. -/
theorem refines_after
    {α β : Type} {relation : α → β → Prop} {size : Nat}
    {call : CheckedDriver (EspResult (List Byte × Nat))}
    {plain : Driver (EspResult (List Byte))}
    {next : EspResult (List Byte × Nat) → CheckedDriver α}
    {plainNext : EspResult (List Byte) → Driver β}
    (refines : Refines (Delivered size) call plain)
    (failed : ∀ failure,
      Refines relation (next (.error failure)) (plainNext (.error failure)))
    (succeeded : ∀ payload array, Buffered size payload array →
      Refines relation (next (.ok (array, payload.length)))
        (plainNext (.ok payload))) :
    Refines relation (call >>= next) (plain >>= plainNext) := by
  refine Refines.bind refines ?_
  rintro (failure | ⟨array, count⟩) (expected | payload) delivered
  · rw [show failure = expected from delivered]
    exact failed expected
  · exact delivered.elim
  · exact delivered.elim
  · rcases delivered with ⟨rfl, filled⟩
    exact succeeded payload array filled

theorem checkedSetRadio_refines (enabled : Bool) :
    Refines Eq (checkedSetRadio enabled) (pn532SetRadio enabled) := by
  unfold checkedSetRadio pn532SetRadio
  refine refines_after (checkedCommand_whole _ 8 rfl) ?_ ?_
  · exact fun failure => Refines.done rfl
  · exact fun payload array filled => Refines.done rfl

/-- Overwriting the front of an array, octet by octet. -/
theorem load_copied
    {size : Nat} (array : Vector Byte size) {source copied : List Byte}
    (fits : source.length ≤ size)
    (written : copyTo array.toList 0 source = .ok copied) :
    load size copied 0 =
      Vector.ofFn (fun index : Fin size =>
        if index.val < source.length then byteAt source index
        else array[index]) := by
  rw [copyTo, if_pos (by simpa using fits), Nat.zero_add, List.take_zero,
    List.nil_append] at written
  rw [← Except.ok.inj written]
  apply Vector.ext
  intro index inside
  rw [getElem_load, Nat.zero_add, Vector.getElem_ofFn]
  dsimp only
  split
  · rename_i within
    rw [byteAt, List.getD_append _ _ _ _ within, byteAt]
  · rename_i beyond
    rw [byteAt, List.getD_append_right _ _ _ _ (by omega),
      List.getD_eq_getElem?_getD, List.getElem?_drop,
      Nat.add_sub_cancel' (by omega)]
    simp [inside]

theorem checkedParseTypeA_eq
    (target : TypeATarget) {payload response : List Byte}
    (filled : Buffered 64 payload response) :
    checkedParseTypeA target response payload.length =
      .ok (parseTypeA target payload) := by
  have length := filled.length
  have bound := filled.length_le
  unfold checkedParseTypeA parseTypeA
  rw [readAt_eq (by omega), ok_bind]
  dsimp only
  by_cases empty : payload.length = 0
  · rw [if_pos (by omega), if_pos (by omega)]
    rfl
  · rw [filled.byteAt_eq (by omega)]
    split
    · rfl
    · split
      · rfl
      · rename_i long
        rw [filled.read (by omega), ok_bind]
        split
        · rfl
        · rename_i fits
          rw [not_or] at fits
          have octets :
              viewOf response 6 (byteAt payload 5).toNat =
                .ok (slice payload 6 (byteAt payload 5).toNat) := by
            rw [viewOf_eq (by omega), filled.slice_eq (by omega)]
          have size :
              (slice payload 6 (byteAt payload 5).toNat).length =
                (byteAt payload 5).toNat := by
            rw [slice, List.length_take, List.length_drop]
            omega
          rcases
              (Buffered.any target.uid.toList).copy
                (slice payload 6 (byteAt payload 5).toNat)
                (show _ = 0 from rfl) (by simp; omega) with
            ⟨uid, copied, -⟩
          rw [filled.read (by omega), ok_bind, filled.read (by omega),
            ok_bind, filled.read (by omega), ok_bind,
            filled.read (by omega), ok_bind, octets, ok_bind, copied,
            ok_bind]
          have parsed :
              load 10 uid 0 =
                Vector.ofFn (fun index : Fin 10 =>
                  if index < (byteAt payload 5).toNat then
                    byteAt payload (6 + index)
                  else
                    target.uid[index]) := by
            rw [load_copied target.uid (by omega) copied, size]
            congr 1
            funext index
            split
            · rename_i within
              exact byteAt_slice payload 6 within
            · rfl
          rw [parsed]
          rfl

theorem checkedPollTypeA_refines (target : TypeATarget) (found : Bool) :
    Refines Eq (checkedPollTypeA target found)
      (pn532PollTypeA target found) := by
  unfold checkedPollTypeA pn532PollTypeA
  refine refines_after (checkedCommand_whole _ 64 rfl) ?_ ?_
  · exact fun failure => Refines.done rfl
  · intro payload array filled
    exact Refines.checkDone (checkedParseTypeA_eq target filled) rfl

theorem checkedParseFelica_eq
    (target : FelicaTarget) {payload response : List Byte}
    (filled : Buffered 64 payload response) :
    checkedParseFelica target response payload.length =
      .ok (parseFelica target payload) := by
  have length := filled.length
  have bound := filled.length_le
  unfold checkedParseFelica parseFelica
  rw [readAt_eq (by omega), ok_bind]
  dsimp only
  by_cases empty : payload.length = 0
  · rw [if_pos (by omega), if_pos (by omega)]
    rfl
  · rw [filled.byteAt_eq (by omega)]
    split
    · rfl
    · rw [readAt_eq (by omega), ok_bind]
      by_cases short : payload.length < 21
      · rw [if_pos (Or.inl short), if_pos (Or.inl short)]
        rfl
      · rw [filled.byteAt_eq (by omega)]
        split
        · rfl
        · rw [filled.read (by omega), ok_bind,
            filled.loadFrom (by omega), ok_bind,
            filled.loadFrom (by omega), ok_bind]
          rfl

theorem checkedPollFelica_refines
    (systemCode : UInt16) (target : FelicaTarget) (found : Bool) :
    Refines Eq (checkedPollFelica systemCode target found)
      (pn532PollFelica systemCode target found) := by
  unfold checkedPollFelica pn532PollFelica
  refine refines_after (checkedCommand_whole _ 64 rfl) ?_ ?_
  · exact fun failure => Refines.done rfl
  · intro payload array filled
    exact Refines.checkDone (checkedParseFelica_eq target filled) rfl

theorem checkedMifareAuthenticate_refines
    (target mifareCommand block : Byte)
    (key : Vector Byte 6) (uid : Vector Byte 4) :
    Refines Eq
      (checkedMifareAuthenticate target mifareCommand block key uid)
      (pn532MifareAuthenticate target mifareCommand block key uid) := by
  have start :
      Buffered 13 [target, mifareCommand, block]
        ([target, mifareCommand, block] ++ List.replicate 10 0) :=
    ⟨by simp, List.prefix_append _ _⟩
  rcases start.copy key.toList (show _ = 3 from rfl) (by simp) with
    ⟨keyed, copiedKey, filledKey⟩
  rcases filledKey.copy uid.toList (show _ = 9 by simp) (by simp) with
    ⟨request, copiedUid, filledUid⟩
  have whole :
      ([target, mifareCommand, block] ++ key.toList ++ uid.toList).length =
        13 := by
    simp
  have same :
      request =
        [target, mifareCommand, block] ++ key.toList ++ uid.toList := by
    refine (filledUid.starts.eq_of_length ?_).symm
    rw [whole, filledUid.length]
  unfold checkedMifareAuthenticate pn532MifareAuthenticate
  refine Refines.check copiedKey ?_
  refine Refines.check copiedUid ?_
  rw [same]
  refine refines_after (checkedCommand_whole _ 8 whole) ?_ ?_
  · exact fun failure => Refines.done rfl
  · intro payload array filled
    have inside : 0 < array.length := by
      rw [filled.length]
      decide
    refine Refines.check (readAt_eq inside) ?_
    by_cases present : payload.length ≥ 1
    · rw [filled.byteAt_eq present]
      dsimp only
      split
      · exact Refines.done rfl
      · exact Refines.done rfl
    · dsimp only
      rw [if_neg (fun both => present both.1),
        if_neg (fun both => present both.1)]
      exact Refines.done rfl

theorem checkedMifareReadBlock_refines (target block : Byte) :
    Refines Eq (checkedMifareReadBlock target block)
      (pn532MifareReadBlock target block) := by
  unfold checkedMifareReadBlock pn532MifareReadBlock
  refine refines_after (checkedCommand_whole _ 20 rfl) ?_ ?_
  · exact fun failure => Refines.done rfl
  · intro payload array filled
    have inside : 0 < array.length := by
      rw [filled.length]
      decide
    refine Refines.check (readAt_eq inside) ?_
    dsimp only
    by_cases short : payload.length < 17
    · rw [if_pos (Or.inl short), if_pos (Or.inl short)]
      exact Refines.done rfl
    · rw [filled.byteAt_eq (by omega)]
      split
      · exact Refines.done rfl
      · exact Refines.check (filled.loadFrom (by omega)) (Refines.done rfl)

/-- The end of a transaction delivers the octets behind the status. -/
theorem checkedParseFelicaResponse_spec
    {raw array response : List Byte} {capacity : Nat}
    (filled : Buffered 255 raw array)
    (room : capacity ≤ response.length) :
    ∃ outcome,
      checkedParseFelicaResponse response capacity array raw.length =
          .ok outcome ∧
        Delivered response.length outcome
          (parseFelicaResponse capacity raw) := by
  have nonempty : 0 < array.length := by
    rw [filled.length]
    decide
  unfold checkedParseFelicaResponse parseFelicaResponse
  rw [readAt_eq nonempty, ok_bind]
  by_cases empty : raw.length < 1
  · rw [if_pos (Or.inl empty), if_pos (Or.inl empty)]
    exact ⟨_, rfl, rfl⟩
  · rw [filled.byteAt_eq (by omega)]
    split
    · exact ⟨_, rfl, rfl⟩
    · rename_i fits
      rw [not_or, not_or] at fits
      have size : (slice raw 1 (raw.length - 1)).length =
          raw.length - 1 := by
        rw [slice, List.length_take, List.length_drop]
        omega
      have bound := filled.starts.length_le
      have view :
          viewOf array 1 (raw.length - 1) =
            .ok (slice raw 1 (raw.length - 1)) := by
        rw [viewOf_eq (by omega), filled.slice_eq (by omega)]
      rcases
          (Buffered.any response).copy (slice raw 1 (raw.length - 1))
            (show _ = 0 from rfl) (by omega) with
        ⟨answer, copiedBack, filledBack⟩
      refine ⟨.ok (answer, raw.length - 1), ?_, size.symm, filledBack⟩
      rw [view, ok_bind, copiedBack]
      rfl

/-- A FeliCa exchange stays inside the request and response of its caller. -/
theorem checkedFelicaTransact_refines
    (target : Byte) {request response : List Byte}
    {requestSize capacity : Nat}
    (inside : requestSize ≤ request.length)
    (room : capacity ≤ response.length) :
    Refines (Delivered response.length)
      (checkedFelicaTransact target request requestSize response capacity)
      (pn532FelicaTransact target (request.take requestSize) capacity) := by
  have length : (request.take requestSize).length = requestSize :=
    List.length_take_of_le inside
  unfold checkedFelicaTransact pn532FelicaTransact
  rw [length]
  split
  · exact Refines.done rfl
  · rename_i short
    rcases
        (Buffered.zeros 255).write target (show _ = 0 from rfl)
          (by decide) with
      ⟨addressed, wrote, filledTarget⟩
    rcases
        filledTarget.copy (request.take requestSize) (show _ = 1 from rfl)
          (by omega) with
      ⟨payload, copied, filledPayload⟩
    have octets :
        viewOf request 0 requestSize = .ok (request.take requestSize) := by
      rw [viewOf_eq (by omega)]
      rfl
    have sent :
        payload.take (requestSize + 1) =
          target :: request.take requestSize := by
      apply filledPayload.take_eq
      simp [inside]
    refine Refines.check wrote ?_
    refine Refines.check octets ?_
    refine Refines.check copied ?_
    have called :=
      checkedCommand_refines pn532CommandInDataExchange
        (show requestSize + 1 ≤ payload.length by
          rw [filledPayload.length]; omega)
        (List.length_replicate :
          (List.replicate 255 (0 : Byte)).length = _)
        (Nat.le_refl 255)
    rw [sent] at called
    refine refines_after called ?_ ?_
    · exact fun failure => Refines.done rfl
    · intro raw array filled
      rcases checkedParseFelicaResponse_spec filled room with
        ⟨outcome, parsed, delivered⟩
      exact Refines.checkDone parsed delivered

/-! ## The key table -/

/-- `mifare_keys[type]` -/
def keyAt (reader : ReaderState) (keyType : Byte) :
    Checked (Vector Byte 6) :=
  if keyType.toNat < 2 then
    .ok (reader.mifareKey keyType)
  else
    .error (.outOfBounds keyType.toNat 2)

/-- `memcpy(mifare_keys[type], key, 6)` -/
def storeKeyAt (reader : ReaderState) (keyType : Byte)
    (key : Vector Byte 6) : Checked ReaderState :=
  if keyType.toNat < 2 then
    .ok { reader with
      mifareKeys := reader.mifareKeys.setIfInBounds keyType.toNat key }
  else
    .error (.outOfBounds keyType.toNat 2)

theorem keyAt_eq {keyType : Byte} (inside : keyType.toNat < 2)
    (reader : ReaderState) :
    keyAt reader keyType = .ok (reader.mifareKey keyType) :=
  if_pos inside

theorem storeKeyAt_eq {keyType : Byte} (inside : keyType.toNat < 2)
    (reader : ReaderState) (key : Vector Byte 6) :
    storeKeyAt reader keyType key =
      .ok { reader with
        mifareKeys := reader.mifareKeys.setIfInBounds keyType.toNat key } :=
  if_pos inside

/-! ## The reader -/

def checkedReadMifareWithKey
    (target : TypeATarget) (authCommand authBlock : Byte)
    (key : Vector Byte 6) (card : ReaderCard) :
    CheckedDriver (EspResult Unit × ReaderCard) := do
  let authenticated ←
    checkedMifareAuthenticate target.target authCommand authBlock key
      (uidPrefix target)
  match authenticated with
  | .error failure => return (.error failure, card)
  | .ok () =>
    let block1 ← checkedMifareReadBlock target.target 1
    match block1 with
    | .error failure => return (.error failure, card)
    | .ok data1 =>
      let card := { card with blocks := store card.blocks 0 data1 }
      let block2 ← checkedMifareReadBlock target.target 2
      match block2 with
      | .error failure => return (.error failure, card)
      | .ok data2 =>
        return (.ok (),
          { card with
            blocks := store card.blocks 16 data2
            hasBlocks := true })

def checkedReadMifareCard (reader : ReaderState) :
    CheckedDriver ReaderCard := do
  let card :=
    { ReaderCard.zero with
      type := .mifare
      mifareUid := uidPrefix reader.activeMifare }
  let key ← keyAt reader readerKeyAime
  let (first, card) ←
    checkedReadMifareWithKey reader.activeMifare 0x61 2 key card
  match first with
  | .ok () => return extractLuid card
  | .error _ =>
      let card :=
        { card with blocks := zeros 32, hasBlocks := false }
      let key ← keyAt reader readerKeyBana
      let (_, card) ←
        checkedReadMifareWithKey reader.activeMifare 0x60 1 key card
      return card

def checkedReadTypeACard (reader : ReaderState) (found : Bool) :
    CheckedDriver (EspResult ReaderCard × ReaderState) := do
  let poll ← checkedPollTypeA reader.activeMifare found
  let reader := { reader with activeMifare := poll.target }
  match poll.status with
  | .error failure => return (.error failure, reader)
  | .ok () =>
      if ¬ poll.found ∨ poll.target.uidSize ≠ 4 then
        return (.ok ReaderCard.zero, reader)
      else do
        let card ← checkedReadMifareCard reader
        return (.ok card, reader)

def checkedReaderReadCard (reader : ReaderState) :
    CheckedDriver (EspResult ReaderCard × ReaderState) :=
  if ¬ reader.radioEnabled then
    return (.ok ReaderCard.zero, reader)
  else do
    let poll ←
      checkedPollFelica reader.felicaSystemCode reader.activeFelica false
    let reader := { reader with activeFelica := poll.target }
    match poll.status with
    | .error _ => checkedReadTypeACard reader poll.found
    | .ok () =>
        if poll.found then
          return (.ok
            { ReaderCard.zero with
              type := .felica
              idm := poll.target.idm
              pmm := poll.target.pmm },
            reader)
        else
          checkedReadTypeACard
            { reader with
              felicaSystemCode :=
                otherSystemCode reader.felicaSystemCode }
            poll.found

def checkedReaderMifareReadBlock
    (reader : ReaderState) (uid : Vector Byte 4) (blockNumber : Byte) :
    CheckedDriver (EspResult (Vector Byte 16)) :=
  match readerMifareSelect reader uid with
  | .error failure => return .error failure
  | .ok () => do
      let authCommand :=
        if reader.activeKeyType = readerKeyAime then 0x61 else 0x60
      let authenticated ←
        checkedMifareAuthenticate reader.activeMifare.target authCommand
          blockNumber (reader.mifareKey reader.activeKeyType)
          (uidPrefix reader.activeMifare)
      match authenticated with
      | .error failure => return .error failure
      | .ok () =>
          checkedMifareReadBlock reader.activeMifare.target blockNumber

def checkedReaderFelicaTransact
    (reader : ReaderState) (request : List Byte) (requestSize : Nat)
    (response : List Byte) (responseCapacity : Nat) :
    CheckedDriver (EspResult (List Byte × Nat)) :=
  checkedFelicaTransact reader.activeFelica.target request requestSize
    response responseCapacity

def checkedReaderRadioSet (reader : ReaderState) (enabled : Bool) :
    CheckedDriver (EspResult Unit × ReaderState) := do
  let switched ← checkedSetRadio enabled
  match switched with
  | .error failure => return (.error failure, reader)
  | .ok () => return (.ok (), { reader with radioEnabled := enabled })

theorem checkedReadMifareWithKey_refines
    (target : TypeATarget) (authCommand authBlock : Byte)
    (key : Vector Byte 6) (card : ReaderCard) :
    Refines Eq
      (checkedReadMifareWithKey target authCommand authBlock key card)
      (readMifareWithKey target authCommand authBlock key card) := by
  unfold checkedReadMifareWithKey readMifareWithKey
  refine Refines.bind (checkedMifareAuthenticate_refines _ _ _ _ _) ?_
  rintro (failure | _) _ rfl
  · exact Refines.done rfl
  refine Refines.bind (checkedMifareReadBlock_refines _ _) ?_
  rintro (failure | data1) _ rfl
  · exact Refines.done rfl
  refine Refines.bind (checkedMifareReadBlock_refines _ _) ?_
  rintro (failure | data2) _ rfl
  · exact Refines.done rfl
  · exact Refines.done rfl

theorem checkedReadMifareCard_refines (reader : ReaderState) :
    Refines Eq (checkedReadMifareCard reader) (readMifareCard reader) := by
  unfold checkedReadMifareCard readMifareCard
  refine Refines.check (keyAt_eq (by decide) reader) ?_
  refine Refines.bind (checkedReadMifareWithKey_refines _ _ _ _ _) ?_
  rintro ⟨failure | _, first⟩ _ rfl
  · refine Refines.check (keyAt_eq (by decide) reader) ?_
    refine Refines.bind (checkedReadMifareWithKey_refines _ _ _ _ _) ?_
    rintro ⟨outcome, second⟩ _ rfl
    exact Refines.done rfl
  · exact Refines.done rfl

theorem checkedReadTypeACard_refines (reader : ReaderState) (found : Bool) :
    Refines Eq (checkedReadTypeACard reader found)
      (readTypeACard reader found) := by
  unfold checkedReadTypeACard readTypeACard
  refine Refines.bind (checkedPollTypeA_refines _ _) ?_
  rintro ⟨failure | _, target, present⟩ _ rfl
  · exact Refines.done rfl
  · dsimp only
    split
    · exact Refines.done rfl
    · refine Refines.bind (checkedReadMifareCard_refines _) ?_
      rintro card _ rfl
      exact Refines.done rfl

theorem checkedReaderReadCard_refines (reader : ReaderState) :
    Refines Eq (checkedReaderReadCard reader) (readerReadCard reader) := by
  unfold checkedReaderReadCard readerReadCard
  split
  · exact Refines.done rfl
  · refine Refines.bind (checkedPollFelica_refines _ _ _) ?_
    rintro ⟨failure | _, target, present⟩ _ rfl
    · exact checkedReadTypeACard_refines _ _
    · dsimp only
      split
      · exact Refines.done rfl
      · exact checkedReadTypeACard_refines _ _

theorem checkedReaderMifareReadBlock_refines
    (reader : ReaderState) (uid : Vector Byte 4) (blockNumber : Byte) :
    Refines Eq (checkedReaderMifareReadBlock reader uid blockNumber)
      (readerMifareReadBlock reader uid blockNumber) := by
  unfold checkedReaderMifareReadBlock readerMifareReadBlock
  cases readerMifareSelect reader uid with
  | error failure => exact Refines.done rfl
  | ok selected =>
      refine Refines.bind (checkedMifareAuthenticate_refines _ _ _ _ _) ?_
      rintro (failure | _) _ rfl
      · exact Refines.done rfl
      · exact checkedMifareReadBlock_refines _ _

theorem checkedReaderRadioSet_refines
    (reader : ReaderState) (enabled : Bool) :
    Refines Eq (checkedReaderRadioSet reader enabled)
      (readerRadioSet reader enabled) := by
  unfold checkedReaderRadioSet readerRadioSet
  refine Refines.bind (checkedSetRadio_refines _) ?_
  rintro (failure | _) _ rfl
  · exact Refines.done rfl
  · exact Refines.done rfl

end Pareader.Firmware.DriverBounds
