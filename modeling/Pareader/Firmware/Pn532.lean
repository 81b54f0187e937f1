import Pareader.Core.Buffer
import Pareader.Core.Interaction

/-!
# The PN532 driver

`pn532.c` talks to the controller over I2C.  One call of `command` writes a
frame, waits for the controller, checks the acknowledgement, waits again and
reads a response buffer of constant size.  Here a frame is a query and the
behaviour of the bus during the call is its reply, so that a driver operation
is a finite interaction and every controller, well behaved or not, is a world.

Out-parameters of the source are explicit: a poll returns its status together
with the target and the `found` flag as it leaves them.
-/

namespace Pareader.Firmware.Pn532

open Pareader.Core

/-! ## Errors and bus behaviour -/

/-- The values of `esp_err_t` other than `ESP_OK`. -/
inductive EspErr where
  | fail
  | noMem
  | invalidArg
  | invalidState
  | invalidSize
  | notFound
  | timeout
  | invalidResponse
  | invalidCrc
  | other (code : Int)
deriving DecidableEq, Repr

/-- The result of a C function returning `esp_err_t`. -/
abbrev EspResult (α : Type) := Except EspErr α

/-- A property of the value which a successful call produces. -/
def OnSuccess {α : Type} (property : α → Prop) : EspResult α → Prop
  | .ok value => property value
  | .error _ => True

/--
What the I2C bus does during one `command`.

The two status lists hold the results of the reads which `wait_ready` makes
before its deadline passes.  The two buffers hold what `read_data` receives:
one leading ready octet and then 6 octets of acknowledgement, respectively 280
octets of response.
-/
structure Exchange where
  transmitted : EspResult Unit
  ackStatus : List (EspResult Byte)
  ack : EspResult (Vector Byte 7)
  responseStatus : List (EspResult Byte)
  response : EspResult (Vector Byte 281)

/-- A driver operation: its queries are the frames it transmits. -/
abbrev Driver (α : Type) := Interaction (List Byte) Exchange α

/-- Everything a controller may do to a driver operation. -/
abbrev Pn532World := Interaction.World (List Byte) Exchange

/-! ## Frames -/

def pn532I2cReady : Byte := 0x01
def pn532HostToPn532 : Byte := 0xD4
def pn532Pn532ToHost : Byte := 0xD5
def pn532CommandRfConfiguration : Byte := 0x32
def pn532CommandInDataExchange : Byte := 0x40
def pn532CommandInListPassiveTarget : Byte := 0x4A
def pn532FrameCapacity : Nat := 280

/--
Wait until a status read shows the ready bit.  A NACK of the read address
(`ESP_ERR_INVALID_STATE`) means that the command is still running.
-/
def waitReady : List (EspResult Byte) → EspResult Unit
  | [] => .error .timeout
  | .error .invalidState :: rest => waitReady rest
  | .error failure :: _ => .error failure
  | .ok status :: rest =>
      if status &&& pn532I2cReady ≠ 0 then .ok () else waitReady rest

/-- The frame which `write_frame` transmits. -/
def writeFrame (command : Byte) (payload : List Byte) :
    EspResult (List Byte) :=
  let dataSize := payload.length + 2
  if dataSize > 254 then
    .error .invalidSize
  else
    let checksum := pn532HostToPn532 + command + payload.sum
    .ok ([0x00, 0x00, 0xFF, UInt8.ofNat dataSize,
        0 - UInt8.ofNat dataSize, pn532HostToPn532, command] ++
      payload ++ [0 - checksum, 0x00])

/-- Strip the ready octet from a received buffer. -/
def readData {size : Nat} (received : EspResult (Vector Byte (size + 1))) :
    EspResult (List Byte) :=
  if size > pn532FrameCapacity then
    .error .invalidSize
  else
    match received with
    | .error failure => .error failure
    | .ok rx =>
        if rx[0] &&& pn532I2cReady = 0 then
          .error .invalidState
        else
          .ok rx.toList.tail

/-- Check the acknowledgement frame. -/
def readAck (received : EspResult (Vector Byte 7)) : EspResult Unit :=
  match readData received with
  | .error failure => .error failure
  | .ok ack =>
      if ack = [0x00, 0x00, 0xFF, 0x00, 0xFF, 0x00] then
        .ok ()
      else
        .error .invalidResponse

/-- The checks which `command` makes on a response buffer. -/
def acceptFrame
    (commandCode : Byte) (responseCapacity : Nat) (frame : List Byte) :
    EspResult (List Byte) :=
  if byteAt frame 0 ≠ 0x00 ∨ byteAt frame 1 ≠ 0x00 ∨
      byteAt frame 2 ≠ 0xFF then
    .error .invalidResponse
  else
    let dataSize := (byteAt frame 3).toNat
    if dataSize < 2 ∨ dataSize = 0xFF ∨
        byteAt frame 3 + byteAt frame 4 ≠ 0 then
      .error .invalidResponse
    else if 5 + dataSize + 2 > pn532FrameCapacity then
      .error .invalidSize
    else
      let checksum := (slice frame 5 dataSize).sum
      if checksum + byteAt frame (5 + dataSize) ≠ 0 ∨
          byteAt frame (5 + dataSize + 1) ≠ 0 then
        .error .invalidCrc
      else if byteAt frame 5 ≠ pn532Pn532ToHost ∨
          byteAt frame 6 ≠ commandCode + 1 then
        .error .invalidResponse
      else
        let payloadSize := dataSize - 2
        if payloadSize > responseCapacity then
          .error .invalidSize
        else
          .ok (slice frame 7 payloadSize)

/-- The outcome of `command` once its frame has been written. -/
def Exchange.outcome
    (exchange : Exchange) (commandCode : Byte)
    (responseCapacity : Nat) : EspResult (List Byte) := do
  exchange.transmitted
  waitReady exchange.ackStatus
  readAck exchange.ack
  waitReady exchange.responseStatus
  let frame ← readData exchange.response
  acceptFrame commandCode responseCapacity frame

/-- `command`: the payload of the response, or the first error. -/
def command
    (commandCode : Byte) (request : List Byte)
    (responseCapacity : Nat) : Driver (EspResult (List Byte)) :=
  match writeFrame commandCode request with
  | .error failure => .done (.error failure)
  | .ok frame =>
      .ask frame (fun exchange =>
        .done (exchange.outcome commandCode responseCapacity))

/-- The response frame with a given payload. -/
def responseFrame (commandCode : Byte) (payload : List Byte) : List Byte :=
  let dataSize := UInt8.ofNat (payload.length + 2)
  let checksum := pn532Pn532ToHost + (commandCode + 1) + payload.sum
  [0x00, 0x00, 0xFF, dataSize, 0 - dataSize, pn532Pn532ToHost,
      commandCode + 1] ++ payload ++ [0 - checksum, 0x00]

/-- An undisturbed exchange in which the controller answers a payload. -/
def Exchange.answering (commandCode : Byte) (payload : List Byte) :
    Exchange where
  transmitted := .ok ()
  ackStatus := [.ok 0x01]
  ack := .ok #v[0x01, 0x00, 0x00, 0xFF, 0x00, 0xFF, 0x00]
  responseStatus := [.ok 0x01]
  response :=
    .ok (load 281 (0x01 :: responseFrame commandCode payload) 0)

/-! ## Operations -/

/-- `pn532_type_a_target_t` -/
structure TypeATarget where
  target : Byte
  uid : Vector Byte 10
  uidSize : Nat
  sak : Byte
  atqa : UInt16
deriving DecidableEq, Repr

/-- `pn532_felica_target_t` -/
structure FelicaTarget where
  target : Byte
  idm : Vector Byte 8
  pmm : Vector Byte 8
deriving DecidableEq, Repr

/-- The status of a poll and the out-parameters as it leaves them. -/
structure Poll (Target : Type) where
  status : EspResult Unit
  target : Target
  found : Bool

def pn532SetRadio (enabled : Bool) : Driver (EspResult Unit) := do
  let response ←
    command pn532CommandRfConfiguration
      [0x01, if enabled then 0x01 else 0x00] 8
  return response.map (fun _ => ())

/-- The interpretation of an `InListPassiveTarget` response for Type A. -/
def parseTypeA (target : TypeATarget) (response : List Byte) :
    Poll TypeATarget :=
  let found := response.length > 0 ∧ byteAt response 0 > 0
  if ¬ found then
    ⟨.ok (), target, false⟩
  else if response.length < 6 then
    ⟨.error .invalidResponse, target, true⟩
  else
    let uidSize := (byteAt response 5).toNat
    if uidSize > 10 ∨ response.length < 6 + uidSize then
      ⟨.error .invalidResponse, target, true⟩
    else
      ⟨.ok (),
        { target := byteAt response 1
          uid := Vector.ofFn (fun index =>
            if index < uidSize then byteAt response (6 + index)
            else target.uid[index])
          uidSize := uidSize
          sak := byteAt response 4
          atqa := ((byteAt response 2).toUInt16 <<< 8) |||
            (byteAt response 3).toUInt16 },
        true⟩

def pn532PollTypeA (target : TypeATarget) (found : Bool) :
    Driver (Poll TypeATarget) := do
  let result ← command pn532CommandInListPassiveTarget [0x01, 0x00] 64
  match result with
  | .error failure => return ⟨.error failure, target, found⟩
  | .ok response => return parseTypeA target response

/-- The interpretation of an `InListPassiveTarget` response for FeliCa. -/
def parseFelica (target : FelicaTarget) (response : List Byte) :
    Poll FelicaTarget :=
  let found := response.length > 0 ∧ byteAt response 0 > 0
  if ¬ found then
    ⟨.ok (), target, false⟩
  else if response.length < 21 ∨ byteAt response 2 < 18 then
    ⟨.error .invalidResponse, target, true⟩
  else
    ⟨.ok (),
      { target := byteAt response 1
        idm := load 8 response 4
        pmm := load 8 response 12 },
      true⟩

def pn532PollFelica
    (systemCode : UInt16) (target : FelicaTarget) (found : Bool) :
    Driver (Poll FelicaTarget) := do
  let result ←
    command pn532CommandInListPassiveTarget
      [0x01, 0x01, 0x00, (systemCode >>> 8).toUInt8,
        systemCode.toUInt8, 0x01, 0x00] 64
  match result with
  | .error failure => return ⟨.error failure, target, found⟩
  | .ok response => return parseFelica target response

def pn532MifareAuthenticate
    (target mifareCommand block : Byte)
    (key : Vector Byte 6) (uid : Vector Byte 4) :
    Driver (EspResult Unit) := do
  let result ←
    command pn532CommandInDataExchange
      ([target, mifareCommand, block] ++ key.toList ++ uid.toList) 8
  match result with
  | .error failure => return .error failure
  | .ok response =>
      if response.length ≥ 1 ∧ byteAt response 0 = 0 then
        return .ok ()
      else
        return .error .invalidResponse

def pn532MifareReadBlock (target block : Byte) :
    Driver (EspResult (Vector Byte 16)) := do
  let result ←
    command pn532CommandInDataExchange [target, 0x30, block] 20
  match result with
  | .error failure => return .error failure
  | .ok response =>
      if response.length < 17 ∨ byteAt response 0 ≠ 0 then
        return .error .invalidResponse
      else
        return .ok (load 16 response 1)

/-- The interpretation of the data-exchange response to a FeliCa command. -/
def parseFelicaResponse
    (responseCapacity : Nat) (raw : List Byte) : EspResult (List Byte) :=
  if raw.length < 1 ∨ byteAt raw 0 ≠ 0 ∨
      raw.length - 1 > responseCapacity then
    .error .invalidResponse
  else
    .ok (slice raw 1 (raw.length - 1))

def pn532FelicaTransact
    (target : Byte) (request : List Byte) (responseCapacity : Nat) :
    Driver (EspResult (List Byte)) :=
  if request.length + 1 > 254 then
    .done (.error .invalidSize)
  else do
    let result ←
      command pn532CommandInDataExchange (target :: request) 255
    match result with
    | .error failure => return .error failure
    | .ok raw => return parseFelicaResponse responseCapacity raw

end Pareader.Firmware.Pn532
