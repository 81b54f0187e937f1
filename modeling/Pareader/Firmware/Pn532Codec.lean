import Pareader.Firmware.Pn532

/-!
# The frame codec of the PN532

A frame announces its length with a complement, and it closes with a checksum
which makes its data sum to zero.  `IsFrame` states this rule once for both
directions.  The driver transmits exactly the frames of the rule, and it
accepts exactly the response buffers which start with one.

`command` returns its payload through pointers.  The form with explicit
out-parameters shows that a failed call writes to neither of them, and it is
the same interaction as the form which the rest of the driver is built on.
-/

namespace Pareader.Firmware.Pn532Codec

open Pareader.Core
open Pareader.Firmware.Pn532

/-! ## The frame rule -/

/-- The frame with a direction octet, a command code and a payload. -/
def IsFrame
    (direction code : Byte) (payload frame : List Byte) : Prop :=
  ∃ size sizeComplement checksum : Byte,
    frame =
        [0x00, 0x00, 0xFF, size, sizeComplement, direction, code] ++
          payload ++ [checksum, 0x00] ∧
      size.toNat = payload.length + 2 ∧
      size + sizeComplement = 0 ∧
      direction + code + payload.sum + checksum = 0

/-- The buffer starts with a frame; anything may follow. -/
def StartsWithFrame
    (direction code : Byte) (payload buffer : List Byte) : Prop :=
  ∃ frame, IsFrame direction code payload frame ∧ frame <+: buffer

theorem toNat_ofNat_size {payload : List Byte}
    (short : payload.length ≤ 252) :
    (UInt8.ofNat (payload.length + 2)).toNat = payload.length + 2 := by
  rw [UInt8.toNat_ofNat']
  omega

theorem add_zero_sub (value : Byte) : value + (0 - value) = 0 := by
  rw [UInt8.zero_sub, UInt8.add_right_neg]

theorem eq_zero_sub_of_add_eq_zero
    {value complement : Byte} (zero : value + complement = 0) :
    complement = 0 - value := by
  grind

/-- `write_frame` builds the frame of its command, up to the size limit. -/
theorem writeFrame_ok_iff (code : Byte) (payload frame : List Byte) :
    writeFrame code payload = .ok frame ↔
      payload.length ≤ 252 ∧
        IsFrame pn532HostToPn532 code payload frame := by
  unfold writeFrame
  dsimp only
  constructor
  · intro written
    split at written
    · cases written
    · rename_i fits
      cases written
      have short : payload.length ≤ 252 := by omega
      exact ⟨short, _, _, _, rfl, toNat_ofNat_size short,
        add_zero_sub _, add_zero_sub _⟩
  · rintro ⟨short, size, sizeComplement, checksum, rfl, length,
      complement, sum⟩
    rw [if_neg (by omega)]
    have sized : size = UInt8.ofNat (payload.length + 2) := by
      apply UInt8.toNat_inj.mp
      rw [length, toNat_ofNat_size short]
    rw [eq_zero_sub_of_add_eq_zero complement,
      eq_zero_sub_of_add_eq_zero sum, sized]

/-- Every payload within the size limit is transmitted. -/
theorem writeFrame_isOk (code : Byte) {payload : List Byte}
    (short : payload.length ≤ 252) :
    ∃ frame, writeFrame code payload = .ok frame := by
  unfold writeFrame
  dsimp only
  rw [if_neg (by omega)]
  exact ⟨_, rfl⟩

theorem writeFrame_error (code : Byte) {payload : List Byte}
    (long : 252 < payload.length) :
    writeFrame code payload = .error .invalidSize := by
  unfold writeFrame
  dsimp only
  rw [if_pos (by omega)]

/-! ## Accepting a response -/

/-- The length octet of an accepted buffer. -/
theorem dataSize_of_acceptFrame
    {code : Byte} {capacity : Nat} {buffer payload : List Byte}
    (accepted : acceptFrame code capacity buffer = .ok payload) :
    2 ≤ (byteAt buffer 3).toNat ∧ (byteAt buffer 3).toNat ≤ 254 := by
  have bound := (byteAt buffer 3).toNat_lt
  unfold acceptFrame at accepted
  split at accepted
  · cases accepted
  · dsimp only at accepted
    split at accepted
    · cases accepted
    · rename_i sized
      simp only [not_or, Nat.not_lt] at sized
      omega

/-- The checks of `command` on a buffer cut at its announced length. -/
theorem acceptFrame_cut
    (code : Byte) (capacity : Nat)
    {first second third size complement direction reply : Byte}
    {payload : List Byte} {checksum last : Byte} {rest buffer : List Byte}
    (shape : buffer =
      first :: second :: third :: size :: complement :: direction ::
        reply :: (payload ++ checksum :: last :: rest))
    (length : size.toNat = payload.length + 2)
    (short : payload.length ≤ 252) (result : List Byte) :
    acceptFrame code capacity buffer = .ok result ↔
      first = 0x00 ∧ second = 0x00 ∧ third = 0xFF ∧
        size + complement = 0 ∧
        direction + reply + payload.sum + checksum = 0 ∧ last = 0 ∧
        direction = pn532Pn532ToHost ∧ reply = code + 1 ∧
        payload.length ≤ capacity ∧ payload = result := by
  have sum :
      (slice buffer 5 (payload.length + 2)).sum =
        direction + reply + payload.sum := by
    simp [shape, slice, UInt8.add_assoc]
  have closing :
      byteAt buffer (5 + (payload.length + 2)) = checksum := by
    have index : 5 + (payload.length + 2) = payload.length + 7 := by omega
    simp [shape, byteAt, index]
  have postamble :
      byteAt buffer (5 + (payload.length + 2) + 1) = last := by
    have index :
        5 + (payload.length + 2) + 1 = payload.length + 1 + 7 := by omega
    simp [shape, byteAt, index]
  have body : slice buffer 7 (payload.length + 2 - 2) = payload := by
    simp [shape, slice]
  have header :
      byteAt buffer 0 = first ∧ byteAt buffer 1 = second ∧
        byteAt buffer 2 = third ∧ byteAt buffer 3 = size ∧
        byteAt buffer 4 = complement ∧ byteAt buffer 5 = direction ∧
        byteAt buffer 6 = reply := by
    rw [shape]
    exact ⟨rfl, rfl, rfl, rfl, rfl, rfl, rfl⟩
  rcases header with ⟨at0, at1, at2, at3, at4, at5, at6⟩
  have inside :
      ¬ 5 + (payload.length + 2) + 2 > pn532FrameCapacity := by
    rw [pn532FrameCapacity]
    omega
  have sized :
      ¬ (payload.length + 2 < 2) ∧ payload.length + 2 ≠ 0xFF := by
    omega
  unfold acceptFrame
  simp only [at0, at1, at2, at3, at4, at5, at6, length, sum, closing,
    postamble, body, if_neg inside, sized, false_or]
  split_ifs with start complemented checked addressed large
  · grind
  · grind
  · grind
  · grind
  · grind
  · simp only [not_or, not_not] at start complemented checked addressed
    constructor
    · intro accepted
      exact ⟨start.1, start.2.1, start.2.2, complemented, checked.1,
        checked.2, addressed.1, addressed.2, by omega,
        Except.ok.inj accepted⟩
    · rintro ⟨-, -, -, -, -, -, -, -, -, rfl⟩
      rfl

/-- A buffer with an announced length splits there. -/
theorem exists_cut
    {buffer : List Byte} (full : buffer.length = pn532FrameCapacity)
    (lower : 2 ≤ (byteAt buffer 3).toNat)
    (upper : (byteAt buffer 3).toNat ≤ 254) :
    ∃ first second third size complement direction reply payload
        checksum last rest,
      buffer =
          first :: second :: third :: size :: complement :: direction ::
            reply :: (payload ++ checksum :: last :: rest) ∧
        size.toNat = payload.length + 2 := by
  rw [pn532FrameCapacity] at full
  match buffer, full with
  | first :: second :: third :: size :: complement :: direction ::
      reply :: tail, full =>
      change 2 ≤ size.toNat at lower
      change size.toNat ≤ 254 at upper
      simp only [List.length_cons] at full
      have remaining :
          2 ≤ (tail.drop (size.toNat - 2)).length := by
        rw [List.length_drop]
        omega
      match found : tail.drop (size.toNat - 2), remaining with
      | checksum :: last :: rest, _ =>
          refine ⟨first, second, third, size, complement, direction,
            reply, tail.take (size.toNat - 2), checksum, last, rest,
            ?_, ?_⟩
          · rw [← found, List.take_append_drop]
          · rw [List.length_take]
            omega

/--
`command` accepts a response buffer exactly when it starts with the response
frame of its command, and it yields the payload of that frame.
-/
theorem acceptFrame_ok_iff
    (code : Byte) (capacity : Nat) {buffer : List Byte}
    (full : buffer.length = pn532FrameCapacity) (payload : List Byte) :
    acceptFrame code capacity buffer = .ok payload ↔
      payload.length ≤ 252 ∧ payload.length ≤ capacity ∧
        StartsWithFrame pn532Pn532ToHost (code + 1) payload buffer := by
  constructor
  · intro accepted
    rcases dataSize_of_acceptFrame accepted with ⟨lower, upper⟩
    rcases exists_cut full lower upper with
      ⟨first, second, third, size, complement, direction, reply, body,
        checksum, last, rest, shape, length⟩
    have announced : byteAt buffer 3 = size := by
      rw [shape]
      rfl
    rw [announced, length] at upper
    rcases
        (acceptFrame_cut code capacity shape length (by omega) payload).mp
          accepted with
      ⟨rfl, rfl, rfl, complemented, checked, rfl, rfl, rfl, fits, rfl⟩
    refine ⟨by omega, fits, _,
      ⟨size, complement, checksum, rfl, length, complemented, checked⟩,
      rest, ?_⟩
    rw [shape]
    simp
  · rintro ⟨short, fits, frame,
      ⟨size, complement, checksum, rfl, length, complemented, checked⟩,
      rest, started⟩
    have shape :
        buffer =
          0x00 :: 0x00 :: 0xFF :: size :: complement ::
            pn532Pn532ToHost :: (code + 1) ::
              (payload ++ checksum :: 0x00 :: rest) := by
      rw [← started]
      simp
    exact
      (acceptFrame_cut code capacity shape length short payload).mpr
        ⟨rfl, rfl, rfl, complemented, checked, rfl, rfl, rfl, fits, rfl⟩

/-! ## The out-parameters of `command` -/

/--
What the pointers given to `command` refer to.  The response buffer may be
absent.
-/
structure CommandOut where
  response : Option (List Byte)
  responseSize : Nat

/-- `memcpy` of a whole source to the start of a buffer. -/
def overwrite (source buffer : List Byte) : List Byte :=
  source ++ buffer.drop source.length

/-- The out-parameters after a payload was delivered. -/
def CommandOut.yield (out : CommandOut) (payload : List Byte) :
    CommandOut where
  response := out.response.map (overwrite payload)
  responseSize := payload.length

/-- `acceptFrame` with the out-parameters, as every return leaves them. -/
def acceptFrameInto
    (commandCode : Byte) (responseCapacity : Nat) (frame : List Byte)
    (out : CommandOut) : EspResult Unit × CommandOut :=
  if byteAt frame 0 ≠ 0x00 ∨ byteAt frame 1 ≠ 0x00 ∨
      byteAt frame 2 ≠ 0xFF then
    (.error .invalidResponse, out)
  else
    let dataSize := (byteAt frame 3).toNat
    if dataSize < 2 ∨ dataSize = 0xFF ∨
        byteAt frame 3 + byteAt frame 4 ≠ 0 then
      (.error .invalidResponse, out)
    else if 5 + dataSize + 2 > pn532FrameCapacity then
      (.error .invalidSize, out)
    else
      let checksum := (slice frame 5 dataSize).sum
      if checksum + byteAt frame (5 + dataSize) ≠ 0 ∨
          byteAt frame (5 + dataSize + 1) ≠ 0 then
        (.error .invalidCrc, out)
      else if byteAt frame 5 ≠ pn532Pn532ToHost ∨
          byteAt frame 6 ≠ commandCode + 1 then
        (.error .invalidResponse, out)
      else
        let payloadSize := dataSize - 2
        if payloadSize > responseCapacity then
          (.error .invalidSize, out)
        else
          let out :=
            if payloadSize > 0 then
              { out with
                response :=
                  out.response.map (overwrite (slice frame 7 payloadSize)) }
            else
              out
          (.ok (), { out with responseSize := payloadSize })

/-- The response buffer of an exchange, once the acknowledgement is right. -/
def responseBuffer (exchange : Exchange) : EspResult (List Byte) := do
  exchange.transmitted
  waitReady exchange.ackStatus
  readAck exchange.ack
  waitReady exchange.responseStatus
  readData exchange.response

/-- `command` with its out-parameters. -/
def commandInto
    (commandCode : Byte) (request : List Byte) (responseCapacity : Nat)
    (out : CommandOut) : Driver (EspResult Unit × CommandOut) :=
  match writeFrame commandCode request with
  | .error failure => .done (.error failure, out)
  | .ok frame =>
      .ask frame (fun exchange =>
        match responseBuffer exchange with
        | .error failure => .done (.error failure, out)
        | .ok buffer =>
            .done
              (acceptFrameInto commandCode responseCapacity buffer out))

/-- What a result of `command` does to its out-parameters. -/
def CommandOut.record (out : CommandOut) :
    EspResult (List Byte) → EspResult Unit × CommandOut
  | .error failure => (.error failure, out)
  | .ok payload => (.ok (), out.yield payload)

theorem outcome_eq_bind
    (exchange : Exchange) (code : Byte) (capacity : Nat) :
    exchange.outcome code capacity =
      responseBuffer exchange >>= acceptFrame code capacity := by
  unfold Exchange.outcome responseBuffer
  rcases exchange.transmitted with _ | _
  · rfl
  rcases waitReady exchange.ackStatus with _ | _
  · rfl
  rcases readAck exchange.ack with _ | _
  · rfl
  rcases waitReady exchange.responseStatus with _ | _
  · rfl
  rfl

theorem bind_eq_ok {α β : Type} {first : EspResult α}
    {next : α → EspResult β} {value : β}
    (succeeded : first >>= next = .ok value) :
    ∃ middle, first = .ok middle ∧ next middle = .ok value := by
  cases first with
  | error failure => cases succeeded
  | ok middle => exact ⟨middle, rfl, succeeded⟩

/-- A response buffer has the size of the frame array. -/
theorem length_responseBuffer
    {exchange : Exchange} {buffer : List Byte}
    (received : responseBuffer exchange = .ok buffer) :
    buffer.length = pn532FrameCapacity := by
  unfold responseBuffer at received
  rcases bind_eq_ok received with ⟨-, -, received⟩
  rcases bind_eq_ok received with ⟨-, -, received⟩
  rcases bind_eq_ok received with ⟨-, -, received⟩
  rcases bind_eq_ok received with ⟨-, -, received⟩
  unfold readData at received
  rw [if_neg (by decide)] at received
  split at received
  · cases received
  · split at received
    · cases received
    · cases received
      simp [pn532FrameCapacity]

theorem acceptFrameInto_eq
    (code : Byte) (capacity : Nat) {buffer : List Byte}
    (full : buffer.length = pn532FrameCapacity) (out : CommandOut) :
    acceptFrameInto code capacity buffer out =
      out.record (acceptFrame code capacity buffer) := by
  unfold acceptFrameInto acceptFrame
  dsimp only
  split_ifs with start sized inside checked addressed large
  · rfl
  · rfl
  · rfl
  · rfl
  · rfl
  · rfl
  · rename_i copied
    have delivered :
        (slice buffer 7 ((byteAt buffer 3).toNat - 2)).length =
          (byteAt buffer 3).toNat - 2 := by
      rw [slice, List.length_take, List.length_drop, full]
      omega
    simp only [CommandOut.record, CommandOut.yield, delivered]
  · rename_i copied
    have empty : (byteAt buffer 3).toNat - 2 = 0 := by omega
    have kept : out.response.map (overwrite []) = out.response := by
      cases out.response <;> rfl
    simp only [CommandOut.record, CommandOut.yield, empty, slice,
      List.take_zero, List.length_nil, kept]

/-- The two forms of `command` are the same interaction. -/
theorem commandInto_eq
    (code : Byte) (request : List Byte) (capacity : Nat)
    (out : CommandOut) :
    commandInto code request capacity out =
      command code request capacity >>=
        fun result => .done (out.record result) := by
  unfold commandInto command
  cases writeFrame code request with
  | error failure => rfl
  | ok frame =>
      simp only [Interaction.bind_ask, Interaction.bind_done]
      congr 1
      funext exchange
      rw [outcome_eq_bind]
      cases received : responseBuffer exchange with
      | error failure => rfl
      | ok buffer =>
          simp only
          rw [acceptFrameInto_eq code capacity
            (length_responseBuffer received) out]
          rfl

/--
Both directions of the codec, for one call of `command` in an arbitrary world.
-/
structure CommandContract
    (code : Byte) (request : List Byte) (capacity : Nat)
    (out : CommandOut) (exchanges : List (List Byte × Exchange))
    (result : EspResult Unit × CommandOut) : Prop where
  transmits : request.length ≤ 252 →
    ∃ frame exchange, exchanges = [(frame, exchange)] ∧
      IsFrame pn532HostToPn532 code request frame
  refuses : 252 < request.length → exchanges = []
  accepts :
    result.1 = .ok () ↔
      ∃ frame exchange buffer payload,
        (frame, exchange) ∈ exchanges ∧
        responseBuffer exchange = .ok buffer ∧
        payload.length ≤ 252 ∧ payload.length ≤ capacity ∧
        StartsWithFrame pn532Pn532ToHost (code + 1) payload buffer
  yields : ∀ frame exchange buffer payload,
    (frame, exchange) ∈ exchanges →
    responseBuffer exchange = .ok buffer →
    payload.length ≤ 252 → payload.length ≤ capacity →
    StartsWithFrame pn532Pn532ToHost (code + 1) payload buffer →
      result = (.ok (), out.yield payload)
  untouched : result.1 ≠ .ok () → result.2 = out

/-- The result of `command` in the exchange which it makes. -/
theorem commandInto_run
    (code : Byte) {request frame : List Byte} (capacity : Nat)
    (out : CommandOut) (world : Pn532World)
    (written : writeFrame code request = .ok frame) :
    (commandInto code request capacity out).transcript world =
        [(frame, world 0 frame)] ∧
      (commandInto code request capacity out).run world =
        out.record ((world 0 frame).outcome code capacity) := by
  rw [commandInto_eq, command, written]
  exact ⟨rfl, rfl⟩

/-- An exchange yields the payloads of the frames its buffer starts with. -/
theorem outcome_ok_iff
    (exchange : Exchange) (code : Byte) (capacity : Nat)
    (payload : List Byte) :
    exchange.outcome code capacity = .ok payload ↔
      ∃ buffer, responseBuffer exchange = .ok buffer ∧
        payload.length ≤ 252 ∧ payload.length ≤ capacity ∧
        StartsWithFrame pn532Pn532ToHost (code + 1) payload buffer := by
  rw [outcome_eq_bind]
  cases received : responseBuffer exchange with
  | error failure =>
      constructor
      · intro accepted
        cases accepted
      · rintro ⟨buffer, same, -⟩
        cases same
  | ok buffer =>
      have full := length_responseBuffer received
      change acceptFrame code capacity buffer = .ok payload ↔ _
      rw [acceptFrame_ok_iff code capacity full]
      constructor
      · intro framed
        exact ⟨buffer, rfl, framed⟩
      · rintro ⟨_, same, framed⟩
        cases same
        exact framed

/-- A delivered payload fits into the buffer of the caller. -/
theorem length_le_of_command
    {code : Byte} {request payload : List Byte} {capacity : Nat}
    {world : Pn532World}
    (answered :
      (command code request capacity).run world = .ok payload) :
    payload.length ≤ capacity := by
  unfold command at answered
  cases written : writeFrame code request with
  | error failure =>
      rw [written] at answered
      cases answered
  | ok frame =>
      rw [written] at answered
      rcases
          (outcome_ok_iff (world 0 frame) code capacity payload).mp
            answered with
        ⟨buffer, -, -, fits, -⟩
      exact fits

/-- The frame codec of the driver. -/
theorem command_contract
    (code : Byte) (request : List Byte) (capacity : Nat)
    (out : CommandOut) (world : Pn532World) :
    CommandContract code request capacity out
      ((commandInto code request capacity out).transcript world)
      ((commandInto code request capacity out).run world) := by
  by_cases short : request.length ≤ 252
  · rcases writeFrame_isOk code short with ⟨frame, written⟩
    rcases commandInto_run code capacity out world written with
      ⟨transcribed, ran⟩
    rw [transcribed, ran]
    have outcome := outcome_ok_iff (world 0 frame) code capacity
    refine ⟨?_, ?_, ?_, ?_, ?_⟩
    · intro
      exact ⟨frame, world 0 frame, rfl,
        ((writeFrame_ok_iff code request frame).mp written).2⟩
    · intro long
      omega
    · constructor
      · intro accepted
        cases result : (world 0 frame).outcome code capacity with
        | error failure =>
            rw [result] at accepted
            cases accepted
        | ok payload =>
            rcases (outcome payload).mp result with ⟨buffer, framed⟩
            exact ⟨frame, world 0 frame, buffer, payload, by simp, framed⟩
      · rintro ⟨_, _, buffer, payload, same, framed⟩
        cases List.mem_singleton.mp same
        rw [(outcome payload).mpr ⟨buffer, framed⟩]
        rfl
    · intro _ _ buffer payload same received small fits framed
      cases List.mem_singleton.mp same
      rw [(outcome payload).mpr ⟨buffer, received, small, fits, framed⟩]
      rfl
    · intro failed
      cases result : (world 0 frame).outcome code capacity with
      | error failure => rfl
      | ok payload =>
          rw [result] at failed
          exact (failed rfl).elim
  · have long : 252 < request.length := Nat.not_le.mp short
    rw [commandInto, writeFrame_error code long]
    refine ⟨fun fits => (short fits).elim, fun _ => rfl, ?_, ?_, ?_⟩
    · constructor
      · intro accepted
        cases accepted
      · rintro ⟨_, _, _, _, impossible, -⟩
        cases impossible
    · intro _ _ _ _ impossible
      cases impossible
    · intro
      rfl

/-! ## An answering controller -/

/-- A copied array starts with the buffer it was copied from. -/
theorem prefix_load {size : Nat} {buffer : List Byte}
    (fits : buffer.length ≤ size) :
    buffer <+: (load size buffer 0).toList := by
  rw [List.prefix_iff_eq_take]
  apply List.ext_getElem
  · simp [fits]
  · intro index inside _
    simp [byteAt, inside]

/-- The driver receives the octets which follow the ready octet. -/
theorem responseBuffer_receiving
    (code : Byte) (payload octets : List Byte) :
    responseBuffer
        { Exchange.answering code payload with
          response := .ok (load 281 (0x01 :: octets) 0) } =
      .ok (load 281 (0x01 :: octets) 0).toList.tail := by
  have acknowledged :
      readAck (Exchange.answering code payload).ack = .ok () := by
    rfl
  have ready :
      (load 281 (0x01 :: octets) 0)[0] &&& pn532I2cReady ≠ 0 := by
    rw [getElem_load]
    change (0x01 : Byte) &&& pn532I2cReady ≠ 0
    decide
  unfold responseBuffer
  simp only
  rw [acknowledged]
  change readData (.ok (load 281 _ 0)) = _
  rw [readData, if_neg (by decide)]
  exact if_neg ready

theorem responseBuffer_answering (code : Byte) (payload : List Byte) :
    responseBuffer (Exchange.answering code payload) =
      .ok (load 281 (0x01 :: responseFrame code payload) 0).toList.tail :=
  responseBuffer_receiving code payload (responseFrame code payload)

theorem isFrame_responseFrame (code : Byte) {payload : List Byte}
    (short : payload.length ≤ 252) :
    IsFrame pn532Pn532ToHost (code + 1) payload
      (responseFrame code payload) :=
  ⟨_, _, _, rfl, toNat_ofNat_size short, add_zero_sub _, add_zero_sub _⟩

/-- The driver receives what an undisturbed controller answers. -/
theorem outcome_answering
    (code : Byte) {capacity : Nat} {payload : List Byte}
    (short : payload.length ≤ 252) (fits : payload.length ≤ capacity) :
    (Exchange.answering code payload).outcome code capacity =
      .ok payload := by
  rw [outcome_ok_iff]
  refine ⟨_, responseBuffer_answering code payload, short, fits, _,
    isFrame_responseFrame code short, ?_⟩
  have length :
      (0x01 :: responseFrame code payload).length ≤ 281 := by
    simp only [responseFrame, List.length_cons, List.length_append,
      List.length_nil]
    omega
  rcases prefix_load length with ⟨rest, whole⟩
  rw [← whole]
  exact List.prefix_append _ rest

/-! ## A damaged octet -/

/-- What the checks of `command` say about the octets of a buffer. -/
structure PassesChecks (buffer : List Byte) : Prop where
  preamble : byteAt buffer 0 = 0x00 ∧ byteAt buffer 1 = 0x00 ∧
    byteAt buffer 2 = 0xFF
  complement : byteAt buffer 3 + byteAt buffer 4 = 0
  checksum : (slice buffer 5 ((byteAt buffer 3).toNat + 1)).sum = 0
  postamble : byteAt buffer (6 + (byteAt buffer 3).toNat) = 0

theorem passesChecks_of_acceptFrame
    {code : Byte} {capacity : Nat} {buffer payload : List Byte}
    (full : buffer.length = pn532FrameCapacity)
    (accepted : acceptFrame code capacity buffer = .ok payload) :
    PassesChecks buffer := by
  have bounds := dataSize_of_acceptFrame accepted
  rw [pn532FrameCapacity] at full
  unfold acceptFrame at accepted
  dsimp only at accepted
  split_ifs at accepted with start sized inside checked
  simp only [not_or, not_not] at start sized checked
  refine ⟨start, sized.2.2, ?_, ?_⟩
  · rw [slice_succ (by omega), List.sum_append, List.sum_singleton]
    exact checked.1
  · have position :
        6 + (byteAt buffer 3).toNat = 5 + (byteAt buffer 3).toNat + 1 := by
      omega
    rw [position]
    exact checked.2

/-- Two checked buffers which differ in one octet do not differ at all. -/
theorem PassesChecks.eq_of_set
    {buffer : List Byte} {index : Nat} {value : Byte}
    (full : buffer.length = pn532FrameCapacity)
    (upper : (byteAt buffer 3).toNat ≤ 254)
    (checked : PassesChecks buffer)
    (inside : index < (byteAt buffer 3).toNat + 7)
    (damaged : PassesChecks (buffer.set index value)) :
    value = byteAt buffer index := by
  rw [pn532FrameCapacity] at full
  have stored : byteAt (buffer.set index value) index = value :=
    byteAt_set_self (by omega) value
  have kept : ∀ other, index ≠ other →
      byteAt (buffer.set index value) other = byteAt buffer other :=
    fun other different => byteAt_set_of_ne buffer different value
  by_cases front : index < 3
  · have cases : index = 0 ∨ index = 1 ∨ index = 2 := by omega
    rcases cases with rfl | rfl | rfl
    · rw [← stored, damaged.preamble.1, checked.preamble.1]
    · rw [← stored, damaged.preamble.2.1, checked.preamble.2.1]
    · rw [← stored, damaged.preamble.2.2, checked.preamble.2.2]
  -- a damaged length octet no longer agrees with its complement
  have size := damaged.complement
  by_cases length : index = 3
  · subst length
    rw [stored, kept 4 (by decide)] at size
    exact add_right_cancel (size.trans checked.complement.symm)
  rw [kept 3 length] at size
  by_cases complement : index = 4
  · subst complement
    rw [stored] at size
    exact add_left_cancel (size.trans checked.complement.symm)
  -- otherwise both buffers are cut at the same place
  have sum := damaged.checksum
  have last := damaged.postamble
  rw [kept 3 length] at sum last
  by_cases data : index < 6 + (byteAt buffer 3).toNat
  · have position : index = 5 + (index - 5) := by omega
    rw [position, slice_set] at sum
    have changed :=
      eq_byteAt_of_sum_set (by simp [slice]; omega)
        (sum.trans checked.checksum.symm)
    rw [byteAt_slice buffer 5 (by omega), ← position] at changed
    exact changed
  · have position : index = 6 + (byteAt buffer 3).toNat := by omega
    rw [← position, stored] at last
    rw [last, position, checked.postamble]

/-- The response buffer which `command` reads in a world. -/
def Receives
    (code : Byte) (request : List Byte) (world : Pn532World)
    (buffer : List Byte) : Prop :=
  ∃ frame, writeFrame code request = .ok frame ∧
    responseBuffer (world 0 frame) = .ok buffer

theorem Receives.run
    {code : Byte} {request : List Byte} {world : Pn532World}
    {buffer : List Byte} (received : Receives code request world buffer)
    (capacity : Nat) (out : CommandOut) :
    buffer.length = pn532FrameCapacity ∧
      (commandInto code request capacity out).run world =
        out.record (acceptFrame code capacity buffer) := by
  rcases received with ⟨frame, written, read⟩
  refine ⟨length_responseBuffer read, ?_⟩
  rw [(commandInto_run code capacity out world written).2,
    outcome_eq_bind, read]
  rfl

/--
A single damaged octet of an accepted frame is always noticed, and then nothing
is written.
-/
theorem damaged_octet_detected
    {code : Byte} {request : List Byte} {capacity : Nat}
    {out : CommandOut} {world disturbed : Pn532World}
    {buffer : List Byte}
    (received : Receives code request world buffer)
    (accepted :
      ((commandInto code request capacity out).run world).1 = .ok ())
    {index : Nat} {value : Byte}
    (inside : index < (byteAt buffer 3).toNat + 7)
    (different : value ≠ byteAt buffer index)
    (damaged :
      Receives code request disturbed (buffer.set index value)) :
    ∃ failure,
      (commandInto code request capacity out).run disturbed =
        (.error failure, out) := by
  rcases received.run capacity out with ⟨full, ran⟩
  rcases damaged.run capacity out with ⟨damagedFull, reran⟩
  rw [ran] at accepted
  rw [reran]
  cases first : acceptFrame code capacity buffer with
  | error failure =>
      rw [first] at accepted
      cases accepted
  | ok payload =>
      cases second :
          acceptFrame code capacity (buffer.set index value) with
      | error failure => exact ⟨failure, rfl⟩
      | ok other =>
          have upper := (dataSize_of_acceptFrame first).2
          have same :=
            (passesChecks_of_acceptFrame full first).eq_of_set full upper
              inside (passesChecks_of_acceptFrame damagedFull second)
          exact (different same).elim

/-- The response frame of a radio switch. -/
def radioFrame : List Byte :=
  responseFrame pn532CommandRfConfiguration []

/-- An exchange in which the length octet of that frame is disturbed. -/
def disturbedLength : Exchange :=
  { Exchange.answering pn532CommandRfConfiguration [] with
    response := .ok (load 281 (0x01 :: radioFrame.set 3 0x07) 0) }

theorem damaged_octet_detected_length :
    ∃ failure,
      (commandInto pn532CommandRfConfiguration [0x01, 0x01] 8
          ⟨none, 0⟩).run (fun _ _ => disturbedLength) =
        (.error failure, ⟨none, 0⟩) := by
  have received :
      Receives pn532CommandRfConfiguration [0x01, 0x01]
        (fun _ _ => .answering pn532CommandRfConfiguration [])
        (load 281 (0x01 :: radioFrame) 0).toList.tail :=
    ⟨_, rfl, responseBuffer_answering _ []⟩
  have shifted :
      (load 281 (0x01 :: radioFrame.set 3 0x07) 0).toList.tail =
        (load 281 (0x01 :: radioFrame) 0).toList.tail.set 3 0x07 := by
    have replaced :=
      set_load (0x01 :: radioFrame) 0x07 (by decide : 4 < 281) (by decide)
    rw [List.set_cons_succ] at replaced
    rw [← replaced, Vector.toList_set]
    cases (load 281 (0x01 :: radioFrame) 0).toList <;> rfl
  have damaged :
      Receives pn532CommandRfConfiguration [0x01, 0x01]
        (fun _ _ => disturbedLength)
        ((load 281 (0x01 :: radioFrame) 0).toList.tail.set 3 0x07) := by
    rw [← shifted]
    exact ⟨_, rfl, responseBuffer_receiving _ [] _⟩
  have accepted :
      ((commandInto pn532CommandRfConfiguration [0x01, 0x01] 8
        ⟨none, 0⟩).run
          (fun _ _ => .answering pn532CommandRfConfiguration [])).1 =
        .ok () := by
    decide +kernel
  exact damaged_octet_detected received accepted (by decide +kernel)
    (by decide +kernel) damaged

end Pareader.Firmware.Pn532Codec
