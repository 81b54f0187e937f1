import Pareader.Core.Buffer
import Pareader.Core.Transducer

/-!
# SEGA framing

A frame is a sync octet, the escaped request or response octets and their
escaped checksum.  `sega_receive` is a transducer from received octets to calls
of `dispatch`: the handlers never touch the parser, so the calls and their
arguments are determined by the stream alone.

The analysis rests on one run lemma.  Between two sync octets the parser sees a
stream of unescaped data, and what it does with that data is a function of the
data: nothing until the announced length is reached, then one call if the
checksum agrees, and nothing more until the next sync octet.
-/

namespace Pareader.Firmware.SegaFraming

open Pareader.Core

/-! ## Encoding -/

def sgSync : Byte := 0xE0
def sgEscape : Byte := 0xD0

def encodeByte (byte : Byte) : List Byte :=
  if byte = sgEscape ∨ byte = sgSync then
    [sgEscape, byte - 1]
  else
    [byte]

/-- The escaped form of a byte string. -/
def encodeBytes (bytes : List Byte) : List Byte :=
  bytes.flatMap encodeByte

/-- The frame which carries the given octets and their checksum. -/
def encodeFrame (decoded : List Byte) : List Byte :=
  sgSync :: encodeBytes (decoded ++ [decoded.sum])

/-- The octets of a response before escaping. -/
def decodedResponse
    (request : List Byte) (status : Byte) (payload : List Byte) :
    List Byte :=
  [UInt8.ofNat (6 + payload.length), byteAt request 1, byteAt request 2,
      byteAt request 3, status, UInt8.ofNat payload.length] ++ payload

/-- The frames which `send_response` hands to `usb_device_send_cdc`. -/
def sendResponse
    (request : List Byte) (status : Byte) (payload : List Byte) :
    List (List Byte) :=
  if payload.length > 249 then
    []
  else
    [encodeFrame (decodedResponse request status payload)]

/-! ## The parser -/

/--
`sg_parser_t`.  Only the first `size` octets of its array are ever read, so
the array and its size are one list.
-/
@[ext]
structure SgParser where
  synchronized : Bool
  escaped : Bool
  bytes : List Byte
deriving DecidableEq, Repr

/-- The state after `reset_parser`, which is also that of `sega_init`. -/
def resetParser : SgParser :=
  ⟨false, false, []⟩

def segaInit : SgParser :=
  resetParser

/-- Append one unescaped octet and dispatch a completed frame. -/
def acceptByte (parser : SgParser) (byte : Byte) :
    SgParser × List (List Byte) :=
  if parser.bytes.length ≥ 257 then
    (resetParser, [])
  else
    let bytes := parser.bytes ++ [byte]
    let expected := (byteAt bytes 0).toNat + 1
    if bytes.length = expected then
      let request := bytes.take (bytes.length - 1)
      if request.sum = byteAt bytes (bytes.length - 1) then
        (resetParser, [request])
      else
        (resetParser, [])
    else if bytes.length > expected then
      (resetParser, [])
    else
      ({ parser with bytes := bytes }, [])

/-- One iteration of `sega_receive`, with the calls of `dispatch` it makes. -/
def receiveByte (parser : SgParser) (byte : Byte) :
    SgParser × List (List Byte) :=
  if parser.synchronized = false then
    if byte = sgSync then
      ({ parser with synchronized := true, bytes := [] }, [])
    else
      (parser, [])
  else if parser.escaped = false ∧ byte = sgSync then
    ({ parser with bytes := [] }, [])
  else if parser.escaped = false ∧ byte = sgEscape then
    ({ parser with escaped := true }, [])
  else
    acceptByte { parser with escaped := false }
      (if parser.escaped then byte + 1 else byte)

/-- `sega_receive` as a transducer from octets to dispatched requests. -/
def segaParser : Transducer SgParser Byte (List Byte) where
  step := receiveByte

/-! ## The escape code -/

theorem encodeByte_plain
    {byte : Byte} (noEscape : byte ≠ sgEscape) (noSync : byte ≠ sgSync) :
    encodeByte byte = [byte] := by
  simp [encodeByte, noEscape, noSync]

theorem encodeByte_special
    {byte : Byte} (special : byte = sgEscape ∨ byte = sgSync) :
    encodeByte byte = [sgEscape, byte - 1] := by
  simp [encodeByte, special]

/-- The escape code never contains a sync octet. -/
theorem sync_not_mem_encodeByte (byte : Byte) :
    sgSync ∉ encodeByte byte := by
  unfold encodeByte
  split
  · rename_i special
    rcases special with rfl | rfl <;> decide
  · rename_i plain
    simp only [List.mem_singleton]
    intro equal
    exact plain (Or.inr equal.symm)

theorem sync_not_mem_encodeBytes (bytes : List Byte) :
    sgSync ∉ encodeBytes bytes := by
  simp only [encodeBytes, List.mem_flatMap, not_exists, not_and]
  intro byte _
  exact sync_not_mem_encodeByte byte

/-- Escaping at most doubles the length. -/
theorem length_encodeByte_le (byte : Byte) :
    (encodeByte byte).length ≤ 2 := by
  unfold encodeByte
  split
  · exact Nat.le_refl 2
  · exact Nat.le_succ 1

theorem length_encodeBytes_le (bytes : List Byte) :
    (encodeBytes bytes).length ≤ 2 * bytes.length := by
  induction bytes with
  | nil => exact Nat.le_refl 0
  | cons byte rest induction =>
      have first := length_encodeByte_le byte
      have split :
          encodeBytes (byte :: rest) =
            encodeByte byte ++ encodeBytes rest := by
        simp [encodeBytes]
      rw [split, List.length_append, List.length_cons]
      omega

/-- Every escape octet is followed by one of the two escaped values. -/
def EscapesPaired (stream : List Byte) : Prop :=
  ∀ index, stream[index]? = some sgEscape →
    stream[index + 1]? = some 0xCF ∨ stream[index + 1]? = some 0xDF

theorem escapesPaired_encodeByte_append
    (byte : Byte) {rest : List Byte} (paired : EscapesPaired rest) :
    EscapesPaired (encodeByte byte ++ rest) := by
  intro index found
  by_cases special : byte = sgEscape ∨ byte = sgSync
  · rw [encodeByte_special special] at found ⊢
    match index with
    | 0 =>
        rcases special with rfl | rfl
        · exact Or.inl rfl
        · exact Or.inr rfl
    | 1 =>
        rcases special with rfl | rfl <;> simp [sgEscape, sgSync] at found
    | index + 2 => exact paired index found
  · have plain := not_or.mp special
    rw [encodeByte_plain plain.1 plain.2] at found ⊢
    match index with
    | 0 =>
        simp only [List.singleton_append, List.getElem?_cons_zero,
          Option.some.injEq] at found
        exact (plain.1 found).elim
    | index + 1 => exact paired index found

theorem escapesPaired_encodeBytes (bytes : List Byte) :
    EscapesPaired (encodeBytes bytes) := by
  induction bytes with
  | nil =>
      intro index found
      simp [encodeBytes] at found
  | cons byte rest induction =>
      exact escapesPaired_encodeByte_append byte induction

theorem escapesPaired_encodeFrame (decoded : List Byte) :
    EscapesPaired (encodeFrame decoded) := by
  intro index found
  match index with
  | 0 => simp [encodeFrame, sgSync, sgEscape] at found
  | index + 1 => exact escapesPaired_encodeBytes _ index found

/-! ## Data between two sync octets -/

/-- The announced length of buffered data. -/
def announced (data : List Byte) : Nat :=
  (byteAt data 0).toNat

/-- The data has reached the octet after its announced length. -/
def Complete (data : List Byte) : Prop :=
  announced data < data.length

instance (data : List Byte) : Decidable (Complete data) :=
  inferInstanceAs (Decidable (_ < _))

/-- The calls which unescaped data causes. -/
def dataCalls (data : List Byte) : List (List Byte) :=
  if Complete data ∧
      (data.take (announced data)).sum = byteAt data (announced data) then
    [data.take (announced data)]
  else
    []

/-- The parser which unescaped data leaves behind. -/
def dataParser (data : List Byte) : SgParser :=
  if Complete data then resetParser else ⟨true, false, data⟩

theorem announced_append
    {data : List Byte} (nonempty : data ≠ []) (rest : List Byte) :
    announced (data ++ rest) = announced data := by
  cases data with
  | nil => exact (nonempty rfl).elim
  | cons first tail => rfl

theorem announced_le (data : List Byte) : announced data ≤ 255 := by
  have bound := (byteAt data 0).toNat_lt
  unfold announced
  omega

/-- Data which is not complete fits its announced length. -/
theorem length_le_of_not_complete
    {data : List Byte} (incomplete : ¬ Complete data) :
    data.length ≤ announced data :=
  Nat.le_of_not_lt incomplete

/-- One octet more completes data exactly when it fills the announced length. -/
theorem announced_of_completed
    {data : List Byte} {byte : Byte}
    (incomplete : ¬ Complete data)
    (completed : Complete (data ++ [byte])) :
    announced (data ++ [byte]) = data.length := by
  have bound := length_le_of_not_complete incomplete
  simp only [Complete, List.length_append, List.length_singleton]
    at completed
  by_cases empty : data = []
  · subst empty
    simp only [List.length_nil] at completed ⊢
    omega
  · rw [announced_append empty] at completed ⊢
    omega

/-- Accepting an octet is the one-octet case of the run lemma. -/
theorem acceptByte_data
    {data : List Byte} (incomplete : ¬ Complete data) (byte : Byte) :
    acceptByte ⟨true, false, data⟩ byte =
      (dataParser (data ++ [byte]), dataCalls (data ++ [byte])) := by
  have bound := length_le_of_not_complete incomplete
  have small := announced_le data
  have fits : ¬ data.length ≥ 257 := by omega
  unfold acceptByte dataParser dataCalls
  simp only [if_neg fits]
  by_cases completed : Complete (data ++ [byte])
  · have length := announced_of_completed incomplete completed
    have filled :
        (data ++ [byte]).length =
          (byteAt (data ++ [byte]) 0).toNat + 1 := by
      change _ = announced (data ++ [byte]) + 1
      rw [length]
      simp
    rw [if_pos filled, if_pos completed, length]
    simp only [List.length_append, List.length_singleton,
      Nat.add_sub_cancel, completed, true_and]
    split <;> rfl
  · have notFilled :
        ¬ (data ++ [byte]).length =
          (byteAt (data ++ [byte]) 0).toNat + 1 := by
      intro filled
      apply completed
      unfold Complete announced
      omega
    have notOver :
        ¬ (data ++ [byte]).length >
          (byteAt (data ++ [byte]) 0).toNat + 1 := by
      intro exceeded
      apply completed
      unfold Complete announced
      omega
    rw [if_neg notFilled, if_neg notOver]
    simp [completed]

/-- An escaped octet is accepted as the octet it stands for. -/
theorem run_encodeByte
    (data : List Byte) (byte : Byte) :
    segaParser.run ⟨true, false, data⟩ (encodeByte byte) =
      acceptByte ⟨true, false, data⟩ byte := by
  by_cases special : byte = sgEscape ∨ byte = sgSync
  · rw [encodeByte_special special]
    have notSync : sgEscape ≠ sgSync := by decide
    simp [Transducer.run_cons, segaParser, receiveByte, notSync]
  · have plain := not_or.mp special
    rw [encodeByte_plain plain.1 plain.2, Transducer.run_singleton]
    simp [segaParser, receiveByte, plain.1, plain.2]

/-- Without a sync octet an idle parser stays idle. -/
theorem run_idle
    (parser : SgParser) (idle : parser.synchronized = false)
    {stream : List Byte} (noSync : sgSync ∉ stream) :
    segaParser.run parser stream = (parser, []) := by
  induction stream with
  | nil => rfl
  | cons byte rest induction =>
      have different : byte ≠ sgSync := by
        rintro rfl
        exact noSync List.mem_cons_self
      have stays : segaParser.step parser byte = (parser, []) := by
        simp [segaParser, receiveByte, idle, different]
      rw [Transducer.run_cons, stays,
        induction (fun member => noSync (List.mem_cons_of_mem _ member))]
      rfl

/-- What was complete stays complete, with the same calls. -/
theorem dataCalls_append
    {data : List Byte} (completed : Complete data) (rest : List Byte) :
    dataCalls (data ++ rest) = dataCalls data := by
  have nonempty : data ≠ [] := by
    rintro rfl
    simp [Complete] at completed
  have same := announced_append nonempty rest
  have inside : announced data < data.length := completed
  have stillComplete : Complete (data ++ rest) := by
    unfold Complete
    rw [same, List.length_append]
    omega
  have taken :
      (data ++ rest).take (announced data) =
        data.take (announced data) :=
    List.take_append_of_le_length (by omega)
  have next :
      byteAt (data ++ rest) (announced data) =
        byteAt data (announced data) := by
    simp [byteAt, List.getD_eq_getElem?_getD,
      List.getElem?_append_left inside]
  unfold dataCalls
  rw [same, taken, next]
  simp [completed, stillComplete]

theorem dataParser_append
    {data : List Byte} (completed : Complete data) (rest : List Byte) :
    dataParser (data ++ rest) = resetParser := by
  have nonempty : data ≠ [] := by
    rintro rfl
    simp [Complete] at completed
  have inside : announced data < data.length := completed
  have stillComplete : Complete (data ++ rest) := by
    unfold Complete
    rw [announced_append nonempty rest, List.length_append]
    omega
  simp [dataParser, stillComplete]

/--
Run lemma: escaped data takes the parser from the data buffered before to the
data buffered with it.
-/
theorem run_encodeBytes
    {data : List Byte} (incomplete : ¬ Complete data)
    (more : List Byte) :
    segaParser.run ⟨true, false, data⟩ (encodeBytes more) =
      (dataParser (data ++ more), dataCalls (data ++ more)) := by
  induction more generalizing data with
  | nil => simp [encodeBytes, dataParser, dataCalls, incomplete]
  | cons byte rest induction =>
      have split :
          encodeBytes (byte :: rest) =
            encodeByte byte ++ encodeBytes rest := by
        simp [encodeBytes]
      have regroup : data ++ byte :: rest = data ++ [byte] ++ rest := by
        simp
      rw [split, Transducer.run_append, run_encodeByte,
        acceptByte_data incomplete, regroup]
      by_cases completed : Complete (data ++ [byte])
      · have idle : dataParser (data ++ [byte]) = resetParser := by
          simp [dataParser, completed]
        rw [idle, run_idle resetParser rfl (sync_not_mem_encodeBytes rest),
          dataCalls_append completed, dataParser_append completed]
        simp
      · have buffering :
            dataParser (data ++ [byte]) = ⟨true, false, data ++ [byte]⟩ := by
          simp [dataParser, completed]
        have silent : dataCalls (data ++ [byte]) = [] := by
          simp [dataCalls, completed]
        rw [buffering, silent, induction completed]
        rfl

/-! ## Whole frames -/

/-- Octets of which the first announces their number. -/
def Framed (decoded : List Byte) : Prop :=
  decoded ≠ [] ∧ decoded.length = announced decoded

instance (decoded : List Byte) : Decidable (Framed decoded) :=
  inferInstanceAs (Decidable (_ ∧ _))

theorem complete_framed
    {decoded : List Byte} (framed : Framed decoded) (checksum : Byte) :
    Complete (decoded ++ [checksum]) := by
  unfold Complete
  rw [announced_append framed.1, ← framed.2, List.length_append]
  simp

theorem dataCalls_framed
    {decoded : List Byte} (framed : Framed decoded) :
    dataCalls (decoded ++ [decoded.sum]) = [decoded] := by
  have same :
      announced (decoded ++ [decoded.sum]) = decoded.length :=
    (announced_append framed.1 _).trans framed.2.symm
  have checksum :
      byteAt (decoded ++ [decoded.sum]) decoded.length =
        decoded.sum := by
    simp [byteAt]
  unfold dataCalls
  rw [same, checksum]
  simp [complete_framed framed]

/--
A frame is dispatched from every state which is not in the middle of an
escape pair.
-/
theorem run_encodeFrame
    {parser : SgParser} (settled : parser.escaped = false)
    {decoded : List Byte} (framed : Framed decoded) :
    segaParser.run parser (encodeFrame decoded) =
      (resetParser, [decoded]) := by
  have synchronised :
      segaParser.step parser sgSync = (⟨true, false, []⟩, []) := by
    simp only [segaParser, receiveByte]
    split
    · simp [settled]
    · rename_i synced
      simp only [Bool.not_eq_false] at synced
      simp [settled, synced]
  have empty : ¬ Complete [] := by
    simp [Complete]
  have completed := complete_framed framed decoded.sum
  rw [encodeFrame, Transducer.run_cons, synchronised,
    run_encodeBytes empty, List.nil_append, dataCalls_framed framed]
  simp [dataParser, completed]

/-- The arguments of one call of `send_response`. -/
structure Response where
  request : List Byte
  status : Byte
  payload : List Byte

/-- The octets of a response before escaping. -/
def Response.decoded (response : Response) : List Byte :=
  decodedResponse response.request response.status response.payload

/-- The frames of a response. -/
def Response.frames (response : Response) : List (List Byte) :=
  sendResponse response.request response.status response.payload

theorem Response.frames_of_le
    {response : Response} (bounded : response.payload.length ≤ 249) :
    response.frames = [encodeFrame response.decoded] := by
  simp only [Response.frames, sendResponse, Response.decoded]
  rw [if_neg (by omega)]

/-- The size of the frames which are handed to the port. -/
theorem Response.length_frame
    {response : Response} {frame : List Byte}
    (sent : frame ∈ response.frames) :
    0 < frame.length ∧ frame.length ≤ 513 := by
  by_cases bounded : response.payload.length ≤ 249
  · rw [Response.frames_of_le bounded, List.mem_singleton] at sent
    have escaped :=
      length_encodeBytes_le (response.decoded ++ [response.decoded.sum])
    have decoded : response.decoded.length = 6 + response.payload.length := by
      rw [Response.decoded, decodedResponse, List.length_append]
      rfl
    rw [List.length_append, List.length_singleton, decoded] at escaped
    rw [sent, encodeFrame, List.length_cons]
    omega
  · rw [Response.frames, sendResponse, if_pos (by omega)] at sent
    cases sent

theorem Response.framed
    {response : Response} (bounded : response.payload.length ≤ 249) :
    Framed response.decoded := by
  constructor
  · simp [Response.decoded, decodedResponse]
  · have size :
        announced response.decoded =
          (UInt8.ofNat (6 + response.payload.length)).toNat :=
      rfl
    have stored :
        (UInt8.ofNat (6 + response.payload.length)).toNat =
          6 + response.payload.length := by
      rw [UInt8.toNat_ofNat']
      omega
    rw [size, stored]
    simp [Response.decoded, decodedResponse]
    omega

theorem run_responses
    (responses : List Response)
    (bounded : ∀ response ∈ responses, response.payload.length ≤ 249) :
    segaParser.run resetParser
        (responses.flatMap Response.frames).flatten =
      (resetParser, responses.map Response.decoded) := by
  induction responses with
  | nil => rfl
  | cons response rest induction =>
      have first : response.payload.length ≤ 249 :=
        bounded response List.mem_cons_self
      have others := induction
        (fun other member => bounded other (List.mem_cons_of_mem _ member))
      rw [List.flatMap_cons, Response.frames_of_le first,
        List.flatten_append, Transducer.run_append]
      simp only [List.flatten_singleton]
      rw [run_encodeFrame rfl (Response.framed first), others]
      rfl

/--
Round trip over streams: however the concatenated response frames are cut into
chunks, the parser calls `dispatch` once per frame, in order and with the
frame's own octets, and ends reset.  In a frame the sync octet occurs only at
the front, and escape octets only in escape pairs.
-/
theorem sega_frames_round_trip
    (responses : List Response)
    (bounded : ∀ response ∈ responses, response.payload.length ≤ 249)
    (chunks : List (List Byte))
    (cut :
      chunks.flatten = (responses.flatMap Response.frames).flatten) :
    segaParser.runChunks segaInit chunks =
        (resetParser, responses.map Response.decoded) ∧
      ∀ response ∈ responses, ∃ escaped,
        response.frames = [sgSync :: escaped] ∧
        sgSync ∉ escaped ∧
        EscapesPaired (sgSync :: escaped) ∧
        response.decoded =
          [UInt8.ofNat (6 + response.payload.length),
            byteAt response.request 1, byteAt response.request 2,
            byteAt response.request 3, response.status,
            UInt8.ofNat response.payload.length] ++ response.payload ∧
        response.decoded.length = (byteAt response.decoded 0).toNat := by
  constructor
  · rw [Transducer.runChunks_eq_run, cut]
    exact run_responses responses bounded
  · intro response member
    have size := bounded response member
    exact
      ⟨encodeBytes (response.decoded ++ [response.decoded.sum]),
        Response.frames_of_le size,
        sync_not_mem_encodeBytes _,
        escapesPaired_encodeFrame _,
        rfl,
        (Response.framed size).2⟩

/-- A response with escaped octets, delivered in two chunks. -/
theorem sega_frames_round_trip_escaped :
    segaParser.runChunks segaInit
        [[0xE0, 0x08, 0x00], [0x01, 0x30, 0x00, 0x02, 0xD0, 0xDF, 0xD0,
          0xCF, 0xEB]] =
      (resetParser,
        [[0x08, 0x00, 0x01, 0x30, 0x00, 0x02, 0xE0, 0xD0]]) :=
  (sega_frames_round_trip
    [⟨[0x05, 0x00, 0x01, 0x30, 0x00], 0x00, [0xE0, 0xD0]⟩]
    (by decide)
    [[0xE0, 0x08, 0x00], [0x01, 0x30, 0x00, 0x02, 0xD0, 0xDF, 0xD0,
      0xCF, 0xEB]]
    (by decide)).1

/-! ## Resynchronisation -/

/-- The representation invariant of the parser between two octets. -/
structure SgParser.WellFormed (parser : SgParser) : Prop where
  idle : parser.synchronized = false →
    parser.escaped = false ∧ parser.bytes = []
  incomplete : ¬ Complete parser.bytes

theorem wellFormed_resetParser : resetParser.WellFormed := by
  constructor
  · intro _
    exact ⟨rfl, rfl⟩
  · simp [Complete, resetParser]

theorem wellFormed_dataParser (data : List Byte) :
    (dataParser data).WellFormed := by
  unfold dataParser
  split
  · exact wellFormed_resetParser
  · rename_i incomplete
    exact ⟨fun impossible => by simp at impossible, incomplete⟩

/-- One octet preserves the representation invariant. -/
theorem receiveByte_wellFormed
    (parser : SgParser) (byte : Byte)
    (wellFormed : parser.WellFormed) :
    (segaParser.step parser byte).1.WellFormed := by
  have empty : ¬ Complete [] := by
    simp [Complete]
  rcases parser with ⟨synchronized, escaped, bytes⟩
  simp only [segaParser, receiveByte]
  cases synchronized with
  | false =>
      simp only [if_true]
      split
      · exact ⟨fun impossible => by simp at impossible, empty⟩
      · exact wellFormed
  | true =>
      simp only [Bool.true_eq_false, if_false]
      split
      · exact ⟨fun impossible => by simp at impossible, empty⟩
      · split
        · exact
            ⟨fun impossible => by simp at impossible,
              wellFormed.incomplete⟩
        · rw [acceptByte_data wellFormed.incomplete]
          exact wellFormed_dataParser _

/-- The parser after a byte stream received since `sega_init`. -/
def parserAfter (received : List Byte) : SgParser :=
  (segaParser.run segaInit received).1

theorem parserAfter_wellFormed (received : List Byte) :
    (parserAfter received).WellFormed :=
  segaParser.run_invariant receiveByte_wellFormed
    segaInit received wellFormed_resetParser

/--
The frame of a request, received after `received`, makes the parser call
`dispatch`, and the last call has exactly that request.
-/
def Resynchronises (received request : List Byte) : Prop :=
  ∃ earlier,
    (segaParser.run segaInit (received ++ encodeFrame request)).2 =
      (segaParser.run segaInit received).2 ++ earlier ++ [request]

theorem resynchronises_iff_run (received request : List Byte) :
    Resynchronises received request ↔
      ∃ earlier,
        (segaParser.run (parserAfter received)
          (encodeFrame request)).2 = earlier ++ [request] := by
  simp only [Resynchronises, Transducer.run_append, List.append_assoc,
    List.append_cancel_left_eq]
  rfl

/-- In the middle of an escape pair the sync octet is read as data `0xE1`. -/
theorem run_encodeFrame_escaped
    {data : List Byte} (incomplete : ¬ Complete data)
    (request : List Byte) :
    (segaParser.run ⟨true, true, data⟩ (encodeFrame request)).2 =
      dataCalls (data ++ 0xE1 :: (request ++ [request.sum])) := by
  have misread :
      segaParser.step ⟨true, true, data⟩ sgSync =
        segaParser.run ⟨true, false, data⟩ (encodeByte 0xE1) := by
    rw [run_encodeByte]
    simp [segaParser, receiveByte, sgSync]
  have joined :
      encodeByte 0xE1 ++ encodeBytes (request ++ [request.sum]) =
        encodeBytes (0xE1 :: (request ++ [request.sum])) := by
    simp [encodeBytes]
  have whole :=
    run_encodeBytes incomplete (0xE1 :: (request ++ [request.sum]))
  rw [← joined, Transducer.run_append, ← misread] at whole
  rw [encodeFrame, Transducer.run_cons]
  exact congrArg Prod.snd whole

/-- Data causes the call of a request exactly when it starts with its frame. -/
theorem dataCalls_eq_singleton_iff
    {request : List Byte} (framed : Framed request)
    (data : List Byte) :
    dataCalls data = [request] ↔
      (request ++ [request.sum]) <+: data := by
  constructor
  · intro called
    unfold dataCalls at called
    split at called
    · rename_i completed
      rcases completed with ⟨inside, checksum⟩
      simp only [List.cons.injEq, and_true] at called
      have next :
          byteAt data (announced data) = request.sum := by
        rw [← checksum, called]
      have inside : announced data < data.length := inside
      have split :
          data.take (announced data + 1) =
            request ++ [request.sum] := by
        rw [← called, ← next] at *
        rw [List.take_add_one, List.getElem?_eq_getElem inside]
        simp [byteAt, List.getD_eq_getElem?_getD,
          List.getElem?_eq_getElem inside]
      rw [← split]
      exact List.take_prefix _ _
    · simp at called
  · rintro ⟨rest, rfl⟩
    rw [dataCalls_append (complete_framed framed _),
      dataCalls_framed framed]

theorem dataCalls_length_le (data : List Byte) :
    (dataCalls data).length ≤ 1 := by
  unfold dataCalls
  split <;> simp

/--
The parser honours the next intact frame exactly when it is not in the middle
of an escape pair, or when the frame happens to start the data that results
from reading its sync octet as `0xE1`.
-/
theorem resynchronises_iff
    (received request : List Byte) (framed : Framed request) :
    Resynchronises received request ↔
      (parserAfter received).escaped = false ∨
        (request ++ [request.sum]) <+:
          (parserAfter received).bytes ++
            0xE1 :: (request ++ [request.sum]) := by
  rw [resynchronises_iff_run]
  have wellFormed := parserAfter_wellFormed received
  revert wellFormed
  generalize parserAfter received = parser
  intro wellFormed
  cases escaped : parser.escaped with
  | false =>
      simp only [true_or, iff_true]
      rw [run_encodeFrame escaped framed]
      exact ⟨[], rfl⟩
  | true =>
      have synchronized : parser.synchronized = true := by
        by_contra idle
        have settled := (wellFormed.idle (by simpa using idle)).1
        rw [escaped] at settled
        cases settled
      have shape : parser = ⟨true, true, parser.bytes⟩ :=
        SgParser.ext synchronized escaped rfl
      rw [shape, run_encodeFrame_escaped wellFormed.incomplete,
        ← dataCalls_eq_singleton_iff framed]
      simp only [Bool.true_eq_false, false_or]
      constructor
      · rintro ⟨earlier, called⟩
        have short := dataCalls_length_le
          (parser.bytes ++ 0xE1 :: (request ++ [request.sum]))
        rw [called] at short
        have none : earlier = [] := by
          simpa using short
        rw [called, none]
        rfl
      · intro called
        exact ⟨[], called⟩

/-- A frame after one which was cut off is dispatched. -/
theorem resynchronises_after_frame :
    Resynchronises [0xE0, 0x05, 0x00]
      [0x05, 0x00, 0x01, 0x62, 0x00] :=
  (resynchronises_iff _ _ (by decide)).mpr (Or.inl (by decide))

/-- A frame cut off after an escape octet costs the host the next frame. -/
theorem cut_escape_loses_frame :
    ¬ ∀ received request, Framed request →
      (segaParser.run segaInit
        (received ++ encodeFrame request)).2.getLast? =
        some request := by
  intro claimed
  have dispatched :=
    claimed [0xE0, 0xD0] [0x05, 0x00, 0x01, 0x62, 0x00] (by decide)
  revert dispatched
  decide

end Pareader.Firmware.SegaFraming
