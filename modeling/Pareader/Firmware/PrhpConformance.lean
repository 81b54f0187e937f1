import Pareader.Firmware.Hid

/-!
# The PRHP dispatcher and the protocol document

The protocol document says which reports are answered and with what: the
message type selects the route, the opcode registry gives every opcode one
mode, and an opcode used with the wrong message type is discarded.  `Conforms`
states these rules for one received report.

`prhp_dispatch` knows the modes of its opcodes only through the order of its
tests.  Its inversion lemma shows what this order computes, and the comparison
with the rules leaves one kind of report on which they disagree: requests whose
opcode the registry defines as a signal.
-/

namespace Pareader.Firmware.PrhpConformance

open Pareader.Core
open Pareader.Firmware.Hid

/-! ## What the dispatcher computes -/

/-- A request which can be correlated with its response. -/
def IsRequest (request : Report) : Prop :=
  messageTypeOf request = prhpRequest ∧ sequenceOf request ≠ 0

instance (request : Report) : Decidable (IsRequest request) :=
  inferInstanceAs (Decidable (_ ∧ _))

/-- The status of the response to a request. -/
def statusFor (request : Report) : Byte :=
  if statusOf request ≠ 0 then
    prhpInvalidMessage
  else if opcodeOf request = prhpGetVersion then
    prhpSuccess
  else
    prhpUnknownOpcode

/-- The version which a successful response carries. -/
def versionMinor (request : Report) : Byte :=
  if statusFor request = prhpSuccess then 1 else 0

/-- The response to a request, octet by octet. -/
def answer (request : Report) : Report :=
  load 64
    [prhpResponse, opcodeOf request, (sequenceOf request).toUInt8,
      (sequenceOf request >>> 8).toUInt8, statusFor request, 0,
      versionMinor request]
    0

/-- A response without a body. -/
theorem beginResponse_eq
    (opcode status : Byte) (sequence : UInt16) :
    beginResponse opcode status sequence =
      load 64
        [prhpResponse, opcode, sequence.toUInt8,
          (sequence >>> 8).toUInt8, status, 0, 0]
        0 := by
  apply Vector.ext
  intro index inside
  rw [getElem_load]
  simp only [beginResponse, writeLe16, Vector.getElem_set,
    Vector.getElem_setIfInBounds, getElem_zeros]
  rcases index with _ | _ | _ | _ | _ | _ | _ | beyond
  · rfl
  · rfl
  · rfl
  · rfl
  · rfl
  · rfl
  · rfl
  · simp [byteAt]

/-- The dispatcher answers every request, and nothing else. -/
theorem prhpDispatch_eq (request : Report) :
    prhpDispatch request =
      if IsRequest request then some (answer request) else none := by
  have refused : prhpInvalidMessage ≠ prhpSuccess := by decide
  have unknown : prhpUnknownOpcode ≠ prhpSuccess := by decide
  have type : request[0] = messageTypeOf request := rfl
  have opcode : request[1] = opcodeOf request := rfl
  have sequence : le16 request[2] request[3] = sequenceOf request := rfl
  have status : request[4] = statusOf request := rfl
  unfold prhpDispatch
  simp only [type, opcode, sequence, status]
  clear type opcode sequence status
  by_cases status : statusOf request = 0
  · rw [if_neg (not_not.mpr status)]
    split
    · rename_i signal
      rw [if_neg]
      rintro ⟨type, -⟩
      rw [signal] at type
      exact absurd type (by decide)
    · split
      · rename_i discarded
        rw [if_neg]
        rintro ⟨type, sequence⟩
        rcases discarded with other | zero
        · exact other type
        · exact sequence zero
      · rename_i accepted
        rw [not_or, not_not] at accepted
        have correlated : IsRequest request := accepted
        rw [if_pos correlated]
        split
        · rename_i opcode
          rw [beginResponse_eq, set_load _ _ _ (by simp),
            set_load _ _ _ (by simp), answer]
          simp [versionMinor, statusFor, status, opcode]
        · rename_i opcode
          rw [beginResponse_eq, answer]
          simp [versionMinor, statusFor, status, opcode, unknown]
  · rw [if_pos status]
    by_cases correlated : IsRequest request
    · rw [if_pos correlated, if_pos ⟨correlated.1, correlated.2⟩,
        beginResponse_eq, answer]
      simp [versionMinor, statusFor, status, refused]
    · rw [if_neg correlated, if_neg]
      exact correlated

/-! ## What the protocol document asks for -/

/-- The modes of the opcode registry. -/
inductive OpcodeMode where
  | requestResponse
  | signal
  | reserved
deriving DecidableEq, Repr

/-- The opcode registry. -/
def opcodeMode (opcode : Byte) : OpcodeMode :=
  if opcode = prhpGetVersion then
    .requestResponse
  else if opcode = prhpCardState ∨ opcode = prhpSetLed then
    .signal
  else
    .reserved

/-- A report is the response which the document prescribes for a request. -/
structure Answers (request report : Report) : Prop where
  type : messageTypeOf report = prhpResponse
  opcode : opcodeOf report = opcodeOf request
  sequence : sequenceOf report = sequenceOf request
  status : statusOf report =
    if statusOf request ≠ 0 then prhpInvalidMessage
    else if opcodeMode (opcodeOf request) = .requestResponse then prhpSuccess
    else prhpUnknownOpcode
  version : versionOf report =
    if statusOf report = prhpSuccess then (0, 1) else (0, 0)
  zero : ∀ index (inside : index < 64), 7 ≤ index → report[index] = 0

/--
What is sent for one received report.  At most one report is sent, and there
is one exactly for the requests whose opcode is not defined as a signal.
-/
structure Conforms (request : Report) (sent : Option Report) : Prop where
  emits :
    sent.isSome = true ↔
      messageTypeOf request = prhpRequest ∧ sequenceOf request ≠ 0 ∧
        opcodeMode (opcodeOf request) ≠ .signal
  answers : ∀ report, sent = some report → Answers request report

theorem opcodeMode_eq_requestResponse_iff (opcode : Byte) :
    opcodeMode opcode = .requestResponse ↔ opcode = prhpGetVersion := by
  unfold opcodeMode
  split
  · simp [*]
  · split <;> simp [*]

theorem statusOf_answer (request : Report) :
    statusOf (answer request) = statusFor request := by
  rw [answer, statusOf_load]
  rfl

theorem answer_answers (request : Report) :
    Answers request (answer request) where
  type := by
    rw [answer, messageTypeOf_load]
    rfl
  opcode := by
    rw [answer, opcodeOf_load]
    rfl
  sequence := by
    rw [answer, sequenceOf_load]
    exact le16_toUInt8 (sequenceOf request)
  status := by
    rw [statusOf_answer]
    simp only [statusFor, opcodeMode_eq_requestResponse_iff]
  version := by
    rw [statusOf_answer, answer, versionOf_load]
    change (0, versionMinor request) = _
    rw [versionMinor]
    split <;> rfl
  zero := by
    intro index inside beyond
    rw [answer, getElem_load, Nat.zero_add]
    apply List.getD_eq_default
    simpa using beyond

/--
The dispatcher conforms to the document exactly on the reports which are not a
request with an opcode of the signals.
-/
theorem prhpDispatch_conforms_iff (request : Report) :
    Conforms request (prhpDispatch request) ↔
      ¬ (messageTypeOf request = prhpRequest ∧ sequenceOf request ≠ 0 ∧
        opcodeMode (opcodeOf request) = .signal) := by
  rw [prhpDispatch_eq]
  constructor
  · rintro conforms ⟨type, sequence, signal⟩
    have correlated : IsRequest request := ⟨type, sequence⟩
    have emitted := conforms.emits
    rw [if_pos correlated] at emitted
    exact (emitted.mp rfl).2.2 signal
  · intro registered
    constructor
    · by_cases correlated : IsRequest request
      · rw [if_pos correlated]
        refine ⟨fun _ => ⟨correlated.1, correlated.2, ?_⟩, fun _ => rfl⟩
        intro signal
        exact registered ⟨correlated.1, correlated.2, signal⟩
      · rw [if_neg correlated]
        constructor
        · intro emitted
          cases emitted
        · rintro ⟨type, sequence, -⟩
          exact (correlated ⟨type, sequence⟩).elim
    · intro report sent
      by_cases correlated : IsRequest request
      · rw [if_pos correlated] at sent
        rw [← Option.some.inj sent]
        exact answer_answers request
      · rw [if_neg correlated] at sent
        cases sent

/-- A request for the card state, with sequence 1. -/
def cardStateRequest : Report :=
  load 64 [prhpRequest, prhpCardState, 0x01] 0

/-- It is answered, although card states are signals. -/
theorem prhpDispatch_cardStateRequest :
    prhpDispatch cardStateRequest =
        some (beginResponse prhpCardState prhpUnknownOpcode 1) ∧
      ¬ Conforms cardStateRequest (prhpDispatch cardStateRequest) := by
  have answered : prhpDispatch cardStateRequest =
      some (beginResponse prhpCardState prhpUnknownOpcode 1) := by
    rw [prhpDispatch_eq, if_pos (by decide), beginResponse_eq]
    rfl
  refine ⟨answered, ?_⟩
  intro conforms
  have emitted := conforms.emits
  rw [answered] at emitted
  exact (emitted.mp rfl).2.2 (by decide)

end Pareader.Firmware.PrhpConformance
