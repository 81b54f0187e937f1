import Pareader.Firmware.SegaFraming

/-!
# Soundness of the SEGA parser

Every call of `dispatch` is caused by one segment of the received stream: a
sync octet and escaped data in which no further sync octet is read as one.  The
segments follow each other in the order of the calls and share no octet.

The induction over the stream carries the octets received since the last call.
While the parser is synchronized they end with a sync octet and the escaped form
of the buffered data, up to an escape octet whose partner is still missing.
-/

namespace Pareader.Firmware.SegaSoundness

open Pareader.Core
open Pareader.Firmware.SegaFraming

/-! ## Unescaping -/

/-- The data of escaped octets, of which the first may complete a pair. -/
def unescapeFrom : Bool → List Byte → Option (List Byte)
  | false, [] => some []
  | true, [] => none
  | true, byte :: rest =>
      (unescapeFrom false rest).map (fun data => (byte + 1) :: data)
  | false, byte :: rest =>
      if byte = sgSync then
        none
      else if byte = sgEscape then
        unescapeFrom true rest
      else
        (unescapeFrom false rest).map (fun data => byte :: data)

/--
The data of an escaped octet string.  There is none if a sync octet stands at
an unescaped position or the last escape octet has no partner.
-/
def unescape (escaped : List Byte) : Option (List Byte) :=
  unescapeFrom false escaped

theorem unescapeFrom_append
    {pair : Bool} {first second firstData secondData : List Byte}
    (left : unescapeFrom pair first = some firstData)
    (right : unescape second = some secondData) :
    unescapeFrom pair (first ++ second) =
      some (firstData ++ secondData) := by
  induction first generalizing pair firstData with
  | nil =>
      cases pair with
      | false =>
          cases left
          exact right
      | true => cases left
  | cons byte rest induction =>
      cases pair with
      | true =>
          rcases Option.map_eq_some_iff.mp left with ⟨data, known, rfl⟩
          exact congrArg (Option.map _) (induction known)
      | false =>
          rw [List.cons_append]
          rw [unescapeFrom] at left ⊢
          split at left
          · cases left
          · rename_i noSync
            rw [if_neg noSync]
            split at left
            · rename_i escape
              rw [if_pos escape]
              exact induction left
            · rename_i noEscape
              rw [if_neg noEscape]
              rcases Option.map_eq_some_iff.mp left with ⟨data, known, rfl⟩
              exact congrArg (Option.map _) (induction known)

theorem unescape_append_plain
    {escaped data : List Byte} (known : unescape escaped = some data)
    {byte : Byte} (noSync : byte ≠ sgSync) (noEscape : byte ≠ sgEscape) :
    unescape (escaped ++ [byte]) = some (data ++ [byte]) := by
  apply unescapeFrom_append known
  simp [unescape, unescapeFrom, noSync, noEscape]

theorem unescape_append_pair
    {escaped data : List Byte} (known : unescape escaped = some data)
    (byte : Byte) :
    unescape (escaped ++ [sgEscape, byte]) =
      some (data ++ [byte + 1]) := by
  have notSync : sgEscape ≠ sgSync := by decide
  apply unescapeFrom_append known
  simp [unescape, unescapeFrom, notSync]

/-! ## Segments -/

/--
The segment is a sync octet and the escaped form of the request and its
checksum.  The first octet of this data announces the length of the request.
-/
def IsFrame (segment request : List Byte) : Prop :=
  ∃ escaped checksum,
    segment = sgSync :: escaped ∧
    unescape escaped = some (request ++ [checksum]) ∧
    (byteAt (request ++ [checksum]) 0).toNat = request.length ∧
    checksum = request.sum

/-- The requests are the frames of disjoint segments of the stream, in order. -/
inductive Carries : List Byte → List (List Byte) → Prop where
  | nothing (stream : List Byte) : Carries stream []
  | frame (gap segment rest request : List Byte)
      (requests : List (List Byte))
      (frame : IsFrame segment request)
      (others : Carries rest requests) :
      Carries (gap ++ (segment ++ rest)) (request :: requests)

/-- The octets received since the last call explain the parser. -/
def Explains (received : List Byte) (parser : SgParser) : Prop :=
  parser.synchronized = true →
    ∃ gap escaped,
      received = gap ++ sgSync ::
        (escaped ++ if parser.escaped then [sgEscape] else []) ∧
      unescape escaped = some parser.bytes

/-- Data which is completed and dispatched comes from a frame. -/
theorem isFrame_of_dataCalls
    {data : List Byte} {byte : Byte} (incomplete : ¬ Complete data)
    {escaped request : List Byte}
    (unescaped : unescape escaped = some (data ++ [byte]))
    (called : dataCalls (data ++ [byte]) = [request]) :
    IsFrame (sgSync :: escaped) request := by
  unfold dataCalls at called
  split at called
  · rename_i completed
    rcases completed with ⟨completed, checksum⟩
    have length := announced_of_completed incomplete completed
    rw [length] at called checksum
    obtain rfl : data = request := by
      simpa using called
    refine ⟨escaped, byte, rfl, unescaped, length, ?_⟩
    simpa [byteAt] using checksum.symm
  · cases called

theorem explains_reset : Explains [] resetParser :=
  nofun

/-- A sync octet explains a parser which has just been synchronized. -/
theorem explains_sync (received : List Byte) :
    Explains (received ++ [sgSync]) ⟨true, false, []⟩ := by
  intro _
  exact ⟨received, [], rfl, rfl⟩

/-- The effect of accepting an octet, once its escaped form is known. -/
theorem acceptByte_explained
    {data : List Byte} (incomplete : ¬ Complete data) (byte : Byte)
    {received gap escaped : List Byte}
    (split : received = gap ++ sgSync :: escaped)
    (unescaped : unescape escaped = some (data ++ [byte])) :
    (∃ next, acceptByte ⟨true, false, data⟩ byte = (next, []) ∧
        Explains received next) ∨
      ∃ segment request,
        received = gap ++ segment ∧ IsFrame segment request ∧
        acceptByte ⟨true, false, data⟩ byte = (resetParser, [request]) := by
  rw [acceptByte_data incomplete]
  by_cases completed : Complete (data ++ [byte])
  · have idle : dataParser (data ++ [byte]) = resetParser := by
      simp [dataParser, completed]
    rw [idle]
    cases called : dataCalls (data ++ [byte]) with
    | nil =>
        refine Or.inl ⟨resetParser, rfl, ?_⟩
        intro started
        cases started
    | cons request others =>
        have single := dataCalls_length_le (data ++ [byte])
        obtain rfl : others = [] := by
          rw [called] at single
          simpa using single
        exact Or.inr ⟨sgSync :: escaped, request, split,
          isFrame_of_dataCalls incomplete unescaped called, rfl⟩
  · have buffering :
        dataParser (data ++ [byte]) = ⟨true, false, data ++ [byte]⟩ := by
      simp [dataParser, completed]
    have silent : dataCalls (data ++ [byte]) = [] := by
      simp [dataCalls, completed]
    rw [buffering, silent]
    refine Or.inl ⟨_, rfl, fun _ => ⟨gap, escaped, ?_, unescaped⟩⟩
    simpa using split

/-- Step lemma: an octet is explained, or it completes a frame. -/
theorem receiveByte_explained
    {parser : SgParser} (wellFormed : parser.WellFormed)
    {received : List Byte} (explained : Explains received parser)
    (byte : Byte) :
    (∃ next, segaParser.step parser byte = (next, []) ∧
        Explains (received ++ [byte]) next) ∨
      ∃ gap segment request,
        received ++ [byte] = gap ++ segment ∧ IsFrame segment request ∧
        segaParser.step parser byte = (resetParser, [request]) := by
  rcases parser with ⟨synchronized, escaped, bytes⟩
  simp only [segaParser, receiveByte]
  cases synchronized with
  | false =>
      simp only [if_true]
      have settled := (wellFormed.idle rfl).1
      dsimp only at settled
      subst settled
      split
      · rename_i sync
        subst sync
        exact Or.inl ⟨_, rfl, explains_sync received⟩
      · refine Or.inl ⟨_, rfl, ?_⟩
        intro started
        cases started
  | true =>
      simp only [Bool.true_eq_false, if_false]
      rcases explained rfl with ⟨gap, raw, split, unescaped⟩
      cases escaped with
      | true =>
          simp only [Bool.true_eq_false, false_and, if_false, if_true]
            at split ⊢
          have longer : received ++ [byte] =
              gap ++ sgSync :: (raw ++ [sgEscape, byte]) := by
            simp [split]
          rcases
              acceptByte_explained wellFormed.incomplete (byte + 1) longer
                (unescape_append_pair unescaped byte) with
            quiet | ⟨segment, request, rest⟩
          · exact Or.inl quiet
          · exact Or.inr ⟨gap, segment, request, rest⟩
      | false =>
          simp only [Bool.false_eq_true, if_false, true_and,
            List.append_nil] at split ⊢
          split
          · rename_i sync
            subst sync
            exact Or.inl ⟨_, rfl, explains_sync received⟩
          · rename_i noSync
            split
            · rename_i escape
              subst escape
              refine Or.inl ⟨_, rfl, fun _ => ⟨gap, raw, ?_, unescaped⟩⟩
              simp [split]
            · rename_i noEscape
              have longer : received ++ [byte] =
                  gap ++ sgSync :: (raw ++ [byte]) := by
                simp [split]
              rcases
                  acceptByte_explained wellFormed.incomplete byte longer
                    (unescape_append_plain unescaped noSync noEscape) with
                quiet | ⟨segment, request, rest⟩
              · exact Or.inl quiet
              · exact Or.inr ⟨gap, segment, request, rest⟩

/-- Run lemma: the calls are carried by what was received since the last. -/
theorem carries_run
    {parser : SgParser} (wellFormed : parser.WellFormed)
    {received : List Byte} (explained : Explains received parser)
    (stream : List Byte) :
    Carries (received ++ stream) (segaParser.run parser stream).2 := by
  induction stream generalizing parser received with
  | nil => exact .nothing _
  | cons byte rest induction =>
      have kept := receiveByte_wellFormed parser byte wellFormed
      have regroup : received ++ byte :: rest = received ++ [byte] ++ rest := by
        simp
      rw [Transducer.run_cons, regroup]
      rcases receiveByte_explained wellFormed explained byte with
        ⟨next, stepped, later⟩ | ⟨gap, segment, request, split, frame, stepped⟩
      · rw [stepped] at kept ⊢
        exact induction kept later
      · rw [stepped, split, List.append_assoc]
        exact .frame gap segment rest request _ frame
          (induction wellFormed_resetParser explains_reset)

/--
However the received octets are cut into chunks, the calls of `dispatch` are
carried by disjoint segments of the stream, in order, each of them a frame of
the request with which `dispatch` was called.
-/
theorem dispatched_requests_carried (chunks : List (List Byte)) :
    Carries chunks.flatten (segaParser.runChunks segaInit chunks).2 := by
  rw [Transducer.runChunks_eq_run]
  exact carries_run wellFormed_resetParser explains_reset chunks.flatten

/-! ## The representation -/

/-- The octet which an iteration of `sega_receive` appends, if it does. -/
def unescapedOctet (parser : SgParser) (byte : Byte) : Option Byte :=
  if parser.synchronized = false then
    none
  else if parser.escaped = false ∧ byte = sgSync then
    none
  else if parser.escaped = false ∧ byte = sgEscape then
    none
  else
    some (if parser.escaped then byte + 1 else byte)

/-- The number of octets after which a buffer is a frame with its checksum. -/
def expected (bytes : List Byte) : Nat :=
  (byteAt bytes 0).toNat + 1

theorem receiveByte_of_unescapedOctet
    {parser : SgParser} {byte octet : Byte}
    (appended : unescapedOctet parser byte = some octet) :
    receiveByte parser byte =
      acceptByte { parser with escaped := false } octet := by
  unfold unescapedOctet at appended
  unfold receiveByte
  split_ifs at appended ⊢
  · cases appended
    rfl
  · cases appended
    rfl

/-- Without an appended octet a synchronized parser stays synchronized. -/
theorem synchronized_of_unescapedOctet
    {parser : SgParser} {byte : Byte}
    (synchronized : parser.synchronized = true)
    (none : unescapedOctet parser byte = none) :
    (receiveByte parser byte).1.synchronized = true := by
  unfold unescapedOctet at none
  unfold receiveByte
  rw [if_neg (by simp [synchronized])] at none ⊢
  split_ifs at none ⊢
  · exact synchronized
  · exact synchronized

/-- An appended octet never exceeds the expected length. -/
theorem length_append_le_expected
    {bytes : List Byte} (incomplete : ¬ Complete bytes) (octet : Byte) :
    (bytes ++ [octet]).length ≤ expected (bytes ++ [octet]) := by
  have bound := length_le_of_not_complete incomplete
  rw [List.length_append, List.length_singleton]
  by_cases empty : bytes = []
  · subst empty
    exact Nat.succ_le_succ (Nat.zero_le _)
  · have same := announced_append empty [octet]
    rw [announced, announced] at same
    rw [expected, same]
    exact Nat.succ_le_succ bound

/-- The representation invariant between two octets and what follows from it. -/
structure Represents (parser : SgParser) : Prop where
  idle : parser.synchronized = false →
    parser.escaped = false ∧ parser.bytes.length = 0
  bounded : 0 < parser.bytes.length →
    parser.bytes.length ≤ (byteAt parser.bytes 0).toNat ∧
      parser.bytes.length ≤ 255
  noOverflow : ∀ byte octet, unescapedOctet parser byte = some octet →
    ¬ parser.bytes.length ≥ 257 ∧
      ¬ (parser.bytes ++ [octet]).length >
        expected (parser.bytes ++ [octet])
  leaves : ∀ byte, parser.synchronized = true →
    (receiveByte parser byte).1.synchronized = false →
      ∃ octet, unescapedOctet parser byte = some octet ∧
        (parser.bytes ++ [octet]).length =
          expected (parser.bytes ++ [octet])

theorem represents_of_wellFormed
    {parser : SgParser} (wellFormed : parser.WellFormed) :
    Represents parser := by
  have bound := length_le_of_not_complete wellFormed.incomplete
  have small := announced_le parser.bytes
  constructor
  · intro idle
    rcases wellFormed.idle idle with ⟨settled, empty⟩
    exact ⟨settled, by rw [empty]; rfl⟩
  · intro _
    exact ⟨bound, bound.trans small⟩
  · intro byte octet _
    constructor
    · omega
    · exact Nat.not_lt.mpr
        (length_append_le_expected wellFormed.incomplete octet)
  · intro byte synchronized left
    cases appended : unescapedOctet parser byte with
    | none =>
        rw [synchronized_of_unescapedOctet synchronized appended] at left
        cases left
    | some octet =>
        refine ⟨octet, rfl, ?_⟩
        apply Nat.le_antisymm
          (length_append_le_expected wellFormed.incomplete octet)
        by_contra short
        have buffering : ¬ Complete (parser.bytes ++ [octet]) := by
          intro completed
          exact short completed
        have shape :
            ({ parser with escaped := false } : SgParser) =
              ⟨true, false, parser.bytes⟩ :=
          SgParser.ext synchronized rfl rfl
        rw [receiveByte_of_unescapedOctet appended, shape,
          acceptByte_data wellFormed.incomplete, dataParser,
          if_neg buffering] at left
        cases left

/--
In every state reached from `sega_init` the parser is well represented, so its
two overflow branches are dead code and only a completed frame ends the
synchronized state.
-/
theorem represents_parserAfter (received : List Byte) :
    Represents (parserAfter received) :=
  represents_of_wellFormed (parserAfter_wellFormed received)

end Pareader.Firmware.SegaSoundness
