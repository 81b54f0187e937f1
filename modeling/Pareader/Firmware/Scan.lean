import Pareader.Firmware.AppMain
import Pareader.Firmware.Pn532Codec

/-!
# What a scan says about the field

`reader_read_card` fills one record through up to eight exchanges, any of which
may fail.  The first part of this module asks whether the record is in normal
form whenever the scan succeeds, the second whether a failed poll can pass for
an empty field.

Every driver operation of a scan is a single exchange.  A scan is therefore
followed exchange by exchange: its transcript records what was asked and
answered, and the results of the operations are read off the transcript.
-/

namespace Pareader.Firmware.Scan

open Pareader.Core
open Pareader.Firmware.Pn532
open Pareader.Firmware.Pn532Codec
open Pareader.Firmware.Reader
open Pareader.Firmware.AppMain

/-! ## The operations of a scan -/

/-- The transcript of a scan. -/
abbrev History := List (List Byte × Exchange)

theorem command_single
    (code : Byte) {request : List Byte} (capacity : Nat)
    (short : request.length ≤ 252) :
    (command code request capacity).Single := by
  rcases writeFrame_isOk code short with ⟨frame, written⟩
  refine ⟨frame, fun exchange => exchange.outcome code capacity, ?_⟩
  rw [command, written]

theorem pn532PollFelica_single
    (systemCode : UInt16) (target : FelicaTarget) (found : Bool) :
    (pn532PollFelica systemCode target found).Single := by
  refine Interaction.Single.bind
    (command_single _ _ (by simp)) ?_
  rintro (failure | response)
  · exact ⟨_, rfl⟩
  · exact ⟨_, rfl⟩

theorem pn532PollTypeA_single (target : TypeATarget) (found : Bool) :
    (pn532PollTypeA target found).Single := by
  refine Interaction.Single.bind
    (command_single _ _ (by simp)) ?_
  rintro (failure | response)
  · exact ⟨_, rfl⟩
  · exact ⟨_, rfl⟩

theorem pn532MifareAuthenticate_single
    (target mifareCommand block : Byte)
    (key : Vector Byte 6) (uid : Vector Byte 4) :
    (pn532MifareAuthenticate target mifareCommand block key uid).Single := by
  refine Interaction.Single.bind
    (command_single _ _ (by simp)) ?_
  rintro (failure | response)
  · exact ⟨_, rfl⟩
  · dsimp only
    split
    · exact ⟨_, rfl⟩
    · exact ⟨_, rfl⟩

theorem pn532MifareReadBlock_single (target block : Byte) :
    (pn532MifareReadBlock target block).Single := by
  refine Interaction.Single.bind
    (command_single _ _ (by simp)) ?_
  rintro (failure | response)
  · exact ⟨_, rfl⟩
  · dsimp only
    split
    · exact ⟨_, rfl⟩
    · exact ⟨_, rfl⟩

/-! ## Normal form -/

/--
The blocks were read under one key: an accepted authentication is directly
followed by successful reads of block 1 and of block 2.
-/
def BlocksRead (history : History) (blocks : Vector Byte 32) : Prop :=
  ∃ earlier authentication first second,
    history = earlier ++ [authentication, first, second] ∧
      ∃ target mifareCommand block key uid data1 data2,
        (pn532MifareAuthenticate target mifareCommand block key
            uid).RunsIn authentication (.ok ()) ∧
          (pn532MifareReadBlock target 1).RunsIn first (.ok data1) ∧
          (pn532MifareReadBlock target 2).RunsIn second (.ok data2) ∧
          load 16 blocks.toList 0 = data1 ∧
          load 16 blocks.toList 16 = data2

/-- The normal form of a card which a scan with this transcript yields. -/
structure NormalForm (history : History) (card : ReaderCard) : Prop where
  none : card.type = .none → card = ReaderCard.zero
  felica : card.type = .felica →
    card.mifareUid = zeros 4 ∧ card.luid = zeros 10 ∧
      card.blocks = zeros 32 ∧ card.hasBlocks = false
  mifare : card.type = .mifare →
    card.idm = zeros 8 ∧ card.pmm = zeros 8
  absent : card.hasBlocks = false →
    card.blocks = zeros 32 ∧ card.luid = zeros 10
  present : card.hasBlocks = true → BlocksRead history card.blocks
  accessCode : card.luid = zeros 10 ∨
    card.luid = load 10 card.blocks.toList 22 ∧
      DecimalLuid card.luid ∧ card.luid ≠ zeros 10 ∧
      byteAt card.luid.toList 0 >>> 4 ≠ 3

/--
The scan ends with a read of block 1 which yields data other than zero and a
read of block 2 which fails.
-/
def HalfRead (history : History) : Prop :=
  ∃ earlier first second,
    history = earlier ++ [first, second] ∧
      ∃ target data failure,
        (pn532MifareReadBlock target 1).RunsIn first (.ok data) ∧
          data ≠ zeros 16 ∧
          (pn532MifareReadBlock target 2).RunsIn second (.error failure)

/-! ## Telling the exchanges apart -/

/-- The query of an operation is the frame of its command. -/
theorem sent_of_runsIn
    {α : Type} {code : Byte} {request : List Byte} {capacity : Nat}
    {next : EspResult (List Byte) → Driver α}
    {exchange : List Byte × Exchange} {result : α}
    (short : request.length ≤ 252)
    (ran :
      (command code request capacity >>= next).RunsIn exchange result) :
    IsFrame pn532HostToPn532 code request exchange.1 := by
  rcases writeFrame_isOk code short with ⟨frame, written⟩
  have sent := ran.sent
  rw [command, written] at sent
  have same : frame = exchange.1 :=
    congrArg Prod.fst (List.cons.inj sent).1
  rw [← same]
  exact ((writeFrame_ok_iff code request frame).mp written).2

theorem readBlock_query
    {target block : Byte} {exchange : List Byte × Exchange}
    {result : EspResult (Vector Byte 16)}
    (ran : (pn532MifareReadBlock target block).RunsIn exchange result) :
    byteAt exchange.1 6 = pn532CommandInDataExchange ∧
      byteAt exchange.1 7 = target ∧ byteAt exchange.1 8 = 0x30 ∧
      byteAt exchange.1 9 = block := by
  rcases sent_of_runsIn (by simp) ran with ⟨size, complement, checksum,
    sent, -⟩
  rw [sent]
  exact ⟨rfl, rfl, rfl, rfl⟩

theorem authenticate_query
    {target mifareCommand block : Byte} {key : Vector Byte 6}
    {uid : Vector Byte 4} {exchange : List Byte × Exchange}
    {result : EspResult Unit}
    (ran :
      (pn532MifareAuthenticate target mifareCommand block key uid).RunsIn
        exchange result) :
    byteAt exchange.1 8 = mifareCommand := by
  rcases sent_of_runsIn (by simp) ran with ⟨size, complement, checksum,
    sent, -⟩
  rw [sent]
  rfl

theorem pollTypeA_query
    {target : TypeATarget} {found : Bool}
    {exchange : List Byte × Exchange} {result : Poll TypeATarget}
    (ran : (pn532PollTypeA target found).RunsIn exchange result) :
    byteAt exchange.1 6 = pn532CommandInListPassiveTarget := by
  rcases sent_of_runsIn (by simp) ran with ⟨size, complement, checksum,
    sent, -⟩
  rw [sent]
  rfl

theorem HalfRead.two_le_length
    {history : History} (half : HalfRead history) :
    2 ≤ history.length := by
  rcases half with ⟨earlier, first, second, rfl, -⟩
  rw [List.length_append]
  exact Nat.le_add_left 2 earlier.length

/-- The last two exchanges of a half-read scan. -/
theorem HalfRead.last
    {earlier : History} {last : List Byte × Exchange}
    (half : HalfRead (earlier ++ [last])) :
    ∃ target failure,
      (pn532MifareReadBlock target 2).RunsIn last (.error failure) := by
  rcases half with
    ⟨before, first, second, same, target, data, failure, -, -, failed⟩
  have closing : last = second := by
    have ends := congrArg List.getLast? same
    simpa using ends
  rw [closing]
  exact ⟨target, failure, failed⟩

theorem HalfRead.lastTwo
    {earlier : History} {first second : List Byte × Exchange}
    (half : HalfRead (earlier ++ [first, second])) :
    ∃ target data,
      (pn532MifareReadBlock target 1).RunsIn first (.ok data) ∧
        data ≠ zeros 16 := by
  rcases half with
    ⟨before, first', second', same, target, data, failure, read, nonzero,
      -⟩
  have closing : [first, second] = [first', second'] := by
    exact (List.append_inj' same rfl).2
  rw [(List.cons.inj closing).1]
  exact ⟨target, data, read, nonzero⟩

/-! ## One attempt to read the blocks -/

/-- What `read_mifare_with_key` can do, by the exchange which ends it. -/
inductive Attempt
    (target : TypeATarget) (authCommand authBlock : Byte)
    (key : Vector Byte 6) (start : ReaderCard) :
    History → EspResult Unit × ReaderCard → Prop where
  | refused {authentication : List Byte × Exchange} {failure : EspErr}
      (rejected :
        (pn532MifareAuthenticate target.target authCommand authBlock key
          (uidPrefix target)).RunsIn authentication (.error failure)) :
      Attempt target authCommand authBlock key start [authentication]
        (.error failure, start)
  | unread {authentication first : List Byte × Exchange}
      {failure : EspErr}
      (failed :
        (pn532MifareReadBlock target.target 1).RunsIn first
          (.error failure)) :
      Attempt target authCommand authBlock key start
        [authentication, first] (.error failure, start)
  | half {authentication first second : List Byte × Exchange}
      {data : Vector Byte 16} {failure : EspErr}
      (read :
        (pn532MifareReadBlock target.target 1).RunsIn first (.ok data))
      (failed :
        (pn532MifareReadBlock target.target 2).RunsIn second
          (.error failure)) :
      Attempt target authCommand authBlock key start
        [authentication, first, second]
        (.error failure,
          { start with blocks := store start.blocks 0 data })
  | complete {authentication first second : List Byte × Exchange}
      {data1 data2 : Vector Byte 16}
      (accepted :
        (pn532MifareAuthenticate target.target authCommand authBlock key
          (uidPrefix target)).RunsIn authentication (.ok ()))
      (read1 :
        (pn532MifareReadBlock target.target 1).RunsIn first (.ok data1))
      (read2 :
        (pn532MifareReadBlock target.target 2).RunsIn second
          (.ok data2)) :
      Attempt target authCommand authBlock key start
        [authentication, first, second]
        (.ok (),
          { start with
            blocks := store (store start.blocks 0 data1) 16 data2
            hasBlocks := true })

theorem readMifareWithKey_records
    (target : TypeATarget) (authCommand authBlock : Byte)
    (key : Vector Byte 6) (start : ReaderCard) :
    (readMifareWithKey target authCommand authBlock key start).Records
      (Attempt target authCommand authBlock key start) := by
  unfold readMifareWithKey
  refine Interaction.Records.bind
    (pn532MifareAuthenticate_single _ _ _ _ _).records ?_
  rintro _ authenticated ⟨authentication, rfl, accepted⟩
  rcases authenticated with failure | _
  · exact .refused accepted
  refine Interaction.Records.bind
    (pn532MifareReadBlock_single _ _).records ?_
  rintro _ block1 ⟨first, rfl, read1⟩
  rcases block1 with failure | data1
  · exact .unread read1
  refine Interaction.Records.bind
    (pn532MifareReadBlock_single _ _).records ?_
  rintro _ block2 ⟨second, rfl, read2⟩
  rcases block2 with failure | data2
  · exact .half read1 read2
  · exact .complete accepted read1 read2

/-- The card of a Type A tag whose blocks were not read. -/
def bareCard (uid : Vector Byte 4) : ReaderCard :=
  { ReaderCard.zero with type := .mifare, mifareUid := uid }

theorem normalForm_bareCard (history : History) (uid : Vector Byte 4) :
    NormalForm history (bareCard uid) where
  none type := by cases type
  felica type := by cases type
  mifare _ := ⟨rfl, rfl⟩
  absent _ := ⟨rfl, rfl⟩
  present blocks := by cases blocks
  accessCode := Or.inl rfl

/-- The blocks of a completed attempt are those which were read. -/
theorem blocksRead_complete
    {target authCommand authBlock : Byte} {key : Vector Byte 6}
    {uid : Vector Byte 4}
    {authentication first second : List Byte × Exchange}
    {data1 data2 : Vector Byte 16}
    (accepted :
      (pn532MifareAuthenticate target authCommand authBlock key
        uid).RunsIn authentication (.ok ()))
    (read1 : (pn532MifareReadBlock target 1).RunsIn first (.ok data1))
    (read2 : (pn532MifareReadBlock target 2).RunsIn second (.ok data2))
    (earlier : History) :
    BlocksRead (earlier ++ [authentication, first, second])
      (store (store (zeros 32) 0 data1) 16 data2) := by
  refine ⟨earlier, authentication, first, second, rfl, target, _, _, _, _,
    data1, data2, accepted, read1, read2, ?_, ?_⟩
  · rw [load_store_before _ _ _ _ (by omega) (by omega),
      load_store_same _ _ _ (by omega)]
  · rw [load_store_same _ _ _ (by omega)]

/-- A scan which ends with a successful read is not half read. -/
theorem not_halfRead_of_read
    {target block : Byte} {data : Vector Byte 16}
    {last : List Byte × Exchange}
    (read : (pn532MifareReadBlock target block).RunsIn last (.ok data))
    (earlier : History) :
    ¬ HalfRead (earlier ++ [last]) := by
  intro half
  rcases half.last with ⟨other, failure, failed⟩
  rcases readBlock_query read with ⟨-, sameTarget, -, sameBlock⟩
  rcases readBlock_query failed with ⟨-, otherTarget, -, otherBlock⟩
  rw [← sameTarget, ← sameBlock, otherTarget, otherBlock] at read
  cases read.unique failed

/-- Half of the blocks is left over exactly when its data are not zero. -/
theorem store_zeros_eq_iff (data : Vector Byte 16) :
    store (zeros 32) 0 data = zeros 32 ↔ data = zeros 16 := by
  constructor
  · intro same
    rw [← load_store_same (zeros 32) 0 data (by omega), same, load_zeros]
  · rintro rfl
    apply Vector.ext
    intro index inside
    rw [getElem_store, getElem_zeros]
    split
    · rw [byteAt_toList_of_lt _ (by omega), getElem_zeros]
    · rfl

/-- An attempt which loses the field between the two blocks. -/
theorem normalForm_half_iff
    {target : Byte} {first second : List Byte × Exchange}
    {data : Vector Byte 16} {failure : EspErr} (uid : Vector Byte 4)
    (read : (pn532MifareReadBlock target 1).RunsIn first (.ok data))
    (failed :
      (pn532MifareReadBlock target 2).RunsIn second (.error failure))
    (earlier : History) :
    NormalForm (earlier ++ [first, second])
        { bareCard uid with
          blocks := store (bareCard uid).blocks 0 data } ↔
      ¬ HalfRead (earlier ++ [first, second]) := by
  by_cases zero : data = zeros 16
  · have unchanged :
        { bareCard uid with
          blocks := store (bareCard uid).blocks 0 data } =
          bareCard uid := by
      have blocks := (store_zeros_eq_iff data).mpr zero
      exact ReaderCard.ext rfl rfl rfl blocks rfl rfl rfl
    rw [unchanged]
    refine iff_of_true (normalForm_bareCard _ uid) ?_
    intro half
    rcases half.lastTwo with ⟨other, found, otherRead, nonzero⟩
    have sameTarget := (readBlock_query otherRead).2.1
    rw [(readBlock_query read).2.1] at sameTarget
    rw [← sameTarget] at otherRead
    have sameData := read.unique otherRead
    apply nonzero
    rw [← zero]
    exact (Except.ok.inj sameData).symm
  · refine iff_of_false ?_ (not_not.mpr ?_)
    · intro normal
      exact zero ((store_zeros_eq_iff data).mp (normal.absent rfl).1)
    · exact ⟨earlier, first, second, rfl, target, data, failure, read,
        zero, failed⟩

/--
The last attempt on a tag ends in normal form unless it leaves half of the
blocks behind.
-/
theorem Attempt.normalForm_iff
    {target : TypeATarget} {authCommand authBlock : Byte}
    {key : Vector Byte 6} {uid : Vector Byte 4} {history : History}
    {result : EspResult Unit × ReaderCard}
    (attempt :
      Attempt target authCommand authBlock key (bareCard uid) history
        result)
    (command : authCommand ≠ 0x30) (earlier : History) :
    NormalForm (earlier ++ history) result.2 ↔
      ¬ HalfRead (earlier ++ history) := by
  cases attempt with
  | @refused authentication failure rejected =>
      refine iff_of_true (normalForm_bareCard _ uid) ?_
      intro half
      rcases half.last with ⟨other, otherFailure, failed⟩
      have read := (readBlock_query failed).2.2.1
      rw [authenticate_query rejected] at read
      exact command read
  | @unread authentication first failure failed =>
      refine iff_of_true (normalForm_bareCard _ uid) ?_
      intro half
      rw [List.append_cons] at half
      rcases half.last with ⟨other, otherFailure, second⟩
      have block := (readBlock_query second).2.2.2
      rw [(readBlock_query failed).2.2.2] at block
      exact absurd block (by decide)
  | @half authentication first second data failure read failed =>
      rw [List.append_cons]
      exact normalForm_half_iff uid read failed _
  | @complete authentication first second data1 data2 accepted read1
      read2 =>
      refine iff_of_true ?_ ?_
      · exact
          { none := fun type => by cases type
            felica := fun type => by cases type
            mifare := fun _ => ⟨rfl, rfl⟩
            absent := fun blocks => by cases blocks
            present := fun _ =>
              blocksRead_complete accepted read1 read2 earlier
            accessCode := Or.inl rfl }
      · rw [List.append_cons, List.append_cons]
        exact not_halfRead_of_read read2 _

/-! ## The whole scan -/

/-- An accepted access code is one of the digits a card may carry. -/
theorem validLuid_facts
    {luid : Vector Byte 10} (valid : validLuid luid = true) :
    DecimalLuid luid ∧ luid ≠ zeros 10 ∧
      byteAt luid.toList 0 >>> 4 ≠ 3 := by
  refine ⟨decimalLuid_of_validLuid valid, ?_, ?_⟩
  · rintro rfl
    exact absurd valid (by decide)
  · rw [byteAt_toList_of_lt luid (by decide)]
    simp only [validLuid, Bool.and_eq_true, bne_iff_ne, ne_eq] at valid
    exact valid.2.2

/-- The first attempt succeeded: the access code comes from its blocks. -/
theorem normalForm_extractLuid
    {history : History} {card : ReaderCard}
    (type : card.type = .mifare)
    (others : card.idm = zeros 8 ∧ card.pmm = zeros 8)
    (flag : card.hasBlocks = true)
    (blocks : BlocksRead history card.blocks) :
    NormalForm history (extractLuid card) where
  none absent := by
    rw [extractLuid, type] at absent
    cases absent
  felica other := by
    rw [extractLuid, type] at other
    cases other
  mifare _ := others
  absent missing := by
    rw [extractLuid, flag] at missing
    cases missing
  present _ := blocks
  accessCode := by
    unfold extractLuid
    dsimp only
    split
    · rename_i valid
      exact Or.inr ⟨rfl, validLuid_facts valid⟩
    · exact Or.inl rfl

/-- A failed attempt, once the blocks are cleared, leaves a bare card. -/
theorem Attempt.cleared
    {target : TypeATarget} {authCommand authBlock : Byte}
    {key : Vector Byte 6} {uid : Vector Byte 4} {history : History}
    {failure : EspErr} {card : ReaderCard}
    (attempt :
      Attempt target authCommand authBlock key (bareCard uid) history
        (.error failure, card)) :
    { card with blocks := zeros 32, hasBlocks := false } =
      bareCard uid := by
  cases attempt with
  | refused rejected => rfl
  | unread failed => rfl
  | half read failed => rfl

theorem readMifareCard_records (reader : ReaderState) :
    (readMifareCard reader).Records
      (fun history card =>
        ∀ earlier, NormalForm (earlier ++ history) card ↔
          ¬ HalfRead (earlier ++ history)) := by
  unfold readMifareCard
  refine Interaction.Records.bind
    (readMifareWithKey_records _ _ _ _
      (bareCard (uidPrefix reader.activeMifare))) ?_
  rintro before ⟨outcome, card⟩ attempt
  rcases outcome with failure | _
  · dsimp only
    rw [attempt.cleared]
    refine Interaction.Records.bind
      (readMifareWithKey_records _ _ _ _ _) ?_
    rintro after result second earlier
    rw [List.append_nil, ← List.append_assoc]
    exact second.normalForm_iff (by decide) (earlier ++ before)
  · intro earlier
    rw [List.append_nil]
    cases attempt with
    | @complete authentication first last data1 data2 accepted read1
        read2 =>
        refine iff_of_true ?_ ?_
        · exact normalForm_extractLuid rfl ⟨rfl, rfl⟩ rfl
            (blocksRead_complete accepted read1 read2 earlier)
        · rw [List.append_cons, List.append_cons]
          exact not_halfRead_of_read read2 _

theorem normalForm_zero (history : History) :
    NormalForm history ReaderCard.zero where
  none _ := rfl
  felica type := by cases type
  mifare type := by cases type
  absent _ := ⟨rfl, rfl⟩
  present blocks := by cases blocks
  accessCode := Or.inl rfl

/-- Normal form at the end of a scan, whatever came before it. -/
def ScanPost (earlier history : History)
    (result : EspResult ReaderCard × ReaderState) : Prop :=
  OnSuccess (NormalForm (earlier ++ history)) result.1 ↔
    ¬ HalfRead (earlier ++ history)

theorem readTypeACard_records
    (reader : ReaderState) (found : Bool) (earlier : History) :
    (readTypeACard reader found).Records (ScanPost earlier) := by
  unfold readTypeACard
  refine Interaction.Records.bind
    (pn532PollTypeA_single _ _).records ?_
  rintro _ poll ⟨exchange, rfl, polled⟩
  have untouched : ¬ HalfRead (earlier ++ [exchange]) := by
    intro half
    rcases half.last with ⟨target, failure, failed⟩
    have code := (readBlock_query failed).1
    rw [pollTypeA_query polled] at code
    exact absurd code (by decide)
  rcases poll with ⟨failure | _, target, present⟩
  · exact iff_of_true trivial untouched
  · dsimp only
    split
    · exact iff_of_true (normalForm_zero _) untouched
    · refine Interaction.Records.bind (readMifareCard_records _) ?_
      intro history card normal
      have extended := normal (earlier ++ [exchange])
      rw [List.append_assoc] at extended
      change
        NormalForm (earlier ++ ([exchange] ++ (history ++ []))) card ↔
          ¬ HalfRead (earlier ++ ([exchange] ++ (history ++ [])))
      rw [List.append_nil]
      exact extended

theorem readerReadCard_records (reader : ReaderState) :
    (readerReadCard reader).Records (ScanPost []) := by
  unfold readerReadCard
  split
  · refine iff_of_true (normalForm_zero _) ?_
    intro half
    exact absurd half.two_le_length (by decide)
  · refine Interaction.Records.bind
      (pn532PollFelica_single _ _ _).records ?_
    rintro _ poll ⟨exchange, rfl, -⟩
    rcases poll with ⟨failure | _, target, present⟩
    · exact readTypeACard_records _ _ [exchange]
    · dsimp only
      split
      · refine iff_of_true ?_ ?_
        · exact
            { none := fun type => by cases type
              felica := fun _ => ⟨rfl, rfl, rfl, rfl⟩
              mifare := fun type => by cases type
              absent := fun _ => ⟨rfl, rfl⟩
              present := fun blocks => by cases blocks
              accessCode := Or.inl rfl }
        · intro half
          have length := half.two_le_length
          change 2 ≤ 1 at length
          omega
      · exact readTypeACard_records _ _ [exchange]

/--
A successful scan yields a card in normal form exactly when it does not end
with half of the blocks.
-/
theorem readerReadCard_normalForm_iff
    (reader : ReaderState) (world : Pn532World) :
    (∀ card, ((readerReadCard reader).run world).1 = .ok card →
        NormalForm ((readerReadCard reader).transcript world) card) ↔
      ¬ HalfRead ((readerReadCard reader).transcript world) := by
  have post := (readerReadCard_records reader).run world
  rw [ScanPost, List.nil_append] at post
  rw [← post]
  cases ((readerReadCard reader).run world).1 with
  | error failure =>
      refine iff_of_true ?_ trivial
      intro card succeeded
      cases succeeded
  | ok found =>
      constructor
      · intro normal
        exact normal found rfl
      · intro normal card same
        cases same
        exact normal

/--
A controller with a tag which refuses the first key, accepts the second one and
loses the field between the two blocks.
-/
def halfReadWorld : Pn532World
  | 0, _ => .answering pn532CommandInListPassiveTarget [0x00]
  | 1, _ =>
      .answering pn532CommandInListPassiveTarget
        [0x01, 0x01, 0x00, 0x04, 0x08, 0x04, 0x11, 0x22, 0x33, 0x44]
  | 2, _ => .answering pn532CommandInDataExchange [0x14]
  | 3, _ => .answering pn532CommandInDataExchange [0x00]
  | 4, _ =>
      .answering pn532CommandInDataExchange
        (0x00 :: List.replicate 16 0x55)
  | _, _ => .answering pn532CommandInDataExchange [0x14]

/-- The first block is left in a card which has no blocks. -/
theorem readerReadCard_halfReadWorld :
    ∃ card,
      ((readerReadCard readerInit).run halfReadWorld).1 = .ok card ∧
        card.hasBlocks = false ∧ card.blocks[0] = 0x55 ∧
        ¬ NormalForm
          ((readerReadCard readerInit).transcript halfReadWorld) card := by
  have observed :
      ((readerReadCard readerInit).run halfReadWorld).1.toOption.map
          (fun card => (card.hasBlocks, card.blocks[0])) =
        some (false, 0x55) := by
    decide +kernel
  cases result : ((readerReadCard readerInit).run halfReadWorld).1 with
  | error failure =>
      rw [result] at observed
      cases observed
  | ok card =>
      rw [result] at observed
      simp only [Except.toOption, Option.map_some, Option.some.injEq,
        Prod.mk.injEq] at observed
      rcases observed with ⟨flag, left⟩
      refine ⟨card, rfl, flag, left, ?_⟩
      intro normal
      rw [(normal.absent flag).1] at left
      exact absurd left (by decide)

/-! ## An empty field -/

/-- The FeliCa poll of a scan. -/
def felicaPoll (reader : ReaderState) (world : Pn532World) :
    Poll FelicaTarget :=
  (pn532PollFelica reader.felicaSystemCode reader.activeFelica false).run
    world

/-- The Type A poll of a scan, which makes the second exchange. -/
def typeAPoll (reader : ReaderState) (world : Pn532World) :
    Poll TypeATarget :=
  (pn532PollTypeA reader.activeMifare
    (felicaPoll reader world).found).run world.later

/-- The poll found no target whose card could be read. -/
def Unusable (poll : Poll TypeATarget) : Prop :=
  poll.found = false ∨ poll.target.uidSize ≠ 4

/-- Both polls completed, and neither found a usable target. -/
structure EmptyField (reader : ReaderState) (world : Pn532World) :
    Prop where
  felica : (felicaPoll reader world).status = .ok ()
  noFelica : (felicaPoll reader world).found = false
  typeA : (typeAPoll reader world).status = .ok ()
  noTypeA : Unusable (typeAPoll reader world)

/-- A removal is reported for an empty field only, by the scan and the loop. -/
structure RemovalSound (reader : ReaderState) (world : Pn532World) :
    Prop where
  scan : ∀ card, ((readerReadCard reader).run world).1 = .ok card →
    card.type = .none → EmptyField reader world
  loop : ∀ app iteration,
    (serviceMessage app iteration).1.reader = reader →
    iteration.scanWorld = world →
    app.current.type ≠ .none →
    (iterate app iteration).1.current.type = .none →
      EmptyField reader world

theorem readMifareCard_type (reader : ReaderState) :
    (readMifareCard reader).Always (fun card => card.type = .mifare) := by
  unfold readMifareCard
  refine Interaction.Always.bind (readMifareWithKey_frame _ _ _ _ _) ?_
  rintro ⟨_ | _, first⟩ ⟨firstType, -⟩
  · refine Interaction.Always.bind (readMifareWithKey_frame _ _ _ _ _) ?_
    rintro ⟨_, second⟩ ⟨secondType, -⟩
    exact secondType.trans firstType
  · exact firstType

theorem readTypeACard_none_iff
    (reader : ReaderState) (found : Bool) (world : Pn532World) :
    (∃ card, ((readTypeACard reader found).run world).1 = .ok card ∧
        card.type = .none) ↔
      ((pn532PollTypeA reader.activeMifare found).run world).status =
          .ok () ∧
        Unusable
          ((pn532PollTypeA reader.activeMifare found).run world) := by
  unfold readTypeACard
  rw [(pn532PollTypeA_single _ _).run_bind]
  generalize (pn532PollTypeA reader.activeMifare found).run world = poll
  rcases poll with ⟨failure | _, target, present⟩
  · refine iff_of_false ?_ ?_
    · rintro ⟨card, impossible, -⟩
      cases impossible
    · rintro ⟨impossible, -⟩
      cases impossible
  · dsimp only
    split
    · rename_i unusable
      refine iff_of_true ⟨_, rfl, rfl⟩ ⟨rfl, ?_⟩
      simpa [Unusable] using unusable
    · rename_i usable
      refine iff_of_false ?_ ?_
      · rintro ⟨card, observed, none⟩
        have type :=
          (readMifareCard_type
            { reader with activeMifare := target }).run world.later
        simp only [Interaction.pure_eq,
          Interaction.run_bind_done] at observed
        rw [← Except.ok.inj observed, type] at none
        cases none
      · rintro ⟨-, unusable⟩
        apply usable
        simpa [Unusable] using unusable

/-- When a scan with the radio on reports no card. -/
theorem readerReadCard_none_iff
    {reader : ReaderState} (enabled : reader.radioEnabled = true)
    (world : Pn532World) :
    (∃ card, ((readerReadCard reader).run world).1 = .ok card ∧
        card.type = .none) ↔
      ((felicaPoll reader world).status = .ok () →
        (felicaPoll reader world).found = false) ∧
      (typeAPoll reader world).status = .ok () ∧
      Unusable (typeAPoll reader world) := by
  unfold readerReadCard typeAPoll felicaPoll
  rw [if_neg (by simp [enabled]),
    (pn532PollFelica_single _ _ _).run_bind]
  generalize
    (pn532PollFelica reader.felicaSystemCode reader.activeFelica
      false).run world = poll
  rcases poll with ⟨failure | _, target, present⟩
  · dsimp only
    rw [readTypeACard_none_iff]
    constructor
    · intro polled
      exact ⟨fun impossible => (by cases impossible), polled⟩
    · rintro ⟨-, polled⟩
      exact polled
  · cases present with
    | true =>
        refine iff_of_false ?_ ?_
        · rintro ⟨card, observed, none⟩
          rw [← Except.ok.inj observed] at none
          cases none
        · rintro ⟨absent, -⟩
          cases absent rfl
    | false =>
        change (∃ card, ((readTypeACard _ false).run world.later).1 =
          .ok card ∧ card.type = .none) ↔ _
        rw [readTypeACard_none_iff]
        constructor
        · intro polled
          exact ⟨fun _ => rfl, polled⟩
        · rintro ⟨-, polled⟩
          exact polled

/-- A changed observation is the result of a scan with the current reader. -/
theorem observed_of_changed
    {app : App} {iteration : Iteration}
    (changed : (iterate app iteration).1.current ≠ app.current) :
    ((readerReadCard (serviceMessage app iteration).1.reader).run
        iteration.scanWorld).1 =
      .ok (iterate app iteration).1.current := by
  have stored := (iterate_effect app iteration).1
  cases moved : transition app iteration with
  | none =>
      rw [moved] at stored
      exact (changed stored).elim
  | some card =>
      rw [moved, Option.getD_some] at stored
      rw [stored]
      have observed := (Option.filter_eq_some_iff.mp moved).1
      unfold observation at observed
      dsimp only at observed
      split at observed
      · cases observed
      · cases result :
            ((readerReadCard (serviceMessage app iteration).1.reader).run
              iteration.scanWorld).1 with
        | error failure =>
            rw [result] at observed
            cases observed
        | ok found =>
            rw [result] at observed
            exact congrArg Except.ok (Option.some.inj observed)

/--
A removal is reported for an empty field only, unless the FeliCa poll fails and
the Type A poll then completes without a usable target.
-/
theorem removalSound_iff
    {reader : ReaderState} (enabled : reader.radioEnabled = true)
    (world : Pn532World) :
    RemovalSound reader world ↔
      ¬ ((∃ failure,
            (felicaPoll reader world).status = .error failure) ∧
          (typeAPoll reader world).status = .ok () ∧
          Unusable (typeAPoll reader world)) := by
  constructor
  · rintro sound ⟨⟨failure, failed⟩, typeA, unusable⟩
    have vacuous :
        (felicaPoll reader world).status = .ok () →
          (felicaPoll reader world).found = false := by
      intro completed
      rw [failed] at completed
      cases completed
    rcases
        (readerReadCard_none_iff enabled world).mpr
          ⟨vacuous, typeA, unusable⟩ with
      ⟨card, observed, none⟩
    have completed := (sound.scan card observed none).felica
    rw [failed] at completed
    cases completed
  · intro excluded
    have scan : ∀ card,
        ((readerReadCard reader).run world).1 = .ok card →
          card.type = .none → EmptyField reader world := by
      intro card observed none
      rcases
          (readerReadCard_none_iff enabled world).mp
            ⟨card, observed, none⟩ with
        ⟨absent, typeA, unusable⟩
      cases status : (felicaPoll reader world).status with
      | error failure =>
          exact (excluded ⟨⟨failure, status⟩, typeA, unusable⟩).elim
      | ok completed => exact ⟨status, absent status, typeA, unusable⟩
    refine ⟨scan, ?_⟩
    rintro app iteration rfl rfl held removed
    have changed : (iterate app iteration).1.current ≠ app.current := by
      intro same
      rw [same] at removed
      exact held removed
    exact scan _ (observed_of_changed changed) removed

/-- An exchange in which the frame is not acknowledged by the controller. -/
def brokenExchange : Exchange where
  transmitted := .error .timeout
  ackStatus := []
  ack := .error .timeout
  responseStatus := []
  response := .error .timeout

/-- A controller which fails the first poll and then sees no tag. -/
def brokenPollWorld : Pn532World
  | 0, _ => brokenExchange
  | _, _ => .answering pn532CommandInListPassiveTarget [0x00]

/-- An iteration in which the FeliCa poll fails. -/
def brokenIteration : Iteration :=
  .scanning 0 brokenPollWorld acceptingLink

/-- A loop which holds a FeliCa card. -/
def holdingApp : App :=
  { appStart with current := felicaCard (zeros 8) }

/-- The failed poll replaces a held card by no card. -/
theorem brokenPollWorld_removes :
    holdingApp.current.type = .felica ∧
      (iterate holdingApp brokenIteration).1.current = ReaderCard.zero ∧
      (felicaPoll readerInit brokenPollWorld).status = .error .timeout ∧
      ¬ RemovalSound readerInit brokenPollWorld := by
  have removed :
      (iterate holdingApp brokenIteration).1.current =
        ReaderCard.zero := by
    decide +kernel
  have failed :
      (felicaPoll readerInit brokenPollWorld).status =
        .error .timeout := by
    decide +kernel
  refine ⟨rfl, removed, failed, ?_⟩
  intro sound
  have empty :=
    sound.loop holdingApp brokenIteration rfl rfl (by decide)
      (by rw [removed]; rfl)
  have completed := empty.felica
  rw [failed] at completed
  cases completed

/-- A field which both polls find empty. -/
def emptyWorld : Pn532World :=
  fun _ _ => .answering pn532CommandInListPassiveTarget [0x00]

theorem removalSound_emptyWorld :
    readerInit.radioEnabled = true ∧
      RemovalSound readerInit emptyWorld := by
  refine ⟨rfl, (removalSound_iff rfl emptyWorld).mpr ?_⟩
  rintro ⟨⟨failure, failed⟩, -⟩
  have completed :
      (felicaPoll readerInit emptyWorld).status = .ok () := by
    decide +kernel
  rw [failed] at completed
  cases completed

end Pareader.Firmware.Scan
