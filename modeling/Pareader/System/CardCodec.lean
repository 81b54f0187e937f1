import Pareader.Firmware.Hid
import Pareader.Host.Protocol

/-!
# Agreement of the two card codecs

The C encoder `prhp_publish_card_state` and the Go decoder
`DecodeCardStateSignal` share nothing but octet offsets.  `prhpProjection` says
which part of an observation PRHP can carry; the encoder followed by the
decoder is exactly that projection, provided that the access code is decimal,
which `reader_read_card` establishes on every path.
-/

namespace Pareader.System.CardCodec

open Pareader.Core
open Pareader.Firmware.Pn532
open Pareader.Firmware.Reader
open Pareader.Firmware.Hid
open Pareader.Host.Protocol

/-- The host's name for a card type of the reader. -/
def hostCardType : ReaderCardType → CardType
  | .none => .none
  | .mifare => .mifare
  | .felica => .felica

/-- The part of an observation which a card state carries. -/
def prhpProjection (card : ReaderCard) : Card :=
  match publishedType card with
  | .none => Card.none
  | .mifare =>
      { Card.none with
        type := .mifare
        luid := card.luid
        blocks := card.blocks }
  | .felica => { Card.none with type := .felica, idm := card.idm }

/-! ## From the reader to the host -/

/-- A published report carries a well-formed card-state header. -/
theorem cardStateReport_publish (card : ReaderCard) :
    CardStateReport (prhpPublishCardState card).toList := by
  rcases prhpPublishCardState_header card with
    ⟨type, opcode, low, high, status, -⟩
  constructor
  · simp [reportSize]
  · rw [byteAt_toList_of_lt _ (by omega)]
    exact type
  · rw [byteAt_toList_of_lt _ (by omega)]
    exact opcode
  · rw [byteAt_toList_of_lt _ (by omega)]
    exact low
  · rw [byteAt_toList_of_lt _ (by omega)]
    exact high
  · rw [byteAt_toList_of_lt _ (by omega)]
    exact status

theorem byteAt_publish_type (card : ReaderCard) :
    byteAt (prhpPublishCardState card).toList 5 =
      (publishedType card).code := by
  rw [byteAt_toList_of_lt _ (by omega)]
  exact (prhpPublishCardState_header card).2.2.2.2.2

theorem validateLUID_eq_true_iff (luid : Vector Byte 10) :
    validateLUID luid = true ↔ DecimalLuid luid :=
  Iff.rfl

/-- Encoding and decoding an observation is its PRHP projection. -/
theorem decode_publish
    (card : ReaderCard) (decimal : DecimalLuid card.luid) :
    decodeCardStateSignal (prhpPublishCardState card).toList =
      .ok (prhpProjection card) := by
  rw [decodeCardStateSignal_of_report (cardStateReport_publish card)]
  unfold decodeCardBody prhpProjection
  rw [byteAt_publish_type]
  cases published : publishedType card with
  | none => simp [ReaderCardType.code]
  | mifare =>
      rw [load_luid_publish published, load_blocks_publish published]
      simp [ReaderCardType.code,
        (validateLUID_eq_true_iff card.luid).mpr decimal]
  | felica =>
      rw [load_idm_publish published]
      simp [ReaderCardType.code]

/-! ## From the host to the reader -/

/-- The number of leading octets of a card state which carry meaning. -/
def effectiveSize : CardType → Nat
  | .none => 6
  | .mifare => 48
  | .felica => 14

/-- A reader card with the fields of a decoded card. -/
structure Carries (observed : ReaderCard) (card : Card) : Prop where
  type : hostCardType observed.type = card.type
  luid : card.type = .mifare → observed.luid = card.luid
  blocks : card.type = .mifare → observed.blocks = card.blocks
  idm : card.type = .felica → observed.idm = card.idm
  hasBlocks : card.type = .mifare → observed.hasBlocks = true

theorem publishedType_of_carries
    {observed : ReaderCard} {card : Card}
    (carried : Carries observed card) :
    hostCardType (publishedType observed) = card.type := by
  unfold publishedType
  split
  · rename_i bare
    have mifare : card.type = .mifare := by
      rw [← carried.type, bare.1]
      rfl
    rw [carried.hasBlocks mifare] at bare
    cases bare.2
  · exact carried.type

/-- Two lists of report size agree when they agree at every octet. -/
theorem toList_eq_of_byteAt
    {report : Report} {raw : List Byte}
    (length : raw.length = reportSize)
    (agree : ∀ index (inside : index < 64),
      report[index] = byteAt raw index) :
    report.toList = raw := by
  apply List.ext_getElem
  · simp [length, reportSize]
  · intro index left right
    have inside : index < 64 := by simpa using left
    have read := agree index inside
    rw [byteAt, List.getD_eq_getElem?_getD,
      List.getElem?_eq_getElem right] at read
    simpa using read

/-- A report with the same type octet has the same first six octets. -/
theorem publish_header_agrees
    (observed : ReaderCard) {raw : List Byte}
    (report : CardStateReport raw)
    (typeOctet : byteAt raw 5 = (publishedType observed).code)
    {index : Nat} (inside : index < 6) :
    (prhpPublishCardState observed)[index] = byteAt raw index := by
  rcases prhpPublishCardState_header observed with
    ⟨type, opcode, low, high, status, card⟩
  have position :
      index = 0 ∨ index = 1 ∨ index = 2 ∨ index = 3 ∨ index = 4 ∨
        index = 5 := by
    omega
  rcases position with rfl | rfl | rfl | rfl | rfl | rfl
  · exact type.trans report.type.symm
  · exact opcode.trans report.opcode.symm
  · exact low.trans report.sequenceLow.symm
  · exact high.trans report.sequenceHigh.symm
  · exact status.trans report.status.symm
  · exact card.trans typeOctet.symm

/-- The octets of a published report after its type octet. -/
theorem publish_body
    (observed : ReaderCard) {index : Nat}
    (body : 6 ≤ index) (inside : index < 64) :
    (prhpPublishCardState observed)[index] =
      match publishedType observed with
      | .none => 0
      | .mifare =>
          if index < 16 then byteAt observed.luid.toList (index - 6)
          else if index < 48 then
            byteAt observed.blocks.toList (index - 16)
          else 0
      | .felica =>
          if index < 14 then byteAt observed.idm.toList (index - 6)
          else 0 := by
  have zero : index ≠ 0 := by omega
  have one : index ≠ 1 := by omega
  have five : index ≠ 5 := by omega
  unfold prhpPublishCardState
  cases publishedType observed with
  | none =>
      simp [zero.symm, one.symm, five.symm]
  | mifare =>
      simp only [getElem_store, Vector.getElem_set, zero.symm, one.symm,
        five.symm, getElem_zeros, if_false]
      split_ifs <;> first | rfl | omega
  | felica =>
      simp only [getElem_store, Vector.getElem_set, zero.symm, one.symm,
        five.symm, getElem_zeros, if_false]
      split_ifs <;> first | rfl | omega

/-- Publishing a decoded card restores the report it was decoded from. -/
theorem publish_decode
    {raw : List Byte} {card : Card} {observed : ReaderCard}
    (accepted : decodeCardStateSignal raw = .ok card)
    (padded : ∀ index, effectiveSize card.type ≤ index →
      byteAt raw index = 0)
    (carried : Carries observed card) :
    (prhpPublishCardState observed).toList = raw := by
  rcases decodeCardStateSignal_ok accepted with ⟨report, body⟩
  have published := publishedType_of_carries carried
  have typeOctet : byteAt raw 5 = (publishedType observed).code := by
    rcases decodeCardBody_cases body with
      ⟨octet, rfl⟩ | ⟨octet, -, rfl⟩ | ⟨octet, rfl⟩ <;>
      cases known : publishedType observed <;>
        simp_all [hostCardType, Card.none, ReaderCardType.code]
  apply toList_eq_of_byteAt report.length
  intro index inside
  by_cases header : index < 6
  · exact publish_header_agrees observed report typeOctet header
  · rw [publish_body observed (by omega) inside]
    have rest := padded index
    rcases decodeCardBody_cases body with
      ⟨octet, rfl⟩ | ⟨octet, -, rfl⟩ | ⟨octet, rfl⟩
    · have none : publishedType observed = .none := by
        cases known : publishedType observed <;>
          simp_all [hostCardType, Card.none]
      rw [none, rest]
      simp only [effectiveSize, Card.none]
      omega
    · have mifare : publishedType observed = .mifare := by
        cases known : publishedType observed <;>
          simp_all [hostCardType]
      rw [mifare, carried.luid rfl, carried.blocks rfl]
      dsimp only
      split_ifs with luid blocks
      · rw [byteAt_toList_of_lt _ (by omega), getElem_load]
        congr 1
        omega
      · rw [byteAt_toList_of_lt _ (by omega), getElem_load]
        congr 1
        omega
      · rw [rest]
        simp only [effectiveSize]
        omega
    · have felica : publishedType observed = .felica := by
        cases known : publishedType observed <;>
          simp_all [hostCardType]
      rw [felica, carried.idm rfl]
      dsimp only
      split_ifs with idm
      · rw [byteAt_toList_of_lt _ (by omega), getElem_load]
        congr 1
        omega
      · rw [rest]
        simp only [effectiveSize]
        omega

/-! ## Both directions -/

/--
Every card which a scan can return survives the way to the host, and every
padded report which the host accepts is the report of its own decoding.
-/
theorem card_codecs_agree :
    (∀ (reader next : ReaderState) (world : Pn532World)
        (card : ReaderCard),
      (readerReadCard reader).run world = (.ok card, next) →
        ∃ decoded,
          decodeCardStateSignal (prhpPublishCardState card).toList =
            .ok decoded ∧
          (card.type = .none ∨
              card.type = .mifare ∧ card.hasBlocks = false →
            decoded = Card.none) ∧
          (card.type = .mifare ∧ card.hasBlocks = true →
            decoded.type = .mifare ∧
              decoded.luid = card.luid ∧
              decoded.blocks = card.blocks) ∧
          (card.type = .felica →
            decoded.type = .felica ∧
              decoded.idm = card.idm ∧
              ∃ value, decoded.feliCaID = some value ∧
                value.toNat = bigEndianValue card.idm.toList)) ∧
    (∀ (raw : List Byte) (card : Card) (observed : ReaderCard),
      decodeCardStateSignal raw = .ok card →
      (∀ index, effectiveSize card.type ≤ index →
        byteAt raw index = 0) →
      Carries observed card →
        (prhpPublishCardState observed).toList = raw) := by
  constructor
  · intro reader next world card scanned
    have decimal : DecimalLuid card.luid := by
      have guaranteed := (readerReadCard_decimal reader).run world
      rw [scanned] at guaranteed
      exact guaranteed
    refine ⟨prhpProjection card, decode_publish card decimal, ?_, ?_, ?_⟩
    · rintro (none | ⟨mifare, bare⟩)
      · simp [prhpProjection, publishedType, none]
      · simp [prhpProjection, publishedType, mifare, bare]
    · rintro ⟨mifare, blocks⟩
      simp [prhpProjection, publishedType, mifare, blocks]
    · intro felica
      simp [prhpProjection, publishedType, felica, Card.feliCaID,
        toNat_be64]
  · intro raw card observed accepted padded carried
    exact publish_decode accepted padded carried

theorem card_codecs_agree_felica :
    (∃ next,
      (readerReadCard readerInit).run
          (felicaWorld #v[1, 2, 3, 4, 5, 6, 7, 8]) =
        (.ok (felicaCard #v[1, 2, 3, 4, 5, 6, 7, 8]), next)) ∧
    (∃ decoded,
      decodeCardStateSignal
        (prhpPublishCardState
          (felicaCard #v[1, 2, 3, 4, 5, 6, 7, 8])).toList =
        .ok decoded ∧ decoded.idm = #v[1, 2, 3, 4, 5, 6, 7, 8]) ∧
    (prhpPublishCardState ReaderCard.zero).toList =
      [3, 2] ++ (zeros 62).toList := by
  have scanned :
      (readerReadCard readerInit).run
          (felicaWorld #v[1, 2, 3, 4, 5, 6, 7, 8]) =
        (.ok (felicaCard #v[1, 2, 3, 4, 5, 6, 7, 8]),
          { readerInit with
            activeFelica :=
              ⟨1, #v[1, 2, 3, 4, 5, 6, 7, 8], zeros 8⟩ }) := by
    decide +kernel
  refine ⟨⟨_, scanned⟩, ?_, ?_⟩
  · rcases card_codecs_agree.1 _ _ _ _ scanned with
      ⟨decoded, accepted, -, -, felica⟩
    exact ⟨decoded, accepted, (felica rfl).2.1⟩
  · apply card_codecs_agree.2 _ Card.none
    · decide
    · intro index padding
      simp only [effectiveSize, Card.none] at padding
      have after : [(3 : Byte), 2].length ≤ index := by
        change 2 ≤ index
        omega
      rw [byteAt, List.getD_eq_getElem?_getD,
        List.getElem?_append_right after, ← List.getD_eq_getElem?_getD]
      change byteAt (zeros 62).toList (index - 2) = 0
      rw [byteAt_toList]
      split
      · exact getElem_zeros _
      · rfl
    · constructor <;> first | rfl | (intro impossible; cases impossible)

end Pareader.System.CardCodec
