import Pareader.Firmware.Pn532Codec

/-!
# Target descriptors of the PN532

The payload of an `InListPassiveTarget` response describes the found target
behind a length octet of its own.  Both polls are compared with the descriptors
which a controller may send: a well-formed descriptor is to be read back, and
one with fewer octets than it announces is to be rejected.

The Type A poll does both.  The FeliCa poll tests the size of the payload and
the length octet against constants and never against each other, which leaves
two kinds of descriptors on which it fails.
-/

namespace Pareader.Firmware.Pn532Targets

open Pareader.Core
open Pareader.Firmware.Pn532
open Pareader.Firmware.Pn532Codec

/-! ## Target descriptors -/

/--
A FeliCa target.  The length octet counts itself and everything after it.
-/
def felicaDescriptor
    (number : Byte) (idm pmm : Vector Byte 8)
    (systemCode : Option (Vector Byte 2)) : List Byte :=
  match systemCode with
  | none => [0x01, number, 18, 0x01] ++ idm.toList ++ pmm.toList
  | some code =>
      [0x01, number, 20, 0x01] ++ idm.toList ++ pmm.toList ++ code.toList

/-- A Type A target.  The length octet counts the UID; an ATS may follow. -/
def typeADescriptor
    (number : Byte) (atqa : UInt16) (sak : Byte) (uid ats : List Byte) :
    List Byte :=
  [0x01, number, (atqa >>> 8).toUInt8, atqa.toUInt8, sak,
    UInt8.ofNat uid.length] ++ uid ++ ats

/-- The call failed and left its target alone. -/
def Poll.Rejects {Target : Type} (poll : Poll Target) (target : Target) :
    Prop :=
  (∃ failure, poll.status = .error failure) ∧ poll.target = target

/-- What a FeliCa poll has to make of a payload. -/
structure FelicaConforms
    (payload : List Byte) (target : FelicaTarget)
    (poll : Poll FelicaTarget) : Prop where
  wellFormed : ∀ number idm pmm systemCode,
    payload = felicaDescriptor number idm pmm systemCode →
      poll = ⟨.ok (), ⟨number, idm, pmm⟩, true⟩
  truncated : 0 < byteAt payload 0 →
    (payload.length ≤ 2 ∨
      payload.length < 2 + (byteAt payload 2).toNat) →
      Poll.Rejects poll target

/-- What a Type A poll has to make of a payload. -/
structure TypeAConforms
    (payload : List Byte) (target : TypeATarget)
    (poll : Poll TypeATarget) : Prop where
  wellFormed : ∀ number atqa sak uid ats, uid.length ≤ 10 →
    payload = typeADescriptor number atqa sak uid ats →
      poll.status = .ok () ∧ poll.found = true ∧
        poll.target.target = number ∧ poll.target.atqa = atqa ∧
        poll.target.sak = sak ∧ poll.target.uidSize = uid.length ∧
        poll.target.uid.toList.take uid.length = uid
  truncated : 0 < byteAt payload 0 →
    (payload.length ≤ 5 ∨
      payload.length < 6 + (byteAt payload 5).toNat) →
      Poll.Rejects poll target

/-- The request of a FeliCa poll. -/
def felicaRequest (systemCode : UInt16) : List Byte :=
  [0x01, 0x01, 0x00, (systemCode >>> 8).toUInt8, systemCode.toUInt8,
    0x01, 0x00]

/-- The request of a Type A poll. -/
def typeARequest : List Byte :=
  [0x01, 0x00]

/-- Both polls treat a payload as the descriptors ask for. -/
structure PollsConform (payload : List Byte) : Prop where
  felica : ∀ (world : Pn532World) systemCode target found,
    (command pn532CommandInListPassiveTarget (felicaRequest systemCode)
        64).run world = .ok payload →
      FelicaConforms payload target
        ((pn532PollFelica systemCode target found).run world)
  typeA : ∀ (world : Pn532World) target found,
    (command pn532CommandInListPassiveTarget typeARequest 64).run world =
        .ok payload →
      TypeAConforms payload target
        ((pn532PollTypeA target found).run world)

theorem pn532PollFelica_run
    {world : Pn532World} {systemCode : UInt16} {payload : List Byte}
    (target : FelicaTarget) (found : Bool)
    (answered :
      (command pn532CommandInListPassiveTarget (felicaRequest systemCode)
        64).run world = .ok payload) :
    (pn532PollFelica systemCode target found).run world =
      parseFelica target payload := by
  have mapped :
      pn532PollFelica systemCode target found =
        command pn532CommandInListPassiveTarget
            (felicaRequest systemCode) 64 >>=
          fun result => .done
            (result.toOption.elim
              ⟨result.map (fun _ => ()), target, found⟩
              (parseFelica target)) := by
    unfold pn532PollFelica
    congr 1
    funext result
    cases result <;> rfl
  rw [mapped, Interaction.run_bind_done, answered]
  rfl

theorem pn532PollTypeA_run
    {world : Pn532World} {payload : List Byte}
    (target : TypeATarget) (found : Bool)
    (answered :
      (command pn532CommandInListPassiveTarget typeARequest 64).run world =
        .ok payload) :
    (pn532PollTypeA target found).run world =
      parseTypeA target payload := by
  have mapped :
      pn532PollTypeA target found =
        command pn532CommandInListPassiveTarget typeARequest 64 >>=
          fun result => .done
            (result.toOption.elim
              ⟨result.map (fun _ => ()), target, found⟩
              (parseTypeA target)) := by
    unfold pn532PollTypeA
    congr 1
    funext result
    cases result <;> rfl
  rw [mapped, Interaction.run_bind_done, answered]
  rfl

/-- A controller which answers every query with the same target list. -/
def listingWorld (payload : List Byte) : Pn532World :=
  fun _ _ => .answering pn532CommandInListPassiveTarget payload

theorem command_listingWorld
    (request : List Byte) {payload : List Byte}
    (short : request.length ≤ 252) (fits : payload.length ≤ 64) :
    (command pn532CommandInListPassiveTarget request 64).run
        (listingWorld payload) = .ok payload := by
  rcases writeFrame_isOk pn532CommandInListPassiveTarget short with
    ⟨frame, written⟩
  rw [command, written]
  exact outcome_answering _ (by omega) fits

/-! ## The polls and the descriptors -/

/-- A target count in front of a payload means that a target was found. -/
theorem parseFelica_of_count
    (target : FelicaTarget) {payload : List Byte}
    (present : payload ≠ []) (counted : 0 < byteAt payload 0) :
    parseFelica target payload =
      if payload.length < 21 ∨ byteAt payload 2 < 18 then
        ⟨.error .invalidResponse, target, true⟩
      else
        ⟨.ok (),
          ⟨byteAt payload 1, load 8 payload 4, load 8 payload 12⟩,
          true⟩ := by
  have length := List.length_pos_iff.mpr present
  simp [parseFelica, length, counted]

theorem parseTypeA_of_count
    (target : TypeATarget) {payload : List Byte}
    (present : payload ≠ []) (counted : 0 < byteAt payload 0)
    (truncated : payload.length ≤ 5 ∨
      payload.length < 6 + (byteAt payload 5).toNat) :
    parseTypeA target payload =
      ⟨.error .invalidResponse, target, true⟩ := by
  have length := List.length_pos_iff.mpr present
  simp only [parseTypeA, length, counted, gt_iff_lt, true_and, not_true,
    if_false]
  split
  · rfl
  · rw [if_pos (by omega)]

theorem ne_nil_of_counted {payload : List Byte}
    (counted : 0 < byteAt payload 0) : payload ≠ [] := by
  rintro rfl
  exact absurd counted (by decide)

/-- A Type A poll reads a well-formed descriptor back. -/
theorem parseTypeA_descriptor
    (target : TypeATarget) (number : Byte) (atqa : UInt16) (sak : Byte)
    {uid : List Byte} (ats : List Byte) (short : uid.length ≤ 10) :
    parseTypeA target (typeADescriptor number atqa sak uid ats) =
      ⟨.ok (),
        { target := number
          uid := Vector.ofFn (fun index =>
            if index < uid.length then byteAt uid index
            else target.uid[index])
          uidSize := uid.length
          sak := sak
          atqa := atqa },
        true⟩ := by
  have announced :
      (byteAt (typeADescriptor number atqa sak uid ats) 5).toNat =
        uid.length := by
    change (UInt8.ofNat uid.length).toNat = uid.length
    rw [UInt8.toNat_ofNat']
    omega
  have length :
      (typeADescriptor number atqa sak uid ats).length =
        6 + uid.length + ats.length := by
    simp only [typeADescriptor, List.length_append, List.length_cons,
      List.length_nil]
  have counted :
      0 < byteAt (typeADescriptor number atqa sak uid ats) 0 := by
    change (0 : Byte) < 0x01
    decide
  have word :
      ((atqa >>> 8).toUInt8.toUInt16 <<< 8) ||| atqa.toUInt8.toUInt16 =
        atqa := by
    rw [UInt16.or_comm]
    exact le16_toUInt8 atqa
  have octets : ∀ index, index < uid.length →
      byteAt (typeADescriptor number atqa sak uid ats) (6 + index) =
        byteAt uid index := by
    intro index inside
    have shifted : 6 + index = index + 6 := by omega
    simp [typeADescriptor, byteAt, shifted, inside,
      List.getElem?_append_left inside]
  unfold parseTypeA
  dsimp only
  rw [announced, if_neg (not_not.mpr ⟨by omega, counted⟩),
    if_neg (by omega), if_neg (by omega)]
  congr 1
  congr 1
  · apply Vector.ext
    intro index inside
    simp only [Vector.getElem_ofFn]
    split
    · rename_i within
      exact octets index within
    · rfl

/-- A Type A poll conforms to every payload. -/
theorem parseTypeA_conforms
    (target : TypeATarget) (payload : List Byte) :
    TypeAConforms payload target (parseTypeA target payload) := by
  constructor
  · rintro number atqa sak uid ats short rfl
    rw [parseTypeA_descriptor target number atqa sak ats short]
    refine ⟨rfl, rfl, rfl, rfl, rfl, rfl, ?_⟩
    apply List.ext_getElem
    · simp [short]
    · intro index _ inside
      simp [byteAt, inside]
  · intro counted truncated
    rw [parseTypeA_of_count target (ne_nil_of_counted counted) counted
      truncated]
    exact ⟨⟨_, rfl⟩, rfl⟩

/-- The fields of a FeliCa descriptor. -/
theorem felicaDescriptor_fields
    (number : Byte) (idm pmm : Vector Byte 8)
    (systemCode : Option (Vector Byte 2)) :
    let payload := felicaDescriptor number idm pmm systemCode
    byteAt payload 0 = 1 ∧ byteAt payload 1 = number ∧
      load 8 payload 4 = idm ∧ load 8 payload 12 = pmm ∧
      (byteAt payload 2).toNat = (if systemCode.isSome then 20 else 18) ∧
      payload.length = (if systemCode.isSome then 22 else 20) := by
  cases systemCode with
  | none =>
      have idmField :=
        load_append [0x01, number, 18, 0x01] idm pmm.toList
      have pmmField :=
        load_append ([0x01, number, 18, 0x01] ++ idm.toList) pmm []
      rw [List.append_nil] at pmmField
      exact ⟨rfl, rfl, idmField,
        by simpa [felicaDescriptor] using pmmField, rfl,
        by simp [felicaDescriptor]⟩
  | some code =>
      have idmField :=
        load_append [0x01, number, 20, 0x01] idm
          (pmm.toList ++ code.toList)
      have pmmField :=
        load_append ([0x01, number, 20, 0x01] ++ idm.toList) pmm
          code.toList
      rw [← List.append_assoc] at idmField
      exact ⟨rfl, rfl, idmField,
        by simpa [felicaDescriptor] using pmmField, rfl,
        by simp [felicaDescriptor]⟩

/--
A FeliCa poll conforms to a payload unless it is a descriptor without system
code or a truncated descriptor of at least 21 octets.
-/
theorem parseFelica_conforms_iff
    (target : FelicaTarget) (payload : List Byte) :
    FelicaConforms payload target (parseFelica target payload) ↔
      (¬ ∃ number idm pmm,
        payload = felicaDescriptor number idm pmm none) ∧
      ¬ (0 < byteAt payload 0 ∧ 21 ≤ payload.length ∧
        payload.length < 2 + (byteAt payload 2).toNat) := by
  constructor
  · intro conforms
    constructor
    · rintro ⟨number, idm, pmm, rfl⟩
      have accepted := conforms.wellFormed number idm pmm none rfl
      rcases felicaDescriptor_fields number idm pmm none with
        ⟨count, -, -, -, -, length⟩
      rw [parseFelica_of_count target
          (ne_nil_of_counted (by rw [count]; decide))
          (by rw [count]; decide),
        if_pos (Or.inl (by rw [length]; decide))] at accepted
      cases accepted
    · rintro ⟨counted, long, truncated⟩
      rcases conforms.truncated counted (Or.inr truncated) with
        ⟨⟨failure, rejected⟩, -⟩
      have announced : ¬ byteAt payload 2 < 18 := by
        rw [UInt8.lt_iff_toNat_lt]
        change ¬ (byteAt payload 2).toNat < 18
        omega
      rw [parseFelica_of_count target (ne_nil_of_counted counted) counted,
        if_neg (by rw [not_or]; exact ⟨by omega, announced⟩)] at rejected
      cases rejected
  · rintro ⟨described, complete⟩
    constructor
    · rintro number idm pmm (_ | code) rfl
      · exact (described ⟨number, idm, pmm, rfl⟩).elim
      · rcases felicaDescriptor_fields number idm pmm (some code) with
          ⟨count, numbered, idmField, pmmField, announced, length⟩
        have large : ¬ byteAt
            (felicaDescriptor number idm pmm (some code)) 2 < 18 := by
          rw [UInt8.lt_iff_toNat_lt, announced]
          simp
        rw [parseFelica_of_count target
            (ne_nil_of_counted (by rw [count]; decide))
            (by rw [count]; decide),
          if_neg (by rw [not_or, length]; exact ⟨by simp, large⟩),
          numbered, idmField, pmmField]
    · intro counted truncated
      rw [parseFelica_of_count target (ne_nil_of_counted counted) counted,
        if_pos ?_]
      · exact ⟨⟨_, rfl⟩, rfl⟩
      · by_contra accepted
        rw [not_or] at accepted
        apply complete
        refine ⟨counted, by omega, ?_⟩
        rcases truncated with short | short
        · omega
        · exact short

/--
The polls conform to a payload exactly when it is neither a FeliCa descriptor
without system code nor a FeliCa descriptor which has at least 21 octets but
fewer than it announces.
-/
theorem polls_conform_iff (payload : List Byte) :
    PollsConform payload ↔
      (¬ ∃ number idm pmm,
        payload = felicaDescriptor number idm pmm none) ∧
      ¬ (0 < byteAt payload 0 ∧ 21 ≤ payload.length ∧
        payload.length ≤ 64 ∧
        payload.length < 2 + (byteAt payload 2).toNat) := by
  constructor
  · intro conforms
    constructor
    · rintro ⟨number, idm, pmm, rfl⟩
      have length := (felicaDescriptor_fields number idm pmm none).2.2.2.2.2
      have answered :=
        command_listingWorld (felicaRequest 0) (by decide)
          (le_of_eq_of_le length (by decide))
      have polled :=
        conforms.felica _ 0 ⟨0, zeros 8, zeros 8⟩ false answered
      rw [pn532PollFelica_run _ _ answered,
        parseFelica_conforms_iff] at polled
      exact polled.1 ⟨number, idm, pmm, rfl⟩
    · rintro ⟨counted, long, fits, truncated⟩
      have answered :=
        command_listingWorld (felicaRequest 0) (by decide) fits
      have polled :=
        conforms.felica _ 0 ⟨0, zeros 8, zeros 8⟩ false answered
      rw [pn532PollFelica_run _ _ answered,
        parseFelica_conforms_iff] at polled
      exact polled.2 ⟨counted, long, truncated⟩
  · rintro ⟨described, complete⟩
    constructor
    · intro world systemCode target found answered
      have fits := length_le_of_command answered
      rw [pn532PollFelica_run target found answered,
        parseFelica_conforms_iff]
      refine ⟨described, ?_⟩
      rintro ⟨counted, long, truncated⟩
      exact complete ⟨counted, long, fits, truncated⟩
    · intro world target found answered
      rw [pn532PollTypeA_run target found answered]
      exact parseTypeA_conforms target payload

/-- The descriptor of a FeliCa card which reports no system code. -/
def shortDescriptor : List Byte :=
  felicaDescriptor 0x01 (zeros 8) (zeros 8) none

/-- It is rejected, although its length octet is in order. -/
theorem not_pollsConform_shortDescriptor :
    (pn532PollFelica 0 ⟨0, zeros 8, zeros 8⟩ false).run
          (listingWorld shortDescriptor) =
        ⟨.error .invalidResponse, ⟨0, zeros 8, zeros 8⟩, true⟩ ∧
      ¬ PollsConform shortDescriptor := by
  have answered :=
    command_listingWorld (felicaRequest 0) (by decide)
      (by decide : shortDescriptor.length ≤ 64)
  have polled :
      (pn532PollFelica 0 ⟨0, zeros 8, zeros 8⟩ false).run
          (listingWorld shortDescriptor) =
        ⟨.error .invalidResponse, ⟨0, zeros 8, zeros 8⟩, true⟩ := by
    rw [pn532PollFelica_run _ _ answered]
    rfl
  refine ⟨polled, ?_⟩
  intro conforms
  have accepted :=
    (conforms.felica _ 0 ⟨0, zeros 8, zeros 8⟩ false answered).wellFormed
      0x01 (zeros 8) (zeros 8) none rfl
  rw [polled] at accepted
  cases accepted

end Pareader.Firmware.Pn532Targets
