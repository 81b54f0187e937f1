import Pareader.Firmware.Pn532

/-!
# Card semantics of the reader

`reader.c` turns PN532 results into a `reader_card_t`.  Its file-scope
variables are one record here: the two MIFARE keys, the key type chosen by the
SEGA host, the last targets of either kind, the FeliCa system code in use and
the radio flag.  Every operation takes that record and returns it as the
source leaves it, also when the operation fails.

The second half states what every successful scan guarantees about its card.
The guarantee is phrased over the interaction tree, so it holds for every
controller and every pattern of bus errors.
-/

namespace Pareader.Firmware.Reader

open Pareader.Core
open Pareader.Firmware.Pn532

/-! ## Data -/

/-- `reader_card_type_t` -/
inductive ReaderCardType where
  | none
  | mifare
  | felica
deriving DecidableEq, Repr

/-- The numeric value of the enumeration constant. -/
def ReaderCardType.code : ReaderCardType → Byte
  | .none => 0
  | .mifare => 1
  | .felica => 2

/-- `reader_card_t` -/
@[ext]
structure ReaderCard where
  type : ReaderCardType
  mifareUid : Vector Byte 4
  luid : Vector Byte 10
  blocks : Vector Byte 32
  idm : Vector Byte 8
  pmm : Vector Byte 8
  hasBlocks : Bool
deriving DecidableEq, Repr

/-- The all-zero card, which is also the initial observation. -/
def ReaderCard.zero : ReaderCard where
  type := .none
  mifareUid := zeros 4
  luid := zeros 10
  blocks := zeros 32
  idm := zeros 8
  pmm := zeros 8
  hasBlocks := false

def readerKeyAime : Byte := 0
def readerKeyBana : Byte := 1

def defaultAimeKey : Vector Byte 6 :=
  #v[0x57, 0x43, 0x43, 0x46, 0x76, 0x32]

def defaultBanaKey : Vector Byte 6 :=
  #v[0x60, 0x90, 0xD0, 0x06, 0x32, 0xF5]

def felicaSystemCodeTransit : UInt16 := 0x0003
def felicaSystemCodeWildcard : UInt16 := 0xFFFF

/-- The file-scope variables of `reader.c`. -/
structure ReaderState where
  mifareKeys : Vector (Vector Byte 6) 2
  activeKeyType : Byte
  activeMifare : TypeATarget
  activeFelica : FelicaTarget
  felicaSystemCode : UInt16
  radioEnabled : Bool
deriving DecidableEq, Repr

/-- The variables once `reader_init` has copied the default keys. -/
def readerInit : ReaderState where
  mifareKeys := #v[defaultAimeKey, defaultBanaKey]
  activeKeyType := readerKeyAime
  activeMifare := ⟨0, zeros 10, 0, 0, 0⟩
  activeFelica := ⟨0, zeros 8, zeros 8⟩
  felicaSystemCode := felicaSystemCodeTransit
  radioEnabled := true

/-- `mifare_keys[type]` -/
def ReaderState.mifareKey (reader : ReaderState) (keyType : Byte) : Vector Byte 6 :=
  reader.mifareKeys.toList.getD keyType.toNat (zeros 6)

/-- The first four octets of the UID array of a target. -/
def uidPrefix (target : TypeATarget) : Vector Byte 4 :=
  load 4 target.uid.toList 0

/-! ## Scanning -/

/-- Both nibbles are decimal digits. -/
def isPackedBcd (value : Byte) : Bool :=
  !(decide (value >>> 4 > 9) || decide (value &&& 0x0F > 9))

def validLuid (luid : Vector Byte 10) : Bool :=
  luid.toList.all isPackedBcd &&
    (luid.toList.any (fun value => value != 0) && luid[0] >>> 4 != 3)

/--
Authenticate and read blocks 1 and 2.  The card is returned also on failure,
because a failed second read leaves the first block behind.
-/
def readMifareWithKey
    (target : TypeATarget) (authCommand authBlock : Byte)
    (key : Vector Byte 6) (card : ReaderCard) :
    Driver (EspResult Unit × ReaderCard) := do
  let authenticated ←
    pn532MifareAuthenticate target.target authCommand authBlock key
      (uidPrefix target)
  match authenticated with
  | .error failure => return (.error failure, card)
  | .ok () =>
    let block1 ← pn532MifareReadBlock target.target 1
    match block1 with
    | .error failure => return (.error failure, card)
    | .ok data1 =>
      let card := { card with blocks := store card.blocks 0 data1 }
      let block2 ← pn532MifareReadBlock target.target 2
      match block2 with
      | .error failure => return (.error failure, card)
      | .ok data2 =>
        return (.ok (),
          { card with
            blocks := store card.blocks 16 data2
            hasBlocks := true })

/-- The access code of a card read with the first key. -/
def extractLuid (card : ReaderCard) : ReaderCard :=
  let luid := load 10 card.blocks.toList (16 + 6)
  { card with luid := if validLuid luid then luid else zeros 10 }

/-- The part of `reader_read_card` which follows a usable Type A poll. -/
def readMifareCard (reader : ReaderState) : Driver ReaderCard := do
  let card :=
    { ReaderCard.zero with
      type := .mifare
      mifareUid := uidPrefix reader.activeMifare }
  let (first, card) ←
    readMifareWithKey reader.activeMifare 0x61 2
      (reader.mifareKey readerKeyAime) card
  match first with
  | .ok () => return extractLuid card
  | .error _ =>
      let card :=
        { card with blocks := zeros 32, hasBlocks := false }
      let (_, card) ←
        readMifareWithKey reader.activeMifare 0x60 1
          (reader.mifareKey readerKeyBana) card
      return card

/-- The part of `reader_read_card` which follows the FeliCa poll. -/
def readTypeACard (reader : ReaderState) (found : Bool) :
    Driver (EspResult ReaderCard × ReaderState) := do
  let poll ← pn532PollTypeA reader.activeMifare found
  let reader := { reader with activeMifare := poll.target }
  match poll.status with
  | .error failure => return (.error failure, reader)
  | .ok () =>
      if ¬ poll.found ∨ poll.target.uidSize ≠ 4 then
        return (.ok ReaderCard.zero, reader)
      else do
        let card ← readMifareCard reader
        return (.ok card, reader)

/-- The system code to try after a scan without a FeliCa target. -/
def otherSystemCode (code : UInt16) : UInt16 :=
  if code = felicaSystemCodeTransit then
    felicaSystemCodeWildcard
  else
    felicaSystemCodeTransit

def readerReadCard (reader : ReaderState) :
    Driver (EspResult ReaderCard × ReaderState) :=
  if ¬ reader.radioEnabled then
    .done (.ok ReaderCard.zero, reader)
  else do
    let poll ←
      pn532PollFelica reader.felicaSystemCode reader.activeFelica false
    let reader := { reader with activeFelica := poll.target }
    match poll.status with
    | .error _ => readTypeACard reader poll.found
    | .ok () =>
        if poll.found then
          return (.ok
            { ReaderCard.zero with
              type := .felica
              idm := poll.target.idm
              pmm := poll.target.pmm },
            reader)
        else
          readTypeACard
            { reader with
              felicaSystemCode :=
                otherSystemCode reader.felicaSystemCode }
            poll.found

/-! ## Cards in the field -/

/-- A controller which finds one FeliCa card in every poll. -/
def felicaWorld (idm : Vector Byte 8) : Pn532World :=
  fun _ _ =>
    .answering pn532CommandInListPassiveTarget
      ([0x01, 0x01, 0x14, 0x01] ++ idm.toList ++ (zeros 8).toList ++
        [0x00, 0x03])

/-- The observation of such a card. -/
def felicaCard (idm : Vector Byte 8) : ReaderCard :=
  { ReaderCard.zero with type := .felica, idm := idm }

/--
The answer of a controller with one Type A tag in its field, which accepts at
most one B key.
-/
def typeAAnswer
    (uid : Vector Byte 4) (key : Option (Vector Byte 6))
    (frame : List Byte) : Exchange :=
  let commandCode := byteAt frame 6
  let argument := byteAt frame 8
  if commandCode = pn532CommandInListPassiveTarget then
    if argument = 0x00 then
      .answering commandCode
        ([0x01, 0x01, 0x00, 0x04, 0x08, 0x04] ++ uid.toList)
    else
      .answering commandCode [0x00]
  else if argument = 0x61 ∧ some (load 6 frame 10) = key then
    .answering commandCode [0x00]
  else if argument = 0x30 then
    .answering commandCode (0x00 :: (zeros 16).toList)
  else
    .answering commandCode [0x14]

/-- A controller with one Type A tag in its field. -/
def typeAWorld (uid : Vector Byte 4) (key : Option (Vector Byte 6)) :
    Pn532World :=
  fun _ frame => typeAAnswer uid key frame

/-! ## Operations of the SEGA protocol -/

def readerMifareSelect (reader : ReaderState) (uid : Vector Byte 4) :
    EspResult Unit :=
  if reader.activeMifare.uidSize ≠ 4 ∨
      uidPrefix reader.activeMifare ≠ uid then
    .error .notFound
  else
    .ok ()

def readerMifareSetKey
    (reader : ReaderState) (keyType : Byte) (key : Vector Byte 6) :
    EspResult Unit × ReaderState :=
  if keyType > readerKeyBana then
    (.error .invalidArg, reader)
  else
    (.ok (),
      { reader with
        mifareKeys := reader.mifareKeys.setIfInBounds keyType.toNat key })

def readerMifareAuthenticate (reader : ReaderState) (keyType : Byte) :
    EspResult Unit × ReaderState :=
  if keyType > readerKeyBana then
    (.error .invalidArg, reader)
  else
    (.ok (), { reader with activeKeyType := keyType })

def readerMifareReadBlock
    (reader : ReaderState) (uid : Vector Byte 4) (blockNumber : Byte) :
    Driver (EspResult (Vector Byte 16)) :=
  match readerMifareSelect reader uid with
  | .error failure => .done (.error failure)
  | .ok () => do
      let authCommand :=
        if reader.activeKeyType = readerKeyAime then 0x61 else 0x60
      let authenticated ←
        pn532MifareAuthenticate reader.activeMifare.target authCommand
          blockNumber (reader.mifareKey reader.activeKeyType)
          (uidPrefix reader.activeMifare)
      match authenticated with
      | .error failure => return .error failure
      | .ok () =>
          pn532MifareReadBlock reader.activeMifare.target blockNumber

def readerFelicaTransact
    (reader : ReaderState) (request : List Byte) (responseCapacity : Nat) :
    Driver (EspResult (List Byte)) :=
  pn532FelicaTransact reader.activeFelica.target request responseCapacity

def readerRadioSet (reader : ReaderState) (enabled : Bool) :
    Driver (EspResult Unit × ReaderState) := do
  let switched ← pn532SetRadio enabled
  match switched with
  | .error failure => return (.error failure, reader)
  | .ok () => return (.ok (), { reader with radioEnabled := enabled })

/-! ## What a scan guarantees -/

/-- Every octet of an access code is packed BCD. -/
def DecimalLuid (luid : Vector Byte 10) : Prop :=
  luid.toList.all isPackedBcd = true

instance (luid : Vector Byte 10) : Decidable (DecimalLuid luid) :=
  inferInstanceAs (Decidable (_ = true))

theorem decimalLuid_zeros : DecimalLuid (zeros 10) := by
  decide

theorem decimalLuid_of_validLuid
    {luid : Vector Byte 10} (valid : validLuid luid = true) :
    DecimalLuid luid := by
  simp only [validLuid, Bool.and_eq_true] at valid
  exact valid.1

theorem decimalLuid_extractLuid (card : ReaderCard) :
    DecimalLuid (extractLuid card).luid := by
  unfold extractLuid
  dsimp only
  split
  · rename_i valid
    exact decimalLuid_of_validLuid valid
  · exact decimalLuid_zeros

/-- Reading the blocks changes nothing but the blocks and their flag. -/
theorem readMifareWithKey_frame
    (target : TypeATarget) (authCommand authBlock : Byte)
    (key : Vector Byte 6) (card : ReaderCard) :
    (readMifareWithKey target authCommand authBlock key card).Always
      (fun result =>
        result.2.type = card.type ∧
        result.2.mifareUid = card.mifareUid ∧
        result.2.luid = card.luid ∧
        result.2.idm = card.idm ∧
        result.2.pmm = card.pmm) := by
  unfold readMifareWithKey
  refine Interaction.Always.after ?_
  rintro (_ | _)
  · exact ⟨rfl, rfl, rfl, rfl, rfl⟩
  refine Interaction.Always.after ?_
  rintro (_ | _)
  · exact ⟨rfl, rfl, rfl, rfl, rfl⟩
  refine Interaction.Always.after ?_
  rintro (_ | _)
  · exact ⟨rfl, rfl, rfl, rfl, rfl⟩
  · exact ⟨rfl, rfl, rfl, rfl, rfl⟩

theorem readMifareCard_decimal (reader : ReaderState) :
    (readMifareCard reader).Always
      (fun card => DecimalLuid card.luid) := by
  unfold readMifareCard
  refine Interaction.Always.bind
    (readMifareWithKey_frame _ _ _ _ _) ?_
  rintro ⟨_ | _, first⟩ ⟨-, -, firstLuid, -⟩
  · refine Interaction.Always.bind
      (readMifareWithKey_frame _ _ _ _ _) ?_
    rintro ⟨_, second⟩ ⟨-, -, secondLuid, -⟩
    have untouched : second.luid = zeros 10 :=
      secondLuid.trans firstLuid
    change DecimalLuid second.luid
    rw [untouched]
    exact decimalLuid_zeros
  · exact decimalLuid_extractLuid first

theorem readTypeACard_decimal (reader : ReaderState) (found : Bool) :
    (readTypeACard reader found).Always
      (fun result =>
        OnSuccess (fun card => DecimalLuid card.luid) result.1) := by
  unfold readTypeACard
  refine Interaction.Always.after ?_
  rintro ⟨_ | _, target, pollFound⟩
  · trivial
  · dsimp only
    split
    · exact decimalLuid_zeros
    · refine Interaction.Always.bind (readMifareCard_decimal _) ?_
      intro card decimal
      exact decimal

/-- Every successful scan yields a decimal access code. -/
theorem readerReadCard_decimal (reader : ReaderState) :
    (readerReadCard reader).Always
      (fun result =>
        OnSuccess (fun card => DecimalLuid card.luid) result.1) := by
  unfold readerReadCard
  split
  · exact decimalLuid_zeros
  · refine Interaction.Always.after ?_
    rintro ⟨_ | _, target, pollFound⟩
    · exact readTypeACard_decimal _ _
    · dsimp only
      split
      · exact decimalLuid_zeros
      · exact readTypeACard_decimal _ _

end Pareader.Firmware.Reader
