import Pareader.Firmware.AppMain

/-!
# The CDC port does not disturb the HID interfaces

The scan and the SEGA handlers share the variables of `reader.c`.  A scan reads
only some of them before it has written them: the two keys, the system code and
the radio flag.  Two reader states which agree on these send the controller the
same commands and return the same card.

Every SEGA command but the radio switches, the poll and the two key updates
leaves these variables alone.  Hence the observations of a run are those of a
scanner which knows nothing of the CDC port.
-/

namespace Pareader.Firmware.Independence

open Pareader.Core
open Pareader.Firmware.Pn532
open Pareader.Firmware.Reader
open Pareader.Firmware.Hid
open Pareader.Firmware.SegaFraming
open Pareader.Firmware.SegaDispatch
open Pareader.Firmware.AppMain

/-! ## What a scan reads -/

/-- Agreement on the variables which a scan reads before it writes them. -/
structure ScanEquivalent (first second : ReaderState) : Prop where
  mifareKeys : first.mifareKeys = second.mifareKeys
  felicaSystemCode : first.felicaSystemCode = second.felicaSystemCode
  radioEnabled : first.radioEnabled = second.radioEnabled

theorem ScanEquivalent.refl (reader : ReaderState) :
    ScanEquivalent reader reader :=
  ⟨rfl, rfl, rfl⟩

theorem ScanEquivalent.symm
    {first second : ReaderState} (same : ScanEquivalent first second) :
    ScanEquivalent second first :=
  ⟨same.mifareKeys.symm, same.felicaSystemCode.symm,
    same.radioEnabled.symm⟩

theorem ScanEquivalent.trans
    {first second third : ReaderState}
    (left : ScanEquivalent first second)
    (right : ScanEquivalent second third) :
    ScanEquivalent first third :=
  ⟨left.mifareKeys.trans right.mifareKeys,
    left.felicaSystemCode.trans right.felicaSystemCode,
    left.radioEnabled.trans right.radioEnabled⟩

/-- Two polls agree, and so do their targets where there is one. -/
structure PollEquivalent {Target : Type}
    (same : Target → Target → Prop) (first second : Poll Target) :
    Prop where
  status : first.status = second.status
  found : first.found = second.found
  target :
    first.status = .ok () → first.found = true →
      same first.target second.target

/-- Agreement of Type A targets on what is used of a supported one. -/
structure TargetEquivalent (first second : TypeATarget) : Prop where
  target : first.target = second.target
  uidSize : first.uidSize = second.uidSize
  uid : first.uidSize = 4 → uidPrefix first = uidPrefix second

theorem parseTypeA_equivalent
    (first second : TypeATarget) (response : List Byte) :
    PollEquivalent TargetEquivalent
      (parseTypeA first response) (parseTypeA second response) := by
  unfold parseTypeA
  dsimp only
  split
  · exact ⟨rfl, rfl, fun _ found => nomatch found⟩
  split
  · exact ⟨rfl, rfl, fun status _ => nomatch status⟩
  split
  · exact ⟨rfl, rfl, fun status _ => nomatch status⟩
  · refine ⟨rfl, rfl, fun _ _ => ⟨rfl, rfl, ?_⟩⟩
    intro four
    apply Vector.ext
    intro index inside
    have within : index < (byteAt response 5).toNat := by
      dsimp only at four
      omega
    simp only [uidPrefix, getElem_load, Nat.zero_add]
    rw [byteAt_toList_of_lt _ (by omega),
      byteAt_toList_of_lt _ (by omega), Vector.getElem_ofFn,
      Vector.getElem_ofFn, if_pos within, if_pos within]

theorem parseFelica_equivalent
    (first second : FelicaTarget) (response : List Byte) :
    PollEquivalent Eq
      (parseFelica first response) (parseFelica second response) := by
  unfold parseFelica
  dsimp only
  split
  · exact ⟨rfl, rfl, fun _ found => nomatch found⟩
  split
  · exact ⟨rfl, rfl, fun status _ => nomatch status⟩
  · exact ⟨rfl, rfl, fun _ _ => rfl⟩

/-- The target passed to a poll does not influence the poll. -/
theorem pn532PollTypeA_matches
    (first second : TypeATarget) (found : Bool) :
    Interaction.Matches (PollEquivalent TargetEquivalent)
      (pn532PollTypeA first found) (pn532PollTypeA second found) := by
  refine Interaction.Matches.bind (Interaction.Matches.refl
    (fun _ => rfl) (command pn532CommandInListPassiveTarget _ 64)) ?_
  rintro result _ rfl
  cases result with
  | error failure => exact ⟨rfl, rfl, fun status _ => nomatch status⟩
  | ok response => exact parseTypeA_equivalent first second response

theorem pn532PollFelica_matches
    (systemCode : UInt16) (first second : FelicaTarget) (found : Bool) :
    Interaction.Matches (PollEquivalent Eq)
      (pn532PollFelica systemCode first found)
      (pn532PollFelica systemCode second found) := by
  refine Interaction.Matches.bind (Interaction.Matches.refl
    (fun _ => rfl) (command pn532CommandInListPassiveTarget _ 64)) ?_
  rintro result _ rfl
  cases result with
  | error failure => exact ⟨rfl, rfl, fun status _ => nomatch status⟩
  | ok response => exact parseFelica_equivalent first second response

/-- The card which is read depends on the target, its UID and the keys. -/
theorem readMifareCard_congr
    {first second : ReaderState}
    (keys : first.mifareKeys = second.mifareKeys)
    (target : first.activeMifare.target = second.activeMifare.target)
    (uid : uidPrefix first.activeMifare = uidPrefix second.activeMifare) :
    readMifareCard first = readMifareCard second := by
  unfold readMifareCard readMifareWithKey ReaderState.mifareKey
  rw [keys, target, uid]

/-- Scans from equivalent states agree and stay equivalent. -/
def SameScan (first second : EspResult ReaderCard × ReaderState) : Prop :=
  first.1 = second.1 ∧ ScanEquivalent first.2 second.2

theorem readTypeACard_matches
    {first second : ReaderState} (same : ScanEquivalent first second)
    (found : Bool) :
    Interaction.Matches SameScan
      (readTypeACard first found) (readTypeACard second found) := by
  refine Interaction.Matches.bind
    (pn532PollTypeA_matches first.activeMifare second.activeMifare found) ?_
  rintro ⟨status, target, pollFound⟩ ⟨_, other, _⟩ ⟨rfl, rfl, targets⟩
  have kept : ScanEquivalent
      { first with activeMifare := target }
      { second with activeMifare := other } :=
    ⟨same.mifareKeys, same.felicaSystemCode, same.radioEnabled⟩
  cases status with
  | error failure => exact ⟨rfl, kept⟩
  | ok done =>
      cases pollFound with
      | false => exact ⟨rfl, kept⟩
      | true =>
          rcases targets rfl rfl with ⟨number, uidSize, uid⟩
          dsimp only at number uidSize uid ⊢
          rw [← uidSize]
          split
          · exact ⟨rfl, kept⟩
          · rename_i supported
            have four : target.uidSize = 4 :=
              not_not.mp (not_or.mp supported).2
            rw [readMifareCard_congr kept.mifareKeys number (uid four)]
            refine Interaction.Matches.bind
              (Interaction.Matches.refl (fun _ => rfl) _) ?_
            rintro card _ rfl
            exact ⟨rfl, kept⟩

/-- Scans from equivalent states send the same commands and agree. -/
theorem readerReadCard_matches
    {first second : ReaderState} (same : ScanEquivalent first second) :
    Interaction.Matches SameScan
      (readerReadCard first) (readerReadCard second) := by
  unfold readerReadCard
  rw [← same.radioEnabled, ← same.felicaSystemCode]
  split
  · exact ⟨rfl, same⟩
  refine Interaction.Matches.bind
    (pn532PollFelica_matches _ first.activeFelica second.activeFelica
      false) ?_
  rintro ⟨status, target, found⟩ ⟨_, other, _⟩ ⟨rfl, rfl, targets⟩
  cases status with
  | error failure =>
      apply readTypeACard_matches
      exact ⟨same.mifareKeys, rfl, rfl⟩
  | ok done =>
      cases found with
      | false =>
          apply readTypeACard_matches
          exact ⟨same.mifareKeys, rfl, rfl⟩
      | true =>
          obtain rfl := targets rfl rfl
          exact ⟨rfl, same.mifareKeys, rfl, rfl⟩

/-! ## What the SEGA commands write -/

/-- The NFC command of a request, if it addresses the reader. -/
def nfcCommand (request : List Byte) : Option SgNfc :=
  if byteAt request 1 = sgAddressNfc then
    SgNfc.ofCode (byteAt request 3)
  else
    none

/-- The request neither switches the radio nor polls. -/
def LeavesRadio (request : List Byte) : Prop :=
  nfcCommand request ∉
    [some .radioOn, some .radioOff, some .poll]

/-- The request does not replace a MIFARE key. -/
def LeavesKeys (request : List Byte) : Prop :=
  nfcCommand request ∈
      [some .mifareSetKeyAime, some .mifareSetKeyBana] →
    (requestPayload request).length ≠ 6

instance (request : List Byte) : Decidable (LeavesRadio request) :=
  inferInstanceAs (Decidable (_ ∉ _))

instance (request : List Byte) : Decidable (LeavesKeys request) :=
  inferInstanceAs (Decidable (_ → _))

theorem dispatchNfc_scanEquivalent
    (reader : ReaderState) {request : List Byte}
    (addressed : byteAt request 1 = sgAddressNfc)
    (radio : LeavesRadio request) (keys : LeavesKeys request) :
    (dispatchNfc reader request (requestPayload request)).Always
      (fun result => ScanEquivalent reader result.1) := by
  have unchanged : ∀ frames,
      (Interaction.done (reader, frames) :
          Driver (ReaderState × List (List Byte))).Always
        (fun result => ScanEquivalent reader result.1) :=
    fun _ => ScanEquivalent.refl reader
  simp only [LeavesRadio, LeavesKeys, nfcCommand, if_pos addressed]
    at radio keys
  unfold dispatchNfc
  cases known : SgNfc.ofCode (byteAt request 3) with
  | none => exact unchanged _
  | some command =>
    rw [known] at radio keys
    cases command with
    | radioOn => exact (radio (by simp)).elim
    | radioOff => exact (radio (by simp)).elim
    | poll => exact (radio (by simp)).elim
    | reset => exact unchanged _
    | getFwVersion => exact unchanged _
    | getHwVersion => exact unchanged _
    | sendHexData => exact unchanged _
    | toUpdateMode => exact unchanged _
    | mifareAuthenticateAime => exact ⟨rfl, rfl, rfl⟩
    | mifareAuthenticateBana => exact ⟨rfl, rfl, rfl⟩
    | mifareSelectTag =>
        dsimp only
        split <;> exact unchanged _
    | mifareSetKeyAime =>
        dsimp only
        rw [if_pos (keys (by simp))]
        exact unchanged _
    | mifareSetKeyBana =>
        dsimp only
        rw [if_pos (keys (by simp))]
        exact unchanged _
    | mifareReadBlock =>
        dsimp only
        split
        · exact unchanged _
        · exact Interaction.Always.after (fun _ => unchanged _)
    | felicaEncap =>
        dsimp only
        split
        · exact unchanged _
        · exact Interaction.Always.after (fun _ => unchanged _)

/-- A request which an independent run may contain. -/
def Quiet (request : List Byte) : Prop :=
  Accepted request → LeavesRadio request ∧ LeavesKeys request

theorem dispatch_scanEquivalent
    (reader : ReaderState) {request : List Byte}
    (quiet : Quiet request) :
    (dispatch reader request).Always
      (fun result => ScanEquivalent reader result.1) := by
  unfold dispatch
  split
  · exact ScanEquivalent.refl reader
  rename_i accepted
  rcases quiet (not_not.mp accepted) with ⟨radio, keys⟩
  split
  · rename_i addressed
    exact dispatchNfc_scanEquivalent reader addressed radio keys
  · split <;> exact ScanEquivalent.refl reader

theorem dispatchAll_scanEquivalent
    (reader : ReaderState) {requests : List (List Byte)}
    (quiet : ∀ request ∈ requests, Quiet request) :
    (dispatchAll reader requests).Always
      (fun result => ScanEquivalent reader result.1) := by
  induction requests generalizing reader with
  | nil => exact ScanEquivalent.refl reader
  | cons request rest induction =>
      rcases List.forall_mem_cons.mp quiet with ⟨head, tail⟩
      refine Interaction.Always.bind
        (dispatch_scanEquivalent reader head) ?_
      rintro ⟨next, frames⟩ first
      refine Interaction.Always.bind (induction next tail) ?_
      rintro ⟨last, more⟩ second
      exact first.trans second

/--
`sega_receive` drives the parser as the stream says, and quiet requests leave
the next scan alone.
-/
theorem segaReceive_frame
    (parser : SgParser) (reader : ReaderState) (data : List Byte) :
    (segaReceive parser reader data).Always
      (fun result =>
        result.1.1 = (segaParser.run parser data).1 ∧
        ((∀ request ∈ (segaParser.run parser data).2, Quiet request) →
          ScanEquivalent reader result.1.2)) := by
  induction data generalizing parser reader with
  | nil => exact ⟨rfl, fun _ => ScanEquivalent.refl reader⟩
  | cons byte rest induction =>
      have dispatched :
          (dispatchAll reader (receiveByte parser byte).2).Always
            (fun result =>
              (∀ request ∈ (receiveByte parser byte).2,
                Quiet request) →
              ScanEquivalent reader result.1) := by
        by_cases quiet :
            ∀ request ∈ (receiveByte parser byte).2, Quiet request
        · exact (dispatchAll_scanEquivalent reader quiet).mono
            (fun _ same _ => same)
        · exact .of_forall (fun _ quietHere => (quiet quietHere).elim)
      refine Interaction.Always.bind dispatched ?_
      rintro ⟨next, frames⟩ first
      refine Interaction.Always.bind
        (induction (receiveByte parser byte).1 next) ?_
      rintro ⟨⟨lastParser, last⟩, more⟩ ⟨parsed, second⟩
      refine ⟨parsed, ?_⟩
      intro quiet
      rw [Transducer.run_cons] at quiet
      rcases List.forall_mem_append.mp quiet with ⟨head, tail⟩
      exact (first head).trans (second tail)

/-! ## Runs which differ on the CDC port -/

/-- The accepted requests among the CDC octets of a run. -/
def acceptedRequests (iterations : List Iteration) : List (List Byte) :=
  (segaParser.run segaInit
    (iterations.flatMap Iteration.cdcData)).2.filter (Accepted ·)

/-- The instants at which the loop scans, the next one being due. -/
def scanInstantsFrom : Int → List Iteration → List Int
  | _, [] => []
  | nextScan, iteration :: rest =>
      if iteration.now < nextScan then
        scanInstantsFrom nextScan rest
      else
        iteration.now ::
          scanInstantsFrom (iteration.now + cardScanIntervalUs) rest

def scanInstants (iterations : List Iteration) : List Int :=
  scanInstantsFrom appStart.nextScan iterations

section Field

variable {Field : Type}

/--
The controller which one scan meets: its answers depend on the command and on
what is then in the field.
-/
def fieldWorld (pn532 : List Byte → Field → Exchange)
    (field : Int → Nat → Field) (now : Int) : Pn532World :=
  fun index frame => pn532 frame (field now index)

/-- Every scan of the run meets that controller. -/
def ScansField (pn532 : List Byte → Field → Exchange)
    (field : Int → Nat → Field) (iterations : List Iteration) : Prop :=
  ∀ iteration ∈ iterations,
    iteration.scanWorld = fieldWorld pn532 field iteration.now

end Field

/-- A reader which is scanned and never spoken to. -/
def scanner : Transducer ReaderState Pn532World ReaderCard where
  step reader world :=
    let (observed, next) := (readerReadCard reader).run world
    (next, observed.toOption.toList)

theorem serviceMessage_parses (app : App) (iteration : Iteration) :
    (serviceMessage app iteration).1.parser =
      (segaParser.run app.parser iteration.cdcData).1 := by
  unfold serviceMessage Iteration.cdcData
  split
  · simp [*]
  · split
    · split <;> simp [*]
    · simp [*]
  · rename_i data message
    have received :=
      (segaReceive_frame app.parser app.reader data).run
        iteration.messageWorld
    simpa [message] using received.1

theorem serviceMessage_scanEquivalent (app : App) (iteration : Iteration)
    (quiet : ∀ request ∈ (segaParser.run app.parser iteration.cdcData).2,
      Quiet request) :
    ScanEquivalent app.reader (serviceMessage app iteration).1.reader := by
  unfold serviceMessage
  split
  · exact ScanEquivalent.refl _
  · split
    · split <;> exact ScanEquivalent.refl _
    · exact ScanEquivalent.refl _
  · rename_i data message
    have received :=
      (segaReceive_frame app.parser app.reader data).run
        iteration.messageWorld
    simp only [Iteration.cdcData, message] at quiet
    exact received.2 quiet

section Field

variable {Field : Type}
variable {pn532 : List Byte → Field → Exchange}
variable {field : Int → Nat → Field}

/-- Run lemma: the observations of a quiet run are those of the scanner. -/
theorem observationsFrom_eq_scanner
    (app : App) (reader : ReaderState) (iterations : List Iteration)
    (same : ScanEquivalent app.reader reader)
    (quiet : ∀ request ∈ (segaParser.run app.parser
      (iterations.flatMap Iteration.cdcData)).2, Quiet request)
    (scans : ScansField pn532 field iterations) :
    observationsFrom app iterations =
      (scanner.run reader
        ((scanInstantsFrom app.nextScan iterations).map
          (fieldWorld pn532 field))).2 := by
  induction iterations generalizing app reader with
  | nil => rfl
  | cons iteration rest induction =>
      rcases List.forall_mem_cons.mp scans with ⟨world, restScans⟩
      rw [List.flatMap_cons, Transducer.run_append] at quiet
      rcases List.forall_mem_append.mp quiet with ⟨head, tail⟩
      have serviced :=
        (serviceMessage_scanEquivalent app iteration head).symm.trans same
      rw [← serviceMessage_parses] at tail
      rcases serviceMessage_frame app iteration with ⟨-, clock⟩
      rw [observationsFrom, observation, iterate, scanInstantsFrom]
      dsimp only
      rw [clock]
      split
      · rw [← clock]
        exact induction _ reader serviced tail restScans
      · rcases
            scan_frame
              { (serviceMessage app iteration).1 with
                nextScan := iteration.now + cardScanIntervalUs }
              iteration with
          ⟨moved, parser, nextScan⟩
        dsimp only at moved parser nextScan
        rcases (readerReadCard_matches serviced).run iteration.scanWorld with
          ⟨observed, next⟩
        rw [List.map_cons, Transducer.run_cons, ← world]
        congr 1
        · exact congrArg (fun result => result.toOption.toList) observed
        · refine (induction _ (scanner.step reader iteration.scanWorld).1
            ?_ ?_ restScans).trans ?_
          · rw [moved]
            exact next
          · rw [parser]
            exact tail
          · rw [nextScan]

/-- The observations of a quiet run depend on its scan instants alone. -/
theorem observationsOf_eq_scanner
    (iterations : List Iteration)
    (quiet : ∀ request ∈ acceptedRequests iterations,
      LeavesRadio request ∧ LeavesKeys request)
    (scans : ScansField pn532 field iterations) :
    observationsOf iterations =
      (scanner.run readerInit
        ((scanInstants iterations).map (fieldWorld pn532 field))).2 := by
  apply observationsFrom_eq_scanner
  · exact ScanEquivalent.refl readerInit
  · intro request received accepted
    exact quiet request
      (List.mem_filter.mpr ⟨received, decide_eq_true accepted⟩)
  · exact scans

end Field

/--
Two runs with the same scan instants and fields, whose CDC traffic neither
switches the radio nor polls nor replaces a key, publish the same reports.
-/
theorem hid_reports_independent
    (Field : Type) (pn532 : List Byte → Field → Exchange)
    (field : Int → Nat → Field) (first second : List Iteration)
    (firstScans : ScansField pn532 field first)
    (secondScans : ScansField pn532 field second)
    (instants : scanInstants first = scanInstants second)
    (firstQuiet : ∀ request ∈ acceptedRequests first,
      LeavesRadio request ∧ LeavesKeys request)
    (secondQuiet : ∀ request ∈ acceptedRequests second,
      LeavesRadio request ∧ LeavesKeys request) :
    (outputsOf first).filterMap Output.cardState =
        (outputsOf second).filterMap Output.cardState ∧
      (outputsOf first).filterMap Output.cardioReport =
        (outputsOf second).filterMap Output.cardioReport := by
  have observed : observationsOf first = observationsOf second := by
    rw [observationsOf_eq_scanner first firstQuiet firstScans,
      observationsOf_eq_scanner second secondQuiet secondScans, instants]
  constructor
  · have left := prhpStates.outputs_eq (fun _ => trivial) first
    have right := prhpStates.outputs_eq (fun _ => trivial) second
    rw [observed, ← right] at left
    exact (List.cons.inj left).2
  · have left := cardioReports.outputs_eq (fun _ => trivial) first
    have right := cardioReports.outputs_eq (fun _ => trivial) second
    rw [observed, ← right] at left
    exact (List.cons.inj left).2

/-- A field which always holds one Type A tag with the default Aime key. -/
def aimeField : Int → Nat → Vector Byte 4 :=
  fun _ _ => #v[1, 2, 3, 4]

def aimePn532 (frame : List Byte) (uid : Vector Byte 4) : Exchange :=
  typeAAnswer uid (some defaultAimeKey) frame

/-- One iteration in that field, which receives CDC octets before its scan. -/
def aimeIteration (data : List Byte) : Iteration :=
  { Iteration.scanning 0 (fieldWorld aimePn532 aimeField 0) acceptingLink with
    message := some ⟨.cdc, data⟩ }

theorem scansField_aimeIteration (data : List Byte) :
    ScansField aimePn532 aimeField [aimeIteration data] := by
  simp [ScansField, aimeIteration, Iteration.scanning]

/-- The frame of a key update which stores an all-zero Aime key. -/
def setKeyFrame : List Byte :=
  encodeFrame ([11, 0, 1, SgNfc.mifareSetKeyAime.code, 6] ++
    (zeros 6).toList)

/-- The frame of a version query. -/
def versionFrame : List Byte :=
  encodeFrame [5, 0, 1, SgNfc.getFwVersion.code, 0]

theorem hid_reports_independent_aime :
    (outputsOf [aimeIteration versionFrame]).filterMap Output.cardState =
        (outputsOf [aimeIteration []]).filterMap Output.cardState ∧
      (outputsOf [aimeIteration versionFrame]).filterMap
          Output.cardioReport =
        (outputsOf [aimeIteration []]).filterMap Output.cardioReport :=
  hid_reports_independent (Vector Byte 4) aimePn532 aimeField _ _
    (scansField_aimeIteration versionFrame) (scansField_aimeIteration [])
    (by decide +kernel) (by decide +kernel) (by decide +kernel)

/-- A key which the SEGA host stores changes what the HID hosts see. -/
theorem set_key_changes_hid_reports :
    ¬ ∀ (Field : Type) (pn532 : List Byte → Field → Exchange)
        (field : Int → Nat → Field) (first second : List Iteration),
      ScansField pn532 field first →
      ScansField pn532 field second →
      scanInstants first = scanInstants second →
      (∀ request ∈ acceptedRequests first, LeavesRadio request) →
      (∀ request ∈ acceptedRequests second, LeavesRadio request) →
        (outputsOf first).filterMap Output.cardState =
            (outputsOf second).filterMap Output.cardState ∧
          (outputsOf first).filterMap Output.cardioReport =
            (outputsOf second).filterMap Output.cardioReport := by
  intro independent
  have different :
      (outputsOf [aimeIteration setKeyFrame]).filterMap
          Output.cardState ≠
        (outputsOf [aimeIteration []]).filterMap Output.cardState := by
    decide +kernel
  apply different
  exact (independent (Vector Byte 4) aimePn532 aimeField _ _
    (scansField_aimeIteration setKeyFrame) (scansField_aimeIteration [])
    (by decide +kernel) (by decide +kernel) (by decide +kernel)).1

end Pareader.Firmware.Independence
