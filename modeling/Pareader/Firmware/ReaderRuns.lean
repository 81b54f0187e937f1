import Pareader.Firmware.Pn532Targets
import Pareader.Firmware.Scan

/-!
# Runs of the reader interface

The main loop and the SEGA handlers use `reader.c` through the functions of its
header only.  A run is a list of calls, each of which meets a controller of its
own.  Besides the variables of the reader a run keeps two things which no
function stores: every exchange with the controller, and the card of the last
scan which succeeded.

One lemma says what a scan can do in a given world.  Two questions about whole
runs are then answered: what the stored targets are made of, and whether the
target which `SELECT` compares with is the card which was last reported.
-/

namespace Pareader.Firmware.ReaderRuns

open Pareader.Core
open Pareader.Firmware.Pn532
open Pareader.Firmware.Pn532Codec
open Pareader.Firmware.Pn532Targets
open Pareader.Firmware.Reader
open Pareader.Firmware.Scan

/-! ## Calls -/

/-- A call of a function of `reader.h`. -/
inductive ReaderCall where
  | readCard
  | mifareSelect (uid : Vector Byte 4)
  | mifareSetKey (keyType : Byte) (key : Vector Byte 6)
  | mifareAuthenticate (keyType : Byte)
  | mifareReadBlock (uid : Vector Byte 4) (blockNumber : Byte)
  | felicaTransact (request : List Byte) (responseCapacity : Nat)
  | radioSet (enabled : Bool)
deriving DecidableEq, Repr

/-- What a successful call hands to its caller. -/
inductive Answer where
  | done
  | card (card : ReaderCard)
  | data (octets : List Byte)
deriving DecidableEq, Repr

/-- The status of a call, its data and the variables which it leaves. -/
def ReaderCall.program (reader : ReaderState) :
    ReaderCall → Driver (EspResult Answer × ReaderState)
  | .readCard => do
      let (outcome, reader) ← readerReadCard reader
      return (outcome.map .card, reader)
  | .mifareSelect uid =>
      .done ((readerMifareSelect reader uid).map (fun _ => .done), reader)
  | .mifareSetKey keyType key =>
      let (outcome, reader) := readerMifareSetKey reader keyType key
      .done (outcome.map (fun _ => .done), reader)
  | .mifareAuthenticate keyType =>
      let (outcome, reader) := readerMifareAuthenticate reader keyType
      .done (outcome.map (fun _ => .done), reader)
  | .mifareReadBlock uid blockNumber => do
      let outcome ← readerMifareReadBlock reader uid blockNumber
      return (outcome.map (fun block => .data block.toList), reader)
  | .felicaTransact request responseCapacity => do
      let outcome ← readerFelicaTransact reader request responseCapacity
      return (outcome.map .data, reader)
  | .radioSet enabled => do
      let (outcome, reader) ← readerRadioSet reader enabled
      return (outcome.map (fun _ => .done), reader)

/-- A call and the controller which it meets. -/
structure ReaderStep where
  call : ReaderCall
  world : Pn532World

/-- The result of a step and the variables which it leaves. -/
def ReaderStep.result (step : ReaderStep) (reader : ReaderState) :
    EspResult Answer × ReaderState :=
  (step.call.program reader).run step.world

/-- The exchanges of a step. -/
def ReaderStep.exchanges (step : ReaderStep) (reader : ReaderState) :
    History :=
  (step.call.program reader).transcript step.world

/-- The reader with everything it exchanged and last reported. -/
structure Session where
  reader : ReaderState
  history : History
  reported : Option ReaderCard

/-- The card which a call reports; only scans report one. -/
def reportOf : EspResult Answer → Option ReaderCard
  | .ok (.card card) => some card
  | _ => none

def Session.next (session : Session) (step : ReaderStep) : Session where
  reader := (step.result session.reader).2
  history := session.history ++ step.exchanges session.reader
  reported :=
    (reportOf (step.result session.reader).1).or session.reported

/-- The session which `reader_init` opens. -/
def sessionStart : Session :=
  ⟨readerInit, [], none⟩

def sessionAfter (steps : List ReaderStep) : Session :=
  steps.foldl Session.next sessionStart

theorem sessionAfter_concat (steps : List ReaderStep) (step : ReaderStep) :
    sessionAfter (steps ++ [step]) = (sessionAfter steps).next step := by
  rw [sessionAfter, List.foldl_append]
  rfl

/-! ## What a scan can do -/

/-- The FeliCa poll of a scan failed or found nothing. -/
def FelicaMissed (reader : ReaderState) (world : Pn532World) : Prop :=
  (felicaPoll reader world).status = .ok () →
    (felicaPoll reader world).found = false

/-- The variables with which a scan goes on to its Type A poll. -/
def afterFelica (reader : ReaderState) (world : Pn532World) : ReaderState :=
  { reader with
    activeFelica := (felicaPoll reader world).target
    felicaSystemCode :=
      if (felicaPoll reader world).status = .ok () then
        otherSystemCode reader.felicaSystemCode
      else
        reader.felicaSystemCode }

/-- The variables after a Type A poll. -/
def afterTypeA (reader : ReaderState) (world : Pn532World) : ReaderState :=
  { afterFelica reader world with
    activeMifare := (typeAPoll reader world).target }

/-- What a scan can do, by the poll which decides it. -/
inductive ScanOutcome (reader : ReaderState) (world : Pn532World) :
    EspResult ReaderCard → ReaderState → Prop where
  | off (disabled : reader.radioEnabled = false) :
      ScanOutcome reader world (.ok ReaderCard.zero) reader
  | felica (enabled : reader.radioEnabled = true)
      (completed : (felicaPoll reader world).status = .ok ())
      (found : (felicaPoll reader world).found = true) :
      ScanOutcome reader world
        (.ok
          { ReaderCard.zero with
            type := .felica
            idm := (felicaPoll reader world).target.idm
            pmm := (felicaPoll reader world).target.pmm })
        { reader with activeFelica := (felicaPoll reader world).target }
  | failed {failure : EspErr} (enabled : reader.radioEnabled = true)
      (missed : FelicaMissed reader world)
      (broken : (typeAPoll reader world).status = .error failure) :
      ScanOutcome reader world (.error failure) (afterTypeA reader world)
  | unusable (enabled : reader.radioEnabled = true)
      (missed : FelicaMissed reader world)
      (completed : (typeAPoll reader world).status = .ok ())
      (empty : Unusable (typeAPoll reader world)) :
      ScanOutcome reader world (.ok ReaderCard.zero)
        (afterTypeA reader world)
  | mifare {card : ReaderCard} (enabled : reader.radioEnabled = true)
      (missed : FelicaMissed reader world)
      (completed : (typeAPoll reader world).status = .ok ())
      (usable : ¬ Unusable (typeAPoll reader world))
      (type : card.type = .mifare)
      (uid : card.mifareUid = uidPrefix (typeAPoll reader world).target) :
      ScanOutcome reader world (.ok card) (afterTypeA reader world)

theorem readMifareCard_uid (reader : ReaderState) :
    (readMifareCard reader).Always
      (fun card =>
        card.type = .mifare ∧
          card.mifareUid = uidPrefix reader.activeMifare) := by
  unfold readMifareCard
  refine Interaction.Always.bind (readMifareWithKey_frame _ _ _ _ _) ?_
  rintro ⟨_ | _, first⟩ ⟨firstType, firstUid, -⟩
  · refine Interaction.Always.bind (readMifareWithKey_frame _ _ _ _ _) ?_
    rintro ⟨_, second⟩ ⟨secondType, secondUid, -⟩
    exact ⟨secondType.trans firstType, secondUid.trans firstUid⟩
  · exact ⟨firstType, firstUid⟩

/-- After a missed FeliCa poll the scan ends as its Type A poll decides. -/
theorem scanOutcome_typeA
    {reader : ReaderState} {world : Pn532World}
    (enabled : reader.radioEnabled = true)
    (missed : FelicaMissed reader world) :
    ScanOutcome reader world
      ((readTypeACard (afterFelica reader world)
        (felicaPoll reader world).found).run world.later).1
      ((readTypeACard (afterFelica reader world)
        (felicaPoll reader world).found).run world.later).2 := by
  unfold readTypeACard
  rw [(pn532PollTypeA_single _ _).run_bind]
  generalize polled :
    (pn532PollTypeA (afterFelica reader world).activeMifare
      (felicaPoll reader world).found).run world.later = poll
  replace polled : typeAPoll reader world = poll := polled
  subst polled
  cases status : (typeAPoll reader world).status with
  | error failure => exact .failed enabled missed status
  | ok completed =>
      dsimp only
      split
      · rename_i empty
        refine .unusable enabled missed status ?_
        simpa [Unusable] using empty
      · rename_i usable
        have read :=
          (readMifareCard_uid (afterTypeA reader world)).run
            world.later.later
        simp only [Interaction.pure_eq, Interaction.run_bind_done]
        refine .mifare enabled missed status ?_ read.1 read.2
        simpa [Unusable] using usable

/-- Every scan has one of the five outcomes. -/
theorem readerReadCard_outcome (reader : ReaderState) (world : Pn532World) :
    ScanOutcome reader world ((readerReadCard reader).run world).1
      ((readerReadCard reader).run world).2 := by
  by_cases enabled : reader.radioEnabled = true
  · have decided := @scanOutcome_typeA reader world enabled
    unfold afterFelica at decided
    unfold readerReadCard
    rw [if_neg (not_not.mpr enabled),
      (pn532PollFelica_single _ _ _).run_bind]
    generalize polled :
      (pn532PollFelica reader.felicaSystemCode reader.activeFelica
        false).run world = poll
    replace polled : felicaPoll reader world = poll := polled
    subst polled
    cases status : (felicaPoll reader world).status with
    | error failure =>
        rw [status, if_neg (by simp)] at decided
        apply decided
        intro completed
        rw [status] at completed
        cases completed
    | ok completed =>
        rw [status, if_pos rfl] at decided
        dsimp only
        split
        · rename_i found
          exact .felica enabled status found
        · rename_i absent
          apply decided
          intro _
          exact Bool.eq_false_iff.mpr absent
  · unfold readerReadCard
    rw [if_pos enabled]
    exact .off (Bool.eq_false_iff.mpr enabled)

/-! ## Where the targets come from -/

/-- An exchange of the history polled with a request and was accepted. -/
def Polled (history : History) (request raw : List Byte) : Prop :=
  ∃ exchange ∈ history,
    writeFrame pn532CommandInListPassiveTarget request =
        .ok exchange.1 ∧
      exchange.2.outcome pn532CommandInListPassiveTarget 64 = .ok raw

/-- A Type A target is the parse of one response, field by field. -/
structure TypeAParse (raw : List Byte) (target : TypeATarget) : Prop where
  counted : 0 < byteAt raw 0
  complete : 6 + target.uidSize ≤ raw.length
  number : target.target = byteAt raw 1
  atqa : target.atqa =
    ((byteAt raw 2).toUInt16 <<< 8) ||| (byteAt raw 3).toUInt16
  sak : target.sak = byteAt raw 4
  uidSize : target.uidSize = (byteAt raw 5).toNat
  bounded : target.uidSize ≤ 10
  uid : target.uid.toList.take target.uidSize =
    slice raw 6 target.uidSize

/-- A FeliCa target is the parse of one response, field by field. -/
structure FelicaParse (raw : List Byte) (target : FelicaTarget) :
    Prop where
  counted : 0 < byteAt raw 0
  complete : 21 ≤ raw.length
  described : 18 ≤ byteAt raw 2
  number : target.target = byteAt raw 1
  idm : target.idm = load 8 raw 4
  pmm : target.pmm = load 8 raw 12

/-- A poll failed or found nothing. -/
def Missed {Target : Type} (poll : Poll Target) : Prop :=
  (∃ failure, poll.status = .error failure) ∨ poll.found = false

/-- A poll missed and left its target, or it yields a parsed target. -/
def PollPost {Target : Type} (parses : Target → Prop) (target : Target)
    (poll : Poll Target) : Prop :=
  (Missed poll ∧ poll.target = target) ∨
    (¬ Missed poll ∧ parses poll.target)

theorem PollPost.target_eq
    {Target : Type} {parses : Target → Prop} {target : Target}
    {poll : Poll Target} (post : PollPost parses target poll)
    (missed : Missed poll) : poll.target = target := by
  rcases post with ⟨-, kept⟩ | ⟨hit, -⟩
  · exact kept
  · exact (hit missed).elim

theorem PollPost.parsed
    {Target : Type} {parses : Target → Prop} {target : Target}
    {poll : Poll Target} (post : PollPost parses target poll) :
    poll.target = target ∨ parses poll.target := by
  rcases post with ⟨-, kept⟩ | ⟨-, parsed⟩
  · exact Or.inl kept
  · exact Or.inr parsed

theorem missed_of_error
    {Target : Type} {failure : EspErr} {target : Target} {found : Bool} :
    Missed (⟨.error failure, target, found⟩ : Poll Target) :=
  Or.inl ⟨failure, rfl⟩

theorem not_missed_of_found {Target : Type} {target : Target} :
    ¬ Missed (⟨.ok (), target, true⟩ : Poll Target) := by
  rintro (⟨failure, impossible⟩ | impossible)
  · cases impossible
  · cases impossible

theorem parseTypeA_post (target : TypeATarget) (raw : List Byte) :
    PollPost (TypeAParse raw) target (parseTypeA target raw) := by
  unfold parseTypeA
  dsimp only
  split
  · exact Or.inl ⟨Or.inr rfl, rfl⟩
  · rename_i found
    rw [not_not] at found
    split
    · exact Or.inl ⟨missed_of_error, rfl⟩
    · split
      · exact Or.inl ⟨missed_of_error, rfl⟩
      · rename_i fits
        rw [not_or, Nat.not_lt] at fits
        refine Or.inr ⟨not_missed_of_found, ?_⟩
        constructor
        · exact found.2
        · exact Nat.le_of_not_lt fits.2
        · rfl
        · rfl
        · rfl
        · rfl
        · exact fits.1
        · apply List.ext_getElem
          · simp only [List.length_take, slice, Vector.length_toList,
              List.length_drop]
            omega
          · intro index inside within
            simp only [List.length_take, Vector.length_toList] at inside
            have same :=
              byteAt_slice raw 6 (show index < _ by omega :
                index < (byteAt raw 5).toNat)
            rw [byteAt, List.getD_eq_getElem?_getD,
              List.getElem?_eq_getElem within] at same
            simp only [Option.getD_some] at same
            rw [same]
            simp only [List.getElem_take, Vector.getElem_toList,
              Vector.getElem_ofFn]
            rw [if_pos (by omega)]

theorem parseFelica_post (target : FelicaTarget) (raw : List Byte) :
    PollPost (FelicaParse raw) target (parseFelica target raw) := by
  unfold parseFelica
  dsimp only
  split
  · exact Or.inl ⟨Or.inr rfl, rfl⟩
  · rename_i found
    rw [not_not] at found
    split
    · exact Or.inl ⟨missed_of_error, rfl⟩
    · rename_i fits
      rw [not_or] at fits
      refine Or.inr ⟨not_missed_of_found, ?_⟩
      constructor
      · exact found.2
      · exact Nat.le_of_not_lt fits.1
      · exact UInt8.not_lt.mp fits.2
      · rfl
      · rfl
      · rfl

/-- The single exchange of a command, with its frame and its outcome. -/
theorem command_records
    (code : Byte) {request : List Byte} (capacity : Nat)
    (short : request.length ≤ 252) :
    (command code request capacity).Records
      (fun history result =>
        ∃ exchange, history = [exchange] ∧
          writeFrame code request = .ok exchange.1 ∧
          exchange.2.outcome code capacity = result) := by
  rcases writeFrame_isOk code short with ⟨frame, written⟩
  rw [command, written]
  intro exchange
  exact ⟨(frame, exchange), rfl, rfl, rfl⟩

/-- Some accepted poll of the history is parsed to the target. -/
def MifareSource (history : History) (target : TypeATarget) : Prop :=
  ∃ raw, Polled history typeARequest raw ∧ TypeAParse raw target

def FelicaSource (history : History) (target : FelicaTarget) : Prop :=
  ∃ systemCode raw,
    Polled history (felicaRequest systemCode) raw ∧
      FelicaParse raw target

theorem Polled.mono
    {history later : History} {request raw : List Byte}
    (polled : Polled history request raw) (grows : history ⊆ later) :
    Polled later request raw := by
  rcases polled with ⟨exchange, member, sent, accepted⟩
  exact ⟨exchange, grows member, sent, accepted⟩

theorem MifareSource.mono
    {history later : History} {target : TypeATarget}
    (source : MifareSource history target) (grows : history ⊆ later) :
    MifareSource later target := by
  rcases source with ⟨raw, polled, parsed⟩
  exact ⟨raw, polled.mono grows, parsed⟩

theorem FelicaSource.mono
    {history later : History} {target : FelicaTarget}
    (source : FelicaSource history target) (grows : history ⊆ later) :
    FelicaSource later target := by
  rcases source with ⟨systemCode, raw, polled, parsed⟩
  exact ⟨systemCode, raw, polled.mono grows, parsed⟩

theorem PollPost.mono
    {Target : Type} {strong weak : Target → Prop} {target : Target}
    {poll : Poll Target} (post : PollPost strong target poll)
    (weaken : strong poll.target → weak poll.target) :
    PollPost weak target poll := by
  rcases post with kept | ⟨hit, parsed⟩
  · exact Or.inl kept
  · exact Or.inr ⟨hit, weaken parsed⟩

theorem pn532PollTypeA_records (target : TypeATarget) (found : Bool) :
    (pn532PollTypeA target found).Records
      (fun history poll =>
        PollPost (MifareSource history) target poll) := by
  refine Interaction.Records.bind (command_records _ _ (by simp)) ?_
  rintro _ (failure | raw) ⟨exchange, rfl, sent, accepted⟩
  · exact Or.inl ⟨missed_of_error, rfl⟩
  · refine (parseTypeA_post target raw).mono ?_
    intro parsed
    exact ⟨raw, ⟨exchange, List.mem_singleton_self _, sent, accepted⟩,
      parsed⟩

theorem pn532PollFelica_records
    (systemCode : UInt16) (target : FelicaTarget) (found : Bool) :
    (pn532PollFelica systemCode target found).Records
      (fun history poll =>
        PollPost (FelicaSource history) target poll) := by
  refine Interaction.Records.bind (command_records _ _ (by simp)) ?_
  rintro _ (failure | raw) ⟨exchange, rfl, sent, accepted⟩
  · exact Or.inl ⟨missed_of_error, rfl⟩
  · refine (parseFelica_post target raw).mono ?_
    intro parsed
    exact ⟨systemCode, raw,
      ⟨exchange, List.mem_singleton_self _, sent, accepted⟩, parsed⟩

/-- Each target of a scan is the old one or comes from its exchanges. -/
def ScanSources (reader : ReaderState) (history : History)
    (result : EspResult ReaderCard × ReaderState) : Prop :=
  (result.2.activeMifare = reader.activeMifare ∨
      MifareSource history result.2.activeMifare) ∧
    (result.2.activeFelica = reader.activeFelica ∨
      FelicaSource history result.2.activeFelica)

theorem readTypeACard_sources (reader : ReaderState) (found : Bool) :
    (readTypeACard reader found).Records
      (fun history result =>
        (result.2.activeMifare = reader.activeMifare ∨
            MifareSource history result.2.activeMifare) ∧
          result.2.activeFelica = reader.activeFelica) := by
  unfold readTypeACard
  refine Interaction.Records.bind (pn532PollTypeA_records _ _) ?_
  intro earlier poll post
  have source := post.parsed
  cases poll.status with
  | error failure =>
      change (_ ∨ MifareSource (earlier ++ []) poll.target) ∧ _
      rw [List.append_nil]
      exact ⟨source, rfl⟩
  | ok completed =>
      dsimp only
      split
      · change (_ ∨ MifareSource (earlier ++ []) poll.target) ∧ _
        rw [List.append_nil]
        exact ⟨source, rfl⟩
      · refine Interaction.Records.bind
          (Interaction.Records.of_forall (fun _ _ => trivial)) ?_
        intro exchanges card _
        refine ⟨?_, rfl⟩
        refine source.imp_right ?_
        intro polled
        exact polled.mono (List.subset_append_left _ _)

theorem readerReadCard_sources (reader : ReaderState) :
    (readerReadCard reader).Records (ScanSources reader) := by
  unfold readerReadCard
  split
  · exact ⟨Or.inl rfl, Or.inl rfl⟩
  · refine Interaction.Records.bind (pn532PollFelica_records _ _ _) ?_
    intro earlier poll post
    have source := post.parsed
    have typeA : ∀ systemCode found,
        (readTypeACard
            { reader with
              activeFelica := poll.target
              felicaSystemCode := systemCode } found).Records
          (fun history result =>
            ScanSources reader (earlier ++ history) result) := by
      intro systemCode found
      refine (readTypeACard_sources _ _).mono ?_
      rintro history result ⟨mifare, felica⟩
      constructor
      · refine mifare.imp_right ?_
        intro polled
        exact polled.mono (List.subset_append_right _ _)
      · rw [felica]
        refine source.imp_right ?_
        intro polled
        exact polled.mono (List.subset_append_left _ _)
    cases poll.status with
    | error failure => exact typeA _ _
    | ok completed =>
        dsimp only
        split
        · change ScanSources reader (earlier ++ []) _
          rw [List.append_nil]
          exact ⟨Or.inl rfl, source⟩
        · exact typeA _ _

/-! ## What the other calls leave alone -/

/-- Targets, keys, key type and radio flag are as they were. -/
structure Untouched (before after : ReaderState) : Prop where
  mifare : after.activeMifare = before.activeMifare
  felica : after.activeFelica = before.activeFelica
  keys : after.mifareKeys = before.mifareKeys
  keyType : after.activeKeyType = before.activeKeyType
  radio : after.radioEnabled = before.radioEnabled

theorem Untouched.refl (reader : ReaderState) : Untouched reader reader :=
  ⟨rfl, rfl, rfl, rfl, rfl⟩

/-- Keys, key type and radio flag are as they were. -/
structure SettingsKept (before after : ReaderState) : Prop where
  keys : after.mifareKeys = before.mifareKeys
  keyType : after.activeKeyType = before.activeKeyType
  radio : after.radioEnabled = before.radioEnabled

/-- What every call but a scan guarantees. -/
structure CommandPost (reader : ReaderState)
    (result : EspResult Answer × ReaderState) : Prop where
  mifare : result.2.activeMifare = reader.activeMifare
  felica : result.2.activeFelica = reader.activeFelica
  systemCode : result.2.felicaSystemCode = reader.felicaSystemCode
  unreported : reportOf result.1 = none
  failed : ∀ failure, result.1 = .error failure → result.2 = reader

/-- A call which leaves all variables alone and reports no card. -/
theorem commandPost_of_same
    (reader : ReaderState) {outcome : EspResult Answer}
    (unreported : reportOf outcome = none) :
    CommandPost reader (outcome, reader) :=
  ⟨rfl, rfl, rfl, unreported, fun _ _ => rfl⟩

theorem reportOf_map_done (outcome : EspResult Unit) :
    reportOf (outcome.map (fun _ => .done)) = none := by
  cases outcome <;> rfl

theorem reportOf_map_data {α : Type} (outcome : EspResult α)
    (octets : α → List Byte) :
    reportOf (outcome.map (fun value => .data (octets value))) =
      none := by
  cases outcome <;> rfl

/-- A radio switch fails and changes nothing, or it sets the flag. -/
theorem readerRadioSet_always (reader : ReaderState) (enabled : Bool) :
    (readerRadioSet reader enabled).Always
      (fun result =>
        (∃ failure, result = (.error failure, reader)) ∨
          result = (.ok (), { reader with radioEnabled := enabled })) := by
  refine Interaction.Always.after ?_
  rintro (failure | _)
  · exact Or.inl ⟨failure, rfl⟩
  · exact Or.inr rfl

theorem program_commandPost
    (reader : ReaderState) {call : ReaderCall}
    (other : call ≠ .readCard) :
    (call.program reader).Always (CommandPost reader) := by
  cases call with
  | readCard => exact (other rfl).elim
  | mifareSelect uid =>
      exact commandPost_of_same reader (reportOf_map_done _)
  | mifareSetKey keyType key =>
      change CommandPost reader
        ((readerMifareSetKey reader keyType key).1.map (fun _ => .done),
          (readerMifareSetKey reader keyType key).2)
      unfold readerMifareSetKey
      split
      · exact @commandPost_of_same reader (.error .invalidArg) rfl
      · refine ⟨rfl, rfl, rfl, rfl, ?_⟩
        intro failure impossible
        cases impossible
  | mifareAuthenticate keyType =>
      change CommandPost reader
        ((readerMifareAuthenticate reader keyType).1.map (fun _ => .done),
          (readerMifareAuthenticate reader keyType).2)
      unfold readerMifareAuthenticate
      split
      · exact @commandPost_of_same reader (.error .invalidArg) rfl
      · refine ⟨rfl, rfl, rfl, rfl, ?_⟩
        intro failure impossible
        cases impossible
  | mifareReadBlock uid blockNumber =>
      refine Interaction.Always.after ?_
      intro outcome
      exact commandPost_of_same reader (reportOf_map_data outcome _)
  | felicaTransact request responseCapacity =>
      refine Interaction.Always.after ?_
      intro outcome
      exact commandPost_of_same reader (reportOf_map_data outcome id)
  | radioSet enabled =>
      refine Interaction.Always.bind (readerRadioSet_always _ _) ?_
      rintro ⟨outcome, next⟩ (⟨failure, same⟩ | same)
      · cases same
        exact @commandPost_of_same reader (.error failure) rfl
      · cases same
        refine ⟨rfl, rfl, rfl, rfl, ?_⟩
        intro failure impossible
        cases impossible

theorem ReaderStep.commandPost
    (step : ReaderStep) (reader : ReaderState)
    (other : step.call ≠ .readCard) :
    CommandPost reader (step.result reader) :=
  (program_commandPost reader other).run step.world

/-- A step is a scan, or one of the calls which send one command at most. -/
theorem ReaderStep.scan_or_command (step : ReaderStep) :
    (∃ world, step = ⟨.readCard, world⟩) ∨ step.call ≠ .readCard := by
  rcases step with ⟨call, world⟩
  by_cases scan : call = .readCard
  · exact Or.inl ⟨world, by rw [scan]⟩
  · exact Or.inr scan

/-- The result of a scan, as a step of a run. -/
theorem result_readCard (reader : ReaderState) (world : Pn532World) :
    ReaderStep.result ⟨.readCard, world⟩ reader =
      (((readerReadCard reader).run world).1.map .card,
        ((readerReadCard reader).run world).2) :=
  Interaction.run_bind_done world (readerReadCard reader)
    (fun result => (result.1.map Answer.card, result.2))

theorem reader_readCard (session : Session) (world : Pn532World) :
    (session.next ⟨.readCard, world⟩).reader =
      ((readerReadCard session.reader).run world).2 :=
  congrArg Prod.snd (result_readCard session.reader world)

theorem exchanges_readCard (reader : ReaderState) (world : Pn532World) :
    ReaderStep.exchanges ⟨.readCard, world⟩ reader =
      (readerReadCard reader).transcript world :=
  Interaction.transcript_bind_done world (readerReadCard reader)
    (fun result => (result.1.map Answer.card, result.2))

/-! ## Integrity of the targets -/

/--
Each target is the initial one or the parse of a single accepted poll response
of the history.
-/
structure TargetsIntact (history : History) (reader : ReaderState) :
    Prop where
  mifare : reader.activeMifare = readerInit.activeMifare ∨
    MifareSource history reader.activeMifare
  felica : reader.activeFelica = readerInit.activeFelica ∨
    FelicaSource history reader.activeFelica

theorem TargetsIntact.uidSize_le
    {history : History} {reader : ReaderState}
    (intact : TargetsIntact history reader) :
    reader.activeMifare.uidSize ≤ 10 := by
  rcases intact.mifare with initial | ⟨raw, -, parsed⟩
  · rw [initial]
    exact Nat.zero_le 10
  · exact parsed.bounded

/-- Step lemma: the sources of the targets are in the history. -/
theorem targetsIntact_next
    {session : Session}
    (intact : TargetsIntact session.history session.reader)
    (step : ReaderStep) :
    TargetsIntact (session.next step).history
      (session.next step).reader := by
  have grows := List.subset_append_left session.history
    (step.exchanges session.reader)
  have mifareKept :=
    intact.mifare.imp_right (fun source => source.mono grows)
  have felicaKept :=
    intact.felica.imp_right (fun source => source.mono grows)
  rcases step.scan_or_command with ⟨world, rfl⟩ | command
  · have newer := List.subset_append_right session.history
      (ReaderStep.exchanges ⟨.readCard, world⟩ session.reader)
    have sources := (readerReadCard_sources session.reader).run world
    rw [← exchanges_readCard, ScanSources, ← reader_readCard] at sources
    constructor
    · rcases sources.1 with same | source
      · rw [same]
        exact mifareKept
      · exact Or.inr (source.mono newer)
    · rcases sources.2 with same | source
      · rw [same]
        exact felicaKept
      · exact Or.inr (source.mono newer)
  · have post := step.commandPost session.reader command
    constructor
    · change _ ∨ MifareSource _ (step.result session.reader).2.activeMifare
      rw [← post.mifare] at mifareKept
      exact mifareKept
    · change _ ∨ FelicaSource _ (step.result session.reader).2.activeFelica
      rw [← post.felica] at felicaKept
      exact felicaKept

/-- Run lemma. -/
theorem targetsIntact_sessionAfter (steps : List ReaderStep) :
    TargetsIntact (sessionAfter steps).history
      (sessionAfter steps).reader := by
  induction steps using List.reverseRecOn with
  | nil => exact ⟨Or.inl rfl, Or.inl rfl⟩
  | append_singleton steps step intact =>
      rw [sessionAfter_concat]
      exact targetsIntact_next intact step

/-- What a failure leaves alone, of a whole call or of a poll in a scan. -/
structure FailureFrame (reader : ReaderState) (step : ReaderStep) :
    Prop where
  failed : ∀ failure, (step.result reader).1 = .error failure →
    Untouched reader (step.result reader).2
  felicaMissed : step.call = .readCard →
    Missed (felicaPoll reader step.world) →
      (step.result reader).2.activeFelica = reader.activeFelica ∧
        SettingsKept reader (step.result reader).2
  typeAMissed : step.call = .readCard →
    Missed (typeAPoll reader step.world) →
      (step.result reader).2.activeMifare = reader.activeMifare ∧
        SettingsKept reader (step.result reader).2
  empty : step.call = .readCard →
    Missed (felicaPoll reader step.world) →
    Missed (typeAPoll reader step.world) →
      Untouched reader (step.result reader).2

theorem felicaPoll_target
    {reader : ReaderState} {world : Pn532World}
    (missed : Missed (felicaPoll reader world)) :
    (felicaPoll reader world).target = reader.activeFelica :=
  PollPost.target_eq ((pn532PollFelica_records _ _ _).run world) missed

theorem typeAPoll_target
    {reader : ReaderState} {world : Pn532World}
    (missed : Missed (typeAPoll reader world)) :
    (typeAPoll reader world).target = reader.activeMifare :=
  PollPost.target_eq ((pn532PollTypeA_records _ _).run world.later) missed

theorem FelicaMissed.missed
    {reader : ReaderState} {world : Pn532World}
    (missed : FelicaMissed reader world) :
    Missed (felicaPoll reader world) := by
  cases status : (felicaPoll reader world).status with
  | error failure => exact Or.inl ⟨failure, status⟩
  | ok completed => exact Or.inr (missed status)

/-- A scan changes a target only if the poll for it found one. -/
theorem ScanOutcome.frame
    {reader next : ReaderState} {world : Pn532World}
    {result : EspResult ReaderCard}
    (outcome : ScanOutcome reader world result next) :
    (Missed (felicaPoll reader world) →
        next.activeFelica = reader.activeFelica) ∧
      (Missed (typeAPoll reader world) →
        next.activeMifare = reader.activeMifare) ∧
      next.mifareKeys = reader.mifareKeys ∧
      next.activeKeyType = reader.activeKeyType ∧
      next.radioEnabled = reader.radioEnabled := by
  cases outcome with
  | off disabled => exact ⟨fun _ => rfl, fun _ => rfl, rfl, rfl, rfl⟩
  | felica enabled completed found =>
      exact ⟨felicaPoll_target, fun _ => rfl, rfl, rfl, rfl⟩
  | failed enabled missed broken =>
      exact ⟨felicaPoll_target, typeAPoll_target, rfl, rfl, rfl⟩
  | unusable enabled missed completed empty =>
      exact ⟨felicaPoll_target, typeAPoll_target, rfl, rfl, rfl⟩
  | mifare enabled missed completed usable type uid =>
      exact ⟨felicaPoll_target, typeAPoll_target, rfl, rfl, rfl⟩

/-- A failed scan changes at most the system code. -/
theorem ScanOutcome.untouched_of_error
    {reader next : ReaderState} {world : Pn532World} {failure : EspErr}
    (outcome : ScanOutcome reader world (.error failure) next) :
    Untouched reader next := by
  rcases outcome.frame with ⟨felica, mifare, keys, keyType, radio⟩
  cases outcome with
  | failed enabled missed broken =>
      exact ⟨mifare (Or.inl ⟨failure, broken⟩), felica missed.missed,
        keys, keyType, radio⟩

theorem failureFrame (reader : ReaderState) (step : ReaderStep) :
    FailureFrame reader step := by
  rcases step.scan_or_command with ⟨world, rfl⟩ | command
  · have outcome := readerReadCard_outcome reader world
    rcases outcome.frame with ⟨felica, mifare, keys, keyType, radio⟩
    rw [show ((readerReadCard reader).run world).2 =
        (ReaderStep.result ⟨.readCard, world⟩ reader).2 by
      rw [result_readCard]] at outcome felica mifare keys keyType radio
    constructor
    · intro failure failed
      rw [result_readCard] at failed
      cases observed : ((readerReadCard reader).run world).1 with
      | ok card =>
          rw [observed] at failed
          cases failed
      | error reason =>
          rw [observed] at outcome
          exact outcome.untouched_of_error
    · exact fun _ missed => ⟨felica missed, keys, keyType, radio⟩
    · exact fun _ missed => ⟨mifare missed, keys, keyType, radio⟩
    · intro _ felicaMissed typeAMissed
      exact ⟨mifare typeAMissed, felica felicaMissed, keys, keyType,
        radio⟩
  · have post := step.commandPost reader command
    constructor
    · intro failure failed
      rw [post.failed failure failed]
      exact .refl reader
    · exact fun same => (command same).elim
    · exact fun same => (command same).elim
    · exact fun same => (command same).elim

/--
After every run each target is the initial one or the parse of one accepted
poll response, its UID has at most ten octets, and no failure of the next step
touches targets, keys, key type or radio flag.
-/
theorem active_targets_intact (steps : List ReaderStep) :
    TargetsIntact (sessionAfter steps).history
        (sessionAfter steps).reader ∧
      (sessionAfter steps).reader.activeMifare.uidSize ≤ 10 ∧
      ∀ step, FailureFrame (sessionAfter steps).reader step :=
  ⟨targetsIntact_sessionAfter steps,
    (targetsIntact_sessionAfter steps).uidSize_le,
    failureFrame (sessionAfter steps).reader⟩

/-! ## The card which `SELECT` knows -/

/-- The last successful scan reported a MIFARE card with this UID. -/
def ReportedMifare (session : Session) (uid : Vector Byte 4) : Prop :=
  ∃ card, session.reported = some card ∧ card.type = .mifare ∧
    card.mifareUid = uid

/-- `SELECT` succeeds for the MIFARE card reported last, and only for it. -/
structure Reflects (session : Session) : Prop where
  accepted : ∀ uid,
    readerMifareSelect session.reader uid = .ok () ↔
      ReportedMifare session uid
  refused : ∀ uid, ¬ ReportedMifare session uid →
    readerMifareSelect session.reader uid = .error .notFound

/-- The scan completes without finding a Type A target. -/
def NoTypeA (reader : ReaderState) (world : Pn532World) : Prop :=
  reader.radioEnabled = false ∨
    ((felicaPoll reader world).status = .ok () ∧
      (felicaPoll reader world).found = true) ∨
    ((typeAPoll reader world).status = .ok () ∧
      (typeAPoll reader world).found = false)

/-- Such a scan is made while a target with a UID of four octets is stored. -/
structure Stale (reader : ReaderState) (step : ReaderStep) : Prop where
  scan : step.call = .readCard
  stored : reader.activeMifare.uidSize = 4
  noTypeA : NoTypeA reader step.world

theorem readerMifareSelect_eq
    (reader : ReaderState) (uid : Vector Byte 4) :
    (readerMifareSelect reader uid = .ok () ↔
        reader.activeMifare.uidSize = 4 ∧
          uidPrefix reader.activeMifare = uid) ∧
      (readerMifareSelect reader uid ≠ .ok () →
        readerMifareSelect reader uid = .error .notFound) := by
  unfold readerMifareSelect
  split
  · rename_i different
    constructor
    · refine iff_of_false (by simp) ?_
      rintro ⟨size, same⟩
      rcases different with otherSize | otherUid
      · exact otherSize size
      · exact otherUid same
    · exact fun _ => rfl
  · rename_i same
    rw [not_or, not_not, not_not] at same
    exact ⟨iff_of_true rfl same, fun failed => (failed rfl).elim⟩

theorem reflects_iff_stored (session : Session) :
    Reflects session ↔
      ∀ uid, (session.reader.activeMifare.uidSize = 4 ∧
          uidPrefix session.reader.activeMifare = uid) ↔
        ReportedMifare session uid := by
  constructor
  · intro reflects uid
    rw [← (readerMifareSelect_eq session.reader uid).1]
    exact reflects.accepted uid
  · intro agrees
    have accepted : ∀ uid,
        readerMifareSelect session.reader uid = .ok () ↔
          ReportedMifare session uid := by
      intro uid
      rw [(readerMifareSelect_eq session.reader uid).1]
      exact agrees uid
    refine ⟨accepted, ?_⟩
    intro uid unreported
    apply (readerMifareSelect_eq session.reader uid).2
    intro success
    exact unreported ((accepted uid).mp success)

/-- A session which stores no UID of four octets and reported no MIFARE. -/
theorem reflects_of_unusable
    {session : Session} {card : ReaderCard}
    (unusable : session.reader.activeMifare.uidSize ≠ 4)
    (reported : session.reported = some card)
    (other : card.type ≠ .mifare) :
    Reflects session := by
  apply (reflects_iff_stored session).mpr
  intro uid
  refine iff_of_false (fun stored => unusable stored.1) ?_
  rintro ⟨found, same, type, -⟩
  rw [reported] at same
  cases same
  exact other type

/-- A session which stores such a UID and reported no MIFARE. -/
theorem not_reflects_of_stored
    {session : Session} {card : ReaderCard}
    (stored : session.reader.activeMifare.uidSize = 4)
    (reported : session.reported = some card)
    (other : card.type ≠ .mifare) :
    ¬ Reflects session := by
  intro reflects
  rcases
      ((reflects_iff_stored session).mp reflects _).mp ⟨stored, rfl⟩ with
    ⟨found, same, type, -⟩
  rw [reported] at same
  cases same
  exact other type

/-- Neither the stored target nor the report has changed. -/
theorem reflects_congr
    {session next : Session}
    (target : next.reader.activeMifare = session.reader.activeMifare)
    (report : next.reported = session.reported)
    (reflects : Reflects session) : Reflects next := by
  have agrees := (reflects_iff_stored session).mp reflects
  apply (reflects_iff_stored next).mpr
  intro uid
  rw [target, agrees uid, ReportedMifare, ReportedMifare, report]

theorem reported_readCard
    (session : Session) (world : Pn532World) {card : ReaderCard}
    (observed :
      ((readerReadCard session.reader).run world).1 = .ok card) :
    (session.next ⟨.readCard, world⟩).reported = some card := by
  rw [Session.next, result_readCard, observed]
  rfl

theorem reported_of_error
    (session : Session) (world : Pn532World) {failure : EspErr}
    (failed :
      ((readerReadCard session.reader).run world).1 = .error failure) :
    (session.next ⟨.readCard, world⟩).reported = session.reported := by
  rw [Session.next, result_readCard, failed]
  rfl

/-- A scan which reaches its Type A poll goes by that poll. -/
theorem noTypeA_iff_of_missed
    {reader : ReaderState} {world : Pn532World}
    (enabled : reader.radioEnabled = true)
    (missed : FelicaMissed reader world) :
    NoTypeA reader world ↔
      (typeAPoll reader world).status = .ok () ∧
        (typeAPoll reader world).found = false := by
  constructor
  · rintro (disabled | ⟨completed, found⟩ | absent)
    · rw [enabled] at disabled
      cases disabled
    · rw [missed completed] at found
      cases found
    · exact absent
  · exact fun absent => Or.inr (Or.inr absent)

/-- Such a poll leaves nothing stale unless it completes without a target. -/
theorem not_stale_of_missed
    {reader : ReaderState} {world : Pn532World}
    (enabled : reader.radioEnabled = true)
    (missed : FelicaMissed reader world)
    (present : ¬ ((typeAPoll reader world).status = .ok () ∧
      (typeAPoll reader world).found = false)) :
    ¬ Stale reader ⟨.readCard, world⟩ := by
  intro stale
  exact present ((noTypeA_iff_of_missed enabled missed).mp stale.noTypeA)

/--
Where no Type A target was found, the size of the stored UID decides: the report
is no MIFARE card, and the stored target is the one from before.
-/
theorem reflects_noTypeA_iff
    {session : Session} {world : Pn532World} {card : ReaderCard}
    (reported :
      (session.next ⟨.readCard, world⟩).reported = some card)
    (other : card.type ≠ .mifare)
    (kept :
      (session.next ⟨.readCard, world⟩).reader.activeMifare =
        session.reader.activeMifare)
    (noTypeA : NoTypeA session.reader world) :
    Reflects (session.next ⟨.readCard, world⟩) ↔
      ¬ Stale session.reader ⟨.readCard, world⟩ := by
  by_cases stored : session.reader.activeMifare.uidSize = 4
  · refine iff_of_false ?_ (not_not.mpr ⟨rfl, stored, noTypeA⟩)
    rw [← kept] at stored
    exact not_reflects_of_stored stored reported other
  · refine iff_of_true ?_ (fun stale => stored stale.stored)
    rw [← kept] at stored
    exact reflects_of_unusable stored reported other

/-- A scan keeps the agreement exactly when it does not leave it stale. -/
theorem reflects_scan_iff
    {session : Session} (reflects : Reflects session)
    (world : Pn532World) :
    Reflects (session.next ⟨.readCard, world⟩) ↔
      ¬ Stale session.reader ⟨.readCard, world⟩ := by
  have outcome := readerReadCard_outcome session.reader world
  have reader := reader_readCard session world
  have reported := @reported_readCard session world
  have unreported := @reported_of_error session world
  generalize ((readerReadCard session.reader).run world).1 = result
    at outcome reported unreported
  generalize ((readerReadCard session.reader).run world).2 = next
    at outcome reader
  cases outcome with
  | off disabled =>
      apply reflects_noTypeA_iff (reported rfl) (by decide)
      · rw [reader]
      · exact Or.inl disabled
  | felica enabled completed found =>
      apply reflects_noTypeA_iff (reported rfl) (by simp)
      · rw [reader]
      · exact Or.inr (Or.inl ⟨completed, found⟩)
  | failed enabled missed broken =>
      refine iff_of_true ?_ (not_stale_of_missed enabled missed ?_)
      · refine reflects_congr ?_ (unreported rfl) reflects
        rw [reader]
        exact typeAPoll_target (Or.inl ⟨_, broken⟩)
      · rintro ⟨completed, -⟩
        rw [broken] at completed
        cases completed
  | unusable enabled missed completed empty =>
      cases found : (typeAPoll session.reader world).found with
      | false =>
          apply reflects_noTypeA_iff (reported rfl) (by decide)
          · rw [reader]
            exact typeAPoll_target (Or.inr found)
          · exact (noTypeA_iff_of_missed enabled missed).mpr
              ⟨completed, found⟩
      | true =>
          refine iff_of_true ?_ (not_stale_of_missed enabled missed ?_)
          · refine reflects_of_unusable ?_ (reported rfl) (by decide)
            rw [reader]
            rcases empty with absent | size
            · rw [found] at absent
              cases absent
            · exact size
          · rintro ⟨-, absent⟩
            rw [found] at absent
            cases absent
  | mifare enabled missed completed usable type uid =>
      rw [Unusable, not_or, not_not] at usable
      refine iff_of_true ?_ (not_stale_of_missed enabled missed ?_)
      · apply (reflects_iff_stored _).mpr
        intro other
        rw [reader]
        constructor
        · rintro ⟨-, rfl⟩
          exact ⟨_, reported rfl, type, uid⟩
        · rintro ⟨found, same, -, rfl⟩
          rw [reported rfl] at same
          cases same
          exact ⟨usable.2, uid.symm⟩
      · exact fun absent => usable.1 absent.2

/-- Step lemma: the agreement is lost exactly in a stale step. -/
theorem reflects_next_iff
    {session : Session} (reflects : Reflects session)
    (step : ReaderStep) :
    Reflects (session.next step) ↔ ¬ Stale session.reader step := by
  rcases step.scan_or_command with ⟨world, rfl⟩ | command
  · exact reflects_scan_iff reflects world
  · have post := step.commandPost session.reader command
    refine iff_of_true ?_ (fun stale => command stale.scan)
    refine reflects_congr post.mifare ?_ reflects
    rw [Session.next, post.unreported]
    rfl

theorem reflects_start : Reflects sessionStart := by
  apply (reflects_iff_stored _).mpr
  intro uid
  refine iff_of_false ?_ ?_
  · rintro ⟨size, -⟩
    cases size
  · rintro ⟨card, impossible, -⟩
    cases impossible

/--
`SELECT` reflects the last report throughout a run exactly when no scan of the
run completes without a Type A target while a UID of four octets is stored.
-/
theorem select_reflects_iff (steps : List ReaderStep) :
    (∀ earlier, earlier <+: steps → Reflects (sessionAfter earlier)) ↔
      ∀ earlier step, earlier ++ [step] <+: steps →
        ¬ Stale (sessionAfter earlier).reader step := by
  constructor
  · intro reflects earlier step within
    have before := reflects earlier
      ((List.prefix_append earlier [step]).trans within)
    have after := reflects (earlier ++ [step]) within
    rw [sessionAfter_concat] at after
    exact (reflects_next_iff before step).mp after
  · intro fresh earlier
    induction earlier using List.reverseRecOn with
    | nil => exact fun _ => reflects_start
    | append_singleton earlier step induction =>
        intro within
        rw [sessionAfter_concat]
        have before := induction
          ((List.prefix_append earlier [step]).trans within)
        exact (reflects_next_iff before step).mpr
          (fresh earlier step within)

/-- A MIFARE tag is scanned, taken away, and the empty field is scanned. -/
def removedTag : List ReaderStep :=
  [⟨.readCard, typeAWorld (load 4 [1, 2, 3, 4] 0) none⟩,
    ⟨.readCard, emptyWorld⟩]

/-- The last scan reported no card, but the tag can still be selected. -/
theorem removedTag_selected :
    (sessionAfter removedTag).reported = some ReaderCard.zero ∧
      readerMifareSelect (sessionAfter removedTag).reader #v[1, 2, 3, 4] =
        .ok () ∧
      ¬ ∀ steps, Reflects (sessionAfter steps) := by
  have reported :
      (sessionAfter removedTag).reported = some ReaderCard.zero := by
    decide +kernel
  have selected :
      readerMifareSelect (sessionAfter removedTag).reader #v[1, 2, 3, 4] =
        .ok () := by
    decide +kernel
  refine ⟨reported, selected, ?_⟩
  intro reflects
  rcases ((reflects removedTag).accepted _).mp selected with
    ⟨card, same, type, -⟩
  rw [reported] at same
  cases same
  cases type

end Pareader.Firmware.ReaderRuns
