import Pareader.Firmware.DriverBounds
import Pareader.Firmware.SegaSessions

/-!
# MIFARE keys in a SEGA session

`reader.c` keeps one key of either kind and the kind which the host chose last.
Requests and scans write and use these variables in any order.  The keys which
a session has set are a function of its events alone, and the reader always
holds exactly these.

The exchanges of a `READ_BLOCK` and of a scan are then given in terms of the
events: which authentication is sent first, and what is sent only after it.  The
key table itself is accessed by programs which fault outside of it.
-/

namespace Pareader.Firmware.MifareKeys

open Pareader.Core
open Pareader.Core.Guarded
open Pareader.Firmware.Pn532
open Pareader.Firmware.Pn532Codec
open Pareader.Firmware.Reader
open Pareader.Firmware.DriverBounds
open Pareader.Firmware.SegaFraming
open Pareader.Firmware.SegaDispatch
open Pareader.Firmware.Scan
open Pareader.Firmware.ReaderRuns
open Pareader.Firmware.SegaSessions

/-! ## What a session has set -/

/-- The two kinds of keys. -/
inductive KeyKind where
  | aime
  | bana
deriving DecidableEq, Repr

/-- The index of a kind in `mifare_keys`. -/
def KeyKind.code : KeyKind → Byte
  | .aime => readerKeyAime
  | .bana => readerKeyBana

/-- The authentication command of a kind. -/
def KeyKind.authCommand : KeyKind → Byte
  | .aime => 0x61
  | .bana => 0x60

/-- The built-in key of a kind. -/
def KeyKind.defaultKey : KeyKind → Vector Byte 6
  | .aime => defaultAimeKey
  | .bana => defaultBanaKey

def KeyKind.setKey : KeyKind → SgNfc
  | .aime => .mifareSetKeyAime
  | .bana => .mifareSetKeyBana

/-- An accepted request with a command at the NFC address. -/
def IsNfc (request : List Byte) (command : SgNfc) : Prop :=
  byteAt request 1 = sgAddressNfc ∧ byteAt request 3 = command.code

instance (request : List Byte) (command : SgNfc) :
    Decidable (IsNfc request command) :=
  inferInstanceAs (Decidable (_ ∧ _))

/-- The key which an event sets; a request of another size is rejected. -/
def keySet (kind : KeyKind) : SegaEvent → Option (Vector Byte 6)
  | .request framed _ =>
      if IsNfc framed.1 kind.setKey ∧
          (requestPayload framed.1).length = 6 then
        some (load 6 (requestPayload framed.1) 0)
      else
        none
  | .scan _ => none

/-- The kind which an event chooses. -/
def kindChosen : SegaEvent → Option KeyKind
  | .request framed _ =>
      if IsNfc framed.1 .mifareAuthenticateAime then some .aime
      else if IsNfc framed.1 .mifareAuthenticateBana then some .bana
      else none
  | .scan _ => none

/-- The key of a kind which was set last, the built-in one if none was. -/
def lastKey (kind : KeyKind) (events : List SegaEvent) : Vector Byte 6 :=
  (events.filterMap (keySet kind)).getLastD kind.defaultKey

/-- The kind which was chosen last, AIME if none was. -/
def lastKind (events : List SegaEvent) : KeyKind :=
  (events.filterMap kindChosen).getLastD .aime

/-! ## The calls behind the requests -/

/-- The key which a call sets. -/
def callKey (kind : KeyKind) : ReaderCall → Option (Vector Byte 6)
  | .mifareSetKey keyType key =>
      if keyType = kind.code then some key else none
  | _ => none

/-- The kind which a call chooses. -/
def callKind : ReaderCall → Option KeyKind
  | .mifareAuthenticate keyType =>
      if keyType = readerKeyAime then some .aime
      else if keyType = readerKeyBana then some .bana
      else none
  | _ => none

/-- A framed request at the NFC address makes the call of its command. -/
theorem requestCall_eq
    {request : List Byte} (accepted : Accepted request) :
    requestCall request =
      if byteAt request 1 = sgAddressNfc then
        (SgNfc.ofCode (byteAt request 3)).bind
          (nfcCall (requestPayload request))
      else
        none := by
  unfold requestCall
  by_cases nfc : byteAt request 1 = sgAddressNfc
  · rw [if_pos ⟨accepted, nfc⟩, if_pos nfc]
  · rw [if_neg nfc, if_neg (fun both => nfc both.2)]

theorem requestCall_of_isNfc
    {request : List Byte} {command : SgNfc} (accepted : Accepted request)
    (nfc : IsNfc request command) :
    requestCall request = nfcCall (requestPayload request) command := by
  rw [requestCall_eq accepted, if_pos nfc.1, nfc.2, SgNfc.ofCode_code]
  rfl

/-- Either the request is an NFC command, or it makes no call. -/
theorem isNfc_or_silent
    {request : List Byte} (accepted : Accepted request) :
    (∃ command, IsNfc request command) ∨
      (requestCall request = none ∧ ∀ command, ¬ IsNfc request command) := by
  by_cases nfc : byteAt request 1 = sgAddressNfc
  · cases known : SgNfc.ofCode (byteAt request 3) with
    | none =>
        refine Or.inr ⟨?_, ?_⟩
        · rw [requestCall_eq accepted, if_pos nfc, known]
          rfl
        · intro command same
          rw [same.2, SgNfc.ofCode_code] at known
          cases known
    | some command =>
        exact Or.inl ⟨command, nfc, SgNfc.code_of_ofCode known⟩
  · refine Or.inr ⟨?_, fun command same => nfc same.1⟩
    rw [requestCall_eq accepted, if_neg nfc]

/-- A request is at most one command. -/
theorem isNfc_iff_eq
    {request : List Byte} {command : SgNfc} (nfc : IsNfc request command)
    (other : SgNfc) :
    IsNfc request other ↔ command = other := by
  constructor
  · intro same
    have code := SgNfc.ofCode_code command
    rw [← nfc.2, same.2, SgNfc.ofCode_code] at code
    exact (Option.some.inj code).symm
  · rintro rfl
    exact nfc

theorem callKey_nfcCall
    (kind : KeyKind) (payload : List Byte) (command : SgNfc) :
    (nfcCall payload command).bind (callKey kind) =
      if command = kind.setKey ∧ payload.length = 6 then
        some (load 6 payload 0)
      else
        none := by
  cases command with
  | mifareSetKeyAime =>
      by_cases size : payload.length = 6 <;> cases kind <;>
        simp [nfcCall, callKey, KeyKind.setKey, KeyKind.code,
          readerKeyAime, readerKeyBana, size]
  | mifareSetKeyBana =>
      by_cases size : payload.length = 6 <;> cases kind <;>
        simp [nfcCall, callKey, KeyKind.setKey, KeyKind.code,
          readerKeyAime, readerKeyBana, size]
  | mifareSelectTag =>
      by_cases size : payload.length = 4 <;> cases kind <;>
        simp [nfcCall, callKey, KeyKind.setKey, size]
  | mifareReadBlock =>
      by_cases size : payload.length = 5 <;> cases kind <;>
        simp [nfcCall, callKey, KeyKind.setKey, size]
  | felicaEncap =>
      cases sized : felicaRequest payload <;> cases kind <;>
        simp [nfcCall, callKey, KeyKind.setKey, sized]
  | _ =>
      cases kind <;> simp [nfcCall, callKey, KeyKind.setKey]

theorem callKind_nfcCall (payload : List Byte) (command : SgNfc) :
    (nfcCall payload command).bind callKind =
      if command = .mifareAuthenticateAime then some .aime
      else if command = .mifareAuthenticateBana then some .bana
      else none := by
  cases command with
  | mifareSetKeyAime =>
      by_cases size : payload.length = 6 <;>
        simp [nfcCall, callKind, size]
  | mifareSetKeyBana =>
      by_cases size : payload.length = 6 <;>
        simp [nfcCall, callKind, size]
  | mifareSelectTag =>
      by_cases size : payload.length = 4 <;>
        simp [nfcCall, callKind, size]
  | mifareReadBlock =>
      by_cases size : payload.length = 5 <;>
        simp [nfcCall, callKind, size]
  | felicaEncap =>
      cases sized : felicaRequest payload <;>
        simp [nfcCall, callKind, sized]
  | mifareAuthenticateBana =>
      simp [nfcCall, callKind, readerKeyAime, readerKeyBana]
  | _ => simp [nfcCall, callKind]

/-- The key which an event sets is the one which its call sets. -/
theorem keySet_eq (kind : KeyKind) (event : SegaEvent) :
    keySet kind event = event.call.bind (callKey kind) := by
  cases event with
  | scan world => rfl
  | request framed world =>
      rcases framed with ⟨request, accepted⟩
      simp only [keySet, SegaEvent.call]
      rcases isNfc_or_silent accepted with
        ⟨command, nfc⟩ | ⟨silent, other⟩
      · rw [requestCall_of_isNfc accepted nfc, callKey_nfcCall]
        simp only [isNfc_iff_eq nfc]
      · rw [silent, if_neg (fun both => other _ both.1)]
        rfl

/-- The kind which an event chooses is the one which its call chooses. -/
theorem kindChosen_eq (event : SegaEvent) :
    kindChosen event = event.call.bind callKind := by
  cases event with
  | scan world => rfl
  | request framed world =>
      rcases framed with ⟨request, accepted⟩
      simp only [kindChosen, SegaEvent.call]
      rcases isNfc_or_silent accepted with
        ⟨command, nfc⟩ | ⟨silent, other⟩
      · rw [requestCall_of_isNfc accepted nfc, callKind_nfcCall]
        simp only [isNfc_iff_eq nfc]
      · rw [silent, if_neg (other _), if_neg (other _)]
        rfl

/-! ## The keys which the reader holds -/

/-- The effect of a result on the keys and the chosen kind. -/
structure KeyEffect (reader next : ReaderState) (call : ReaderCall) :
    Prop where
  key : ∀ kind : KeyKind, next.mifareKey kind.code =
    (callKey kind call).getD (reader.mifareKey kind.code)
  keyType : next.activeKeyType =
    ((callKind call).map KeyKind.code).getD reader.activeKeyType

theorem keyEffect_of_same
    {reader next : ReaderState} {call : ReaderCall}
    (keys : next.mifareKeys = reader.mifareKeys)
    (keyType : next.activeKeyType = reader.activeKeyType)
    (noKey : ∀ kind, callKey kind call = none)
    (noKind : callKind call = none) :
    KeyEffect reader next call where
  key kind := by
    rw [noKey, ReaderState.mifareKey, keys]
    rfl
  keyType := by
    rw [noKind]
    exact keyType

theorem keyEffect_setKey
    (reader : ReaderState) (keyType : Byte) (key : Vector Byte 6) :
    KeyEffect reader (readerMifareSetKey reader keyType key).2
      (.mifareSetKey keyType key) := by
  unfold readerMifareSetKey
  split
  · rename_i beyond
    constructor
    · intro kind
      have different : keyType ≠ kind.code := by
        rintro rfl
        cases kind
        · exact absurd beyond (by decide)
        · exact absurd beyond (by decide)
      rw [callKey, if_neg different]
      rfl
    · rfl
  · rename_i within
    constructor
    · intro kind
      have bound : keyType.toNat < 2 := by
        have limit := UInt8.le_iff_toNat_le.mp (UInt8.not_lt.mp within)
        change keyType.toNat ≤ 1 at limit
        omega
      simp only [ReaderState.mifareKey, callKey,
        Vector.toList_setIfInBounds, List.getD_eq_getElem?_getD,
        List.getElem?_set]
      split
      · rename_i same
        rw [if_pos (UInt8.toNat_inj.mp same)]
        simp [bound]
      · rename_i different
        rw [if_neg (fun same => different (congrArg UInt8.toNat same))]
        rfl
    · rfl

theorem keyEffect_authenticate (reader : ReaderState) (keyType : Byte) :
    KeyEffect reader (readerMifareAuthenticate reader keyType).2
      (.mifareAuthenticate keyType) := by
  refine ⟨?_, ?_⟩
  · intro kind
    unfold readerMifareAuthenticate
    split <;> rfl
  · unfold readerMifareAuthenticate
    split
    · rename_i beyond
      have other : keyType ≠ readerKeyAime ∧ keyType ≠ readerKeyBana := by
        constructor
        · rintro rfl
          exact absurd beyond (by decide)
        · rintro rfl
          exact absurd beyond (by decide)
      rw [callKind, if_neg other.1, if_neg other.2]
      rfl
    · rename_i within
      have limit := UInt8.le_iff_toNat_le.mp (UInt8.not_lt.mp within)
      change keyType.toNat ≤ 1 at limit
      rcases Nat.le_one_iff_eq_zero_or_eq_one.mp limit with zero | one
      · have aime : keyType = readerKeyAime := UInt8.toNat_inj.mp zero
        rw [aime]
        rfl
      · have bana : keyType = readerKeyBana := UInt8.toNat_inj.mp one
        rw [bana]
        rfl

theorem program_keyEffect (reader : ReaderState) (call : ReaderCall)
    (other : call ≠ .readCard) :
    (call.program reader).Always
      (fun result => KeyEffect reader result.2 call) := by
  cases call with
  | readCard => exact (other rfl).elim
  | mifareSelect uid =>
      exact keyEffect_of_same rfl rfl (fun _ => rfl) rfl
  | mifareSetKey keyType key => exact keyEffect_setKey reader keyType key
  | mifareAuthenticate keyType =>
      exact keyEffect_authenticate reader keyType
  | mifareReadBlock uid blockNumber =>
      refine Interaction.Always.after ?_
      intro outcome
      exact keyEffect_of_same rfl rfl (fun _ => rfl) rfl
  | felicaTransact request responseCapacity =>
      refine Interaction.Always.after ?_
      intro outcome
      exact keyEffect_of_same rfl rfl (fun _ => rfl) rfl
  | radioSet enabled =>
      refine Interaction.Always.bind (readerRadioSet_always _ _) ?_
      rintro _ (⟨failure, rfl⟩ | rfl)
      · exact keyEffect_of_same rfl rfl (fun _ => rfl) rfl
      · exact keyEffect_of_same rfl rfl (fun _ => rfl) rfl

/-- Every call changes the keys as it says. -/
theorem keyEffect_result (step : ReaderStep) (reader : ReaderState) :
    KeyEffect reader (step.result reader).2 step.call := by
  rcases step.scan_or_command with ⟨world, rfl⟩ | command
  · rw [result_readCard]
    rcases (readerReadCard_outcome reader world).frame with
      ⟨-, -, keys, keyType, -⟩
    exact keyEffect_of_same keys keyType (fun _ => rfl) rfl
  · exact (program_keyEffect reader step.call command).run step.world

/-- Step lemma: an event changes the keys as its request says. -/
theorem keys_next (reader : ReaderState) (event : SegaEvent) :
    (∀ kind : KeyKind, (event.next reader).mifareKey kind.code =
        ((keySet kind event).map id).getD (reader.mifareKey kind.code)) ∧
      (event.next reader).activeKeyType =
        ((kindChosen event).map KeyKind.code).getD
          reader.activeKeyType := by
  cases called : event.call with
  | none =>
      have silent : event.step = none := by
        rw [SegaEvent.step, called]
        rfl
      rw [SegaEvent.next_of_no_step silent, kindChosen_eq, called]
      refine ⟨?_, rfl⟩
      intro kind
      rw [keySet_eq, called]
      rfl
  | some call =>
      have made : event.step = some ⟨call, event.world⟩ := by
        rw [SegaEvent.step, called]
        rfl
      have effect := keyEffect_result ⟨call, event.world⟩ reader
      rw [SegaEvent.next_of_step made, kindChosen_eq, called]
      refine ⟨?_, effect.keyType⟩
      intro kind
      rw [keySet_eq, called, Option.map_id]
      exact effect.key kind

/-- Run lemma: the reader holds the keys which the session has set. -/
theorem mifareKey_readerAfter (kind : KeyKind) (events : List SegaEvent) :
    (readerAfter events).mifareKey kind.code = lastKey kind events := by
  refine foldl_register
    (fun reader : ReaderState => reader.mifareKey kind.code)
    (keySet kind) id ?_ events ?_
  · intro reader event
    exact (keys_next reader event).1 kind
  · cases kind <;> rfl

theorem activeKeyType_readerAfter (events : List SegaEvent) :
    (readerAfter events).activeKeyType = (lastKind events).code := by
  refine foldl_register ReaderState.activeKeyType kindChosen KeyKind.code
    ?_ events rfl
  intro reader event
  exact (keys_next reader event).2

/-! ## Exchanges -/

/-- An exchange sends the data-exchange frame with this payload. -/
def Sends (exchange : List Byte × Exchange) (payload : List Byte) : Prop :=
  IsFrame pn532HostToPn532 pn532CommandInDataExchange payload exchange.1

/-- An exchange is an authentication with this outcome. -/
structure Authenticates
    (exchange : List Byte × Exchange) (target : Byte) (kind : KeyKind)
    (block : Byte) (key : Vector Byte 6) (uid : Vector Byte 4)
    (outcome : EspResult Unit) : Prop where
  sent : Sends exchange
    ([target, kind.authCommand, block] ++ key.toList ++ uid.toList)
  returned :
    (pn532MifareAuthenticate target kind.authCommand block key
      uid).RunsIn exchange outcome

/-- An exchange is a read of a block with this outcome. -/
structure ReadsBlock
    (exchange : List Byte × Exchange) (target block : Byte)
    (outcome : EspResult (Vector Byte 16)) : Prop where
  sent : Sends exchange [target, 0x30, block]
  returned : (pn532MifareReadBlock target block).RunsIn exchange outcome

theorem authenticate_records
    (target : Byte) (kind : KeyKind) (block : Byte)
    (key : Vector Byte 6) (uid : Vector Byte 4) :
    (pn532MifareAuthenticate target kind.authCommand block key
        uid).Records
      (fun history outcome =>
        ∃ exchange, history = [exchange] ∧
          Authenticates exchange target kind block key uid outcome) := by
  refine (pn532MifareAuthenticate_single _ _ _ _ _).records.mono ?_
  rintro history outcome ⟨exchange, same, ran⟩
  exact ⟨exchange, same, sent_of_runsIn (by simp) ran, ran⟩

theorem readBlock_records (target block : Byte) :
    (pn532MifareReadBlock target block).Records
      (fun history outcome =>
        ∃ exchange, history = [exchange] ∧
          ReadsBlock exchange target block outcome) := by
  refine (pn532MifareReadBlock_single _ _).records.mono ?_
  rintro history outcome ⟨exchange, same, ran⟩
  exact ⟨exchange, same, sent_of_runsIn (by simp) ran, ran⟩

/--
The exchanges of a `READ_BLOCK` which passes the UID check.  The block is read
only after an authentication which succeeded.
-/
inductive ReadBlockCourse
    (target : Byte) (kind : KeyKind) (key : Vector Byte 6)
    (uid : Vector Byte 4) (block : Byte) : History → Prop where
  | refused {authentication : List Byte × Exchange} {failure : EspErr}
      (rejected : Authenticates authentication target kind block key uid
        (.error failure)) :
      ReadBlockCourse target kind key uid block [authentication]
  | read {authentication reading : List Byte × Exchange}
      {outcome : EspResult (Vector Byte 16)}
      (accepted :
        Authenticates authentication target kind block key uid (.ok ()))
      (read : ReadsBlock reading target block outcome) :
      ReadBlockCourse target kind key uid block [authentication, reading]

/-- An attempt on the blocks of a tag, and whether it succeeds. -/
inductive KeyAttempt
    (target : TypeATarget) (kind : KeyKind) (block : Byte)
    (key : Vector Byte 6) : Bool → History → Prop where
  | refused {authentication : List Byte × Exchange} {failure : EspErr}
      (rejected : Authenticates authentication target.target kind block
        key (uidPrefix target) (.error failure)) :
      KeyAttempt target kind block key false [authentication]
  | unread {authentication first : List Byte × Exchange}
      {failure : EspErr}
      (accepted : Authenticates authentication target.target kind block
        key (uidPrefix target) (.ok ()))
      (failed : ReadsBlock first target.target 1 (.error failure)) :
      KeyAttempt target kind block key false [authentication, first]
  | read {authentication first second : List Byte × Exchange}
      {data : Vector Byte 16} {outcome : EspResult (Vector Byte 16)}
      (accepted : Authenticates authentication target.target kind block
        key (uidPrefix target) (.ok ()))
      (read : ReadsBlock first target.target 1 (.ok data))
      (last : ReadsBlock second target.target 2 outcome) :
      KeyAttempt target kind block key outcome.isOk
        [authentication, first, second]

/--
The attempts on a tag: always one with the first key, and one with the second
key exactly if the first one failed.
-/
inductive TagCourse
    (target : TypeATarget) (aime bana : Vector Byte 6) :
    History → Prop where
  | first {attempt : History}
      (succeeded : KeyAttempt target .aime 2 aime true attempt) :
      TagCourse target aime bana attempt
  | second {attempt last : History} {succeeded : Bool}
      (failed : KeyAttempt target .aime 2 aime false attempt)
      (followed : KeyAttempt target .bana 1 bana succeeded last) :
      TagCourse target aime bana (attempt ++ last)

/-- The polls of a scan which went on to its Type A poll. -/
structure TypeAPolled
    (reader : ReaderState) (felica typeA : List Byte × Exchange)
    (poll : Poll TypeATarget) : Prop where
  enabled : reader.radioEnabled = true
  polled : ∃ first : Poll FelicaTarget,
    (pn532PollFelica reader.felicaSystemCode reader.activeFelica
      false).RunsIn felica first ∧
    (first.status = .ok () → first.found = false) ∧
    (pn532PollTypeA reader.activeMifare first.found).RunsIn typeA poll

/-- The polls of a scan which found a tag whose blocks can be read. -/
structure TagFound
    (reader : ReaderState) (felica typeA : List Byte × Exchange)
    (poll : Poll TypeATarget) : Prop
    extends TypeAPolled reader felica typeA poll where
  completed : poll.status = .ok ()
  usable : ¬ Unusable poll

/--
The exchanges of a scan.  It attempts to read a tag unless the radio is off, a
FeliCa card answers, or the Type A poll fails or finds no such tag.
-/
inductive ScanCourse
    (reader : ReaderState) (target : TypeATarget)
    (aime bana : Vector Byte 6) : History → Prop where
  | off (disabled : reader.radioEnabled = false) :
      ScanCourse reader target aime bana []
  | felica {felica : List Byte × Exchange} {poll : Poll FelicaTarget}
      (enabled : reader.radioEnabled = true)
      (polled :
        (pn532PollFelica reader.felicaSystemCode reader.activeFelica
          false).RunsIn felica poll)
      (completed : poll.status = .ok ())
      (found : poll.found = true) :
      ScanCourse reader target aime bana [felica]
  | failed {felica typeA : List Byte × Exchange}
      {poll : Poll TypeATarget} {failure : EspErr}
      (polled : TypeAPolled reader felica typeA poll)
      (broken : poll.status = .error failure) :
      ScanCourse reader target aime bana [felica, typeA]
  | unusable {felica typeA : List Byte × Exchange}
      {poll : Poll TypeATarget}
      (polled : TypeAPolled reader felica typeA poll)
      (completed : poll.status = .ok ())
      (empty : Unusable poll) :
      ScanCourse reader target aime bana [felica, typeA]
  | attempts {felica typeA : List Byte × Exchange}
      {poll : Poll TypeATarget} {history : History}
      (tag : TagFound reader felica typeA poll)
      (current : poll.target = target)
      (course : TagCourse target aime bana history) :
      ScanCourse reader target aime bana (felica :: typeA :: history)

theorem readMifareWithKey_course
    (target : TypeATarget) (kind : KeyKind) (block : Byte)
    (key : Vector Byte 6) (card : ReaderCard) :
    (readMifareWithKey target kind.authCommand block key card).Records
      (fun history result =>
        KeyAttempt target kind block key result.1.isOk history) := by
  unfold readMifareWithKey
  refine Interaction.Records.bind (authenticate_records _ _ _ _ _) ?_
  rintro _ (failure | _) ⟨authentication, rfl, authenticated⟩
  · exact .refused authenticated
  refine Interaction.Records.bind (readBlock_records _ _) ?_
  rintro _ (failure | data) ⟨first, rfl, read⟩
  · exact .unread authenticated read
  refine Interaction.Records.bind (readBlock_records _ _) ?_
  rintro _ (failure | data2) ⟨second, rfl, last⟩
  · exact .read authenticated read last
  · exact .read authenticated read last

theorem readMifareCard_course (reader : ReaderState) :
    (readMifareCard reader).Records
      (fun history _ =>
        TagCourse reader.activeMifare (reader.mifareKey readerKeyAime)
          (reader.mifareKey readerKeyBana) history) := by
  unfold readMifareCard
  refine Interaction.Records.bind
    (readMifareWithKey_course _ .aime _ _ _) ?_
  rintro attempt ⟨failure | _, card⟩ tried
  · refine Interaction.Records.bind
      (readMifareWithKey_course _ .bana _ _ _) ?_
    rintro last ⟨outcome, final⟩ followed
    change TagCourse _ _ _ (attempt ++ (last ++ []))
    rw [List.append_nil]
    exact .second tried followed
  · change TagCourse _ _ _ (attempt ++ [])
    rw [List.append_nil]
    exact .first tried

/-- The exchanges of a scan use the keys which the reader holds. -/
def ScanUses (reader : ReaderState) (history : History)
    (result : EspResult ReaderCard × ReaderState) : Prop :=
  ScanCourse reader result.2.activeMifare (reader.mifareKey readerKeyAime)
    (reader.mifareKey readerKeyBana) history

/-- The rest of a scan whose FeliCa poll found nothing. -/
theorem readTypeACard_course
    {reader current : ReaderState} {felica : List Byte × Exchange}
    {first : Poll FelicaTarget}
    (enabled : reader.radioEnabled = true)
    (polled :
      (pn532PollFelica reader.felicaSystemCode reader.activeFelica
        false).RunsIn felica first)
    (missed : first.status = .ok () → first.found = false)
    (mifare : current.activeMifare = reader.activeMifare)
    (keys : current.mifareKeys = reader.mifareKeys) :
    (readTypeACard current first.found).Records
      (fun history result =>
        ScanUses reader (felica :: history) result) := by
  unfold readTypeACard
  rw [mifare]
  refine Interaction.Records.bind
    (pn532PollTypeA_single _ _).records ?_
  rintro _ poll ⟨typeA, rfl, ran⟩
  have polls : TypeAPolled reader felica typeA poll :=
    ⟨enabled, first, polled, missed, ran⟩
  cases status : poll.status with
  | error failure => exact .failed polls status
  | ok completed =>
      dsimp only
      split
      · rename_i empty
        refine ScanCourse.unusable polls status ?_
        simpa [Unusable] using empty
      · rename_i usable
        have tag : TagFound reader felica typeA poll := by
          refine ⟨polls, status, ?_⟩
          simpa [Unusable] using usable
        have held : ∀ keyType,
            ReaderState.mifareKey
                { current with activeMifare := poll.target } keyType =
              reader.mifareKey keyType := by
          intro keyType
          exact congrArg (fun keys => List.getD keys.toList _ _) keys
        refine Interaction.Records.bind
          (readMifareCard_course
            { current with activeMifare := poll.target }) ?_
        intro history card course
        rw [held, held] at course
        change ScanCourse _ _ _ _ (felica :: typeA :: (history ++ []))
        rw [List.append_nil]
        exact .attempts tag rfl course

theorem readerReadCard_course (reader : ReaderState) :
    (readerReadCard reader).Records (ScanUses reader) := by
  unfold readerReadCard
  split
  · rename_i disabled
    exact .off (Bool.eq_false_iff.mpr disabled)
  · rename_i enabled
    rw [not_not] at enabled
    refine Interaction.Records.bind
      (pn532PollFelica_single _ _ _).records ?_
    rintro _ poll ⟨felica, rfl, ran⟩
    cases status : poll.status with
    | error failure =>
        refine readTypeACard_course enabled ran ?_ rfl rfl
        intro completed
        rw [status] at completed
        cases completed
    | ok completed =>
        dsimp only
        split
        · rename_i found
          exact .felica enabled ran status found
        · rename_i absent
          exact readTypeACard_course enabled ran
            (fun _ => Bool.eq_false_iff.mpr absent) rfl rfl

/-- The exchanges of a block read which passes the UID check. -/
theorem readerMifareReadBlock_course
    {reader : ReaderState} {kind : KeyKind} {uid : Vector Byte 4}
    (chosen : reader.activeKeyType = kind.code)
    (selected : readerMifareSelect reader uid = .ok ())
    (block : Byte) :
    (readerMifareReadBlock reader uid block).Records
      (fun history _ =>
        ReadBlockCourse reader.activeMifare.target kind
          (reader.mifareKey kind.code) uid block history) := by
  have same : uidPrefix reader.activeMifare = uid :=
    ((readerMifareSelect_eq reader uid).1.mp selected).2
  have authCommand :
      (if reader.activeKeyType = readerKeyAime then 0x61 else 0x60) =
        kind.authCommand := by
    rw [chosen]
    cases kind <;> rfl
  unfold readerMifareReadBlock
  rw [selected]
  dsimp only
  rw [authCommand, chosen, same]
  refine Interaction.Records.bind (authenticate_records _ _ _ _ _) ?_
  rintro _ (failure | _) ⟨authentication, rfl, authenticated⟩
  · exact .refused authenticated
  · refine (readBlock_records _ _).mono ?_
    rintro history outcome ⟨reading, rfl, read⟩
    exact .read authenticated read

/-! ## Accesses to the key table -/

/-- `reader_mifare_set_key`, with its access to the key table. -/
def keyedMifareSetKey
    (reader : ReaderState) (keyType : Byte) (key : Vector Byte 6) :
    CheckedDriver (EspResult Unit × ReaderState) :=
  if keyType > readerKeyBana then
    return (.error .invalidArg, reader)
  else do
    let reader ← storeKeyAt reader keyType key
    return (.ok (), reader)

/-- `reader_mifare_read_block`, with its access to the key table. -/
def keyedMifareReadBlock
    (reader : ReaderState) (uid : Vector Byte 4) (blockNumber : Byte) :
    CheckedDriver (EspResult (Vector Byte 16)) :=
  match readerMifareSelect reader uid with
  | .error failure => return .error failure
  | .ok () => do
      let authCommand :=
        if reader.activeKeyType = readerKeyAime then 0x61 else 0x60
      let key ← keyAt reader reader.activeKeyType
      let authenticated ←
        checkedMifareAuthenticate reader.activeMifare.target authCommand
          blockNumber key (uidPrefix reader.activeMifare)
      match authenticated with
      | .error failure => return .error failure
      | .ok () =>
          checkedMifareReadBlock reader.activeMifare.target blockNumber

/-- A call of the reader interface, with its accesses to the key table. -/
def keyedProgram (reader : ReaderState) :
    ReaderCall → CheckedDriver (EspResult Answer × ReaderState)
  | .readCard => do
      let (outcome, reader) ← checkedReaderReadCard reader
      return (outcome.map .card, reader)
  | .mifareSetKey keyType key => do
      let (outcome, reader) ← keyedMifareSetKey reader keyType key
      return (outcome.map (fun _ => .done), reader)
  | .mifareReadBlock uid blockNumber => do
      let outcome ← keyedMifareReadBlock reader uid blockNumber
      return (outcome.map (fun block => .data block.toList), reader)
  -- the other functions do not access the table
  | call => Guarded.lift (call.program reader)

theorem KeyKind.code_lt (kind : KeyKind) : kind.code.toNat < 2 := by
  cases kind <;> decide

theorem keyedMifareSetKey_refines
    (reader : ReaderState) (keyType : Byte) (key : Vector Byte 6) :
    Refines Eq (keyedMifareSetKey reader keyType key)
      (.done (readerMifareSetKey reader keyType key)) := by
  unfold keyedMifareSetKey readerMifareSetKey
  split
  · exact Refines.done rfl
  · rename_i within
    have limit := UInt8.le_iff_toNat_le.mp (UInt8.not_lt.mp within)
    have inside : keyType.toNat < 2 := Nat.lt_succ_of_le limit
    exact Refines.check (storeKeyAt_eq inside reader key)
      (Refines.done rfl)

/-- A block read accesses the table where the key type is known. -/
theorem keyedMifareReadBlock_refines
    {reader : ReaderState} (inside : reader.activeKeyType.toNat < 2)
    (uid : Vector Byte 4) (blockNumber : Byte) :
    Refines Eq (keyedMifareReadBlock reader uid blockNumber)
      (readerMifareReadBlock reader uid blockNumber) := by
  unfold keyedMifareReadBlock readerMifareReadBlock
  cases readerMifareSelect reader uid with
  | error failure => exact Refines.done rfl
  | ok selected =>
      refine Refines.check (keyAt_eq inside reader) ?_
      refine Refines.bind (checkedMifareAuthenticate_refines _ _ _ _ _) ?_
      rintro (failure | _) _ rfl
      · exact Refines.done rfl
      · exact checkedMifareReadBlock_refines _ _

/-- No call leaves the key table while the key type is an index of it. -/
theorem keyedProgram_refines
    {reader : ReaderState} (inside : reader.activeKeyType.toNat < 2)
    (call : ReaderCall) :
    Refines Eq (keyedProgram reader call) (call.program reader) := by
  cases call with
  | readCard =>
      refine Refines.bind (checkedReaderReadCard_refines reader) ?_
      rintro ⟨outcome, next⟩ _ rfl
      exact Refines.done rfl
  | mifareSetKey keyType key =>
      change Refines Eq (_ >>= _)
        (.done (readerMifareSetKey reader keyType key) >>=
          fun result =>
            .done (result.1.map (fun _ => Answer.done), result.2))
      refine Refines.bind (keyedMifareSetKey_refines reader keyType key) ?_
      rintro ⟨outcome, next⟩ _ rfl
      exact Refines.done rfl
  | mifareReadBlock uid blockNumber =>
      refine Refines.bind
        (keyedMifareReadBlock_refines inside uid blockNumber) ?_
      rintro outcome _ rfl
      exact Refines.done rfl
  | mifareSelect uid => exact Refines.lift _
  | mifareAuthenticate keyType => exact Refines.lift _
  | felicaTransact request responseCapacity => exact Refines.lift _
  | radioSet enabled => exact Refines.lift _

/-! ## Keys and exchanges in a session -/

/-- A request to read a block of the tag with this UID. -/
structure IsReadBlock (request : List Byte) (uid : Vector Byte 4)
    (block : Byte) : Prop where
  accepted : Accepted request
  command : IsNfc request .mifareReadBlock
  payload : requestPayload request = uid.toList ++ [block]

theorem IsReadBlock.requestCall_eq
    {request : List Byte} {uid : Vector Byte 4} {block : Byte}
    (reads : IsReadBlock request uid block) :
    requestCall request = some (.mifareReadBlock uid block) := by
  have size : (uid.toList ++ [block]).length = 5 := by simp
  have loaded : load 4 (uid.toList ++ [block]) 0 = uid :=
    load_append [] uid [block]
  have last : byteAt (uid.toList ++ [block]) 4 = block := by
    rw [byteAt, List.getD_append_right _ _ _ _ (by simp)]
    simp
  rw [requestCall_of_isNfc reads.accepted reads.command, nfcCall,
    reads.payload, if_neg (not_not.mpr size), loaded, last]

/-- A request sends what its call sends. -/
theorem dispatch_transcript
    {request : List Byte} {call : ReaderCall}
    (called : requestCall request = some call)
    (reader : ReaderState) (world : Pn532World) :
    (dispatch reader request).transcript world =
      (call.program reader).transcript world := by
  have sent := (dispatch_matches reader request).transcript world
  rw [called] at sent
  exact sent

/-- Both kinds of scan send the exchanges of `reader_read_card`. -/
theorem exchanges_scanEvent (event : ScanEvent) (reader : ReaderState) :
    event.event.exchanges reader =
      (readerReadCard reader).transcript event.world := by
  cases event with
  | periodic world => rfl
  | poll framed world =>
      rcases framed with ⟨request, accepted, nfc, poll⟩
      have called : requestCall request = some .readCard :=
        requestCall_of_isNfc accepted ⟨nfc, poll⟩
      change (dispatch reader request).transcript world = _
      rw [dispatch_transcript called]
      exact exchanges_readCard reader world

/--
After every session a `READ_BLOCK` which passes the UID check authenticates
with the kind chosen last and the key of that kind set last, every scan which
finds a tag uses the keys set last in their order, and no call reads or writes
outside of the key table.
-/
theorem keys_follow_session (events : List SegaEvent) :
    let reader := readerAfter events
    (∀ request world uid block, IsReadBlock request uid block →
      readerMifareSelect reader uid = .ok () →
        ReadBlockCourse reader.activeMifare.target (lastKind events)
          (lastKey (lastKind events) events) uid block
          ((dispatch reader request).transcript world)) ∧
    (∀ event : ScanEvent,
      ScanCourse reader (event.event.next reader).activeMifare
        (lastKey .aime events) (lastKey .bana events)
        (event.event.exchanges reader)) ∧
    ∀ call, Refines Eq (keyedProgram reader call)
      (call.program reader) := by
  have chosen := activeKeyType_readerAfter events
  have inside : (readerAfter events).activeKeyType.toNat < 2 := by
    rw [chosen]
    exact KeyKind.code_lt _
  refine ⟨?_, ?_, keyedProgram_refines inside⟩
  · intro request world uid block reads selected
    have course :=
      (readerMifareReadBlock_course chosen selected block).run world
    rw [mifareKey_readerAfter] at course
    rw [dispatch_transcript reads.requestCall_eq]
    have sent :=
      Interaction.transcript_bind_done world
        (readerMifareReadBlock (readerAfter events) uid block)
        (fun outcome =>
          (outcome.map (fun block => Answer.data block.toList),
            readerAfter events))
    rw [← sent] at course
    exact course
  · intro event
    have course :=
      (readerReadCard_course (readerAfter events)).run event.world
    have aime := mifareKey_readerAfter .aime events
    have bana := mifareKey_readerAfter .bana events
    change (readerAfter events).mifareKey readerKeyAime = _ at aime
    change (readerAfter events).mifareKey readerKeyBana = _ at bana
    rw [ScanUses, aime, bana, ← event.next_eq,
      ← exchanges_scanEvent] at course
    exact course

/-! ## A session with a key of its own -/

def ownKey : Vector Byte 6 := #v[1, 2, 3, 4, 5, 6]

/-- A field with a tag which accepts this key for its command `0x60` only. -/
def banaTag : Pn532World :=
  fun _ frame =>
    if byteAt frame 6 = pn532CommandInDataExchange ∧
        byteAt frame 8 = 0x60 ∧ load 6 frame 10 = ownKey then
      .answering pn532CommandInDataExchange [0x00]
    else
      typeAAnswer #v[9, 8, 7, 6] none frame

/-- `SET_KEY` and `AUTHENTICATE` for BANA, and a scan which finds the tag. -/
def banaSession : List SegaEvent :=
  [.request ⟨[0x0B, 0x00, 0x01, 0x54, 0x06, 1, 2, 3, 4, 5, 6], by decide⟩
      banaTag,
    .request ⟨[0x05, 0x00, 0x02, 0x55, 0x00], by decide⟩ banaTag,
    .scan banaTag]

/-- `READ_BLOCK` for block 5 of the tag. -/
def banaRequest : List Byte :=
  [0x0A, 0x00, 0x03, 0x52, 0x05, 9, 8, 7, 6, 5]

/--
The block is read with the key which the session has set, and a further scan
tries the built-in key first and this one after it.
-/
theorem keys_follow_session_bana :
    let reader := readerAfter banaSession
    let read := (dispatch reader banaRequest).transcript banaTag
    let scan := ScanEvent.periodic banaTag
    ReadBlockCourse 1 .bana ownKey #v[9, 8, 7, 6] 5 read ∧
      read.length = 2 ∧
      ScanCourse reader (scan.event.next reader).activeMifare
        defaultAimeKey ownKey (scan.event.exchanges reader) ∧
      (scan.event.exchanges reader).length = 6 := by
  have target : (readerAfter banaSession).activeMifare.target = 1 := by
    decide +kernel
  have selected :
      readerMifareSelect (readerAfter banaSession) #v[9, 8, 7, 6] =
        .ok () := by
    decide +kernel
  have kind : lastKind banaSession = .bana := by decide
  have aime : lastKey .aime banaSession = defaultAimeKey := by decide
  have bana : lastKey .bana banaSession = ownKey := by decide
  rcases keys_follow_session banaSession with ⟨read, scan, -⟩
  have block := read banaRequest banaTag #v[9, 8, 7, 6] 5
    ⟨by decide, by decide, by decide⟩ selected
  have further := scan (.periodic banaTag)
  rw [target, kind, bana] at block
  rw [aime, bana] at further
  refine ⟨block, ?_, further, ?_⟩
  · decide +kernel
  · decide +kernel

end Pareader.Firmware.MifareKeys
