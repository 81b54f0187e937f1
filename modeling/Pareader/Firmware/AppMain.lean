import Pareader.Firmware.Hid
import Pareader.Firmware.SegaDispatch

/-!
# The main loop

`app_main` services one queued USB message per iteration and, when the scan
interval has passed, observes the field and publishes a changed observation on
both HID interfaces.  The loop is a transducer: an iteration reads a message, a
clock value and the behaviour of the controller and of the USB stack, and it
emits what is handed to the three USB functions.

The last section derives once what an iteration can do to the stored
observation and to the two HID outputs.
-/

namespace Pareader.Firmware.AppMain

open Pareader.Core
open Pareader.Firmware.Pn532
open Pareader.Firmware.Reader
open Pareader.Firmware.Hid
open Pareader.Firmware.SegaFraming
open Pareader.Firmware.SegaDispatch

def cardScanIntervalUs : Int := 200000

inductive UsbMessageType where
  | hid
  | cdc
deriving DecidableEq, Repr

/-- `usb_message_t`, its size being the length of the data. -/
structure UsbMessage where
  type : UsbMessageType
  data : List Byte
deriving DecidableEq, Repr

/-- What is handed to the USB functions, with the result of a HID send. -/
inductive Output where
  | prhp (report : Report) (result : EspResult Unit)
  | cardio (reportId : Byte) (cardId : Vector Byte 8)
      (result : EspResult Unit)
  | cdc (frame : List Byte)

/-- Everything one iteration of the loop reads from its environment. -/
structure Iteration where
  message : Option UsbMessage
  messageWorld : Pn532World
  responseLink : HidLink
  now : Int
  scanWorld : Pn532World
  prhpLink : HidLink
  cardioLink : HidLink

/-- The octets which a message brings to the CDC port. -/
def Iteration.cdcData (iteration : Iteration) : List Byte :=
  match iteration.message with
  | some ⟨.cdc, data⟩ => data
  | _ => []

/-- The state of the firmware between two iterations. -/
structure App where
  reader : ReaderState
  parser : SgParser
  current : ReaderCard
  nextScan : Int

/-- The state in which the loop is entered. -/
def appStart : App where
  reader := readerInit
  parser := segaInit
  current := ReaderCard.zero
  nextScan := 0

/-- A link on which every report is accepted at the first attempt. -/
def acceptingLink : HidLink :=
  fun _ => ⟨true, true, true⟩

@[simp]
theorem sendHid_acceptingLink : sendHid acceptingLink = .ok () :=
  rfl

/-- The link before the device is mounted. -/
def unmountedLink : HidLink :=
  fun _ => ⟨false, false, false⟩

/-- An iteration without a message, all of whose sends meet one link. -/
def Iteration.scanning (now : Int) (world : Pn532World) (link : HidLink) :
    Iteration where
  message := none
  messageWorld := world
  responseLink := link
  now := now
  scanWorld := world
  prhpLink := link
  cardioLink := link

/-! ## One iteration -/

/-- Service the received message. -/
def serviceMessage (app : App) (iteration : Iteration) :
    App × List Output :=
  match iteration.message with
  | none => (app, [])
  | some ⟨.hid, data⟩ =>
      if data.length = prhpReportSize then
        match prhpDispatch (load 64 data 0) with
        | none => (app, [])
        | some report =>
            (app, [.prhp report (sendHid iteration.responseLink)])
      else
        (app, [])
  | some ⟨.cdc, data⟩ =>
      let ((parser, reader), frames) :=
        (segaReceive app.parser app.reader data).run
          iteration.messageWorld
      ({ app with parser := parser, reader := reader },
        frames.map Output.cdc)

/-- The two sends of a changed observation. -/
def publish (card : ReaderCard) (iteration : Iteration) : List Output :=
  let (reportId, cardId) := cardioPublishCardState card
  [.prhp (prhpPublishCardState card) (sendHid iteration.prhpLink),
    .cardio reportId cardId (sendHid iteration.cardioLink)]

/-- Observe the field and publish a changed observation. -/
def scan (app : App) (iteration : Iteration) : App × List Output :=
  let (observed, reader) :=
    (readerReadCard app.reader).run iteration.scanWorld
  let app := { app with reader := reader }
  match observed with
  | .error _ => (app, [])
  | .ok card =>
      if app.current = card then
        (app, [])
      else
        ({ app with current := card }, publish card iteration)

def iterate (app : App) (iteration : Iteration) : App × List Output :=
  let (app, replies) := serviceMessage app iteration
  if iteration.now < app.nextScan then
    (app, replies)
  else
    let (app, published) :=
      scan
        { app with nextScan := iteration.now + cardScanIntervalUs }
        iteration
    (app, replies ++ published)

def appMain : Transducer App Iteration Output where
  step := iterate

/-! ## What an iteration does to the card state -/

/-- The card observed by the scan of an iteration, if it has one. -/
def observation (app : App) (iteration : Iteration) : Option ReaderCard :=
  let reader := (serviceMessage app iteration).1.reader
  if iteration.now < app.nextScan then
    none
  else
    ((readerReadCard reader).run iteration.scanWorld).1.toOption

/-- The observation of an iteration which differs from the stored one. -/
def transition (app : App) (iteration : Iteration) : Option ReaderCard :=
  (observation app iteration).filter (fun card => card ≠ app.current)

/-- A card state handed to the PRHP endpoint. -/
def Output.cardState : Output → Option Report
  | .prhp report _ => if isCardState report then some report else none
  | .cardio _ _ _ => none
  | .cdc _ => none

/-- A card state which the PRHP endpoint accepted. -/
def Output.acceptedCardState : Output → Option Report
  | .prhp report (.ok ()) =>
      if isCardState report then some report else none
  | _ => none

/-- A report handed to the CardIO endpoint. -/
def Output.cardioReport : Output → Option (Byte × Vector Byte 8)
  | .prhp _ _ => none
  | .cardio reportId cardId _ => some (reportId, cardId)
  | .cdc _ => none

/-- Servicing a message touches neither the observation nor the clock. -/
theorem serviceMessage_frame (app : App) (iteration : Iteration) :
    (serviceMessage app iteration).1.current = app.current ∧
      (serviceMessage app iteration).1.nextScan = app.nextScan := by
  unfold serviceMessage
  split
  · exact ⟨rfl, rfl⟩
  · split
    · split <;> exact ⟨rfl, rfl⟩
    · exact ⟨rfl, rfl⟩
  · exact ⟨rfl, rfl⟩

/-- What servicing a message sends is neither a card state nor CardIO. -/
def Output.Reply : Output → Prop
  | .prhp report _ => isCardState report = false
  | .cardio _ _ _ => False
  | .cdc _ => True

theorem serviceMessage_replies (app : App) (iteration : Iteration) :
    ∀ output ∈ (serviceMessage app iteration).2, output.Reply := by
  unfold serviceMessage
  split
  · simp
  · split
    · split
      · simp
      · rename_i sent
        simp [Output.Reply, isCardState_dispatch sent]
    · simp
  · simp [Output.Reply]

/-- The effect of a scan, in terms of the observation it makes. -/
theorem scan_effect (app : App) (iteration : Iteration) :
    let observed :=
      ((readerReadCard app.reader).run iteration.scanWorld).1.toOption
    let changed := observed.filter (fun card => card ≠ app.current)
    (scan app iteration).1.current = changed.getD app.current ∧
      (scan app iteration).2 =
        changed.elim [] (fun card => publish card iteration) := by
  unfold scan
  dsimp only
  cases ((readerReadCard app.reader).run iteration.scanWorld).1 with
  | error failure => exact ⟨rfl, rfl⟩
  | ok card =>
      simp only [Except.toOption]
      by_cases same : app.current = card
      · simp [same, Option.filter]
      · have different : card ≠ app.current := Ne.symm same
        simp [same, different, Option.filter]

/-- A scan moves the reader and leaves parser and clock alone. -/
theorem scan_frame (app : App) (iteration : Iteration) :
    (scan app iteration).1.reader =
        ((readerReadCard app.reader).run iteration.scanWorld).2 ∧
      (scan app iteration).1.parser = app.parser ∧
      (scan app iteration).1.nextScan = app.nextScan := by
  unfold scan
  dsimp only
  split
  · exact ⟨rfl, rfl, rfl⟩
  · split <;> exact ⟨rfl, rfl, rfl⟩

/--
An iteration stores its transition, sends replies and then publishes the
transition.
-/
theorem iterate_effect (app : App) (iteration : Iteration) :
    (iterate app iteration).1.current =
        (transition app iteration).getD app.current ∧
      ∃ replies, (∀ output ∈ replies, output.Reply) ∧
        (iterate app iteration).2 =
          replies ++ (transition app iteration).elim []
            (fun card => publish card iteration) := by
  rcases serviceMessage_frame app iteration with ⟨current, nextScan⟩
  have replied := serviceMessage_replies app iteration
  unfold iterate transition observation
  dsimp only
  rw [nextScan]
  split
  · exact ⟨current, _, replied, (List.append_nil _).symm⟩
  · rcases
        scan_effect
          { (serviceMessage app iteration).1 with
            nextScan := iteration.now + cardScanIntervalUs }
          iteration with
      ⟨stored, published⟩
    rw [stored, published]
    simp only [current]
    exact ⟨trivial, _, replied, rfl⟩

/-! ## The loop is a change detector -/

/-- A part of the HID output which only publications contribute to. -/
structure Interface (Visible : Type) where
  visible : Output → Option Visible
  emit : ReaderCard → Visible
  admissible : Iteration → Prop
  replies_hidden : ∀ output, output.Reply → visible output = none
  publish_visible : ∀ card iteration, admissible iteration →
    (publish card iteration).filterMap visible = [emit card]

variable {Visible : Type}

/--
Through an interface, the loop is the change detector on its observations, as
long as its transitions are admissible.
-/
def Interface.observer (interface : Interface Visible) :
    Transducer.Simulation appMain
      (Transducer.changeDetector interface.emit) where
  related app stored := app.current = stored
  admissible app iteration :=
    (transition app iteration).isSome → interface.admissible iteration
  view app iteration := (observation app iteration).toList
  visible := interface.visible
  step_related := by
    rintro app _ iteration rfl -
    change (iterate app iteration).1.current = _
    rw [(iterate_effect app iteration).1, transition]
    cases observation app iteration with
    | none => rfl
    | some card =>
        rw [Option.toList_some, Transducer.run_singleton,
          Transducer.changeDetector_step]
        by_cases same : card = app.current
        · simp [same, Option.filter]
        · simp [same, Option.filter]
  step_visible := by
    rintro app _ iteration rfl admissible
    rcases iterate_effect app iteration with ⟨-, replies, hidden, sent⟩
    have silent : replies.filterMap interface.visible = [] := by
      rw [List.filterMap_eq_nil_iff]
      intro output replied
      exact interface.replies_hidden output (hidden output replied)
    change (iterate app iteration).2.filterMap interface.visible = _
    rw [sent, List.filterMap_append, silent, List.nil_append]
    rw [transition] at admissible ⊢
    cases observed : observation app iteration with
    | none => rfl
    | some card =>
        rw [observed] at admissible
        rw [Option.toList_some, Transducer.run_singleton,
          Transducer.changeDetector_step]
        by_cases same : card = app.current
        · simp [same, Option.filter]
        · have published :=
            interface.publish_visible card iteration
              (admissible (by simp [same, Option.filter]))
          simpa [same, Option.filter] using published

/-- All card states of the PRHP interface. -/
def prhpStates : Interface Report where
  visible := Output.cardState
  emit := prhpPublishCardState
  admissible _ := True
  replies_hidden := by
    rintro (⟨report, result⟩ | _ | _) reply
    · simp_all [Output.Reply, Output.cardState]
    · exact reply.elim
    · rfl
  publish_visible := by
    intro card iteration _
    simp [publish, Output.cardState]

/-- The card states which the PRHP endpoint accepts. -/
def acceptedPrhpStates : Interface Report where
  visible := Output.acceptedCardState
  emit := prhpPublishCardState
  admissible iteration := sendHid iteration.prhpLink = .ok ()
  replies_hidden := by
    rintro (⟨report, _ | _⟩ | _ | _) reply
    · rfl
    · simp_all [Output.Reply, Output.acceptedCardState]
    · exact reply.elim
    · rfl
  publish_visible := by
    intro card iteration accepted
    simp [publish, Output.acceptedCardState, accepted]

/-- All reports of the CardIO interface. -/
def cardioReports : Interface (Byte × Vector Byte 8) where
  visible := Output.cardioReport
  emit := cardioPublishCardState
  admissible _ := True
  replies_hidden := by
    rintro (_ | _ | _) reply
    · rfl
    · exact reply.elim
    · rfl
  publish_visible := by
    intro card iteration _
    rfl

/-! ## No lost transition -/

/-- The state in which a sequence of iterations leaves the firmware. -/
def stateAfter (iterations : List Iteration) : App :=
  (appMain.run appStart iterations).1

/-- What a sequence of iterations hands to the USB functions. -/
def outputsOf (iterations : List Iteration) : List Output :=
  (appMain.run appStart iterations).2

/-- The last card state which the PRHP endpoint accepted, initially `NONE`. -/
def lastAccepted (outputs : List Output) : Report :=
  (outputs.filterMap Output.acceptedCardState).getLastD
    (prhpPublishCardState ReaderCard.zero)

/--
After every successful scan during which the PRHP endpoint would accept a
report, the last accepted card state is the stored observation.
-/
def NoLostTransition (iterations : List Iteration) : Prop :=
  ∀ before iteration after,
    iterations = before ++ iteration :: after →
    (observation (stateAfter before) iteration).isSome →
    sendHid iteration.prhpLink = .ok () →
      lastAccepted (outputsOf (before ++ [iteration])) =
        prhpPublishCardState
          (stateAfter (before ++ [iteration])).current

/-- The PRHP endpoint accepts a report in every iteration which needs one. -/
def TransitionsAccepted (iterations : List Iteration) : Prop :=
  ∀ before iteration after,
    iterations = before ++ iteration :: after →
    (transition (stateAfter before) iteration).isSome →
      sendHid iteration.prhpLink = .ok ()

theorem TransitionsAccepted.take
    {before after : List Iteration} {iteration : Iteration}
    (accepted : TransitionsAccepted (before ++ iteration :: after)) :
    TransitionsAccepted (before ++ [iteration]) := by
  intro earlier middle later split
  apply accepted earlier middle (later ++ after)
  calc
    before ++ iteration :: after = (before ++ [iteration]) ++ after := by
      simp
    _ = earlier ++ middle :: (later ++ after) := by
      simp [split]

/-- Run lemma: while no send fails, the host side is never behind. -/
theorem lastAccepted_of_transitionsAccepted
    {iterations : List Iteration}
    (accepted : TransitionsAccepted iterations) :
    lastAccepted (outputsOf iterations) =
      prhpPublishCardState (stateAfter iterations).current := by
  have admissible :=
    (acceptedPrhpStates.observer.admissibleRun_iff
      appStart iterations).mpr accepted
  rcases
      acceptedPrhpStates.observer.run_related
        iterations (rfl : appStart.current = ReaderCard.zero) admissible with
    ⟨stored, visible⟩
  calc
    lastAccepted (outputsOf iterations) =
        ((Transducer.changeDetector prhpPublishCardState).run
          ReaderCard.zero
          (acceptedPrhpStates.observer.viewRun
            appStart iterations)).2.getLastD
            (prhpPublishCardState ReaderCard.zero) :=
      congrArg (List.getLastD · _) visible
    _ = _ := Transducer.changeDetector_last _ _ _
    _ = prhpPublishCardState (stateAfter iterations).current :=
      congrArg prhpPublishCardState stored.symm

/-- Where every needed report is accepted, no transition is lost. -/
theorem noLostTransition_of_transitionsAccepted
    (iterations : List Iteration)
    (accepted : TransitionsAccepted iterations) :
    NoLostTransition iterations := by
  rintro before iteration after rfl - -
  exact lastAccepted_of_transitionsAccepted accepted.take

/-- Two scans of one FeliCa card. -/
def heldFelica (first second : HidLink) : List Iteration :=
  [.scanning 0 (felicaWorld #v[1, 2, 3, 4, 5, 6, 7, 8]) first,
    .scanning 200000 (felicaWorld #v[1, 2, 3, 4, 5, 6, 7, 8]) second]

theorem noLostTransition_heldFelica :
    TransitionsAccepted (heldFelica acceptingLink acceptingLink) ∧
      NoLostTransition (heldFelica acceptingLink acceptingLink) ∧
      (stateAfter (heldFelica acceptingLink acceptingLink)).current =
        felicaCard #v[1, 2, 3, 4, 5, 6, 7, 8] := by
  have links : ∀ iteration ∈ heldFelica acceptingLink acceptingLink,
      sendHid iteration.prhpLink = .ok () := by
    simp [heldFelica, Iteration.scanning]
  have accepted :
      TransitionsAccepted (heldFelica acceptingLink acceptingLink) := by
    intro before iteration after split _
    exact links iteration (by simp [split])
  refine ⟨accepted, noLostTransition_of_transitionsAccepted _ accepted, ?_⟩
  decide +kernel

/--
A card which is scanned before the device is mounted is never reported while
it is held.
-/
theorem unmounted_scan_loses_card :
    ¬ ∀ iterations, NoLostTransition iterations := by
  intro noLoss
  have lost :
      lastAccepted (outputsOf (heldFelica unmountedLink acceptingLink)) ≠
        prhpPublishCardState
          (stateAfter (heldFelica unmountedLink acceptingLink)).current := by
    decide +kernel
  apply lost
  apply noLoss _ [_] _ [] rfl
  · decide +kernel
  · decide

/-! ## Transition-only publication -/

/-- The successful observations of a sequence of iterations. -/
def observationsFrom : App → List Iteration → List ReaderCard
  | _, [] => []
  | app, iteration :: rest =>
      (observation app iteration).toList ++
        observationsFrom (iterate app iteration).1 rest

/-- The successful observations since the loop was entered. -/
def observationsOf (iterations : List Iteration) : List ReaderCard :=
  observationsFrom appStart iterations

theorem Interface.viewRun_observer (interface : Interface Visible)
    (app : App) (iterations : List Iteration) :
    interface.observer.viewRun app iterations =
      observationsFrom app iterations := by
  induction iterations generalizing app with
  | nil => rfl
  | cons iteration rest induction =>
      exact congrArg ((observation app iteration).toList ++ ·)
        (induction (iterate app iteration).1)

/-- What an unconditional interface shows of a run. -/
theorem Interface.outputs_eq (interface : Interface Visible)
    (unconditional : ∀ iteration, interface.admissible iteration)
    (iterations : List Iteration) :
    interface.emit ReaderCard.zero ::
        (outputsOf iterations).filterMap interface.visible =
      ((observationsOf iterations).destutter' (· ≠ ·)
        ReaderCard.zero).map interface.emit := by
  have admissible :=
    (interface.observer.admissibleRun_iff appStart iterations).mpr
      (fun _ iteration _ _ _ => unconditional iteration)
  rcases
      interface.observer.run_related
        iterations (rfl : appStart.current = ReaderCard.zero) admissible with
    ⟨-, visible⟩
  rw [interface.viewRun_observer] at visible
  rw [← Transducer.changeDetector_outputs]
  exact congrArg (interface.emit ReaderCard.zero :: ·) visible

/--
On either interface the reports of a run, preceded by the empty one, encode
the successful observations without adjacent repetitions of a whole raw
observation.  Two reports are equal exactly when the observations agree on the
fields which the interface publishes.
-/
theorem publication_follows_raw_observations
    (iterations : List Iteration) :
    let published :=
      (observationsOf iterations).destutter' (· ≠ ·) ReaderCard.zero
    prhpPublishCardState ReaderCard.zero ::
        (outputsOf iterations).filterMap Output.cardState =
      published.map prhpPublishCardState ∧
    cardioPublishCardState ReaderCard.zero ::
        (outputsOf iterations).filterMap Output.cardioReport =
      published.map cardioPublishCardState ∧
    published.IsChain (· ≠ ·) ∧
    (∀ first second,
      prhpPublishCardState first = prhpPublishCardState second ↔
        SamePrhp first second) ∧
    (∀ first second,
      cardioPublishCardState first = cardioPublishCardState second ↔
        SameCardio first second) :=
  ⟨prhpStates.outputs_eq (fun _ => trivial) iterations,
    cardioReports.outputs_eq (fun _ => trivial) iterations,
    List.isChain_destutter' _ _ _,
    prhpPublishCardState_eq_iff,
    cardioPublishCardState_eq_iff⟩

/-- Every report which an iteration hands to a HID endpoint is accepted. -/
def SendsSucceed (iteration : Iteration) : Prop :=
  sendHid iteration.responseLink = .ok () ∧
    sendHid iteration.prhpLink = .ok () ∧
    sendHid iteration.cardioLink = .ok ()

/--
A Type A tag which refuses both keys is published as `NONE` although nothing
else was published before.
-/
theorem unsupported_tag_repeats_none :
    ¬ ∀ iterations,
      (∀ iteration ∈ iterations, SendsSucceed iteration) →
        (prhpPublishCardState ReaderCard.zero ::
            (outputsOf iterations).filterMap
              Output.cardState).IsChain (· ≠ ·) ∧
          (cardioPublishCardState ReaderCard.zero ::
            (outputsOf iterations).filterMap
              Output.cardioReport).IsChain (· ≠ ·) := by
  intro distinct
  have emitted :
      (outputsOf
          [.scanning 0 (typeAWorld #v[1, 2, 3, 4] none)
            acceptingLink]).filterMap Output.cardState =
        [prhpPublishCardState ReaderCard.zero] := by
    decide +kernel
  rcases
      distinct
        [.scanning 0 (typeAWorld #v[1, 2, 3, 4] none) acceptingLink] (by
          simp [SendsSucceed, Iteration.scanning]) with
    ⟨chain, -⟩
  rw [emitted] at chain
  simp at chain

end Pareader.Firmware.AppMain
