import Pareader.Firmware.AppMain
import Pareader.Host.Supervision
import Pareader.System.CardCodec

/-!
# Agreement between reader and host

The firmware loop and the host service run side by side.  Every PRHP report is
accepted and is carried, in order, to each session which is connected when it
is sent; a report sent while no session is connected is gone.  A step is an
iteration of the firmware, a step of the service which reads no report, or the
delivery of the oldest report in flight to a session.

The reader reports changes only, so a session knows the card exactly from the
first report after it was opened.  Until then it shows no card, even when one
is held.
-/

namespace Pareader.System.CardAgreement

open Pareader.Core
open Pareader.Firmware.Pn532
open Pareader.Firmware.Reader
open Pareader.Firmware.Hid
open Pareader.Firmware.AppMain
open Pareader.Host.Protocol
open Pareader.Host.Sessions
open Pareader.Host.Supervision
open Pareader.System.CardCodec

/-! ## The combined system -/

/--
The reports under way to one session.  All reports sent to it since it was
opened are recorded for the specification only.
-/
structure Link where
  inFlight : List Report
  sent : List Report

/-- The link of a session which was just opened. -/
def Link.fresh : Link :=
  ⟨[], []⟩

/-- Put reports on the way. -/
def Link.carry (link : Link) (reports : List Report) : Link :=
  ⟨link.inFlight ++ reports, link.sent ++ reports⟩

/-- A card state was published since the session was opened. -/
def Link.published (link : Link) : Bool :=
  link.sent.any isCardState

/-- A report as the host reads it. -/
def bytes (reports : List Report) : List (List Byte) :=
  reports.map Vector.toList

/--
Firmware, host and the links between them, one for each session.  Whether a
scan has completed since the active session became active is recorded for the
specification only.
-/
structure Combined (Info : Type) where
  app : App
  service : Service Info
  links : List Link
  scanned : Bool

variable {Info : Type}

def Combined.start : Combined Info where
  app := appStart
  service := newService
  links := []
  scanned := false

/-- A report which the PRHP endpoint accepted. -/
def prhpReport : Output → Option Report
  | .prhp report (.ok ()) => some report
  | _ => none

/-- Every PRHP report of the iteration is accepted. -/
def sendsAccepted (iteration : Iteration) : Bool :=
  (sendHid iteration.responseLink).isOk &&
    (sendHid iteration.prhpLink).isOk

/-- Send reports to the connected sessions. -/
def broadcast (reports : List Report) (sessions : List Session)
    (links : List Link) : List Link :=
  List.zipWith
    (fun session link =>
      if session.connected then link.carry reports else link)
    sessions links

inductive CombinedAction (Info : Type) where
  | firmware (iteration : Iteration)
  | host (action : ServiceAction Info)
  | deliver (id : Nat)

def Combined.firmwareMoves (system : Combined Info) (iteration : Iteration) :
    Combined Info :=
  let (app, outputs) := iterate system.app iteration
  { system with
    app := app
    links :=
      broadcast (outputs.filterMap prhpReport) system.service.sessions
        system.links
    scanned :=
      system.scanned || (observation system.app iteration).isSome }

/-- The host moves; a session which it opens gets a link. -/
def Combined.hostMoves (system : Combined Info)
    (service : Service Info) : Combined Info :=
  { system with
    service := service
    links :=
      system.links ++
        List.replicate (service.sessions.length - system.links.length)
          Link.fresh
    scanned :=
      decide (service.active = system.service.active) &&
        system.scanned }

def Combined.step (timeout : Int) (system : Combined Info) :
    CombinedAction Info → Option (Combined Info)
  | .firmware iteration =>
      if sendsAccepted iteration then
        some (system.firmwareMoves iteration)
      else
        none
  | .host action =>
      if action.reads then
        none
      else
        (system.service.step timeout action).map system.hostMoves
  | .deliver id =>
      match system.links[id]? with
      | some ⟨report :: rest, sent⟩ =>
          (system.service.step timeout
              (.session id (.read report.toList))).map
            (fun service =>
              { system with
                service := service
                links := system.links.set id ⟨rest, sent⟩ })
      | _ => none

def combinedMachine (Info : Type) (timeout : Int) :
    Machine (Combined Info) (CombinedAction Info) where
  start := Combined.start
  step := Combined.step timeout

/-! ## What an iteration reports -/

/-- Only card states decode to a card. -/
theorem decode_of_not_cardState
    {report : Report} (other : isCardState report = false) :
    (decodeCardStateSignal report.toList).toOption = none := by
  cases decoded : decodeCardStateSignal report.toList with
  | error failure => rfl
  | ok card =>
      rcases decodeCardStateSignal_ok decoded with ⟨shape, -⟩
      have type := shape.type
      have opcode := shape.opcode
      rw [byteAt_toList_of_lt _ (by omega)] at type opcode
      rw [isCardState, type, opcode] at other
      cases other

/-- A transition is an observed card, whose access code is decimal. -/
theorem transition_decimal
    {app : App} {iteration : Iteration} {card : ReaderCard}
    (changed : transition app iteration = some card) :
    DecimalLuid card.luid := by
  have observed : observation app iteration = some card :=
    (Option.filter_eq_some_iff.mp changed).1
  unfold observation at observed
  dsimp only at observed
  split at observed
  · cases observed
  · have guaranteed := (readerReadCard_decimal
      (serviceMessage app iteration).1.reader).run iteration.scanWorld
    cases scanned : ((readerReadCard
        (serviceMessage app iteration).1.reader).run
          iteration.scanWorld).1 with
    | error failure =>
        rw [scanned] at observed
        cases observed
    | ok found =>
        rw [scanned] at observed guaranteed
        cases observed
        exact guaranteed

/-- The reports of an iteration are replies and then its transition. -/
theorem iterate_reports
    (app : App) (iteration : Iteration)
    (accepted : sendsAccepted iteration = true) :
    ∃ replies : List Report,
      (∀ report ∈ replies, isCardState report = false) ∧
      (iterate app iteration).2.filterMap prhpReport =
        replies ++
          (transition app iteration).toList.map prhpPublishCardState := by
  rcases iterate_effect app iteration with ⟨-, outputs, replied, sent⟩
  refine ⟨outputs.filterMap prhpReport, ?_, ?_⟩
  · intro report member
    rcases List.mem_filterMap.mp member with ⟨output, among, same⟩
    have reply := replied output among
    unfold prhpReport at same
    split at same
    · cases same
      exact reply
    · cases same
  · have endpoint : sendHid iteration.prhpLink = .ok () := by
      unfold sendsAccepted at accepted
      cases known : sendHid iteration.prhpLink with
      | ok done => rfl
      | error failure => simp [known, Except.isOk, Except.toBool] at accepted
    rw [sent, List.filterMap_append]
    cases transition app iteration with
    | none => rfl
    | some card => simp [publish, prhpReport, endpoint]

theorem lastCard_append_replies
    (received : List (List Byte)) {replies : List Report}
    (others : ∀ report ∈ replies, isCardState report = false) :
    lastCard (received ++ bytes replies) = lastCard received := by
  have silent : cardStates (bytes replies) = [] := by
    unfold cardStates bytes
    rw [List.filterMap_map, List.filterMap_eq_nil_iff]
    intro report member
    exact decode_of_not_cardState (others report member)
  simp only [lastCard, cardStates] at silent ⊢
  rw [List.filterMap_append, silent, List.append_nil]

/-! ## The invariant of the links -/

/--
What has been sent to a connected session has been received or is in flight,
and it ends with the current card, once a card state was sent at all.
-/
structure Link.Agrees
    (link : Link) (session : Session) (current : ReaderCard) : Prop where
  delivered : session.received ++ bytes link.inFlight = bytes link.sent
  latest :
    lastCard (bytes link.sent) =
      if link.published then prhpProjection current else Card.none

theorem Link.fresh_agrees
    {session : Session} (unread : session.received = [])
    (current : ReaderCard) :
    Link.fresh.Agrees session current := by
  refine ⟨?_, rfl⟩
  rw [unread]
  rfl

/-- An iteration keeps a link in agreement. -/
theorem Link.Agrees.carry
    {link : Link} {session : Session} {app : App}
    (agrees : link.Agrees session app.current) {iteration : Iteration}
    (accepted : sendsAccepted iteration = true) :
    (link.carry ((iterate app iteration).2.filterMap prhpReport)).Agrees
      session (iterate app iteration).1.current := by
  rcases iterate_reports app iteration accepted with
    ⟨replies, others, reports⟩
  have current := (iterate_effect app iteration).1
  rw [reports]
  constructor
  · simp only [Link.carry, bytes, List.map_append]
    rw [← List.append_assoc]
    exact congrArg (· ++ _) agrees.delivered
  · have silent : replies.any isCardState = false := by
      rw [List.any_eq_false]
      intro report member
      simp [others report member]
    have before := lastCard_append_replies (bytes link.sent) others
    rw [agrees.latest] at before
    cases changed : transition app iteration with
    | none =>
        rw [changed, Option.getD_none] at current
        rw [current]
        simp only [Link.carry, Link.published, bytes, Option.toList_none,
          List.map_nil, List.append_nil, List.map_append, List.any_append,
          silent, Bool.or_false] at before ⊢
        exact before
    | some card =>
        rw [changed, Option.getD_some] at current
        have accepted := decode_publish card (transition_decimal changed)
        rw [current]
        simp only [Link.carry, Link.published, bytes, Option.toList_some,
          List.map_append, List.map_cons, List.map_nil]
        rw [← List.append_assoc, lastCard_append_of_ok _ accepted]
        simp

/-- Delivering the oldest report in flight keeps agreement. -/
theorem Link.Agrees.deliver
    {report : Report} {rest sent : List Report} {session after : Session}
    {current : ReaderCard}
    (agrees : Link.Agrees ⟨report :: rest, sent⟩ session current)
    (received : after.received = session.received ++ [report.toList]) :
    Link.Agrees ⟨rest, sent⟩ after current := by
  refine ⟨?_, agrees.latest⟩
  rw [received, List.append_assoc]
  exact agrees.delivered

structure Combined.Invariant
    (timeout : Int) (system : Combined Info) : Prop where
  service : (serviceMachine Info timeout).Reachable system.service
  linked : system.links.length = system.service.sessions.length
  agrees : ∀ (id : Nat) session link,
    system.service.sessions[id]? = some session →
    system.links[id]? = some link →
    session.connected = true →
      link.Agrees session system.app.current

variable {timeout : Int}

theorem Combined.Invariant.firmwareMoves
    {system : Combined Info} (invariant : system.Invariant timeout)
    {iteration : Iteration} (accepted : sendsAccepted iteration = true) :
    (system.firmwareMoves iteration).Invariant timeout := by
  refine ⟨invariant.service, ?_, ?_⟩
  · simp [Combined.firmwareMoves, broadcast, invariant.linked]
  · intro id session link found linked connected
    simp only [Combined.firmwareMoves, broadcast,
      List.getElem?_zipWith] at linked found
    rw [found] at linked
    cases before : system.links[id]? with
    | none => simp [before] at linked
    | some previous =>
        simp only [before, connected, if_true, Option.some.injEq] at linked
        rw [← linked]
        exact (invariant.agrees id session previous found before
          connected).carry accepted

/-- A step of the host which reads no report. -/
theorem Combined.Invariant.hostMoves
    {system : Combined Info} (invariant : system.Invariant timeout)
    {action : ServiceAction Info} {service : Service Info}
    (silent : action.reads = false)
    (taken : system.service.step timeout action = some service) :
    (system.hostMoves service).Invariant timeout := by
  have reached := invariant.service.step action taken
  have effect := Service.sessionsEffect_of_step taken
  rw [silent] at effect
  cases effect with
  | same sessions opened =>
      refine ⟨reached, ?_, ?_⟩
      · simp [Combined.hostMoves, sessions, invariant.linked]
      · intro id session link found linked connected
        simp only [Combined.hostMoves, sessions, invariant.linked,
          Nat.sub_self, List.replicate_zero, List.append_nil]
          at found linked
        exact invariant.agrees id session link found linked connected
  | opens info sessions opened =>
      refine ⟨reached, ?_, ?_⟩
      · simp [Combined.hostMoves, sessions, invariant.linked]
      · intro id session link found linked connected
        simp only [Combined.hostMoves, sessions, List.length_append,
          List.length_singleton, invariant.linked,
          Nat.add_sub_cancel_left, List.replicate_one] at found linked
        by_cases old : id < system.service.sessions.length
        · rw [List.getElem?_append_left old] at found
          rw [List.getElem?_append_left
            (invariant.linked ▸ old)] at linked
          exact invariant.agrees id session link found linked connected
        · rw [List.getElem?_append_right (by omega)] at found
          rw [List.getElem?_append_right
            (by rw [invariant.linked]; omega)] at linked
          obtain rfl : newSession = session :=
            List.mem_singleton.mp (List.mem_of_getElem? found) |>.symm
          obtain rfl : Link.fresh = link :=
            List.mem_singleton.mp (List.mem_of_getElem? linked) |>.symm
          exact Link.fresh_agrees rfl _
  | steps moved before after operation located stepped allowed sessions
      opened =>
      have quiet : operation.reads = false := by
        cases known : operation.reads with
        | false => rfl
        | true => exact (allowed known).symm
      refine ⟨reached, ?_, ?_⟩
      · simp [Combined.hostMoves, sessions, invariant.linked]
      · intro id session link found linked connected
        simp only [Combined.hostMoves, sessions, List.length_set,
          invariant.linked, Nat.sub_self, List.replicate_zero,
          List.append_nil] at found linked
        by_cases same : moved = id
        · subst same
          rcases List.getElem?_eq_some_iff.mp located with ⟨inside, -⟩
          rw [List.getElem?_set_self inside] at found
          cases found
          have agrees := invariant.agrees moved before link located linked
            (Session.connected_of_step stepped connected)
          exact ⟨by rw [Session.received_of_silent stepped quiet,
            agrees.delivered], agrees.latest⟩
        · rw [List.getElem?_set_ne same] at found
          exact invariant.agrees id session link found linked connected

theorem Combined.Invariant.deliver
    {system : Combined Info} (invariant : system.Invariant timeout)
    {id : Nat} {report : Report} {rest sent : List Report}
    {service : Service Info}
    (head : system.links[id]? = some ⟨report :: rest, sent⟩)
    (taken : system.service.step timeout
      (.session id (.read report.toList)) = some service) :
    Combined.Invariant timeout
      { system with
        service := service
        links := system.links.set id ⟨rest, sent⟩ } := by
  have reached : (serviceMachine Info timeout).Reachable service :=
    invariant.service.step (.session id (.read report.toList)) taken
  rcases Service.stepSession_eq_some taken with
    ⟨before, after, located, stepped, rfl⟩
  refine ⟨reached, by simp [invariant.linked], ?_⟩
  intro other session link found linked connected
  dsimp only at found linked
  by_cases same : id = other
  · subst same
    rcases List.getElem?_eq_some_iff.mp located with ⟨inside, -⟩
    rcases List.getElem?_eq_some_iff.mp head with ⟨available, -⟩
    rw [List.getElem?_set_self inside] at found
    rw [List.getElem?_set_self available] at linked
    cases found
    cases linked
    have agrees := invariant.agrees id before _ located head
      (Session.connected_of_step stepped connected)
    apply agrees.deliver
    simp only [SessionEvent.action, Session.step] at stepped
    split at stepped <;> cases stepped
    rfl
  · rw [List.getElem?_set_ne same] at found linked
    exact invariant.agrees other session link found linked connected

/-- Run lemma: the links agree in every reachable state. -/
theorem combined_invariant
    {system : Combined Info}
    (reached : (combinedMachine Info timeout).Reachable system) :
    system.Invariant timeout := by
  refine reached.invariant ?_ ?_
  · exact ⟨.start, rfl, by simp [combinedMachine, Combined.start,
      newService]⟩
  · intro state action next _ invariant taken
    cases action with
    | firmware iteration =>
        simp only [combinedMachine, Combined.step] at taken
        split at taken
        · rename_i accepted
          cases taken
          exact invariant.firmwareMoves accepted
        · cases taken
    | host action =>
        simp only [combinedMachine, Combined.step] at taken
        split at taken
        · cases taken
        · rename_i silent
          rcases Option.map_eq_some_iff.mp taken with ⟨service, stepped, rfl⟩
          exact invariant.hostMoves (by simpa using silent) stepped
    | deliver id =>
        simp only [combinedMachine, Combined.step] at taken
        split at taken
        · rename_i head
          rcases Option.map_eq_some_iff.mp taken with ⟨service, stepped, rfl⟩
          exact invariant.deliver head stepped
        · cases taken

/-! ## Card agreement -/

/-- No report is under way to the session or being processed by it. -/
def Settled (session : Session) (link : Link) : Prop :=
  link.inFlight = [] ∧
    (∀ card, session.loop ≠ .storing card) ∧
    ∀ state, session.loop ≠ .consuming state

theorem reading_of_settled
    {session : Session} {link : Link} (settled : Settled session link)
    (connected : session.connected = true) :
    session.loop = .reading := by
  rcases settled with ⟨-, notStoring, notConsuming⟩
  cases point : session.loop with
  | reading => rfl
  | storing card => exact (notStoring card point).elim
  | consuming state => exact (notConsuming state point).elim
  | _ => simp [Session.connected, LoopPoint.alive, point] at connected

/--
While the active session is connected and no report is under way, the host
shows the reader's card, or no card if none was published since the session was
opened.
-/
theorem card_agreement
    (Info : Type) (timeout : Int) (system : Combined Info)
    (reached : (combinedMachine Info timeout).Reachable system)
    (id : Nat) (session : Session) (link : Link)
    (active : system.service.active = some id)
    (found : system.service.sessions[id]? = some session)
    (linked : system.links[id]? = some link)
    (connected : session.connected = true)
    (settled : Settled session link) :
    system.service.currentCard =
      if link.published then
        prhpProjection system.app.current
      else
        Card.none := by
  have invariant := combined_invariant reached
  have agrees := invariant.agrees id session link found linked connected
  have valid := sessionsValid_of_reachable invariant.service
  have inner := invariant_of_reachable
    (valid.reachable session (List.mem_of_getElem? found))
  have everything : session.received = bytes link.sent := by
    rw [← agrees.delivered, settled.1]
    exact (List.append_nil _).symm
  calc
    system.service.currentCard = session.currentCard := by
      simp [Service.currentCard, active, found]
    _ = lastCard session.received :=
      inner.currentCard_settled (reading_of_settled settled connected)
    _ = lastCard (bytes link.sent) := by rw [everything]
    _ = _ := agrees.latest

/-! ## Runs of the combined system -/

/-- Test the active session and its link. -/
def Combined.examine (system : Combined Info)
    (test : Session → Link → Bool) : Bool :=
  match system.service.active with
  | none => false
  | some id =>
      match system.service.sessions[id]?, system.links[id]? with
      | some session, some link =>
          link.inFlight.isEmpty && decide (session.loop.rank = 0) &&
            test session link
      | _, _ => false

theorem Combined.examine_eq_true
    {system : Combined Info} {test : Session → Link → Bool}
    (passed : system.examine test = true) :
    ∃ id session link,
      system.service.active = some id ∧
      system.service.sessions[id]? = some session ∧
      system.links[id]? = some link ∧
      Settled session link ∧
      test session link = true := by
  unfold Combined.examine at passed
  split at passed
  · cases passed
  · rename_i id active
    split at passed
    · rename_i session link found linked
      simp only [Bool.and_eq_true, List.isEmpty_iff,
        decide_eq_true_eq] at passed
      rcases passed with ⟨⟨empty, rank⟩, tested⟩
      refine ⟨id, session, link, active, found, linked,
        ⟨empty, ?_, ?_⟩, tested⟩
      · intro card storing
        rcases LoopPoint.resting_of_rank rank with point | point <;>
          simp [point] at storing
      · intro state consuming
        rcases LoopPoint.resting_of_rank rank with point | point <;>
          simp [point] at consuming
    · cases passed

/-- A controller with an empty field. -/
def emptyWorld : Pn532World :=
  fun _ _ => .answering pn532CommandInListPassiveTarget [0x00]

/-- The firmware answers the version query of the first session. -/
def answering (now : Int) : Iteration :=
  { Iteration.scanning now emptyWorld acceptingLink with
    message := some ⟨.hid, encodeGetVersion 1⟩ }

/-- The firmware scans while all sends are accepted. -/
def scanning (now : Int) (world : Pn532World) : CombinedAction Nat :=
  .firmware (.scanning now world acceptingLink)

/-- The host connects, the firmware answering at the given time. -/
def connectingAt (now : Int) : List (CombinedAction Nat) :=
  [.host .run, .host (.opens 7), .host .run, .host .run, .host .run,
    .host .run, .host .writes, .firmware (answering now), .deliver 0,
    .host (.session 0 .loop), .host (.session 0 .loop),
    .host (.session 0 .loop), .host (.session 0 .loop),
    .host (.session 0 .loop), .host .responds, .host .run, .host .run,
    .host .run]

/-- A FeliCa card is presented to a connected reader. -/
def presenting (idm : Vector Byte 8) : List (CombinedAction Nat) :=
  connectingAt 0 ++
    [scanning 200000 (felicaWorld idm), .deliver 0,
      .host (.session 0 .loop)]

theorem card_agreement_felica :
    ∃ system : Combined Nat,
      (combinedMachine Nat 1000).Reachable system ∧
      system.app.current = felicaCard #v[1, 2, 3, 4, 5, 6, 7, 8] ∧
      system.service.currentCard = prhpProjection system.app.current := by
  rcases
      (combinedMachine Nat 1000).exists_reachable_of_replay
        (fun system =>
          system.examine (fun session link =>
            session.connected && link.published) &&
          decide (system.app.current =
            felicaCard #v[1, 2, 3, 4, 5, 6, 7, 8]))
        (presenting #v[1, 2, 3, 4, 5, 6, 7, 8]) (by decide +kernel) with
    ⟨system, reached, passed⟩
  simp only [Bool.and_eq_true, decide_eq_true_eq] at passed
  rcases passed with ⟨examined, current⟩
  rcases Combined.examine_eq_true examined with
    ⟨id, session, link, active, found, linked, settled, tested⟩
  rcases Bool.and_eq_true_iff.mp tested with ⟨connected, published⟩
  have agreement := card_agreement Nat 1000 system reached id session link
    active found linked connected settled
  rw [if_pos published] at agreement
  exact ⟨system, reached, current, agreement⟩

/--
A session which is opened while a card is held does not see it; and a session
which is being closed does not see its removal.
-/
theorem late_or_closing_session_disagrees :
    (¬ ∀ (Info : Type) (timeout : Int) (system : Combined Info),
      (combinedMachine Info timeout).Reachable system →
      ∀ id session link,
        system.service.active = some id →
        system.service.sessions[id]? = some session →
        system.links[id]? = some link →
        system.scanned = true →
        Settled session link →
          system.service.currentCard =
            prhpProjection system.app.current) ∧
    ¬ ∀ (Info : Type) (timeout : Int) (system : Combined Info),
      (combinedMachine Info timeout).Reachable system →
      ∀ id session link,
        system.service.active = some id →
        system.service.sessions[id]? = some session →
        system.links[id]? = some link →
        system.scanned = true →
        Settled session link →
        link.published = true →
          system.service.currentCard =
            prhpProjection system.app.current := by
  constructor
  · intro claimed
    rcases
        (combinedMachine Nat 1000).exists_reachable_of_replay
          (fun system =>
            system.examine (fun _ _ => true) && system.scanned &&
            decide (system.service.currentCard ≠
              prhpProjection system.app.current))
          ([scanning 0 (felicaWorld #v[1, 2, 3, 4, 5, 6, 7, 8])] ++
            connectingAt 100000 ++
            [scanning 200000 (felicaWorld #v[1, 2, 3, 4, 5, 6, 7, 8])])
          (by decide +kernel) with
      ⟨system, reached, passed⟩
    simp only [Bool.and_eq_true, decide_eq_true_eq] at passed
    rcases passed with ⟨⟨examined, scanned⟩, different⟩
    rcases Combined.examine_eq_true examined with
      ⟨id, session, link, active, found, linked, settled, -⟩
    exact different (claimed Nat 1000 system reached id session link
      active found linked scanned settled)
  · intro claimed
    rcases
        (combinedMachine Nat 1000).exists_reachable_of_replay
          (fun system =>
            system.examine (fun _ link => link.published) &&
            system.scanned &&
            decide (system.service.currentCard ≠
              prhpProjection system.app.current))
          (presenting #v[1, 2, 3, 4, 5, 6, 7, 8] ++
            [.host .callClose, .host (.closer 0), .host (.closer 0),
              .host (.closer 0), .host (.closer 0),
              scanning 400000 emptyWorld])
          (by decide +kernel) with
      ⟨system, reached, passed⟩
    simp only [Bool.and_eq_true, decide_eq_true_eq] at passed
    rcases passed with ⟨⟨examined, scanned⟩, different⟩
    rcases Combined.examine_eq_true examined with
      ⟨id, session, link, active, found, linked, settled, published⟩
    exact different (claimed Nat 1000 system reached id session link
      active found linked scanned settled published)

end Pareader.System.CardAgreement
