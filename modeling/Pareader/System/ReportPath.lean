import Pareader.Firmware.UsbPipelines
import Pareader.Host.HidOutput
import Pareader.System.CardAgreement

/-!
# The path of a report

The HID device of the host, with all of its goroutines, and the firmware, with
its callbacks and its main loop, are joined by the bus.  It carries the buffers
passed to `device.Write` to `tud_hid_set_report_cb`, in order, at any time after
the call; the reports which the PRHP endpoint has accepted are read in order,
unless they are dropped before the host reads them.

Nothing else is assumed.  Callers of `Write` race, the queue of the firmware may
overflow, and either side may stop; still every response which the host reads
answers a call of `Write` of its own.
-/

namespace Pareader.System.ReportPath

open Pareader.Core
open Pareader.Firmware.Hid
open Pareader.Firmware.AppMain
open Pareader.Firmware.UsbDevice
open Pareader.Firmware.UsbPipelines
open Pareader.Host.HidDevice hiding Device
open Pareader.Host.HidOutput
open Pareader.System.CardAgreement

/-! ## The joined system -/

/-- The two sides, the reports under way to the host, and what it has read. -/
structure Path where
  host : Process
  device : Device
  inFlight : List Report
  received : List Report

/-- The host has opened the device, which is switched on. -/
def Path.start : Path where
  host := opened
  device := poweredOn
  inFlight := []
  received := []

inductive PathAction where
  | host (action : Action)
  | firmware (action : UsbAction)
  | carry
  | deliver
  | drop (index : Nat)

/-- The action returns octets from `device.Read`. -/
def readsOctets : Action → Bool
  | .read (.returns (some _)) => true
  | _ => false

/-- The action is the arrival of a report for the PRHP interface. -/
def bringsReport : UsbAction → Bool
  | .setReport hidInstance reportId buffer =>
      decide (IsPrhpReport hidInstance reportId buffer)
  | _ => false

/-- The firmware moves; what the endpoint accepts is on its way. -/
def Path.firmwareMoves (path : Path) (next : Device) : Path :=
  { path with
    device := next
    inFlight :=
      path.inFlight ++
        (next.outputs.drop path.device.outputs.length).filterMap
          prhpReport }

/--
One step.  The first octet of a buffer which is carried is the identifier of the
report.
-/
def Path.step (path : Path) : PathAction → Option Path
  | .host action =>
      if readsOctets action then
        none
      else
        (path.host.step action).map (fun host => { path with host := host })
  | .firmware action =>
      if bringsReport action then
        none
      else
        (path.device.step action).map path.firmwareMoves
  | .carry =>
      match path.host.device.sent.drop path.device.reports.length with
      | (reportId :: buffer) :: _ =>
          (path.device.step (.setReport 0 reportId buffer)).map
            path.firmwareMoves
      | _ => none
  | .deliver =>
      match path.inFlight with
      | [] => none
      | report :: rest =>
          (path.host.step (.read (.returns (some report.toList)))).map
            (fun host =>
              { path with
                host := host
                inFlight := rest
                received := path.received ++ [report] })
  | .drop index =>
      some { path with inFlight := path.inFlight.eraseIdx index }

def pathMachine : Machine Path PathAction :=
  ⟨Path.start, Path.step⟩

/-! ## What one side does -/

theorem sent_of_loops
    {device next : Host.HidDevice.Device} {point onward : LoopPoint}
    {action : LoopAction} (loops : Loops device point action next onward) :
    device.sent <+: next.sent := by
  cases loops with
  | sent raw =>
      rw [sent_append]
      exact List.prefix_append _ _
  | closed closes => rw [(sameOutput_of_closes closes).sent]
  | _ => exact List.prefix_refl _

/-- Buffers are passed to `device.Write`, and never taken back. -/
theorem sent_of_step
    {process next : Process} {action : Action}
    (taken : process.step action = some next) :
    process.device.sent <+: next.device.sent := by
  cases steps_of_step taken with
  | @read action device reader moves =>
      rw [← (sameOutput_of_reads moves).sent]
  | loop moves => exact sent_of_loops moves
  | write found moves =>
      rcases enqueues_of_writes moves with rfl | ⟨copy, -, -, rfl⟩
      · exact List.prefix_refl _
      · exact List.prefix_refl _
  | close found moves => rw [← (sameOutput_of_closeMoves moves).sent]
  | _ => exact List.prefix_refl _

/-- What was handed to the USB functions stays handed to them. -/
theorem outputs_of_step
    {device next : Device} (ready : device.Ready) {action : UsbAction}
    (taken : device.step action = some next) :
    device.outputs <+: next.outputs := by
  cases (Device.effect_of_step ready taken).2 with
  | starts silent busy start => cases start <;> exact List.prefix_refl _
  | completes environment point => exact List.prefix_append _ _
  | _ => exact List.prefix_refl _

/-- Only the callback adds to the reports of the host. -/
theorem reports_of_step
    {device next : Device} (ready : device.Ready) {action : UsbAction}
    (other : bringsReport action = false)
    (taken : device.step action = some next) :
    next.reports = device.reports := by
  cases (Device.effect_of_step ready taken).2 with
  | starts silent busy start => cases start <;> rfl
  | reports accepted => exact (of_decide_eq_false other accepted).elim
  | _ => rfl

/-- A report of the right shape is recorded. -/
theorem reports_of_setReport
    {device next : Device} (ready : device.Ready)
    {hidInstance reportId : Byte} {buffer : List Byte}
    (accepted : IsPrhpReport hidInstance reportId buffer)
    (taken :
      device.step (.setReport hidInstance reportId buffer) = some next) :
    next.reports = device.reports ++ [buffer] := by
  have makes : device.makes (.setReport hidInstance reportId buffer) ≠
      none := by
    rw [Device.makes, if_pos accepted]
    exact Option.some_ne_none _
  cases (Device.effect_of_step ready taken).2 with
  | starts silent busy start => exact (makes silent).elim
  | idles silent busy => exact (makes silent).elim
  | reports accepted => rfl

/-! ## The invariant -/

/--
The reports of the host have come out of its device, in order, and what it has
read or may still read has been accepted by the endpoint, in order.
-/
structure Path.Joined (path : Path) : Prop where
  host : deviceMachine.Reachable path.host
  device : usbMachine.Reachable path.device
  carried :
    path.device.reports.map (fun buffer => 0 :: buffer) <+:
      path.host.device.sent
  accepted :
    (path.received ++ path.inFlight).Sublist
      (path.device.outputs.filterMap prhpReport)

theorem joined_start : Path.start.Joined where
  host := .start
  device := .start
  carried := List.nil_prefix
  accepted := List.nil_sublist _

/-- A step of the firmware puts on the way what it has handed over. -/
theorem Path.Joined.firmwareMoves
    {path : Path} (joined : path.Joined) {action : UsbAction}
    {next : Device} (taken : path.device.step action = some next)
    (carried :
      next.reports.map (fun buffer => 0 :: buffer) <+:
        path.host.device.sent) :
    (path.firmwareMoves next).Joined := by
  refine ⟨joined.host, joined.device.step action taken, carried, ?_⟩
  have ready := ready_of_reachable joined.device
  rcases outputs_of_step ready taken with ⟨handed, outputs⟩
  simp only [Path.firmwareMoves]
  rw [← outputs, List.drop_left, List.filterMap_append,
    ← List.append_assoc]
  exact joined.accepted.append (List.Sublist.refl _)

/-- What is passed to `device.Write` is a whole report behind a zero. -/
theorem whole_of_sent
    {process : Process} (reached : deviceMachine.Reachable process)
    {buffer : List Byte} (member : buffer ∈ process.device.sent) :
    ∃ raw, buffer = 0 :: raw ∧ raw.length = prhpReportSize := by
  have originates := originates_of_reachable reached
  have sent := (flows_of_reachable reached).sent_first originates
  rcases List.mem_map.mp (sent.subset member) with ⟨entry, inside, rfl⟩
  exact ⟨entry.2, rfl, originates.sized entry inside⟩

/-- The bus carries the next buffer. -/
theorem Path.Joined.carry
    {path : Path} (joined : path.Joined) {reportId : Byte}
    {buffer : List Byte} {rest : List (List Byte)}
    (waiting :
      path.host.device.sent.drop path.device.reports.length =
        (reportId :: buffer) :: rest)
    {next : Device}
    (taken :
      path.device.step (.setReport 0 reportId buffer) = some next) :
    (path.firmwareMoves next).Joined := by
  have member : reportId :: buffer ∈ path.host.device.sent := by
    apply List.mem_of_mem_drop
    rw [waiting]
    exact List.mem_cons_self
  rcases whole_of_sent joined.host member with ⟨raw, same, sized⟩
  cases same
  have whole : IsPrhpReport 0 0 buffer := by
    simp [IsPrhpReport, sized]
  refine joined.firmwareMoves taken ?_
  have earlier := List.prefix_iff_eq_take.mp joined.carried
  rw [List.length_map] at earlier
  rw [reports_of_setReport (ready_of_reachable joined.device) whole taken,
    List.map_append, earlier]
  refine ⟨rest, ?_⟩
  calc
    path.host.device.sent.take path.device.reports.length ++
          [0 :: buffer] ++ rest =
        path.host.device.sent.take path.device.reports.length ++
          path.host.device.sent.drop path.device.reports.length := by
      rw [waiting, List.append_assoc, List.singleton_append]
    _ = path.host.device.sent := List.take_append_drop _ _

/-- Step lemma: every action keeps the two sides joined. -/
theorem Path.Joined.step
    {path next : Path} (joined : path.Joined) (action : PathAction)
    (taken : path.step action = some next) :
    next.Joined := by
  cases action with
  | host action =>
      simp only [Path.step] at taken
      split at taken
      · cases taken
      · rcases Option.map_eq_some_iff.mp taken with ⟨host, moved, rfl⟩
        exact ⟨joined.host.step action moved, joined.device,
          joined.carried.trans (sent_of_step moved), joined.accepted⟩
  | firmware action =>
      simp only [Path.step] at taken
      split at taken
      · cases taken
      · rename_i other
        rcases Option.map_eq_some_iff.mp taken with ⟨device, moved, rfl⟩
        refine joined.firmwareMoves moved ?_
        rw [reports_of_step (ready_of_reachable joined.device)
          (Bool.eq_false_iff.mpr other) moved]
        exact joined.carried
  | carry =>
      simp only [Path.step] at taken
      split at taken
      · rename_i reportId buffer rest waiting
        rcases Option.map_eq_some_iff.mp taken with ⟨device, moved, rfl⟩
        exact joined.carry waiting moved
      · cases taken
  | deliver =>
      simp only [Path.step] at taken
      split at taken
      · cases taken
      · rename_i report rest arriving
        rcases Option.map_eq_some_iff.mp taken with ⟨host, moved, rfl⟩
        have host :=
          joined.host.step (.read (.returns (some report.toList))) moved
        refine ⟨host, joined.device,
          joined.carried.trans (sent_of_step moved), ?_⟩
        have accepted := joined.accepted
        rw [arriving] at accepted
        rwa [List.append_assoc, List.singleton_append]
  | drop index =>
      cases taken
      refine ⟨joined.host, joined.device, joined.carried, ?_⟩
      exact ((List.Sublist.refl _).append
        (List.eraseIdx_sublist _ index)).trans joined.accepted

theorem joined_of_reachable
    {path : Path} (reached : pathMachine.Reachable path) :
    path.Joined := by
  refine reached.invariant joined_start ?_
  intro state action next _ joined taken
  exact joined.step action taken

/-! ## Selections -/

/-- A function which finds less selects less. -/
theorem filterMap_sublist {Entry Result : Type}
    {less more : Entry → Option Result}
    (found : ∀ entry result,
      less entry = some result → more entry = some result)
    (entries : List Entry) :
    (entries.filterMap less).Sublist (entries.filterMap more) := by
  induction entries with
  | nil => exact List.Sublist.refl _
  | cons entry rest induction =>
      cases known : less entry with
      | some result =>
          rw [List.filterMap_cons_some known,
            List.filterMap_cons_some (found entry result known)]
          exact induction.cons_cons result
      | none =>
          rw [List.filterMap_cons_none known]
          cases other : more entry with
          | some result =>
              rw [List.filterMap_cons_some other]
              exact induction.cons result
          | none =>
              rw [List.filterMap_cons_none other]
              exact induction

/-- Whatever is selected from results was computed from a selection. -/
theorem exists_selection {Entry Result : Type}
    {compute : Entry → Option Result} {entries : List Entry}
    {results : List Result}
    (selected : results.Sublist (entries.filterMap compute)) :
    ∃ selection : List Entry, selection.Sublist entries ∧
      List.Forall₂ (fun entry result => compute entry = some result)
        selection results := by
  rcases List.sublist_filterMap_iff.mp selected with ⟨chosen, inside, rfl⟩
  refine ⟨chosen.filter (fun entry => (compute entry).isSome),
    List.filter_sublist.trans inside, ?_⟩
  clear inside selected
  induction chosen with
  | nil => exact .nil
  | cons entry rest induction =>
      cases computed : compute entry with
      | none => simpa [computed] using induction
      | some result => simpa [computed] using induction

/-! ## Responses and the calls which they answer -/

/-- What the host has read apart from card states. -/
def responses (reports : List Report) : List Report :=
  reports.filter (fun report => !isCardState report)

/-- The response of the firmware to the report of a call of `Write`. -/
def response (entry : Nat × List Byte) : Option Report :=
  prhpDispatch (load 64 entry.2 0)

/-- The report answers a call, which has returned without an error. -/
structure Answers (path : Path) (entry : Nat × List Byte)
    (report : Report) : Prop where
  called : ∃ call : WriteCall, path.host.writers[entry.1]? = some call ∧
    call.point = .returned none ∧ call.given = entry.2
  dispatched : response entry = some report
  sequence : sequenceOf report = sequenceOf (load 64 entry.2 0)

theorem response_eq (entry : Nat × List Byte) :
    response entry =
      (requestIn entry.2).map Firmware.PrhpConformance.answer := by
  rw [response, answer_requestIn]

/-- The answers to the requests among reports are the responses to them. -/
theorem filterMap_response (entries : List (Nat × List Byte)) :
    ((entries.map Prod.snd).filterMap requestIn).map
        Firmware.PrhpConformance.answer =
      entries.filterMap response := by
  rw [List.filterMap_map, List.map_filterMap]
  apply List.filterMap_congr
  intro entry _
  rw [response_eq, Function.comp_apply]

/-- A response carries the sequence of the report which it answers. -/
theorem sequence_of_response
    {entry : Nat × List Byte} {report : Report}
    (answered : response entry = some report) :
    sequenceOf report = sequenceOf (load 64 entry.2 0) := by
  rw [response_eq] at answered
  rcases Option.map_eq_some_iff.mp answered with ⟨request, held, rfl⟩
  unfold requestIn at held
  split at held
  · rw [Option.some.inj held]
    exact (Firmware.PrhpConformance.answer_answers request).sequence
  · cases held

/-- What the endpoint has accepted besides card states was a reply. -/
theorem responses_sublist (outputs : List Output) :
    (responses (outputs.filterMap prhpReport)).Sublist
      (outputs.filterMap prhpReply) := by
  rw [responses, List.filter_filterMap]
  apply filterMap_sublist
  intro output report accepted
  rcases Option.filter_eq_some_iff.mp accepted with ⟨sent, other⟩
  rw [Bool.not_eq_true'] at other
  unfold prhpReport at sent
  split at sent
  · cases sent
    rw [prhpReply, other]
    rfl
  · cases sent

/-- The reports of the host are those which calls of `Write` have sent. -/
theorem Path.Joined.reports_first
    {path : Path} (joined : path.Joined) :
    path.device.reports <+: path.host.device.enqueued.map Prod.snd := by
  have sent := (flows_of_reachable joined.host).sent_first
    (originates_of_reachable joined.host)
  have framed := (joined.carried.trans sent).map List.tail
  simpa [Function.comp_def] using framed

/-- What the host has read besides card states are responses to its calls. -/
theorem Path.Joined.responses_selected
    {path : Path} (joined : path.Joined) :
    (responses path.received).Sublist
      (path.host.device.enqueued.filterMap response) := by
  have read : (responses path.received).Sublist
      (responses (path.device.outputs.filterMap prhpReport)) :=
    ((List.sublist_append_left _ _).trans joined.accepted).filter _
  have requests :=
    (requestsIn_sublist joined.device).trans
      (joined.reports_first.sublist.filterMap requestIn)
  have answered := requests.map Firmware.PrhpConformance.answer
  rw [← prhpReply_of_reachable joined.device, filterMap_response]
    at answered
  exact (read.trans (responses_sublist _)).trans answered

/--
For every interleaving of the goroutines of the host, the bus and the firmware:
the reports which reach the firmware are the first ones which calls of `Write`
have sent, in order.  Each response which the host reads answers a call of its
own, in the order of these, and carries the sequence of its report.  Once all
reports have arrived and were serviced without a loss, every request among them
has been answered, which means that its response was handed to `send_hid`: the
endpoint may still refuse it.
-/
theorem responses_answer_calls
    (path : Path) (reached : pathMachine.Reachable path) :
    path.device.reports <+: path.host.device.enqueued.map Prod.snd ∧
    (∃ entries : List (Nat × List Byte),
      entries.Sublist path.host.device.enqueued ∧
      (entries.map Prod.fst).Nodup ∧
      List.Forall₂ (Answers path) entries (responses path.received)) ∧
    (path.device.reports.length = path.host.device.enqueued.length →
      path.device.NothingLost → Drained path.device →
      path.device.outputs.filterMap prhpReply =
        path.host.device.enqueued.filterMap response) := by
  have joined := joined_of_reachable reached
  have originates := originates_of_reachable joined.host
  refine ⟨joined.reports_first, ?_, ?_⟩
  · rcases exists_selection joined.responses_selected with
      ⟨entries, inside, answers⟩
    refine ⟨entries, inside,
      originates.once.sublist (inside.map Prod.fst), ?_⟩
    have known : ∀ entry ∈ entries, ∃ call : WriteCall,
        path.host.writers[entry.1]? = some call ∧
          call.point = .returned none ∧ call.given = entry.2 :=
      fun entry member => originates.entries entry (inside.subset member)
    refine List.Forall₂.imp ?_
      ((List.forall₂_and_left entries _).mpr ⟨known, answers⟩)
    intro entry report answer
    exact ⟨answer.1, answer.2, sequence_of_response answer.2⟩
  · intro arrived complete drained
    have all : path.device.reports =
        path.host.device.enqueued.map Prod.snd := by
      apply joined.reports_first.eq_of_length
      rw [List.length_map]
      exact arrived
    rw [prhpReply_of_reachable joined.device,
      requestsIn_complete complete drained, all, filterMap_response]

/-- A version request with the sequence 7 is written, carried and answered. -/
def asking : List PathAction :=
  startsUp.map PathAction.firmware ++
    [.host (.store 0 ([0x01, 0x01, 0x07] ++ List.replicate 61 0)),
      .host (.callWrite 0), .host (.write 0 .check), .host (.write 0 .load),
      .host (.write 0 .clone), .host (.write 0 .enqueue),
      .host (.loop .dequeue), .host (.loop .send), .carry] ++
    iterates.map PathAction.firmware ++
    [.host (.loop (.returns (some 65))), .host (.read .read), .deliver]

theorem responses_answer_calls_asking :
    ∃ (path : Path) (entry : Nat × List Byte) (report : Report),
      pathMachine.Reachable path ∧
      responses path.received = [report] ∧
      Answers path entry report ∧
      path.device.outputs.filterMap prhpReply =
        path.host.device.enqueued.filterMap response := by
  rcases
      pathMachine.exists_reachable_of_replay
        (fun path =>
          settled path.device &&
            decide (path.device.reports.length =
              path.host.device.enqueued.length) &&
            decide ((responses path.received).length = 1))
        asking (by decide +kernel) with
    ⟨path, reached, passed⟩
  simp only [Bool.and_eq_true, decide_eq_true_eq] at passed
  rcases passed with ⟨⟨complete, arrived⟩, read⟩
  rcases settled_complete complete with ⟨nothingLost, drained⟩
  rcases List.length_eq_one_iff.mp read with ⟨report, read⟩
  rcases responses_answer_calls path reached with
    ⟨-, ⟨entries, -, -, answers⟩, answered⟩
  rw [read] at answers
  cases answers with
  | @cons entry _ _ _ answer _ =>
      exact ⟨path, entry, report, reached, read, answer,
        answered arrived nothingLost drained⟩

end Pareader.System.ReportPath
