import Pareader.Host.HidDevice

/-!
# Discipline on the HID handle

The handle of the HID library is closed once.  Whoever swaps `closed` first
holds the right to call `device.Close`, and gives it up with the call; the
number of these rights and of these calls is the flag itself.  The write loop
closes the handle after its last write, and `Close` waits until the loop has
ended, so no write follows.

Reads are another matter.  `Write` looks at `stopping` before it goes on, `Read`
does not: a read loop which is between two reads when the handle is closed
reads from the closed handle.  Otherwise it is the failure of the pending read
which ends the loop.
-/

namespace Pareader.Host.HidHandle

open Pareader.Core
open Pareader.Host.Protocol
open Pareader.Host.HidDevice

/-! ## The discipline -/

/-- The call transfers a report. -/
def Transfers : HandleCall → Prop
  | .read => True
  | .write _ => True
  | .close => False

/-- The handle is closed at most once, and no transfer starts afterwards. -/
structure Disciplined (calls : List HandleCall) : Prop where
  once : calls.count .close ≤ 1
  after : calls.Pairwise
    (fun earlier later => earlier = .close → ¬ Transfers later)

/-- Anything may be called on a handle which is not closed. -/
theorem Disciplined.append
    {calls : List HandleCall} (disciplined : Disciplined calls)
    (unclosed : .close ∉ calls) (call : HandleCall) :
    Disciplined (calls ++ [call]) := by
  constructor
  · rw [List.count_append, List.count_eq_zero.mpr unclosed, Nat.zero_add]
    exact List.count_le_length
  · rw [List.pairwise_append]
    refine ⟨disciplined.after, List.pairwise_singleton _ _, ?_⟩
    intro earlier member later _ closes
    rw [closes] at member
    exact (unclosed member).elim

/-- A transfer on a closed handle breaks the discipline. -/
theorem not_disciplined_append
    {calls : List HandleCall} (closed : .close ∈ calls)
    {call : HandleCall} (transfers : Transfers call) :
    ¬ Disciplined (calls ++ [call]) := by
  intro disciplined
  have after := (List.pairwise_append.mp disciplined.after).2.2
  exact after .close closed call (List.mem_singleton_self call) rfl
    transfers

/-! ## The right to close -/

/-- Whether a call of `closeHandle` has won and has still to close. -/
def holds : HandlePoint → Nat
  | .swap => 0
  | .call => 1
  | .calling => 0

def holdsNext : HandleNext → Nat
  | .continues point => holds point
  | .returns _ => 0

def loopHolds : LoopPoint → Nat
  | .closing point => holds point
  | _ => 0

def closeHolds : ClosePoint → Nat
  | .closing point => holds point
  | _ => 0

/-- The write loop has closed the handle or has ended. -/
def Late : LoopPoint → Prop
  | .closing .call => True
  | .closing .calling => True
  | .returning => True
  | .ended => True
  | _ => False

/-- Who may close the handle, and when. -/
structure Guards (process : Process) : Prop where
  rights :
    process.device.calls.count .close +
        (loopHolds process.loop + (process.closers.map closeHolds).sum) =
      process.device.closed.toNat
  late : process.device.closed = true → Late process.loop
  ended : process.device.writerDone = true → process.loop = .ended
  joined : ∀ point, ClosePoint.closing point ∈ process.closers →
    process.device.writerDone = true

/-- One operation of `closeHandle` keeps the account of the rights. -/
theorem rights_of_closes
    {device next : Device} {point : HandlePoint} {action : HandleAction}
    {onward : HandleNext}
    (closes : Closes device point action next onward) :
    next.calls.count .close + holdsNext onward + device.closed.toNat =
      device.calls.count .close + holds point + next.closed.toNat := by
  cases closes with
  | lost closed => rfl
  | won fresh =>
      rw [fresh]
      simp only [holdsNext, holds, Bool.toNat_false, Bool.toNat_true]
  | called =>
      simp only [List.count_append, holdsNext, holds]
      rfl
  | returned succeeds failure => rfl

/-- A handle which someone has the right to close is open. -/
theorem Guards.unclosed
    {process : Process} (guards : Guards process)
    (held : 0 < loopHolds process.loop +
      (process.closers.map closeHolds).sum) :
    .close ∉ process.device.calls := by
  have rights := guards.rights
  have flag := Bool.toNat_le process.device.closed
  apply List.count_eq_zero.mp
  omega

/-- While the write loop writes, the handle is open. -/
theorem Guards.unclosed_of_not_late
    {process : Process} (guards : Guards process)
    (early : ¬ Late process.loop) :
    .close ∉ process.device.calls := by
  have rights := guards.rights
  have fresh : process.device.closed = false := by
    rw [← Bool.not_eq_true]
    exact fun closed => early (guards.late closed)
  rw [fresh, Bool.toNat_false] at rights
  apply List.count_eq_zero.mp
  omega

/-- The rights of the closers after one of them has moved. -/
theorem sum_holds_set
    {closers : List ClosePoint} {number : Nat} {point : ClosePoint}
    (found : closers[number]? = some point) (onward : ClosePoint) :
    ((closers.set number onward).map closeHolds).sum + closeHolds point =
      (closers.map closeHolds).sum + closeHolds onward := by
  induction closers generalizing number with
  | nil => cases found
  | cons first rest induction =>
      cases number with
      | zero =>
          cases found
          simp only [List.set_cons_zero, List.map_cons, List.sum_cons]
          omega
      | succ number =>
          have rest := induction found
          simp only [List.set_cons_succ, List.map_cons, List.sum_cons]
          omega

/-! ## Steps -/

/-- What `closeHandle` leaves alone. -/
theorem writerDone_of_closes
    {device next : Device} {point : HandlePoint} {action : HandleAction}
    {onward : HandleNext}
    (closes : Closes device point action next onward) :
    next.writerDone = device.writerDone := by
  cases closes <;> rfl

/-- Other devices and readers with the same flags and the same closings. -/
theorem Guards.same
    {process : Process} (guards : Guards process)
    {device : Device} {reader : ReadPoint}
    {writers : List WriteCall} {memory : Nat → List Byte}
    (count : device.calls.count .close =
      process.device.calls.count .close)
    (closed : device.closed = process.device.closed)
    (writerDone : device.writerDone = process.device.writerDone) :
    Guards ⟨device, reader, process.loop, writers, process.closers,
      memory⟩ := by
  constructor
  · rw [count, closed]
    exact guards.rights
  · rw [closed]
    exact guards.late
  · rw [writerDone]
    exact guards.ended
  · rw [writerDone]
    exact guards.joined

/-- An early write loop moves on without closing. -/
theorem Guards.early
    {process : Process} (guards : Guards process)
    (early : ¬ Late process.loop) {device : Device} {loop : LoopPoint}
    (count : device.calls.count .close =
      process.device.calls.count .close)
    (closed : device.closed = process.device.closed)
    (writerDone : device.writerDone = process.device.writerDone)
    (free : loopHolds process.loop = 0) (freeNext : loopHolds loop = 0) :
    Guards { process with device := device, loop := loop } := by
  constructor
  · rw [count, closed, ← guards.rights, free, freeNext]
  · rw [closed]
    intro isClosed
    exact (early (guards.late isClosed)).elim
  · rw [writerDone]
    intro done
    rw [guards.ended done] at early
    exact (early trivial).elim
  · rw [writerDone]
    exact guards.joined

theorem guards_of_loops
    {process : Process} (guards : Guards process)
    {action : LoopAction} {device : Device} {loop : LoopPoint}
    (loops : Loops process.device process.loop action device loop) :
    Guards { process with device := device, loop := loop } := by
  rcases process with ⟨before, reader, point, writers, closers, memory⟩
  cases loops with
  | dequeued raw rest queued => exact guards.early id rfl rfl rfl rfl rfl
  | finished done => exact guards.early id rfl rfl rfl rfl rfl
  | sent raw =>
      refine guards.early id ?_ rfl rfl rfl rfl
      rw [List.count_append]
      rfl
  | full result full => exact guards.early id rfl rfl rfl rfl rfl
  | failed result failed => exact guards.early id rfl rfl rfl rfl rfl
  | stopped point stopping done onward =>
      refine guards.early id rfl rfl rfl rfl ?_
      cases onward <;> rfl
  | @closed point action next onward closes =>
      have account := rights_of_closes closes
      have rights := guards.rights
      have same := writerDone_of_closes closes
      have holder : loopHolds onward.loopPoint = holdsNext onward := by
        cases onward <;> rfl
      dsimp only at account
      constructor
      · simp only [loopHolds] at rights
        dsimp only
        rw [holder]
        omega
      · intro _
        cases closes with
        | lost closed => exact (guards.late closed).elim
        | won fresh => trivial
        | called => trivial
        | returned succeeds failure => trivial
      · rw [same]
        intro done
        cases guards.ended done
      · rw [same]
        exact guards.joined
  | ended =>
      refine ⟨guards.rights, fun _ => trivial, fun _ => rfl, ?_⟩
      exact fun _ _ => rfl

theorem guards_of_closeMoves
    {process : Process} (guards : Guards process)
    {number : Nat} {point onward : ClosePoint} {action : CloseAction}
    {device : Device} (found : process.closers[number]? = some point)
    (moves : CloseMoves process.device point action device onward) :
    Guards { process with
      device := device
      closers := process.closers.set number onward } := by
  have moved := sum_holds_set found onward
  have rights := guards.rights
  cases moves with
  | stopped stop stopping done later =>
      have free : closeHolds (later.elim .waiting .stopping) = 0 := by
        cases later <;> rfl
      refine ⟨?_, guards.late, guards.ended, ?_⟩
      · simp only [closeHolds] at free moved
        dsimp only
        omega
      · intro closing member
        rcases List.mem_or_eq_of_mem_set member with earlier | same
        · exact guards.joined closing earlier
        · cases later <;> cases same
  | waited done =>
      refine ⟨?_, guards.late, guards.ended, fun _ _ => done⟩
      simp only [closeHolds, holds] at moved
      dsimp only
      omega
  | @closed handle action next after closes =>
      have account := rights_of_closes closes
      have same := writerDone_of_closes closes
      have done := guards.joined handle (List.mem_of_getElem? found)
      have left := guards.ended done
      have holder : closeHolds after.closePoint = holdsNext after := by
        cases after <;> rfl
      constructor
      · rw [holder] at moved
        simp only [closeHolds] at moved
        dsimp only
        omega
      · intro _
        rw [left]
        trivial
      · exact fun _ => left
      · rw [same]
        exact fun _ _ => done

/-- Step lemma. -/
theorem guards_of_steps
    {process next : Process} {action : Action}
    (guards : Guards process) (steps : Steps process action next) :
    Guards next := by
  cases steps with
  | stored buffer octets owned => exact guards.same rfl rfl rfl
  | read moves =>
      cases process
      cases moves with
      | read =>
          refine guards.same ?_ rfl rfl
          rw [List.count_append]
          rfl
      | full raw sized => exact guards.same rfl rfl rfl
      | failed outcome failure rejected => exact guards.same rfl rfl rfl
      | dispatched raw => exact guards.same rfl rfl rfl
      | stopped point failure stopping done onward =>
          exact guards.same rfl rfl rfl
  | loop moves => exact guards_of_loops guards moves
  | writeCalled buffer => exact guards.same rfl rfl rfl
  | write found moves =>
      rcases enqueues_of_writes moves with rfl | ⟨copy, -, -, rfl⟩
      · exact guards.same rfl rfl rfl
      · exact guards.same rfl rfl rfl
  | closeCalled =>
      refine ⟨?_, guards.late, guards.ended, ?_⟩
      · rw [List.map_append, List.sum_append]
        exact guards.rights
      · intro point member
        rcases List.mem_append.mp member with earlier | last
        · exact guards.joined point earlier
        · cases List.mem_singleton.mp last
  | close found moves => exact guards_of_closeMoves guards found moves

theorem guards_opened : Guards opened := by
  refine ⟨rfl, ?_, ?_, ?_⟩
  · intro closed
    cases closed
  · intro done
    cases done
  · intro point member
    cases member

/-- In every run, with or without further reads, the handle is closed once. -/
theorem closed_once
    {process : Process} (reached : deviceMachine.Reachable process) :
    process.device.calls.count .close ≤ 1 := by
  have guards : Guards process := by
    refine reached.invariant guards_opened ?_
    intro state action next _ guards taken
    exact guards_of_steps guards (steps_of_step taken)
  have rights := guards.rights
  have flag := Bool.toNat_le process.device.closed
  omega

/-! ## Reads -/

/-- The read loop is going to call `device.Read` without a further check. -/
def BetweenReads : ReadPoint → Prop
  | .between => True
  | .dispatching _ => True
  | _ => False

/--
The handle is not closed between two reads, and a read which is pending when it
is closed does not succeed.
-/
def ReadsEnd (process : Process) : Action → Prop
  | .loop (.handle .call) => ¬ BetweenReads process.reader
  | .close _ (.handle .call) => ¬ BetweenReads process.reader
  | .read (.returns (some raw)) =>
      raw.length = reportSize → .close ∉ process.device.calls
  | _ => True

/-- No read follows when the handle has been closed. -/
structure Settled (process : Process) : Prop where
  guards : Guards process
  disciplined : Disciplined process.device.calls
  resting : .close ∈ process.device.calls → ¬ BetweenReads process.reader

/-- The calls on the handle are those before, or one more. -/
theorem Settled.same
    {process next : Process} (settled : Settled process)
    (guards : Guards next)
    (calls : next.device.calls = process.device.calls)
    (reader : next.reader = process.reader) :
    Settled next := by
  refine ⟨guards, ?_, ?_⟩
  · rw [calls]
    exact settled.disciplined
  · rw [calls, reader]
    exact settled.resting

theorem settled_of_reads
    {process : Process} (settled : Settled process)
    {action : ReadAction} {device : Device} {reader : ReadPoint}
    (met : ReadsEnd process (.read action))
    (guards : Guards { process with device := device, reader := reader })
    (reads : Reads process.device process.reader action device reader) :
    Settled { process with device := device, reader := reader } := by
  rcases process with ⟨before, point, loop, writers, closers, memory⟩
  cases reads with
  | read =>
      have unclosed : .close ∉ before.calls :=
        fun closed => settled.resting closed trivial
      exact ⟨guards, settled.disciplined.append unclosed .read, fun _ => id⟩
  | full raw sized =>
      refine ⟨guards, settled.disciplined, ?_⟩
      intro closed
      exact (met sized closed).elim
  | failed outcome failure rejected =>
      exact ⟨guards, settled.disciplined, fun _ => id⟩
  | dispatched raw =>
      refine ⟨guards, settled.disciplined, ?_⟩
      intro closed
      exact (settled.resting closed trivial).elim
  | stopped point failure stopping done onward =>
      refine ⟨guards, settled.disciplined, ?_⟩
      intro _
      cases onward <;> exact id

/-- Whoever calls `device.Close` has the right to. -/
theorem Settled.closes
    {process next : Process} (settled : Settled process)
    (guards : Guards next)
    {point : HandlePoint} {action : HandleAction} {device : Device}
    {onward : HandleNext}
    (closes : Closes process.device point action device onward)
    (held : holds point ≤ loopHolds process.loop +
      (process.closers.map closeHolds).sum)
    (apart : action = .call → ¬ BetweenReads process.reader)
    (moved : next.device = device)
    (reader : next.reader = process.reader) :
    Settled next := by
  cases closes with
  | lost closed => exact settled.same guards (by rw [moved]) reader
  | won fresh => exact settled.same guards (by rw [moved]) reader
  | returned succeeds failure =>
      exact settled.same guards (by rw [moved]) reader
  | called =>
      refine ⟨guards, ?_, ?_⟩
      · rw [moved]
        exact settled.disciplined.append (settled.guards.unclosed held)
          .close
      · rw [reader]
        exact fun _ => apart rfl

theorem settled_of_loops
    {process : Process} (settled : Settled process)
    {action : LoopAction} {device : Device} {loop : LoopPoint}
    (met : ReadsEnd process (.loop action))
    (guards : Guards { process with device := device, loop := loop })
    (loops : Loops process.device process.loop action device loop) :
    Settled { process with device := device, loop := loop } := by
  rcases process with ⟨before, reader, point, writers, closers, memory⟩
  cases loops with
  | sent raw =>
      have unclosed := settled.guards.unclosed_of_not_late id
      refine ⟨guards, settled.disciplined.append unclosed _, ?_⟩
      intro closed
      rcases List.mem_append.mp closed with earlier | last
      · exact settled.resting earlier
      · cases List.mem_singleton.mp last
  | closed closes =>
      refine settled.closes guards closes (Nat.le_add_right _ _) ?_ rfl rfl
      rintro rfl
      exact met
  | _ => exact settled.same guards rfl rfl

theorem settled_of_closeMoves
    {process : Process} (settled : Settled process)
    {number : Nat} {point onward : ClosePoint} {action : CloseAction}
    {device : Device} (found : process.closers[number]? = some point)
    (met : ReadsEnd process (.close number action))
    (guards : Guards { process with
      device := device
      closers := process.closers.set number onward })
    (moves : CloseMoves process.device point action device onward) :
    Settled { process with
      device := device
      closers := process.closers.set number onward } := by
  cases moves with
  | stopped stop stopping done later => exact settled.same guards rfl rfl
  | waited done => exact settled.same guards rfl rfl
  | @closed point action next onward closes =>
      refine settled.closes guards closes ?_ ?_ rfl rfl
      · have moved := sum_holds_set found .waiting
        simp only [closeHolds] at moved
        omega
      · rintro rfl
        exact met

/-- Step lemma. -/
theorem settled_of_steps
    {process next : Process} {action : Action}
    (settled : Settled process) (met : ReadsEnd process action)
    (steps : Steps process action next) :
    Settled next := by
  have guards := guards_of_steps settled.guards steps
  cases steps with
  | stored buffer octets owned => exact settled.same guards rfl rfl
  | read moves => exact settled_of_reads settled met guards moves
  | loop moves => exact settled_of_loops settled met guards moves
  | writeCalled buffer => exact settled.same guards rfl rfl
  | write found moves =>
      rcases enqueues_of_writes moves with rfl | ⟨copy, -, -, rfl⟩
      · exact settled.same guards rfl rfl
      · exact settled.same guards rfl rfl
  | closeCalled => exact settled.same guards rfl rfl
  | close found moves =>
      exact settled_of_closeMoves settled found met guards moves

/-! ## Every interleaving -/

/--
In every run in which the handle is closed during a last read or after it, the
handle is closed at most once and nothing is transferred afterwards.
-/
theorem disciplined_of_readsEnd
    {process : Process}
    (reached : deviceMachine.ReachableWhile ReadsEnd process) :
    Disciplined process.device.calls := by
  have settled : Settled process := by
    refine reached.invariant ?_ ?_
    · refine ⟨guards_opened, ⟨Nat.zero_le 1, List.Pairwise.nil⟩, ?_⟩
      intro closed
      cases closed
    · intro state action next met settled taken
      exact settled_of_steps settled met (steps_of_step taken)
  exact settled.disciplined

/-- `Close` while a read is pending, which the closed handle then fails. -/
theorem disciplined_pendingRead :
    ∃ process, deviceMachine.ReachableWhile ReadsEnd process ∧
      process.device.calls = [.read, .close] ∧
      Disciplined process.device.calls := by
  have run :=
    @Machine.ReachableWhile.start _ _ deviceMachine ReadsEnd
    |>.step (.read .read) trivial rfl
    |>.step .callClose trivial rfl
    |>.step (.close 0 .stop) trivial rfl
    |>.step (.close 0 .stop) trivial rfl
    |>.step (.loop .seeDone) trivial rfl
    |>.step (.loop .finish) trivial rfl
    |>.step (.close 0 .wait) trivial rfl
    |>.step (.close 0 (.handle .swap)) trivial rfl
    |>.step (.close 0 (.handle .call)) id rfl
    |>.step (.read (.returns none)) trivial rfl
  exact ⟨_, run, rfl, disciplined_of_readsEnd run⟩

/-! ## A read on the closed handle -/

/-- The next read of a loop between two reads is on the closed handle. -/
theorem undisciplined_of_between
    {process : Process} (closed : .close ∈ process.device.calls)
    (between : BetweenReads process.reader) :
    ∃ trace final, deviceMachine.replay process trace = some final ∧
      ¬ Disciplined final.device.calls := by
  have broken := @not_disciplined_append _ closed .read trivial
  rcases process with ⟨device, reader, loop, writers, closers, memory⟩
  cases reader with
  | between => exact ⟨[.read .read], _, rfl, broken⟩
  | dispatching raw =>
      exact ⟨[.read .dispatch, .read .read], _, rfl, broken⟩
  | reading => exact between.elim
  | stopping point failure => exact between.elim
  | ended failure => exact between.elim

/--
The condition is exact: after a step which breaks it the read loop breaks the
discipline with its next read.
-/
theorem undisciplined_of_violation
    {process next : Process} {action : Action}
    (taken : deviceMachine.step process action = some next)
    (violated : ¬ ReadsEnd process action) :
    ∃ trace final, deviceMachine.replay next trace = some final ∧
      ¬ Disciplined final.device.calls := by
  have steps := steps_of_step taken
  cases steps with
  | stored buffer octets owned => exact (violated trivial).elim
  | writeCalled buffer => exact (violated trivial).elim
  | write found moves => exact (violated trivial).elim
  | closeCalled => exact (violated trivial).elim
  | read moves =>
      rcases process with ⟨device, reader, loop, writers, closers, memory⟩
      cases moves with
      | full raw sized =>
          refine undisciplined_of_between ?_ trivial
          by_contra unclosed
          exact violated (fun _ => unclosed)
      | failed outcome failure rejected =>
          cases outcome with
          | none => exact (violated trivial).elim
          | some raw =>
              apply violated.elim
              intro sized
              exact (rejected raw rfl sized).elim
      | _ => exact (violated trivial).elim
  | loop moves =>
      rcases process with ⟨device, reader, loop, writers, closers, memory⟩
      cases moves with
      | closed closes =>
          cases closes with
          | called =>
              refine undisciplined_of_between ?_ (not_not.mp violated)
              exact List.mem_append_right _ List.mem_cons_self
          | _ => exact (violated trivial).elim
      | _ => exact (violated trivial).elim
  | close found moves =>
      cases moves with
      | closed closes =>
          cases closes with
          | called =>
              refine undisciplined_of_between ?_ (not_not.mp violated)
              exact List.mem_append_right _ List.mem_cons_self
          | _ => exact (violated trivial).elim
      | _ => exact (violated trivial).elim

/-- `Close` while the read loop dispatches a report. -/
def closeDuringDispatch : List Action :=
  [.read .read, .read (.returns (some (List.replicate 64 0))), .callClose,
    .close 0 .stop, .close 0 .stop, .loop .seeDone, .loop .finish,
    .close 0 .wait, .close 0 (.handle .swap), .close 0 (.handle .call),
    .read .dispatch, .read .read]

theorem closedHandle_read :
    ∃ process, deviceMachine.Reachable process ∧
      process.device.calls = [.read, .close, .read] ∧
      ¬ Disciplined process.device.calls := by
  rcases
      deviceMachine.exists_reachable_of_replay
        (fun process => process.device.calls == [.read, .close, .read])
        closeDuringDispatch (by decide +kernel) with
    ⟨process, reached, calls⟩
  have read := eq_of_beq calls
  refine ⟨process, reached, read, ?_⟩
  rw [read]
  exact @not_disciplined_append [.read, .close] (by decide) .read trivial

end Pareader.Host.HidHandle
