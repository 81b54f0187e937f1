import Pareader.Core.Machine
import Pareader.Host.Protocol

/-!
# The HID device of the host

A `Device` shares one handle of the HID library among goroutines: the read loop
of its session, its own `writeLoop`, and any number of callers of `Write` and
`Close`.  They meet in two atomic flags and three channels.  Each operation on
one of these, and the start and the return of each call on the handle, is one
step; the goroutines are interleaved in any order.

A goroutine is a control point.  Its step function is given the device and
returns the next one, so that no goroutine can move another.

Callers keep their buffers.  What a buffer holds may change whenever no call of
`Write` is about to copy it, which is what the owner of a byte slice may do
without a data race.
-/

namespace Pareader.Host.HidDevice

open Pareader.Core
open Pareader.Host.Protocol

/-! ## The device -/

/-- The errors which the operations of a device return. -/
inductive DeviceError where
  | invalidReport
  | shortReport
  | closed
  | read
  | close
deriving DecidableEq, Repr

/-- A call on the handle of the HID library. -/
inductive HandleCall where
  | read
  | write (report : List Byte)
  | close
deriving DecidableEq, Repr

/--
`Device`, with what has happened to its handle and its queue.

`calls` are the calls on the handle in the order of their starts, `results`
what the calls of `device.Write` returned: a number of octets, or an error.
`enqueued` are the reports sent to the channel, each with the call of `Write`
which sent it.
-/
structure Device where
  writes : List (List Byte)
  done : Bool
  writerDone : Bool
  stopping : Bool
  closed : Bool
  calls : List HandleCall
  results : List (Option Nat)
  enqueued : List (Nat × List Byte)

/-- A device as `Open` returns it. -/
def openedDevice : Device :=
  ⟨[], false, false, false, false, [], [], []⟩

/-- The capacity of the channel `writes`. -/
def writesCapacity : Nat := 64

/-- The buffer which `writeReport` passes to `device.Write`. -/
def hidReport (raw : List Byte) : List Byte :=
  0 :: (raw.take reportSize ++
    List.replicate (reportSize - raw.length) 0)

/-- The octets passed to `device.Write`. -/
def HandleCall.report : HandleCall → Option (List Byte)
  | .read => none
  | .write report => some report
  | .close => none

/-- The buffers passed to `device.Write`, in order. -/
def Device.sent (device : Device) : List (List Byte) :=
  device.calls.filterMap HandleCall.report

/-! ## The functions which goroutines share -/

/-- A control point of `stop`. -/
inductive StopPoint where
  | swap
  | close
deriving DecidableEq, Repr

/-- One operation of `stop`, and where it continues unless it returns. -/
def Device.stop (device : Device) : StopPoint → Device × Option StopPoint
  | .swap =>
      if device.stopping then
        (device, none)
      else
        ({ device with stopping := true }, some .close)
  | .close => ({ device with done := true }, none)

/-- A control point of `closeHandle`. -/
inductive HandlePoint where
  | swap
  | call
  | calling
deriving DecidableEq, Repr

/-- What can happen in `closeHandle`. -/
inductive HandleAction where
  | swap
  | call
  | returns (succeeds : Bool)
deriving DecidableEq, Repr

/-- How `closeHandle` goes on. -/
inductive HandleNext where
  | continues (point : HandlePoint)
  | returns (failure : Option DeviceError)
deriving DecidableEq, Repr

/-- One operation of `closeHandle`. -/
def Device.closeHandle (device : Device) :
    HandlePoint → HandleAction → Option (Device × HandleNext)
  | .swap, .swap =>
      if device.closed then
        some (device, .returns none)
      else
        some ({ device with closed := true }, .continues .call)
  | .call, .call =>
      some ({ device with calls := device.calls ++ [.close] },
        .continues .calling)
  | .calling, .returns succeeds =>
      some (device, .returns (if succeeds then none else some .close))
  | _, _ => none

/-! ## The read loop -/

/--
A control point of `ReadLoop` and of the call of `Read` inside of it.  Between
two calls the loop dispatches the report which it has read.
-/
inductive ReadPoint where
  | between
  | reading
  | dispatching (raw : List Byte)
  | stopping (point : StopPoint) (failure : DeviceError)
  | ended (failure : DeviceError)
deriving DecidableEq, Repr

/-- What can happen in the read loop; a read returns octets or an error. -/
inductive ReadAction where
  | read
  | returns (outcome : Option (List Byte))
  | dispatch
  | stop
deriving DecidableEq, Repr

/-- One operation of the read loop. -/
def readStep (device : Device) :
    ReadPoint → ReadAction → Option (Device × ReadPoint)
  | .between, .read =>
      some ({ device with calls := device.calls ++ [.read] }, .reading)
  | .reading, .returns none => some (device, .stopping .swap .read)
  | .reading, .returns (some raw) =>
      if raw.length = reportSize then
        some (device, .dispatching raw)
      else
        some (device, .stopping .swap .shortReport)
  | .dispatching _, .dispatch => some (device, .between)
  | .stopping point failure, .stop =>
      let (device, next) := device.stop point
      some (device,
        next.elim (.ended failure) (fun next => .stopping next failure))
  | _, _ => none

/-! ## The write loop -/

/-- A control point of `writeLoop` and of `writeReport`. -/
inductive LoopPoint where
  | selecting
  | sending (raw : List Byte)
  | writing
  | stopping (point : StopPoint)
  | closing (point : HandlePoint)
  | returning
  | ended
deriving DecidableEq, Repr

/-- What can happen in the write loop. -/
inductive LoopAction where
  | dequeue
  | seeDone
  | send
  | returns (result : Option Nat)
  | stop
  | handle (action : HandleAction)
  | finish
deriving DecidableEq, Repr

/-- The physical write was neither an error nor short. -/
def FullWrite (result : Option Nat) : Prop :=
  result = some (reportSize + 1)

instance (result : Option Nat) : Decidable (FullWrite result) :=
  inferInstanceAs (Decidable (_ = _))

/-- Where the write loop goes on from `closeHandle`, whose error it drops. -/
def HandleNext.loopPoint : HandleNext → LoopPoint
  | .continues point => .closing point
  | .returns _ => .returning

/--
One operation of the write loop.  The deferred close of `writerDone` is the last
one.
-/
def loopStep (device : Device) :
    LoopPoint → LoopAction → Option (Device × LoopPoint)
  | .selecting, .dequeue =>
      match device.writes with
      | [] => none
      | raw :: rest =>
          some ({ device with writes := rest }, .sending raw)
  | .selecting, .seeDone =>
      if device.done then some (device, .returning) else none
  | .sending raw, .send =>
      some
        ({ device with calls := device.calls ++ [.write (hidReport raw)] },
          .writing)
  | .writing, .returns result =>
      some
        ({ device with results := device.results ++ [result] },
          if FullWrite result then .selecting else .stopping .swap)
  | .stopping point, .stop =>
      let (device, next) := device.stop point
      some (device, next.elim (.closing .swap) .stopping)
  | .closing point, .handle action =>
      (device.closeHandle point action).map (fun (device, next) =>
        (device, next.loopPoint))
  | .returning, .finish =>
      some ({ device with writerDone := true }, .ended)
  | _, _ => none

/-! ## Callers -/

/-- A control point of `Write`; the copy is made when `select` is entered. -/
inductive WritePoint where
  | called
  | checked
  | admitted
  | selecting (copy : List Byte)
  | returned (failure : Option DeviceError)
deriving DecidableEq, Repr

/--
A call of `Write`: the buffer it was given, what the buffer held at the call,
and how far the call has come.
-/
structure WriteCall where
  buffer : Nat
  given : List Byte
  point : WritePoint
deriving DecidableEq, Repr

/-- The call has still to look at its buffer. -/
def WriteCall.Copying (call : WriteCall) : Prop :=
  call.point = .called ∨ call.point = .checked ∨ call.point = .admitted

instance (call : WriteCall) : Decidable call.Copying :=
  inferInstanceAs (Decidable (_ ∨ _))

/-- What can happen in a call of `Write`. -/
inductive WriteAction where
  | check
  | load
  | clone
  | enqueue
  | seeDone
deriving DecidableEq, Repr

/-- One operation of a call of `Write`; `raw` is what its buffer holds. -/
def writeStep (device : Device) (number : Nat) (raw : List Byte) :
    WritePoint → WriteAction → Option (Device × WritePoint)
  | .called, .check =>
      some (device,
        if raw.length ≠ reportSize then
          .returned (some .invalidReport)
        else
          .checked)
  | .checked, .load =>
      some (device,
        if device.stopping then .returned (some .closed) else .admitted)
  | .admitted, .clone => some (device, .selecting raw)
  | .selecting copy, .enqueue =>
      if device.writes.length < writesCapacity then
        some
          ({ device with
              writes := device.writes ++ [copy]
              enqueued := device.enqueued ++ [(number, copy)] },
            .returned none)
      else
        none
  | .selecting _, .seeDone =>
      if device.done then
        some (device, .returned (some .closed))
      else
        none
  | _, _ => none

/-- A control point of `Close`. -/
inductive ClosePoint where
  | stopping (point : StopPoint)
  | waiting
  | closing (point : HandlePoint)
  | returned (failure : Option DeviceError)
deriving DecidableEq, Repr

/-- What can happen in a call of `Close`. -/
inductive CloseAction where
  | stop
  | wait
  | handle (action : HandleAction)
deriving DecidableEq, Repr

/-- Where `Close` goes on from `closeHandle`. -/
def HandleNext.closePoint : HandleNext → ClosePoint
  | .continues point => .closing point
  | .returns failure => .returned failure

/-- One operation of a call of `Close`. -/
def closeStep (device : Device) :
    ClosePoint → CloseAction → Option (Device × ClosePoint)
  | .stopping point, .stop =>
      let (device, next) := device.stop point
      some (device, next.elim .waiting .stopping)
  | .waiting, .wait =>
      if device.writerDone then some (device, .closing .swap) else none
  | .closing point, .handle action =>
      (device.closeHandle point action).map (fun (device, next) =>
        (device, next.closePoint))
  | _, _ => none

/-! ## The goroutines together -/

/-- A device with the goroutines which use it and the buffers of callers. -/
structure Process where
  device : Device
  reader : ReadPoint
  loop : LoopPoint
  writers : List WriteCall
  closers : List ClosePoint
  memory : Nat → List Byte

/-- What can happen. -/
inductive Action where
  | store (buffer : Nat) (octets : List Byte)
  | read (action : ReadAction)
  | loop (action : LoopAction)
  | callWrite (buffer : Nat)
  | write (number : Nat) (action : WriteAction)
  | callClose
  | close (number : Nat) (action : CloseAction)
deriving DecidableEq, Repr

/-- One step. -/
def Process.step (process : Process) : Action → Option Process
  | .store buffer octets =>
      if ∀ call ∈ process.writers, call.Copying → call.buffer ≠ buffer then
        some { process with
          memory := Function.update process.memory buffer octets }
      else
        none
  | .read action =>
      (readStep process.device process.reader action).map
        (fun (device, reader) =>
          { process with device := device, reader := reader })
  | .loop action =>
      (loopStep process.device process.loop action).map
        (fun (device, loop) =>
          { process with device := device, loop := loop })
  | .callWrite buffer =>
      some { process with
        writers := process.writers ++
          [⟨buffer, process.memory buffer, .called⟩] }
  | .write number action =>
      process.writers[number]?.bind (fun call =>
        (writeStep process.device number (process.memory call.buffer)
          call.point action).map (fun (device, point) =>
            { process with
              device := device
              writers :=
                process.writers.set number { call with point := point } }))
  | .callClose =>
      some { process with closers := process.closers ++ [.stopping .swap] }
  | .close number action =>
      process.closers[number]?.bind (fun point =>
        (closeStep process.device point action).map (fun (device, point) =>
          { process with
            device := device
            closers := process.closers.set number point }))

/-- A device which was just opened; its write loop has been started. -/
def opened : Process :=
  ⟨openedDevice, .between, .selecting, [], [], fun _ => []⟩

def deviceMachine : Machine Process Action :=
  ⟨opened, Process.step⟩


/-! ## What a step can do -/

/-- `stop` touches nothing but `stopping` and `done`. -/
theorem stop_eq (device : Device) (point : StopPoint) :
    ∃ stopping done onward, device.stop point =
      ({ device with stopping := stopping, done := done }, onward) := by
  cases point with
  | swap =>
      by_cases stopping : device.stopping = true
      · exact ⟨device.stopping, device.done, none, if_pos stopping⟩
      · exact ⟨true, device.done, some .close, if_neg stopping⟩
  | close => exact ⟨device.stopping, true, none, rfl⟩

/-- The operations of `closeHandle`. -/
inductive Closes (device : Device) :
    HandlePoint → HandleAction → Device → HandleNext → Prop where
  | lost (closed : device.closed = true) :
      Closes device .swap .swap device (.returns none)
  | won (fresh : device.closed = false) :
      Closes device .swap .swap { device with closed := true }
        (.continues .call)
  | called :
      Closes device .call .call
        { device with calls := device.calls ++ [.close] }
        (.continues .calling)
  | returned (succeeds : Bool) (failure : Option DeviceError) :
      Closes device .calling (.returns succeeds) device
        (.returns failure)

theorem closes_of_closeHandle
    {device next : Device} {point : HandlePoint} {action : HandleAction}
    {onward : HandleNext}
    (taken : device.closeHandle point action = some (next, onward)) :
    Closes device point action next onward := by
  cases point <;> cases action <;> simp only [Device.closeHandle] at taken
  case swap.swap =>
    split at taken
    · rename_i closed
      cases taken
      exact .lost closed
    · rename_i notClosed
      cases taken
      exact .won (Bool.eq_false_iff.mpr notClosed)
  case call.call =>
    cases taken
    exact .called
  case calling.returns succeeds =>
    cases taken
    exact .returned succeeds _
  all_goals cases taken

/-- The operations of the read loop. -/
inductive Reads (device : Device) :
    ReadPoint → ReadAction → Device → ReadPoint → Prop where
  | read :
      Reads device .between .read
        { device with calls := device.calls ++ [.read] } .reading
  | full (raw : List Byte) (sized : raw.length = reportSize) :
      Reads device .reading (.returns (some raw)) device
        (.dispatching raw)
  | failed (outcome : Option (List Byte)) (failure : DeviceError)
      (rejected : ∀ raw, outcome = some raw → raw.length ≠ reportSize) :
      Reads device .reading (.returns outcome) device
        (.stopping .swap failure)
  | dispatched (raw : List Byte) :
      Reads device (.dispatching raw) .dispatch device .between
  | stopped (point : StopPoint) (failure : DeviceError)
      (stopping done : Bool) (onward : Option StopPoint) :
      Reads device (.stopping point failure) .stop
        { device with stopping := stopping, done := done }
        (onward.elim (.ended failure) (fun next => .stopping next failure))

theorem reads_of_readStep
    {device next : Device} {point onward : ReadPoint} {action : ReadAction}
    (taken : readStep device point action = some (next, onward)) :
    Reads device point action next onward := by
  unfold readStep at taken
  split at taken
  · cases taken
    exact .read
  · cases taken
    refine .failed none .read ?_
    rintro _ ⟨⟩
  · rename_i raw
    split at taken
    · rename_i sized
      cases taken
      exact .full raw sized
    · rename_i short
      cases taken
      refine .failed (some raw) .shortReport ?_
      rintro _ ⟨⟩
      exact short
  · cases taken
    exact .dispatched _
  · rename_i stopPoint failure
    rcases stop_eq device stopPoint with
      ⟨stopping, done, later, stopped⟩
    rw [stopped] at taken
    cases taken
    exact .stopped stopPoint failure stopping done later
  · cases taken

/-- The operations of the write loop. -/
inductive Loops (device : Device) :
    LoopPoint → LoopAction → Device → LoopPoint → Prop where
  | dequeued (raw : List Byte) (rest : List (List Byte))
      (queued : device.writes = raw :: rest) :
      Loops device .selecting .dequeue { device with writes := rest }
        (.sending raw)
  | finished (done : device.done = true) :
      Loops device .selecting .seeDone device .returning
  | sent (raw : List Byte) :
      Loops device (.sending raw) .send
        { device with calls := device.calls ++ [.write (hidReport raw)] }
        .writing
  | full (result : Option Nat) (full : FullWrite result) :
      Loops device .writing (.returns result)
        { device with results := device.results ++ [result] } .selecting
  | failed (result : Option Nat) (failed : ¬ FullWrite result) :
      Loops device .writing (.returns result)
        { device with results := device.results ++ [result] }
        (.stopping .swap)
  | stopped (point : StopPoint) (stopping done : Bool)
      (onward : Option StopPoint) :
      Loops device (.stopping point) .stop
        { device with stopping := stopping, done := done }
        (onward.elim (.closing .swap) .stopping)
  | closed {point : HandlePoint} {action : HandleAction} {next : Device}
      {onward : HandleNext}
      (closes : Closes device point action next onward) :
      Loops device (.closing point) (.handle action) next onward.loopPoint
  | ended :
      Loops device .returning .finish { device with writerDone := true }
        .ended

theorem loops_of_loopStep
    {device next : Device} {point onward : LoopPoint} {action : LoopAction}
    (taken : loopStep device point action = some (next, onward)) :
    Loops device point action next onward := by
  unfold loopStep at taken
  split at taken
  · split at taken
    · cases taken
    · rename_i raw rest queued
      cases taken
      exact .dequeued raw rest queued
  · split at taken
    · rename_i done
      cases taken
      exact .finished done
    · cases taken
  · cases taken
    exact .sent _
  · rename_i result
    split at taken
    · rename_i full
      cases taken
      exact .full result full
    · rename_i failed
      cases taken
      exact .failed result failed
  · rename_i stopPoint
    rcases stop_eq device stopPoint with
      ⟨stopping, done, later, stopped⟩
    rw [stopped] at taken
    cases taken
    exact .stopped stopPoint stopping done later
  · rcases Option.map_eq_some_iff.mp taken with
      ⟨⟨closed, after⟩, closes, same⟩
    cases same
    exact .closed (closes_of_closeHandle closes)
  · cases taken
    exact .ended
  · cases taken

/-- The operations of a call of `Write`. -/
inductive Writes (device : Device) (number : Nat) (raw : List Byte) :
    WritePoint → WriteAction → Device → WritePoint → Prop where
  | rejected (sized : raw.length ≠ reportSize) :
      Writes device number raw .called .check device
        (.returned (some .invalidReport))
  | checked (sized : raw.length = reportSize) :
      Writes device number raw .called .check device .checked
  | refused (stopping : device.stopping = true) :
      Writes device number raw .checked .load device
        (.returned (some .closed))
  | admitted (running : device.stopping = false) :
      Writes device number raw .checked .load device .admitted
  | cloned :
      Writes device number raw .admitted .clone device (.selecting raw)
  | enqueued (copy : List Byte)
      (room : device.writes.length < writesCapacity) :
      Writes device number raw (.selecting copy) .enqueue
        { device with
          writes := device.writes ++ [copy]
          enqueued := device.enqueued ++ [(number, copy)] }
        (.returned none)
  | abandoned (copy : List Byte) (done : device.done = true) :
      Writes device number raw (.selecting copy) .seeDone device
        (.returned (some .closed))

theorem writes_of_writeStep
    {device next : Device} {number : Nat} {raw : List Byte}
    {point onward : WritePoint} {action : WriteAction}
    (taken :
      writeStep device number raw point action = some (next, onward)) :
    Writes device number raw point action next onward := by
  unfold writeStep at taken
  split at taken
  · split at taken
    · rename_i sized
      cases taken
      exact .rejected sized
    · rename_i sized
      cases taken
      exact .checked (not_not.mp sized)
  · split at taken
    · rename_i stopping
      cases taken
      exact .refused stopping
    · rename_i running
      cases taken
      exact .admitted (Bool.eq_false_iff.mpr running)
  · cases taken
    exact .cloned
  · rename_i copy
    split at taken
    · rename_i room
      cases taken
      exact .enqueued copy room
    · cases taken
  · rename_i copy
    split at taken
    · rename_i done
      cases taken
      exact .abandoned copy done
    · cases taken
  · cases taken

/-- All that a call of `Write` does to a device is to enqueue its copy. -/
theorem enqueues_of_writes
    {device next : Device} {number : Nat} {raw : List Byte}
    {point onward : WritePoint} {action : WriteAction}
    (writes : Writes device number raw point action next onward) :
    next = device ∨
      ∃ copy, point = .selecting copy ∧ onward = .returned none ∧
        next = { device with
          writes := device.writes ++ [copy]
          enqueued := device.enqueued ++ [(number, copy)] } := by
  cases writes with
  | enqueued copy room => exact Or.inr ⟨copy, rfl, rfl, rfl⟩
  | _ => exact Or.inl rfl

/-- The operations of a call of `Close`. -/
inductive CloseMoves (device : Device) :
    ClosePoint → CloseAction → Device → ClosePoint → Prop where
  | stopped (point : StopPoint) (stopping done : Bool)
      (onward : Option StopPoint) :
      CloseMoves device (.stopping point) .stop
        { device with stopping := stopping, done := done }
        (onward.elim .waiting .stopping)
  | waited (done : device.writerDone = true) :
      CloseMoves device .waiting .wait device (.closing .swap)
  | closed {point : HandlePoint} {action : HandleAction} {next : Device}
      {onward : HandleNext}
      (closes : Closes device point action next onward) :
      CloseMoves device (.closing point) (.handle action) next
        onward.closePoint

theorem closeMoves_of_closeStep
    {device next : Device} {point onward : ClosePoint}
    {action : CloseAction}
    (taken : closeStep device point action = some (next, onward)) :
    CloseMoves device point action next onward := by
  unfold closeStep at taken
  split at taken
  · rename_i stopPoint
    rcases stop_eq device stopPoint with
      ⟨stopping, done, later, stopped⟩
    rw [stopped] at taken
    cases taken
    exact .stopped stopPoint stopping done later
  · split at taken
    · rename_i done
      cases taken
      exact .waited done
    · cases taken
  · rcases Option.map_eq_some_iff.mp taken with
      ⟨⟨closed, after⟩, closes, same⟩
    cases same
    exact .closed (closes_of_closeHandle closes)
  · cases taken

/-- A step moves one goroutine, starts a call or changes a buffer. -/
inductive Steps (process : Process) : Action → Process → Prop where
  | stored (buffer : Nat) (octets : List Byte)
      (owned : ∀ call ∈ process.writers,
        call.Copying → call.buffer ≠ buffer) :
      Steps process (.store buffer octets)
        { process with
          memory := Function.update process.memory buffer octets }
  | read {action : ReadAction} {device : Device} {reader : ReadPoint}
      (moves : Reads process.device process.reader action device reader) :
      Steps process (.read action)
        { process with device := device, reader := reader }
  | loop {action : LoopAction} {device : Device} {loop : LoopPoint}
      (moves : Loops process.device process.loop action device loop) :
      Steps process (.loop action)
        { process with device := device, loop := loop }
  | writeCalled (buffer : Nat) :
      Steps process (.callWrite buffer)
        { process with
          writers := process.writers ++
            [⟨buffer, process.memory buffer, .called⟩] }
  | write {number : Nat} {call : WriteCall} {action : WriteAction}
      {device : Device} {point : WritePoint}
      (found : process.writers[number]? = some call)
      (moves : Writes process.device number (process.memory call.buffer)
        call.point action device point) :
      Steps process (.write number action)
        { process with
          device := device
          writers :=
            process.writers.set number { call with point := point } }
  | closeCalled :
      Steps process .callClose
        { process with closers := process.closers ++ [.stopping .swap] }
  | close {number : Nat} {point onward : ClosePoint}
      {action : CloseAction} {device : Device}
      (found : process.closers[number]? = some point)
      (moves : CloseMoves process.device point action device onward) :
      Steps process (.close number action)
        { process with
          device := device
          closers := process.closers.set number onward }

theorem steps_of_step
    {process next : Process} {action : Action}
    (taken : deviceMachine.step process action = some next) :
    Steps process action next := by
  change process.step action = some next at taken
  cases action with
  | store buffer octets =>
      simp only [Process.step] at taken
      split at taken
      · rename_i owned
        cases taken
        exact .stored buffer octets owned
      · cases taken
  | read action =>
      rcases Option.map_eq_some_iff.mp taken with
        ⟨⟨device, reader⟩, moved, rfl⟩
      exact .read (reads_of_readStep moved)
  | loop action =>
      rcases Option.map_eq_some_iff.mp taken with
        ⟨⟨device, loop⟩, moved, rfl⟩
      exact .loop (loops_of_loopStep moved)
  | callWrite buffer =>
      cases taken
      exact .writeCalled buffer
  | write number action =>
      rcases Option.bind_eq_some_iff.mp taken with ⟨call, found, stepped⟩
      rcases Option.map_eq_some_iff.mp stepped with
        ⟨⟨device, point⟩, moved, rfl⟩
      exact .write found (writes_of_writeStep moved)
  | callClose =>
      cases taken
      exact .closeCalled
  | close number action =>
      rcases Option.bind_eq_some_iff.mp taken with
        ⟨point, found, stepped⟩
      rcases Option.map_eq_some_iff.mp stepped with
        ⟨⟨device, onward⟩, moved, rfl⟩
      exact .close found (closeMoves_of_closeStep moved)

end Pareader.Host.HidDevice
