import Pareader.Host.HidDevice

/-!
# Ordered output of the HID device

Reports leave the device in the order in which they were enqueued.  What has
been passed to `device.Write`, what the write loop holds in its hand and what
is left in the channel are together, at any time, what was enqueued; so every
point at which the loop may stop leaves a prefix.

What was enqueued is what the callers asked for: each call of `Write` enqueues
at most once, and the copy it makes holds what its buffer held at the call.
-/

namespace Pareader.Host.HidOutput

open Pareader.Core
open Pareader.Host.Protocol
open Pareader.Host.HidDevice

/-! ## From the channel to the handle -/

/-- The report which the loop has taken and not yet passed on. -/
def inHand : LoopPoint → List (List Byte)
  | .sending raw => [hidReport raw]
  | _ => []

/-- The number of physical writes which have not returned. -/
def inFlight : LoopPoint → Nat
  | .writing => 1
  | _ => 0

/-- The loop has left its `for`. -/
def Left : LoopPoint → Prop
  | .selecting => False
  | .sending _ => False
  | .writing => False
  | _ => True

/-- No report is lost or reordered, and none follows a failed write. -/
structure Flows (device : Device) (loop : LoopPoint) : Prop where
  balance :
    device.sent ++ inHand loop ++ device.writes.map hidReport =
      device.enqueued.map (fun entry => hidReport entry.2)
  answered : device.results.length + inFlight loop = device.sent.length
  full : ∀ result ∈ device.results.dropLast, FullWrite result
  healthy : ¬ Left loop → ∀ result ∈ device.results, FullWrite result

/-- The two devices have the same reports. -/
structure SameOutput (device next : Device) : Prop where
  sent : next.sent = device.sent
  writes : next.writes = device.writes
  enqueued : next.enqueued = device.enqueued
  results : next.results = device.results

theorem SameOutput.refl (device : Device) : SameOutput device device :=
  ⟨rfl, rfl, rfl, rfl⟩

theorem Flows.same
    {device next : Device} {loop : LoopPoint} (flows : Flows device loop)
    (same : SameOutput device next) :
    Flows next loop := by
  constructor
  · rw [same.sent, same.writes, same.enqueued]
    exact flows.balance
  · rw [same.results, same.sent]
    exact flows.answered
  · rw [same.results]
    exact flows.full
  · rw [same.results]
    exact flows.healthy

/-- Once the loop has left its `for`, nothing of this changes. -/
theorem Flows.leave
    {device : Device} {loop next : LoopPoint} (flows : Flows device loop)
    (empty : inHand loop = []) (returned : inFlight loop = 0)
    (left : Left next) :
    Flows device next := by
  have emptyNext : inHand next = [] := by
    cases next <;> first | rfl | exact left.elim
  have returnedNext : inFlight next = 0 := by
    cases next <;> first | rfl | exact left.elim
  constructor
  · rw [emptyNext, ← empty]
    exact flows.balance
  · rw [returnedNext, ← returned]
    exact flows.answered
  · exact flows.full
  · intro stays
    exact (stays left).elim

/-- Calls which are no writes do not change what was sent. -/
theorem sent_append (device : Device) (call : HandleCall) :
    ({ device with calls := device.calls ++ [call] } : Device).sent =
      device.sent ++ call.report.toList := by
  unfold Device.sent
  rw [List.filterMap_append]
  cases call <;> rfl

theorem sameOutput_of_closes
    {device next : Device} {point : HandlePoint} {action : HandleAction}
    {onward : HandleNext}
    (closes : Closes device point action next onward) :
    SameOutput device next := by
  cases closes with
  | lost closed => exact .refl device
  | won fresh => exact ⟨rfl, rfl, rfl, rfl⟩
  | called =>
      refine ⟨?_, rfl, rfl, rfl⟩
      rw [sent_append]
      exact List.append_nil _
  | returned succeeds failure => exact .refl device

theorem sameOutput_of_reads
    {device next : Device} {point onward : ReadPoint} {action : ReadAction}
    (reads : Reads device point action next onward) :
    SameOutput device next := by
  cases reads with
  | read =>
      refine ⟨?_, rfl, rfl, rfl⟩
      rw [sent_append]
      exact List.append_nil _
  | full raw sized => exact .refl device
  | failed outcome failure rejected => exact .refl device
  | dispatched raw => exact .refl device
  | stopped point failure stopping done onward => exact ⟨rfl, rfl, rfl, rfl⟩

theorem sameOutput_of_closeMoves
    {device next : Device} {point onward : ClosePoint}
    {action : CloseAction}
    (moves : CloseMoves device point action next onward) :
    SameOutput device next := by
  cases moves with
  | stopped point stopping done onward => exact ⟨rfl, rfl, rfl, rfl⟩
  | waited done => exact .refl device
  | closed closes => exact sameOutput_of_closes closes

/-- Step lemma of the write loop. -/
theorem flows_of_loops
    {device next : Device} {point onward : LoopPoint} {action : LoopAction}
    (flows : Flows device point)
    (loops : Loops device point action next onward) :
    Flows next onward := by
  cases loops with
  | dequeued raw rest queued =>
      refine ⟨?_, flows.answered, flows.full, flows.healthy⟩
      have balance := flows.balance
      rw [queued, List.map_cons] at balance
      rw [← balance]
      simp only [inHand, List.append_nil, List.append_assoc,
        List.singleton_append]
      rfl
  | finished done => exact flows.leave rfl rfl trivial
  | sent raw =>
      have passed := sent_append device (.write (hidReport raw))
      refine ⟨?_, ?_, flows.full, flows.healthy⟩
      · rw [passed, ← flows.balance]
        simp only [inHand, List.append_nil]
        rfl
      · rw [passed, List.length_append, ← flows.answered]
        rfl
  | full result full =>
      have before := flows.healthy id
      have all : ∀ other ∈ device.results ++ [result], FullWrite other := by
        intro other member
        rcases List.mem_append.mp member with earlier | last
        · exact before other earlier
        · rw [List.mem_singleton.mp last]
          exact full
      refine ⟨flows.balance, ?_, ?_, fun _ => all⟩
      · rw [List.length_append]
        exact flows.answered
      · intro other member
        exact all other (List.mem_of_mem_dropLast member)
  | failed result failed =>
      refine ⟨flows.balance, ?_, ?_, fun stays => (stays trivial).elim⟩
      · rw [List.length_append]
        exact flows.answered
      · rw [List.dropLast_concat]
        exact flows.healthy id
  | stopped point stopping done onward =>
      have left : Left (onward.elim (.closing .swap) .stopping) := by
        cases onward <;> trivial
      exact (flows.leave rfl rfl left).same ⟨rfl, rfl, rfl, rfl⟩
  | @closed point action next onward closes =>
      have left : Left onward.loopPoint := by
        cases onward <;> trivial
      exact (flows.leave rfl rfl left).same (sameOutput_of_closes closes)
  | ended =>
      have left : Left .ended := trivial
      exact (flows.leave rfl rfl left).same ⟨rfl, rfl, rfl, rfl⟩

/-- Step lemma of the callers of `Write`. -/
theorem flows_of_writes
    {device next : Device} {loop : LoopPoint} {number : Nat}
    {raw : List Byte} {point onward : WritePoint} {action : WriteAction}
    (flows : Flows device loop)
    (writes : Writes device number raw point action next onward) :
    Flows next loop := by
  rcases enqueues_of_writes writes with rfl | ⟨copy, -, -, rfl⟩
  · exact flows
  · refine ⟨?_, flows.answered, flows.full, flows.healthy⟩
    have balance := flows.balance
    simp only [List.map_append, List.map_cons, List.map_nil]
    rw [← balance, List.append_assoc _ _ [hidReport copy]]
    rfl

/-! ## From the callers to the channel -/

/--
What is known of a call of `Write`.  Until it copies its buffer, the buffer
holds what it was given; from the check on, that is a whole report.
-/
def Faithful (memory : Nat → List Byte) (call : WriteCall) : Prop :=
  match call.point with
  | .called => memory call.buffer = call.given
  | .checked =>
      memory call.buffer = call.given ∧ call.given.length = reportSize
  | .admitted =>
      memory call.buffer = call.given ∧ call.given.length = reportSize
  | .selecting copy => copy = call.given ∧ call.given.length = reportSize
  | .returned none => call.given.length = reportSize
  | .returned (some _) => True

/--
The reports in the channel come from calls of `Write` which have returned, one
from each at most, and hold what these were given.
-/
structure Originates (process : Process) : Prop where
  faithful : ∀ call ∈ process.writers, Faithful process.memory call
  entries : ∀ entry ∈ process.device.enqueued,
    ∃ call, process.writers[entry.1]? = some call ∧
      call.point = .returned none ∧ call.given = entry.2
  once : (process.device.enqueued.map Prod.fst).Nodup

/-- Only a call which is about to copy its buffer looks at it. -/
theorem Faithful.update
    {memory : Nat → List Byte} {call : WriteCall}
    (faithful : Faithful memory call) {buffer : Nat} (octets : List Byte)
    (owned : call.Copying → call.buffer ≠ buffer) :
    Faithful (Function.update memory buffer octets) call := by
  have same : call.Copying →
      Function.update memory buffer octets call.buffer =
        memory call.buffer := by
    intro copying
    exact Function.update_of_ne (owned copying) octets memory
  rcases call with ⟨own, given, point⟩
  cases point with
  | called => exact (same (Or.inl rfl)).trans faithful
  | checked =>
      exact ⟨(same (Or.inr (Or.inl rfl))).trans faithful.1, faithful.2⟩
  | admitted =>
      exact ⟨(same (Or.inr (Or.inr rfl))).trans faithful.1, faithful.2⟩
  | selecting copy => exact faithful
  | returned failure =>
      cases failure with
      | none => exact faithful
      | some failure => trivial

/-- Step lemma: a call stays faithful. -/
theorem faithful_of_writes
    {memory : Nat → List Byte} {call : WriteCall}
    (faithful : Faithful memory call)
    {device next : Device} {number : Nat} {action : WriteAction}
    {onward : WritePoint}
    (writes : Writes device number (memory call.buffer) call.point action
      next onward) :
    Faithful memory { call with point := onward } := by
  rcases call with ⟨buffer, given, point⟩
  cases writes with
  | rejected sized => trivial
  | checked sized =>
      have held : memory buffer = given := faithful
      rw [held] at sized
      exact ⟨held, sized⟩
  | refused stopping => trivial
  | admitted running => exact faithful
  | cloned => exact faithful
  | enqueued copy room => exact faithful.2
  | abandoned copy done => trivial

/-- A call which has returned makes no further step. -/
theorem unfinished_of_writes
    {device next : Device} {number : Nat} {raw : List Byte}
    {point onward : WritePoint} {action : WriteAction}
    (writes : Writes device number raw point action next onward)
    (failure : Option DeviceError) :
    point ≠ .returned failure := by
  rintro rfl
  cases writes

/-- The entries stay those of returned calls when another call moves. -/
theorem Originates.found_set
    {process : Process} (originates : Originates process)
    {number : Nat} {call : WriteCall}
    (found : process.writers[number]? = some call)
    (unfinished : call.point ≠ .returned none) (moved : WriteCall) :
    ∀ entry ∈ process.device.enqueued, entry.1 ≠ number ∧
      ∃ call, (process.writers.set number moved)[entry.1]? = some call ∧
        call.point = .returned none ∧ call.given = entry.2 := by
  intro entry member
  rcases originates.entries entry member with
    ⟨sender, located, returned, given⟩
  have different : entry.1 ≠ number := by
    intro same
    rw [same, found] at located
    rw [Option.some.inj located] at unfinished
    exact unfinished returned
  refine ⟨different, sender, ?_, returned, given⟩
  rw [List.getElem?_set_ne (Ne.symm different)]
  exact located

/-- Step lemma of one call of `Write`. -/
theorem originates_of_writes
    {process : Process} (originates : Originates process)
    {number : Nat} {call : WriteCall} {action : WriteAction}
    {device : Device} {point : WritePoint}
    (found : process.writers[number]? = some call)
    (writes : Writes process.device number (process.memory call.buffer)
      call.point action device point) :
    Originates { process with
      device := device
      writers :=
        process.writers.set number { call with point := point } } := by
  have faithful := originates.faithful call (List.mem_of_getElem? found)
  have kept := originates.found_set found (unfinished_of_writes writes none)
    { call with point := point }
  refine ⟨?_, ?_, ?_⟩
  · intro other member
    rcases List.mem_or_eq_of_mem_set member with earlier | rfl
    · exact originates.faithful other earlier
    · exact faithful_of_writes faithful writes
  · rcases enqueues_of_writes writes with rfl | ⟨copy, selecting, rfl, rfl⟩
    · exact fun entry member => (kept entry member).2
    · intro entry member
      rcases List.mem_append.mp member with earlier | last
      · exact (kept entry earlier).2
      · rw [List.mem_singleton.mp last]
        have inside : number < process.writers.length :=
          (List.getElem?_eq_some_iff.mp found).1
        refine ⟨{ call with point := .returned none }, ?_, rfl, ?_⟩
        · exact List.getElem?_set_self inside
        · rw [Faithful, selecting] at faithful
          exact faithful.1.symm
  · rcases enqueues_of_writes writes with rfl | ⟨copy, -, -, rfl⟩
    · exact originates.once
    · rw [List.map_append, List.nodup_append]
      refine ⟨originates.once, List.nodup_singleton _, ?_⟩
      intro other member last isLast
      rcases List.mem_map.mp member with ⟨entry, located, rfl⟩
      rw [List.mem_singleton.mp isLast]
      exact (kept entry located).1

/-- Goroutines which do not enqueue leave the origins as they are. -/
theorem Originates.same
    {process next : Process} (originates : Originates process)
    (enqueued : next.device.enqueued = process.device.enqueued)
    (writers : next.writers = process.writers)
    (memory : next.memory = process.memory) :
    Originates next := by
  refine ⟨?_, ?_, ?_⟩
  · rw [writers, memory]
    exact originates.faithful
  · rw [enqueued, writers]
    exact originates.entries
  · rw [enqueued]
    exact originates.once

theorem enqueued_of_loops
    {device next : Device} {point onward : LoopPoint} {action : LoopAction}
    (loops : Loops device point action next onward) :
    next.enqueued = device.enqueued := by
  cases loops with
  | closed closes => exact (sameOutput_of_closes closes).enqueued
  | _ => rfl

/-- Step lemma. -/
theorem originates_of_steps
    {process next : Process} {action : Action}
    (originates : Originates process)
    (steps : Steps process action next) :
    Originates next := by
  cases steps with
  | stored buffer octets owned =>
      refine ⟨?_, originates.entries, originates.once⟩
      intro call member
      exact (originates.faithful call member).update octets
        (owned call member)
  | read moves =>
      exact originates.same (sameOutput_of_reads moves).enqueued rfl rfl
  | loop moves => exact originates.same (enqueued_of_loops moves) rfl rfl
  | writeCalled buffer =>
      refine ⟨?_, ?_, originates.once⟩
      · intro call member
        rcases List.mem_append.mp member with earlier | last
        · exact originates.faithful call earlier
        · rw [List.mem_singleton.mp last]
          rfl
      · intro entry member
        rcases originates.entries entry member with
          ⟨call, located, facts⟩
        have inside : entry.1 < process.writers.length :=
          (List.getElem?_eq_some_iff.mp located).1
        refine ⟨call, ?_, facts⟩
        change (process.writers ++ _)[entry.1]? = some call
        rw [List.getElem?_append_left inside]
        exact located
  | write found moves => exact originates_of_writes originates found moves
  | closeCalled => exact originates.same rfl rfl rfl
  | close found moves =>
      exact originates.same (sameOutput_of_closeMoves moves).enqueued rfl
        rfl

/-- Step lemma. -/
theorem flows_of_steps
    {process next : Process} {action : Action}
    (flows : Flows process.device process.loop)
    (steps : Steps process action next) :
    Flows next.device next.loop := by
  cases steps with
  | stored buffer octets owned => exact flows
  | read moves => exact flows.same (sameOutput_of_reads moves)
  | loop moves => exact flows_of_loops flows moves
  | writeCalled buffer => exact flows
  | write found moves => exact flows_of_writes flows moves
  | closeCalled => exact flows
  | close found moves => exact flows.same (sameOutput_of_closeMoves moves)

/-! ## Every interleaving -/

theorem flows_of_reachable
    {process : Process} (reached : deviceMachine.Reachable process) :
    Flows process.device process.loop := by
  refine @Machine.Reachable.invariant _ _ deviceMachine
    (fun process => Flows process.device process.loop) process reached ?_ ?_
  · exact ⟨rfl, rfl, List.forall_mem_nil _, fun _ => List.forall_mem_nil _⟩
  · intro state action next _ flows taken
    exact flows_of_steps flows (steps_of_step taken)

theorem originates_of_reachable
    {process : Process} (reached : deviceMachine.Reachable process) :
    Originates process := by
  refine reached.invariant ?_ ?_
  · exact ⟨List.forall_mem_nil _, List.forall_mem_nil _, List.nodup_nil⟩
  · intro state action next _ originates taken
    exact originates_of_steps originates (steps_of_step taken)

/-- The buffer for a whole report is the report behind a zero. -/
theorem hidReport_eq {raw : List Byte} (sized : raw.length = reportSize) :
    hidReport raw = 0 :: raw := by
  rw [hidReport, ← sized, List.take_length, Nat.sub_self]
  exact congrArg _ (List.append_nil raw)

/-- Only whole reports are sent to the channel. -/
theorem Originates.sized
    {process : Process} (originates : Originates process) :
    ∀ entry ∈ process.device.enqueued, entry.2.length = reportSize := by
  intro entry member
  rcases originates.entries entry member with
    ⟨⟨buffer, given, point⟩, located, returned, same⟩
  have faithful := originates.faithful _ (List.mem_of_getElem? located)
  cases returned
  rw [← same]
  exact faithful

/-- The first of the reports sent to the channel have left the device. -/
theorem Flows.sent_first
    {process : Process} (flows : Flows process.device process.loop)
    (originates : Originates process) :
    process.device.sent <+:
      process.device.enqueued.map (fun entry => 0 :: entry.2) := by
  have framed :
      process.device.enqueued.map (fun entry => hidReport entry.2) =
        process.device.enqueued.map (fun entry => 0 :: entry.2) := by
    apply List.map_congr_left
    intro entry member
    exact hidReport_eq (originates.sized entry member)
  rw [← framed, ← flows.balance, List.append_assoc]
  exact List.prefix_append _ _

/--
What a device promises about its output: the buffers passed to `device.Write`
are, in order, those for the first reports enqueued; every report was enqueued
by a call of `Write` of its own and is what that call was given; and nothing is
passed to `device.Write` behind a write which failed or was short.
-/
structure OrderedOutput (process : Process) : Prop where
  inOrder : process.device.sent <+:
    process.device.enqueued.map (fun entry => 0 :: entry.2)
  sized : ∀ entry ∈ process.device.enqueued, entry.2.length = 64
  given : ∀ entry ∈ process.device.enqueued,
    ∃ call, process.writers[entry.1]? = some call ∧ call.given = entry.2
  once : (process.device.enqueued.map Prod.fst).Nodup
  answered : process.device.results.length ≤ process.device.sent.length
  failedLast : ∀ (index : Nat) result,
    process.device.results[index]? = some result →
      result ≠ some 65 → process.device.sent.length = index + 1

/-- A failed result is the last one, and its write the last one started. -/
theorem Flows.failed_last
    {device : Device} {loop : LoopPoint} (flows : Flows device loop)
    {index : Nat} {result : Option Nat}
    (located : device.results[index]? = some result)
    (failed : ¬ FullWrite result) :
    device.sent.length = index + 1 := by
  have left : Left loop := by
    by_contra stays
    exact failed
      (flows.healthy stays result (List.mem_of_getElem? located))
  have returned : inFlight loop = 0 := by
    cases loop <;> first | rfl | exact left.elim
  have inside : index < device.results.length :=
    (List.getElem?_eq_some_iff.mp located).1
  have last : ¬ index < device.results.length - 1 := by
    intro earlier
    apply failed
    apply flows.full
    apply List.mem_of_getElem?
    rw [List.getElem?_dropLast, if_pos earlier]
    exact located
  have answered := flows.answered
  omega

/-- In every interleaving the output of a device is ordered. -/
theorem ordered_output
    {process : Process} (reached : deviceMachine.Reachable process) :
    OrderedOutput process := by
  have flows := flows_of_reachable reached
  have originates := originates_of_reachable reached
  refine ⟨flows.sent_first originates, originates.sized, ?_,
    originates.once, ?_, ?_⟩
  · intro entry member
    rcases originates.entries entry member with
      ⟨call, located, returned, given⟩
    exact ⟨call, located, given⟩
  · rw [← flows.answered]
    exact Nat.le_add_right _ _
  · intro index result located failed
    exact flows.failed_last located failed

/-- Two callers share a buffer; the second write of the device is short. -/
def sharedBuffer : List Action :=
  [.store 0 (List.replicate 64 1), .callWrite 0, .write 0 .check,
    .write 0 .load, .write 0 .clone, .store 0 (List.replicate 64 2),
    .callWrite 0, .write 1 .check, .write 1 .load, .write 1 .clone,
    .write 1 .enqueue, .write 0 .enqueue, .loop .dequeue, .loop .send,
    .loop (.returns (some 65)), .loop .dequeue, .loop .send,
    .loop (.returns (some 3))]

theorem ordered_output_sharedBuffer :
    ∃ process, deviceMachine.Reachable process ∧
      process.device.sent =
        [0 :: List.replicate 64 2, 0 :: List.replicate 64 1] ∧
      OrderedOutput process := by
  rcases
      deviceMachine.exists_reachable_of_replay
        (fun process => process.device.sent ==
          [0 :: List.replicate 64 2, 0 :: List.replicate 64 1])
        sharedBuffer (by decide +kernel) with
    ⟨process, reached, sent⟩
  exact ⟨process, reached, eq_of_beq sent, ordered_output reached⟩

end Pareader.Host.HidOutput
