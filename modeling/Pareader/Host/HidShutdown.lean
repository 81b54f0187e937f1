import Pareader.Core.Liveness
import Pareader.Host.HidDevice

/-!
# Closing a device terminates

`Device.Close` raises `done`, or finds that another goroutine is about to, and
waits for the write loop.  The write loop prefers nothing: as long as reports
are queued it may go on sending them instead of noticing `done`.  But once
`stopping` is set no further call of `Write` is admitted, so that only finitely
many reports can still be queued.

Hence every call of `Close` returns, and every call of `Write` after it, if the
calls of the HID library on the handle do.  A pending read need not return.
-/

namespace Pareader.Host.HidShutdown

open Pareader.Core
open Pareader.Host.Protocol
open Pareader.Host.HidDevice

/-! ## Raising `done` -/

/-- The operations of `stop`. -/
inductive Stops (device : Device) :
    StopPoint → Device → Option StopPoint → Prop where
  | late (stopping : device.stopping = true) :
      Stops device .swap device none
  | first (running : device.stopping = false) :
      Stops device .swap { device with stopping := true } (some .close)
  | raises : Stops device .close { device with done := true } none

theorem exists_stops (device : Device) (point : StopPoint) :
    ∃ next after, device.stop point = (next, after) ∧
      Stops device point next after := by
  cases point with
  | swap =>
      cases stopping : device.stopping with
      | true => exact ⟨device, none, if_pos stopping, .late stopping⟩
      | false =>
          exact ⟨{ device with stopping := true }, some .close,
            if_neg (Bool.not_eq_true _ ▸ stopping), .first stopping⟩
  | close => exact ⟨{ device with done := true }, none, rfl, .raises⟩

/-- How far a goroutine has come in `stop`. -/
def readStop : ReadPoint → Option StopPoint
  | .stopping point _ => some point
  | _ => none

def loopStop : LoopPoint → Option StopPoint
  | .stopping point => some point
  | _ => none

def closeStop : ClosePoint → Option StopPoint
  | .stopping point => some point
  | _ => none

/-- What an operation of a goroutine does to `stopping` and `done`. -/
inductive StopEffect (device next : Device) :
    Option StopPoint → Option StopPoint → Prop where
  | elsewhere {after : Option StopPoint}
      (stopping : next.stopping = device.stopping)
      (done : next.done = device.done)
      (outside : after ≠ some .close) :
      StopEffect device next none after
  | stops {point : StopPoint} {after : Option StopPoint}
      (effect : Stops device point next after) :
      StopEffect device next (some point) after

theorem readStop_effect
    {device next : Device} {point onward : ReadPoint} {action : ReadAction}
    (taken : readStep device point action = some (next, onward)) :
    StopEffect device next (readStop point) (readStop onward) := by
  unfold readStep at taken
  split at taken
  · cases taken
    exact .elsewhere rfl rfl nofun
  · cases taken
    exact .elsewhere rfl rfl nofun
  · split at taken
    · cases taken
      exact .elsewhere rfl rfl nofun
    · cases taken
      exact .elsewhere rfl rfl nofun
  · cases taken
    exact .elsewhere rfl rfl nofun
  · rename_i stopPoint failure
    rcases exists_stops device stopPoint with
      ⟨stopped, after, result, effect⟩
    rw [result] at taken
    cases taken
    cases after <;> exact .stops effect
  · cases taken

theorem same_of_closes
    {device next : Device} {point : HandlePoint} {action : HandleAction}
    {onward : HandleNext}
    (closes : Closes device point action next onward) :
    next.stopping = device.stopping ∧ next.done = device.done ∧
      next.writerDone = device.writerDone ∧ next.writes = device.writes := by
  cases closes <;> exact ⟨rfl, rfl, rfl, rfl⟩

theorem loopStop_effect
    {device next : Device} {point onward : LoopPoint} {action : LoopAction}
    (taken : loopStep device point action = some (next, onward)) :
    StopEffect device next (loopStop point) (loopStop onward) := by
  unfold loopStep at taken
  split at taken
  · split at taken
    · cases taken
    · cases taken
      exact .elsewhere rfl rfl nofun
  · split at taken
    · cases taken
      exact .elsewhere rfl rfl nofun
    · cases taken
  · cases taken
    exact .elsewhere rfl rfl nofun
  · cases taken
    refine .elsewhere rfl rfl ?_
    split <;> exact nofun
  · rename_i stopPoint
    rcases exists_stops device stopPoint with
      ⟨stopped, after, result, effect⟩
    rw [result] at taken
    cases taken
    cases after <;> exact .stops effect
  · rcases Option.map_eq_some_iff.mp taken with
      ⟨⟨closed, after⟩, closes, same⟩
    cases same
    rcases same_of_closes (closes_of_closeHandle closes) with
      ⟨stopping, done, -, -⟩
    refine .elsewhere stopping done ?_
    cases after <;> exact nofun
  · cases taken
    exact .elsewhere rfl rfl nofun
  · cases taken

theorem closeStop_effect
    {device next : Device} {point onward : ClosePoint}
    {action : CloseAction}
    (taken : closeStep device point action = some (next, onward)) :
    StopEffect device next (closeStop point) (closeStop onward) := by
  unfold closeStep at taken
  split at taken
  · rename_i stopPoint
    rcases exists_stops device stopPoint with
      ⟨stopped, after, result, effect⟩
    rw [result] at taken
    cases taken
    cases after <;> exact .stops effect
  · split at taken
    · cases taken
      exact .elsewhere rfl rfl nofun
    · cases taken
  · rcases Option.map_eq_some_iff.mp taken with
      ⟨⟨closed, after⟩, closes, same⟩
    cases same
    rcases same_of_closes (closes_of_closeHandle closes) with
      ⟨stopping, done, -, -⟩
    refine .elsewhere stopping done ?_
    cases after <;> exact nofun
  · cases taken

/-- Neither flag is ever taken back. -/
theorem StopEffect.monotone
    {device next : Device} {before after : Option StopPoint}
    (effect : StopEffect device next before after) :
    (device.stopping = true → next.stopping = true) ∧
      (device.done = true → next.done = true) := by
  cases effect with
  | elsewhere stopping done outside =>
      exact ⟨stopping.trans, done.trans⟩
  | stops effect =>
      cases effect with
      | late stopping => exact ⟨id, id⟩
      | first running => exact ⟨fun _ => rfl, id⟩
      | raises => exact ⟨id, fun _ => rfl⟩

/-- Who sets `stopping` is the one who raises `done`. -/
theorem StopEffect.raised
    {device next : Device} {before after : Option StopPoint}
    (effect : StopEffect device next before after) {others : Prop}
    (raised : device.stopping = true →
      device.done = true ∨ before = some .close ∨ others) :
    next.stopping = true →
      next.done = true ∨ after = some .close ∨ others := by
  intro stopped
  cases effect with
  | elsewhere stopping done outside =>
      rcases raised (stopping.symm.trans stopped) with
        already | impossible | other
      · exact Or.inl (done.trans already)
      · cases impossible
      · exact Or.inr (Or.inr other)
  | stops effect =>
      cases effect with
      | late stopping =>
          rcases raised stopping with already | impossible | other
          · exact Or.inl already
          · cases impossible
          · exact Or.inr (Or.inr other)
      | first running => exact Or.inr (Or.inl rfl)
      | raises => exact Or.inl rfl

/-- Past the last operation of `stop`, the flag `done` is raised. -/
theorem StopEffect.done
    {device next : Device} {after : Option StopPoint}
    (effect : StopEffect device next (some .close) after) :
    next.done = true := by
  cases effect with
  | stops effect =>
      cases effect
      rfl

/-- Past the first operation of `stop`, the flag `stopping` is set. -/
theorem StopEffect.stopping
    {device next : Device} {after : Option StopPoint}
    (effect : StopEffect device next (some .swap) after) :
    next.stopping = true := by
  cases effect with
  | stops effect =>
      cases effect with
      | late stopping => exact stopping
      | first running => rfl

/-! ## Someone raises `done` -/

/-- Whoever set `stopping` will raise `done`, if it is not raised yet. -/
structure Raised (process : Process) : Prop where
  raised : process.device.stopping = true →
    process.device.done = true ∨ readStop process.reader = some .close ∨
      loopStop process.loop = some .close ∨
      ∃ (number : Nat) (point : ClosePoint),
        process.closers[number]? = some point ∧
        closeStop point = some .close
  begun : ∀ (number : Nat) (point : ClosePoint),
    process.closers[number]? = some point →
    point ≠ .stopping .swap → process.device.stopping = true
  ended : process.loop = .ended → process.device.writerDone = true

theorem writerDone_of_reads
    {device next : Device} {point onward : ReadPoint} {action : ReadAction}
    (reads : Reads device point action next onward) :
    next.writerDone = device.writerDone ∧ next.writes = device.writes := by
  cases reads <;> exact ⟨rfl, rfl⟩

theorem writerDone_of_closeMoves
    {device next : Device} {point onward : ClosePoint}
    {action : CloseAction}
    (moves : CloseMoves device point action next onward) :
    next.writerDone = device.writerDone ∧ next.writes = device.writes := by
  cases moves with
  | stopped => exact ⟨rfl, rfl⟩
  | waited => exact ⟨rfl, rfl⟩
  | closed closes => exact (same_of_closes closes).2.2

/-- The write loop ends by telling so. -/
theorem writerDone_of_loops
    {device next : Device} {point onward : LoopPoint} {action : LoopAction}
    (loops : Loops device point action next onward) :
    (device.writerDone = true → next.writerDone = true) ∧
      (onward = .ended → next.writerDone = true) := by
  cases loops with
  | stopped point stopping done after =>
      exact ⟨id, by cases after <;> exact nofun⟩
  | @closed point action next after closes =>
      rw [(same_of_closes closes).2.2.1]
      exact ⟨id, by cases after <;> exact nofun⟩
  | ended => exact ⟨fun _ => rfl, fun _ => rfl⟩
  | _ => exact ⟨id, nofun⟩

/-- A call of `Write` does not touch the flags. -/
theorem flags_of_writes
    {device next : Device} {number : Nat} {raw : List Byte}
    {point onward : WritePoint} {action : WriteAction}
    (writes : Writes device number raw point action next onward) :
    next.stopping = device.stopping ∧ next.done = device.done ∧
      next.writerDone = device.writerDone := by
  cases writes <;> exact ⟨rfl, rfl, rfl⟩

/-- A call of `Close` which has only been made does nothing yet. -/
theorem Raised.callClose
    {process : Process} (kept : Raised process) :
    Raised { process with
      closers := process.closers ++ [.stopping .swap] } := by
  rcases kept with ⟨raised, begun, ended⟩
  refine ⟨?_, ?_, ended⟩
  · intro stopping
    rcases raised stopping with
      done | reader | loop | ⟨number, point, located, raises⟩
    · exact Or.inl done
    · exact Or.inr (Or.inl reader)
    · exact Or.inr (Or.inr (Or.inl loop))
    · rcases List.getElem?_eq_some_iff.mp located with ⟨inside, -⟩
      exact Or.inr (Or.inr (Or.inr ⟨number, point,
        (List.getElem?_append_left inside).trans located, raises⟩))
  · intro number point located later
    rcases thread_of_append located with fresh | before
    · exact (later fresh).elim
    · exact begun number point before later

/-- A step of `Close` keeps someone who raises `done`. -/
theorem Raised.close
    {process : Process} (kept : Raised process)
    {number : Nat} {action : CloseAction} {device : Device}
    {point onward : ClosePoint}
    (found : process.closers[number]? = some point)
    (moved : closeStep process.device point action = some (device, onward)) :
    Raised { process with
      device := device
      closers := process.closers.set number onward } := by
  rcases kept with ⟨raised, begun, ended⟩
  rcases List.getElem?_eq_some_iff.mp found with ⟨inside, -⟩
  have effect := closeStop_effect moved
  refine ⟨?_, ?_, ?_⟩
  · -- The goroutines other than this call of `Close`.
    have before : process.device.stopping = true →
        process.device.done = true ∨ closeStop point = some .close ∨
          readStop process.reader = some .close ∨
          loopStop process.loop = some .close ∨
          ∃ (other : Nat) (place : ClosePoint), number ≠ other ∧
            process.closers[other]? = some place ∧
            closeStop place = some .close := by
      intro stopping
      rcases raised stopping with
        done | reader | loop | ⟨other, place, located, raises⟩
      · exact Or.inl done
      · exact Or.inr (Or.inr (Or.inl reader))
      · exact Or.inr (Or.inr (Or.inr (Or.inl loop)))
      · by_cases same : number = other
        · subst same
          obtain rfl : point = place :=
            Option.some.inj (found.symm.trans located)
          exact Or.inr (Or.inl raises)
        · exact Or.inr (Or.inr (Or.inr (Or.inr
            ⟨other, place, same, located, raises⟩)))
    intro stopping
    rcases effect.raised before stopping with
      done | mine | reader | loop |
        ⟨other, place, different, located, raises⟩
    · exact Or.inl done
    · exact Or.inr (Or.inr (Or.inr ⟨number, onward,
        List.getElem?_set_self inside, mine⟩))
    · exact Or.inr (Or.inl reader)
    · exact Or.inr (Or.inr (Or.inl loop))
    · exact Or.inr (Or.inr (Or.inr ⟨other, place,
        (List.getElem?_set_ne different).trans located, raises⟩))
  · -- Whoever has taken a step has found or set `stopping`.
    have stopping : device.stopping = true := by
      by_cases first : point = .stopping .swap
      · subst first
        exact effect.stopping
      · exact effect.monotone.1 (begun number point found first)
    exact fun _ _ _ _ => stopping
  · intro rests
    exact
      (writerDone_of_closeMoves (closeMoves_of_closeStep moved)).1.trans
        (ended rests)

/-- Step lemma: every action keeps someone who raises `done`. -/
theorem Raised.step
    {process next : Process} (kept : Raised process) (action : Action)
    (taken : process.step action = some next) :
    Raised next := by
  rcases kept with ⟨raised, begun, ended⟩
  cases action with
  | store buffer octets =>
      simp only [Process.step] at taken
      split at taken <;> cases taken
      exact ⟨raised, begun, ended⟩
  | read action =>
      rcases Option.map_eq_some_iff.mp taken with
        ⟨⟨device, reader⟩, moved, rfl⟩
      have effect := readStop_effect moved
      refine ⟨effect.raised raised, ?_, ?_⟩
      · intro number point located later
        exact effect.monotone.1 (begun number point located later)
      · intro rests
        exact (writerDone_of_reads (reads_of_readStep moved)).1.trans
          (ended rests)
  | loop action =>
      rcases Option.map_eq_some_iff.mp taken with
        ⟨⟨device, loop⟩, moved, rfl⟩
      have effect := loopStop_effect moved
      refine ⟨?_, ?_, (writerDone_of_loops (loops_of_loopStep moved)).2⟩
      · intro stopping
        have others := effect.raised
          (fun before => (raised before).imp_right or_left_comm.mp) stopping
        exact others.imp_right or_left_comm.mp
      · intro number point located later
        exact effect.monotone.1 (begun number point located later)
  | callWrite buffer =>
      cases taken
      exact ⟨raised, begun, ended⟩
  | write number action =>
      rcases Option.bind_eq_some_iff.mp taken with ⟨call, found, stepped⟩
      rcases Option.map_eq_some_iff.mp stepped with
        ⟨⟨device, point⟩, moved, rfl⟩
      rcases flags_of_writes (writes_of_writeStep moved) with
        ⟨stopping, done, writerDone⟩
      refine ⟨?_, ?_, ?_⟩
      · show device.stopping = true → device.done = true ∨ _
        rwa [stopping, done]
      · show ∀ (number : Nat) (point : ClosePoint), _ → _ →
          device.stopping = true
        rwa [stopping]
      · show _ → device.writerDone = true
        rwa [writerDone]
  | callClose =>
      cases taken
      exact Raised.callClose ⟨raised, begun, ended⟩
  | close number action =>
      rcases Option.bind_eq_some_iff.mp taken with
        ⟨point, found, stepped⟩
      rcases Option.map_eq_some_iff.mp stepped with
        ⟨⟨device, onward⟩, moved, rfl⟩
      exact Raised.close ⟨raised, begun, ended⟩ found moved

theorem raised_of_reachable
    {process : Process} (reached : deviceMachine.Reachable process) :
    Raised process := by
  refine reached.invariant ?_ ?_
  · constructor <;> simp [deviceMachine, opened, openedDevice]
  · intro state action next _ kept taken
    exact kept.step action taken

/-- Neither flag is ever taken back, and the write loop does not restart. -/
theorem flags_of_step
    {process next : Process} {action : Action}
    (taken : process.step action = some next) :
    (process.device.stopping = true → next.device.stopping = true) ∧
      (process.device.done = true → next.device.done = true) ∧
      (process.device.writerDone = true →
        next.device.writerDone = true) := by
  cases action with
  | store buffer octets =>
      simp only [Process.step] at taken
      split at taken <;> cases taken
      exact ⟨id, id, id⟩
  | read action =>
      rcases Option.map_eq_some_iff.mp taken with
        ⟨⟨device, reader⟩, moved, rfl⟩
      exact ⟨(readStop_effect moved).monotone.1,
        (readStop_effect moved).monotone.2,
        (writerDone_of_reads (reads_of_readStep moved)).1.trans⟩
  | loop action =>
      rcases Option.map_eq_some_iff.mp taken with
        ⟨⟨device, loop⟩, moved, rfl⟩
      exact ⟨(loopStop_effect moved).monotone.1,
        (loopStop_effect moved).monotone.2,
        (writerDone_of_loops (loops_of_loopStep moved)).1⟩
  | callWrite buffer =>
      cases taken
      exact ⟨id, id, id⟩
  | write number action =>
      rcases Option.bind_eq_some_iff.mp taken with ⟨call, found, stepped⟩
      rcases Option.map_eq_some_iff.mp stepped with
        ⟨⟨device, point⟩, moved, rfl⟩
      rcases flags_of_writes (writes_of_writeStep moved) with
        ⟨stopping, done, writerDone⟩
      exact ⟨stopping.trans, done.trans, writerDone.trans⟩
  | callClose =>
      cases taken
      exact ⟨id, id, id⟩
  | close number action =>
      rcases Option.bind_eq_some_iff.mp taken with
        ⟨point, found, stepped⟩
      rcases Option.map_eq_some_iff.mp stepped with
        ⟨⟨device, onward⟩, moved, rfl⟩
      exact ⟨(closeStop_effect moved).monotone.1,
        (closeStop_effect moved).monotone.2,
        (writerDone_of_closeMoves
          (closeMoves_of_closeStep moved)).1.trans⟩

/-! ## The participants -/

/-- The participants; of the reader, only its call of `stop` is needed. -/
inductive Party where
  | reader
  | loop
  | writer (number : Nat)
  | closer (number : Nat)

/-- The actions of a participant. -/
def Party.acts : Party → Action → Prop
  | .reader, action => action = .read .stop
  | .loop, action => ∃ operation, action = .loop operation
  | .writer number, action => ∃ operation, action = .write number operation
  | .closer number, action => ∃ operation, action = .close number operation

/-- Any action is allowed. -/
def anyAction (_ : Process) (_ : Action) : Prop := True

/-- A call of `Close` stays where it is, or it takes its next operation. -/
theorem closer_of_step
    {process next : Process} {action : Action}
    (taken : process.step action = some next) {number : Nat}
    {point : ClosePoint} (located : process.closers[number]? = some point) :
    (¬ (Party.closer number).acts action ∧
        next.closers[number]? = some point) ∨
      ∃ operation onward,
        closeStep process.device point operation =
          some (next.device, onward) ∧
        next.closers[number]? = some onward := by
  rcases List.getElem?_eq_some_iff.mp located with ⟨inside, -⟩
  by_cases acts : (Party.closer number).acts action
  · rcases acts with ⟨operation, rfl⟩
    rcases Option.bind_eq_some_iff.mp taken with ⟨place, found, stepped⟩
    rcases Option.map_eq_some_iff.mp stepped with
      ⟨⟨device, onward⟩, moved, rfl⟩
    obtain rfl : point = place :=
      Option.some.inj (located.symm.trans found)
    exact Or.inr ⟨operation, onward, moved, List.getElem?_set_self inside⟩
  · refine Or.inl ⟨acts, ?_⟩
    cases steps_of_step taken with
    | closeCalled => exact (List.getElem?_append_left inside).trans located
    | @close other place onward operation device found moves =>
        have different : other ≠ number := by
          rintro rfl
          exact acts ⟨operation, rfl⟩
        exact (List.getElem?_set_ne different).trans located
    | _ => exact located

/-- The write loop stays where it is, or it takes its next operation. -/
theorem loop_of_step
    {process next : Process} {action : Action}
    (taken : process.step action = some next) :
    (¬ Party.loop.acts action ∧ next.loop = process.loop) ∨
      ∃ operation, loopStep process.device process.loop operation =
        some (next.device, next.loop) ∧ next.writers = process.writers := by
  by_cases acts : Party.loop.acts action
  · rcases acts with ⟨operation, rfl⟩
    rcases Option.map_eq_some_iff.mp taken with
      ⟨⟨device, loop⟩, moved, rfl⟩
    exact Or.inr ⟨operation, moved, rfl⟩
  · refine Or.inl ⟨acts, ?_⟩
    cases steps_of_step taken with
    | @loop operation device loop moves => exact (acts ⟨operation, rfl⟩).elim
    | _ => rfl

/-- The operations of `closeHandle` which are left. -/
def handleRemaining : HandlePoint → Nat
  | .swap => 3
  | .call => 2
  | .calling => 1

/-- A bound on the operations of a call of `Close`. -/
def closeRemaining : ClosePoint → Nat
  | .stopping .swap => 6
  | .stopping .close => 5
  | .waiting => 4
  | .closing point => handleRemaining point
  | .returned _ => 0

theorem handleRemaining_closes
    {device next : Device} {point : HandlePoint} {action : HandleAction}
    {onward : HandleNext}
    (closes : Closes device point action next onward) :
    closeRemaining onward.closePoint < handleRemaining point := by
  cases closes <;> simp [HandleNext.closePoint, closeRemaining,
    handleRemaining]

theorem closeRemaining_step
    {device next : Device} {point onward : ClosePoint}
    {action : CloseAction}
    (taken : closeStep device point action = some (next, onward)) :
    closeRemaining onward < closeRemaining point := by
  unfold closeStep at taken
  split at taken
  · rename_i stopPoint
    rcases exists_stops device stopPoint with
      ⟨stopped, after, result, effect⟩
    rw [result] at taken
    cases taken
    cases effect <;> simp [closeRemaining]
  · split at taken
    · cases taken
      simp [closeRemaining, handleRemaining]
    · cases taken
  · rcases Option.map_eq_some_iff.mp taken with
      ⟨⟨closed, after⟩, closes, same⟩
    cases same
    exact handleRemaining_closes (closes_of_closeHandle closes)
  · cases taken

/-- The operation of `closeHandle` which is possible at a control point. -/
def handleAction : HandlePoint → HandleAction
  | .swap => .swap
  | .call => .call
  | .calling => .returns true

theorem closeHandle_enabled (device : Device) (point : HandlePoint) :
    ∃ result, device.closeHandle point (handleAction point) =
      some result := by
  cases point with
  | swap =>
      cases closed : device.closed with
      | true => exact ⟨_, if_pos closed⟩
      | false => exact ⟨_, if_neg (Bool.not_eq_true _ ▸ closed)⟩
  | call => exact ⟨_, rfl⟩
  | calling => exact ⟨_, rfl⟩

/-- A call of `Close` waits for the write loop only. -/
theorem closer_enabled
    {process : Process} {number : Nat} {point : ClosePoint}
    (located : process.closers[number]? = some point)
    (pending : ∀ failure, point ≠ .returned failure)
    (waits : point = .waiting → process.device.writerDone = true) :
    deviceMachine.Enabled (Party.closer number).acts process := by
  have acts : ∀ operation,
      (closeStep process.device point operation).isSome = true →
        deviceMachine.Enabled (Party.closer number).acts process := by
    intro operation moved
    refine Machine.enabled_of_isSome (.close number operation)
      ⟨operation, rfl⟩ ?_
    show (process.step (.close number operation)).isSome = true
    rw [Process.step, located, Option.bind_some, Option.isSome_map, moved]
  cases point with
  | stopping point => exact acts .stop rfl
  | waiting =>
      refine acts .wait ?_
      rw [closeStep, if_pos (waits rfl)]
      rfl
  | closing point =>
      rcases closeHandle_enabled process.device point with ⟨result, closes⟩
      refine acts (.handle (handleAction point)) ?_
      rw [closeStep, closes]
      rfl
  | returned failure => exact (pending failure rfl).elim

/-! ## A call of `Close` returns -/

/-- A call of `Close` enters `stop`. -/
def entering (number : Nat) :
    deviceMachine.Progress anyAction Party.acts
      (fun process => process.closers[number]? = some (.stopping .swap))
      (fun process => process.device.stopping = true) where
  rank _ := 0
  helper _ := .closer number
  enabled _ _ located := Or.inr (closer_enabled located nofun nofun)
  advances process action next _ located _ taken := by
    rcases closer_of_step taken located with
      ⟨other, kept⟩ | ⟨operation, onward, moved, -⟩
    · exact Or.inr ⟨kept, Or.inr ⟨rfl, rfl, other⟩⟩
    · have effect := closeStop_effect moved
      exact Or.inl effect.stopping

/-- A call of `Close` which set `stopping` raises `done`. -/
def closerRaising (number : Nat) :
    deviceMachine.Progress anyAction Party.acts
      (fun process => ∃ point : ClosePoint,
        process.closers[number]? = some point ∧
        closeStop point = some .close)
      (fun process => process.device.done = true) where
  rank _ := 0
  helper _ := .closer number
  enabled _ _ raising := by
    rcases raising with ⟨point, located, raises⟩
    refine Or.inr (closer_enabled located ?_ ?_)
    · rintro failure rfl
      cases raises
    · rintro rfl
      cases raises
  advances process action next _ raising _ taken := by
    rcases raising with ⟨point, located, raises⟩
    rcases closer_of_step taken located with
      ⟨other, kept⟩ | ⟨operation, onward, moved, -⟩
    · exact Or.inr ⟨⟨point, kept, raises⟩, Or.inr ⟨rfl, rfl, other⟩⟩
    · have effect := closeStop_effect moved
      rw [raises] at effect
      exact Or.inl effect.done

/-- A read loop which set `stopping` raises `done`. -/
def readerRaising :
    deviceMachine.Progress anyAction Party.acts
      (fun process => readStop process.reader = some .close)
      (fun process => process.device.done = true) where
  rank _ := 0
  helper _ := .reader
  enabled process _ raising := by
    cases point : process.reader with
    | stopping stop failure =>
        refine Or.inr (Machine.enabled_of_isSome (.read .stop) rfl ?_)
        show (process.step (.read .stop)).isSome = true
        rw [Process.step, point]
        rfl
    | _ =>
        rw [point] at raising
        cases raising
  advances process action next _ raising _ taken := by
    cases steps_of_step taken with
    | read moves =>
        rcases Option.map_eq_some_iff.mp taken with
          ⟨⟨device, reader⟩, moved, same⟩
        cases same
        have effect := readStop_effect moved
        rw [raising] at effect
        exact Or.inl effect.done
    | _ => exact Or.inr ⟨raising, Or.inr ⟨rfl, rfl, nofun⟩⟩

/-- A write loop which set `stopping` raises `done`. -/
def loopRaising :
    deviceMachine.Progress anyAction Party.acts
      (fun process => loopStop process.loop = some .close)
      (fun process => process.device.done = true) where
  rank _ := 0
  helper _ := .loop
  enabled process _ raising := by
    cases point : process.loop with
    | stopping stop =>
        refine Or.inr
          (Machine.enabled_of_isSome (.loop .stop) ⟨.stop, rfl⟩ ?_)
        show (process.step (.loop .stop)).isSome = true
        rw [Process.step, point]
        rfl
    | _ =>
        rw [point] at raising
        cases raising
  advances process action next _ raising _ taken := by
    rcases loop_of_step taken with ⟨other, same⟩ | ⟨operation, moved, -⟩
    · exact Or.inr ⟨same ▸ raising, Or.inr ⟨rfl, rfl, other⟩⟩
    · have effect := loopStop_effect moved
      rw [raising] at effect
      exact Or.inl effect.done

/-! ## The write loop ends -/

/-- The call of `Write` may still send its report to the queue. -/
def admitted (call : WriteCall) : Bool :=
  match call.point with
  | .admitted => true
  | .selecting _ => true
  | _ => false

/-- A bound on the reports which the write loop may still meet. -/
def reportsRemaining (process : Process) : Nat :=
  process.device.writes.length + process.writers.countP admitted

/-- A bound on the operations of the write loop for the report at hand. -/
def loopRemaining : LoopPoint → Nat
  | .sending _ => 8
  | .writing => 7
  | .stopping .swap => 6
  | .stopping .close => 5
  | .closing point => 1 + handleRemaining point
  | .selecting => 2
  | .returning => 1
  | .ended => 0

/-- An operation of the write loop brings it closer to its end. -/
theorem loopRemaining_step
    {device next : Device} {point onward : LoopPoint} {action : LoopAction}
    (taken : loopStep device point action = some (next, onward)) :
    8 * next.writes.length + loopRemaining onward <
      8 * device.writes.length + loopRemaining point := by
  unfold loopStep at taken
  split at taken
  · split at taken
    · cases taken
    · rename_i queued
      cases taken
      rw [queued]
      simp only [loopRemaining, List.length_cons]
      omega
  · split at taken
    · cases taken
      simp [loopRemaining]
    · cases taken
  · cases taken
    simp [loopRemaining]
  · cases taken
    split <;> simp [loopRemaining]
  · rename_i stopPoint
    rcases exists_stops device stopPoint with
      ⟨stopped, after, result, effect⟩
    rw [result] at taken
    cases taken
    cases effect <;> simp [loopRemaining, handleRemaining]
  · rcases Option.map_eq_some_iff.mp taken with
      ⟨⟨closed, after⟩, handled, same⟩
    cases same
    have closes := closes_of_closeHandle handled
    rw [(same_of_closes closes).2.2.2]
    cases closes <;> simp [loopRemaining, handleRemaining,
      HandleNext.loopPoint]
  · cases taken
    simp [loopRemaining]
  · cases taken

/-- After `stopping` is set, a call of `Write` only uses up its admission. -/
theorem admitted_writes
    {device next : Device} {number : Nat} {raw : List Byte}
    {call : WriteCall} {onward : WritePoint} {action : WriteAction}
    (stopping : device.stopping = true)
    (writes : Writes device number raw call.point action next onward) :
    next.writes.length +
        (if admitted { call with point := onward } then 1 else 0) ≤
      device.writes.length + if admitted call then 1 else 0 := by
  rcases call with ⟨buffer, given, point⟩
  dsimp only at writes
  cases writes with
  | admitted running => simp [stopping] at running
  | _ => simp [admitted]

theorem countP_set_add
    {calls : List WriteCall} {number : Nat} {call : WriteCall}
    (found : calls[number]? = some call) (onward : WriteCall) :
    (calls.set number onward).countP admitted +
        (if admitted call then 1 else 0) =
      calls.countP admitted + if admitted onward then 1 else 0 := by
  rcases List.getElem?_eq_some_iff.mp found with ⟨inside, rfl⟩
  rw [List.countP_set inside]
  have counted := List.boole_getElem_le_countP (p := admitted) inside
  omega

/-- Without a step of the write loop, the bound does not grow. -/
theorem reportsRemaining_of_step
    {process next : Process} {action : Action}
    (stopping : process.device.stopping = true)
    (taken : process.step action = some next)
    (other : ¬ Party.loop.acts action) :
    reportsRemaining next ≤ reportsRemaining process := by
  cases steps_of_step taken with
  | stored buffer octets owned => exact Nat.le_refl _
  | read moves =>
      rw [reportsRemaining, reportsRemaining,
        (writerDone_of_reads moves).2]
  | @loop operation device loop moves => exact (other ⟨operation, rfl⟩).elim
  | writeCalled buffer =>
      simp [reportsRemaining, List.countP_append, admitted]
  | @write number call operation device point found moves =>
      have used := admitted_writes stopping moves
      have counted := countP_set_add found { call with point := point }
      simp only [reportsRemaining]
      omega
  | closeCalled => exact Nat.le_refl _
  | close found moves =>
      rw [reportsRemaining, reportsRemaining,
        (writerDone_of_closeMoves moves).2]

/-- The write loop can act until it has ended. -/
theorem loop_enabled
    {process : Process} (done : process.device.done = true)
    (running : process.loop ≠ .ended) :
    deviceMachine.Enabled Party.loop.acts process := by
  have acts : ∀ operation,
      (loopStep process.device process.loop operation).isSome = true →
        deviceMachine.Enabled Party.loop.acts process := by
    intro operation moved
    refine Machine.enabled_of_isSome (.loop operation)
      ⟨operation, rfl⟩ ?_
    show (process.step (.loop operation)).isSome = true
    rw [Process.step, Option.isSome_map, moved]
  cases point : process.loop with
  | selecting =>
      refine acts .seeDone ?_
      rw [point, loopStep, if_pos done]
      rfl
  | sending raw => exact acts .send (by rw [point]; rfl)
  | writing => exact acts (.returns none) (by rw [point]; rfl)
  | stopping stop => exact acts .stop (by rw [point]; rfl)
  | closing handle =>
      rcases closeHandle_enabled process.device handle with
        ⟨result, closes⟩
      refine acts (.handle (handleAction handle)) ?_
      rw [point, loopStep, closes]
      rfl
  | returning => exact acts .finish (by rw [point]; rfl)
  | ended => exact (running point).elim

/-- Both flags are set. -/
structure Stopped (process : Process) : Prop where
  stopping : process.device.stopping = true
  done : process.device.done = true

theorem Stopped.step
    {process next : Process} (stopped : Stopped process) {action : Action}
    (taken : process.step action = some next) :
    Stopped next :=
  ⟨(flags_of_step taken).1 stopped.stopping,
    (flags_of_step taken).2.1 stopped.done⟩

/-- The write loop ends, however many reports are queued. -/
def ending :
    deviceMachine.Progress anyAction Party.acts Stopped
      (fun process => process.device.writerDone = true) where
  rank process := 8 * reportsRemaining process + loopRemaining process.loop
  helper _ := .loop
  enabled process reached stopped := by
    by_cases ended : process.loop = .ended
    · exact Or.inl ((raised_of_reachable reached).ended ended)
    · exact Or.inr (loop_enabled stopped.done ended)
  advances process action next _ stopped _ taken := by
    refine Or.inr ⟨stopped.step taken, ?_⟩
    rcases loop_of_step taken with
      ⟨other, same⟩ | ⟨operation, moved, writers⟩
    · have fewer := reportsRemaining_of_step stopped.stopping taken other
      rw [same]
      rcases Nat.lt_or_eq_of_le fewer with lower | equal
      · exact Or.inl (by omega)
      · exact Or.inr ⟨by rw [equal], rfl, other⟩
    · have lower := loopRemaining_step moved
      refine Or.inl ?_
      simp only [reportsRemaining, writers]
      omega

/-! ## Calls return -/

/-- The write loop has ended and a call of `Close` is under way. -/
structure Returning (number : Nat) (process : Process) : Prop where
  ended : process.device.writerDone = true
  called : ∃ point, process.closers[number]? = some point

/-- After the write loop has ended, a call of `Close` returns. -/
def returning (number : Nat) :
    deviceMachine.Progress anyAction Party.acts (Returning number)
      (fun process => ∃ failure,
        process.closers[number]? = some (.returned failure)) where
  rank process := (process.closers[number]?).elim 0 closeRemaining
  helper _ := .closer number
  enabled process _ returning := by
    rcases returning.called with ⟨point, located⟩
    by_cases returned : ∃ failure, point = .returned failure
    · rcases returned with ⟨failure, rfl⟩
      exact Or.inl ⟨failure, located⟩
    · exact Or.inr (closer_enabled located
        (fun failure same => returned ⟨failure, same⟩)
        (fun _ => returning.ended))
  advances process action next _ returning _ taken := by
    rcases returning.called with ⟨point, located⟩
    have ended := (flags_of_step taken).2.2 returning.ended
    rcases closer_of_step taken located with
      ⟨other, kept⟩ | ⟨operation, onward, moved, after⟩
    · refine Or.inr ⟨⟨ended, point, kept⟩, Or.inr ⟨?_, rfl, other⟩⟩
      rw [kept, located]
    · refine Or.inr ⟨⟨ended, onward, after⟩, Or.inl ?_⟩
      rw [after, located]
      exact closeRemaining_step moved

/-- A bound on the operations of a call of `Write`. -/
def writeRemaining : WritePoint → Nat
  | .called => 4
  | .checked => 3
  | .admitted => 2
  | .selecting _ => 1
  | .returned _ => 0

/-- A call of `Write` stays where it is, or it takes its next operation. -/
theorem writer_of_step
    {process next : Process} {action : Action}
    (taken : process.step action = some next) {number : Nat}
    {call : WriteCall} (located : process.writers[number]? = some call) :
    (¬ (Party.writer number).acts action ∧
        next.writers[number]? = some call) ∨
      ∃ onward, writeRemaining onward < writeRemaining call.point ∧
        next.writers[number]? = some { call with point := onward } := by
  rcases List.getElem?_eq_some_iff.mp located with ⟨inside, -⟩
  by_cases acts : (Party.writer number).acts action
  · rcases acts with ⟨operation, rfl⟩
    rcases Option.bind_eq_some_iff.mp taken with ⟨same, found, stepped⟩
    rcases Option.map_eq_some_iff.mp stepped with
      ⟨⟨device, onward⟩, moved, rfl⟩
    obtain rfl : call = same := Option.some.inj (located.symm.trans found)
    refine Or.inr ⟨onward, ?_, List.getElem?_set_self inside⟩
    have writes := writes_of_writeStep moved
    generalize call.point = point at writes
    cases writes <;> simp [writeRemaining]
  · refine Or.inl ⟨acts, ?_⟩
    cases steps_of_step taken with
    | writeCalled buffer =>
        exact (List.getElem?_append_left inside).trans located
    | @write other before operation device point found moves =>
        have different : other ≠ number := by
          rintro rfl
          exact acts ⟨operation, rfl⟩
        exact (List.getElem?_set_ne different).trans located
    | _ => exact located

theorem writer_enabled
    {process : Process} (done : process.device.done = true) {number : Nat}
    {call : WriteCall} (located : process.writers[number]? = some call)
    (pending : ∀ failure, call.point ≠ .returned failure) :
    deviceMachine.Enabled (Party.writer number).acts process := by
  have acts : ∀ operation,
      (writeStep process.device number (process.memory call.buffer)
        call.point operation).isSome = true →
        deviceMachine.Enabled (Party.writer number).acts process := by
    intro operation moved
    refine Machine.enabled_of_isSome (.write number operation)
      ⟨operation, rfl⟩ ?_
    show (process.step (.write number operation)).isSome = true
    rw [Process.step, located, Option.bind_some, Option.isSome_map, moved]
  cases point : call.point with
  | called => exact acts .check (by rw [point]; rfl)
  | checked => exact acts .load (by rw [point]; rfl)
  | admitted => exact acts .clone (by rw [point]; rfl)
  | selecting copy =>
      refine acts .seeDone ?_
      rw [point, writeStep, if_pos done]
      rfl
  | returned failure => exact (pending failure point).elim

/-- `done` is raised and a call of `Write` is under way. -/
structure Released (number : Nat) (process : Process) : Prop where
  done : process.device.done = true
  called : ∃ call, process.writers[number]? = some call

/-- A call of `Write` has returned. -/
def WriteReturned (number : Nat) (process : Process) : Prop :=
  ∃ call failure, process.writers[number]? = some call ∧
    call.point = .returned failure

/-- After `done` is raised, no call of `Write` blocks. -/
def releasing (number : Nat) :
    deviceMachine.Progress anyAction Party.acts (Released number)
      (WriteReturned number) where
  rank process := (process.writers[number]?).elim 0
    (fun call => writeRemaining call.point)
  helper _ := .writer number
  enabled process _ released := by
    rcases released.called with ⟨call, located⟩
    by_cases returned : ∃ failure, call.point = .returned failure
    · rcases returned with ⟨failure, point⟩
      exact Or.inl ⟨call, failure, located, point⟩
    · exact Or.inr (writer_enabled released.done located
        (fun failure same => returned ⟨failure, same⟩))
  advances process action next _ released _ taken := by
    rcases released.called with ⟨call, located⟩
    have done := (flags_of_step taken).2.1 released.done
    rcases writer_of_step taken located with
      ⟨other, kept⟩ | ⟨onward, lower, after⟩
    · refine Or.inr ⟨⟨done, call, kept⟩, Or.inr ⟨?_, rfl, other⟩⟩
      rw [kept, located]
    · refine Or.inr ⟨⟨done, _, after⟩, Or.inl ?_⟩
      rw [after, located]
      exact lower

variable {run : deviceMachine.Run}

/-- Some call of `Close`, or a failed transfer, sets `stopping`. -/
theorem stopping_eventually
    (fair : ∀ party : Party, run.Fair party.acts) {moment number : Nat}
    (called : number < (run.state moment).closers.length) :
    ∃ later, moment ≤ later ∧
      (run.state later).device.stopping = true := by
  have located := List.getElem?_eq_getElem called
  by_cases enters :
      (run.state moment).closers[number] = .stopping .swap
  · exact (entering number).reaches run fair (fun _ _ _ _ => trivial)
      (enters ▸ located)
  · exact ⟨moment, Nat.le_refl _,
      (raised_of_reachable (run.reachable moment)).begun number _ located
        enters⟩

/-- Whoever set `stopping` raises `done`. -/
theorem done_eventually
    (fair : ∀ party : Party, run.Fair party.acts) {moment : Nat}
    (stopping : (run.state moment).device.stopping = true) :
    ∃ later, moment ≤ later ∧ Stopped (run.state later) := by
  have raised : ∃ later, moment ≤ later ∧
      (run.state later).device.done = true := by
    rcases (raised_of_reachable (run.reachable moment)).raised stopping with
      done | reader | loop | ⟨number, raising⟩
    · exact ⟨moment, Nat.le_refl _, done⟩
    · exact readerRaising.reaches run fair (fun _ _ _ _ => trivial) reader
    · exact loopRaising.reaches run fair (fun _ _ _ _ => trivial) loop
    · exact (closerRaising number).reaches run fair
        (fun _ _ _ _ => trivial) raising
  rcases raised with ⟨later, order, done⟩
  refine ⟨later, order, ?_, done⟩
  exact @Machine.Run.stable _ _ _ run
    (fun process => process.device.stopping = true)
    (fun _ _ _ _ stopping taken => (flags_of_step taken).1 stopping)
    moment later order stopping

/-- A call of `Close` does not vanish. -/
theorem called_stays
    {number moment later : Nat} (order : moment ≤ later)
    (called : ∃ point, (run.state moment).closers[number]? = some point) :
    ∃ point, (run.state later).closers[number]? = some point := by
  refine
    @Machine.Run.stable _ _ _ run
      (fun process => ∃ point, process.closers[number]? = some point) ?_
      moment later order called
  rintro process action next - ⟨point, located⟩ taken
  rcases closer_of_step taken located with
    ⟨-, kept⟩ | ⟨operation, onward, -, after⟩
  · exact ⟨point, kept⟩
  · exact ⟨onward, after⟩

/--
In every run in which each goroutine acts again and again as long as it can,
every call of `Close` returns, no matter how many calls of `Write` compete with
it.  From then on every call of `Write` returns as well.  A read which is
pending at the library need not return.
-/
theorem close_terminates
    (run : deviceMachine.Run) (fair : ∀ party : Party, run.Fair party.acts)
    (moment number : Nat)
    (called : number < (run.state moment).closers.length) :
    ∃ later, moment ≤ later ∧
      (∃ failure,
        (run.state later).closers[number]? = some (.returned failure)) ∧
      ∀ after writer, later ≤ after →
        writer < (run.state after).writers.length →
          ∃ last, after ≤ last ∧
            WriteReturned writer (run.state last) := by
  rcases stopping_eventually fair called with ⟨sets, first, stopping⟩
  rcases done_eventually fair stopping with ⟨raises, second, stopped⟩
  rcases ending.reaches run fair (fun _ _ _ _ => trivial) stopped with
    ⟨ends, third, ended⟩
  have still := called_stays (first.trans (second.trans third))
    ⟨_, List.getElem?_eq_getElem called⟩
  rcases
      (returning number).reaches run fair (fun _ _ _ _ => trivial)
        ⟨ended, still⟩ with
    ⟨later, fourth, returned⟩
  refine ⟨later, first.trans (second.trans (third.trans fourth)),
    returned, ?_⟩
  intro after writer last inside
  have done : (run.state after).device.done = true := by
    refine
      @Machine.Run.stable _ _ _ run
        (fun process => process.device.done = true) ?_ raises after
        (third.trans (fourth.trans last)) stopped.done
    intro process action next _ done taken
    exact (flags_of_step taken).2.1 done
  exact (releasing writer).reaches run fair (fun _ _ _ _ => trivial)
    ⟨done, _, List.getElem?_eq_getElem inside⟩

/-! ## A run which is closed -/

/-- Nobody but the pending read has anything left to do. -/
structure Quiet (process : Process) : Prop where
  reader : readStop process.reader = none
  loop : process.loop = .ended
  writers : ∀ call ∈ process.writers, ∃ failure,
    call.point = .returned failure
  closers : ∀ point ∈ process.closers, ∃ failure,
    point = .returned failure

theorem Quiet.disabled
    {process : Process} (quiet : Quiet process) (party : Party) :
    ¬ deviceMachine.Enabled party.acts process := by
  rintro ⟨action, next, acts, taken⟩
  cases party with
  | reader =>
      cases acts
      have outside := quiet.reader
      rcases Option.map_eq_some_iff.mp taken with
        ⟨⟨device, reader⟩, moved, rfl⟩
      cases point : process.reader with
      | stopping stop failure =>
          rw [point] at outside
          cases outside
      | _ =>
          rw [point] at moved
          cases moved
  | loop =>
      rcases acts with ⟨operation, rfl⟩
      rcases Option.map_eq_some_iff.mp taken with
        ⟨⟨device, loop⟩, moved, rfl⟩
      rw [quiet.loop] at moved
      cases moved
  | writer number =>
      rcases acts with ⟨operation, rfl⟩
      rcases Option.bind_eq_some_iff.mp taken with ⟨call, found, stepped⟩
      rcases Option.map_eq_some_iff.mp stepped with
        ⟨⟨device, onward⟩, moved, rfl⟩
      rcases quiet.writers call (List.mem_of_getElem? found) with
        ⟨failure, point⟩
      rw [point] at moved
      cases moved
  | closer number =>
      rcases acts with ⟨operation, rfl⟩
      rcases Option.bind_eq_some_iff.mp taken with ⟨point, found, stepped⟩
      rcases Option.map_eq_some_iff.mp stepped with
        ⟨⟨device, onward⟩, moved, rfl⟩
      rcases quiet.closers point (List.mem_of_getElem? found) with
        ⟨failure, rfl⟩
      cases moved

/-- A call of `Write` has passed its checks when the device is closed. -/
def closeDuringWrite : List Action :=
  [.store 0 (List.replicate 64 7), .callWrite 0, .write 0 .check,
    .write 0 .load, .read .read, .callClose, .close 0 .stop, .write 0 .clone,
    .close 0 .stop, .write 0 .enqueue, .loop .dequeue, .loop .send,
    .loop (.returns (some 65)), .loop .seeDone, .loop .finish,
    .close 0 .wait, .close 0 (.handle .swap), .close 0 (.handle .call),
    .close 0 (.handle (.returns true))]

/-- Whether nobody but the pending read has anything left to do. -/
def quiet (process : Process) : Bool :=
  decide (readStop process.reader = none) &&
  decide (process.loop = .ended) &&
  process.writers.all (fun call => decide (writeRemaining call.point = 0)) &&
  process.closers.all (fun point => decide (closeRemaining point = 0))

theorem returned_of_writeRemaining
    {point : WritePoint} (none : writeRemaining point = 0) :
    ∃ failure, point = .returned failure := by
  cases point with
  | returned failure => exact ⟨failure, rfl⟩
  | _ => cases none

theorem returned_of_closeRemaining
    {point : ClosePoint} (none : closeRemaining point = 0) :
    ∃ failure, point = .returned failure := by
  cases point with
  | returned failure => exact ⟨failure, rfl⟩
  | stopping point => cases point <;> cases none
  | closing point => cases point <;> cases none
  | waiting => cases none

theorem quiet_of_quiet {process : Process} (rests : quiet process = true) :
    Quiet process := by
  simp only [quiet, Bool.and_eq_true, decide_eq_true_eq,
    List.all_eq_true] at rests
  rcases rests with ⟨⟨⟨reader, loop⟩, writers⟩, closers⟩
  exact ⟨reader, loop,
    fun call member => returned_of_writeRemaining (writers call member),
    fun point member => returned_of_closeRemaining (closers point member)⟩

theorem close_terminates_pending :
    ∃ run : deviceMachine.Run,
      (run.state 6).closers.length = 1 ∧
      ∃ later failure,
        (run.state later).closers[0]? = some (.returned failure) := by
  have rests :
      (deviceMachine.replay deviceMachine.start closeDuringWrite).any
        quiet = true := by
    decide +kernel
  have calls :
      (deviceMachine.replay deviceMachine.start
        (closeDuringWrite.take 6)).any (fun process =>
          decide (process.closers.length = 1)) = true := by
    decide +kernel
  rcases (Option.any_eq_true _ _).mp rests with ⟨final, replayed, rested⟩
  rcases (Option.any_eq_true _ _).mp calls with ⟨middle, reached, one⟩
  have quieted := quiet_of_quiet rested
  have fair : ∀ party : Party,
      (Machine.Run.ofTrace _ replayed).Fair party.acts :=
    fun party => Machine.Run.ofTrace_fair replayed (quieted.disabled party)
  have called : ((Machine.Run.ofTrace _ replayed).state 6).closers.length =
      1 := by
    rw [Machine.Run.ofTrace_state replayed reached]
    exact of_decide_eq_true one
  rcases close_terminates _ fair 6 0 (by rw [called]; decide) with
    ⟨later, -, ⟨failure, returned⟩, -⟩
  exact ⟨_, called, later, failure, returned⟩

end Pareader.Host.HidShutdown
