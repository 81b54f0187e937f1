import Pareader.Core.Pacing
import Pareader.Firmware.Independence

/-!
# The pace of the scans

The main loop looks at a timer in every iteration and scans when it is due.  So
scans are at least the scan interval apart, whatever the clock does between the
iterations and however many messages arrive, and the number of card states in a
window of time is bounded on both HID interfaces.
-/

namespace Pareader.Firmware.ScanPacing

open Pareader.Core
open Pareader.Core.Pacing
open Pareader.Firmware.Hid
open Pareader.Firmware.AppMain
open Pareader.Firmware.Independence

/-- The timer of the main loop. -/
def scanTimer : Transducer Int Int Int :=
  timer cardScanIntervalUs

/-- The instants of the scans are those at which the timer fires. -/
theorem scanInstantsFrom_eq (nextScan : Int) (iterations : List Iteration) :
    scanInstantsFrom nextScan iterations =
      (scanTimer.run nextScan (iterations.map Iteration.now)).2 := by
  induction iterations generalizing nextScan with
  | nil => rfl
  | cons iteration rest induction =>
      rw [scanInstantsFrom, List.map_cons, Transducer.run_cons]
      change _ = ((timer cardScanIntervalUs).step nextScan iteration.now).2 ++
        (scanTimer.run
          ((timer cardScanIntervalUs).step nextScan iteration.now).1 _).2
      rw [timer_step]
      split
      · exact induction nextScan
      · exact congrArg (iteration.now :: ·) (induction _)

/-- An iteration keeps the timer. -/
theorem iterate_nextScan (app : App) (iteration : Iteration) :
    (iterate app iteration).1.nextScan =
      (scanTimer.step app.nextScan iteration.now).1 := by
  rcases serviceMessage_frame app iteration with ⟨-, clock⟩
  change _ = ((timer cardScanIntervalUs).step _ _).1
  rw [timer_step]
  unfold iterate
  dsimp only
  rw [clock]
  split
  · exact clock
  · exact (scan_frame _ iteration).2.2

/-- What an iteration shows on an interface needs a scan. -/
theorem iterate_visible {Visible : Type} (interface : Interface Visible)
    (unconditional : ∀ iteration, interface.admissible iteration)
    (app : App) (iteration : Iteration) :
    ((iterate app iteration).2.filterMap interface.visible).length ≤
      (scanTimer.step app.nextScan iteration.now).2.length := by
  rcases iterate_effect app iteration with ⟨-, replies, hidden, sent⟩
  have silent : replies.filterMap interface.visible = [] := by
    rw [List.filterMap_eq_nil_iff]
    intro output replied
    exact interface.replies_hidden output (hidden output replied)
  rw [sent, List.filterMap_append, silent, List.nil_append]
  change _ ≤ ((timer cardScanIntervalUs).step _ _).2.length
  rw [timer_step]
  split
  · rename_i early
    have nothing : transition app iteration = none := by
      rw [transition, observation, if_pos early]
      rfl
    rw [nothing]
    exact Nat.le_refl 0
  · cases transition app iteration with
    | none => exact Nat.zero_le _
    | some card =>
        have shown := interface.publish_visible card iteration
          (unconditional iteration)
        change ((publish card iteration).filterMap
          interface.visible).length ≤ 1
        rw [shown]
        exact Nat.le_refl 1

/-- Run lemma: no more is shown than scans were made. -/
theorem run_visible {Visible : Type} (interface : Interface Visible)
    (unconditional : ∀ iteration, interface.admissible iteration)
    (app : App) (iterations : List Iteration) :
    ((appMain.run app iterations).2.filterMap interface.visible).length ≤
      (scanInstantsFrom app.nextScan iterations).length := by
  rw [scanInstantsFrom_eq]
  induction iterations generalizing app with
  | nil => exact Nat.le_refl 0
  | cons iteration rest induction =>
      have first := iterate_visible interface unconditional app iteration
      have others := induction (iterate app iteration).1
      rw [iterate_nextScan] at others
      rw [Transducer.run_cons, List.filterMap_append, List.length_append,
        List.map_cons, Transducer.run_cons, List.length_append]
      exact Nat.add_le_add first others

theorem stateAfter_nextScan (app : App) (iterations : List Iteration) :
    (appMain.run app iterations).1.nextScan =
      (scanTimer.run app.nextScan (iterations.map Iteration.now)).1 := by
  induction iterations generalizing app with
  | nil => rfl
  | cons iteration rest induction =>
      rw [Transducer.run_cons, List.map_cons, Transducer.run_cons,
        ← iterate_nextScan]
      exact induction (iterate app iteration).1

/-- Scan instants are instants of iterations. -/
theorem mem_scanInstantsFrom {nextScan : Int}
    {iterations : List Iteration} {instant : Int}
    (member : instant ∈ scanInstantsFrom nextScan iterations) :
    ∃ iteration ∈ iterations, iteration.now = instant := by
  induction iterations generalizing nextScan with
  | nil => cases member
  | cons iteration rest induction =>
      rw [scanInstantsFrom] at member
      split at member
      · rcases induction member with ⟨other, inside, same⟩
        exact ⟨other, List.mem_cons_of_mem _ inside, same⟩
      · rcases List.mem_cons.mp member with here | later
        · exact ⟨iteration, List.mem_cons_self, here.symm⟩
        · rcases induction later with ⟨other, inside, same⟩
          exact ⟨other, List.mem_cons_of_mem _ inside, same⟩

/-- A window of some intervals shows at most as many card states. -/
theorem visible_in_window {Visible : Type} (interface : Interface Visible)
    (unconditional : ∀ iteration, interface.admissible iteration)
    (app : App) (window : List Iteration) (start : Int) (count : Nat)
    (within : ∀ iteration ∈ window,
      start ≤ iteration.now ∧
        iteration.now < start + count * cardScanIntervalUs) :
    ((appMain.run app window).2.filterMap interface.visible).length ≤
      count := by
  have spaced :
      Spaced cardScanIntervalUs
        (scanInstantsFrom app.nextScan window) := by
    rw [scanInstantsFrom_eq]
    exact (spaced_timer _ _ _).1
  refine Nat.le_trans (run_visible interface unconditional app window) ?_
  apply spaced.length_le (by decide) start count
  intro instant member
  rcases mem_scanInstantsFrom member with ⟨iteration, inside, rfl⟩
  rw [nsmul_eq_mul]
  exact within iteration inside

/--
In every run of the loop, whatever the clock shows and whichever messages
arrive: two scans are at least 200 ms apart; the next one is due 200 ms after
the last; and the iterations of any window of `count` intervals hand at most
`count` card states to each HID endpoint.
-/
theorem scans_paced (iterations : List Iteration) :
    (scanInstants iterations).IsChain
      (fun earlier later => earlier + 200000 ≤ later) ∧
    (stateAfter iterations).nextScan =
      ((scanInstants iterations).getLast?.map (· + 200000)).getD 0 ∧
    ∀ before window after, iterations = before ++ window ++ after →
      ∀ (start : Int) (count : Nat),
        (∀ iteration ∈ window,
          start ≤ iteration.now ∧
            iteration.now < start + count * 200000) →
        ((appMain.run (stateAfter before) window).2.filterMap
            Output.cardState).length ≤ count ∧
          ((appMain.run (stateAfter before) window).2.filterMap
            Output.cardioReport).length ≤ count := by
  have fires := scanInstantsFrom_eq appStart.nextScan iterations
  refine ⟨?_, ?_, ?_⟩
  · rw [scanInstants, fires]
    exact (spaced_timer _ _ _).1
  · rw [scanInstants, fires, stateAfter, stateAfter_nextScan]
    exact due_timer _ _ _
  · intro before window after _ start count within
    exact ⟨visible_in_window prhpStates (fun _ => trivial) _ window start
        count within,
      visible_in_window cardioReports (fun _ => trivial) _ window start
        count within⟩

end Pareader.Firmware.ScanPacing
