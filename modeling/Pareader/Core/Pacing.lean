import Pareader.Core.Transducer

/-!
# Timers which are looked at

A timer with a period is looked at from time to time.  It fires when it is
looked at after it is due, and is then due one period after this instant, not
after the instant at which it was due.  Nothing is assumed about how often it is
looked at, nor that the clock moves forward.

The instants at which it fires are at least a period apart, which bounds their
number in every window of time.
-/

namespace Pareader.Core.Pacing

open Pareader.Core

variable {Time : Type} [AddCommGroup Time] [LinearOrder Time]

/-- A timer: the state is the instant at which it is due. -/
def timer (period : Time) : Transducer Time Time Time where
  step due now := if now < due then (due, []) else (now + period, [now])

theorem timer_step (period due now : Time) :
    (timer period).step due now =
      if now < due then (due, []) else (now + period, [now]) :=
  rfl

/-- Each instant is at least a period after the one before. -/
def Spaced (period : Time) (instants : List Time) : Prop :=
  instants.IsChain (fun earlier later => earlier + period ≤ later)

/-- The instants of a timer are spaced, from the instant where it is due. -/
theorem spaced_timer (period due : Time) (looks : List Time) :
    Spaced period ((timer period).run due looks).2 ∧
      ∀ first ∈ ((timer period).run due looks).2.head?, due ≤ first := by
  induction looks generalizing due with
  | nil => exact ⟨List.isChain_nil, by simp⟩
  | cons now rest induction =>
      rw [Transducer.run_cons, timer_step]
      by_cases early : now < due
      · rw [if_pos early, List.nil_append]
        exact induction due
      · rw [if_neg early]
        rcases induction (now + period) with ⟨spaced, later⟩
        refine ⟨?_, ?_⟩
        · exact List.isChain_cons.mpr ⟨later, spaced⟩
        · intro first same
          simp only [List.cons_append, List.head?_cons,
            Option.mem_some_iff] at same
          rw [← same]
          exact le_of_not_gt early

/-- A timer is due one period after it has fired last. -/
theorem due_timer (period due : Time) (looks : List Time) :
    ((timer period).run due looks).1 =
      (((timer period).run due looks).2.getLast?.map (· + period)).getD
        due := by
  induction looks generalizing due with
  | nil => rfl
  | cons now rest induction =>
      rw [Transducer.run_cons, timer_step]
      by_cases early : now < due
      · rw [if_pos early, List.nil_append]
        exact induction due
      · rw [if_neg early]
        refine (induction (now + period)).trans ?_
        rw [List.singleton_append, List.getLast?_cons]
        cases ((timer period).run (now + period) rest).2.getLast? <;> rfl

variable [IsOrderedAddMonoid Time]

theorem Spaced.later
    {period : Time} (forward : 0 ≤ period)
    {first : Time} {rest : List Time}
    (spaced : Spaced period (first :: rest)) :
    ∀ instant ∈ rest, first + period ≤ instant := by
  induction rest generalizing first with
  | nil => exact List.forall_mem_nil _
  | cons second others induction =>
      rcases List.isChain_cons_cons.mp spaced with ⟨apart, remaining⟩
      refine List.forall_mem_cons.mpr ⟨apart, ?_⟩
      intro instant member
      calc
        first + period ≤ second := apart
        _ ≤ second + period := le_add_of_nonneg_right forward
        _ ≤ instant := induction remaining instant member

/-- Spaced instants in a window of some periods are no more than these. -/
theorem Spaced.length_le
    {period : Time} (forward : 0 ≤ period) {instants : List Time}
    (spaced : Spaced period instants) (start : Time) (count : Nat)
    (within : ∀ instant ∈ instants,
      start ≤ instant ∧ instant < start + count • period) :
    instants.length ≤ count := by
  induction instants generalizing start count with
  | nil => exact Nat.zero_le count
  | cons first rest induction =>
      rcases List.forall_mem_cons.mp within with ⟨⟨after, before⟩, others⟩
      cases count with
      | zero =>
          rw [zero_nsmul, add_zero] at before
          exact absurd after (not_le_of_gt before)
      | succ count =>
          have later : ∀ instant ∈ rest, start + period ≤ instant := by
            intro instant member
            exact le_trans (add_le_add_left after period)
              (spaced.later forward instant member)
          have shorter := induction (List.isChain_cons.mp spaced).2
            (start + period) count (by
              intro instant member
              refine ⟨later instant member, ?_⟩
              have bound := (others instant member).2
              rwa [succ_nsmul', ← add_assoc] at bound)
          exact Nat.succ_le_succ shorter

end Pareader.Core.Pacing
