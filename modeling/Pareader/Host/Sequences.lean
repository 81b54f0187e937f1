import Pareader.Core.Search
import Pareader.Host.Correlation

/-!
# Free sequences

`Allocate` counts on from the last sequence, truncates the counter to 16 bits
and stops at the first value which is neither zero nor live.  The counter may
wrap in 16 or in 32 bits on the way; the candidates are in either case the
values behind the last sequence in cyclic order.  With at most 1024 live calls
one of the first 1026 candidates is free, long before the attempts are used up.

The lifetimes of cached calls may end while the loop runs.  That frees
sequences and blocks none, so the loop still finds one.
-/

namespace Pareader.Host.Sequences

open Pareader.Core
open Pareader.Core.Search
open Pareader.Host.Protocol
open Pareader.Host.Calls
open Pareader.Host.Correlation

/-! ## Cyclic order -/

/--
How many values come before a value in the cyclic order of 16 bits which starts
behind the counter.
-/
def rankAfter (next : UInt32) (value : UInt16) : Nat :=
  (value - next.toUInt16 - 1).toNat

/-- The sequence which the loop tries after this many others. -/
def candidate (next : UInt32) (attempt : Nat) : UInt16 :=
  (next + 1 + UInt32.ofNat attempt).toUInt16

theorem candidate_zero (next : UInt32) :
    candidate next 0 = (next + 1).toUInt16 := by
  show (next + 1 + 0).toUInt16 = _
  rw [UInt32.add_zero]

theorem candidate_succ (next : UInt32) (attempt : Nat) :
    candidate next (attempt + 1) = candidate (next + 1) attempt := by
  unfold candidate
  apply congrArg UInt32.toUInt16
  rw [UInt32.ofNat_add]
  grind

theorem candidate_eq (next : UInt32) (attempt : Nat) :
    candidate next attempt =
      next.toUInt16 + 1 + UInt16.ofNat attempt := by
  unfold candidate
  rw [UInt32.toUInt16_add, UInt32.toUInt16_add, UInt32.toUInt16_ofNat']
  rfl

/-- Every value is the candidate at its rank. -/
theorem candidate_rankAfter (next : UInt32) (value : UInt16) :
    candidate next (rankAfter next value) = value := by
  rw [candidate_eq, rankAfter, UInt16.ofNat_toNat]
  grind

/-- The candidates of one cycle stand in cyclic order. -/
theorem rankAfter_candidate
    (next : UInt32) {attempt : Nat} (within : attempt < 2 ^ 16) :
    rankAfter next (candidate next attempt) = attempt := by
  have distance :
      candidate next attempt - next.toUInt16 - 1 =
        UInt16.ofNat attempt := by
    rw [candidate_eq]
    grind
  rw [rankAfter, distance, UInt16.toNat_ofNat', Nat.mod_eq_of_lt within]

/-- No value is tried twice in one cycle. -/
theorem candidate_distinct (next : UInt32) :
    Set.InjOn (candidate next) (Set.Iio (2 ^ 16)) := by
  intro first inside second within same
  rw [← rankAfter_candidate next inside, same,
    rankAfter_candidate next within]

/-! ## Blocked sequences -/

/-- The sequence of a cached call. -/
def Live (caller : Caller) (sequence : UInt16) : Prop :=
  ∃ call, (sequence, call) ∈ caller.calls.entries

/--
The first value behind the counter, in the cyclic order of 16 bits, which is
neither zero nor live.
-/
structure FirstUsable (caller : Caller) (sequence : UInt16) : Prop where
  nonzero : sequence ≠ 0
  free : ¬ Live caller sequence
  first : ∀ other,
    rankAfter caller.next other < rankAfter caller.next sequence →
      other = 0 ∨ Live caller other

/-- Zero and the sequences of all cached calls. -/
def blocked (caller : Caller) : Finset UInt16 :=
  insert 0 (caller.calls.entries.map Prod.fst).toFinset

theorem mem_blocked_iff (caller : Caller) (sequence : UInt16) :
    sequence ∈ blocked caller ↔ Unusable caller sequence := by
  rw [blocked, Finset.mem_insert, List.mem_toFinset, List.mem_map,
    Unusable]
  apply or_congr_right
  constructor
  · rintro ⟨⟨_, call⟩, member, rfl⟩
    exact ⟨call, member⟩
  · rintro ⟨call, member⟩
    exact ⟨(sequence, call), member, rfl⟩

theorem card_blocked_le (caller : Caller) :
    (blocked caller).card ≤ callerCapacity + 1 := by
  have keys := List.toFinset_card_le (caller.calls.entries.map Prod.fst)
  rw [List.length_map] at keys
  calc
    (blocked caller).card ≤
        (caller.calls.entries.map Prod.fst).toFinset.card + 1 :=
      Finset.card_insert_le _ _
    _ ≤ callerCapacity + 1 :=
      Nat.succ_le_succ (Nat.le_trans keys caller.calls.bounded)

/-- One of the first 1026 candidates can be used. -/
theorem exists_firstFree_candidate (caller : Caller) :
    ∃ attempt, attempt ≤ callerCapacity + 1 ∧
      FirstFree (candidate caller.next) (Unusable caller) attempt := by
  have bound := card_blocked_le caller
  have small : (blocked caller).card < 2 ^ 16 :=
    Nat.lt_of_le_of_lt bound (by decide)
  rcases exists_firstFree (candidate_distinct caller.next)
      (blocked caller) small with
    ⟨attempt, early, first⟩
  simp only [mem_blocked_iff] at first
  exact ⟨attempt, Nat.le_trans early bound, first⟩

/-- The first usable candidate is the first usable value. -/
theorem firstUsable_of_firstFree
    {caller : Caller} {attempt : Nat} (within : attempt < 2 ^ 16)
    (first : FirstFree (candidate caller.next) (Unusable caller) attempt) :
    FirstUsable caller (candidate caller.next attempt) := by
  have free := first.free
  rw [Unusable, not_or] at free
  refine ⟨free.1, free.2, ?_⟩
  intro other less
  rw [rankAfter_candidate caller.next within] at less
  have passed := first.before _ less
  rw [candidate_rankAfter] at passed
  exact passed

/-! ## The loop -/

/-- Run lemma: the loop passes the unusable candidates one by one. -/
theorem runAllocate_search
    (attempt attempts fuel : Nat) (caller : Caller)
    (first : FirstFree (candidate caller.next) (Unusable caller) attempt)
    (left : attempts + attempt < 0xFFFF)
    (enough : 2 * attempt + 3 ≤ fuel) :
    ∃ number calls, calls.entries.Perm caller.calls.entries ∧
      number.toUInt16 = candidate caller.next attempt ∧
      runAllocate fuel caller (.trying attempts) =
        some
          (allocated caller number calls (candidate caller.next attempt),
            .ok (candidate caller.next attempt, caller.pending.length)) := by
  induction attempt generalizing attempts fuel caller with
  | zero =>
      rcases Nat.exists_eq_add_of_le' enough with ⟨fuel, rfl⟩
      have usable := first.free
      rw [candidate_zero] at usable ⊢
      exact ⟨caller.next + 1, caller.calls, List.Perm.refl _, rfl,
        runAllocate_accepted left fuel usable⟩
  | succ attempt induction =>
      have inside : attempts < 0xFFFF := by omega
      have room : 2 ≤ fuel := by omega
      rcases Nat.exists_eq_add_of_le' room with ⟨fuel, rfl⟩
      have unusable := first.before 0 (Nat.succ_pos attempt)
      rw [candidate_zero] at unusable
      rcases runAllocate_rejected inside fuel unusable with
        ⟨later, calls, enoughLater, same, rejected⟩
      let next : Caller :=
        { caller with next := caller.next + 1, calls := calls }
      have shifted :
          (fun place => candidate caller.next (place + 1)) =
            candidate next.next :=
        funext (candidate_succ caller.next)
      have kept : Unusable next = Unusable caller :=
        funext (fun sequence => propext (unusable_of_perm same sequence))
      have rest := first.tail
      rw [shifted, ← kept] at rest
      rcases induction (attempts + 1) later next rest (by omega)
          (by omega) with
        ⟨number, after, sameAfter, counter, ran⟩
      rw [candidate_succ]
      exact ⟨number, after, sameAfter.trans same, counter,
        rejected.trans ran⟩

/--
Alone, `Allocate` with a positive timeout never exhausts the sequences: whatever
the counter and the cache hold, it returns the first usable sequence, at which
the counter stops.
-/
theorem allocateCall_firstUsable
    (caller : Caller) {timeout : Int} (positive : 0 < timeout) :
    ∃ next sequence,
      allocateCall caller timeout =
          some (next, .ok (sequence, caller.pending.length)) ∧
        FirstUsable caller sequence ∧
        next.next.toUInt16 = sequence := by
  rcases exists_firstFree_candidate caller with ⟨attempt, early, first⟩
  have bound : attempt < 0xFFFF := Nat.lt_of_le_of_lt early (by decide)
  rcases
      runAllocate_search attempt 0 (2 * 0xFFFF + 1) caller first
        (by omega) (by omega) with
    ⟨number, calls, same, counter, ran⟩
  have returned :
      allocateCall caller timeout =
        some
          (allocated caller number calls (candidate caller.next attempt),
            .ok (candidate caller.next attempt,
              caller.pending.length)) := by
    rw [allocateCall, allocate, if_neg (by omega)]
    exact ran
  exact ⟨_, _, returned, firstUsable_of_firstFree (by omega) first, counter⟩

/-- There is one first usable sequence. -/
theorem FirstUsable.unique
    {caller : Caller} {left right : UInt16}
    (leftFirst : FirstUsable caller left)
    (rightFirst : FirstUsable caller right) :
    left = right := by
  have usable : ∀ {sequence}, FirstUsable caller sequence →
      ¬ (sequence = 0 ∨ Live caller sequence) := by
    rintro sequence first (zero | live)
    · exact first.nonzero zero
    · exact first.free live
  have same : rankAfter caller.next left = rankAfter caller.next right := by
    apply Nat.le_antisymm
    · apply Nat.not_lt.mp
      exact fun less => usable rightFirst (leftFirst.first right less)
    · apply Nat.not_lt.mp
      exact fun less => usable leftFirst (rightFirst.first left less)
  rw [← candidate_rankAfter caller.next left, same, candidate_rankAfter]

/-- A counter before its wrap in 32 bits, with the two values around zero. -/
def wrappingCaller : Caller where
  next := 0xFFFFFFFE
  calls := ⟨[(0xFFFF, 0), (1, 1)], by decide, by decide⟩
  pending := [⟨0xFFFF, [], false⟩, ⟨1, [], false⟩]

theorem allocateCall_wrapping :
    ∃ next, allocateCall wrappingCaller 1 = some (next, .ok (2, 2)) := by
  have first :
      FirstFree (candidate wrappingCaller.next) (Unusable wrappingCaller)
        3 := by
    constructor
    · rw [← mem_blocked_iff]
      decide
    · intro earlier less
      rw [← mem_blocked_iff]
      revert earlier
      decide
  have two : FirstUsable wrappingCaller 2 :=
    firstUsable_of_firstFree (by decide) first
  rcases allocateCall_firstUsable wrappingCaller Int.one_pos with
    ⟨next, sequence, returned, usable, -⟩
  rw [usable.unique two] at returned
  exact ⟨next, returned⟩

/-! ## Lifetimes which end during the loop -/

/-- An operation of the loop, or the end of the lifetime of a cached call. -/
inductive SearchAction where
  | operate
  | expire (sequence : UInt16)

def searchStep (state : Caller × Allocating) :
    SearchAction → Option (Caller × Allocating)
  | .operate => state.1.allocateStep state.2
  | .expire sequence => some (state.1.expire sequence, state.2)

/-- One `Allocate`, while lifetimes end. -/
def searchMachine (caller : Caller) (timeout : Int) :
    Machine (Caller × Allocating) SearchAction where
  start := (caller, allocate timeout)
  step := searchStep

/-- The candidates of the attempts so far were unusable at the start. -/
def Passed (caller : Caller) (attempts : Nat) : Prop :=
  ∀ attempt, attempt < attempts →
    Unusable caller (candidate caller.next attempt)

/-- A sequence whose predecessors were unusable at the start. -/
def Chosen (caller : Caller) (sequence : UInt16) : Prop :=
  sequence ≠ 0 ∧
    ∃ attempts, sequence = candidate caller.next attempts ∧
      Passed caller attempts

/-- How far the loop has come, seen from the caller at its start. -/
def Searching (caller : Caller) (next : UInt32) : Allocating → Prop
  | .trying attempts =>
      next = caller.next + UInt32.ofNat attempts ∧ Passed caller attempts
  | .probing attempts sequence =>
      next = caller.next + UInt32.ofNat (attempts + 1) ∧
        sequence = candidate caller.next attempts ∧ sequence ≠ 0 ∧
        Passed caller attempts
  | .adding sequence => Chosen caller sequence
  | .failed failure => failure = .invalidTimeout
  | .allocated sequence _ => Chosen caller sequence

/-- Until a call is created, the cache only loses entries. -/
structure Advances (caller : Caller) (state : Caller × Allocating) :
    Prop where
  searching : Searching caller state.1.next state.2
  subset : (∀ sequence call, state.2 ≠ .allocated sequence call) →
    ∀ entry ∈ state.1.calls.entries, entry ∈ caller.calls.entries

/-- The loop passes no more candidates than can be blocked. -/
theorem passed_le
    {caller : Caller} {attempts : Nat} (passed : Passed caller attempts) :
    attempts ≤ callerCapacity + 1 := by
  have bound := card_blocked_le caller
  have small : (blocked caller).card < 2 ^ 16 :=
    Nat.lt_of_le_of_lt bound (by decide)
  have held : ∀ place, place < attempts →
      candidate caller.next place ∈ blocked caller :=
    fun place less => (mem_blocked_iff caller _).mpr (passed place less)
  exact Nat.le_trans
    (le_card_of_held (candidate_distinct caller.next) small held) bound

theorem Passed.succ
    {caller : Caller} {attempts : Nat} (passed : Passed caller attempts)
    (unusable : Unusable caller (candidate caller.next attempts)) :
    Passed caller (attempts + 1) := by
  intro attempt less
  rcases Nat.lt_succ_iff_lt_or_eq.mp less with earlier | rfl
  · exact passed attempt earlier
  · exact unusable

/-- The counter and the candidate of the next attempt. -/
theorem counter_succ
    {caller : Caller} {next : UInt32} {attempts : Nat}
    (counter : next = caller.next + UInt32.ofNat attempts) :
    next + 1 = caller.next + UInt32.ofNat (attempts + 1) ∧
      (next + 1).toUInt16 = candidate caller.next attempts := by
  have advanced :
      next + 1 = caller.next + UInt32.ofNat (attempts + 1) := by
    rw [counter, UInt32.ofNat_add]
    grind
  refine ⟨advanced, ?_⟩
  rw [candidate, counter]
  apply congrArg UInt32.toUInt16
  grind

/-- Step lemma of the loop. -/
theorem advances_of_allocateStep
    {caller current next : Caller} {state after : Allocating}
    (advances : Advances caller (current, state))
    (taken : current.allocateStep state = some (next, after)) :
    Advances caller (next, after) := by
  rcases advances with ⟨searching, subset⟩
  cases state with
  | trying attempts =>
      rcases searching with ⟨counter, passed⟩
      have early : attempts < 0xFFFF :=
        Nat.lt_of_le_of_lt (passed_le passed) (by decide)
      rcases counter_succ counter with ⟨advanced, tried⟩
      rw [allocateStep_trying early] at taken
      cases taken
      refine ⟨?_, fun _ => subset (by simp)⟩
      dsimp only
      by_cases zero : (current.next + 1).toUInt16 = 0
      · rw [if_pos zero]
        refine ⟨advanced, passed.succ (Or.inl ?_)⟩
        rw [← tried]
        exact zero
      · rw [if_neg zero]
        exact ⟨advanced, tried, zero, passed⟩
  | probing attempts sequence =>
      rcases searching with ⟨counter, tried, nonzero, passed⟩
      have before := subset (by simp)
      cases taken
      refine ⟨?_, fun _ entry member =>
        before entry (Lru.mem_get_entries member)⟩
      show Searching caller current.next
        (if (current.calls.get sequence).1.isSome then
          .trying (attempts + 1)
        else
          .adding sequence)
      split
      · rename_i present
        rcases Option.isSome_iff_exists.mp present with ⟨call, found⟩
        refine ⟨counter, passed.succ (Or.inr ⟨call, ?_⟩)⟩
        rw [← tried]
        exact before _ (Lru.mem_of_get found)
      · exact ⟨nonzero, attempts, tried, passed⟩
  | adding sequence =>
      cases taken
      exact ⟨searching, fun running => (running _ _ rfl).elim⟩
  | failed failure => cases taken
  | allocated sequence call => cases taken

theorem advances_of_reachable
    {caller : Caller} {timeout : Int} {state : Caller × Allocating}
    (reached : (searchMachine caller timeout).Reachable state) :
    Advances caller state := by
  refine reached.invariant ?_ ?_
  · refine ⟨?_, fun _ _ member => member⟩
    show Searching caller caller.next (allocate timeout)
    unfold allocate
    split
    · rfl
    · refine ⟨(UInt32.add_zero caller.next).symm, ?_⟩
      intro attempt less
      exact (Nat.not_lt_zero attempt less).elim
  · intro current action next _ advances taken
    cases action with
    | operate => exact advances_of_allocateStep advances taken
    | expire sequence =>
        cases taken
        refine ⟨advances.searching, ?_⟩
        intro running entry member
        exact advances.subset running entry
          (Lru.mem_remove_entries member)

/--
Also when lifetimes end during the loop, the sequences are not exhausted, and
what comes before the returned sequence was zero or live when the loop started.
-/
theorem search_while_expiring
    {caller : Caller} {timeout : Int} {state : Caller × Allocating}
    (reached : (searchMachine caller timeout).Reachable state) :
    state.2 ≠ .failed .sequenceExhausted ∧
      ∀ sequence call, state.2 = .allocated sequence call →
        sequence ≠ 0 ∧
          ∀ other,
            rankAfter caller.next other < rankAfter caller.next sequence →
              other = 0 ∨ Live caller other := by
  have searching := (advances_of_reachable reached).searching
  constructor
  · intro exhausted
    rw [exhausted] at searching
    cases searching
  · intro sequence call returned
    rw [returned] at searching
    rcases searching with ⟨nonzero, attempts, rfl, passed⟩
    have within : attempts < 2 ^ 16 :=
      Nat.lt_of_le_of_lt (passed_le passed) (by decide)
    refine ⟨nonzero, ?_⟩
    intro other less
    rw [rankAfter_candidate caller.next within] at less
    have unusable := passed _ less
    rw [candidate_rankAfter] at unusable
    exact unusable

end Pareader.Host.Sequences
