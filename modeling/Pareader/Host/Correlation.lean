import Pareader.Core.Machine
import Pareader.Host.Calls

/-!
# Calls made one after another

When the calls of a `Caller` do not overlap, each of them runs its operations
to the end before the next one starts.  A history of such calls keeps a record
of the live calls, those which were allocated and not yet consumed, and the
record says what the caller ought to do: sequences of live calls are distinct,
and a report is delivered exactly when its sequence is live.

The cache which holds the live calls is bounded, and it makes room for a new
entry by dropping an old one.  The record and the cache therefore agree in
every history which allocates only while there is room, and they part at the
first allocation without room.
-/

namespace Pareader.Host.Correlation

open Pareader.Core
open Pareader.Host.Protocol
open Pareader.Host.Calls

/-! ## Calls which run alone -/

/-- Run `Allocate` to its end, at most `fuel` operations. -/
def runAllocate : Nat → Caller → Allocating →
    Option (Caller × Except ErrCode (UInt16 × Nat))
  | _, caller, .failed failure => some (caller, .error failure)
  | _, caller, .allocated sequence call =>
      some (caller, .ok (sequence, call))
  | 0, _, _ => none
  | fuel + 1, caller, state =>
      (caller.allocateStep state).bind
        (fun (next, after) => runAllocate fuel next after)

/-- `Allocate`; every attempt makes at most two operations before the last. -/
def allocateCall (caller : Caller) (timeout : Int) :
    Option (Caller × Except ErrCode (UInt16 × Nat)) :=
  runAllocate (2 * 0xFFFF + 1) caller (allocate timeout)

/-- Run `Consume` to its end, at most `fuel` operations. -/
def runConsume : Nat → Caller → Consuming →
    Option (Caller × Except ErrCode Unit)
  | _, caller, .returned outcome => some (caller, outcome)
  | 0, _, _ => none
  | fuel + 1, caller, state =>
      (caller.consumeStep state).bind
        (fun (next, after) => runConsume fuel next after)

/-- `Consume` -/
def consumeCall (caller : Caller) (sequence : UInt16) (raw : List Byte) :
    Option (Caller × Except ErrCode Unit) :=
  runConsume 4 caller (.finding sequence raw)

/-- What the channel of a call holds. -/
def channel (caller : Caller) (call : Nat) : Option (List (List Byte)) :=
  caller.pending[call]?.map PendingCall.response

/-! ## What a call returns -/

/-- The caller after an allocation. -/
def allocated
    (caller : Caller) (number : UInt32)
    (calls : Lru UInt16 Nat callerCapacity) (sequence : UInt16) : Caller where
  next := number
  calls := calls.add sequence caller.pending.length
  pending := caller.pending ++ [⟨sequence, [], false⟩]

/-- What `Allocate` can return, and what it leaves behind. -/
inductive AllocateResult (caller : Caller) :
    Caller × Except ErrCode (UInt16 × Nat) → Prop where
  | fails (number : UInt32) (calls : Lru UInt16 Nat callerCapacity)
      (failure : ErrCode)
      (same : calls.entries.Perm caller.calls.entries) :
      AllocateResult caller
        ({ caller with next := number, calls := calls }, .error failure)
  | succeeds (number : UInt32) (calls : Lru UInt16 Nat callerCapacity)
      (sequence : UInt16)
      (same : calls.entries.Perm caller.calls.entries)
      (nonzero : sequence ≠ 0)
      (fresh : ∀ call, (sequence, call) ∉ calls.entries) :
      AllocateResult caller
        (allocated caller number calls sequence,
          .ok (sequence, caller.pending.length))

/-- What `Allocate` returns does not depend on the order of the cache. -/
theorem AllocateResult.of_perm
    {caller : Caller} {result : Caller × Except ErrCode (UInt16 × Nat)}
    (number : UInt32) (calls : Lru UInt16 Nat callerCapacity)
    (same : calls.entries.Perm caller.calls.entries)
    (returned :
      AllocateResult { caller with next := number, calls := calls }
        result) :
    AllocateResult caller result := by
  cases returned with
  | fails later rearranged failure kept =>
      exact .fails later rearranged failure (kept.trans same)
  | succeeds later rearranged sequence kept nonzero fresh =>
      exact .succeeds later rearranged sequence (kept.trans same) nonzero
        fresh

theorem runAllocate_step
    {caller next : Caller} {state after : Allocating} (fuel : Nat)
    (taken : caller.allocateStep state = some (next, after)) :
    runAllocate (fuel + 1) caller state = runAllocate fuel next after := by
  cases state with
  | trying attempts => simp only [runAllocate, taken, Option.bind_some]
  | probing attempts sequence =>
      simp only [runAllocate, taken, Option.bind_some]
  | adding sequence => simp only [runAllocate, taken, Option.bind_some]
  | failed failure => cases taken
  | allocated sequence call => cases taken

@[simp]
theorem runAllocate_failed
    (fuel : Nat) (caller : Caller) (failure : ErrCode) :
    runAllocate fuel caller (.failed failure) =
      some (caller, .error failure) := by
  cases fuel <;> rfl

@[simp]
theorem runAllocate_allocated
    (fuel : Nat) (caller : Caller) (sequence : UInt16) (call : Nat) :
    runAllocate fuel caller (.allocated sequence call) =
      some (caller, .ok (sequence, call)) := by
  cases fuel <;> rfl

/-- A probe which misses its sequence adds a call. -/
theorem runAllocate_probing_absent
    (fuel attempts : Nat) {caller : Caller} {sequence : UInt16}
    (absent : ∀ call, (sequence, call) ∉ caller.calls.entries) :
    runAllocate (fuel + 2) caller (.probing attempts sequence) =
      some (allocated caller caller.next caller.calls sequence,
        .ok (sequence, caller.pending.length)) := by
  have probed :
      caller.allocateStep (.probing attempts sequence) =
        some (caller, .adding sequence) := by
    simp [Caller.allocateStep, Lru.get_of_absent absent]
  rw [runAllocate_step _ probed, runAllocate_step _ rfl,
    runAllocate_allocated]
  rfl

/-- A probe which finds its sequence in use goes on to the next one. -/
theorem allocateStep_probing_present
    (attempts : Nat) {caller : Caller} {sequence : UInt16} {call : Nat}
    (member : (sequence, call) ∈ caller.calls.entries) :
    caller.allocateStep (.probing attempts sequence) =
      some ({ caller with calls := (caller.calls.get sequence).2 },
        .trying (attempts + 1)) := by
  simp [Caller.allocateStep, Lru.get_of_mem member]

/-- A sequence which an attempt of `Allocate` rejects. -/
def Unusable (caller : Caller) (sequence : UInt16) : Prop :=
  sequence = 0 ∨ ∃ call, (sequence, call) ∈ caller.calls.entries

/-- Which sequences are rejected does not depend on the order of the cache. -/
theorem unusable_of_perm
    {caller next : Caller}
    (same : next.calls.entries.Perm caller.calls.entries)
    (sequence : UInt16) :
    Unusable next sequence ↔ Unusable caller sequence := by
  unfold Unusable
  simp only [same.mem_iff]

theorem allocateStep_trying
    {attempts : Nat} (left : attempts < 0xFFFF) (caller : Caller) :
    caller.allocateStep (.trying attempts) =
      some ({ caller with next := caller.next + 1 },
        if (caller.next + 1).toUInt16 = 0 then
          .trying (attempts + 1)
        else
          .probing attempts (caller.next + 1).toUInt16) :=
  if_pos left

/-- An attempt at a usable sequence is the last one. -/
theorem runAllocate_accepted
    {attempts : Nat} (left : attempts < 0xFFFF) (fuel : Nat)
    {caller : Caller}
    (usable : ¬ Unusable caller (caller.next + 1).toUInt16) :
    runAllocate (fuel + 3) caller (.trying attempts) =
      some
        (allocated caller (caller.next + 1) caller.calls
            (caller.next + 1).toUInt16,
          .ok ((caller.next + 1).toUInt16, caller.pending.length)) := by
  rw [Unusable, not_or, not_exists] at usable
  rw [runAllocate_step _ (allocateStep_trying left caller),
    if_neg usable.1]
  exact @runAllocate_probing_absent fuel attempts
    { caller with next := caller.next + 1 } _ usable.2

/-- An attempt at another one is followed by the next attempt. -/
theorem runAllocate_rejected
    {attempts : Nat} (left : attempts < 0xFFFF) (fuel : Nat)
    {caller : Caller}
    (unusable : Unusable caller (caller.next + 1).toUInt16) :
    ∃ later calls, fuel ≤ later ∧
      calls.entries.Perm caller.calls.entries ∧
      runAllocate (fuel + 2) caller (.trying attempts) =
        runAllocate later
          { caller with next := caller.next + 1, calls := calls }
          (.trying (attempts + 1)) := by
  rw [runAllocate_step _ (allocateStep_trying left caller)]
  by_cases zero : (caller.next + 1).toUInt16 = 0
  · rw [if_pos zero]
    exact ⟨fuel + 1, caller.calls, Nat.le_succ fuel, List.Perm.refl _, rfl⟩
  · rw [if_neg zero]
    rcases unusable with impossible | ⟨call, member⟩
    · exact (zero impossible).elim
    · have probed :=
        @allocateStep_probing_present attempts
          { caller with next := caller.next + 1 } _ call member
      rw [runAllocate_step _ probed]
      exact ⟨fuel, _, Nat.le_refl fuel, Lru.get_entries_perm _ _, rfl⟩

/-- The loop of `Allocate` ends within its attempts. -/
theorem runAllocate_trying
    (remaining attempts fuel : Nat) (caller : Caller)
    (left : attempts + remaining = 0xFFFF)
    (enough : 2 * remaining + 1 ≤ fuel) :
    ∃ result, runAllocate fuel caller (.trying attempts) = some result ∧
      AllocateResult caller result := by
  induction remaining generalizing attempts fuel caller with
  | zero =>
      rcases Nat.exists_eq_add_of_le' enough with ⟨fuel, rfl⟩
      have exhausted :
          caller.allocateStep (.trying attempts) =
            some (caller, .failed .sequenceExhausted) := by
        rw [Caller.allocateStep, if_neg (by omega)]
      change ∃ result, runAllocate (fuel + 1) caller _ = _ ∧ _
      rw [runAllocate_step _ exhausted, runAllocate_failed]
      exact ⟨_, rfl, .fails caller.next caller.calls
        .sequenceExhausted (List.Perm.refl _)⟩
  | succ remaining induction =>
      have inside : attempts < 0xFFFF := by omega
      have room : 3 ≤ fuel := by omega
      rcases Nat.exists_eq_add_of_le' room with ⟨fuel, rfl⟩
      by_cases unusable : Unusable caller (caller.next + 1).toUInt16
      · -- a rejected candidate is one attempt less with the same entries
        rcases runAllocate_rejected inside (fuel + 1) unusable with
          ⟨later, calls, enoughLater, same, rejected⟩
        rcases induction (attempts + 1) later
            { caller with next := caller.next + 1, calls := calls }
            (by omega) (by omega) with
          ⟨result, ran, returned⟩
        exact ⟨result, rejected.trans ran, returned.of_perm _ calls same⟩
      · have accepted := runAllocate_accepted inside fuel unusable
        rw [Unusable, not_or, not_exists] at unusable
        exact ⟨_, accepted, .succeeds (caller.next + 1) caller.calls _
          (List.Perm.refl _) unusable.1 unusable.2⟩

/-- `Allocate` takes the next sequence if it is free. -/
theorem allocateCall_next
    {caller : Caller} {timeout : Int} (positive : 0 < timeout)
    (nonzero : (caller.next + 1).toUInt16 ≠ 0)
    (absent : ∀ call,
      ((caller.next + 1).toUInt16, call) ∉ caller.calls.entries) :
    allocateCall caller timeout =
      some
        (allocated caller (caller.next + 1) caller.calls
            (caller.next + 1).toUInt16,
          .ok ((caller.next + 1).toUInt16, caller.pending.length)) := by
  have usable : ¬ Unusable caller (caller.next + 1).toUInt16 := by
    rw [Unusable, not_or, not_exists]
    exact ⟨nonzero, absent⟩
  rw [allocateCall, allocate, if_neg (by omega)]
  change runAllocate (131068 + 3) caller (.trying 0) = _
  exact runAllocate_accepted (by decide) _ usable

/-- `Allocate` returns, and only in the ways described. -/
theorem allocateCall_result (caller : Caller) (timeout : Int) :
    ∃ result, allocateCall caller timeout = some result ∧
      AllocateResult caller result := by
  unfold allocateCall allocate
  split
  · rw [runAllocate_failed]
    exact ⟨_, rfl, .fails caller.next caller.calls .invalidTimeout
      (List.Perm.refl _)⟩
  · exact runAllocate_trying 0xFFFF 0 _ caller (by omega) (by omega)

theorem runConsume_step
    {caller next : Caller} {state after : Consuming} (fuel : Nat)
    (taken : caller.consumeStep state = some (next, after)) :
    runConsume (fuel + 1) caller state = runConsume fuel next after := by
  cases state with
  | finding sequence raw => simp only [runConsume, taken, Option.bind_some]
  | claiming sequence call raw =>
      simp only [runConsume, taken, Option.bind_some]
  | removing sequence call raw =>
      simp only [runConsume, taken, Option.bind_some]
  | sending call raw => simp only [runConsume, taken, Option.bind_some]
  | returned outcome => cases taken

/-- `Consume` has returned, or it makes one more operation. -/
theorem runConsume_cases
    {fuel : Nat} {caller : Caller} {state : Consuming}
    {result : Caller × Except ErrCode Unit}
    (ran : runConsume fuel caller state = some result) :
    (state = .returned result.2 ∧ result.1 = caller) ∨
      ∃ less next after, fuel = less + 1 ∧
        caller.consumeStep state = some (next, after) ∧
        runConsume less next after = some result := by
  by_cases finished : ∃ outcome, state = .returned outcome
  · rcases finished with ⟨outcome, rfl⟩
    cases fuel with
    | zero =>
        cases ran
        exact Or.inl ⟨rfl, rfl⟩
    | succ fuel =>
        cases ran
        exact Or.inl ⟨rfl, rfl⟩
  · cases fuel with
    | zero =>
        cases state with
        | returned outcome => exact (finished ⟨outcome, rfl⟩).elim
        | finding sequence raw => cases ran
        | claiming sequence call raw => cases ran
        | removing sequence call raw => cases ran
        | sending call raw => cases ran
    | succ fuel =>
        rw [runConsume] at ran
        · rcases Option.bind_eq_some_iff.mp ran with
            ⟨⟨next, after⟩, taken, continued⟩
          exact Or.inr ⟨fuel, next, after, rfl, taken, continued⟩
        · intro outcome same
          exact finished ⟨outcome, same⟩

/-- `Consume` for a sequence which is not cached changes nothing. -/
theorem consumeCall_absent
    {caller : Caller} {sequence : UInt16} (raw : List Byte)
    (absent : ∀ call, (sequence, call) ∉ caller.calls.entries) :
    consumeCall caller sequence raw =
      some (caller, .error .unknownSequence) := by
  have missed :
      caller.consumeStep (.finding sequence raw) =
        some (caller, .returned (.error .unknownSequence)) := by
    simp [Caller.consumeStep, Lru.get_of_absent absent]
  rw [consumeCall, runConsume_step _ missed]
  rfl

/-- What the delivery of a report leaves behind. -/
structure Delivered
    (caller : Caller) (sequence : UInt16) (call : Nat) (raw : List Byte)
    (next : Caller) : Prop where
  entries : ∀ entry, entry ∈ next.calls.entries ↔
    entry ∈ caller.calls.entries ∧ entry.1 ≠ sequence
  target : channel next call = some [raw]
  others : ∀ other, other ≠ call →
    next.pending[other]? = caller.pending[other]?
  length : next.pending.length = caller.pending.length

/-- `Consume` for a cached and unconsumed call delivers its report. -/
theorem consumeCall_present
    {caller : Caller} {sequence : UInt16} {call : Nat}
    {pending : PendingCall} (raw : List Byte)
    (member : (sequence, call) ∈ caller.calls.entries)
    (located : caller.pending[call]? = some pending)
    (unconsumed : pending.consumed = false)
    (empty : pending.response = []) :
    ∃ next, consumeCall caller sequence raw = some (next, .ok ()) ∧
      Delivered caller sequence call raw next := by
  let found := { caller with calls := (caller.calls.get sequence).2 }
  let claimed :=
    found.modify call (fun pending => { pending with consumed := true })
  let removed := { claimed with calls := found.calls.remove sequence }
  let sent :=
    removed.modify call (fun pending => { pending with response := [raw] })
  have finds :
      caller.consumeStep (.finding sequence raw) =
        some (found, .claiming sequence call raw) := by
    simp [Caller.consumeStep, Lru.get_of_mem member, found]
  have claims :
      found.consumeStep (.claiming sequence call raw) =
        some (claimed, .removing sequence call raw) := by
    have unclaimed : found.pending[call]? = some pending := located
    simp [Caller.consumeStep, unclaimed, unconsumed, claimed]
  have removes :
      claimed.consumeStep (.removing sequence call raw) =
        some (removed, .sending call raw) :=
    rfl
  have sends :
      removed.consumeStep (.sending call raw) =
        some (sent, .returned (.ok ())) := by
    have ready :
        removed.pending[call]? =
          some { pending with consumed := true } := by
      simp [removed, claimed, found, Caller.modify, located]
    simp [Caller.consumeStep, ready, empty, sent]
  refine ⟨sent, ?_, ?_, ?_, ?_, ?_⟩
  · rw [consumeCall, runConsume_step _ finds, runConsume_step _ claims,
      runConsume_step _ removes, runConsume_step _ sends]
    rfl
  · intro entry
    change entry ∈ found.calls.without sequence ↔ _
    rw [Lru.without, List.mem_filter, decide_eq_true_iff,
      (Lru.get_entries_perm caller.calls sequence).mem_iff]
  · simp [sent, removed, claimed, found, channel, Caller.modify, located]
  · intro other different
    simp [sent, removed, claimed, found, Caller.modify, different.symm]
  · simp [sent, removed, claimed, found, Caller.modify]

/-! ## Histories of calls -/

/--
A caller together with the record of its live calls: the sequence and the
channel of every call which was allocated and not yet consumed.
-/
structure Ledger where
  caller : Caller
  live : List (UInt16 × Nat)

inductive CallAction where
  | allocate (timeout : Int)
  | consume (sequence : UInt16) (raw : List Byte)

/-- The record after an allocation. -/
def recordAllocation (live : List (UInt16 × Nat)) :
    Except ErrCode (UInt16 × Nat) → List (UInt16 × Nat)
  | .ok entry => entry :: live
  | .error _ => live

/-- The record after a report was consumed. -/
def recordConsumption (live : List (UInt16 × Nat)) (sequence : UInt16) :
    Except ErrCode Unit → List (UInt16 × Nat)
  | .ok () => live.filter (fun entry => entry.1 ≠ sequence)
  | .error _ => live

def Ledger.step (state : Ledger) :
    CallAction → Option Ledger
  | .allocate timeout =>
      (allocateCall state.caller timeout).map (fun (caller, outcome) =>
        ⟨caller, recordAllocation state.live outcome⟩)
  | .consume sequence raw =>
      (consumeCall state.caller sequence raw).map
        (fun (caller, outcome) =>
          ⟨caller, recordConsumption state.live sequence outcome⟩)

/-- All histories of calls in which no lifetime ends. -/
def correlationMachine : Machine Ledger CallAction where
  start := ⟨newCaller, []⟩
  step := Ledger.step

/-- The caller does what the record of live calls says. -/
structure Correlates (state : Ledger) : Prop where
  distinct : (state.live.map Prod.fst).Nodup
  nonzero : ∀ entry ∈ state.live, entry.1 ≠ 0
  returns : ∀ timeout, (allocateCall state.caller timeout).isSome
  delivers : ∀ sequence call raw, (sequence, call) ∈ state.live →
    ∃ next,
      consumeCall state.caller sequence raw = some (next, .ok ()) ∧
        channel next call = some [raw] ∧
        ∀ other, other ≠ call →
          channel next other = channel state.caller other
  rejects : ∀ sequence raw, (∀ call, (sequence, call) ∉ state.live) →
    ∃ next failure,
      consumeCall state.caller sequence raw = some (next, .error failure) ∧
        ∀ call, channel next call = channel state.caller call

/-- An allocation which is attempted has room for one more live call. -/
def HasRoom (state : Ledger) : CallAction → Prop
  | .allocate timeout =>
      timeout ≤ 0 ∨ state.live.length < callerCapacity
  | .consume _ _ => True

instance (state : Ledger) (action : CallAction) :
    Decidable (HasRoom state action) :=
  match action with
  | .allocate timeout =>
      inferInstanceAs
        (Decidable (timeout ≤ 0 ∨ state.live.length < callerCapacity))
  | .consume _ _ => inferInstanceAs (Decidable True)

/-- The cache holds exactly the live calls, and their channels are empty. -/
structure Cached (state : Ledger) : Prop where
  same : state.caller.calls.entries.Perm state.live
  nonzero : ∀ entry ∈ state.live, entry.1 ≠ 0
  waiting : ∀ entry ∈ state.live,
    ∃ pending, state.caller.pending[entry.2]? = some pending ∧
      pending.sequence = entry.1 ∧ pending.consumed = false ∧
      pending.response = []

theorem Cached.distinct {state : Ledger} (cached : Cached state) :
    (state.live.map Prod.fst).Nodup :=
  (cached.same.map Prod.fst).nodup_iff.mp state.caller.calls.distinct

/-- `Consume` of a live call in a state whose cache is right. -/
theorem Cached.delivers
    {state : Ledger} (cached : Cached state)
    {sequence : UInt16} {call : Nat}
    (live : (sequence, call) ∈ state.live) (raw : List Byte) :
    ∃ next,
      consumeCall state.caller sequence raw = some (next, .ok ()) ∧
        Delivered state.caller sequence call raw next := by
  rcases cached.waiting _ live with
    ⟨pending, located, -, unconsumed, empty⟩
  exact consumeCall_present raw (cached.same.mem_iff.mpr live) located
    unconsumed empty

theorem Cached.rejects
    {state : Ledger} (cached : Cached state)
    {sequence : UInt16} (raw : List Byte)
    (dead : ∀ call, (sequence, call) ∉ state.live) :
    consumeCall state.caller sequence raw =
      some (state.caller, .error .unknownSequence) :=
  consumeCall_absent raw
    (fun call member => dead call (cached.same.mem_iff.mp member))

theorem Cached.correlates {state : Ledger} (cached : Cached state) :
    Correlates state where
  distinct := cached.distinct
  nonzero := cached.nonzero
  returns timeout := by
    rcases allocateCall_result state.caller timeout with
      ⟨result, returned, -⟩
    rw [returned]
    rfl
  delivers sequence call raw live := by
    rcases cached.delivers live raw with ⟨next, consumed, delivered⟩
    refine ⟨next, consumed, delivered.target, ?_⟩
    intro other different
    rw [channel, delivered.others other different]
    rfl
  rejects sequence raw dead :=
    ⟨state.caller, .unknownSequence, cached.rejects raw dead,
      fun _ => rfl⟩

theorem cached_start : Cached correlationMachine.start where
  same := List.Perm.refl _
  nonzero := by
    intro entry member
    cases member
  waiting := by
    intro entry member
    cases member

/-- Step lemma: an allocation with room, or one which is refused. -/
theorem Cached.allocates
    {state next : Ledger} (cached : Cached state) {timeout : Int}
    (room : HasRoom state (.allocate timeout))
    (taken : state.step (.allocate timeout) = some next) :
    Cached next := by
  rcases room with invalid | room
  · have refused :
        allocateCall state.caller timeout =
          some (state.caller, .error .invalidTimeout) := by
      rw [allocateCall, allocate, if_pos invalid, runAllocate_failed]
    simp only [Ledger.step, refused, Option.map_some,
      Option.some.injEq] at taken
    rw [← taken]
    exact cached
  · rcases allocateCall_result state.caller timeout with
      ⟨result, returned, shape⟩
    simp only [Ledger.step, returned, Option.map_some,
      Option.some.injEq] at taken
    rw [← taken]
    cases shape with
    | fails number calls failure same =>
        exact ⟨same.trans cached.same, cached.nonzero, cached.waiting⟩
    | succeeds number calls sequence same nonzero fresh =>
        have kept := same.trans cached.same
        have free : calls.entries.length < callerCapacity := by
          rw [kept.length_eq]
          exact room
        refine ⟨?_, ?_, ?_⟩
        · change (calls.add sequence _).entries.Perm _
          rw [Lru.add_entries_of_room _ fresh free]
          exact kept.cons _
        · intro entry member
          rcases List.mem_cons.mp member with rfl | member
          · exact nonzero
          · exact cached.nonzero entry member
        · intro entry member
          rcases List.mem_cons.mp member with rfl | member
          · exact ⟨⟨sequence, [], false⟩, by simp [allocated], rfl, rfl,
              rfl⟩
          · rcases cached.waiting entry member with
              ⟨pending, located, facts⟩
            refine ⟨pending, ?_, facts⟩
            rcases List.getElem?_eq_some_iff.mp located with ⟨inside, -⟩
            change (state.caller.pending ++ _)[entry.2]? = some pending
            rw [List.getElem?_append_left inside]
            exact located

/-- Step lemma: a report for a live call, or for no call. -/
theorem Cached.consumes
    {state next : Ledger} (cached : Cached state)
    {sequence : UInt16} {raw : List Byte}
    (taken : state.step (.consume sequence raw) = some next) :
    Cached next := by
  by_cases live : ∃ call, (sequence, call) ∈ state.live
  · rcases live with ⟨call, live⟩
    rcases cached.delivers live raw with ⟨caller, consumed, delivered⟩
    simp only [Ledger.step, consumed, Option.map_some,
      Option.some.injEq] at taken
    rw [← taken]
    have remaining : ∀ entry,
        entry ∈ state.live.filter (fun entry => entry.1 ≠ sequence) ↔
          entry ∈ state.live ∧ entry.1 ≠ sequence := by
      intro entry
      rw [List.mem_filter, decide_eq_true_iff]
    refine ⟨?_, ?_, ?_⟩
    · have nodup : state.live.Nodup := cached.distinct.of_map _
      change caller.calls.entries.Perm (state.live.filter _)
      rw [List.perm_ext_iff_of_nodup (Lru.entries_nodup _)
        (nodup.filter _)]
      intro entry
      rw [delivered.entries, remaining, cached.same.mem_iff]
    · intro entry member
      exact cached.nonzero entry ((remaining entry).mp member).1
    · intro entry member
      rcases (remaining entry).mp member with ⟨member, different⟩
      rcases cached.waiting entry member with
        ⟨pending, located, sequenceOf, facts⟩
      refine ⟨pending, ?_, sequenceOf, facts⟩
      rw [delivered.others entry.2 ?_]
      · exact located
      · intro same
        rcases cached.waiting _ live with ⟨other, found, otherOf, -⟩
        rw [same, found] at located
        apply different
        rw [← sequenceOf, ← Option.some.inj located, otherOf]
  · have dead : ∀ call, (sequence, call) ∉ state.live :=
      fun call member => live ⟨call, member⟩
    simp only [Ledger.step, cached.rejects raw dead, Option.map_some,
      Option.some.injEq] at taken
    rw [← taken]
    exact cached

/--
In every history whose allocations have room, the caller does what the record
of live calls says.
-/
theorem correlates_of_room
    {state : Ledger}
    (reached : correlationMachine.ReachableWhile HasRoom state) :
    Correlates state := by
  have cached : Cached state := by
    refine reached.invariant cached_start ?_
    intro state action next room cached taken
    cases action with
    | allocate timeout => exact cached.allocates room taken
    | consume sequence raw => exact cached.consumes taken
  exact cached.correlates

/-! ## An allocation without room -/

/-- The calls of the first `count` allocations, the last one first. -/
def firstCalls : Nat → List (UInt16 × Nat)
  | 0 => []
  | count + 1 => (UInt16.ofNat (count + 1), count) :: firstCalls count

/-- The sequences of the last `kept` calls. -/
theorem mem_take_firstCalls
    {count kept : Nat} {entry : UInt16 × Nat} (small : count < 2 ^ 16)
    (member : entry ∈ (firstCalls count).take kept) :
    count - kept < entry.1.toNat ∧ entry.1.toNat ≤ count := by
  induction count generalizing kept with
  | zero => simp [firstCalls] at member
  | succ count induction =>
      cases kept with
      | zero => simp at member
      | succ kept =>
          rw [firstCalls, List.take_succ_cons, List.mem_cons] at member
          rcases member with rfl | member
          · rw [UInt16.toNat_ofNat', Nat.mod_eq_of_lt small]
            omega
          · have bounds := induction (by omega) member
            omega

theorem firstCall_mem (count : Nat) :
    ((1 : UInt16), 0) ∈ firstCalls (count + 1) := by
  induction count with
  | zero => exact List.mem_cons_self
  | succ count induction => exact List.mem_cons_of_mem _ induction

/-- The state after `count` allocations and nothing else. -/
structure Filled (count : Nat) (state : Ledger) : Prop where
  next : state.caller.next = UInt32.ofNat count
  live : state.live = firstCalls count
  entries : state.caller.calls.entries = (firstCalls count).take 1024
  pending : state.caller.pending.length = count

theorem Filled.sequence
    {count : Nat} {state : Ledger} (filled : Filled count state) :
    (state.caller.next + 1).toUInt16 = UInt16.ofNat (count + 1) := by
  rw [filled.next]
  apply UInt16.toNat_inj.mp
  simp only [UInt32.toNat_toUInt16, UInt32.toNat_add,
    UInt32.toNat_ofNat', UInt32.toNat_ofNat, UInt16.toNat_ofNat']
  omega

theorem Filled.nonzero
    {count : Nat} {state : Ledger} (filled : Filled count state)
    (small : count ≤ 1024) :
    (state.caller.next + 1).toUInt16 ≠ 0 := by
  rw [filled.sequence]
  intro zero
  have value := congrArg UInt16.toNat zero
  rw [UInt16.toNat_ofNat'] at value
  change (count + 1) % 2 ^ 16 = 0 at value
  omega

/-- The next sequence is larger than those in the cache. -/
theorem Filled.absent
    {count : Nat} {state : Ledger} (filled : Filled count state)
    (small : count ≤ 1024) :
    ∀ call, ((state.caller.next + 1).toUInt16, call) ∉
      state.caller.calls.entries := by
  intro call member
  rw [filled.entries, filled.sequence] at member
  have bounds := mem_take_firstCalls (by omega) member
  rw [UInt16.toNat_ofNat'] at bounds
  omega

/-- One more allocation takes the next sequence. -/
theorem Filled.step
    {count : Nat} {state : Ledger} (filled : Filled count state)
    (small : count ≤ 1024) :
    ∃ next, state.step (.allocate 1) = some next ∧
      Filled (count + 1) next := by
  have absent := filled.absent small
  refine
    ⟨⟨allocated state.caller (state.caller.next + 1) state.caller.calls
          (state.caller.next + 1).toUInt16,
        ((state.caller.next + 1).toUInt16,
          state.caller.pending.length) :: state.live⟩,
      ?_, ?_, ?_, ?_, ?_⟩
  · rw [Ledger.step,
      allocateCall_next (by decide) (filled.nonzero small) absent]
    rfl
  · rw [allocated, filled.next]
    exact (UInt32.ofNat_add count 1).symm
  · rw [filled.sequence, filled.pending, filled.live]
    rfl
  · change
      (((state.caller.next + 1).toUInt16, state.caller.pending.length) ::
        state.caller.calls.without _).take callerCapacity = _
    rw [Lru.without_of_absent absent, filled.entries, filled.sequence,
      filled.pending, callerCapacity, firstCalls, List.take_succ_cons,
      List.take_succ_cons, List.take_take]
    rfl
  · change (state.caller.pending ++ [_]).length = count + 1
    rw [List.length_append, filled.pending]
    rfl

/-- Allocations one after another take the sequences in order. -/
theorem filled_of_allocations (count : Nat) (small : count ≤ 1025) :
    ∃ state,
      correlationMachine.replay correlationMachine.start
          (List.replicate count (.allocate 1)) = some state ∧
        Filled count state := by
  induction count with
  | zero => exact ⟨_, rfl, rfl, rfl, rfl, rfl⟩
  | succ count induction =>
      rcases induction (by omega) with ⟨state, replayed, filled⟩
      rcases filled.step (by omega) with ⟨next, taken, filled⟩
      refine ⟨next, ?_, filled⟩
      rw [List.replicate_succ', Machine.replay_concat, replayed]
      exact taken

/--
After 1025 allocations the first call is still live, but its report is
rejected.
-/
theorem allocation_without_room_discards :
    ∃ state,
      correlationMachine.replay correlationMachine.start
          (List.replicate 1025 (.allocate 1)) = some state ∧
        (1, 0) ∈ state.live ∧
        consumeCall state.caller 1 [0x02] =
          some (state.caller, .error .unknownSequence) ∧
        ¬ Correlates state := by
  rcases filled_of_allocations 1025 (Nat.le_refl _) with
    ⟨state, replayed, filled⟩
  have live : (1, 0) ∈ state.live := by
    rw [filled.live]
    exact firstCall_mem 1024
  have absent : ∀ call, (1, call) ∉ state.caller.calls.entries := by
    intro call member
    rw [filled.entries] at member
    have bounds := (mem_take_firstCalls (by decide) member).1
    change 1025 - 1024 < 1 at bounds
    omega
  have rejected := consumeCall_absent [0x02] absent
  refine ⟨state, replayed, live, rejected, ?_⟩
  intro correlates
  rcases correlates.delivers 1 0 [0x02] live with ⟨next, delivered, -⟩
  rw [rejected] at delivered
  cases delivered

/-- Four calls, of which the second one is answered before the last begins. -/
def answered : List CallAction :=
  [.allocate 1, .allocate 1, .allocate 1, .consume 2 [0x02], .allocate 1]

/-- The report of a live call reaches its channel, a late one is rejected. -/
theorem correlates_several_calls :
    ∃ state, correlationMachine.ReachableWhile HasRoom state ∧
      state.live = [(4, 3), (3, 2), (1, 0)] ∧
      (∃ next,
        consumeCall state.caller 3 [0x03] = some (next, .ok ()) ∧
          channel next 2 = some [[0x03]]) ∧
      ∃ next failure,
        consumeCall state.caller 2 [0x02] = some (next, .error failure) := by
  rcases
      (correlationMachine.restrict HasRoom).exists_reachable_of_replay
        (fun state => decide (state.live = [(4, 3), (3, 2), (1, 0)]))
        answered (by decide +kernel) with
    ⟨state, replayed, live⟩
  have reached := Machine.reachableWhile_of_restrict replayed
  replace live := of_decide_eq_true live
  have correlates := correlates_of_room reached
  refine ⟨state, reached, live, ?_, ?_⟩
  · rcases correlates.delivers 3 2 [0x03] (by rw [live]; decide) with
      ⟨next, delivered, received, -⟩
    exact ⟨next, delivered, received⟩
  · rcases correlates.rejects 2 [0x02] (by simp [live]) with
      ⟨next, failure, rejected, -⟩
    exact ⟨next, failure, rejected⟩

end Pareader.Host.Correlation
