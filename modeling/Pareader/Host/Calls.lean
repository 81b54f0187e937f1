import Pareader.Core.Lru
import Pareader.Host.Protocol

/-!
# Call correlation

A `Caller` hands out sequence numbers and routes each response to the channel
of its call.  `Allocate` and `Consume` run concurrently, so both are small-step
programs here: one step is one operation on the counter, on the cache, on the
`consumed` flag or on a channel.  A finished program has no step, and neither
has one whose channel send blocks.

Pending calls are identified by the order of their creation.  The cache only
refers to them, and its entries may also disappear when their lifetime ends.
-/

namespace Pareader.Host.Calls

open Pareader.Core
open Pareader.Host.Protocol

def callerCapacity : Nat := 1024

/-! ## Data -/

/--
`pendingCall`.  The response channel has room for one report.  The sequence
with which the call was created is recorded for the specification only.
-/
structure PendingCall where
  sequence : UInt16
  response : List (List Byte)
  consumed : Bool
deriving DecidableEq, Repr

structure Caller where
  next : UInt32
  calls : Lru UInt16 Nat callerCapacity
  pending : List PendingCall

def newCaller : Caller where
  next := 0
  calls := Lru.empty
  pending := []

/-- Update one pending call. -/
def Caller.modify
    (caller : Caller) (call : Nat) (update : PendingCall → PendingCall) :
    Caller :=
  { caller with pending := caller.pending.modify call update }

theorem Caller.getElem?_modify_self
    (caller : Caller) (call : Nat) (update : PendingCall → PendingCall) :
    (caller.modify call update).pending[call]? =
      caller.pending[call]?.map update := by
  simp [Caller.modify]

theorem Caller.getElem?_modify_ne
    (caller : Caller) {call other : Nat} (different : call ≠ other)
    (update : PendingCall → PendingCall) :
    (caller.modify call update).pending[other]? =
      caller.pending[other]? := by
  simp [Caller.modify, different]

/-- The sequence with which a call was created. -/
def Caller.sequenceOf (caller : Caller) (call : Nat) : Option UInt16 :=
  caller.pending[call]?.map PendingCall.sequence

/-! ## Allocate -/

/-- The control points of `Allocate`. -/
inductive Allocating where
  | trying (attempts : Nat)
  | probing (attempts : Nat) (sequence : UInt16)
  | adding (sequence : UInt16)
  | failed (failure : ErrCode)
  | allocated (sequence : UInt16) (call : Nat)
deriving DecidableEq, Repr

/-- The entry of `Allocate`. -/
def allocate (timeout : Int) : Allocating :=
  if timeout ≤ 0 then .failed .invalidTimeout else .trying 0

/-- One operation of `Allocate`. -/
def Caller.allocateStep (caller : Caller) :
    Allocating → Option (Caller × Allocating)
  | .trying attempts =>
      if attempts < 0xFFFF then
        let next := caller.next + 1
        let sequence := next.toUInt16
        some ({ caller with next := next },
          if sequence = 0 then .trying (attempts + 1)
          else .probing attempts sequence)
      else
        some (caller, .failed .sequenceExhausted)
  | .probing attempts sequence =>
      let (found, calls) := caller.calls.get sequence
      some ({ caller with calls := calls },
        if found.isSome then .trying (attempts + 1) else .adding sequence)
  | .adding sequence =>
      let call := caller.pending.length
      some
        ({ caller with
            calls := caller.calls.add sequence call
            pending := caller.pending ++ [⟨sequence, [], false⟩] },
          .allocated sequence call)
  | .failed _ => none
  | .allocated _ _ => none

/-! ## Consume -/

/-- The control points of `Consume`. -/
inductive Consuming where
  | finding (sequence : UInt16) (raw : List Byte)
  | claiming (sequence : UInt16) (call : Nat) (raw : List Byte)
  | removing (sequence : UInt16) (call : Nat) (raw : List Byte)
  | sending (call : Nat) (raw : List Byte)
  | returned (outcome : Except ErrCode Unit)

/-- One operation of `Consume`. -/
def Caller.consumeStep (caller : Caller) :
    Consuming → Option (Caller × Consuming)
  | .finding sequence raw =>
      let (found, calls) := caller.calls.get sequence
      some ({ caller with calls := calls },
        match found with
        | none => .returned (.error .unknownSequence)
        | some call => .claiming sequence call raw)
  | .claiming sequence call raw =>
      match caller.pending[call]? with
      | none => none
      | some pending =>
          if pending.consumed then
            some (caller, .returned (.error .unknownSequence))
          else
            some
              (caller.modify call
                  (fun pending => { pending with consumed := true }),
                .removing sequence call raw)
  | .removing sequence call raw =>
      some ({ caller with calls := caller.calls.remove sequence },
        .sending call raw)
  | .sending call raw =>
      match caller.pending[call]? with
      | none => none
      | some pending =>
          if pending.response = [] then
            some
              (caller.modify call
                  (fun pending => { pending with response := [raw] }),
                .returned (.ok ()))
          else
            none
  | .returned _ => none

/-! ## Operations of the owner of a channel and of the clock -/

/-- Receive from the response channel of a call. -/
def Caller.receive (caller : Caller) (call : Nat) :
    Option (List Byte × Caller) :=
  match caller.pending[call]? with
  | none => none
  | some pending =>
      match pending.response with
      | [] => none
      | raw :: rest =>
          some (raw, caller.modify call
            (fun pending => { pending with response := rest }))

/-- The lifetime of a cached call ends. -/
def Caller.expire (caller : Caller) (sequence : UInt16) : Caller :=
  { caller with calls := caller.calls.remove sequence }

/-! ## What one operation can do -/

/-- An operation of `Allocate` rearranges the cache, or it creates a call. -/
theorem Caller.allocateStep_cases
    {caller next : Caller} {state after : Allocating}
    (taken : caller.allocateStep state = some (next, after)) :
    (∃ number calls,
        (∀ entry ∈ calls.entries, entry ∈ caller.calls.entries) ∧
        next = { caller with next := number, calls := calls } ∧
        ∀ sequence call, after ≠ .allocated sequence call) ∨
      ∃ sequence,
        next =
          { caller with
            calls := caller.calls.add sequence caller.pending.length
            pending := caller.pending ++ [⟨sequence, [], false⟩] } ∧
        after = .allocated sequence caller.pending.length := by
  cases state with
  | trying attempts =>
      simp only [Caller.allocateStep] at taken
      split at taken
      · cases taken
        refine Or.inl ⟨_, _, fun _ member => member, rfl, ?_⟩
        intro sequence call
        split <;> simp
      · cases taken
        exact Or.inl ⟨_, _, fun _ member => member, rfl, by simp⟩
  | probing attempts sequence =>
      cases taken
      refine Or.inl
        ⟨_, _, fun _ member => Lru.mem_get_entries member, rfl, ?_⟩
      intro sequence call
      split <;> simp
  | adding sequence =>
      cases taken
      exact Or.inr ⟨sequence, rfl, rfl⟩
  | failed failure => cases taken
  | allocated sequence call => cases taken

/-- What one operation of `Consume` can do. -/
inductive Caller.ConsumeEffect (caller : Caller) :
    Consuming → Caller → Consuming → Prop where
  | misses (sequence : UInt16) (raw : List Byte)
      (calls : Lru UInt16 Nat callerCapacity)
      (subset : ∀ entry ∈ calls.entries, entry ∈ caller.calls.entries) :
      ConsumeEffect caller (.finding sequence raw)
        { caller with calls := calls } (.returned (.error .unknownSequence))
  | finds (sequence : UInt16) (call : Nat) (raw : List Byte)
      (calls : Lru UInt16 Nat callerCapacity)
      (subset : ∀ entry ∈ calls.entries, entry ∈ caller.calls.entries)
      (member : (sequence, call) ∈ caller.calls.entries) :
      ConsumeEffect caller (.finding sequence raw)
        { caller with calls := calls } (.claiming sequence call raw)
  | refused (sequence : UInt16) (call : Nat) (raw : List Byte) :
      ConsumeEffect caller (.claiming sequence call raw) caller
        (.returned (.error .unknownSequence))
  | claims (sequence : UInt16) (call : Nat) (raw : List Byte)
      (pending : PendingCall)
      (located : caller.pending[call]? = some pending)
      (unclaimed : pending.consumed = false) :
      ConsumeEffect caller (.claiming sequence call raw)
        (caller.modify call
          (fun pending => { pending with consumed := true }))
        (.removing sequence call raw)
  | removes (sequence : UInt16) (call : Nat) (raw : List Byte)
      (calls : Lru UInt16 Nat callerCapacity)
      (subset : ∀ entry ∈ calls.entries, entry ∈ caller.calls.entries) :
      ConsumeEffect caller (.removing sequence call raw)
        { caller with calls := calls } (.sending call raw)
  | sends (call : Nat) (raw : List Byte) (pending : PendingCall)
      (located : caller.pending[call]? = some pending)
      (empty : pending.response = []) :
      ConsumeEffect caller (.sending call raw)
        (caller.modify call
          (fun pending => { pending with response := [raw] }))
        (.returned (.ok ()))

theorem Caller.consumeStep_effect
    {caller next : Caller} {state after : Consuming}
    (taken : caller.consumeStep state = some (next, after)) :
    caller.ConsumeEffect state next after := by
  cases state with
  | finding sequence raw =>
      simp only [Caller.consumeStep, Option.some.injEq,
        Prod.mk.injEq] at taken
      rcases taken with ⟨rfl, rfl⟩
      cases found : (caller.calls.get sequence).1 with
      | none =>
          exact .misses sequence raw _
            (fun _ member => Lru.mem_get_entries member)
      | some call =>
          exact .finds sequence call raw _
            (fun _ member => Lru.mem_get_entries member)
            (Lru.mem_of_get found)
  | claiming sequence call raw =>
      simp only [Caller.consumeStep] at taken
      split at taken
      · cases taken
      · rename_i pending located
        split at taken
        · cases taken
          exact .refused sequence call raw
        · rename_i fresh
          cases taken
          exact .claims sequence call raw pending located
            (by simpa using fresh)
  | removing sequence call raw =>
      cases taken
      exact .removes sequence call raw _
        (fun _ member => Lru.mem_remove_entries member)
  | sending call raw =>
      simp only [Caller.consumeStep] at taken
      split at taken
      · cases taken
      · rename_i pending located
        split at taken
        · rename_i empty
          cases taken
          exact .sends call raw pending located empty
        · cases taken
  | returned outcome => cases taken

/-- A report is received from the channel which holds it. -/
theorem Caller.receive_eq_some
    {caller next : Caller} {call : Nat} {raw : List Byte}
    (received : caller.receive call = some (raw, next)) :
    ∃ pending rest,
      caller.pending[call]? = some pending ∧
      pending.response = raw :: rest ∧
      next = caller.modify call
        (fun pending => { pending with response := rest }) := by
  unfold Caller.receive at received
  split at received
  · cases received
  · rename_i pending located
    split at received
    · cases received
    · rename_i head rest buffer
      cases received
      exact ⟨pending, rest, located, buffer, rfl⟩

/-! ## Soundness of the routing -/

/-- Calls are only created, and they keep their sequence. -/
def Caller.Extends (caller next : Caller) : Prop :=
  ∀ call sequence, caller.sequenceOf call = some sequence →
    next.sequenceOf call = some sequence

theorem Caller.Extends.refl (caller : Caller) : caller.Extends caller :=
  fun _ _ known => known

@[simp]
theorem Caller.sequenceOf_modify
    (caller : Caller) (call other : Nat)
    (update : PendingCall → PendingCall)
    (keeps : ∀ pending, (update pending).sequence = pending.sequence) :
    (caller.modify call update).sequenceOf other =
      caller.sequenceOf other := by
  simp only [Caller.sequenceOf, Caller.modify, List.getElem?_modify]
  by_cases same : call = other
  · cases caller.pending[other]? <;> simp [same, keeps]
  · simp [same]

section Sound

variable (passed : UInt16 → List Byte → Prop)

/--
Every cache entry refers to a call with its own sequence, and every buffered
report was passed to a `Consume` for the sequence of its call.
-/
structure Caller.Sound (caller : Caller) : Prop where
  entries : ∀ entry ∈ caller.calls.entries,
    caller.sequenceOf entry.2 = some entry.1
  buffered : ∀ pending ∈ caller.pending,
    ∀ raw ∈ pending.response, passed pending.sequence raw

/-- What a running `Consume` knows about its call. -/
def Consuming.Sound (caller : Caller) : Consuming → Prop
  | .finding sequence raw => passed sequence raw
  | .claiming sequence call raw =>
      passed sequence raw ∧ caller.sequenceOf call = some sequence
  | .removing sequence call raw =>
      passed sequence raw ∧ caller.sequenceOf call = some sequence
  | .sending call raw =>
      ∃ sequence, passed sequence raw ∧
        caller.sequenceOf call = some sequence
  | .returned _ => True

variable {passed}

theorem newCaller_sound : newCaller.Sound passed where
  entries := by simp [newCaller, Lru.empty]
  buffered := by simp [newCaller]

theorem Caller.Sound.mono
    {caller : Caller} {later : UInt16 → List Byte → Prop}
    (sound : caller.Sound passed)
    (grows : ∀ sequence raw, passed sequence raw → later sequence raw) :
    caller.Sound later where
  entries := sound.entries
  buffered pending member raw buffered :=
    grows _ _ (sound.buffered pending member raw buffered)

/-- A running `Consume` is not disturbed by what other threads do. -/
theorem Consuming.Sound.mono
    {caller next : Caller} {later : UInt16 → List Byte → Prop}
    {state : Consuming}
    (sound : state.Sound passed caller)
    (grows : ∀ sequence raw, passed sequence raw → later sequence raw)
    (extending : caller.Extends next) :
    state.Sound later next := by
  cases state with
  | finding sequence raw => exact grows _ _ sound
  | claiming sequence call raw =>
      exact ⟨grows _ _ sound.1, extending _ _ sound.2⟩
  | removing sequence call raw =>
      exact ⟨grows _ _ sound.1, extending _ _ sound.2⟩
  | sending call raw =>
      rcases sound with ⟨sequence, report, known⟩
      exact ⟨sequence, grows _ _ report, extending _ _ known⟩
  | returned outcome => trivial

/-- Rearranging or dropping cache entries is harmless. -/
theorem Caller.Sound.of_entries_subset
    {caller : Caller} (sound : caller.Sound passed)
    (next : UInt32) (calls : Lru UInt16 Nat callerCapacity)
    (subset : ∀ entry ∈ calls.entries, entry ∈ caller.calls.entries) :
    Caller.Sound passed { caller with next := next, calls := calls } where
  entries entry member := sound.entries entry (subset entry member)
  buffered := sound.buffered

theorem Caller.Sound.modify
    {caller : Caller} (sound : caller.Sound passed)
    (call : Nat) (update : PendingCall → PendingCall)
    (keeps : ∀ pending, (update pending).sequence = pending.sequence)
    (fills : ∀ pending, caller.pending[call]? = some pending →
      ∀ raw ∈ (update pending).response, passed pending.sequence raw) :
    (caller.modify call update).Sound passed where
  entries entry member := by
    rw [Caller.sequenceOf_modify caller call entry.2 update keeps]
    exact sound.entries entry member
  buffered := by
    intro pending member raw buffered
    rcases List.mem_iff_getElem?.mp member with ⟨index, located⟩
    simp only [Caller.modify, List.getElem?_modify] at located
    by_cases same : call = index
    · subst same
      cases old : caller.pending[call]? with
      | none => simp [old] at located
      | some previous =>
          simp only [old, if_pos, Option.map_eq_map, Option.map_some,
            Option.some.injEq] at located
          subst located
          rw [keeps]
          exact fills previous old raw buffered
    · simp only [if_neg same, Option.map_eq_map,
        Option.map_id_fun'] at located
      exact sound.buffered pending
        (List.mem_of_getElem? located) raw buffered

theorem Caller.extends_modify
    (caller : Caller) (call : Nat) (update : PendingCall → PendingCall)
    (keeps : ∀ pending, (update pending).sequence = pending.sequence) :
    caller.Extends (caller.modify call update) := by
  intro other sequence known
  rw [Caller.sequenceOf_modify caller call other update keeps]
  exact known

/-- Step lemma for `Allocate`. -/
theorem allocateStep_sound
    {caller next : Caller} {state after : Allocating}
    (sound : caller.Sound passed)
    (taken : caller.allocateStep state = some (next, after)) :
    next.Sound passed ∧ caller.Extends next := by
  rcases Caller.allocateStep_cases taken with
    ⟨number, calls, subset, rfl, -⟩ | ⟨sequence, rfl, -⟩
  · exact ⟨sound.of_entries_subset number calls subset,
      Caller.Extends.refl caller⟩
  · have grows : caller.Extends
        { caller with
          calls := caller.calls.add sequence caller.pending.length
          pending := caller.pending ++ [⟨sequence, [], false⟩] } := by
      intro call known found
      simp only [Caller.sequenceOf] at found ⊢
      rcases Option.map_eq_some_iff.mp found with ⟨pending, located, -⟩
      rcases List.getElem?_eq_some_iff.mp located with ⟨inside, -⟩
      rw [List.getElem?_append_left inside]
      exact found
    refine ⟨⟨?_, ?_⟩, grows⟩
    · intro entry member
      rcases Lru.mem_add_entries member with rfl | member
      · simp [Caller.sequenceOf]
      · exact grows _ _ (sound.entries entry member)
    · intro pending member raw buffered
      rcases List.mem_append.mp member with member | member
      · exact sound.buffered pending member raw buffered
      · rw [List.mem_singleton.mp member] at buffered
        cases buffered

/-- An allocated call has the allocated sequence. -/
theorem sequenceOf_allocated
    {caller next : Caller} {state : Allocating} {sequence : UInt16}
    {call : Nat}
    (taken :
      caller.allocateStep state = some (next, .allocated sequence call)) :
    next.sequenceOf call = some sequence := by
  rcases Caller.allocateStep_cases taken with
    ⟨number, calls, -, -, other⟩ | ⟨created, rfl, same⟩
  · exact (other sequence call rfl).elim
  · cases same
    simp [Caller.sequenceOf]

/-- Step lemma for `Consume`. -/
theorem consumeStep_sound
    {caller next : Caller} {state after : Consuming}
    (sound : caller.Sound passed)
    (running : state.Sound passed caller)
    (taken : caller.consumeStep state = some (next, after)) :
    next.Sound passed ∧ after.Sound passed next ∧
      caller.Extends next := by
  cases Caller.consumeStep_effect taken with
  | misses sequence raw calls subset =>
      exact ⟨sound.of_entries_subset _ calls subset, trivial,
        Caller.Extends.refl caller⟩
  | finds sequence call raw calls subset member =>
      exact ⟨sound.of_entries_subset _ calls subset,
        ⟨running, sound.entries _ member⟩, Caller.Extends.refl caller⟩
  | refused sequence call raw =>
      exact ⟨sound, trivial, Caller.Extends.refl caller⟩
  | claims sequence call raw pending located unclaimed =>
      have grows := caller.extends_modify call
        (fun pending => { pending with consumed := true })
        (fun _ => rfl)
      refine ⟨sound.modify call _ (fun _ => rfl) ?_,
        ⟨running.1, grows _ _ running.2⟩, grows⟩
      intro previous found
      exact sound.buffered previous (List.mem_of_getElem? found)
  | removes sequence call raw calls subset =>
      exact ⟨sound.of_entries_subset _ calls subset,
        ⟨sequence, running.1, running.2⟩, Caller.Extends.refl caller⟩
  | sends call raw pending located empty =>
      rcases running with ⟨sequence, report, known⟩
      refine ⟨sound.modify call _ (fun _ => rfl) ?_, trivial,
        caller.extends_modify call _ (fun _ => rfl)⟩
      intro previous found other buffered
      rw [Caller.sequenceOf, found, Option.map_some,
        Option.some.injEq] at known
      rw [List.mem_singleton.mp buffered, known]
      exact report

/-- A received report was passed to a `Consume` for its call. -/
theorem receive_sound
    {caller next : Caller} {call : Nat} {raw : List Byte}
    (sound : caller.Sound passed)
    (received : caller.receive call = some (raw, next)) :
    (∃ sequence, caller.sequenceOf call = some sequence ∧
        passed sequence raw) ∧
      next.Sound passed ∧ caller.Extends next := by
  rcases Caller.receive_eq_some received with
    ⟨pending, rest, located, buffer, rfl⟩
  have member := List.mem_of_getElem? located
  refine ⟨⟨pending.sequence, ?_, ?_⟩,
    sound.modify call _ (fun _ => rfl) ?_,
    caller.extends_modify call _ (fun _ => rfl)⟩
  · rw [Caller.sequenceOf, located, Option.map_some]
  · exact sound.buffered pending member raw (by simp [buffer])
  · intro previous found other buffered
    obtain rfl : previous = pending :=
      Option.some.inj (found.symm.trans located)
    exact sound.buffered previous member other
      (by simp [buffer, buffered])

theorem expire_sound
    {caller : Caller} (sound : caller.Sound passed) (sequence : UInt16) :
    (caller.expire sequence).Sound passed ∧
      caller.Extends (caller.expire sequence) :=
  ⟨sound.of_entries_subset _ _
      (fun _ member => Lru.mem_remove_entries member),
    Caller.Extends.refl caller⟩

end Sound

/-! ## A single consumer never blocks -/

/-- The channel of an unclaimed call is empty. -/
def Caller.Unclaimed (caller : Caller) : Prop :=
  ∀ pending ∈ caller.pending,
    pending.consumed = false → pending.response = []

/-- The call is claimed and its channel is still empty. -/
def Caller.Claimed (caller : Caller) (call : Nat) : Prop :=
  ∃ pending, caller.pending[call]? = some pending ∧
    pending.consumed = true ∧ pending.response = []

/-- The channel which a running `Consume` will send to has room. -/
def Consuming.Ready (caller : Caller) : Consuming → Prop
  | .finding _ _ => True
  | .claiming _ call _ => call < caller.pending.length
  | .removing _ call _ => caller.Claimed call
  | .sending call _ => caller.Claimed call
  | .returned _ => True

theorem newCaller_unclaimed : newCaller.Unclaimed := by
  simp [Caller.Unclaimed, newCaller]

/-- A `Consume` which is ready can take its next operation. -/
theorem consumeStep_isSome
    {caller : Caller} {state : Consuming} (ready : state.Ready caller)
    (running : ∀ outcome, state ≠ .returned outcome) :
    (caller.consumeStep state).isSome := by
  cases state with
  | finding sequence raw => rfl
  | claiming sequence call raw =>
      simp only [Caller.consumeStep, List.getElem?_eq_getElem ready]
      split <;> rfl
  | removing sequence call raw => rfl
  | sending call raw =>
      rcases ready with ⟨pending, located, -, empty⟩
      simp [Caller.consumeStep, located, empty]
  | returned outcome => exact (running outcome rfl).elim

/-- Changes of the call table which fill no channel. -/
structure Caller.KeepsRoom (caller next : Caller) : Prop where
  unclaimed : caller.Unclaimed → next.Unclaimed
  length : caller.pending.length ≤ next.pending.length
  claimed : ∀ call, caller.Claimed call → next.Claimed call

theorem Consuming.Ready.mono
    {caller next : Caller} {state : Consuming}
    (ready : state.Ready caller) (keeps : caller.KeepsRoom next) :
    state.Ready next := by
  cases state with
  | finding sequence raw => trivial
  | claiming sequence call raw =>
      exact Nat.lt_of_lt_of_le ready keeps.length
  | removing sequence call raw => exact keeps.claimed call ready
  | sending call raw => exact keeps.claimed call ready
  | returned outcome => trivial

theorem allocateStep_keepsRoom
    {caller next : Caller} {state after : Allocating}
    (taken : caller.allocateStep state = some (next, after)) :
    caller.KeepsRoom next := by
  rcases Caller.allocateStep_cases taken with
    ⟨number, calls, -, rfl, -⟩ | ⟨sequence, rfl, -⟩
  · exact ⟨id, Nat.le_refl _, fun _ => id⟩
  · refine ⟨?_, by simp, ?_⟩
    · intro unclaimed pending member fresh
      rcases List.mem_append.mp member with member | member
      · exact unclaimed pending member fresh
      · rw [List.mem_singleton.mp member]
    · rintro call ⟨pending, located, claimed⟩
      refine ⟨pending, ?_, claimed⟩
      rcases List.getElem?_eq_some_iff.mp located with ⟨inside, -⟩
      rw [List.getElem?_append_left inside]
      exact located

/-- Which updates of one call leave all unclaimed channels empty. -/
theorem Caller.Unclaimed.modify
    {caller : Caller} (before : caller.Unclaimed)
    (call : Nat) (update : PendingCall → PendingCall)
    (unclaimed : ∀ pending, caller.pending[call]? = some pending →
      (update pending).consumed = false →
        (update pending).response = []) :
    (caller.modify call update).Unclaimed := by
  intro pending member
  rcases List.mem_iff_getElem?.mp member with ⟨index, located⟩
  simp only [Caller.modify, List.getElem?_modify] at located
  rcases Option.map_eq_some_iff.mp located with ⟨previous, found, result⟩
  by_cases same : call = index
  · rw [if_pos same] at result
    rw [← result]
    exact unclaimed previous (same ▸ found)
  · rw [if_neg same] at result
    rw [← result]
    exact before previous (List.mem_of_getElem? found)

theorem Caller.claimed_modify_self
    {caller : Caller} {call : Nat} {pending : PendingCall}
    (located : caller.pending[call]? = some pending)
    (update : PendingCall → PendingCall)
    (claimed : (update pending).consumed = true)
    (empty : (update pending).response = []) :
    (caller.modify call update).Claimed call :=
  ⟨update pending, by simp [Caller.modify, located], claimed, empty⟩

/-- Step lemma: a ready `Consume` stays ready. -/
theorem consumeStep_ready
    {caller next : Caller} {state after : Consuming}
    {passed : UInt16 → List Byte → Prop}
    (sound : caller.Sound passed)
    (unclaimed : caller.Unclaimed) (ready : state.Ready caller)
    (taken : caller.consumeStep state = some (next, after)) :
    next.Unclaimed ∧ after.Ready next := by
  cases Caller.consumeStep_effect taken with
  | misses sequence raw calls subset => exact ⟨unclaimed, trivial⟩
  | finds sequence call raw calls subset member =>
      have known := sound.entries _ member
      rcases Option.map_eq_some_iff.mp known with ⟨pending, located, -⟩
      exact ⟨unclaimed, (List.getElem?_eq_some_iff.mp located).1⟩
  | refused sequence call raw => exact ⟨unclaimed, trivial⟩
  | claims sequence call raw pending located fresh =>
      have empty :=
        unclaimed pending (List.mem_of_getElem? located) fresh
      refine ⟨unclaimed.modify call _ ?_,
        Caller.claimed_modify_self located _ rfl empty⟩
      intro previous found impossible
      cases impossible
  | removes sequence call raw calls subset => exact ⟨unclaimed, ready⟩
  | sends call raw pending located empty =>
      rcases ready with ⟨claimed, found, consumed, -⟩
      refine ⟨unclaimed.modify call _ ?_, trivial⟩
      intro previous again fresh
      obtain rfl : previous = claimed :=
        Option.some.inj (again.symm.trans found)
      rw [consumed] at fresh
      cases fresh

theorem receive_keepsRoom
    {caller next : Caller} {call : Nat} {raw : List Byte}
    (received : caller.receive call = some (raw, next)) :
    caller.KeepsRoom next := by
  rcases Caller.receive_eq_some received with
    ⟨pending, rest, located, buffer, rfl⟩
  refine ⟨?_, by simp [Caller.modify], ?_⟩
  · intro unclaimed
    refine unclaimed.modify call _ ?_
    intro previous found fresh
    obtain rfl : previous = pending :=
      Option.some.inj (found.symm.trans located)
    have empty := unclaimed previous
      (List.mem_of_getElem? located) fresh
    rw [buffer] at empty
    cases empty
  · rintro other ⟨claimed, found, consumed, empty⟩
    have different : call ≠ other := by
      rintro rfl
      obtain rfl : claimed = pending :=
        Option.some.inj (found.symm.trans located)
      rw [buffer] at empty
      cases empty
    exact ⟨claimed, by simp [Caller.modify, different, found],
      consumed, empty⟩

end Pareader.Host.Calls
