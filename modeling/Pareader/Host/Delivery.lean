import Pareader.Core.Machine
import Pareader.Host.Calls

/-!
# At most one report for each channel

Any number of `Allocate` and `Consume` calls share one caller.  Their
operations interleave freely, and between any two of them a cached call may
expire or be evicted, or the owner of a channel may receive from it.

Reports which were sent are recorded with the call which sent them.  The
`consumed` flag of a pending call is a claim: it is taken by one `Consume`,
which holds it until its send, and the flag is never reset.  Every property of
the deliveries follows from the uniqueness of that claim; the cache only has to
lead to a call with the right sequence.
-/

namespace Pareader.Host.Delivery

open Pareader.Core
open Pareader.Host.Protocol
open Pareader.Host.Calls

/-! ## The transition system -/

/-- A `Consume` call: its arguments and its control point. -/
structure ConsumeThread where
  sequence : UInt16
  raw : List Byte
  point : Consuming

/-- A report which was sent, with the `Consume` which sent it. -/
structure Send where
  consumer : Nat
  call : Nat
  raw : List Byte

/-- A caller, the calls which use it, and the record of the sends. -/
structure Traffic where
  caller : Caller
  allocations : Nat → Option Allocating
  consumers : Nat → Option ConsumeThread
  sends : List Send

/--
What can happen next.  `drop` stands for the end of a lifetime and for an
eviction; both remove one entry of the cache.
-/
inductive TrafficAction where
  | startAllocate (thread : Nat) (timeout : Int)
  | allocate (thread : Nat)
  | startConsume (thread : Nat) (sequence : UInt16) (raw : List Byte)
  | consume (thread : Nat)
  | receive (call : Nat)
  | drop (sequence : UInt16)

/-- The report which an operation of `Consume` sends. -/
def sendOf (thread : Nat) : Consuming → List Send
  | .sending call raw => [⟨thread, call, raw⟩]
  | _ => []

def Traffic.step (state : Traffic) : TrafficAction → Option Traffic
  | .startAllocate thread timeout =>
      match state.allocations thread with
      | none =>
          some
            { state with
              allocations :=
                Function.update state.allocations thread
                  (some (allocate timeout)) }
      | some _ => none
  | .allocate thread =>
      match state.allocations thread with
      | none => none
      | some point =>
          (state.caller.allocateStep point).map (fun (caller, after) =>
            { state with
              caller := caller
              allocations :=
                Function.update state.allocations thread (some after) })
  | .startConsume thread sequence raw =>
      match state.consumers thread with
      | none =>
          some
            { state with
              consumers :=
                Function.update state.consumers thread
                  (some ⟨sequence, raw, .finding sequence raw⟩) }
      | some _ => none
  | .consume thread =>
      match state.consumers thread with
      | none => none
      | some consumer =>
          (state.caller.consumeStep consumer.point).map
            (fun (caller, after) =>
              { state with
                caller := caller
                consumers :=
                  Function.update state.consumers thread
                    (some { consumer with point := after })
                sends := state.sends ++ sendOf thread consumer.point })
  | .receive call =>
      (state.caller.receive call).map (fun (_, caller) =>
        { state with caller := caller })
  | .drop sequence =>
      some { state with caller := state.caller.expire sequence }

/-- Every interleaving of calls on a new caller. -/
def trafficMachine : Machine Traffic TrafficAction where
  start := ⟨newCaller, fun _ => none, fun _ => none, []⟩
  step := Traffic.step

/-! ## What is to be shown -/

/-- The deliveries of a state. -/
structure AtMostOnce (state : Traffic) : Prop where
  once : (state.sends.map Send.call).Nodup
  buffered : ∀ call pending,
    state.caller.pending[call]? = some pending →
      ∀ raw ∈ pending.response,
        ∃ send ∈ state.sends, send.call = call ∧ send.raw = raw
  passed : ∀ send ∈ state.sends, ∃ consumer,
    state.consumers send.consumer = some consumer ∧
      consumer.raw = send.raw ∧
      ∃ thread,
        state.allocations thread =
          some (.allocated consumer.sequence send.call)
  owners : ∀ first second sequence other call,
    state.allocations first = some (.allocated sequence call) →
      state.allocations second = some (.allocated other call) →
        first = second
  returned : ∀ thread consumer,
    state.consumers thread = some consumer →
      (consumer.point = .returned (.ok ()) ↔
        ∃ send ∈ state.sends, send.consumer = thread)
  sendsOnce : (state.sends.map Send.consumer).Nodup
  ready : ∀ thread consumer call raw,
    state.consumers thread = some consumer →
      consumer.point = .sending call raw →
        (state.caller.consumeStep consumer.point).isSome

/-! ## The table of calls -/

/-- Every call in the table belongs to the `Allocate` which returned it. -/
structure Table
    (caller : Caller) (allocations : Nat → Option Allocating) : Prop where
  entries : ∀ entry ∈ caller.calls.entries,
    caller.sequenceOf entry.2 = some entry.1
  owned : ∀ call sequence, caller.sequenceOf call = some sequence →
    ∃ thread, allocations thread = some (.allocated sequence call)
  allocated : ∀ thread sequence call,
    allocations thread = some (.allocated sequence call) →
      caller.sequenceOf call = some sequence
  owners : ∀ first second sequence other call,
    allocations first = some (.allocated sequence call) →
      allocations second = some (.allocated other call) →
        first = second

theorem Table.of_entries
    {caller next : Caller} {allocations : Nat → Option Allocating}
    (table : Table caller allocations)
    (known : ∀ call, next.sequenceOf call = caller.sequenceOf call)
    (subset : ∀ entry ∈ next.calls.entries, entry ∈ caller.calls.entries) :
    Table next allocations where
  entries entry member := by
    rw [known]
    exact table.entries entry (subset entry member)
  owned call sequence found := by
    rw [known] at found
    exact table.owned call sequence found
  allocated thread sequence call found := by
    rw [known]
    exact table.allocated thread sequence call found
  owners := table.owners

/-- Looking up a thread after one thread has moved. -/
theorem update_cases
    {Point : Type} {threads : Nat → Option Point} {thread other : Nat}
    {after point : Point}
    (known :
      Function.update threads thread (some after) other = some point) :
    (other = thread ∧ point = after) ∨
      (other ≠ thread ∧ threads other = some point) := by
  by_cases same : other = thread
  · subst same
    rw [Function.update_self] at known
    exact Or.inl ⟨rfl, (Option.some.inj known).symm⟩
  · rw [Function.update_of_ne same] at known
    exact Or.inr ⟨same, known⟩

/-- A thread which does not hold a call moves to another control point. -/
theorem Table.move
    {caller : Caller} {allocations : Nat → Option Allocating}
    (table : Table caller allocations) (thread : Nat)
    (before : ∀ sequence call,
      allocations thread ≠ some (.allocated sequence call))
    (after : Allocating)
    (unfinished : ∀ sequence call, after ≠ .allocated sequence call) :
    Table caller (Function.update allocations thread (some after)) := by
  have elsewhere : ∀ other sequence call,
      Function.update allocations thread (some after) other =
          some (.allocated sequence call) ↔
        allocations other = some (.allocated sequence call) := by
    intro other sequence call
    by_cases same : other = thread
    · subst same
      rw [Function.update_self]
      refine iff_of_false ?_ (before sequence call)
      intro finished
      exact unfinished sequence call (Option.some.inj finished)
    · rw [Function.update_of_ne same]
  refine ⟨table.entries, ?_, ?_, ?_⟩
  · intro call sequence found
    rcases table.owned call sequence found with ⟨owner, returned⟩
    exact ⟨owner, (elsewhere owner sequence call).mpr returned⟩
  · intro other sequence call found
    exact table.allocated other sequence call
      ((elsewhere other sequence call).mp found)
  · intro first second sequence other call left right
    exact table.owners first second sequence other call
      ((elsewhere first sequence call).mp left)
      ((elsewhere second other call).mp right)

/-- The caller to which a call was added. -/
def created (caller : Caller) (sequence : UInt16) : Caller :=
  { caller with
    calls := caller.calls.add sequence caller.pending.length
    pending := caller.pending ++ [⟨sequence, [], false⟩] }

theorem sequenceOf_lt
    {caller : Caller} {call : Nat} {sequence : UInt16}
    (known : caller.sequenceOf call = some sequence) :
    call < caller.pending.length := by
  rcases Option.map_eq_some_iff.mp known with ⟨pending, located, -⟩
  exact (List.getElem?_eq_some_iff.mp located).1

theorem sequenceOf_created_self (caller : Caller) (sequence : UInt16) :
    (created caller sequence).sequenceOf caller.pending.length =
      some sequence := by
  simp [created, Caller.sequenceOf]

theorem sequenceOf_created_iff
    (caller : Caller) (sequence other : UInt16) {call : Nat}
    (different : call ≠ caller.pending.length) :
    (created caller sequence).sequenceOf call = some other ↔
      caller.sequenceOf call = some other := by
  constructor
  · intro known
    have inside := sequenceOf_lt known
    simp only [created, List.length_append, List.length_cons,
      List.length_nil] at inside
    rw [created, Caller.sequenceOf,
      List.getElem?_append_left (by omega)] at known
    exact known
  · intro known
    rw [created, Caller.sequenceOf,
      List.getElem?_append_left (sequenceOf_lt known)]
    exact known

/-- A call which was returned is in the table before the next one. -/
theorem Table.returned_lt
    {caller : Caller} {allocations : Nat → Option Allocating}
    (table : Table caller allocations)
    {thread : Nat} {sequence : UInt16} {call : Nat}
    (returned : allocations thread = some (.allocated sequence call)) :
    call < caller.pending.length :=
  sequenceOf_lt (table.allocated thread sequence call returned)

/-- The thread which adds a call becomes its owner. -/
theorem Table.create
    {caller : Caller} {allocations : Nat → Option Allocating}
    (table : Table caller allocations) (thread : Nat)
    (before : ∀ sequence call,
      allocations thread ≠ some (.allocated sequence call))
    (sequence : UInt16) :
    Table (created caller sequence)
      (Function.update allocations thread
        (some (.allocated sequence caller.pending.length))) := by
  refine ⟨?_, ?_, ?_, ?_⟩
  · intro entry member
    rcases Lru.mem_add_entries member with rfl | member
    · exact sequenceOf_created_self caller sequence
    · have known := table.entries entry member
      have old := Nat.ne_of_lt (sequenceOf_lt known)
      exact (sequenceOf_created_iff caller sequence entry.1 old).mpr known
  · intro call known found
    by_cases new : call = caller.pending.length
    · subst new
      rw [sequenceOf_created_self] at found
      cases found
      exact ⟨thread, Function.update_self ..⟩
    · rcases
          table.owned call known
            ((sequenceOf_created_iff caller sequence known new).mp
              found) with
        ⟨owner, returned⟩
      refine ⟨owner, ?_⟩
      rw [Function.update_of_ne]
      · exact returned
      · rintro rfl
        exact before known call returned
  · intro other known call found
    rcases update_cases found with ⟨-, added⟩ | ⟨-, returned⟩
    · cases added
      exact sequenceOf_created_self caller _
    · have old := Nat.ne_of_lt (table.returned_lt returned)
      exact (sequenceOf_created_iff caller sequence known old).mpr
        (table.allocated other known call returned)
  · intro first second known other call left right
    rcases update_cases left with ⟨rfl, added⟩ | ⟨-, left⟩
    · cases added
      rcases update_cases right with ⟨same, -⟩ | ⟨-, right⟩
      · exact same.symm
      · exact (Nat.lt_irrefl _ (table.returned_lt right)).elim
    · rcases update_cases right with ⟨-, added⟩ | ⟨-, right⟩
      · cases added
        exact (Nat.lt_irrefl _ (table.returned_lt left)).elim
      · exact table.owners first second known other call left right

/-! ## Claims -/

/-- The flag of a call is set. -/
def Consumed (caller : Caller) (call : Nat) : Prop :=
  ∃ pending, caller.pending[call]? = some pending ∧
    pending.consumed = true

/-- A change of one call which keeps its flag keeps every claim. -/
theorem Consumed.modify
    {caller : Caller} {other : Nat} (claimed : Consumed caller other)
    (call : Nat) (change : PendingCall → PendingCall)
    (keeps : ∀ pending, pending.consumed = true →
      (change pending).consumed = true) :
    Consumed (caller.modify call change) other := by
  rcases claimed with ⟨pending, located, flag⟩
  by_cases same : call = other
  · subst same
    refine ⟨change pending, ?_, keeps pending flag⟩
    rw [Caller.getElem?_modify_self, located]
    rfl
  · refine ⟨pending, ?_, flag⟩
    rw [Caller.getElem?_modify_ne _ same]
    exact located

/-- The call whose claim a `Consume` holds. -/
def holding : Consuming → Option Nat
  | .removing _ call _ => some call
  | .sending call _ => some call
  | _ => none

/-- The arguments of a `Consume`. -/
def ConsumeThread.Passes
    (consumer : ConsumeThread) (sequence : UInt16) (raw : List Byte) :
    Prop :=
  sequence = consumer.sequence ∧ raw = consumer.raw

/--
Claims and sends.  A claim is held by at most one thread and only before its
report is sent; a sent report was sent by a `Consume` which has returned.
-/
structure Claims
    (caller : Caller) (consumers : Nat → Option ConsumeThread)
    (sends : List Send) : Prop where
  running : ∀ thread consumer, consumers thread = some consumer →
    consumer.point.Sound consumer.Passes caller
  held : ∀ thread consumer call, consumers thread = some consumer →
    holding consumer.point = some call →
      Consumed caller call ∧ ∀ send ∈ sends, send.call ≠ call
  holder : ∀ first second left right call,
    consumers first = some left → holding left.point = some call →
      consumers second = some right → holding right.point = some call →
        first = second
  sent : ∀ send ∈ sends, Consumed caller send.call
  once : (sends.map Send.call).Nodup
  sendsOnce : (sends.map Send.consumer).Nodup
  passed : ∀ send ∈ sends, ∃ consumer,
    consumers send.consumer = some consumer ∧
      consumer.point = .returned (.ok ()) ∧ consumer.raw = send.raw ∧
      caller.sequenceOf send.call = some consumer.sequence
  returned : ∀ thread consumer, consumers thread = some consumer →
    consumer.point = .returned (.ok ()) →
      ∃ send ∈ sends, send.consumer = thread
  buffered : ∀ call pending, caller.pending[call]? = some pending →
    ∀ raw ∈ pending.response,
      ∃ send ∈ sends, send.call = call ∧ send.raw = raw

/-- A change of the caller which neither claims nor sends. -/
structure Passive (caller next : Caller) : Prop where
  extending : caller.Extends next
  consumed : ∀ call, Consumed caller call → Consumed next call
  buffered : ∀ (call : Nat) (pending : PendingCall),
    next.pending[call]? = some pending →
      ∀ raw ∈ pending.response, ∃ previous : PendingCall,
        caller.pending[call]? = some previous ∧ raw ∈ previous.response

theorem Passive.of_pending
    {caller next : Caller} (same : next.pending = caller.pending) :
    Passive caller next where
  extending call sequence known := by
    rw [Caller.sequenceOf, same]
    exact known
  consumed call := by
    rw [Consumed, Consumed, same]
    exact id
  buffered call pending located raw member := by
    rw [same] at located
    exact ⟨pending, located, member⟩

theorem passive_created (caller : Caller) (sequence : UInt16) :
    Passive caller (created caller sequence) where
  extending call other known :=
    (sequenceOf_created_iff caller sequence other
      (by have inside := sequenceOf_lt known; omega)).mpr known
  consumed call claimed := by
    rcases claimed with ⟨pending, located, flag⟩
    rcases List.getElem?_eq_some_iff.mp located with ⟨inside, -⟩
    refine ⟨pending, ?_, flag⟩
    rw [created, List.getElem?_append_left inside]
    exact located
  buffered call pending located raw member := by
    by_cases inside : call < caller.pending.length
    · rw [created, List.getElem?_append_left inside] at located
      exact ⟨pending, located, member⟩
    · rw [created, List.getElem?_append_right (by omega)] at located
      have empty := List.mem_of_getElem? located
      rw [List.mem_singleton.mp empty] at member
      cases member

theorem passive_receive
    {caller next : Caller} {call : Nat} {raw : List Byte}
    (received : caller.receive call = some (raw, next)) :
    Passive caller next := by
  rcases Caller.receive_eq_some received with
    ⟨pending, rest, located, buffer, rfl⟩
  refine ⟨caller.extends_modify call _ (fun _ => rfl), ?_, ?_⟩
  · intro other claimed
    exact claimed.modify call _ (fun _ => id)
  · intro other later found report member
    by_cases same : call = other
    · subst same
      rw [Caller.getElem?_modify_self, located] at found
      cases found
      exact ⟨pending, located, by simp [buffer, member]⟩
    · rw [Caller.getElem?_modify_ne _ same] at found
      exact ⟨later, found, member⟩

section Claims

variable {caller next : Caller}
variable {consumers : Nat → Option ConsumeThread} {sends : List Send}

/-- Claims survive a passive change of the caller. -/
theorem Claims.passive
    (claims : Claims caller consumers sends)
    (change : Passive caller next) :
    Claims next consumers sends where
  running thread consumer known :=
    (claims.running thread consumer known).mono (fun _ _ => id)
      change.extending
  held thread consumer call known holds := by
    rcases claims.held thread consumer call known holds with
      ⟨flag, unsent⟩
    exact ⟨change.consumed call flag, unsent⟩
  holder := claims.holder
  sent send member := change.consumed _ (claims.sent send member)
  once := claims.once
  sendsOnce := claims.sendsOnce
  passed send member := by
    rcases claims.passed send member with
      ⟨consumer, known, point, raw, sequence⟩
    exact ⟨consumer, known, point, raw,
      change.extending _ _ sequence⟩
  returned := claims.returned
  buffered call pending located raw member := by
    rcases change.buffered call pending located raw member with
      ⟨previous, found, old⟩
    exact claims.buffered call previous found raw old

/-- No other thread holds the claim of a call, and nothing was sent to it. -/
structure Exclusive
    (caller : Caller) (consumers : Nat → Option ConsumeThread)
    (sends : List Send) (thread call : Nat) : Prop where
  consumed : Consumed caller call
  unsent : ∀ send ∈ sends, send.call ≠ call
  alone : ∀ other consumer, other ≠ thread →
    consumers other = some consumer → holding consumer.point ≠ some call

theorem Claims.exclusive
    (claims : Claims caller consumers sends)
    {thread call : Nat} {consumer : ConsumeThread}
    (known : consumers thread = some consumer)
    (holds : holding consumer.point = some call) :
    Exclusive caller consumers sends thread call := by
  rcases claims.held thread consumer call known holds with
    ⟨flag, unsent⟩
  refine ⟨flag, unsent, ?_⟩
  intro other rival different found held
  exact different
    (claims.holder other thread rival consumer call found held known holds)

/-- A thread which has not returned does not appear among the senders. -/
theorem Claims.not_sender
    (claims : Claims caller consumers sends)
    {thread : Nat} {consumer : ConsumeThread}
    (known : consumers thread = some consumer)
    (running : consumer.point ≠ .returned (.ok ())) :
    ∀ send ∈ sends, send.consumer ≠ thread := by
  intro send member same
  rcases claims.passed send member with ⟨sender, found, point, -⟩
  rw [same, known] at found
  cases found
  exact running point

/--
A thread moves to a control point which holds no claim, or one which is
exclusively its own.
-/
theorem Claims.move
    (claims : Claims caller consumers sends)
    {thread : Nat} {after : ConsumeThread}
    (idle : ∀ send ∈ sends, send.consumer ≠ thread)
    (sound : after.point.Sound after.Passes caller)
    (exclusive : ∀ call, holding after.point = some call →
      Exclusive caller consumers sends thread call)
    (unfinished : after.point ≠ .returned (.ok ())) :
    Claims caller (Function.update consumers thread (some after))
      sends := by
  refine
    { running := ?_
      held := ?_
      holder := ?_
      sent := claims.sent
      once := claims.once
      sendsOnce := claims.sendsOnce
      passed := ?_
      returned := ?_
      buffered := claims.buffered }
  · intro other consumer known
    rcases update_cases known with ⟨-, rfl⟩ | ⟨-, known⟩
    · exact sound
    · exact claims.running other consumer known
  · intro other consumer call known holds
    rcases update_cases known with ⟨-, rfl⟩ | ⟨-, known⟩
    · exact ⟨(exclusive call holds).consumed, (exclusive call holds).unsent⟩
    · exact claims.held other consumer call known holds
  · intro first second left right call leftKnown leftHolds rightKnown
      rightHolds
    rcases update_cases leftKnown with ⟨rfl, rfl⟩ | ⟨leftOther, leftOld⟩
    · rcases update_cases rightKnown with
        ⟨rfl, -⟩ | ⟨rightOther, rightOld⟩
      · rfl
      · exact ((exclusive call leftHolds).alone second right rightOther
          rightOld rightHolds).elim
    · rcases update_cases rightKnown with ⟨rfl, rfl⟩ | ⟨-, rightOld⟩
      · exact ((exclusive call rightHolds).alone first left leftOther
          leftOld leftHolds).elim
      · exact claims.holder first second left right call leftOld
          leftHolds rightOld rightHolds
  · intro send member
    rcases claims.passed send member with ⟨consumer, known, facts⟩
    refine ⟨consumer, ?_, facts⟩
    rw [Function.update_of_ne (idle send member)]
    exact known
  · intro other consumer known finished
    rcases update_cases known with ⟨-, rfl⟩ | ⟨-, known⟩
    · exact (unfinished finished).elim
    · exact claims.returned other consumer known finished

theorem passive_claim (caller : Caller) (call : Nat) :
    Passive caller
      (caller.modify call
        (fun pending => { pending with consumed := true })) := by
  refine ⟨caller.extends_modify call _ (fun _ => rfl), ?_, ?_⟩
  · intro other claimed
    exact claimed.modify call _ (fun _ _ => rfl)
  · intro other pending located raw member
    by_cases same : call = other
    · subst same
      rw [Caller.getElem?_modify_self] at located
      rcases Option.map_eq_some_iff.mp located with ⟨previous, found, rfl⟩
      exact ⟨previous, found, member⟩
    · rw [Caller.getElem?_modify_ne _ same] at located
      exact ⟨pending, located, member⟩

/-- A thread takes the claim of a call. -/
theorem Claims.claim
    (claims : Claims caller consumers sends)
    {thread : Nat} {consumer : ConsumeThread} {sequence : UInt16}
    {call : Nat} {raw : List Byte} {pending : PendingCall}
    (known : consumers thread = some consumer)
    (point : consumer.point = .claiming sequence call raw)
    (located : caller.pending[call]? = some pending)
    (unclaimed : pending.consumed = false) :
    Claims
      (caller.modify call
        (fun pending => { pending with consumed := true }))
      (Function.update consumers thread
        (some { consumer with point := .removing sequence call raw }))
      sends := by
  have free : ¬ Consumed caller call := by
    rintro ⟨found, again, flag⟩
    rw [located] at again
    cases again
    rw [unclaimed] at flag
    cases flag
  have changed := claims.passive (passive_claim caller call)
  have sound := changed.running thread consumer known
  rw [point] at sound
  apply changed.move
  · exact claims.not_sender known (by rw [point]; simp)
  · exact sound
  · intro held holds
    cases holds
    refine ⟨⟨{ pending with consumed := true }, ?_, rfl⟩, ?_, ?_⟩
    · rw [Caller.getElem?_modify_self, located]
      rfl
    · intro send member same
      exact free (same ▸ claims.sent send member)
    · intro other rival _ found holds
      exact free (claims.held other rival call found holds).1
  · simp

/-- A send with a new key keeps the keys of the sends distinct. -/
theorem nodup_map_concat
    {key : Send → Nat} {last : Send}
    (distinct : (sends.map key).Nodup)
    (fresh : ∀ send ∈ sends, key send ≠ key last) :
    ((sends ++ [last]).map key).Nodup := by
  rw [List.map_append, List.nodup_append]
  refine ⟨distinct, List.nodup_singleton _, ?_⟩
  intro earlier member latest final same
  rcases List.mem_map.mp member with ⟨send, sent, rfl⟩
  rw [List.mem_singleton.mp final] at same
  exact fresh send sent same

/-- A thread sends the report of its claim. -/
theorem Claims.send
    (claims : Claims caller consumers sends)
    {thread : Nat} {consumer : ConsumeThread}
    {call : Nat} {raw : List Byte}
    (known : consumers thread = some consumer)
    (point : consumer.point = .sending call raw) :
    Claims
      (caller.modify call
        (fun pending => { pending with response := [raw] }))
      (Function.update consumers thread
        (some { consumer with point := .returned (.ok ()) }))
      (sends ++ [⟨thread, call, raw⟩]) := by
  have exclusive := claims.exclusive known (by rw [point]; rfl)
  have idle := claims.not_sender known (by rw [point]; simp)
  have sound := claims.running thread consumer known
  rw [point] at sound
  rcases sound with ⟨sequence, ⟨rfl, rfl⟩, sequenceOf⟩
  have extending :=
    caller.extends_modify call
      (fun pending => { pending with response := [consumer.raw] })
      (fun _ => rfl)
  have consumed : ∀ other, Consumed caller other →
      Consumed
        (caller.modify call
          (fun pending => { pending with response := [consumer.raw] }))
        other := by
    intro other claimed
    exact claimed.modify call _ (fun _ => id)
  refine ⟨?_, ?_, ?_, ?_, ?_, ?_, ?_, ?_, ?_⟩
  · intro other rival found
    rcases update_cases found with ⟨-, rfl⟩ | ⟨-, found⟩
    · trivial
    · exact (claims.running other rival found).mono (fun _ _ => id)
        extending
  · intro other rival held found holds
    rcases update_cases found with ⟨-, rfl⟩ | ⟨different, found⟩
    · cases holds
    · rcases claims.held other rival held found holds with ⟨flag, unsent⟩
      refine ⟨consumed held flag, ?_⟩
      intro send member
      rcases List.mem_append.mp member with member | member
      · exact unsent send member
      · rw [List.mem_singleton.mp member]
        rintro rfl
        exact exclusive.alone other rival different found holds
  · intro first second left right held leftKnown leftHolds rightKnown
      rightHolds
    rcases update_cases leftKnown with ⟨-, rfl⟩ | ⟨-, leftOld⟩
    · cases leftHolds
    · rcases update_cases rightKnown with ⟨-, rfl⟩ | ⟨-, rightOld⟩
      · cases rightHolds
      · exact claims.holder first second left right held leftOld
          leftHolds rightOld rightHolds
  · intro send member
    rcases List.mem_append.mp member with member | member
    · exact consumed _ (claims.sent send member)
    · rw [List.mem_singleton.mp member]
      exact consumed call exclusive.consumed
  · exact nodup_map_concat claims.once exclusive.unsent
  · exact nodup_map_concat claims.sendsOnce idle
  · intro send member
    rcases List.mem_append.mp member with member | member
    · rcases claims.passed send member with
        ⟨sender, found, finished, raw, created⟩
      refine ⟨sender, ?_, finished, raw, extending _ _ created⟩
      rw [Function.update_of_ne (idle send member)]
      exact found
    · rw [List.mem_singleton.mp member]
      exact ⟨_, Function.update_self .., rfl, rfl,
        extending _ _ sequenceOf⟩
  · intro other sender found finished
    rcases update_cases found with ⟨rfl, -⟩ | ⟨-, found⟩
    · exact ⟨_, List.mem_append_right _ List.mem_cons_self, rfl⟩
    · rcases claims.returned other sender found finished with
        ⟨send, member, same⟩
      exact ⟨send, List.mem_append_left _ member, same⟩
  · intro other pending located raw member
    by_cases same : call = other
    · subst same
      rw [Caller.getElem?_modify_self] at located
      rcases Option.map_eq_some_iff.mp located with ⟨previous, -, rfl⟩
      refine ⟨_, List.mem_append_right _ List.mem_cons_self, rfl, ?_⟩
      exact (List.mem_singleton.mp member).symm
    · rw [Caller.getElem?_modify_ne _ same] at located
      rcases claims.buffered other pending located raw member with
        ⟨send, sent, facts⟩
      exact ⟨send, List.mem_append_left _ sent, facts⟩

/-- Step lemma for one operation of `Consume`. -/
theorem Claims.consume
    (claims : Claims caller consumers sends)
    {allocations : Nat → Option Allocating}
    (table : Table caller allocations)
    {thread : Nat} {consumer : ConsumeThread} {after : Consuming}
    (known : consumers thread = some consumer)
    (taken : caller.consumeStep consumer.point = some (next, after)) :
    Claims next
      (Function.update consumers thread
        (some { consumer with point := after }))
      (sends ++ sendOf thread consumer.point) := by
  have idle : ∀ send ∈ sends, send.consumer ≠ thread := by
    apply claims.not_sender known
    intro finished
    rw [finished] at taken
    cases taken
  have running := claims.running thread consumer known
  rcases consumer with ⟨sequence, raw, point⟩
  cases Caller.consumeStep_effect taken with
  | misses _ _ calls subset =>
      have moved := claims.passive (Passive.of_pending rfl : Passive caller
        { caller with calls := calls })
      simp only [sendOf, List.append_nil]
      refine moved.move idle trivial ?_ (by simp)
      intro call holds
      cases holds
  | finds _ call _ calls subset member =>
      have moved := claims.passive (Passive.of_pending rfl : Passive caller
        { caller with calls := calls })
      simp only [sendOf, List.append_nil]
      refine moved.move idle ⟨running, table.entries _ member⟩ ?_ (by simp)
      intro call holds
      cases holds
  | refused _ call _ =>
      simp only [sendOf, List.append_nil]
      refine claims.move idle trivial ?_ (by simp)
      intro call holds
      cases holds
  | claims _ call _ pending located unclaimed =>
      simp only [sendOf, List.append_nil]
      exact claims.claim known rfl located unclaimed
  | removes _ call _ calls subset =>
      have moved := claims.passive (Passive.of_pending rfl : Passive caller
        { caller with calls := calls })
      simp only [sendOf, List.append_nil]
      refine moved.move idle ⟨_, running⟩ ?_ (by simp)
      intro held holds
      cases holds
      exact moved.exclusive known rfl
  | sends call _ pending located empty => exact claims.send known rfl

/-- The table of calls keeps its sequences in an operation of `Consume`. -/
theorem Table.consume
    {allocations : Nat → Option Allocating}
    (table : Table caller allocations) {point after : Consuming}
    (taken : caller.consumeStep point = some (next, after)) :
    Table next allocations := by
  cases Caller.consumeStep_effect taken with
  | misses _ _ calls subset => exact table.of_entries (fun _ => rfl) subset
  | finds _ call _ calls subset member =>
      exact table.of_entries (fun _ => rfl) subset
  | refused _ call _ => exact table
  | claims _ call _ pending located unclaimed =>
      refine table.of_entries ?_ (fun _ => id)
      intro other
      exact Caller.sequenceOf_modify caller call other _ (fun _ => rfl)
  | removes _ call _ calls subset =>
      exact table.of_entries (fun _ => rfl) subset
  | sends call _ pending located empty =>
      refine table.of_entries ?_ (fun _ => id)
      intro other
      exact Caller.sequenceOf_modify caller call other _ (fun _ => rfl)

end Claims

/-! ## Every interleaving -/

/-- What holds in every state of the traffic. -/
structure Traffic.Invariant (state : Traffic) : Prop where
  table : Table state.caller state.allocations
  claims : Claims state.caller state.consumers state.sends

theorem invariant_start : Traffic.Invariant trafficMachine.start := by
  refine ⟨⟨?_, ?_, ?_, ?_⟩, ⟨?_, ?_, ?_, ?_, ?_, ?_, ?_, ?_, ?_⟩⟩
  · intro entry member
    cases member
  · intro call sequence known
    cases known
  · intro thread sequence call returned
    cases returned
  · intro first second sequence other call returned
    cases returned
  · intro thread consumer known
    cases known
  · intro thread consumer call known
    cases known
  · intro first second left right call known
    cases known
  · intro send member
    cases member
  · exact List.nodup_nil
  · exact List.nodup_nil
  · intro send member
    cases member
  · intro thread consumer known
    cases known
  · intro call pending located
    cases located

/-- Step lemma for one operation of `Allocate`. -/
theorem Traffic.Invariant.allocate
    {state : Traffic} (invariant : state.Invariant)
    {thread : Nat} {point after : Allocating} {caller : Caller}
    (known : state.allocations thread = some point)
    (taken : state.caller.allocateStep point = some (caller, after)) :
    Traffic.Invariant
      { state with
        caller := caller
        allocations :=
          Function.update state.allocations thread (some after) } := by
  have before : ∀ sequence call,
      state.allocations thread ≠ some (.allocated sequence call) := by
    intro sequence call finished
    rw [known] at finished
    cases finished
    cases taken
  rcases Caller.allocateStep_cases taken with
    ⟨number, calls, subset, rfl, unfinished⟩ | ⟨sequence, rfl, rfl⟩
  · have table : Table { state.caller with next := number, calls := calls }
        state.allocations :=
      invariant.table.of_entries (fun _ => rfl) subset
    exact ⟨table.move thread before after unfinished,
      invariant.claims.passive (Passive.of_pending rfl)⟩
  · exact ⟨invariant.table.create thread before sequence,
      invariant.claims.passive (passive_created state.caller sequence)⟩

theorem Traffic.Invariant.step
    {state next : Traffic} {action : TrafficAction}
    (invariant : state.Invariant)
    (taken : state.step action = some next) :
    next.Invariant := by
  cases action with
  | startAllocate thread timeout =>
      simp only [Traffic.step] at taken
      split at taken
      · rename_i free
        cases taken
        refine ⟨invariant.table.move thread ?_ _ ?_, invariant.claims⟩
        · intro sequence call
          rw [free]
          simp
        · intro sequence call
          rw [Calls.allocate]
          split <;> simp
      · cases taken
  | allocate thread =>
      simp only [Traffic.step] at taken
      split at taken
      · cases taken
      · rename_i point known
        rcases Option.map_eq_some_iff.mp taken with
          ⟨⟨caller, after⟩, stepped, rfl⟩
        exact invariant.allocate known stepped
  | startConsume thread sequence raw =>
      simp only [Traffic.step] at taken
      split at taken
      · rename_i free
        cases taken
        refine ⟨invariant.table, invariant.claims.move ?_ ⟨rfl, rfl⟩ ?_ ?_⟩
        · intro send member same
          rcases invariant.claims.passed send member with
            ⟨consumer, known, -⟩
          rw [same, free] at known
          cases known
        · intro call holds
          cases holds
        · simp
      · cases taken
  | consume thread =>
      simp only [Traffic.step] at taken
      split at taken
      · cases taken
      · rename_i consumer known
        rcases Option.map_eq_some_iff.mp taken with
          ⟨⟨caller, after⟩, stepped, rfl⟩
        exact ⟨invariant.table.consume stepped,
          invariant.claims.consume invariant.table known stepped⟩
  | receive call =>
      rcases Option.map_eq_some_iff.mp taken with
        ⟨⟨raw, caller⟩, received, rfl⟩
      refine ⟨?_, invariant.claims.passive (passive_receive received)⟩
      rcases Caller.receive_eq_some received with
        ⟨pending, rest, -, -, rfl⟩
      refine invariant.table.of_entries ?_ (fun _ => id)
      intro other
      exact Caller.sequenceOf_modify _ call other _ (fun _ => rfl)
  | drop sequence =>
      cases taken
      exact ⟨invariant.table.of_entries (fun _ => rfl)
          (fun _ member => Lru.mem_remove_entries member),
        invariant.claims.passive (Passive.of_pending rfl)⟩

theorem invariant_of_reachable
    {state : Traffic} (reached : trafficMachine.Reachable state) :
    state.Invariant := by
  refine reached.invariant invariant_start ?_
  intro state action next _ invariant taken
  exact invariant.step taken

/-- A thread which is about to send finds its channel empty. -/
theorem Claims.send_isSome
    {caller : Caller} {consumers : Nat → Option ConsumeThread}
    {sends : List Send} (claims : Claims caller consumers sends)
    {thread : Nat} {consumer : ConsumeThread} {call : Nat}
    {raw : List Byte} (known : consumers thread = some consumer)
    (point : consumer.point = .sending call raw) :
    (caller.consumeStep consumer.point).isSome := by
  have exclusive := claims.exclusive known (by rw [point]; rfl)
  rcases exclusive.consumed with ⟨pending, located, -⟩
  have empty : pending.response = [] := by
    apply List.eq_nil_iff_forall_not_mem.mpr
    intro report member
    rcases claims.buffered call pending located report member with
      ⟨send, sent, same, -⟩
    exact exclusive.unsent send sent same
  rw [point]
  simp [Caller.consumeStep, located, empty]

/--
In every interleaving, a channel receives at most one report, it was passed to
a `Consume` for the sequence of the channel, exactly the successful `Consume`
calls have sent one, and no send blocks.
-/
theorem atMostOnce_of_reachable
    {state : Traffic} (reached : trafficMachine.Reachable state) :
    AtMostOnce state := by
  rcases invariant_of_reachable reached with ⟨table, claims⟩
  refine
    { once := claims.once
      buffered := claims.buffered
      passed := ?_
      owners := table.owners
      returned := ?_
      sendsOnce := claims.sendsOnce
      ready := ?_ }
  · intro send member
    rcases claims.passed send member with
      ⟨consumer, known, -, raw, sequence⟩
    exact ⟨consumer, known, raw, table.owned _ _ sequence⟩
  · intro thread consumer known
    constructor
    · exact claims.returned thread consumer known
    · rintro ⟨send, member, rfl⟩
      rcases claims.passed send member with ⟨sender, found, finished, -⟩
      rw [known] at found
      cases found
      exact finished
  · intro thread consumer call raw known point
    exact claims.send_isSome known point

/-- Two `Consume` calls race for one response. -/
def race : List TrafficAction :=
  [.startAllocate 0 1, .allocate 0, .allocate 0, .allocate 0,
    .startConsume 0 1 [0x01], .startConsume 1 1 [0x02],
    .consume 0, .consume 1, .consume 1, .consume 0, .consume 1, .drop 1,
    .consume 1]

/-- One of them delivers its report, the other one is rejected. -/
theorem race_delivers_once :
    ∃ state, trafficMachine.Reachable state ∧
      (state.sends.map Send.consumer = [1] ∧
        state.caller.pending = [⟨1, [[0x02]], true⟩]) ∧
      AtMostOnce state := by
  rcases
      trafficMachine.exists_reachable_of_replay
        (fun state =>
          decide
            (state.sends.map Send.consumer = [1] ∧
              state.caller.pending = [⟨1, [[0x02]], true⟩]))
        race (by decide) with
    ⟨state, reached, holds⟩
  exact ⟨state, reached, of_decide_eq_true holds,
    atMostOnce_of_reachable reached⟩

end Pareader.Host.Delivery
