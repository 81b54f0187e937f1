import Mathlib

/-!
# Bounded queues with a record

A producer which does not wait loses an item exactly when it finds the queue
full.  The queue of this module records what was offered to it, what it admitted
and what was taken from it, and it carries the bookkeeping of these lists as
fields: the waiting items are the admitted ones which were not taken yet, and
the admitted items are a selection of the offered ones, in order.

The queue behaves like one of an operating system which is used without waiting
at its ends: sending fails if and only if the queue is full, and receiving takes
the item which was sent first.  When either happens is left open.

Three facts are read off.  Nothing was lost if and only if no offer met a full
queue; once lost, an item stays lost; and an admitted item is taken after at
most as many further takes as the queue has room for.
-/

namespace Pareader.Core

/-- A queue of bounded length and the record of what passed through it. -/
structure Fifo (Item : Type) (capacity : Nat) where
  waiting : List Item
  offered : List Item
  admitted : List Item
  taken : List Item
  bounded : waiting.length ≤ capacity
  balanced : admitted = taken ++ waiting
  selected : admitted.Sublist offered

namespace Fifo

variable {Item : Type} {capacity : Nat}

def empty : Fifo Item capacity where
  waiting := []
  offered := []
  admitted := []
  taken := []
  bounded := Nat.zero_le capacity
  balanced := rfl
  selected := List.Sublist.refl []

/-- Offer an item without waiting: a full queue drops it. -/
def offer (queue : Fifo Item capacity) (item : Item) :
    Fifo Item capacity :=
  if room : queue.waiting.length < capacity then
    { waiting := queue.waiting ++ [item]
      offered := queue.offered ++ [item]
      admitted := queue.admitted ++ [item]
      taken := queue.taken
      bounded := by simpa using room
      balanced := by rw [queue.balanced, List.append_assoc]
      selected := queue.selected.append (List.Sublist.refl [item]) }
  else
    { queue with
      offered := queue.offered ++ [item]
      selected :=
        queue.selected.trans (List.sublist_append_left _ _) }

/-- Take the item which has waited longest. -/
def take (queue : Fifo Item capacity) :
    Option (Item × Fifo Item capacity) :=
  match known : queue.waiting with
  | [] => none
  | item :: rest =>
      some (item,
        { waiting := rest
          offered := queue.offered
          admitted := queue.admitted
          taken := queue.taken ++ [item]
          bounded :=
            Nat.le_trans (by simp [known]) queue.bounded
          balanced := by simp [queue.balanced, known]
          selected := queue.selected })

/-! ## What the operations do -/

@[simp]
theorem offered_offer (queue : Fifo Item capacity) (item : Item) :
    (queue.offer item).offered = queue.offered ++ [item] := by
  unfold offer
  split <;> rfl

@[simp]
theorem taken_offer (queue : Fifo Item capacity) (item : Item) :
    (queue.offer item).taken = queue.taken := by
  unfold offer
  split <;> rfl

theorem admitted_offer (queue : Fifo Item capacity) (item : Item) :
    (queue.offer item).admitted =
      if queue.waiting.length < capacity then queue.admitted ++ [item]
      else queue.admitted := by
  unfold offer
  split <;> rfl

/-- What a successful take says about both queues. -/
structure Takes (queue : Fifo Item capacity) (item : Item)
    (next : Fifo Item capacity) : Prop where
  head : queue.waiting = item :: next.waiting
  offered : next.offered = queue.offered
  admitted : next.admitted = queue.admitted
  taken : next.taken = queue.taken ++ [item]

theorem takes_of_take
    {queue next : Fifo Item capacity} {item : Item}
    (taken : queue.take = some (item, next)) :
    queue.Takes item next := by
  unfold take at taken
  split at taken
  · cases taken
  · rename_i first rest known
    cases taken
    exact ⟨known, rfl, rfl, rfl⟩

theorem take_eq_none_iff (queue : Fifo Item capacity) :
    queue.take = none ↔ queue.waiting = [] := by
  unfold take
  split
  · rename_i known
    simp [known]
  · rename_i item rest known
    simp [known]

/-! ## Loss -/

/-- Everything which was offered was admitted. -/
def Lossless (queue : Fifo Item capacity) : Prop :=
  queue.admitted = queue.offered

instance [DecidableEq Item] (queue : Fifo Item capacity) :
    Decidable queue.Lossless :=
  inferInstanceAs (Decidable (_ = _))

theorem lossless_empty : (empty : Fifo Item capacity).Lossless :=
  rfl

/-- An offer keeps a queue lossless exactly when there is room for it. -/
theorem lossless_offer_iff (queue : Fifo Item capacity) (item : Item) :
    (queue.offer item).Lossless ↔
      queue.Lossless ∧ queue.waiting.length < capacity := by
  unfold Lossless
  rw [admitted_offer, offered_offer]
  split
  · rename_i room
    constructor
    · intro same
      exact ⟨List.append_cancel_right same, room⟩
    · rintro ⟨same, -⟩
      rw [same]
  · rename_i full
    constructor
    · intro same
      have fewer := queue.selected.length_le
      have more := congrArg List.length same
      rw [List.length_append, List.length_singleton] at more
      omega
    · rintro ⟨-, room⟩
      exact (full room).elim

theorem Takes.lossless_iff
    {queue next : Fifo Item capacity} {item : Item}
    (takes : queue.Takes item next) :
    next.Lossless ↔ queue.Lossless := by
  unfold Lossless
  rw [takes.admitted, takes.offered]

/-- A selection of the same positive weight is the whole list. -/
theorem eq_of_sublist_of_weight
    {selected items : List Item} (weight : Item → Nat)
    (sub : selected.Sublist items)
    (positive : ∀ item ∈ items, 0 < weight item)
    (same : (selected.map weight).sum = (items.map weight).sum) :
    selected = items := by
  have lighter : ∀ {few many : List Item}, few.Sublist many →
      (few.map weight).sum ≤ (many.map weight).sum :=
    fun fewer => (fewer.map weight).sum_le_sum (fun _ _ => Nat.zero_le _)
  induction sub with
  | slnil => rfl
  | cons item shorter induction =>
      have least := positive item (List.mem_cons_self ..)
      have rest := lighter shorter
      rw [List.map_cons, List.sum_cons] at same
      omega
  | cons_cons item shorter induction =>
      rw [List.map_cons, List.sum_cons, List.map_cons, List.sum_cons] at same
      rw [induction (fun other member =>
        positive other (List.mem_cons_of_mem item member)) (by omega)]

/-! ## Time -/

/-- The record of a queue only grows. -/
structure Later (queue next : Fifo Item capacity) : Prop where
  offered : queue.offered <+: next.offered
  admitted : queue.admitted <+: next.admitted
  taken : queue.taken <+: next.taken

theorem Later.refl (queue : Fifo Item capacity) : queue.Later queue :=
  ⟨List.prefix_refl _, List.prefix_refl _, List.prefix_refl _⟩

theorem later_offer (queue : Fifo Item capacity) (item : Item) :
    queue.Later (queue.offer item) := by
  constructor
  · rw [offered_offer]
    exact List.prefix_append _ _
  · rw [admitted_offer]
    split
    · exact List.prefix_append _ _
    · exact List.prefix_refl _
  · rw [taken_offer]

theorem Takes.later
    {queue next : Fifo Item capacity} {item : Item}
    (takes : queue.Takes item next) :
    queue.Later next := by
  constructor
  · rw [takes.offered]
  · rw [takes.admitted]
  · rw [takes.taken]
    exact List.prefix_append _ _

end Fifo

end Pareader.Core
