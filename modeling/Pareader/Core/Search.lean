import Mathlib

/-!
# Searching past a finite set

A search walks along a sequence of values and stops at the first one which is
not blocked.  As long as the values do not repeat, a finite set can hold it up
for no more places than the set has elements.
-/

namespace Pareader.Core.Search

variable {Value : Type}

/-- The first place at which a sequence is not blocked. -/
structure FirstFree
    (value : Nat → Value) (blocked : Value → Prop) (index : Nat) :
    Prop where
  free : ¬ blocked (value index)
  before : ∀ earlier, earlier < index → blocked (value earlier)

/-- A search which has passed its first place goes on with the rest. -/
theorem FirstFree.tail
    {value : Nat → Value} {blocked : Value → Prop} {index : Nat}
    (first : FirstFree value blocked (index + 1)) :
    FirstFree (fun place => value (place + 1)) blocked index := by
  constructor
  · exact first.free
  · intro earlier less
    exact first.before (earlier + 1) (Nat.succ_lt_succ less)

/-- Distinct values stay in a finite set for no longer than its size. -/
theorem le_card_of_held
    {value : Nat → Value} {count : Nat}
    (distinct : Set.InjOn value (Set.Iio count)) {blocked : Finset Value}
    (small : blocked.card < count) {stays : Nat}
    (held : ∀ place, place < stays → value place ∈ blocked) :
    stays ≤ blocked.card := by
  by_contra late
  rw [Nat.not_le] at late
  have bound :
      (Finset.range (blocked.card + 1)).card ≤ blocked.card := by
    apply Finset.card_le_card_of_injOn value
    · intro place member
      have within := Finset.mem_range.mp member
      exact held place (Nat.lt_of_lt_of_le within late)
    · rw [Finset.coe_range]
      exact distinct.mono (Set.Iio_subset_Iio small)
  rw [Finset.card_range] at bound
  exact Nat.not_succ_le_self _ bound

/-- The search ends, and passes no more values than there are blocked ones. -/
theorem exists_firstFree
    {value : Nat → Value} {count : Nat}
    (distinct : Set.InjOn value (Set.Iio count)) (blocked : Finset Value)
    (small : blocked.card < count) :
    ∃ index, index ≤ blocked.card ∧
      FirstFree value (fun found => found ∈ blocked) index := by
  classical
  have leaves : ∃ place, value place ∉ blocked := by
    by_contra held
    rw [not_exists] at held
    have bound :=
      @le_card_of_held _ value count distinct blocked small
        (blocked.card + 1) (fun place _ => not_not.mp (held place))
    exact Nat.not_succ_le_self _ bound
  have before : ∀ earlier, earlier < Nat.find leaves →
      value earlier ∈ blocked :=
    fun earlier less => not_not.mp (Nat.find_min leaves less)
  exact ⟨Nat.find leaves, le_card_of_held distinct small before,
    Nat.find_spec leaves, before⟩

end Pareader.Core.Search
