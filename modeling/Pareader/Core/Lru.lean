import Mathlib

/-!
# Bounded caches with least-recently-used eviction

A cache is a list of entries, the most recently used one first.  The structure
carries its two invariants: no key occurs twice, and there are at most
`capacity` entries.  A successful lookup and an insertion both move their entry
to the front, so an insertion into a full cache drops the entry which was used
least recently.

These are the documented operations of a cache library: `get` refreshes what it
finds, `add` replaces the entry of its key and never fails, and `remove` of an
absent key does nothing.  An entry whose lifetime ends is removed at any time by
whoever uses the cache.
-/

namespace Pareader.Core

/-- A cache with at most `capacity` entries, most recently used first. -/
structure Lru (Key Value : Type) (capacity : Nat) where
  entries : List (Key × Value)
  distinct : (entries.map Prod.fst).Nodup
  bounded : entries.length ≤ capacity

namespace Lru

variable {Key Value : Type} [DecidableEq Key] {capacity : Nat}

/-- The cache without entries. -/
def empty : Lru Key Value capacity where
  entries := []
  distinct := by simp
  bounded := by simp

/-- The entries with another key. -/
def without (cache : Lru Key Value capacity) (key : Key) :
    List (Key × Value) :=
  cache.entries.filter (fun entry => entry.1 ≠ key)

theorem without_sublist (cache : Lru Key Value capacity) (key : Key) :
    (cache.without key).Sublist cache.entries :=
  List.filter_sublist

theorem distinct_cons_without
    (cache : Lru Key Value capacity) (key : Key) (value : Value) :
    (((key, value) :: cache.without key).map Prod.fst).Nodup := by
  rw [List.map_cons, List.nodup_cons]
  constructor
  · simp [without]
  · exact cache.distinct.sublist ((cache.without_sublist key).map _)

/-- Look up a key, marking its entry as most recently used. -/
def get (cache : Lru Key Value capacity) (key : Key) :
    Option Value × Lru Key Value capacity :=
  match found : cache.entries.find? (fun entry => entry.1 = key) with
  | none => (none, cache)
  | some entry =>
      (some entry.2,
        { entries := (key, entry.2) :: cache.without key
          distinct := cache.distinct_cons_without key entry.2
          bounded := by
            have member := List.mem_of_find?_eq_some found
            have same := List.find?_some found
            have shorter :
                (cache.without key).length < cache.entries.length := by
              apply List.length_filter_lt_length_iff_exists.mpr
              exact ⟨entry, member, by simpa using same⟩
            exact Nat.le_trans shorter cache.bounded })

/-- Insert an entry, evicting the least recently used one if necessary. -/
def add (cache : Lru Key Value capacity) (key : Key) (value : Value) :
    Lru Key Value capacity where
  entries := ((key, value) :: cache.without key).take capacity
  distinct := by
    rw [List.map_take]
    exact (cache.distinct_cons_without key value).sublist
      (List.take_sublist _ _)
  bounded := by
    rw [List.length_take]
    exact Nat.min_le_left _ _

/-- Remove the entry of a key, if there is one. -/
def remove (cache : Lru Key Value capacity) (key : Key) :
    Lru Key Value capacity where
  entries := cache.without key
  distinct := cache.distinct.sublist ((cache.without_sublist key).map _)
  bounded :=
    Nat.le_trans (cache.without_sublist key).length_le cache.bounded

/-! ## What the operations keep -/

theorem mem_of_get
    {cache : Lru Key Value capacity} {key : Key} {value : Value}
    (found : (cache.get key).1 = some value) :
    (key, value) ∈ cache.entries := by
  unfold get at found
  split at found
  · cases found
  · rename_i entry located
    have same := List.find?_some located
    cases found
    rw [← of_decide_eq_true same]
    exact List.mem_of_find?_eq_some located

/-- A lookup only reorders entries. -/
theorem mem_get_entries
    {cache : Lru Key Value capacity} {key : Key} {entry : Key × Value}
    (member : entry ∈ (cache.get key).2.entries) :
    entry ∈ cache.entries := by
  unfold get at member
  split at member
  · exact member
  · rename_i located
    rcases List.mem_cons.mp member with rfl | member
    · have same := List.find?_some located
      rw [← of_decide_eq_true same]
      exact List.mem_of_find?_eq_some located
    · exact (cache.without_sublist key).mem member

theorem mem_add_entries
    {cache : Lru Key Value capacity} {key : Key} {value : Value}
    {entry : Key × Value}
    (member : entry ∈ (cache.add key value).entries) :
    entry = (key, value) ∨ entry ∈ cache.entries := by
  rcases List.mem_cons.mp (List.mem_of_mem_take member) with rfl | member
  · exact Or.inl rfl
  · exact Or.inr ((cache.without_sublist key).mem member)

theorem mem_remove_entries
    {cache : Lru Key Value capacity} {key : Key} {entry : Key × Value}
    (member : entry ∈ (cache.remove key).entries) :
    entry ∈ cache.entries :=
  (cache.without_sublist key).mem member

/-! ## A cache as a finite map -/

theorem without_of_absent
    {cache : Lru Key Value capacity} {key : Key}
    (absent : ∀ value, (key, value) ∉ cache.entries) :
    cache.without key = cache.entries := by
  apply List.filter_eq_self.mpr
  rintro ⟨other, value⟩ member
  apply decide_eq_true
  rintro rfl
  exact absent value member

/-- A lookup which misses changes nothing. -/
theorem get_of_absent
    {cache : Lru Key Value capacity} {key : Key}
    (absent : ∀ value, (key, value) ∉ cache.entries) :
    cache.get key = (none, cache) := by
  unfold get
  split
  · rfl
  · rename_i entry located
    have same := List.find?_some located
    have member := List.mem_of_find?_eq_some located
    rw [← of_decide_eq_true same] at absent
    exact (absent entry.2 member).elim

omit [DecidableEq Key] in
/-- A key has one value. -/
theorem value_unique
    {cache : Lru Key Value capacity} {key : Key} {first second : Value}
    (left : (key, first) ∈ cache.entries)
    (right : (key, second) ∈ cache.entries) :
    first = second := by
  have same :=
    List.inj_on_of_nodup_map cache.distinct left right rfl
  exact congrArg Prod.snd same

theorem get_of_mem
    {cache : Lru Key Value capacity} {key : Key} {value : Value}
    (member : (key, value) ∈ cache.entries) :
    (cache.get key).1 = some value := by
  cases found : (cache.get key).1 with
  | some other =>
      rw [value_unique (mem_of_get found) member]
  | none =>
      unfold get at found
      split at found
      · rename_i missed
        have different := List.find?_eq_none.mp missed _ member
        exact (different (by simp)).elim
      · cases found

/-- No entry is lost by a lookup. -/
theorem mem_get_entries_of_mem
    {cache : Lru Key Value capacity} (key : Key) {entry : Key × Value}
    (member : entry ∈ cache.entries) :
    entry ∈ (cache.get key).2.entries := by
  rcases entry with ⟨other, value⟩
  unfold get
  split
  · exact member
  · rename_i found located
    have same := List.find?_some located
    have present := List.mem_of_find?_eq_some located
    by_cases equal : other = key
    · rw [equal] at member ⊢
      have only : found.2 = value := by
        apply value_unique _ member
        rw [← of_decide_eq_true same]
        exact present
      rw [only]
      exact List.mem_cons_self
    · apply List.mem_cons_of_mem
      exact List.mem_filter.mpr ⟨member, by simp [equal]⟩

omit [DecidableEq Key] in
theorem entries_nodup (cache : Lru Key Value capacity) :
    cache.entries.Nodup :=
  cache.distinct.of_map _

/-- A lookup reorders the entries. -/
theorem get_entries_perm (cache : Lru Key Value capacity) (key : Key) :
    (cache.get key).2.entries.Perm cache.entries := by
  rw [List.perm_ext_iff_of_nodup (entries_nodup _) (entries_nodup _)]
  intro entry
  exact ⟨mem_get_entries, mem_get_entries_of_mem key⟩

/-- Adding a new key to a cache with room keeps all entries. -/
theorem add_entries_of_room
    {cache : Lru Key Value capacity} {key : Key} (value : Value)
    (absent : ∀ value, (key, value) ∉ cache.entries)
    (room : cache.entries.length < capacity) :
    (cache.add key value).entries = (key, value) :: cache.entries := by
  unfold add
  dsimp only
  rw [without_of_absent absent]
  apply List.take_of_length_le
  rw [List.length_cons]
  exact room

end Lru

end Pareader.Core
