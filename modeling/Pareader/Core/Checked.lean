import Pareader.Core.Buffer
import Pareader.Core.Interaction

/-!
# Checked array accesses

A C function works on arrays of constant size and trusts its own indices.  Here
an array is a list which keeps its length, and every access states its bounds:
an index or a copy outside of the array is a fault, and so is a length which
does not fit the octet it is stored in.

Most arrays are filled from the front.  `Buffered` says what an array of a given
size starts with, and each rule for it turns one access into an access which
does not fault.

A driver which may fault is compared with one which has no arrays at all.
`Refines` says that it never faults, sends the same queries and ends with a
related result; the rules follow the shape of the program.
-/

namespace Pareader.Core

/-- What can go wrong in an access. -/
inductive Fault where
  | outOfBounds (index size : Nat)
  | truncated (value : Nat)
deriving DecidableEq, Repr

/-- A computation which faults at its first bad access. -/
abbrev Checked (α : Type) := Except Fault α

namespace Checked

/-- `array[index]` -/
def readAt (array : List Byte) (index : Nat) : Checked Byte :=
  if index < array.length then
    .ok (byteAt array index)
  else
    .error (.outOfBounds index array.length)

/-- `array[index] = value` -/
def writeAt (array : List Byte) (index : Nat) (value : Byte) :
    Checked (List Byte) :=
  if index < array.length then
    .ok (array.set index value)
  else
    .error (.outOfBounds index array.length)

/-- The `count` octets behind `&array[offset]`. -/
def viewOf (array : List Byte) (offset count : Nat) :
    Checked (List Byte) :=
  if offset + count ≤ array.length then
    .ok (slice array offset count)
  else
    .error (.outOfBounds (offset + count) array.length)

/-- `memcpy` of all octets of a view to `&target[offset]`. -/
def copyTo (target : List Byte) (offset : Nat) (source : List Byte) :
    Checked (List Byte) :=
  if offset + source.length ≤ target.length then
    .ok (target.take offset ++ source ++
      target.drop (offset + source.length))
  else
    .error (.outOfBounds (offset + source.length) target.length)

/-- A cast to `uint8_t` which is meant to keep the value. -/
def narrow (value : Nat) : Checked Byte :=
  if value < 256 then
    .ok (UInt8.ofNat value)
  else
    .error (.truncated value)

/-- Add up `count` octets from an offset on. -/
def sumFrom (array : List Byte) :
    (offset count : Nat) → (sum : Byte) → Checked Byte
  | _, 0, sum => .ok sum
  | offset, count + 1, sum => do
      let value ← readAt array offset
      sumFrom array (offset + 1) count (sum + value)

/-- Copy a fixed-size array out of an array. -/
def loadFrom (size : Nat) (array : List Byte) (offset : Nat) :
    Checked (Vector Byte size) :=
  if offset + size ≤ array.length then
    .ok (load size array offset)
  else
    .error (.outOfBounds (offset + size) array.length)

@[simp]
theorem ok_bind {α β : Type} (value : α) (next : α → Checked β) :
    ((.ok value : Checked α) >>= next) = next value :=
  rfl

theorem readAt_eq {array : List Byte} {index : Nat}
    (inside : index < array.length) :
    readAt array index = .ok (byteAt array index) :=
  if_pos inside

theorem viewOf_eq {array : List Byte} {offset count : Nat}
    (inside : offset + count ≤ array.length) :
    viewOf array offset count = .ok (slice array offset count) :=
  if_pos inside

theorem narrow_eq {value : Nat} (small : value < 256) :
    narrow value = .ok (UInt8.ofNat value) :=
  if_pos small

theorem loadFrom_eq {size : Nat} {array : List Byte} {offset : Nat}
    (inside : offset + size ≤ array.length) :
    loadFrom size array offset = .ok (load size array offset) :=
  if_pos inside

/-- A view of a whole array. -/
theorem viewOf_whole {array : List Byte} {count : Nat}
    (whole : array.length = count) : viewOf array 0 count = .ok array := by
  rw [viewOf_eq (by omega), slice, List.drop_zero,
    List.take_of_length_le (by omega)]

/-- A copy which fills the whole array. -/
theorem copyTo_whole {target source : List Byte}
    (same : source.length = target.length) :
    copyTo target 0 source = .ok source := by
  rw [copyTo, if_pos (by omega), List.take_zero, List.nil_append,
    List.drop_of_length_le (by omega), List.append_nil]

/-- A slice and its first octet. -/
theorem slice_cons {array : List Byte} {offset : Nat}
    (inside : offset < array.length) (count : Nat) :
    slice array offset (count + 1) =
      byteAt array offset :: slice array (offset + 1) count := by
  rw [slice, List.drop_eq_getElem_cons inside, List.take_succ_cons, slice,
    byteAt, List.getD_eq_getElem?_getD, List.getElem?_eq_getElem inside]
  rfl

theorem sumFrom_eq {array : List Byte} {offset count : Nat}
    (inside : offset + count ≤ array.length) (sum : Byte) :
    sumFrom array offset count sum =
      .ok (sum + (slice array offset count).sum) := by
  induction count generalizing offset sum with
  | zero => simp [sumFrom, slice]
  | succ count induction =>
      rw [sumFrom, readAt_eq (by omega), ok_bind,
        induction (by omega), slice_cons (by omega), List.sum_cons,
        UInt8.add_assoc]

end Checked

/-! ## Arrays filled from the front -/

/-- An array of this size which starts with this content. -/
structure Buffered (size : Nat) (content array : List Byte) : Prop where
  length : array.length = size
  starts : content <+: array

namespace Buffered

variable {size : Nat} {content array : List Byte}

/-- Nothing is known of the octets of an array. -/
theorem any (array : List Byte) : Buffered array.length [] array :=
  ⟨rfl, List.nil_prefix⟩

theorem zeros (size : Nat) : Buffered size [] (List.replicate size 0) :=
  ⟨List.length_replicate, List.nil_prefix⟩

theorem length_le (buffered : Buffered size content array) :
    content.length ≤ size := by
  rw [← buffered.length]
  exact buffered.starts.length_le

/-- Write the next octet. -/
theorem write (buffered : Buffered size content array) (value : Byte)
    {index : Nat} (next : content.length = index) (room : index < size) :
    ∃ written, Checked.writeAt array index value = .ok written ∧
      Buffered size (content ++ [value]) written := by
  subst next
  have inside : content.length < array.length := by
    rw [buffered.length]
    exact room
  refine ⟨array.set content.length value, if_pos inside, ?_, ?_⟩
  · rw [List.length_set, buffered.length]
  · rcases buffered.starts with ⟨rest, rfl⟩
    rw [List.set_append_right _ _ (Nat.le_refl _), Nat.sub_self]
    cases rest with
    | nil => simp at inside
    | cons first rest =>
        refine ⟨rest, ?_⟩
        rw [List.append_assoc]
        rfl

/-- Copy further octets behind the content. -/
theorem copy (buffered : Buffered size content array) (source : List Byte)
    {offset : Nat} (next : content.length = offset)
    (room : offset + source.length ≤ size) :
    ∃ copied, Checked.copyTo array offset source = .ok copied ∧
      Buffered size (content ++ source) copied := by
  subst next
  have inside : content.length + source.length ≤ array.length := by
    rw [buffered.length]
    exact room
  refine ⟨_, if_pos inside, ?_, ?_⟩
  · simp only [List.length_append, List.length_take, List.length_drop]
    rw [← buffered.length]
    omega
  · rcases buffered.starts with ⟨rest, rfl⟩
    rw [List.take_left]
    exact List.prefix_append _ _

/-- Inside the content the array has the octets of the content. -/
theorem byteAt_eq (buffered : Buffered size content array) {index : Nat}
    (inside : index < content.length) :
    byteAt array index = byteAt content index := by
  rcases buffered.starts with ⟨rest, rfl⟩
  rw [byteAt, byteAt, List.getD_append _ _ _ _ inside]

theorem read (buffered : Buffered size content array) {index : Nat}
    (inside : index < content.length) :
    Checked.readAt array index = .ok (byteAt content index) := by
  have bound := buffered.starts.length_le
  rw [Checked.readAt_eq (by omega), buffered.byteAt_eq inside]

theorem loadFrom (buffered : Buffered size content array)
    {width offset : Nat} (inside : offset + width ≤ content.length) :
    Checked.loadFrom width array offset =
      .ok (load width content offset) := by
  have bound := buffered.starts.length_le
  rw [Checked.loadFrom_eq (by omega)]
  congr 1
  apply Vector.ext
  intro index within
  rw [getElem_load, getElem_load, buffered.byteAt_eq (by omega)]

theorem slice_eq (buffered : Buffered size content array)
    {offset count : Nat} (inside : offset + count ≤ content.length) :
    slice array offset count = slice content offset count := by
  rcases buffered.starts with ⟨rest, rfl⟩
  rw [slice, slice, List.drop_append_of_le_length (by omega),
    List.take_append_of_le_length (by rw [List.length_drop]; omega)]

/-- An array also starts with a part of its content. -/
theorem take (buffered : Buffered size content array) (count : Nat) :
    Buffered size (content.take count) array :=
  ⟨buffered.length, (List.take_prefix count content).trans buffered.starts⟩

theorem take_eq (buffered : Buffered size content array) {count : Nat}
    (whole : content.length = count) : array.take count = content := by
  rw [← whole]
  exact (List.prefix_iff_eq_take.mp buffered.starts).symm

/-- The whole content is a view of the array. -/
theorem view (buffered : Buffered size content array) {count : Nat}
    (whole : content.length = count) :
    Checked.viewOf array 0 count = .ok content := by
  have bound := buffered.starts.length_le
  rw [Checked.viewOf_eq (by omega), slice, List.drop_zero,
    buffered.take_eq whole]

end Buffered

/-! ## Drivers which may fault -/

/-- An interaction some of whose accesses may fault. -/
abbrev Guarded (Query Reply : Type) := ExceptT Fault (Interaction Query Reply)

namespace Guarded

variable {Query Reply α β γ δ : Type}

/-- A part which makes no access. -/
def lift (plain : Interaction Query Reply α) : Guarded Query Reply α :=
  ExceptT.mk (plain >>= fun result => .done (.ok result))

/-- Send one query. -/
def send (query : Query) : Guarded Query Reply Reply :=
  ExceptT.mk (.ask query (fun reply => .done (.ok reply)))

/--
The driver never faults, sends the queries of the plain program and ends with a
related result.
-/
structure Refines (relation : α → β → Prop)
    (guarded : Guarded Query Reply α) (plain : Interaction Query Reply β) :
    Prop where
  matched : Interaction.Matches
    (fun result value => ∃ found, result = .ok found ∧ relation found value)
    guarded.run plain

theorem Refines.done {relation : α → β → Prop} {value : α} {plain : β}
    (related : relation value plain) :
    Refines relation (pure value : Guarded Query Reply α) (.done plain) :=
  ⟨⟨value, rfl, related⟩⟩

/-- A part which makes no access does not fault. -/
theorem Refines.lift (plain : Interaction Query Reply α) :
    Refines Eq (Guarded.lift plain) plain := by
  refine ⟨?_⟩
  induction plain with
  | done result => exact ⟨result, rfl, rfl⟩
  | ask query resume induction => exact ⟨rfl, induction⟩

/-- An access which does not fault is passed over. -/
theorem Refines.check
    {relation : β → γ → Prop} {access : Checked α} {value : α}
    {next : α → Guarded Query Reply β} {plain : Interaction Query Reply γ}
    (inside : access = .ok value)
    (refines : Refines relation (next value) plain) :
    Refines relation (liftM access >>= next) plain := by
  subst inside
  exact ⟨refines.matched⟩

/-- The program ends with an access which does not fault. -/
theorem Refines.checkDone
    {relation : α → β → Prop} {access : Checked α} {value : α} {plain : β}
    (inside : access = .ok value) (related : relation value plain) :
    Refines relation (liftM access : Guarded Query Reply α)
      (.done plain) := by
  subst inside
  exact ⟨⟨value, rfl, related⟩⟩

/-- Sequencing rule. -/
theorem Refines.bind
    {relation : α → β → Prop} {target : γ → δ → Prop}
    {first : Guarded Query Reply α} {plain : Interaction Query Reply β}
    {next : α → Guarded Query Reply γ}
    {plainNext : β → Interaction Query Reply δ}
    (refines : Refines relation first plain)
    (continues : ∀ value found, relation value found →
      Refines target (next value) (plainNext found)) :
    Refines target (first >>= next) (plain >>= plainNext) := by
  refine ⟨Interaction.Matches.bind refines.matched ?_⟩
  rintro _ found ⟨value, rfl, related⟩
  exact (continues value found related).matched

/-- Both programs send the same query. -/
theorem Refines.send
    {relation : α → β → Prop} {query : Query}
    {next : Reply → Guarded Query Reply α}
    {plainNext : Reply → Interaction Query Reply β}
    (continues : ∀ reply, Refines relation (next reply) (plainNext reply)) :
    Refines relation (Guarded.send query >>= next)
      (.ask query plainNext) :=
  ⟨⟨rfl, fun reply => (continues reply).matched⟩⟩

/-- In every world the driver ends without a fault. -/
theorem Refines.run
    {relation : α → β → Prop} {guarded : Guarded Query Reply α}
    {plain : Interaction Query Reply β}
    (refines : Refines relation guarded plain)
    (world : Interaction.World Query Reply) :
    ∃ found, Interaction.run world guarded.run = .ok found ∧
      relation found (plain.run world) :=
  refines.matched.run world

end Guarded

end Pareader.Core
