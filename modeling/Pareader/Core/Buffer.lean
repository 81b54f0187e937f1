import Mathlib

/-!
# Byte buffers and fixed-size arrays

Variable-length buffers are lists of bytes.  Fixed-size arrays, such as the
fields of a record or a report of constant size, are vectors, so that their
length cannot be wrong.  `load` copies a fixed-size array out of a buffer and
`store` copies one into a larger array; both are characterised pointwise, which
is how every codec proof below proceeds.

Reading past the end of a list yields zero.  Every modelled read is guarded by
the length test of the source, so this value is never observed.
-/

namespace Pareader.Core

/-- One octet. -/
abbrev Byte := UInt8

/-- The byte at an index, zero outside the buffer. -/
def byteAt (buffer : List Byte) (index : Nat) : Byte :=
  buffer.getD index 0

/-- The `count` bytes from `offset` on. -/
def slice (buffer : List Byte) (offset count : Nat) : List Byte :=
  (buffer.drop offset).take count

/-- An array of zero bytes. -/
def zeros (size : Nat) : Vector Byte size :=
  Vector.replicate size 0

/-- Copy a fixed-size array out of a buffer. -/
def load (size : Nat) (buffer : List Byte) (offset : Nat) :
    Vector Byte size :=
  Vector.ofFn (fun index => byteAt buffer (offset + index))

/-- Copy a whole array into a larger one at an offset. -/
def store {size count : Nat}
    (target : Vector Byte size) (offset : Nat)
    (source : Vector Byte count) : Vector Byte size :=
  Vector.ofFn (fun index =>
    if offset ≤ index ∧ index < offset + count then
      byteAt source.toList (index - offset)
    else
      target[index])

/-! ## Pointwise reading -/

theorem byteAt_toList {size : Nat}
    (array : Vector Byte size) (index : Nat) :
    byteAt array.toList index =
      if inside : index < size then array[index] else 0 := by
  unfold byteAt
  rw [List.getD_eq_getElem?_getD]
  split
  · simp [*]
  · rw [List.getElem?_eq_none (by simp; omega)]
    rfl

theorem byteAt_toList_of_lt {size : Nat}
    (array : Vector Byte size) {index : Nat} (inside : index < size) :
    byteAt array.toList index = array[index] := by
  rw [byteAt_toList, dif_pos inside]

@[simp]
theorem getElem_zeros {size index : Nat} (inside : index < size) :
    (zeros size)[index] = 0 := by
  simp [zeros]

@[simp]
theorem getElem_load {size index : Nat}
    (buffer : List Byte) (offset : Nat) (inside : index < size) :
    (load size buffer offset)[index] =
      byteAt buffer (offset + index) := by
  simp [load]

theorem getElem_store {size count index : Nat}
    (target : Vector Byte size) (offset : Nat)
    (source : Vector Byte count) (inside : index < size) :
    (store target offset source)[index] =
      if offset ≤ index ∧ index < offset + count then
        byteAt source.toList (index - offset)
      else
        target[index] := by
  simp [store]

theorem load_zeros {size width : Nat} (offset : Nat) :
    load width (zeros size).toList offset = zeros width := by
  apply Vector.ext
  intro index inside
  rw [getElem_load, byteAt_toList, getElem_zeros]
  split
  · exact getElem_zeros _
  · rfl

/-- What was stored is loaded back. -/
theorem load_store_same {size count : Nat}
    (target : Vector Byte size) (offset : Nat)
    (source : Vector Byte count)
    (fits : offset + count ≤ size) :
    load count (store target offset source).toList offset = source := by
  apply Vector.ext
  intro index inside
  rw [getElem_load, byteAt_toList_of_lt _ (by omega), getElem_store,
    if_pos (by omega), byteAt_toList_of_lt _ (by omega)]
  simp

/-- A store further on is not seen by a load. -/
theorem load_store_before {size count width : Nat}
    (target : Vector Byte size) (offset : Nat)
    (source : Vector Byte count) (first : Nat)
    (before : first + width ≤ offset) (fits : first + width ≤ size) :
    load width (store target offset source).toList first =
      load width target.toList first := by
  apply Vector.ext
  intro index inside
  rw [getElem_load, getElem_load, byteAt_toList_of_lt _ (by omega),
    byteAt_toList_of_lt _ (by omega), getElem_store, if_neg (by omega)]

/-- An array is loaded back from where it stands in a buffer. -/
theorem load_append {size : Nat}
    (front : List Byte) (array : Vector Byte size) (rest : List Byte) :
    load size (front ++ array.toList ++ rest) front.length = array := by
  apply Vector.ext
  intro index inside
  have within : index < array.toList.length := by simpa using inside
  rw [getElem_load, byteAt, List.append_assoc,
    List.getD_append_right _ _ _ _ (Nat.le_add_right _ _),
    Nat.add_sub_cancel_left, List.getD_append _ _ _ _ within]
  exact byteAt_toList_of_lt array inside

/-- An octet which stands in a loaded buffer is replaced in the buffer. -/
theorem set_load {size index : Nat}
    (buffer : List Byte) (value : Byte) (inside : index < size)
    (present : index < buffer.length) :
    (load size buffer 0).set index value =
      load size (buffer.set index value) 0 := by
  apply Vector.ext
  intro other within
  rw [Vector.getElem_set, getElem_load, getElem_load, byteAt, byteAt,
    Nat.zero_add, List.getD_eq_getElem?_getD, List.getD_eq_getElem?_getD,
    List.getElem?_set]
  rw [if_pos present]
  split <;> rfl

/-! ## One octet of a buffer -/

theorem byteAt_set_self
    {buffer : List Byte} {index : Nat} (inside : index < buffer.length)
    (value : Byte) :
    byteAt (buffer.set index value) index = value := by
  rw [byteAt, List.getD_eq_getElem?_getD, List.getElem?_set_self inside]
  rfl

theorem byteAt_set_of_ne
    (buffer : List Byte) {index other : Nat} (different : index ≠ other)
    (value : Byte) :
    byteAt (buffer.set index value) other = byteAt buffer other := by
  rw [byteAt, byteAt, List.getD_eq_getElem?_getD,
    List.getD_eq_getElem?_getD, List.getElem?_set_ne different]

theorem byteAt_slice
    (buffer : List Byte) (offset : Nat) {index count : Nat}
    (inside : index < count) :
    byteAt (slice buffer offset count) index =
      byteAt buffer (offset + index) := by
  rw [byteAt, byteAt, slice, List.getD_eq_getElem?_getD,
    List.getD_eq_getElem?_getD, List.getElem?_take, if_pos inside,
    List.getElem?_drop]

/-- A slice with one octet more. -/
theorem slice_succ
    {buffer : List Byte} {offset count : Nat}
    (inside : offset + count < buffer.length) :
    slice buffer offset (count + 1) =
      slice buffer offset count ++ [byteAt buffer (offset + count)] := by
  rw [slice, slice, List.take_add_one, List.getElem?_drop, byteAt,
    List.getD_eq_getElem?_getD, List.getElem?_eq_getElem inside]
  rfl

theorem slice_set
    (buffer : List Byte) (offset count index : Nat) (value : Byte) :
    slice (buffer.set (offset + index) value) offset count =
      (slice buffer offset count).set index value := by
  rw [slice, slice, List.drop_set, if_neg (by omega),
    Nat.add_sub_cancel_left, List.take_set]

/-- A sum of octets notices every change of a single one. -/
theorem eq_byteAt_of_sum_set
    {buffer : List Byte} {index : Nat} (inside : index < buffer.length)
    {value : Byte} (same : (buffer.set index value).sum = buffer.sum) :
    value = byteAt buffer index := by
  rw [List.sum_set', dif_pos inside] at same
  have old : byteAt buffer index = buffer[index] := by
    rw [byteAt, List.getD_eq_getElem?_getD,
      List.getElem?_eq_getElem inside]
    rfl
  rw [old]
  exact (neg_add_eq_zero.mp (add_eq_left.mp same)).symm

/-! ## Little-endian words -/

/-- The 16-bit word with the given low and high octets. -/
def le16 (low high : Byte) : UInt16 :=
  low.toUInt16 ||| (high.toUInt16 <<< 8)

theorem toNat_le16 (low high : Byte) :
    (le16 low high).toNat = low.toNat + 256 * high.toNat := by
  have lowBound := low.toNat_lt
  have highBound := high.toNat_lt
  have shifted :
      high.toNat <<< (UInt16.toNat 8 % 16) % 2 ^ 16 =
        2 ^ 8 * high.toNat := by
    have width : UInt16.toNat 8 % 16 = 8 := rfl
    rw [width, Nat.shiftLeft_eq]
    omega
  have disjoint :=
    Nat.two_pow_add_eq_or_of_lt lowBound high.toNat
  simp only [le16, UInt16.toNat_or, UInt16.toNat_shiftLeft,
    UInt8.toNat_toUInt16]
  rw [shifted, Nat.or_comm]
  omega

@[simp]
theorem le16_eq_zero_iff (low high : Byte) :
    le16 low high = 0 ↔ low = 0 ∧ high = 0 := by
  rw [← UInt16.toNat_inj, toNat_le16, ← UInt8.toNat_inj,
    ← UInt8.toNat_inj]
  simp only [UInt16.toNat_ofNat, UInt8.toNat_ofNat]
  omega

/-- A word is made of its own octets. -/
@[simp]
theorem le16_toUInt8 (value : UInt16) :
    le16 value.toUInt8 (value >>> 8).toUInt8 = value := by
  have bound := value.toNat_lt
  have width : UInt16.toNat 8 % 16 = 8 := rfl
  apply UInt16.toNat_inj.mp
  rw [toNat_le16, UInt16.toNat_toUInt8, UInt16.toNat_toUInt8,
    UInt16.toNat_shiftRight, width, Nat.shiftRight_eq_div_pow]
  omega

/-! ## Big-endian words -/

/-- The number written by a byte string, most significant octet first. -/
def bigEndianValue (bytes : List Byte) : Nat :=
  bytes.foldl (fun value byte => 256 * value + byte.toNat) 0

/-- Append one octet to a 64-bit word. -/
def shiftIn (value : UInt64) (byte : Byte) : UInt64 :=
  (value <<< 8) ||| byte.toUInt64

/-- The 64-bit word with the given octets, most significant first. -/
def be64 (bytes : Vector Byte 8) : UInt64 :=
  bytes.toList.foldl shiftIn 0

theorem toNat_shiftIn
    (value : UInt64) (byte : Byte) (small : value.toNat < 256 ^ 7) :
    (shiftIn value byte).toNat = 256 * value.toNat + byte.toNat := by
  have byteBound := byte.toNat_lt
  have shifted :
      value.toNat <<< (UInt64.toNat 8 % 64) % 2 ^ 64 =
        2 ^ 8 * value.toNat := by
    have width : UInt64.toNat 8 % 64 = 8 := rfl
    rw [width, Nat.shiftLeft_eq]
    omega
  have disjoint :=
    Nat.two_pow_add_eq_or_of_lt byteBound value.toNat
  simp only [shiftIn, UInt64.toNat_or, UInt64.toNat_shiftLeft,
    UInt8.toNat_toUInt64]
  rw [shifted]
  omega

private theorem toNat_foldl_shiftIn
    (bytes : List Byte) (value : UInt64) (bound : Nat)
    (small : value.toNat < 256 ^ bound)
    (fits : bound + bytes.length ≤ 8) :
    (bytes.foldl shiftIn value).toNat =
      bytes.foldl (fun value byte => 256 * value + byte.toNat)
        value.toNat := by
  induction bytes generalizing value bound with
  | nil => rfl
  | cons byte rest induction =>
      simp only [List.length_cons] at fits
      have capped : 256 ^ bound ≤ 256 ^ 7 :=
        Nat.pow_le_pow_right (by decide) (by omega)
      have stepped := toNat_shiftIn value byte (by omega)
      have byteBound := byte.toNat_lt
      rw [List.foldl_cons, List.foldl_cons, ← stepped]
      apply induction _ (bound + 1)
      · rw [stepped, Nat.pow_succ]
        omega
      · omega

theorem toNat_be64 (bytes : Vector Byte 8) :
    (be64 bytes).toNat = bigEndianValue bytes.toList := by
  apply toNat_foldl_shiftIn bytes.toList 0 0
  · decide
  · simp

end Pareader.Core
