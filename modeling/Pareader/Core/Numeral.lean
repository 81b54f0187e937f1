import Mathlib

/-!
# Positional numerals

An alphabet gives every digit below its base a symbol, and may read several
symbols as one digit.  Numbers are written with a fixed number of digits, the
most significant one first, and read with any number of them.

Numbers below a limit can be read without ever exceeding it: since a numeral
only grows with every digit, giving up at the first excess rejects exactly the
numerals whose value is too large.
-/

namespace Pareader.Core

/-- Digits and their symbols. -/
structure Alphabet (Symbol : Type) where
  base : Nat
  digit : Symbol → Option Nat
  symbol : Nat → Symbol
  positive : 0 < base
  reads : ∀ value, value < base → digit (symbol value) = some value

namespace Alphabet

variable {Symbol : Type} (alphabet : Alphabet Symbol)

/-! ## Reading -/

/-- Continue to read, after digits which denote `total`. -/
def readFrom (total : Nat) : List Symbol → Option Nat
  | [] => some total
  | symbol :: rest =>
      (alphabet.digit symbol).bind (fun value =>
        readFrom (total * alphabet.base + value) rest)

/-- The number which the digits denote. -/
def read (symbols : List Symbol) : Option Nat :=
  alphabet.readFrom 0 symbols

theorem readFrom_append (total : Nat) (left right : List Symbol) :
    alphabet.readFrom total (left ++ right) =
      (alphabet.readFrom total left).bind
        (alphabet.readFrom · right) := by
  induction left generalizing total with
  | nil => rfl
  | cons symbol rest induction =>
      rw [List.cons_append, readFrom, readFrom, Option.bind_assoc]
      refine congrArg _ ?_
      ext value : 1
      exact induction _

/-- A numeral does not shrink with further digits. -/
theorem le_of_readFrom
    {total number : Nat} {symbols : List Symbol}
    (denotes : alphabet.readFrom total symbols = some number) :
    total ≤ number := by
  induction symbols generalizing total with
  | nil =>
      cases denotes
      exact Nat.le_refl _
  | cons symbol rest induction =>
      rcases Option.bind_eq_some_iff.mp denotes with ⟨value, -, continued⟩
      have grown := induction continued
      have scaled : total ≤ total * alphabet.base :=
        Nat.le_mul_of_pos_right total alphabet.positive
      omega

/-- A numeral consists of digits only. -/
theorem isSome_of_readFrom
    {total number : Nat} {symbols : List Symbol}
    (denotes : alphabet.readFrom total symbols = some number)
    (symbol : Symbol) (member : symbol ∈ symbols) :
    (alphabet.digit symbol).isSome = true := by
  induction symbols generalizing total with
  | nil => cases member
  | cons first rest induction =>
      rcases Option.bind_eq_some_iff.mp denotes with ⟨value, digit, continued⟩
      rcases List.mem_cons.mp member with here | there
      · rw [here, digit, Option.isSome_some]
      · exact induction continued there

/-! ## Reading below a limit -/

/-- Why a numeral is rejected. -/
inductive Rejection where
  | symbol
  | excess
deriving DecidableEq, Repr

/-- Continue to read, and give up when the limit is reached. -/
def readBelow (limit : Nat) (total : Nat) :
    List Symbol → Except Rejection Nat
  | [] => .ok total
  | symbol :: rest =>
      match alphabet.digit symbol with
      | none => .error .symbol
      | some value =>
          if total * alphabet.base + value < limit then
            readBelow limit (total * alphabet.base + value) rest
          else
            .error .excess

/-- Giving up early rejects no numeral below the limit. -/
theorem readBelow_iff
    {limit total : Nat} (below : total < limit)
    (symbols : List Symbol) (number : Nat) :
    alphabet.readBelow limit total symbols = .ok number ↔
      alphabet.readFrom total symbols = some number ∧ number < limit := by
  induction symbols generalizing total with
  | nil =>
      rw [readBelow, readFrom, Except.ok.injEq, Option.some.injEq]
      constructor
      · rintro rfl
        exact ⟨rfl, below⟩
      · exact And.left
  | cons symbol rest induction =>
      rw [readBelow, readFrom]
      cases alphabet.digit symbol with
      | none =>
          constructor
          · intro impossible
            cases impossible
          · rintro ⟨impossible, -⟩
            cases impossible
      | some value =>
          rw [Option.bind_some]
          dsimp only
          split
          · rename_i inside
            exact induction inside
          · rename_i outside
            constructor
            · intro impossible
              cases impossible
            · rintro ⟨denotes, small⟩
              have grown := alphabet.le_of_readFrom denotes
              omega

/-! ## Writing -/

/-- Write a number with a fixed number of digits. -/
def write : Nat → Nat → List Symbol
  | 0, _ => []
  | width + 1, number =>
      write width (number / alphabet.base) ++
        [alphabet.symbol (number % alphabet.base)]

@[simp]
theorem length_write (width number : Nat) :
    (alphabet.write width number).length = width := by
  induction width generalizing number with
  | zero => rfl
  | succ width induction =>
      rw [write, List.length_append, induction, List.length_singleton]

theorem read_write (width number : Nat)
    (fits : number < alphabet.base ^ width) :
    alphabet.read (alphabet.write width number) = some number := by
  induction width generalizing number with
  | zero =>
      rw [pow_zero, Nat.lt_one_iff] at fits
      rw [fits]
      rfl
  | succ width induction =>
      have small := Nat.mod_lt number alphabet.positive
      have fewer : number / alphabet.base < alphabet.base ^ width := by
        rw [Nat.div_lt_iff_lt_mul alphabet.positive, ← pow_succ]
        exact fits
      have front := induction _ fewer
      unfold read at front ⊢
      rw [write, readFrom_append, front, Option.bind_some, readFrom,
        alphabet.reads _ small, Option.bind_some, readFrom,
        Nat.div_add_mod']

/-- Numbers which fit are told apart. -/
theorem write_injective {width left right : Nat}
    (fitsLeft : left < alphabet.base ^ width)
    (fitsRight : right < alphabet.base ^ width)
    (same : alphabet.write width left = alphabet.write width right) :
    left = right := by
  have denotes := alphabet.read_write width left fitsLeft
  rw [same, alphabet.read_write width right fitsRight] at denotes
  exact (Option.some.inj denotes).symm

/-- Write numbers one after another, all with the same number of digits. -/
def writeAll (width : Nat) (numbers : List Nat) : List Symbol :=
  numbers.flatMap (alphabet.write width)

/-- Sequences of the same length are told apart without separators. -/
theorem writeAll_injective {width : Nat} {left right : List Nat}
    (fitsLeft : ∀ number ∈ left, number < alphabet.base ^ width)
    (fitsRight : ∀ number ∈ right, number < alphabet.base ^ width)
    (sized : left.length = right.length)
    (same : alphabet.writeAll width left = alphabet.writeAll width right) :
    left = right := by
  induction left generalizing right with
  | nil => exact (List.length_eq_zero_iff.mp sized.symm).symm
  | cons first rest induction =>
      cases right with
      | nil => cases sized
      | cons other others =>
          rw [writeAll, writeAll, List.flatMap_cons, List.flatMap_cons] at same
          rcases List.append_inj same (by simp) with ⟨heads, tails⟩
          have equal := alphabet.write_injective
            (fitsLeft first List.mem_cons_self)
            (fitsRight other List.mem_cons_self) heads
          have remaining := induction
            (fun number member =>
              fitsLeft number (List.mem_cons_of_mem _ member))
            (fun number member =>
              fitsRight number (List.mem_cons_of_mem _ member))
            (Nat.succ.inj sized) tails
          rw [equal, remaining]

end Alphabet

end Pareader.Core
