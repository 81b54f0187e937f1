import Pareader.Core.Numeral

/-!
# Configuration

Vendor and product IDs are given as hexadecimal texts, in the environment of the
library and as flags of the reader program.  Texts are lists of characters; the
environment is a function from names to texts, empty for a variable which is
not set; and reading a duration is left to the standard library.
-/

namespace Pareader.Host.Configuration

open Pareader.Core

/-! ## Texts -/

/-- `unicode.IsSpace` -/
def isSpace (symbol : Char) : Bool :=
  symbol.toNat ∈
    [0x09, 0x0A, 0x0B, 0x0C, 0x0D, 0x20, 0x85, 0xA0, 0x1680, 0x2028, 0x2029,
      0x202F, 0x205F, 0x3000] ||
  (0x2000 ≤ symbol.toNat && symbol.toNat ≤ 0x200A)

/-- `strings.TrimSpace` -/
def trimSpace (text : List Char) : List Char :=
  (text.dropWhile isSpace).rdropWhile isSpace

/-- `strings.TrimPrefix` -/
def trimPrefix (text start : List Char) : List Char :=
  if start.isPrefixOf text then text.drop start.length else text

/-! ## Hexadecimal digits -/

/-- The digit which `strconv.ParseUint` reads. -/
def hexDigit (symbol : Char) : Option Nat :=
  if 48 ≤ symbol.toNat ∧ symbol.toNat ≤ 57 then
    some (symbol.toNat - 48)
  else if 97 ≤ symbol.toNat ∧ symbol.toNat ≤ 102 then
    some (symbol.toNat - 87)
  else if 65 ≤ symbol.toNat ∧ symbol.toNat ≤ 70 then
    some (symbol.toNat - 55)
  else
    none

/-- The upper-case digit which `fmt` prints. -/
def hexSymbol (value : Nat) : Char :=
  Char.ofNat (if value < 10 then 48 + value else 55 + value)

def hexadecimal : Alphabet Char where
  base := 16
  digit := hexDigit
  symbol := hexSymbol
  positive := by decide
  reads := by decide

/-- `strconv.ParseUint` with base 16. -/
def parseUint (text : List Char) (bitSize : Nat) :
    Except Alphabet.Rejection Nat :=
  if text = [] then
    .error .symbol
  else
    hexadecimal.readBelow (2 ^ bitSize) 0 text

/-! ## The environment -/

inductive ConfigError where
  | invalidVendorID
  | invalidProductID
  | invalidTimeout
  | invalidHexID
deriving DecidableEq, Repr

def ConfigError.code : ConfigError → String
  | .invalidVendorID => "E0101"
  | .invalidProductID => "E0102"
  | .invalidTimeout => "E0103"
  | .invalidHexID => "E0104"

structure DeviceConfig where
  vendorID : UInt16
  productID : UInt16
  usagePage : UInt16
  usage : UInt16
  serial : List Char
deriving DecidableEq, Repr

structure Config where
  device : DeviceConfig
  timeout : Int
deriving DecidableEq, Repr

def defaultUsagePage : UInt16 := 0xFF50
def defaultUsage : UInt16 := 0x0001
def defaultVendorID : UInt16 := 0x5041
def defaultProductID : UInt16 := 0x5245

def parseUint16 (value : List Char) : Except ConfigError UInt16 :=
  let value := trimSpace value
  let value := trimPrefix (trimPrefix value ['0', 'x']) ['0', 'X']
  match parseUint value 16 with
  | .error _ => .error .invalidHexID
  | .ok parsed => .ok (UInt16.ofNat parsed)

def environment (getenv : String → List Char) (key : String)
    (fallback : List Char) : List Char :=
  if getenv key ≠ [] then getenv key else fallback

/-- `FromEnvironment`; durations are nanoseconds. -/
def fromEnvironment (parseDuration : List Char → Option Int)
    (getenv : String → List Char) : Except ConfigError Config :=
  match parseUint16 (environment getenv "PAREADER_VID" ['5', '0', '4', '1']) with
  | .error _ => .error .invalidVendorID
  | .ok vendorID =>
      match
        parseUint16 (environment getenv "PAREADER_PID" ['5', '2', '4', '5']) with
      | .error _ => .error .invalidProductID
      | .ok productID =>
          match
            parseDuration (environment getenv "PAREADER_TIMEOUT" ['1', 's']) with
          | none => .error .invalidTimeout
          | some timeout =>
              .ok
                { device :=
                    { vendorID := vendorID
                      productID := productID
                      usagePage := defaultUsagePage
                      usage := defaultUsage
                      serial := getenv "PAREADER_SERIAL" }
                  timeout := timeout }

/-- The device which the flags of the reader program select. -/
def readerConfig (vidText pidText serial : List Char) :
    Except ConfigError DeviceConfig :=
  match parseUint16 vidText with
  | .error _ => .error .invalidVendorID
  | .ok vid =>
      match parseUint16 pidText with
      | .error _ => .error .invalidProductID
      | .ok pid =>
          .ok
            { vendorID := vid
              productID := pid
              usagePage := defaultUsagePage
              usage := defaultUsage
              serial := serial }

/-! ## Trimming -/

theorem exists_trimSpace (text : List Char) :
    ∃ left right, text = left ++ trimSpace text ++ right ∧
      (∀ symbol ∈ left, isSpace symbol = true) ∧
      ∀ symbol ∈ right, isSpace symbol = true := by
  refine ⟨text.takeWhile isSpace, (text.dropWhile isSpace).rtakeWhile isSpace,
    ?_, ?_, ?_⟩
  · rw [List.append_assoc, trimSpace, List.rdropWhile_append_rtakeWhile,
      List.takeWhile_append_dropWhile]
  · exact fun symbol member => List.mem_takeWhile_imp member
  · exact fun symbol member => List.mem_rtakeWhile_imp member

/-- Spaces around a text without spaces are trimmed, and nothing else. -/
theorem trimSpace_append
    {left body right : List Char}
    (before : ∀ symbol ∈ left, isSpace symbol = true)
    (inside : ∀ symbol ∈ body, isSpace symbol = false)
    (after : ∀ symbol ∈ right, isSpace symbol = true)
    (present : body ≠ []) :
    trimSpace (left ++ body ++ right) = body := by
  have front : (left ++ body ++ right).dropWhile isSpace = body ++ right := by
    rw [List.append_assoc, List.dropWhile_append_of_pos before]
    cases body with
    | nil => exact (present rfl).elim
    | cons first rest =>
        have visible := inside first List.mem_cons_self
        rw [List.cons_append, List.dropWhile_cons, visible]
        rfl
  rw [trimSpace, front]
  clear front
  induction right using List.reverseRecOn with
  | nil =>
      rw [List.append_nil, List.rdropWhile_eq_self_iff]
      intro nonempty
      rw [inside _ (List.getLast_mem nonempty)]
      exact Bool.false_ne_true
  | append_singleton rest last induction =>
      rw [← List.append_assoc, List.rdropWhile_concat_pos _ _ _
        (after last (by simp))]
      exact induction (fun symbol member => after symbol (by simp [member]))

/-! ## Prefixes -/

/-- The texts which may stand before the digits. -/
def markers : List (List Char) :=
  [[], ['0', 'x'], ['0', 'X'], ['0', 'x', '0', 'X']]

/-- What `parseUint16` leaves of a trimmed text. -/
def strip (text : List Char) : List Char :=
  trimPrefix (trimPrefix text ['0', 'x']) ['0', 'X']

theorem trimPrefix_cases (text start : List Char) :
    text = start ++ trimPrefix text start ∨ trimPrefix text start = text := by
  unfold trimPrefix
  split
  · rename_i begins
    rcases List.isPrefixOf_iff_prefix.mp begins with ⟨rest, rfl⟩
    rw [List.drop_left]
    exact Or.inl rfl
  · exact Or.inr rfl

theorem exists_marker (text : List Char) :
    ∃ marker ∈ markers, text = marker ++ strip text := by
  rcases trimPrefix_cases text ['0', 'x'] with first | first
  · rcases trimPrefix_cases (trimPrefix text ['0', 'x']) ['0', 'X'] with
      second | second
    · refine ⟨['0', 'x', '0', 'X'], by simp [markers], ?_⟩
      calc text
          = ['0', 'x'] ++ trimPrefix text ['0', 'x'] := first
        _ = ['0', 'x'] ++ (['0', 'X'] ++ strip text) :=
            congrArg (['0', 'x'] ++ ·) second
        _ = ['0', 'x', '0', 'X'] ++ strip text := rfl
    · refine ⟨['0', 'x'], by simp [markers], ?_⟩
      rw [strip, second]
      exact first
  · rcases trimPrefix_cases (trimPrefix text ['0', 'x']) ['0', 'X'] with
      second | second
    · refine ⟨['0', 'X'], by simp [markers], ?_⟩
      rw [first] at second
      rw [strip, first]
      exact second
    · refine ⟨[], by simp [markers], ?_⟩
      rw [strip, second, first]
      rfl

/-- A prefix with a symbol which is no digit is not taken from digits. -/
theorem trimPrefix_digits
    {start digits : List Char} {total number : Nat}
    (denotes : hexadecimal.readFrom total digits = some number)
    (stranger : ∃ symbol ∈ start, hexDigit symbol = none) :
    trimPrefix digits start = digits := by
  unfold trimPrefix
  split
  · rename_i begins
    rcases stranger with ⟨symbol, member, none⟩
    have digit := hexadecimal.isSome_of_readFrom denotes symbol
      ((List.isPrefixOf_iff_prefix.mp begins).mem member)
    change (hexDigit symbol).isSome = true at digit
    rw [none] at digit
    cases digit
  · rfl

theorem trimPrefix_append (start rest : List Char) :
    trimPrefix (start ++ rest) start = rest := by
  unfold trimPrefix
  rw [if_pos (List.isPrefixOf_iff_prefix.mpr (List.prefix_append start rest)),
    List.drop_left]

/-- The marker before a number is taken away, and no digit with it. -/
theorem strip_append
    {marker digits : List Char} {number : Nat}
    (known : marker ∈ markers)
    (denotes : hexadecimal.read digits = some number) :
    strip (marker ++ digits) = digits := by
  have lower : trimPrefix digits ['0', 'x'] = digits :=
    trimPrefix_digits denotes ⟨'x', by simp, by decide⟩
  have upper : trimPrefix digits ['0', 'X'] = digits :=
    trimPrefix_digits denotes ⟨'X', by simp, by decide⟩
  simp only [markers, List.mem_cons, List.not_mem_nil, or_false] at known
  rcases known with rfl | rfl | rfl | rfl
  · rw [List.nil_append, strip, lower, upper]
  · rw [strip, trimPrefix_append, upper]
  · have other : trimPrefix (['0', 'X'] ++ digits) ['0', 'x'] =
        ['0', 'X'] ++ digits := by
      rw [trimPrefix]
      exact if_neg (by simp [List.isPrefixOf])
    rw [strip, other, trimPrefix_append]
  · show trimPrefix
      (trimPrefix (['0', 'x'] ++ (['0', 'X'] ++ digits)) ['0', 'x'])
        ['0', 'X'] = digits
    rw [trimPrefix_append, trimPrefix_append]

/-! ## Digits are visible -/

theorem isSpace_of_digit {symbol : Char}
    (digit : (hexDigit symbol).isSome = true) : isSpace symbol = false := by
  unfold hexDigit at digit
  unfold isSpace
  simp only [List.mem_cons, List.not_mem_nil, or_false, Bool.or_eq_false_iff,
    decide_eq_false_iff_not, Bool.and_eq_false_iff]
  split at digit
  · omega
  · split at digit
    · omega
    · split at digit
      · omega
      · cases digit

theorem visible_of_marker {marker : List Char} {symbol : Char}
    (known : marker ∈ markers) (member : symbol ∈ marker) :
    isSpace symbol = false := by
  have marks : symbol = '0' ∨ symbol = 'x' ∨ symbol = 'X' := by
    simp only [markers, List.mem_cons, List.not_mem_nil, or_false] at known
    rcases known with rfl | rfl | rfl | rfl <;> simp at member <;> tauto
  rcases marks with rfl | rfl | rfl <;> rfl

/-- Neither the marker nor the digits contain a space. -/
theorem visible
    {marker digits : List Char} {number : Nat}
    (known : marker ∈ markers)
    (denotes : hexadecimal.read digits = some number) :
    ∀ symbol ∈ marker ++ digits, isSpace symbol = false := by
  intro symbol member
  rcases List.mem_append.mp member with inside | inside
  · exact visible_of_marker known inside
  · exact isSpace_of_digit
      (hexadecimal.isSome_of_readFrom denotes symbol inside)

/-! ## What is accepted -/

theorem parseUint_iff (text : List Char) (bitSize number : Nat) :
    parseUint text bitSize = .ok number ↔
      text ≠ [] ∧ hexadecimal.read text = some number ∧
        number < 2 ^ bitSize := by
  unfold parseUint
  split
  · rename_i empty
    constructor
    · intro impossible
      cases impossible
    · exact fun claimed => (claimed.1 empty).elim
  · rename_i present
    rw [hexadecimal.readBelow_iff (Nat.two_pow_pos bitSize)]
    exact (and_iff_right present).symm

theorem parseUint16_eq (text : List Char) (number : UInt16) :
    parseUint16 text = .ok number ↔
      parseUint (strip (trimSpace text)) 16 = .ok number.toNat := by
  unfold parseUint16
  dsimp only
  rw [← strip]
  cases parsed : parseUint (strip (trimSpace text)) 16 with
  | error rejection =>
      constructor
      · intro impossible
        cases impossible
      · intro impossible
        cases impossible
  | ok value =>
      have small := ((parseUint_iff _ _ _).mp parsed).2.2
      rw [Except.ok.injEq, Except.ok.injEq, ← UInt16.toNat_inj,
        UInt16.toNat_ofNat', Nat.mod_eq_of_lt small]

/--
The texts which are accepted as an ID, and what they denote: hexadecimal digits
of either case, after at most one `0x` and then at most one `0X`, and between
spaces.  There may be any number of digits as long as the value has 16 bits.
-/
theorem parseUint16_iff (text : List Char) (number : UInt16) :
    parseUint16 text = .ok number ↔
      ∃ left marker digits right,
        text = left ++ (marker ++ digits) ++ right ∧
        (∀ symbol ∈ left, isSpace symbol = true) ∧
        (∀ symbol ∈ right, isSpace symbol = true) ∧
        marker ∈ markers ∧ digits ≠ [] ∧
        hexadecimal.read digits = some number.toNat := by
  rw [parseUint16_eq, parseUint_iff]
  constructor
  · rintro ⟨present, denotes, -⟩
    rcases exists_trimSpace text with ⟨left, right, split, before, after⟩
    rcases exists_marker (trimSpace text) with ⟨marker, known, marked⟩
    rw [marked] at split
    exact ⟨left, marker, _, right, split, before, after, known, present,
      denotes⟩
  · rintro ⟨left, marker, digits, right, rfl, before, after, known, present,
      denotes⟩
    have trimmed := trimSpace_append before (visible known denotes) after
      (fun empty => present (List.append_eq_nil_iff.mp empty).2)
    rw [trimmed, strip_append known denotes]
    exact ⟨present, denotes, number.toNat_lt⟩

/-- IDs are read back from their four printed digits. -/
theorem parseUint16_write (number : UInt16) :
    parseUint16 (hexadecimal.write 4 number.toNat) = .ok number := by
  have denotes : hexadecimal.read (hexadecimal.write 4 number.toNat) =
      some number.toNat :=
    hexadecimal.read_write 4 _ number.toNat_lt
  have unmarked : [] ∈ markers := by decide
  have present : hexadecimal.write 4 number.toNat ≠ [] :=
    List.ne_nil_of_length_pos (by rw [Alphabet.length_write]; decide)
  have untrimmed : trimSpace (hexadecimal.write 4 number.toNat) =
      hexadecimal.write 4 number.toNat := by
    have trimmed := @trimSpace_append [] _ [] (by simp)
      (visible unmarked denotes) (by simp) present
    rw [List.nil_append, List.nil_append, List.append_nil] at trimmed
    exact trimmed
  rw [parseUint16_eq, parseUint_iff, untrimmed]
  have stripped := strip_append unmarked denotes
  rw [List.nil_append] at stripped
  rw [stripped]
  exact ⟨present, denotes, number.toNat_lt⟩

/-! ## Both ways to select a device -/

/-- The environment and the flags select the same device by the same texts. -/
theorem readerConfig_of_fromEnvironment
    {parseDuration : List Char → Option Int} {getenv : String → List Char}
    {config : Config}
    (accepted : fromEnvironment parseDuration getenv = .ok config) :
    readerConfig (environment getenv "PAREADER_VID" ['5', '0', '4', '1'])
      (environment getenv "PAREADER_PID" ['5', '2', '4', '5'])
      (getenv "PAREADER_SERIAL") = .ok config.device := by
  unfold fromEnvironment at accepted
  unfold readerConfig
  cases vendor :
      parseUint16 (environment getenv "PAREADER_VID" ['5', '0', '4', '1']) with
  | error rejection =>
      rw [vendor] at accepted
      cases accepted
  | ok vendorID =>
      rw [vendor] at accepted
      cases product :
          parseUint16
            (environment getenv "PAREADER_PID" ['5', '2', '4', '5']) with
      | error rejection =>
          rw [product] at accepted
          cases accepted
      | ok productID =>
          rw [product] at accepted
          dsimp only at accepted ⊢
          split at accepted
          · cases accepted
          · cases accepted
            rfl

/-- The default texts denote the default IDs. -/
example : (parseUint16 ['5', '0', '4', '1'], parseUint16 ['5', '2', '4', '5']) =
    (.ok defaultVendorID, .ok defaultProductID) := by
  decide

end Pareader.Host.Configuration
