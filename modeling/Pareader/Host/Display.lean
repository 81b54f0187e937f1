import Pareader.Host.Discovery
import Pareader.Host.Protocol

/-!
# What the reader program displays

The reader program is a model which is updated by messages and viewed on the
screen.  Cards are named by a text: the digits of an access code, the first
block of a card without one, or the IDm of a FeliCa card.

The layout of the screen and its colours are left out; a screen is what is
written on it.  Texts of errors are a parameter, since opened devices and the
operating system have errors of their own.
-/

namespace Pareader.Host.Display

open Pareader.Core
open Pareader.Host.Protocol
open Pareader.Host.Configuration
open Pareader.Host.Discovery

/-! ## Identifiers -/

/-- Two symbols for each octet, the upper half first. -/
def formatOctets (symbol : Byte → Char) (octets : List Byte) : List Char :=
  octets.flatMap (fun (value : Byte) =>
    [symbol (value >>> 4), symbol (value &&& 0x0F)])

def decimal (half : Byte) : Char := Char.ofNat ('0'.toNat + half.toNat)

def formatLUID (luid : Vector Byte 10) : List Char :=
  formatOctets decimal luid.toList

def hex : List Char :=
  ['0', '1', '2', '3', '4', '5', '6', '7', '8', '9', 'A', 'B', 'C', 'D', 'E',
    'F']

def formatIDm (idm : Vector Byte 8) : List Char :=
  formatOctets (fun half => hex.getD half.toNat '0') idm.toList

/-- `BLOCK1:%X` -/
def formatBlock (octets : List Byte) : List Char :=
  ['B', 'L', 'O', 'C', 'K', '1', ':'] ++
    formatOctets (fun half => hexSymbol half.toNat) octets

def cardIdentifier (card : Card) : List Char :=
  match card.type with
  | .mifare =>
      if card.luid.toList.any (fun value => value != 0) then
        formatLUID card.luid
      else
        formatBlock (card.blocks.toList.take 16)
  | .felica => formatIDm card.idm
  | .none => []

/-! ## The model -/

structure RefreshResult where
  card : Card
  device : Option DeviceInfo
  err : Option GoError
  instant : Int
deriving DecidableEq

inductive Msg where
  | key (name : String)
  | windowSize (width height : Int)
  | refreshNow
  | refreshResult (result : RefreshResult)
  | quit
deriving DecidableEq

inductive Cmd where
  | refreshCardState
  | tick (interval : Int)
  | quit
deriving DecidableEq

structure Model where
  device : DeviceInfo
  version : Version
  interval : Int
  width : Int
  height : Int
  card : Card
  lastID : List Char
  lastSeen : Int
  err : Option GoError

def newModel (device : DeviceInfo) (version : Version) (interval : Int) :
    Model where
  device := device
  version := version
  interval := interval
  width := 0
  height := 0
  card := Card.none
  lastID := []
  lastSeen := 0
  err := none

def init : Cmd := .refreshCardState

/-- The case of `refreshResultMsg`, without the next command. -/
def Model.refresh (model : Model) (result : RefreshResult) : Model :=
  let model := { model with err := result.err }
  let model := { model with device := result.device.getD model.device }
  if result.err = none then
    let model := { model with card := result.card }
    if cardIdentifier result.card ≠ [] then
      { model with
        lastID := cardIdentifier result.card
        lastSeen := result.instant }
    else
      model
  else
    model

def update (model : Model) : Msg → Model × Option Cmd
  | .key name =>
      if name = "q" ∨ name = "ctrl+c" ∨ name = "esc" then
        (model, some .quit)
      else
        (model, none)
  | .windowSize width height =>
      ({ model with width := width, height := height }, none)
  | .refreshNow => (model, some .refreshCardState)
  | .refreshResult result =>
      (model.refresh result, some (.tick model.interval))
  | .quit => (model, none)

/-! ## The screen -/

/-- What is written on the screen. -/
structure Screen where
  version : Version
  product : List Char
  vendorID : List Char
  productID : List Char
  status : String
  typeName : String
  identifier : List Char
  lastRead : Option (List Char × Int)

/-- The lines on the card. -/
def Model.cardLines (errorText : GoError → List Char) (model : Model) :
    String × String × List Char :=
  match model.err with
  | some failure => ("读取异常", "—", errorText failure)
  | none =>
      match model.card.type with
      | .mifare => ("已读取", "MIFARE / Aime", cardIdentifier model.card)
      | .felica => ("已读取", "FeliCa", formatIDm model.card.idm)
      | .none => ("等待卡片", "—", "请将卡片放到读卡区域".toList)

def view (errorText : GoError → List Char) (model : Model) : Screen :=
  let product := trimSpace model.device.product
  { version := model.version
    product := if product = [] then "PA Reader".toList else product
    vendorID := hexadecimal.write 4 model.device.vendorID.toNat
    productID := hexadecimal.write 4 model.device.productID.toNat
    status := (model.cardLines errorText).1
    typeName := (model.cardLines errorText).2.1
    identifier := (model.cardLines errorText).2.2
    lastRead :=
      if model.card.type = .none ∧ model.lastID ≠ [] ∧ model.err = none then
        some (model.lastID, model.lastSeen)
      else
        none }

/-! ## Identifiers tell cards apart -/

/-- The symbols from `0` on. -/
def halves : Alphabet Char where
  base := 16
  digit symbol :=
    if 48 ≤ symbol.toNat ∧ symbol.toNat < 64 then
      some (symbol.toNat - 48)
    else
      none
  symbol value := Char.ofNat (48 + value)
  positive := hexadecimal.positive
  reads := by decide

theorem formatOctets_eq
    {alphabet : Alphabet Char} {symbol : Byte → Char}
    (base : alphabet.base = 16)
    (agrees : ∀ half : Byte, half.toNat < 16 →
      symbol half = alphabet.symbol half.toNat)
    (octets : List Byte) :
    formatOctets symbol octets =
      alphabet.writeAll 2 (octets.map UInt8.toNat) := by
  unfold formatOctets Alphabet.writeAll
  rw [List.flatMap_map]
  refine List.flatMap_congr ?_
  intro value _
  have upper : (value >>> 4).toNat = value.toNat / 16 := by
    rw [UInt8.toNat_shiftRight]
    exact Nat.shiftRight_eq_div_pow _ 4
  have lower : (value &&& 0x0F).toNat = value.toNat % 16 := by
    rw [UInt8.toNat_and]
    exact Nat.and_two_pow_sub_one_eq_mod _ 4
  have bound := value.toNat_lt
  have half : value.toNat / 16 % 16 = value.toNat / 16 :=
    Nat.mod_eq_of_lt (by omega)
  rw [agrees _ (by omega), agrees _ (by omega), upper, lower]
  simp only [Alphabet.write, base, half, List.nil_append]
  rfl

theorem length_formatOctets (symbol : Byte → Char) (octets : List Byte) :
    (formatOctets symbol octets).length = octets.length * 2 := by
  unfold formatOctets
  induction octets with
  | nil => rfl
  | cons value rest induction =>
      rw [List.flatMap_cons, List.length_append, induction, List.length_cons]
      show 2 + rest.length * 2 = (rest.length + 1) * 2
      omega

/-- Octets are told apart by their symbols. -/
theorem formatOctets_injective
    {alphabet : Alphabet Char} {symbol : Byte → Char}
    (base : alphabet.base = 16)
    (agrees : ∀ half : Byte, half.toNat < 16 →
      symbol half = alphabet.symbol half.toNat)
    {left right : List Byte} (sized : left.length = right.length)
    (same : formatOctets symbol left = formatOctets symbol right) :
    left = right := by
  have fits : ∀ octets : List Byte,
      ∀ number ∈ octets.map UInt8.toNat, number < alphabet.base ^ 2 := by
    intro octets number member
    rcases List.mem_map.mp member with ⟨value, -, rfl⟩
    rw [base]
    exact value.toNat_lt
  rw [formatOctets_eq base agrees, formatOctets_eq base agrees] at same
  have numbers := alphabet.writeAll_injective (fits left) (fits right)
    (by rw [List.length_map, List.length_map, sized]) same
  exact List.map_injective_iff.mpr (fun _ _ => UInt8.toNat_inj.mp) numbers

theorem decimal_eq (half : Byte) (_ : half.toNat < 16) :
    decimal half = halves.symbol half.toNat := rfl

theorem hex_eq (half : Byte) (small : half.toNat < 16) :
    hex.getD half.toNat '0' = hexadecimal.symbol half.toNat := by
  have table : ∀ value, value < 16 → hex.getD value '0' = hexSymbol value := by
    decide
  exact table half.toNat small

/-- What an identifier says about a card. -/
inductive Identity where
  | unidentified
  | accessCode (luid : Vector Byte 10)
  | block (octets : Vector Byte 16)
  | felica (idm : Vector Byte 8)
deriving DecidableEq

def identity (card : Card) : Identity :=
  match card.type with
  | .mifare =>
      if card.luid = zeros 10 then
        .block (load 16 card.blocks.toList 0)
      else
        .accessCode card.luid
  | .felica => .felica card.idm
  | .none => .unidentified

/-- The text for an identity. -/
def Identity.text : Identity → List Char
  | .unidentified => []
  | .accessCode luid => formatLUID luid
  | .block octets => formatBlock octets.toList
  | .felica idm => formatIDm idm

theorem any_nonzero_iff (luid : Vector Byte 10) :
    luid.toList.any (fun value => value != 0) = true ↔ luid ≠ zeros 10 := by
  rw [List.any_eq_true, ne_eq, ← Vector.toList_inj]
  simp only [bne_iff_ne, zeros, Vector.toList_replicate]
  rw [List.eq_replicate_iff, Vector.length_toList]
  simp

theorem toList_load (octets : Vector Byte 32) :
    (load 16 octets.toList 0).toList = octets.toList.take 16 := by
  apply List.ext_getElem
  · simp
  · intro index inside _
    rw [Vector.length_toList] at inside
    have bound : index < octets.toList.length := by
      rw [Vector.length_toList]
      omega
    simp only [load, List.getElem_take, Vector.getElem_toList,
      Vector.getElem_ofFn, byteAt, Nat.zero_add]
    rw [List.getD_eq_getElem _ _ bound, Vector.getElem_toList]

theorem cardIdentifier_eq (card : Card) :
    cardIdentifier card = (identity card).text := by
  unfold cardIdentifier identity
  cases card.type with
  | none => rfl
  | felica => rfl
  | mifare =>
      dsimp only
      by_cases blank : card.luid = zeros 10
      · have empty := mt (any_nonzero_iff card.luid).mp (not_not.mpr blank)
        rw [if_pos blank, if_neg empty, Identity.text, toList_load]
      · rw [if_neg blank, if_pos ((any_nonzero_iff card.luid).mpr blank),
          Identity.text]

/-- The length of a text tells the kind of the card. -/
def Identity.length : Identity → Nat
  | .unidentified => 0
  | .accessCode _ => 20
  | .block _ => 39
  | .felica _ => 16

theorem Identity.length_text (identity : Identity) :
    identity.text.length = identity.length := by
  cases identity with
  | unidentified => rfl
  | accessCode luid =>
      rw [text, formatLUID, length_formatOctets, Vector.length_toList]
      rfl
  | block octets =>
      rw [text, formatBlock, List.length_append, length_formatOctets,
        Vector.length_toList]
      rfl
  | felica idm =>
      rw [text, formatIDm, length_formatOctets, Vector.length_toList]
      rfl

theorem Identity.text_injective {left right : Identity}
    (same : left.text = right.text) : left = right := by
  have lengths := congrArg List.length same
  rw [length_text, length_text] at lengths
  have sized : ∀ {size : Nat} (left right : Vector Byte size),
      left.toList.length = right.toList.length := by
    intro size left right
    rw [Vector.length_toList, Vector.length_toList]
  cases left <;> cases right <;> cases lengths
  case unidentified.unidentified => rfl
  case accessCode.accessCode luid other =>
    exact congrArg _ (Vector.toList_inj.mp
      (formatOctets_injective rfl decimal_eq (sized _ _) same))
  case block.block octets other =>
    change formatBlock octets.toList = formatBlock other.toList at same
    unfold formatBlock at same
    exact congrArg _ (Vector.toList_inj.mp
      (@formatOctets_injective hexadecimal _ rfl (fun _ _ => rfl) _ _
        (sized _ _) (List.append_cancel_left same)))
  case felica.felica idm other =>
    exact congrArg _ (Vector.toList_inj.mp
      (formatOctets_injective rfl hex_eq (sized _ _) same))

/--
Two cards have the same identifier exactly when they have the same access code
or IDm, or are without an access code and have the same first block.  A card has
none exactly when there is no card.
-/
theorem cardIdentifier_iff (card other : Card) :
    (cardIdentifier card = cardIdentifier other ↔
      identity card = identity other) ∧
    (cardIdentifier card = [] ↔ card.type = .none) := by
  rw [cardIdentifier_eq, cardIdentifier_eq]
  constructor
  · exact ⟨Identity.text_injective, congrArg Identity.text⟩
  · rw [← List.length_eq_zero_iff, Identity.length_text]
    unfold identity
    cases card.type with
    | none => exact ⟨fun _ => rfl, fun _ => rfl⟩
    | felica => simp [Identity.length]
    | mifare =>
        dsimp only
        split <;> simp [Identity.length]

end Pareader.Host.Display
