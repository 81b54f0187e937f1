import Pareader.Host.Configuration

/-!
# Finding a reader

`hid.Open` enumerates the connected devices and opens the path of the one which
it has selected.  The HID library reports the devices of a vendor and product;
`Open` itself compares the usage and, if one is configured, the serial number.
What the library enumerates, and whether a path can be opened, is left to the
environment.
-/

namespace Pareader.Host.Discovery

open Pareader.Host.Configuration

/-! ## Devices -/

/-- The `DeviceInfo` of the HID library. -/
structure Candidate where
  path : List Char
  vendorID : UInt16
  productID : UInt16
  serialNbr : List Char
  mfrStr : List Char
  productStr : List Char
  usagePage : UInt16
  usage : UInt16
deriving DecidableEq, Repr

structure DeviceInfo where
  path : List Char
  vendorID : UInt16
  productID : UInt16
  serial : List Char
  manufacturer : List Char
  product : List Char
deriving DecidableEq, Repr

inductive OpenError where
  | enumerate
  | deviceNotFound
  | open
deriving DecidableEq, Repr

def OpenError.code : OpenError → String
  | .enumerate => "E0201"
  | .deviceNotFound => "E0202"
  | .open => "E0203"

/-- What `Open` fills in before it looks for the device. -/
def withDefaults (config : DeviceConfig) : DeviceConfig :=
  { config with
    usagePage :=
      if config.usagePage = 0 then defaultUsagePage else config.usagePage
    usage := if config.usage = 0 then defaultUsage else config.usage }

/-- The callback of `Enumerate` takes the candidate. -/
def takes (config : DeviceConfig) (candidate : Candidate) : Bool :=
  if candidate.usagePage ≠ config.usagePage ∨
      candidate.usage ≠ config.usage then
    false
  else if config.serial ≠ [] ∧ candidate.serialNbr ≠ config.serial then
    false
  else
    true

/-- The device which is selected when `Enumerate` has returned. -/
def select (config : DeviceConfig) (candidates : List Candidate) :
    Option Candidate :=
  candidates.foldl
    (fun selected candidate =>
      if takes config candidate then some candidate else selected)
    none

def infoOf (candidate : Candidate) : DeviceInfo where
  path := candidate.path
  vendorID := candidate.vendorID
  productID := candidate.productID
  serial := candidate.serialNbr
  manufacturer := candidate.mfrStr
  product := candidate.productStr

/-- `Open`, up to the start of the write loop. -/
def openDevice (enumerate : UInt16 → UInt16 → Option (List Candidate))
    (openPath : List Char → Bool) (config : DeviceConfig) :
    Except OpenError DeviceInfo :=
  let config := withDefaults config
  match enumerate config.vendorID config.productID with
  | none => .error .enumerate
  | some candidates =>
      match select config candidates with
      | none => .error .deviceNotFound
      | some selected =>
          if openPath selected.path then
            .ok (infoOf selected)
          else
            .error .open

/-! ## The last candidate is selected -/

theorem takes_iff (config : DeviceConfig) (candidate : Candidate) :
    takes config candidate = true ↔
      candidate.usagePage = config.usagePage ∧
        candidate.usage = config.usage ∧
        (config.serial = [] ∨ candidate.serialNbr = config.serial) := by
  unfold takes
  split
  · rename_i other
    constructor
    · intro impossible
      cases impossible
    · rintro ⟨page, usage, -⟩
      exact (other.elim (· page) (· usage)).elim
  · rename_i same
    rw [not_or, not_not, not_not] at same
    split
    · rename_i strange
      constructor
      · intro impossible
        cases impossible
      · rintro ⟨-, -, serial⟩
        exact (serial.elim strange.1 strange.2).elim
    · rename_i known
      rw [not_and_or, not_not, not_not] at known
      exact ⟨fun _ => ⟨same.1, same.2, known⟩, fun _ => rfl⟩

theorem select_concat
    (config : DeviceConfig) (candidates : List Candidate)
    (candidate : Candidate) :
    select config (candidates ++ [candidate]) =
      if takes config candidate then
        some candidate
      else
        select config candidates := by
  rw [select, List.foldl_append, List.foldl_cons, List.foldl_nil]
  rfl

theorem select_iff
    (config : DeviceConfig) (candidates : List Candidate)
    (selected : Candidate) :
    select config candidates = some selected ↔
      ∃ before after, candidates = before ++ selected :: after ∧
        takes config selected = true ∧
        ∀ candidate ∈ after, takes config candidate = false := by
  induction candidates using List.reverseRecOn with
  | nil =>
      constructor
      · intro impossible
        cases impossible
      · rintro ⟨before, after, empty, -⟩
        cases before <;> cases empty
  | append_singleton candidates last induction =>
      rw [select_concat]
      split
      · rename_i taken
        constructor
        · intro same
          cases same
          exact ⟨candidates, [], rfl, taken, by simp⟩
        · rintro ⟨before, after, split, -, passed⟩
          cases after using List.reverseRecOn with
          | nil =>
              exact congrArg some
                (List.singleton_inj.mp (List.append_inj' split rfl).2)
          | append_singleton after final =>
              have ends : last = final := by
                rw [← List.cons_append, ← List.append_assoc] at split
                exact List.singleton_inj.mp (List.append_inj' split rfl).2
              rw [ends, passed final (by simp)] at taken
              cases taken
      · rename_i passedOver
        rw [Bool.not_eq_true] at passedOver
        rw [induction]
        constructor
        · rintro ⟨before, after, rfl, taken, passed⟩
          refine ⟨before, after ++ [last], by simp, taken, ?_⟩
          intro candidate member
          rcases List.mem_append.mp member with earlier | here
          · exact passed candidate earlier
          · rw [List.mem_singleton.mp here]
            exact passedOver
        · rintro ⟨before, after, split, taken, passed⟩
          cases after using List.reverseRecOn with
          | nil =>
              have ends : last = selected :=
                List.singleton_inj.mp (List.append_inj' split rfl).2
              rw [ends, taken] at passedOver
              cases passedOver
          | append_singleton after final =>
              rw [← List.cons_append, ← List.append_assoc] at split
              exact ⟨before, after, (List.append_inj' split rfl).1, taken,
                fun candidate member => passed candidate (by simp [member])⟩

/-- Nothing is selected exactly when every candidate is passed over. -/
theorem select_eq_none_iff
    (config : DeviceConfig) (candidates : List Candidate) :
    select config candidates = none ↔
      ∀ candidate ∈ candidates, takes config candidate = false := by
  induction candidates using List.reverseRecOn with
  | nil => exact ⟨fun _ => by simp, fun _ => rfl⟩
  | append_singleton candidates last induction =>
      rw [select_concat]
      split
      · rename_i taken
        constructor
        · intro impossible
          cases impossible
        · intro passed
          rw [passed last (by simp)] at taken
          cases taken
      · rename_i passedOver
        rw [Bool.not_eq_true] at passedOver
        rw [induction, List.forall_mem_append, List.forall_mem_singleton]
        exact (and_iff_left passedOver).symm

/-- A PRHP interface, with the configured serial number if there is one. -/
structure Reader (config : DeviceConfig) (candidate : Candidate) : Prop where
  usagePage : candidate.usagePage =
    if config.usagePage = 0 then defaultUsagePage else config.usagePage
  usage : candidate.usage =
    if config.usage = 0 then defaultUsage else config.usage
  serial : config.serial = [] ∨ candidate.serialNbr = config.serial

theorem takes_withDefaults_iff
    (config : DeviceConfig) (candidate : Candidate) :
    takes (withDefaults config) candidate = true ↔
      Reader config candidate := by
  rw [takes_iff]
  exact ⟨fun ⟨page, usage, serial⟩ => ⟨page, usage, serial⟩,
    fun ⟨page, usage, serial⟩ => ⟨page, usage, serial⟩⟩

theorem passes_withDefaults_iff
    (config : DeviceConfig) (candidate : Candidate) :
    takes (withDefaults config) candidate = false ↔
      ¬ Reader config candidate := by
  rw [← takes_withDefaults_iff, Bool.not_eq_true]

theorem select_reader_iff
    (config : DeviceConfig) (candidates : List Candidate)
    (reader : Candidate) :
    select (withDefaults config) candidates = some reader ↔
      ∃ before after, candidates = before ++ reader :: after ∧
        Reader config reader ∧
        ∀ candidate ∈ after, ¬ Reader config candidate := by
  have chooses := select_iff (withDefaults config) candidates reader
  simp only [takes_withDefaults_iff, passes_withDefaults_iff] at chooses
  exact chooses

theorem select_no_reader_iff
    (config : DeviceConfig) (candidates : List Candidate) :
    select (withDefaults config) candidates = none ↔
      ∀ candidate ∈ candidates, ¬ Reader config candidate := by
  rw [select_eq_none_iff]
  simp only [passes_withDefaults_iff]

section Open

variable (enumerate : UInt16 → UInt16 → Option (List Candidate))
variable (openPath : List Char → Bool) (config : DeviceConfig)

/-- The defaults leave the vendor and the product which are enumerated. -/
theorem openDevice_eq :
    openDevice enumerate openPath config =
      match enumerate config.vendorID config.productID with
      | none => .error .enumerate
      | some candidates =>
          match select (withDefaults config) candidates with
          | none => .error .deviceNotFound
          | some selected =>
              if openPath selected.path then
                .ok (infoOf selected)
              else
                .error .open :=
  rfl

theorem openDevice_ok_iff (info : DeviceInfo) :
    openDevice enumerate openPath config = .ok info ↔
      ∃ candidates reader,
        enumerate config.vendorID config.productID = some candidates ∧
        select (withDefaults config) candidates = some reader ∧
        openPath reader.path = true ∧ info = infoOf reader := by
  rw [openDevice_eq]
  constructor
  · intro opened
    split at opened
    · cases opened
    · rename_i candidates enumerated
      split at opened
      · cases opened
      · rename_i reader selected
        split at opened
        · rename_i opens
          cases opened
          exact ⟨candidates, reader, enumerated, selected, opens, rfl⟩
        · cases opened
  · rintro ⟨candidates, reader, enumerated, selected, opens, rfl⟩
    simp only [enumerated, selected, opens, if_true]

theorem openDevice_deviceNotFound_iff :
    openDevice enumerate openPath config = .error .deviceNotFound ↔
      ∃ candidates,
        enumerate config.vendorID config.productID = some candidates ∧
        select (withDefaults config) candidates = none := by
  rw [openDevice_eq]
  constructor
  · intro failed
    split at failed
    · cases failed
    · rename_i candidates enumerated
      split at failed
      · rename_i unselected
        exact ⟨candidates, enumerated, unselected⟩
      · split at failed <;> cases failed
  · rintro ⟨candidates, enumerated, unselected⟩
    simp only [enumerated, unselected]

theorem openDevice_enumerate_iff :
    openDevice enumerate openPath config = .error .enumerate ↔
      enumerate config.vendorID config.productID = none := by
  rw [openDevice_eq]
  constructor
  · intro failed
    split at failed
    · assumption
    · split at failed
      · cases failed
      · split at failed <;> cases failed
  · intro unlisted
    rw [unlisted]

end Open

/--
`Open` opens the last reader which is enumerated, and no other one, even if its
path cannot be opened and the path of another one could; and it finds no device
exactly when no reader is enumerated.
-/
theorem open_selects_last
    (enumerate : UInt16 → UInt16 → Option (List Candidate))
    (openPath : List Char → Bool) (config : DeviceConfig) :
    (∀ info, openDevice enumerate openPath config = .ok info ↔
      ∃ before reader after,
        enumerate config.vendorID config.productID =
          some (before ++ reader :: after) ∧
        Reader config reader ∧
        (∀ candidate ∈ after, ¬ Reader config candidate) ∧
        openPath reader.path = true ∧ info = infoOf reader) ∧
    (openDevice enumerate openPath config = .error .deviceNotFound ↔
      ∃ candidates,
        enumerate config.vendorID config.productID = some candidates ∧
        ∀ candidate ∈ candidates, ¬ Reader config candidate) ∧
    (openDevice enumerate openPath config = .error .enumerate ↔
      enumerate config.vendorID config.productID = none) := by
  refine ⟨fun info => ?_, ?_,
    openDevice_enumerate_iff enumerate openPath config⟩
  · rw [openDevice_ok_iff]
    simp only [select_reader_iff]
    constructor
    · rintro ⟨candidates, reader, enumerated,
        ⟨before, after, rfl, reads, others⟩, opens, rfl⟩
      exact ⟨before, reader, after, enumerated, reads, others, opens, rfl⟩
    · rintro ⟨before, reader, after, enumerated, reads, others, opens, rfl⟩
      exact ⟨_, reader, enumerated, ⟨before, after, rfl, reads, others⟩,
        opens, rfl⟩
  · rw [openDevice_deviceNotFound_iff]
    simp only [select_no_reader_iff]

end Pareader.Host.Discovery
