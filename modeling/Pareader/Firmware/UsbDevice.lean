import Pareader.Core.Fifo
import Pareader.Core.Machine
import Pareader.Firmware.AppMain

/-!
# USB callbacks and the message queue

The callbacks of TinyUSB run beside the main loop.  They never wait: a message
which finds the queue full is dropped.  The device is therefore a transition
system whose actions are the calls of the two callbacks, the arrival of octets
on the CDC port, the operations of the main loop on the queue and the rest of
its iterations.  It begins with the start of `app_main`, whose checks decide
whether the loop is entered at all.

The invariant connects the device to the loop as a transducer.  The iterations
which were completed are a run of the loop, and the messages which they read are
what the queue gave out.
-/

namespace Pareader.Firmware.UsbDevice

open Pareader.Core
open Pareader.Firmware.Pn532
open Pareader.Firmware.Hid
open Pareader.Firmware.AppMain

/-! ## Start of the reader -/

def pn532CommandSamConfiguration : Byte := 0x14

/-- The outcomes of the three calls which set up the I2C bus. -/
structure I2cSetup where
  newMasterBus : EspResult Unit
  addDevice : EspResult Unit
  probe : EspResult Unit

def I2cSetup.outcome (setup : I2cSetup) : EspResult Unit := do
  setup.newMasterBus
  setup.addDevice
  setup.probe

def pn532Init (setup : I2cSetup) : Driver (EspResult Unit) :=
  match setup.outcome with
  | .error failure => .done (.error failure)
  | .ok () => do
      match ← command pn532CommandSamConfiguration [0x01, 0x14, 0x01] 8 with
      | .error failure => return .error failure
      | .ok _ =>
          let response ←
            command pn532CommandRfConfiguration [0x05, 0xFF, 0x01, 0x00] 8
          return response.map (fun _ => ())

/-! ## State -/

/-- The length of the queue which `usb_device_init` creates. -/
def messageCapacity : Nat := 16

/-- `sizeof(message.data)` -/
def messageDataSize : Nat := 512

abbrev MessageQueue := Fifo UsbMessage messageCapacity

/-- Why the firmware stopped: a failed check, or a queue which is `NULL`. -/
inductive Abort where
  | check (failure : EspErr)
  | nullQueue

/-- The control points of `app_main`, with the functions it calls inlined. -/
inductive MainPoint where
  | startingReader
  | creatingQueue
  | installingTinyusb
  | startingCdc
  | receiving
  | servicing (message : Option UsbMessage)
  | aborted (cause : Abort)

/-- The message which the loop has taken and not serviced yet. -/
def MainPoint.held : MainPoint → List UsbMessage
  | .servicing message => message.toList
  | _ => []

def MainPoint.running : MainPoint → Bool
  | .aborted _ => false
  | _ => true

/--
The firmware and what TinyUSB holds for it: `rx` are the octets which arrived on
the CDC port and were not read yet.  For the specification, `reports` records
the output reports of the PRHP interface, `arrived` all octets of the CDC port,
`exchanges` what was said to the PN532 at the start, and the last two fields the
completed iterations with what they handed to the USB functions.
-/
structure Device where
  point : MainPoint
  messages : Option MessageQueue
  installed : Bool
  cdcStarted : Bool
  rx : List Byte
  app : App
  reports : List (List Byte)
  arrived : List Byte
  exchanges : List (List Byte × Exchange)
  iterations : List Iteration
  outputs : List Output

/-- The device at power-on. -/
def poweredOn : Device where
  point := .startingReader
  messages := none
  installed := false
  cdcStarted := false
  rx := []
  app := appStart
  reports := []
  arrived := []
  exchanges := []
  iterations := []
  outputs := []

/-- The message queue, empty before it is created. -/
def Device.queue (device : Device) : MessageQueue :=
  device.messages.getD Fifo.empty

/-! ## Callbacks -/

/-- `xQueueSend` with no time to wait. -/
def Device.send (device : Device) (message : UsbMessage) :
    Device :=
  match device.messages with
  | none => { device with point := .aborted .nullQueue }
  | some queue => { device with messages := some (queue.offer message) }

/-- The calls of `tud_hid_set_report_cb` which make a message. -/
def IsPrhpReport (hidInstance reportId : Byte) (buffer : List Byte) : Prop :=
  ¬ (hidInstance ≠ 0 ∨ reportId ≠ 0 ∨ buffer.length ≠ prhpReportSize)

instance (hidInstance reportId : Byte) (buffer : List Byte) :
    Decidable (IsPrhpReport hidInstance reportId buffer) :=
  inferInstanceAs (Decidable (¬ _))

def Device.tudHidSetReportCb (device : Device)
    (hidInstance reportId : Byte) (buffer : List Byte) : Device :=
  if IsPrhpReport hidInstance reportId buffer then
    { device with reports := device.reports ++ [buffer] }.send
      ⟨.hid, buffer⟩
  else
    device

/--
`cdc_receive_callback`, where `tinyusb_cdcacm_read` fails or reads some of the
octets which have arrived, at most as many as the message has room for.
-/
def Device.cdcReceiveCallback (device : Device)
    (available : EspResult Nat) : Device :=
  match available with
  | .error _ => device
  | .ok count =>
      let size := min count messageDataSize
      let data := device.rx.take size
      let device := { device with rx := device.rx.drop size }
      if data.length > 0 then device.send ⟨.cdc, data⟩ else device

/-! ## The main loop -/

/-- `usb_device_receive`: a message, or none before the timeout. -/
def Device.usbDeviceReceive (device : Device) : Device :=
  match device.messages with
  | none => { device with point := .aborted .nullQueue }
  | some queue =>
      match queue.take with
      | none => { device with point := .servicing none }
      | some (message, queue) =>
          { device with
            messages := some queue
            point := .servicing (some message) }

/-- The rest of an iteration, in an environment. -/
def Device.complete (device : Device)
    (message : Option UsbMessage) (environment : Iteration) : Device :=
  let iteration := { environment with message := message }
  let after := iterate device.app iteration
  { device with
    point := .receiving
    app := after.1
    iterations := device.iterations ++ [iteration]
    outputs := device.outputs ++ after.2 }

/-- `ESP_ERROR_CHECK` before the next control point. -/
def Device.check (device : Device) (outcome : EspResult Unit)
    (next : Device) : Device :=
  match outcome with
  | .ok () => next
  | .error failure => { device with point := .aborted (.check failure) }

/-- What can happen to the device. -/
inductive UsbAction where
  | readerInit (setup : I2cSetup) (world : Pn532World)
  | createQueue (allocated : Bool)
  | installTinyusb (outcome : EspResult Unit)
  | startCdc (outcome : EspResult Unit)
  | setReport (hidInstance reportId : Byte) (buffer : List Byte)
  | cdcArrives (octets : List Byte)
  | cdcReceive (available : EspResult Nat)
  | receive
  | complete (environment : Iteration)

def Device.step (device : Device) : UsbAction → Option Device
  | .readerInit setup world =>
      match device.point with
      | .startingReader =>
          let program := pn532Init setup
          let device :=
            { device with exchanges := program.transcript world }
          some (device.check (program.run world)
            { device with point := .creatingQueue })
      | _ => none
  | .createQueue allocated =>
      match device.point with
      | .creatingQueue =>
          some (device.check (if allocated then .ok () else .error .noMem)
            { device with
              messages := some Fifo.empty
              point := .installingTinyusb })
      | _ => none
  | .installTinyusb outcome =>
      match device.point with
      | .installingTinyusb =>
          some (device.check outcome
            { device with installed := true, point := .startingCdc })
      | _ => none
  | .startCdc outcome =>
      match device.point with
      | .startingCdc =>
          some (device.check outcome
            { device with cdcStarted := true, point := .receiving })
      | _ => none
  | .setReport hidInstance reportId buffer =>
      if device.installed ∧ device.point.running then
        some (device.tudHidSetReportCb hidInstance reportId buffer)
      else
        none
  | .cdcArrives octets =>
      if device.installed ∧ device.point.running then
        some
          { device with
            rx := device.rx ++ octets
            arrived := device.arrived ++ octets }
      else
        none
  | .cdcReceive available =>
      if device.cdcStarted ∧ device.point.running then
        some (device.cdcReceiveCallback available)
      else
        none
  | .receive =>
      match device.point with
      | .receiving => some device.usbDeviceReceive
      | _ => none
  | .complete environment =>
      match device.point with
      | .servicing message => some (device.complete message environment)
      | _ => none

/-- The device under every interleaving of its callbacks and its loop. -/
def usbMachine : Machine Device UsbAction where
  start := poweredOn
  step := Device.step

/-! ## The queue exists when it is used -/

/-- The control points before the creation of the queue. -/
def MainPoint.early : MainPoint → Bool
  | .startingReader => true
  | .creatingQueue => true
  | _ => false

/-- The control points before the loop. -/
def MainPoint.starting : MainPoint → Bool
  | .startingReader => true
  | .creatingQueue => true
  | .installingTinyusb => true
  | .startingCdc => true
  | _ => false

/-- The control points after the creation of the queue. -/
def MainPoint.created : MainPoint → Bool
  | .installingTinyusb => true
  | .startingCdc => true
  | .receiving => true
  | .servicing _ => true
  | _ => false

/-- No callback and no iteration can find the queue missing. -/
structure Device.Ready (device : Device) : Prop where
  early : device.point.early = true → device.messages = none
  created : device.point.created = true → device.messages ≠ none
  installed : device.installed = true → device.messages ≠ none
  started : device.cdcStarted = true → device.messages ≠ none
  present : device.point ≠ .aborted .nullQueue

theorem ready_poweredOn : poweredOn.Ready where
  early _ := rfl
  created := Bool.noConfusion
  installed := Bool.noConfusion
  started := Bool.noConfusion
  present := MainPoint.noConfusion

/-- What the queue does not know about may change. -/
theorem Device.Ready.of_same
    {device next : Device} (ready : device.Ready)
    (point : next.point = device.point)
    (messages : next.messages = device.messages)
    (installed : next.installed = device.installed)
    (cdcStarted : next.cdcStarted = device.cdcStarted) :
    next.Ready := by
  rcases ready with ⟨early, created, whenInstalled, started, present⟩
  constructor
  · rwa [point, messages]
  · rwa [point, messages]
  · rwa [installed, messages]
  · rwa [cdcStarted, messages]
  · rwa [point]

/-- The loop and the rest of the start go on with the queue they have. -/
theorem Device.Ready.moves
    {device : Device} (ready : device.Ready)
    (present : device.messages ≠ none) {point : MainPoint}
    (created : point.created = true) :
    Device.Ready { device with point := point } := by
  refine ⟨?_, fun _ => present, ready.installed, ready.started, ?_⟩
  · intro early
    cases point <;>
      first | exact Bool.noConfusion early | exact Bool.noConfusion created
  · rintro rfl
    cases created

theorem Device.send_eq
    {device : Device} (present : device.messages ≠ none)
    (message : UsbMessage) :
    device.send message =
      { device with messages := some (device.queue.offer message) } := by
  unfold Device.send Device.queue
  cases known : device.messages with
  | none => exact (present known).elim
  | some queue => rfl

/-- A queue which exists may be replaced by another. -/
theorem Device.Ready.replaces
    {device : Device} (ready : device.Ready)
    (present : device.messages ≠ none) (queue : MessageQueue) :
    Device.Ready { device with messages := some queue } where
  early early := (present (ready.early early)).elim
  created _ := Option.some_ne_none _
  installed _ := Option.some_ne_none _
  started _ := Option.some_ne_none _
  present := ready.present

/-! ## What a step does to the record -/

/-- The message which a call of a callback makes, if it makes one. -/
def Device.makes (device : Device) : UsbAction → Option UsbMessage
  | .setReport hidInstance reportId buffer =>
      if IsPrhpReport hidInstance reportId buffer then
        some ⟨.hid, buffer⟩
      else
        none
  | .cdcReceive (.ok count) =>
      let data := device.rx.take (min count messageDataSize)
      if data.length > 0 then some ⟨.cdc, data⟩ else none
  | _ => none

/-- The action ends an iteration of the loop. -/
def UsbAction.completes : UsbAction → Bool
  | .complete _ => true
  | _ => false

/-- A step of the start of `app_main`. -/
inductive Device.Starts (device : Device) : Device → Prop where
  | reader (setup : I2cSetup) (world : Pn532World)
      (point : device.point = .startingReader)
      (passed : (pn532Init setup).run world = .ok ()) :
      Starts device
        { device with
          exchanges := (pn532Init setup).transcript world
          point := .creatingQueue }
  | queue (point : device.point = .creatingQueue) :
      Starts device
        { device with
          messages := some Fifo.empty
          point := .installingTinyusb }
  | tinyusb (point : device.point = .installingTinyusb) :
      Starts device
        { device with installed := true, point := .startingCdc }
  | cdc (point : device.point = .startingCdc) :
      Starts device
        { device with cdcStarted := true, point := .receiving }
  | aborts (exchanges : List (List Byte × Exchange)) (failure : EspErr)
      (starting : device.point.starting = true) :
      Starts device
        { device with
          exchanges := exchanges
          point := .aborted (.check failure) }

/--
The effect of a step.  Apart from the start and from calls of the callbacks
without a message, the host or the loop does one of six things.
-/
inductive Device.Effect (device : Device) : UsbAction → Device → Prop where
  | starts {action : UsbAction} {next : Device}
      (silent : device.makes action = none)
      (busy : action.completes = false)
      (start : device.Starts next) :
      Effect device action next
  | idles {action : UsbAction} (silent : device.makes action = none)
      (busy : action.completes = false) :
      Effect device action device
  | reports {hidInstance reportId : Byte} {buffer : List Byte}
      (accepted : IsPrhpReport hidInstance reportId buffer) :
      Effect device (.setReport hidInstance reportId buffer)
        { device with
          reports := device.reports ++ [buffer]
          messages := some (device.queue.offer ⟨.hid, buffer⟩) }
  | arrives (octets : List Byte) :
      Effect device (.cdcArrives octets)
        { device with
          rx := device.rx ++ octets
          arrived := device.arrived ++ octets }
  | reads {available : EspResult Nat} (size : Nat)
      (bounded : size ≤ messageDataSize)
      (nonempty : (device.rx.take size).length > 0)
      (made :
        device.makes (.cdcReceive available) =
          some ⟨.cdc, device.rx.take size⟩) :
      Effect device (.cdcReceive available)
        { device with
          rx := device.rx.drop size
          messages :=
            some (device.queue.offer ⟨.cdc, device.rx.take size⟩) }
  | receives {message : UsbMessage} {queue : MessageQueue}
      (point : device.point = .receiving)
      (taken : device.queue.Takes message queue) :
      Effect device .receive
        { device with
          messages := some queue
          point := .servicing (some message) }
  | waits (point : device.point = .receiving)
      (empty : device.queue.waiting = []) :
      Effect device .receive { device with point := .servicing none }
  | completes {message : Option UsbMessage} (environment : Iteration)
      (point : device.point = .servicing message) :
      Effect device (.complete environment)
        (device.complete message environment)

theorem Device.Starts.starting
    {device next : Device} (start : device.Starts next) :
    device.point.starting = true := by
  cases start with
  | reader setup world point passed => exact congrArg _ point
  | queue point => exact congrArg _ point
  | tinyusb point => exact congrArg _ point
  | cdc point => exact congrArg _ point
  | aborts exchanges failure starting => exact starting

/-- A step of the start keeps the queue where it has to exist. -/
theorem Device.Ready.starts
    {device next : Device} (ready : device.Ready)
    (start : device.Starts next) :
    next.Ready := by
  cases start with
  | reader setup world point passed =>
      have missing := ready.early (by rw [point]; rfl)
      exact ⟨fun _ => missing, Bool.noConfusion, ready.installed,
        ready.started, MainPoint.noConfusion⟩
  | queue point =>
      exact ⟨Bool.noConfusion, fun _ => Option.some_ne_none _,
        fun _ => Option.some_ne_none _, fun _ => Option.some_ne_none _,
        MainPoint.noConfusion⟩
  | tinyusb point =>
      have present := ready.created (by rw [point]; rfl)
      exact ⟨Bool.noConfusion, fun _ => present, fun _ => present,
        ready.started, MainPoint.noConfusion⟩
  | cdc point =>
      have present := ready.created (by rw [point]; rfl)
      exact ⟨Bool.noConfusion, fun _ => present, ready.installed,
        fun _ => present, MainPoint.noConfusion⟩
  | aborts exchanges failure starting =>
      exact ⟨Bool.noConfusion, Bool.noConfusion, ready.installed,
        ready.started, by simp⟩

/-- The steps of the start are what they are called. -/
theorem Device.starts_of_check
    {device next : Device} (exchanges : List (List Byte × Exchange))
    (starting : device.point.starting = true) (outcome : EspResult Unit)
    (passed : outcome = .ok () → device.Starts next) :
    device.Starts
      (Device.check { device with exchanges := exchanges } outcome next) := by
  cases outcome with
  | ok => exact passed rfl
  | error failure => exact .aborts exchanges failure starting

/-- A call of `tud_hid_set_report_cb` puts a report of the right shape. -/
theorem Device.tudHidSetReportCb_effect
    {device : Device} (ready : device.Ready)
    (present : device.messages ≠ none)
    (hidInstance reportId : Byte) (buffer : List Byte) :
    (device.tudHidSetReportCb hidInstance reportId buffer).Ready ∧
      device.Effect (.setReport hidInstance reportId buffer)
        (device.tudHidSetReportCb hidInstance reportId buffer) := by
  unfold Device.tudHidSetReportCb
  split
  · rename_i accepted
    rw [Device.send_eq (by exact present)]
    have recorded : Device.Ready
        { device with reports := device.reports ++ [buffer] } :=
      ready.of_same rfl rfl rfl rfl
    exact ⟨recorded.replaces present _, .reports accepted⟩
  · rename_i refused
    exact ⟨ready, .idles (if_neg refused) rfl⟩

/-- A call of `cdc_receive_callback` puts what it has read. -/
theorem Device.cdcReceiveCallback_effect
    {device : Device} (ready : device.Ready)
    (present : device.messages ≠ none) (available : EspResult Nat) :
    (device.cdcReceiveCallback available).Ready ∧
      device.Effect (.cdcReceive available)
        (device.cdcReceiveCallback available) := by
  cases available with
  | error failure => exact ⟨ready, .idles rfl rfl⟩
  | ok count =>
      simp only [Device.cdcReceiveCallback]
      split
      · rename_i nonempty
        rw [Device.send_eq (by exact present)]
        have read : Device.Ready
            { device with
              rx := device.rx.drop (min count messageDataSize) } :=
          ready.of_same rfl rfl rfl rfl
        exact ⟨read.replaces present _,
          .reads _ (Nat.min_le_right _ _) nonempty (if_pos nonempty)⟩
      · rename_i nothing
        -- Nothing was read, so the port holds what it held before.
        have empty : device.rx.take (min count messageDataSize) = [] :=
          List.eq_nil_of_length_eq_zero (by omega)
        have same :
            device.rx.drop (min count messageDataSize) = device.rx := by
          have whole := List.take_append_drop
            (min count messageDataSize) device.rx
          rwa [empty, List.nil_append] at whole
        rw [same]
        exact ⟨ready, .idles (if_neg nothing) rfl⟩

/-- `usb_device_receive` takes the first message, or waits without one. -/
theorem Device.usbDeviceReceive_effect
    {device : Device} (ready : device.Ready)
    (point : device.point = .receiving) :
    device.usbDeviceReceive.Ready ∧
      device.Effect .receive device.usbDeviceReceive := by
  have present := ready.created (by rw [point]; rfl)
  unfold Device.usbDeviceReceive
  split
  · rename_i missing
    exact (present missing).elim
  · rename_i queue known
    have same : device.queue = queue := by
      rw [Device.queue, known, Option.getD_some]
    split
    · rename_i empty
      exact ⟨ready.moves present rfl,
        .waits point (same ▸ (Fifo.take_eq_none_iff queue).mp empty)⟩
    · rename_i message rest removed
      have moved := ready.moves present
        (rfl : MainPoint.created (.servicing (some message)) = true)
      exact ⟨moved.replaces present rest,
        .receives point (same ▸ Fifo.takes_of_take removed)⟩

/--
Step lemma: the queue exists where it is used, and so every step has one of the
effects above.
-/
theorem Device.effect_of_step
    {device next : Device} (ready : device.Ready) {action : UsbAction}
    (taken : device.step action = some next) :
    next.Ready ∧ device.Effect action next := by
  have begins : ∀ {after : Device},
      device.makes action = none → action.completes = false →
      device.Starts after →
        after.Ready ∧ device.Effect action after :=
    fun silent busy start =>
      ⟨ready.starts start, .starts silent busy start⟩
  cases action with
  | readerInit setup world =>
      simp only [Device.step] at taken
      split at taken
      · rename_i point
        cases taken
        apply begins rfl rfl
        apply Device.starts_of_check
        · rw [point]
          rfl
        · intro passed
          exact .reader setup world point passed
      · cases taken
  | createQueue allocated =>
      simp only [Device.step] at taken
      split at taken
      · rename_i point
        cases taken
        apply begins rfl rfl
        apply Device.starts_of_check device.exchanges
        · rw [point]
          rfl
        · intro _
          exact .queue point
      · cases taken
  | installTinyusb outcome =>
      simp only [Device.step] at taken
      split at taken
      · rename_i point
        cases taken
        apply begins rfl rfl
        apply Device.starts_of_check device.exchanges
        · rw [point]
          rfl
        · intro _
          exact .tinyusb point
      · cases taken
  | startCdc outcome =>
      simp only [Device.step] at taken
      split at taken
      · rename_i point
        cases taken
        apply begins rfl rfl
        apply Device.starts_of_check device.exchanges
        · rw [point]
          rfl
        · intro _
          exact .cdc point
      · cases taken
  | setReport hidInstance reportId buffer =>
      simp only [Device.step] at taken
      split at taken
      · rename_i running
        cases taken
        exact Device.tudHidSetReportCb_effect ready
          (ready.installed running.1) hidInstance reportId buffer
      · cases taken
  | cdcArrives octets =>
      simp only [Device.step] at taken
      split at taken
      · cases taken
        exact ⟨ready.of_same rfl rfl rfl rfl, .arrives octets⟩
      · cases taken
  | cdcReceive available =>
      simp only [Device.step] at taken
      split at taken
      · rename_i running
        cases taken
        exact Device.cdcReceiveCallback_effect ready
          (ready.started running.1) available
      · cases taken
  | receive =>
      simp only [Device.step] at taken
      split at taken
      · rename_i point
        cases taken
        exact Device.usbDeviceReceive_effect ready point
      · cases taken
  | complete environment =>
      simp only [Device.step] at taken
      split at taken
      · rename_i message point
        cases taken
        have present := ready.created (by rw [point]; rfl)
        have moved := ready.moves present
          (rfl : MainPoint.created .receiving = true)
        exact ⟨moved.of_same rfl rfl rfl rfl, .completes environment point⟩
      · cases taken

theorem ready_of_reachable
    {device : Device} (reached : usbMachine.Reachable device) :
    device.Ready := by
  refine reached.invariant ready_poweredOn ?_
  intro state action next _ ready taken
  exact (Device.effect_of_step ready taken).1

/-! ## The loop behind the queue -/

/-- The report in a message of the PRHP interface. -/
def hidData : UsbMessage → Option (List Byte)
  | ⟨.hid, data⟩ => some data
  | ⟨.cdc, _⟩ => none

/-- The octets in a message of the CDC port. -/
def cdcOctets : UsbMessage → List Byte
  | ⟨.hid, _⟩ => []
  | ⟨.cdc, data⟩ => data

/-- A whole report, or a part of the CDC stream which fits a message. -/
def WellFormed : UsbMessage → Prop
  | ⟨.hid, data⟩ => data.length = prhpReportSize
  | ⟨.cdc, data⟩ => 0 < data.length ∧ data.length ≤ messageDataSize

/--
The invariant.  The completed iterations are a run of the loop, what they read
came out of the queue, and what was offered to the queue is what the host sent.
-/
structure Device.Consistent (device : Device) : Prop where
  app : device.app = stateAfter device.iterations
  outputs : device.outputs = outputsOf device.iterations
  serviced :
    device.queue.taken =
      device.iterations.filterMap Iteration.message ++ device.point.held
  reports : device.queue.offered.filterMap hidData = device.reports
  arrived :
    device.queue.offered.flatMap cdcOctets ++ device.rx = device.arrived
  wellFormed : ∀ message ∈ device.queue.offered, WellFormed message

theorem consistent_poweredOn : poweredOn.Consistent where
  app := rfl
  outputs := rfl
  serviced := rfl
  reports := rfl
  arrived := rfl
  wellFormed := List.forall_mem_nil _

theorem MainPoint.held_of_starting
    {point : MainPoint} (starting : point.starting = true) :
    point.held = [] := by
  cases point with
  | servicing message => cases starting
  | _ => rfl

/-- A step of the start changes nothing which the invariant speaks about. -/
theorem Device.Consistent.starts
    {device next : Device} (consistent : device.Consistent)
    (ready : device.Ready) (start : device.Starts next) :
    next.Consistent := by
  rcases consistent with
    ⟨app, outputs, serviced, reports, arrived, wellFormed⟩
  rw [MainPoint.held_of_starting start.starting] at serviced
  cases start with
  | queue point =>
      have missing := ready.early (by rw [point]; rfl)
      have empty : device.queue = Fifo.empty := by
        rw [Device.queue, missing, Option.getD_none]
      rw [empty] at serviced reports arrived wellFormed
      exact ⟨app, outputs, serviced, reports, arrived, wellFormed⟩
  | _ => exact ⟨app, outputs, serviced, reports, arrived, wellFormed⟩

/-- An offered message brings its report and its octets. -/
theorem offered_message
    (queue : MessageQueue) (message : UsbMessage) :
    (queue.offer message).offered.filterMap hidData =
        queue.offered.filterMap hidData ++ (hidData message).toList ∧
      (queue.offer message).offered.flatMap cdcOctets =
        queue.offered.flatMap cdcOctets ++ cdcOctets message := by
  rw [Fifo.offered_offer]
  constructor
  · cases known : hidData message <;> simp [known]
  · simp

/-- The invariant allows a message to be put which the host has sent. -/
theorem Device.Consistent.offers
    {device : Device} (consistent : device.Consistent)
    {message : UsbMessage} {reports : List (List Byte)} {rx : List Byte}
    (reported : device.reports ++ (hidData message).toList = reports)
    (octets : cdcOctets message ++ rx = device.rx)
    (wellFormed : WellFormed message) :
    Device.Consistent
      { device with
        reports := reports
        rx := rx
        messages := some (device.queue.offer message) } := by
  rcases offered_message device.queue message with ⟨data, stream⟩
  refine ⟨consistent.app, consistent.outputs, ?_, ?_, ?_, ?_⟩
  · exact (Fifo.taken_offer _ _).trans consistent.serviced
  · refine data.trans ?_
    rw [consistent.reports, reported]
  · calc
      (device.queue.offer message).offered.flatMap cdcOctets ++ rx =
          device.queue.offered.flatMap cdcOctets ++
            (cdcOctets message ++ rx) := by
        rw [stream, List.append_assoc]
      _ = device.arrived := by rw [octets, consistent.arrived]
  · intro offered member
    rw [Device.queue, Option.getD_some, Fifo.offered_offer] at member
    rcases List.mem_append.mp member with earlier | new
    · exact consistent.wellFormed offered earlier
    · rwa [List.mem_singleton.mp new]

/-- The invariant allows the first message to be taken. -/
theorem Device.Consistent.receives
    {device : Device} (consistent : device.Consistent)
    {message : UsbMessage} {queue : MessageQueue}
    (point : device.point = .receiving)
    (removed : device.queue.Takes message queue) :
    Device.Consistent
      { device with
        messages := some queue
        point := .servicing (some message) } := by
  refine ⟨consistent.app, consistent.outputs, ?_, ?_, ?_, ?_⟩
  · have serviced := consistent.serviced
    rw [point] at serviced
    exact removed.taken.trans (congrArg (· ++ [message])
      (serviced.trans (List.append_nil _)))
  · exact (congrArg _ removed.offered).trans consistent.reports
  · refine Eq.trans ?_ consistent.arrived
    exact congrArg (fun offered => offered.flatMap cdcOctets ++ device.rx)
      removed.offered
  · intro offered member
    exact consistent.wellFormed offered (removed.offered ▸ member)

/-- The invariant allows an iteration to be completed. -/
theorem Device.Consistent.completes
    {device : Device} (consistent : device.Consistent)
    {message : Option UsbMessage} (environment : Iteration)
    (point : device.point = .servicing message) :
    (device.complete message environment).Consistent := by
  have serviced := consistent.serviced
  rw [point] at serviced
  have ran : appMain.run appStart
      (device.iterations ++ [{ environment with message := message }]) =
        ((iterate device.app { environment with message := message }).1,
          device.outputs ++
            (iterate device.app
              { environment with message := message }).2) := by
    rw [Transducer.run_append, Transducer.run_singleton,
      consistent.app, consistent.outputs]
    rfl
  refine ⟨?_, ?_, ?_, consistent.reports, consistent.arrived,
    consistent.wellFormed⟩
  · exact (congrArg Prod.fst ran).symm
  · exact (congrArg Prod.snd ran).symm
  · refine serviced.trans ?_
    cases message <;> simp [Device.complete, MainPoint.held]

theorem Device.Consistent.step
    {device next : Device} (consistent : device.Consistent)
    (ready : device.Ready) (action : UsbAction)
    (taken : device.step action = some next) :
    next.Consistent := by
  cases (Device.effect_of_step ready taken).2 with
  | starts silent busy start => exact consistent.starts ready start
  | idles silent busy => exact consistent
  | @reports hidInstance reportId buffer accepted =>
      simp only [IsPrhpReport, not_or, not_not] at accepted
      exact consistent.offers rfl rfl accepted.2.2
  | arrives octets =>
      refine ⟨consistent.app, consistent.outputs, consistent.serviced,
        consistent.reports, ?_, consistent.wellFormed⟩
      calc
        device.queue.offered.flatMap cdcOctets ++ (device.rx ++ octets) =
            device.queue.offered.flatMap cdcOctets ++ device.rx ++ octets :=
          (List.append_assoc _ _ _).symm
        _ = device.arrived ++ octets := by rw [consistent.arrived]
  | reads size bounded nonempty made =>
      refine consistent.offers (List.append_nil _)
        (List.take_append_drop _ _) ⟨nonempty, ?_⟩
      rw [List.length_take]
      exact Nat.le_trans (Nat.min_le_left _ _) bounded
  | receives point removed => exact consistent.receives point removed
  | waits point empty =>
      have serviced := consistent.serviced
      rw [point] at serviced
      exact ⟨consistent.app, consistent.outputs, serviced,
        consistent.reports, consistent.arrived, consistent.wellFormed⟩
  | completes environment point => exact consistent.completes environment point

theorem consistent_of_reachable
    {device : Device} (reached : usbMachine.Reachable device) :
    device.Consistent := by
  refine reached.invariant consistent_poweredOn ?_
  intro state action next before consistent taken
  exact consistent.step (ready_of_reachable before) action taken

/-! ## What the loop receives -/

/-- What has left the queue or is still in it. -/
def Device.passed (device : Device) : List UsbMessage :=
  device.iterations.filterMap Iteration.message ++ device.point.held ++
    device.queue.waiting

theorem Device.Consistent.admitted
    {device : Device} (consistent : device.Consistent) :
    device.queue.admitted = device.passed := by
  rw [device.queue.balanced, consistent.serviced]
  rfl

/--
For every interleaving, the completed iterations are a run of the main loop,
and what they serviced, with what is still waiting, is a selection in order of
the messages which the callbacks made: whole reports of the host and
consecutive parts of its CDC stream.  At most 16 messages wait.
-/
theorem messages_in_order
    (device : Device) (reached : usbMachine.Reachable device) :
    device.app = stateAfter device.iterations ∧
    device.outputs = outputsOf device.iterations ∧
    device.queue.offered.filterMap hidData = device.reports ∧
    device.queue.offered.flatMap cdcOctets ++ device.rx =
      device.arrived ∧
    (∀ message ∈ device.queue.offered, WellFormed message) ∧
    device.passed.Sublist device.queue.offered ∧
    device.queue.waiting.length ≤ 16 := by
  have consistent := consistent_of_reachable reached
  refine ⟨consistent.app, consistent.outputs, consistent.reports,
    consistent.arrived, consistent.wellFormed, ?_, device.queue.bounded⟩
  rw [← consistent.admitted]
  exact device.queue.selected

/-- A controller which accepts both configurations. -/
def configuredWorld : Pn532World := fun index _ =>
  if index = 0 then .answering pn532CommandSamConfiguration []
  else .answering pn532CommandRfConfiguration []

/-- A start without a failure. -/
def startsUp : List UsbAction :=
  [.readerInit ⟨.ok (), .ok (), .ok ()⟩ configuredWorld,
    .createQueue true, .installTinyusb (.ok ()), .startCdc (.ok ())]

/-- A version query of the host. -/
def queries : UsbAction :=
  .setReport 0 0 ([0x01, 0x01, 0x07] ++ List.replicate 61 0)

/-- One iteration in which no scan is due. -/
def iterates : List UsbAction :=
  [.receive, .complete (.scanning (-1) configuredWorld acceptingLink)]

/-- A part of a CDC stream. -/
def streams : List UsbAction :=
  [.cdcArrives [0xE0, 0x05, 0x00], .cdcReceive (.ok 64)]

/-- A report and then a part of the stream are serviced in this order. -/
theorem messages_in_order_queried :
    ∃ device, usbMachine.Reachable device ∧
      device.passed.map UsbMessage.type = [.hid, .cdc] ∧
      device.outputs = outputsOf device.iterations ∧
      device.queue.offered.filterMap hidData = device.reports ∧
      device.queue.offered.flatMap cdcOctets = [0xE0, 0x05, 0x00] ∧
      device.passed.Sublist device.queue.offered := by
  rcases
      usbMachine.exists_reachable_of_replay
        (fun device =>
          decide (device.passed.map UsbMessage.type = [.hid, .cdc]) &&
            decide (device.arrived = [0xE0, 0x05, 0x00]) &&
            decide (device.rx = []))
        (startsUp ++ queries :: streams ++ iterates ++ iterates)
        (by decide +kernel) with
    ⟨device, reached, passed⟩
  simp only [Bool.and_eq_true, decide_eq_true_eq] at passed
  rcases passed with ⟨⟨types, arrived⟩, rx⟩
  rcases messages_in_order device reached with
    ⟨-, outputs, reports, octets, -, selected, -⟩
  rw [rx, arrived, List.append_nil] at octets
  exact ⟨device, reached, types, outputs, reports, octets, selected⟩

/-! ## Loss -/

/-- A message which a callback makes finds room in the queue. -/
def HasRoom (device : Device) (action : UsbAction) : Prop :=
  device.makes action ≠ none →
    device.queue.waiting.length < messageCapacity

theorem Device.lossless_step
    {device next : Device} (ready : device.Ready) (action : UsbAction)
    (taken : device.step action = some next) :
    next.queue.Lossless ↔
      device.queue.Lossless ∧ HasRoom device action := by
  have quiet : device.makes action = none → HasRoom device action :=
    fun silent made => (made silent).elim
  cases (Device.effect_of_step ready taken).2 with
  | starts silent busy start =>
      rw [and_iff_left (quiet silent)]
      cases start with
      | queue point =>
          have missing := ready.early (by rw [point]; rfl)
          have empty : device.queue = Fifo.empty := by
            rw [Device.queue, missing, Option.getD_none]
          rw [empty]
          exact Iff.rfl
      | _ => exact Iff.rfl
  | idles silent busy => exact (and_iff_left (quiet silent)).symm
  | @reports hidInstance reportId buffer accepted =>
      have made : device.makes (.setReport hidInstance reportId buffer) ≠
          none := by
        simp [Device.makes, accepted]
      refine (Fifo.lossless_offer_iff device.queue _).trans ?_
      exact and_congr_right (fun _ => ⟨fun room _ => room, (· made)⟩)
  | arrives octets => exact (and_iff_left (quiet rfl)).symm
  | reads size bounded nonempty made =>
      refine (Fifo.lossless_offer_iff device.queue _).trans ?_
      refine and_congr_right (fun _ => ⟨fun room _ => room, ?_⟩)
      intro room
      exact room (by rw [made]; exact Option.some_ne_none _)
  | receives point removed =>
      exact removed.lossless_iff.trans (and_iff_left (quiet rfl)).symm
  | waits point empty => exact (and_iff_left (quiet rfl)).symm
  | completes environment point => exact (and_iff_left (quiet rfl)).symm

/-- Everything which the host has sent was serviced or is on its way. -/
structure Device.NothingLost (device : Device) : Prop where
  reports : device.passed.filterMap hidData = device.reports
  octets : device.passed.flatMap cdcOctets ++ device.rx = device.arrived

/-- What a message carries: a report, or octets. -/
def weight (message : UsbMessage) : Nat :=
  (hidData message).toList.length + (cdcOctets message).length

theorem sum_weight (messages : List UsbMessage) :
    (messages.map weight).sum =
      (messages.filterMap hidData).length +
        (messages.flatMap cdcOctets).length := by
  induction messages with
  | nil => rfl
  | cons message rest induction =>
      rw [List.map_cons, List.sum_cons, induction, weight]
      cases known : hidData message <;> simp [known] <;> omega

theorem weight_pos {message : UsbMessage} (wellFormed : WellFormed message) :
    0 < weight message := by
  rcases message with ⟨_ | _, data⟩
  · exact Nat.zero_lt_succ _
  · exact Nat.lt_of_lt_of_le wellFormed.1 (Nat.le_add_left _ _)

/-- A queue which lost a message lost a report or an octet. -/
theorem Device.Consistent.lossless_iff
    {device : Device} (consistent : device.Consistent) :
    device.queue.Lossless ↔ device.NothingLost := by
  have selected := device.queue.selected
  rw [consistent.admitted] at selected
  unfold Fifo.Lossless
  rw [consistent.admitted]
  constructor
  · intro same
    exact ⟨same ▸ consistent.reports, same ▸ consistent.arrived⟩
  · rintro ⟨reports, octets⟩
    have arrived := octets.trans consistent.arrived.symm
    apply Fifo.eq_of_sublist_of_weight weight selected
    · intro message member
      exact weight_pos (consistent.wellFormed message member)
    · rw [sum_weight, sum_weight, reports, consistent.reports,
        List.append_cancel_right arrived]

/--
Over every trace from power-on, all reports and octets of the host have been
serviced or are on their way if and only if no callback with a message ever met
a full queue.
-/
theorem nothing_lost_iff
    (trace : List UsbAction) (device : Device)
    (replayed : usbMachine.replay poweredOn trace = some device) :
    device.NothingLost ↔
      usbMachine.Throughout HasRoom poweredOn trace := by
  have reached : usbMachine.Reachable device :=
    Machine.Reachable.start.replay trace replayed
  rw [← (consistent_of_reachable reached).lossless_iff]
  have stepwise :=
    @Machine.replay_property_iff _ _ usbMachine Device.Ready
      (fun state => state.queue.Lossless) HasRoom
      (fun _ _ _ ready taken => (Device.effect_of_step ready taken).1)
      (fun _ action _ ready taken =>
        Device.lossless_step ready action taken)
      poweredOn device ready_poweredOn trace replayed
  exact stepwise.trans (and_iff_right Fifo.lossless_empty)

theorem nothing_lost_queried :
    ∃ device,
      usbMachine.replay poweredOn (startsUp ++ queries :: iterates) =
        some device ∧
      device.reports.length = 1 ∧
      usbMachine.Throughout HasRoom poweredOn
        (startsUp ++ queries :: iterates) := by
  have serviced :
      (usbMachine.replay poweredOn
          (startsUp ++ queries :: iterates)).any (fun device =>
        decide (device.reports.length = 1) &&
          decide (device.passed.filterMap hidData = device.reports) &&
          decide (device.passed.flatMap cdcOctets ++ device.rx =
            device.arrived)) = true := by
    decide +kernel
  rcases (Option.any_eq_true _ _).mp serviced with
    ⟨device, replayed, passed⟩
  simp only [Bool.and_eq_true, decide_eq_true_eq] at passed
  rcases passed with ⟨⟨sent, reports⟩, octets⟩
  exact ⟨device, replayed, sent,
    (nothing_lost_iff _ device replayed).mp ⟨reports, octets⟩⟩

/-! ## Waiting -/

/-- The messages which the loop has serviced. -/
def Device.serviced (device : Device) : List UsbMessage :=
  device.iterations.filterMap Iteration.message

theorem Device.queue_later
    {device next : Device} (ready : device.Ready) {action : UsbAction}
    (taken : device.step action = some next) :
    device.queue.Later next.queue := by
  cases (Device.effect_of_step ready taken).2 with
  | starts silent busy start =>
      cases start with
      | queue point =>
          have missing := ready.early (by rw [point]; rfl)
          have empty : device.queue = Fifo.empty := by
            rw [Device.queue, missing, Option.getD_none]
          rw [empty]
          exact Fifo.Later.refl _
      | _ => exact Fifo.Later.refl _
  | reports accepted => exact Fifo.later_offer _ _
  | reads size bounded nonempty made => exact Fifo.later_offer _ _
  | receives point removed => exact removed.later
  | _ => exact Fifo.Later.refl _

/--
The marked messages, a prefix of what has passed the queue, are serviced after
at most `left` further iterations.  An iteration which has found the queue empty
does not count.
-/
structure Device.Within (device : Device) (marked : List UsbMessage)
    (left : Nat) : Prop where
  passed : marked <+: device.passed
  bound : marked.length ≤ device.serviced.length + left
  waiting : device.point = .servicing none →
    marked.length ≤ device.serviced.length + (left - 1)

theorem Device.Within.of_same
    {device next : Device} {marked : List UsbMessage} {left : Nat}
    (within : device.Within marked left)
    (passed : marked <+: next.passed)
    (serviced : next.serviced = device.serviced)
    (point : next.point = .servicing none →
      device.point = .servicing none) :
    next.Within marked left := by
  refine ⟨passed, ?_, ?_⟩
  · rw [serviced]
    exact within.bound
  · intro waits
    rw [serviced]
    exact within.waiting (point waits)

theorem Device.Within.step
    {device next : Device} {marked : List UsbMessage} {left : Nat}
    (within : device.Within marked left) (ready : device.Ready)
    (consistent : device.Consistent) (action : UsbAction)
    (taken : device.step action = some next) :
    next.Within marked
      (if action.completes = true then left - 1 else left) := by
  have passed : marked <+: next.passed := by
    have grown := (Device.queue_later ready taken).admitted
    rw [consistent.admitted,
      (consistent.step ready action taken).admitted] at grown
    exact within.passed.trans grown
  cases (Device.effect_of_step ready taken).2 with
  | starts silent busy start =>
      rw [busy]
      refine within.of_same passed ?_ ?_
      · cases start <;> rfl
      · cases start <;> exact MainPoint.noConfusion
  | idles silent busy =>
      rw [busy]
      exact within
  | reports accepted => exact within.of_same passed rfl id
  | arrives octets => exact within.of_same passed rfl id
  | reads size bounded nonempty made => exact within.of_same passed rfl id
  | receives point removed =>
      refine within.of_same passed rfl ?_
      intro empty
      cases empty
  | waits point empty =>
      -- Nothing waited, so the marked messages were serviced before.
      have everything : device.passed = device.serviced := by
        rw [Device.passed, point, empty, List.append_nil]
        exact List.append_nil _
      have serviced := within.passed.length_le
      rw [everything] at serviced
      exact ⟨passed, Nat.le_trans serviced (Nat.le_add_right _ _),
        fun _ => Nat.le_trans serviced (Nat.le_add_right _ _)⟩
  | @completes message environment point =>
      refine ⟨passed, ?_, MainPoint.noConfusion⟩
      have serviced :
          (device.complete message environment).serviced =
            device.serviced ++ message.toList := by
        cases message <;> simp [Device.complete, Device.serviced]
      rw [serviced, List.length_append]
      cases message with
      | none => exact within.waiting point
      | some message =>
          have bound := within.bound
          simp only [UsbAction.completes, if_true, Option.toList_some,
            List.length_singleton]
          omega

/-- Run lemma: every completed iteration brings the marked messages closer. -/
theorem Device.Within.replay
    {device later : Device} {marked : List UsbMessage} {left : Nat}
    (within : device.Within marked left) (ready : device.Ready)
    (consistent : device.Consistent) (trace : List UsbAction)
    (replayed : usbMachine.replay device trace = some later) :
    later.Within marked (left - trace.countP UsbAction.completes) := by
  induction trace generalizing device left with
  | nil =>
      simp only [Machine.replay, Option.some.injEq] at replayed
      exact replayed ▸ within
  | cons action rest induction =>
      simp only [Machine.replay, Option.bind_eq_some_iff] at replayed
      rcases replayed with ⟨next, taken, continued⟩
      have final :=
        induction (within.step ready consistent action taken)
          (Device.effect_of_step ready taken).1
          (consistent.step ready action taken) continued
      rw [List.countP_cons]
      cases ends : action.completes with
      | false =>
          rw [ends] at final
          exact final
      | true =>
          rw [ends] at final
          have same :
              left - 1 - rest.countP UsbAction.completes =
                left - (rest.countP UsbAction.completes + 1) := by
            omega
          exact same ▸ final

/--
A message which the queue has admitted is serviced within 17 iterations of the
loop, whatever the callbacks do in the meantime.
-/
theorem serviced_within
    (device later : Device) (reached : usbMachine.Reachable device)
    (trace : List UsbAction)
    (replayed : usbMachine.replay device trace = some later)
    (enough : 17 ≤ trace.countP UsbAction.completes) :
    device.passed <+: later.serviced := by
  have ready := ready_of_reachable reached
  have consistent := consistent_of_reachable reached
  have length :
      device.passed.length =
        device.serviced.length + device.point.held.length +
          device.queue.waiting.length := by
    simp only [Device.passed, Device.serviced, List.length_append]
  have room := device.queue.bounded
  have held : device.point.held.length ≤ 1 := by
    cases device.point with
    | servicing message => cases message <;> simp [MainPoint.held]
    | _ => exact Nat.zero_le _
  have initially : device.Within device.passed 17 := by
    refine ⟨List.prefix_refl _, ?_, ?_⟩
    · unfold messageCapacity at room
      omega
    · intro empty
      rw [empty] at length
      unfold messageCapacity at room
      simp only [MainPoint.held, Option.toList_none, List.length_nil]
        at length
      omega
  have final := initially.replay ready consistent trace replayed
  have nothing : 17 - trace.countP UsbAction.completes = 0 := by omega
  rw [nothing] at final
  apply List.prefix_of_prefix_length_le final.passed ?_ final.bound
  rw [Device.passed, List.append_assoc]
  exact List.prefix_append _ _

/-- Seventeen iterations in which no scan is due. -/
def iteratesOn : List UsbAction :=
  (List.replicate 17 iterates).flatten

theorem serviced_within_queried :
    ∃ device later,
      usbMachine.Reachable device ∧
      device.passed.length = 1 ∧ device.serviced = [] ∧
      usbMachine.replay device iteratesOn = some later ∧
      device.passed <+: later.serviced := by
  rcases
      usbMachine.exists_reachable_of_replay
        (fun device =>
          decide (device.passed.length = 1) &&
            decide (device.serviced = []) &&
            (usbMachine.replay device iteratesOn).isSome)
        (startsUp ++ [queries]) (by decide +kernel) with
    ⟨device, reached, waiting⟩
  simp only [Bool.and_eq_true, decide_eq_true_eq] at waiting
  rcases waiting with ⟨⟨one, nothing⟩, continues⟩
  rcases Option.isSome_iff_exists.mp continues with ⟨later, replayed⟩
  exact ⟨device, later, reached, one, nothing, replayed,
    serviced_within device later reached iteratesOn replayed
      (by decide)⟩

/-! ## The start -/

/--
The PN532 was sent the SAM configuration and the retry configuration, in this
order, and accepted both.
-/
def Initialised (exchanges : List (List Byte × Exchange)) : Prop :=
  ∃ sam retries samFrame retriesFrame,
    writeFrame pn532CommandSamConfiguration [0x01, 0x14, 0x01] =
      .ok samFrame ∧
    writeFrame pn532CommandRfConfiguration [0x05, 0xFF, 0x01, 0x00] =
      .ok retriesFrame ∧
    exchanges = [(samFrame, sam), (retriesFrame, retries)] ∧
    (∃ payload,
      sam.outcome pn532CommandSamConfiguration 8 = .ok payload) ∧
    ∃ payload, retries.outcome pn532CommandRfConfiguration 8 = .ok payload

theorem initialised_of_pn532Init
    (setup : I2cSetup) (world : Pn532World)
    (passed : (pn532Init setup).run world = .ok ()) :
    Initialised ((pn532Init setup).transcript world) := by
  have records :
      (pn532Init setup).Records (fun history result =>
        result = .ok () → Initialised history) := by
    unfold pn532Init
    cases setup.outcome with
    | error failure =>
        intro impossible
        cases impossible
    | ok =>
        intro sam
        cases first : sam.outcome pn532CommandSamConfiguration 8 with
        | error failure =>
            simp only [first]
            intro impossible
            cases impossible
        | ok payload =>
            simp only [first]
            intro retries answered
            cases second :
                retries.outcome pn532CommandRfConfiguration 8 with
            | error failure =>
                rw [second] at answered
                cases answered
            | ok payload =>
                exact ⟨sam, retries, _, _, rfl, rfl, rfl, ⟨_, first⟩,
                  ⟨_, second⟩⟩
  exact records.run world passed

/-- The control points of the loop. -/
def MainPoint.looping : MainPoint → Bool
  | .receiving => true
  | .servicing _ => true
  | _ => false

theorem MainPoint.created_of_looping
    {point : MainPoint} (looping : point.looping = true) :
    point.created = true := by
  cases point with
  | receiving => rfl
  | servicing message => rfl
  | _ => cases looping

theorem MainPoint.not_starting_of_looping
    {point : MainPoint} (looping : point.looping = true) :
    point.starting = false := by
  cases point with
  | receiving => rfl
  | servicing message => rfl
  | _ => cases looping

/-- What has happened at each control point of the start. -/
structure Device.Begun (device : Device) : Prop where
  initialised : device.point ≠ .startingReader →
    (∀ failure, device.point ≠ .aborted (.check failure)) →
      Initialised device.exchanges
  installed : device.point.created = true →
    device.point ≠ .installingTinyusb → device.installed = true
  started : device.point.created = true →
    device.point.starting = false → device.cdcStarted = true
  untouched : device.point.created = false ∨
    device.point.starting = true →
      device.iterations = [] ∧ device.outputs = []

theorem begun_poweredOn : poweredOn.Begun where
  initialised other := (other rfl).elim
  installed := Bool.noConfusion
  started := Bool.noConfusion
  untouched _ := ⟨rfl, rfl⟩

/-- The loop and the callbacks keep what the start has established. -/
theorem Device.Begun.runs
    {device next : Device} (begun : device.Begun)
    (point : next.point = device.point)
    (exchanges : next.exchanges = device.exchanges)
    (installed : next.installed = device.installed)
    (cdcStarted : next.cdcStarted = device.cdcStarted)
    (iterations : next.iterations = device.iterations)
    (outputs : next.outputs = device.outputs) :
    next.Begun := by
  rcases begun with ⟨initialised, whenInstalled, started, untouched⟩
  constructor
  · rwa [point, exchanges]
  · rwa [point, installed]
  · rwa [point, cdcStarted]
  · rwa [point, iterations, outputs]

/-- Within the loop, nothing is left to establish. -/
theorem Device.Begun.loops
    {device : Device} (begun : device.Begun)
    (looping : device.point.looping = true)
    {messages : Option MessageQueue} {point : MainPoint}
    (continues : point.looping = true) :
    Device.Begun
      { device with messages := messages, point := point } := by
  have created := MainPoint.created_of_looping looping
  have apart := MainPoint.not_starting_of_looping looping
  have established := begun.initialised
    (by rintro same; rw [same] at looping; cases looping)
    (by rintro failure same; rw [same] at looping; cases looping)
  have installed := begun.installed created
    (by rintro same; rw [same] at looping; cases looping)
  refine ⟨fun _ _ => established, fun _ _ => installed,
    fun _ _ => begun.started created apart, ?_⟩
  rintro (outside | starting)
  · rw [MainPoint.created_of_looping continues] at outside
    cases outside
  · rw [MainPoint.not_starting_of_looping continues] at starting
    cases starting

theorem Device.Begun.starts
    {device next : Device} (begun : device.Begun)
    (start : device.Starts next) :
    next.Begun := by
  have nothing := begun.untouched (Or.inr start.starting)
  cases start with
  | reader setup world point passed =>
      exact ⟨fun _ _ => initialised_of_pn532Init setup world passed,
        Bool.noConfusion, Bool.noConfusion, fun _ => nothing⟩
  | queue point =>
      refine ⟨fun _ _ => begun.initialised ?_ ?_, ?_, ?_,
        fun _ => nothing⟩
      · rw [point]
        exact MainPoint.noConfusion
      · rw [point]
        exact fun _ => MainPoint.noConfusion
      · intro _ other
        exact (other rfl).elim
      · exact fun _ => Bool.noConfusion
  | tinyusb point =>
      refine ⟨fun _ _ => begun.initialised ?_ ?_, fun _ _ => rfl, ?_,
        fun _ => nothing⟩
      · rw [point]
        exact MainPoint.noConfusion
      · rw [point]
        exact fun _ => MainPoint.noConfusion
      · exact fun _ => Bool.noConfusion
  | cdc point =>
      refine ⟨fun _ _ => begun.initialised ?_ ?_, ?_, fun _ _ => rfl, ?_⟩
      · rw [point]
        exact MainPoint.noConfusion
      · rw [point]
        exact fun _ => MainPoint.noConfusion
      · intro _ _
        exact begun.installed (by rw [point]; rfl)
          (by rw [point]; exact MainPoint.noConfusion)
      · exact fun _ => nothing
  | aborts exchanges failure starting =>
      refine ⟨fun _ other => (other failure rfl).elim, Bool.noConfusion,
        Bool.noConfusion, fun _ => nothing⟩

theorem Device.Begun.step
    {device next : Device} (begun : device.Begun) (ready : device.Ready)
    (action : UsbAction) (taken : device.step action = some next) :
    next.Begun := by
  cases (Device.effect_of_step ready taken).2 with
  | starts silent busy start => exact begun.starts start
  | idles silent busy => exact begun
  | reports accepted => exact begun.runs rfl rfl rfl rfl rfl rfl
  | arrives octets => exact begun.runs rfl rfl rfl rfl rfl rfl
  | reads size bounded nonempty made =>
      exact begun.runs rfl rfl rfl rfl rfl rfl
  | receives point removed => exact begun.loops (by rw [point]; rfl) rfl
  | waits point empty => exact begun.loops (by rw [point]; rfl) rfl
  | @completes message environment point =>
      have looping :=
        @Device.Begun.loops device begun (by rw [point]; rfl)
          device.messages .receiving rfl
      refine ⟨looping.initialised, looping.installed, looping.started, ?_⟩
      rintro (created | starting)
      · cases created
      · cases starting

theorem begun_of_reachable
    {device : Device} (reached : usbMachine.Reachable device) :
    device.Begun := by
  refine reached.invariant begun_poweredOn ?_
  intro state action next before begun taken
  exact begun.step (ready_of_reachable before) action taken

/--
For every interleaving of the callbacks with the start and every outcome of its
checks: no queue operation meets a queue which does not exist; the loop is only
entered with the PN532 configured and with TinyUSB and the CDC port started; and
before that, as after a failed check, no iteration has run.
-/
theorem start_precedes_loop
    (device : Device) (reached : usbMachine.Reachable device) :
    device.point ≠ .aborted .nullQueue ∧
    (device.point.looping = true →
      Initialised device.exchanges ∧ device.messages ≠ none ∧
        device.installed = true ∧ device.cdcStarted = true) ∧
    (device.point.looping = false →
      device.iterations = [] ∧ device.outputs = []) := by
  have ready := ready_of_reachable reached
  have begun := begun_of_reachable reached
  refine ⟨ready.present, ?_, ?_⟩
  · intro looping
    have created := MainPoint.created_of_looping looping
    have apart := MainPoint.not_starting_of_looping looping
    refine ⟨begun.initialised ?_ ?_, ready.created created,
      begun.installed created ?_, begun.started created apart⟩
    · intro same
      rw [same] at looping
      cases looping
    · intro failure same
      rw [same] at looping
      cases looping
    · intro same
      rw [same] at looping
      cases looping
  · intro outside
    apply begun.untouched
    cases known : device.point with
    | receiving =>
        rw [known] at outside
        cases outside
    | servicing message =>
        rw [known] at outside
        cases outside
    | aborted cause => exact Or.inl rfl
    | _ => exact Or.inr rfl

theorem start_precedes_loop_started :
    ∃ device, usbMachine.Reachable device ∧
      device.point.looping = true ∧ Initialised device.exchanges := by
  rcases
      usbMachine.exists_reachable_of_replay
        (fun device => device.point.looping) startsUp
        (by decide +kernel) with
    ⟨device, reached, looping⟩
  exact ⟨device, reached, looping,
    ((start_precedes_loop device reached).2.1 looping).1⟩

end Pareader.Firmware.UsbDevice
