import Pareader.Firmware.SegaFraming

/-!
# Frames on the CDC port

`usb_device_send_cdc` hands a frame to the transmit queue of TinyUSB and
flushes the queue.  The queue function returns how many octets it took, as a
`size_t`; the error macro around it takes this number for an `esp_err_t`.

That only whole frames leave the port is stated over a sequence of calls with an
arbitrary queue.  It holds exactly where every call is cut short: a frame which
is queued whole is reported as an error and not flushed, and a frame of which
nothing is queued is reported as sent.
-/

namespace Pareader.Firmware.CdcPort

open Pareader.Core
open Pareader.Firmware.SegaFraming

/-- `esp_err_t` is an `int`. -/
abbrev EspErrT := Int32

def espOk : EspErrT := 0

/--
One call of `usb_device_send_cdc` with a frame from `send_response`, and what
TinyUSB does in it: the free space of the transmit queue and the number of
octets which `tinyusb_cdcacm_write_queue` takes and returns.
-/
structure CdcCall where
  response : Response
  frame : List Byte
  sent : frame ∈ response.frames
  free : Nat
  queued : Nat
  room : queued ≤ free
  bounded : queued ≤ frame.length

/-- `tinyusb_cdcacm_write_flush`, which succeeds. -/
def tinyusbCdcacmWriteFlush : EspErrT := espOk

/--
The result of `usb_device_send_cdc` and whether it calls the flush.
`ESP_RETURN_ON_ERROR` converts its argument to `esp_err_t`.
-/
def CdcCall.usbDeviceSendCdc (call : CdcCall) : EspErrT × Bool :=
  let errRc := Int32.ofNat call.queued
  if errRc ≠ espOk then
    (errRc, false)
  else
    (tinyusbCdcacmWriteFlush, true)

def CdcCall.result (call : CdcCall) : EspErrT :=
  call.usbDeviceSendCdc.1

/-- What a call does to the port. -/
inductive CdcEvent where
  | queued (octets : List Byte)
  | flush
deriving DecidableEq, Repr

def CdcCall.events (call : CdcCall) : List CdcEvent :=
  .queued (call.frame.take call.queued) ::
    if call.usbDeviceSendCdc.2 then [.flush] else []

/-- The calls which are reported as successful. -/
def succeeded (calls : List CdcCall) : List CdcCall :=
  calls.filter (fun call => call.result = espOk)

/--
Only whole frames leave the port: success is reported exactly for the frames
which were queued whole, these are flushed, and what the successful calls do is
to queue and flush one whole frame after another.
-/
structure WholeFrames (calls : List CdcCall) : Prop where
  reported : ∀ call ∈ calls,
    call.result = espOk ↔ call.queued = call.frame.length
  flushed : ∀ call ∈ calls, call.queued = call.frame.length →
    call.usbDeviceSendCdc.2 = true
  stream :
    (succeeded calls).flatMap CdcCall.events =
      (succeeded calls).flatMap
        (fun call => [.queued call.frame, .flush])

/-- The queue took some octets of the frame, but not all. -/
def CdcCall.CutShort (call : CdcCall) : Prop :=
  0 < call.queued ∧ call.queued < call.frame.length

/-- A call succeeds exactly when nothing was queued. -/
theorem CdcCall.result_eq_espOk_iff (call : CdcCall) :
    call.result = espOk ↔ call.queued = 0 := by
  have size := (Response.length_frame call.sent).2
  have bounded := call.bounded
  have converted : Int32.ofNat call.queued = espOk ↔ call.queued = 0 := by
    constructor
    · intro zero
      have value := congrArg Int32.toInt zero
      rw [Int32.toInt_ofNat_of_lt (by omega)] at value
      exact Int.ofNat_eq_zero.mp value
    · intro zero
      rw [zero]
      rfl
  rw [CdcCall.result, CdcCall.usbDeviceSendCdc, ← converted]
  split
  · rename_i failed
    exact iff_of_false failed failed
  · rename_i passed
    exact iff_of_true rfl (not_not.mp passed)

/--
Only whole frames leave the port exactly when the queue cuts every frame short.
-/
theorem wholeFrames_iff (calls : List CdcCall) :
    WholeFrames calls ↔ ∀ call ∈ calls, call.CutShort := by
  constructor
  · intro whole call member
    have size := (Response.length_frame call.sent).1
    have bounded := call.bounded
    have reported := whole.reported call member
    rw [call.result_eq_espOk_iff] at reported
    rw [CdcCall.CutShort]
    omega
  · intro short
    have failed : ∀ call ∈ calls, call.result ≠ espOk := by
      intro call member success
      have empty := call.result_eq_espOk_iff.mp success
      exact Nat.ne_of_gt (short call member).1 empty
    have nothing : succeeded calls = [] := by
      apply List.filter_eq_nil_iff.mpr
      intro call member success
      exact failed call member (of_decide_eq_true success)
    constructor
    · intro call member
      refine iff_of_false (failed call member) ?_
      exact Nat.ne_of_lt (short call member).2
    · intro call member whole
      exact (Nat.ne_of_lt (short call member).2 whole).elim
    · rw [nothing]
      rfl

/-- The reply to `RESET` meets a queue with room for it. -/
def resetCall : CdcCall where
  response := ⟨[0x05, 0x00, 0x01, 0x62, 0x00], 0x03, []⟩
  frame := [0xE0, 0x06, 0x00, 0x01, 0x62, 0x03, 0x00, 0x6C]
  sent := by decide
  free := 64
  queued := 8
  room := by decide
  bounded := by decide

/-- It is queued whole, but reported as an error and not flushed. -/
theorem resetCall_reported_as_error :
    resetCall.queued = resetCall.frame.length ∧
      resetCall.usbDeviceSendCdc = (8, false) ∧
      ¬ WholeFrames [resetCall] := by
  refine ⟨rfl, by decide, ?_⟩
  intro whole
  have flushed := whole.flushed resetCall List.mem_cons_self rfl
  exact absurd flushed (by decide)

end Pareader.Firmware.CdcPort
