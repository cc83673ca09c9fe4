import Mathlib.Logic.Function.Basic
import Msm7x27a.Lib.Runs
import Msm7x27a.Voip.Streams

/-!
# Operations on the VoIP streams

`Device` is what the VoIP streams share and are: the hardware, the input streams by handle, the
direct output, and the log of the driver.  `step` carries out one operation of a client as one
step: opening, reading or writing, `standby()` and closing.  `none` stands for an operation that
cannot be carried out: it is called on a stream that does not exist, it dereferences a null
`mHardware`, or its last driver call has not returned.
-/

namespace Msm7x27a.Voip

open Msm7x27a.Audio

/-- The hardware, the streams and the log. -/
structure Device where
  hw : AudioHardware := {}
  mVoipInputs : ℕ → Option AudioStreamInVoip := fun _ => none
  mDirectOutput : Option AudioStreamOutDirect := none
  log : List MvsEvent := []

/-- An operation of a client, with the answers of the driver. -/
inductive Op where
  /-- `openInputStream` at 8000 Hz for `DEVICE_IN_COMMUNICATION`; `junk` is what the memory of the
  new object holds for `mFirstread`. -/
  | openInputStream (h : ℕ) (junk : Bool) (a : StreamArgs) (o : MvsOutcome)
  | read (h bytes : ℕ) (o : MvsOutcome) (results : List AudioStreamInVoip.ReadResult)
  | standbyIn (h : ℕ)
  | closeInputStream (h : ℕ)
  /-- `openOutputStream` with `AUDIO_OUTPUT_FLAG_DIRECT` and `AUDIO_OUTPUT_FLAG_VOIP_RX`. -/
  | openOutputStream (a : StreamArgs)
  | write (bytes : ℕ) (frame : MvsFrame) (o : MvsOutcome)
      (results : List AudioStreamOutDirect.WriteResult)
  | standbyOut
  | closeOutputStream
  deriving DecidableEq, Repr

namespace Device

/-- The input stream `h` as a method sees it. -/
def onIn (w : Device) (s : AudioStreamInVoip) : OnIn := ⟨w.hw, s, w.log⟩

/-- The direct output as a method sees it. -/
def onOut (w : Device) (s : AudioStreamOutDirect) : OnOut := ⟨w.hw, s, w.log⟩

@[simp] theorem onIn_hw (w : Device) (s : AudioStreamInVoip) : (w.onIn s).hw = w.hw := rfl
@[simp] theorem onIn_s (w : Device) (s : AudioStreamInVoip) : (w.onIn s).s = s := rfl
@[simp] theorem onIn_log (w : Device) (s : AudioStreamInVoip) : (w.onIn s).log = w.log := rfl
@[simp] theorem onOut_hw (w : Device) (s : AudioStreamOutDirect) : (w.onOut s).hw = w.hw := rfl
@[simp] theorem onOut_s (w : Device) (s : AudioStreamOutDirect) : (w.onOut s).s = s := rfl
@[simp] theorem onOut_log (w : Device) (s : AudioStreamOutDirect) : (w.onOut s).log = w.log := rfl

/-- A method of the input stream `h` has left `c`; `call` returned. -/
def putIn (w : Device) (h : ℕ) (c : OnIn) (call : Call) (ok : Bool) : Device :=
  { w with
    hw := c.hw, mVoipInputs := Function.update w.mVoipInputs h (some c.s)
    log := .returned call ok :: c.log }

/-- A method of the direct output has left `c`; `call` returned. -/
def putOut (w : Device) (c : OnOut) (call : Call) (ok : Bool) : Device :=
  { w with hw := c.hw, mDirectOutput := some c.s, log := .returned call ok :: c.log }

/-- The `DEVICE_IN_COMMUNICATION` branch of `openInputStream`.  A stream whose `set` failed before
it set `mHardware` is deleted through a null pointer. -/
def openInputStream (P : Platform) (w : Device) (h : ℕ) (junk : Bool) (a : StreamArgs)
    (o : MvsOutcome) : Option Device :=
  if a.rate ≠ 8000 ∨ w.mVoipInputs h ≠ none then none
  else
    let r := AudioStreamInVoip.set P (w.onIn { mFirstread := junk }) a o
    let c := r.2.2
    if r.1 ≠ noError then
      if c.s.mHardware then
        let c := AudioStreamInVoip.destroy P h c
        some { w with hw := c.hw, log := c.log }
      else none
    else if c.hw.mVoipOutActive then
      some { w with
        hw := (setupDeviceforVoipCall P true c.hw).2
        mVoipInputs := Function.update w.mVoipInputs h (some { c.s with mSetupDevice := true })
        log := .returned (.openStream (.inp h)) true :: c.log }
    else
      some { w with
        hw := c.hw, mVoipInputs := Function.update w.mVoipInputs h (some c.s)
        log := .returned (.openStream (.inp h)) true :: c.log }

/-- A `read` succeeds when it delivers a frame and does not return an error. -/
def readOk (r : AudioStreamInVoip.ReadReturn) : Bool := 0 ≤ r.ret ∧ r.stored ≠ []

def read (P : Platform) (w : Device) (h bytes : ℕ) (o : MvsOutcome)
    (results : List AudioStreamInVoip.ReadResult) : Option Device :=
  (w.mVoipInputs h).bind fun s =>
    (AudioStreamInVoip.read P (w.onIn s) bytes o results).map fun r =>
      w.putIn h r.2 (.read h) (readOk r.1)

def standbyIn (P : Platform) (w : Device) (h : ℕ) : Option Device :=
  (w.mVoipInputs h).map fun s =>
    w.putIn h (AudioStreamInVoip.standby P h (w.onIn s)) (.standby (.inp h)) true

/-- `closeInputStream`; a handle that is no stream's is refused and nothing changes. -/
def closeInputStream (P : Platform) (w : Device) (h : ℕ) : Device :=
  match w.mVoipInputs h with
  | none => w
  | some s =>
    let c := AudioStreamInVoip.destroy P h (w.onIn s)
    { w with
      hw := c.hw, mVoipInputs := Function.update w.mVoipInputs h none
      log := .returned (.close (.inp h)) true :: c.log }

/-- The direct branch of `openOutputStream`.  A refused stream has no `mHardware`, so deleting it
dereferences a null pointer. -/
def openOutputStream (P : Platform) (w : Device) (a : StreamArgs) : Option Device :=
  match w.mDirectOutput with
  | some _ =>
    some { w with
      hw := { w.hw with mDirectOutrefCnt := w.hw.mDirectOutrefCnt + 1 }
      log := .returned (.openStream .out) true :: w.log }
  | none =>
    let r := AudioStreamOutDirect.set (w.onOut {}) a
    let c := r.2.2
    if r.1 ≠ noError then none
    else
      let hw := { c.hw with mDirectOutrefCnt := c.hw.mDirectOutrefCnt + 1 }
      let hw := if hw.mVoipInActive then (setupDeviceforVoipCall P true hw).2 else hw
      some { w with hw := hw, mDirectOutput := some c.s, log := .returned (.openStream .out) true :: c.log }

/-- A `write` succeeds when it takes the whole buffer. -/
def writeOk (bytes : ℕ) (r : AudioStreamOutDirect.WriteReturn) : Bool := r.ret = bytes

def write (P : Platform) (w : Device) (bytes : ℕ) (frame : MvsFrame) (o : MvsOutcome)
    (results : List AudioStreamOutDirect.WriteResult) : Option Device :=
  w.mDirectOutput.bind fun s =>
    (AudioStreamOutDirect.write P (w.onOut s) bytes frame o results).map fun r =>
      w.putOut r.2 .write (writeOk bytes r.1)

def standbyOut (P : Platform) (w : Device) : Option Device :=
  w.mDirectOutput.map fun s =>
    w.putOut (AudioStreamOutDirect.standby P (w.onOut s)) (.standby .out) true

/-- `closeOutputStream` of the direct output: the stream is deleted with its last reference. -/
def closeOutputStream (P : Platform) (w : Device) : Device :=
  match w.mDirectOutput with
  | none => w
  | some s =>
    let hw := { w.hw with mDirectOutrefCnt := w.hw.mDirectOutrefCnt - 1 }
    if hw.mDirectOutrefCnt ≤ 0 then
      let c := AudioStreamOutDirect.destroy P ⟨hw, s, w.log⟩
      { w with hw := c.hw, mDirectOutput := none, log := .returned (.close .out) true :: c.log }
    else { w with hw := hw }

end Device

/-- One operation. -/
def step (P : Platform) (w : Device) : Op → Option Device
  | .openInputStream h junk a o => w.openInputStream P h junk a o
  | .read h bytes o results => w.read P h bytes o results
  | .standbyIn h => w.standbyIn P h
  | .closeInputStream h => some (w.closeInputStream P h)
  | .openOutputStream a => w.openOutputStream P a
  | .write bytes frame o results => w.write P bytes frame o results
  | .standbyOut => w.standbyOut P
  | .closeOutputStream => some (w.closeOutputStream P)

/-- The state after `AudioHardware` is constructed. -/
def Device.init : Device := {}

/-- A call at 8000 Hz: both streams are opened and used, and put to standby. -/
def aCall : List Op :=
  [.openInputStream 0 true ⟨.pcm16Bit, channelInMono, 8000⟩ ⟨3, 0, 0, 0⟩,
    .openOutputStream ⟨.pcm16Bit, channelOutMono, 8000⟩, .read 0 320 ⟨4, 0, 0, 0⟩ [.frame {}],
    .write 320 {} ⟨4, 0, 0, 0⟩ [.zero], .standbyIn 0, .standbyOut]

end Msm7x27a.Voip
