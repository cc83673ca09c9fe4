import Mathlib.Algebra.Group.Nat.Defs
import Msm7x27a.Audio.Hardware

/-!
# The two VoIP streams

`AudioStreamInVoip` and `AudioStreamOutDirect` share the driver `/dev/msm_mvs`: its descriptor is
`AudioHardware::mVoipFd`, and each stream keeps a copy `mFd`.  A method works on a stream, the
hardware and a log of what was done to the driver (`OnIn`, `OnOut`); the log is newest first.  The
answers of the driver are arguments: what `::open` and each `ioctl` return (`MvsOutcome`), and the
results of the successive `::read`s and `::write`s.  A method whose driver call has not returned
(the list of results is too short) gives `none`.
-/

namespace Msm7x27a.Voip

open Msm7x27a.Audio

/-- `AudioStreamInVoip::input_state`. -/
inductive InputState where
  | closed | opened | started
  deriving DecidableEq, Repr

def channelInMono : ℕ := 0x10
def channelOutMono : ℕ := 0x1

/-- `msm_audio_mvs_frame`.  Its `len` is compared with 0; the type is in the driver's header, and where
it is unsigned no `len` is negative. -/
structure MvsFrame where
  frameType : ℕ := 0
  len : Int := 0
  vocPkt : List UInt8 := []
  deriving DecidableEq, Repr

/-- A stream that uses the driver; input streams go by the handle of their object. -/
inductive Dir where
  | inp (h : ℕ) | out
  deriving DecidableEq, Repr

/-- The calls of a client that the log records when they return. -/
inductive Call where
  | openStream (d : Dir) | read (h : ℕ) | write | standby (d : Dir) | close (d : Dir)
  deriving DecidableEq, Repr

/-- What happens to the driver and to `mVoipFd`. -/
inductive MvsEvent where
  /-- `::open(MVS_DEVICE)` returned this descriptor. -/
  | opened (fd : Int)
  | getConfig (fd ret : Int)
  | setConfig (fd : Int) (mode : MvsMode) (rateType : MvsRateType) (ret : Int)
  | start (fd ret : Int)
  /-- `ioctl(mVoipFd, AUDIO_STOP)`, issued by the stream. -/
  | stop (d : Dir) (fd : Int)
  /-- `::close(mFd)`. -/
  | closed (fd : Int)
  /-- `mVoipFd` is assigned. -/
  | voipFd (fd : Int)
  /-- `::read(mFd)` or `::write(mFd)`. -/
  | io (fd : Int)
  /-- The call returned; `ok` tells a success from an error. -/
  | returned (call : Call) (ok : Bool)
  deriving DecidableEq, Repr

/-- What `::open(MVS_DEVICE)` and the `ioctl`s after it return. -/
structure MvsOutcome where
  fd : Int
  getConfig : Int := 0
  setConfig : Int := 0
  start : Int := 0
  deriving DecidableEq, Repr

/-- Every call of the driver succeeds. -/
def MvsOutcome.Succeeds (o : MvsOutcome) : Prop :=
  0 ≤ o.fd ∧ 0 ≤ o.getConfig ∧ 0 ≤ o.setConfig ∧ 0 ≤ o.start

/-- The format, channel mask and rate a stream is opened with. -/
structure StreamArgs where
  format : AudioFormat
  channels : ℕ
  rate : ℕ
  deriving DecidableEq, Repr

/-! ### Opening the driver -/

/-- Where the code that opens and starts the driver stands when it is done or goes to `Error`: the
status, the descriptor if `::open` returned one, the hardware and the log. -/
structure MvsOpened where
  status : Int
  fd : Option Int
  hw : AudioHardware
  log : List MvsEvent

/-- The part of `AudioStreamInVoip::set` and of `AudioStreamOutDirect::write` that opens,
configures and starts the driver. -/
def openMvs (P : Platform) (hw : AudioHardware) (log : List MvsEvent) (format : AudioFormat)
    (rate : ℕ) (o : MvsOutcome) : MvsOpened :=
  if o.fd < 0 then ⟨o.fd, none, hw, log⟩
  else
    let hw := { hw with mVoipFd := o.fd }
    let log := .getConfig o.fd o.getConfig :: .voipFd o.fd :: .opened o.fd :: log
    if o.getConfig < 0 then ⟨o.getConfig, some o.fd, hw, log⟩
    else
      match getMvsMode format rate with
      | none => ⟨badValue, some o.fd, hw, log⟩
      | some mode =>
        match getMvsRateType P hw.mVoipBitRate mode with
        | none => ⟨badValue, some o.fd, hw, log⟩
        | some rateType =>
          let log := .setConfig o.fd mode rateType o.setConfig :: log
          if o.setConfig < 0 then ⟨o.setConfig, some o.fd, hw, log⟩
          else ⟨o.start, some o.fd, hw, .start o.fd o.start :: log⟩

/-- The code at `Error`: the stream's descriptor is closed if it has one, and `mVoipFd` forgotten. -/
def mvsError (fd : Int) (hw : AudioHardware) (log : List MvsEvent) :
    Int × AudioHardware × List MvsEvent :=
  if 0 ≤ fd then (-1, { hw with mVoipFd := -1 }, .voipFd (-1) :: .closed fd :: log) else (fd, hw, log)

/-- `AUDIO_STOP`, `::close` of the stream's own copy and `mVoipFd = -1`, as both `standby`s do. -/
def stopMvs (d : Dir) (fd : Int) (hw : AudioHardware) (log : List MvsEvent) :
    AudioHardware × List MvsEvent :=
  ({ hw with mVoipFd := -1 }, .voipFd (-1) :: .closed fd :: .stop d hw.mVoipFd :: log)

/-! ### `AudioStreamInVoip` -/

/-- The members of an input stream.  `mHardware` tells whether the pointer is set; the constructor
leaves `mFirstread` as it finds it. -/
structure AudioStreamInVoip where
  mHardware : Bool := false
  mFd : Int := -1
  mState : InputState := .closed
  mRetryCount : ℕ := 0
  mFormat : AudioFormat := .pcm16Bit
  mChannels : ℕ := channelInMono
  mSampleRate : ℕ := 8000
  mBufferSize : ℕ := 320
  mSetupDevice : Bool := false
  mFirstread : Bool
  deriving DecidableEq, Repr

/-- What a method of an input stream works on. -/
structure OnIn where
  hw : AudioHardware
  s : AudioStreamInVoip
  log : List MvsEvent
  deriving DecidableEq, Repr

namespace AudioStreamInVoip

/-- `set` from the check of `mVoipFd` on: attach to the open driver, or open it. -/
def attach (P : Platform) (c : OnIn) (a : StreamArgs) (o : MvsOutcome) : Status × OnIn :=
  let r : MvsOpened := if 0 ≤ c.hw.mVoipFd then ⟨noError, some c.hw.mVoipFd, c.hw, c.log⟩
    else openMvs P c.hw c.log a.format a.rate o
  let s := { c.s with mFd := r.fd.getD c.s.mFd }
  if r.status < 0 then
    let e := mvsError s.mFd r.hw r.log
    (r.status, ⟨e.2.1, { s with mFd := e.1 }, e.2.2⟩)
  else
    let s := { s with mFormat := a.format, mChannels := a.channels, mSampleRate := a.rate }
    if a.rate ≠ 8000 ∧ a.rate ≠ 16000 then (-1, ⟨r.hw, s, r.log⟩)
    else
      let s := { s with mBufferSize := if a.rate = 8000 then 320 else 640, mState := .opened }
      (noError, ⟨{ r.hw with mVoipInActive := true }, s, r.log⟩)

/-- `set`: the status, the arguments as it leaves them behind its pointers, and the stream. -/
def set (P : Platform) (c : OnIn) (a : StreamArgs) (o : MvsOutcome) : Status × StreamArgs × OnIn :=
  if getMvsMode a.format a.rate = none then (badValue, a, c)
  else if a.format = .pcm16Bit then
    let rate := getInputSampleRate a.rate
    if rate ≠ a.rate then (badValue, { a with rate := rate }, c)
    else if a.channels &&& channelInMono = 0 then (badValue, { a with channels := channelInMono }, c)
    else if a.rate ≠ 8000 ∧ a.rate ≠ 16000 then (-1, a, c)
    else
      let s := { c.s with mBufferSize := if a.rate = 8000 then 320 else 640, mHardware := true }
      let r := attach P { c with s := s } a o
      (r.1, a, r.2)
  else
    let r := attach P { c with s := { c.s with mHardware := true } } a o
    (r.1, a, r.2)

/-- The result of one `::read`: a frame, or an error and the number returned with it. -/
inductive ReadResult where
  | frame (f : MvsFrame) | eagain | error (ret : Int)
  deriving DecidableEq, Repr

/-- What `read` has put into the caller's buffer: a packet at an offset, or a whole frame. -/
inductive Stored where
  | pkt (offset : ℕ) (data : List UInt8) | frame (f : MvsFrame)
  deriving DecidableEq, Repr

/-- What `read` returns and stores. -/
structure ReadReturn where
  ret : Int
  stored : List Stored
  deriving DecidableEq, Repr

/-- The loop of `read` for PCM; `ret` is what the function returns when the loop is left. -/
def readPcm (ret : Int) : List ReadResult → (count total : ℕ) → OnIn → List Stored →
    Option (ReadReturn × OnIn)
  | results, count, total, c, stored =>
    if count < c.s.mBufferSize then some (⟨ret, stored⟩, c)
    else
      match results with
      | [] => none
      | .frame f :: results =>
        let c := { c with log := .io c.s.mFd :: c.log }
        let stored := stored ++ [.pkt total (f.vocPkt.take c.s.mBufferSize)]
        if c.s.mFirstread then
          readPcm ret results (count - c.s.mBufferSize) (total + c.s.mBufferSize) c stored
        else some (⟨ret, stored⟩, { c with s := { c.s with mFirstread := true } })
      | .eagain :: results =>
        let s := { c.s with mRetryCount := c.s.mRetryCount + 1 }
        readPcm ret results count total ⟨c.hw, s, .io c.s.mFd :: c.log⟩ stored
      | .error e :: _ => some (⟨e, stored⟩, { c with log := .io c.s.mFd :: c.log })
termination_by structural results => results

/-- The one `::read` of the other formats; its result is not looked at. -/
def readFrame (ret : Int) (results : List ReadResult) (c : OnIn) : Option (ReadReturn × OnIn) :=
  match results with
  | [] => none
  | .frame f :: _ => some (⟨ret, [.frame f]⟩, { c with log := .io c.s.mFd :: c.log })
  | _ :: _ => some (⟨ret, [.frame {}]⟩, { c with log := .io c.s.mFd :: c.log })

/-- The first read after `set` or a closing `standby` sets up the device. -/
def setupDevice (P : Platform) (c : OnIn) : OnIn :=
  if c.s.mSetupDevice then c
  else
    { c with hw := (setupDeviceforVoipCall P true c.hw).2, s := { c.s with mSetupDevice := true } }

/-- `read` from the check of the requested size on. -/
def readOpen (P : Platform) (c : OnIn) (bytes : ℕ) (ret : Int) (results : List ReadResult) :
    Option (ReadReturn × OnIn) :=
  if bytes < c.s.mBufferSize then some (⟨0, []⟩, c)
  else
    let c := setupDevice P c
    if c.s.mFormat = .pcm16Bit then readPcm ret results bytes 0 c [] else readFrame ret results c

/-- `read` opens the device again first. -/
def Reopens (c : OnIn) : Prop := c.s.mState = .closed ∨ c.hw.mVoipFd = -1

instance (c : OnIn) : Decidable (Reopens c) := by unfold Reopens; infer_instance

/-- The arguments with which a stream opens itself again. -/
def args (s : AudioStreamInVoip) : StreamArgs := ⟨s.mFormat, s.mChannels, s.mSampleRate⟩

/-- `set` as `read` calls it: its pointers are the stream's own members. -/
def reset (P : Platform) (c : OnIn) (o : MvsOutcome) : Status × OnIn :=
  let r := set P c c.s.args o
  let s := { r.2.2.s with mFormat := r.2.1.format, mChannels := r.2.1.channels, mSampleRate := r.2.1.rate }
  (r.1, { r.2.2 with s := s })

def read (P : Platform) (c : OnIn) (bytes : ℕ) (o : MvsOutcome) (results : List ReadResult) :
    Option (ReadReturn × OnIn) :=
  if c.s.mHardware = false then some (⟨-1, []⟩, c)
  else if Reopens c then
    let r := reset P c o
    if r.1 ≠ noError then some (⟨-1, []⟩, r.2)
    else readOpen P { r.2 with s := { r.2.s with mState := .started } } bytes 0 results
  else readOpen P c bytes bytes results

/-- `standby` stops and closes the driver. -/
def Closes (c : OnIn) : Prop := c.s.mState ≠ .closed ∧ c.hw.mVoipOutActive = false ∧ 0 ≤ c.hw.mVoipFd

instance (c : OnIn) : Decidable (Closes c) := by unfold Closes; infer_instance

def standby (P : Platform) (h : ℕ) (c : OnIn) : OnIn :=
  let hw := { c.hw with mVoipInActive := false }
  if c.s.mState ≠ .closed ∧ hw.mVoipOutActive = false then
    if 0 ≤ hw.mVoipFd then
      let r := stopMvs (.inp h) c.s.mFd hw c.log
      ⟨(setupDeviceforVoipCall P false r.1).2,
        { c.s with mFd := -1, mSetupDevice := false, mState := .closed }, r.2⟩
    else ⟨hw, { c.s with mState := .closed }, c.log⟩
  else ⟨hw, c.s, c.log⟩

/-- `~AudioStreamInVoip`. -/
def destroy (P : Platform) (h : ℕ) (c : OnIn) : OnIn :=
  standby P h { c with hw := { c.hw with mVoipInActive := false } }

end AudioStreamInVoip

/-! ### `AudioStreamOutDirect` -/

/-- The members of the direct output stream. -/
structure AudioStreamOutDirect where
  mHardware : Bool := false
  mFd : Int := -1
  mRetryCount : ℕ := 0
  mStandby : Bool := true
  mChannels : ℕ := channelOutMono
  mSampleRate : ℕ := 8000
  mBufferSize : ℕ := 320
  mFormat : AudioFormat := .pcm16Bit
  deriving DecidableEq, Repr

/-- What a method of the direct output works on. -/
structure OnOut where
  hw : AudioHardware
  s : AudioStreamOutDirect
  log : List MvsEvent
  deriving DecidableEq, Repr

namespace AudioStreamOutDirect

/-- `set` once the arguments are accepted. -/
def accept (c : OnOut) (a : StreamArgs) (bufferSize : ℕ) : OnOut :=
  { c with
    hw := { c.hw with mVoipOutActive := true }
    s := { c.s with
      mHardware := true, mFormat := a.format, mChannels := a.channels, mSampleRate := a.rate
      mBufferSize := bufferSize } }

def set (c : OnOut) (a : StreamArgs) : Status × StreamArgs × OnOut :=
  if getMvsMode a.format a.rate = none then (badValue, a, c)
  else if a.format = .pcm16Bit then
    let lChannels := if a.channels = 0 then c.s.mChannels else a.channels
    let lRate := if a.rate = 0 then 8000 else a.rate
    if lChannels ≠ c.s.mChannels then (badValue, { a with channels := c.s.mChannels }, c)
    else
      let a := { a with channels := lChannels, rate := lRate }
      if lRate = 8000 then (noError, a, accept c a 320)
      else if lRate = 16000 then (noError, a, accept c a 640)
      else (badValue, a, c)
  else (noError, a, accept c a c.s.mBufferSize)

/-- The result of one `::write`: zero, or an error and the number returned with it. -/
inductive WriteResult where
  | zero | eagain | error (ret : Int)
  deriving DecidableEq, Repr

/-- What `write` has given to the driver: a piece of the caller's buffer, by its offset and length,
or the caller's frame. -/
inductive Sent where
  | piece (offset len : ℕ) | frame (f : MvsFrame)
  deriving DecidableEq, Repr

/-- What `write` returns, and what the driver has accepted. -/
structure WriteReturn where
  ret : Int
  sent : List Sent
  deriving DecidableEq, Repr

/-- `count -= mBufferSize` on a 32-bit `size_t`. -/
def subSize (count n : ℕ) : ℕ := (count + (2 ^ 32 - n)) % 2 ^ 32

/-- The loop of `write` for PCM. -/
def writePcm (bytes : ℕ) : List WriteResult → (count p : ℕ) → OnOut → List Sent →
    Option (WriteReturn × OnOut)
  | results, count, p, c, sent =>
    if count = 0 then some (⟨bytes, sent⟩, c)
    else
      match results with
      | [] => none
      | .zero :: results =>
        let c := { c with log := .io c.s.mFd :: c.log }
        writePcm bytes results (subSize count c.s.mBufferSize) (p + c.s.mBufferSize) c
          (sent ++ [.piece p c.s.mBufferSize])
      | .eagain :: results =>
        let s := { c.s with mRetryCount := c.s.mRetryCount + 1 }
        writePcm bytes results count p ⟨c.hw, s, .io c.s.mFd :: c.log⟩ sent
      | .error e :: _ => some (⟨e, sent⟩, { c with log := .io c.s.mFd :: c.log })
termination_by structural results => results

/-- The code at `Error` of `write`. -/
def fail (status : Int) (c : OnOut) : WriteReturn × OnOut :=
  let e := mvsError c.s.mFd c.hw c.log
  (⟨status, []⟩, ⟨e.2.1, { c.s with mFd := e.1 }, e.2.2⟩)

/-- `write` once the stream is out of standby; `frame` is the caller's buffer read as a frame. -/
def writeOpen (c : OnOut) (status : Int) (bytes : ℕ) (frame : MvsFrame)
    (results : List WriteResult) : Option (WriteReturn × OnOut) :=
  if c.s.mFormat = .pcm16Bit then writePcm bytes results bytes 0 c []
  else if frame.len < 0 then some (fail status c)
  else
    match results with
    | [] => none
    | _ :: _ => some (⟨bytes, [.frame frame]⟩, { c with log := .io c.s.mFd :: c.log })

/-- `write` leaves standby: the driver is attached to, or opened and started. -/
def leaveStandby (P : Platform) (c : OnOut) (fd : Int) : OnOut :=
  let hw := { c.hw with mVoipOutActive := true }
  let hw := if hw.mVoipInActive then (setupDeviceforVoipCall P true hw).2 else hw
  { c with hw := hw, s := { c.s with mFd := fd, mStandby := false } }

def write (P : Platform) (c : OnOut) (bytes : ℕ) (frame : MvsFrame) (o : MvsOutcome)
    (results : List WriteResult) : Option (WriteReturn × OnOut) :=
  if c.s.mStandby then
    if 0 ≤ c.hw.mVoipFd then
      writeOpen (leaveStandby P c c.hw.mVoipFd) noInit bytes frame results
    else
      let r := openMvs P c.hw c.log c.s.mFormat c.s.mSampleRate o
      let fd := r.fd.getD c.s.mFd
      if r.status < 0 then some (fail r.status ⟨r.hw, { c.s with mFd := fd }, r.log⟩)
      else writeOpen (leaveStandby P ⟨r.hw, c.s, r.log⟩ fd) r.status bytes frame results
  else writeOpen c noInit bytes frame results

/-- `standby` stops and closes the driver. -/
def Closes (c : OnOut) : Prop := 0 ≤ c.hw.mVoipFd ∧ c.hw.mVoipInActive = false

instance (c : OnOut) : Decidable (Closes c) := by unfold Closes; infer_instance

def standby (P : Platform) (c : OnOut) : OnOut :=
  let hw := { c.hw with mVoipOutActive := false }
  if 0 ≤ hw.mVoipFd ∧ hw.mVoipInActive = false then
    let r := stopMvs .out c.s.mFd hw c.log
    ⟨(setupDeviceforVoipCall P false r.1).2, { c.s with mFd := -1, mStandby := true }, r.2⟩
  else ⟨hw, { c.s with mStandby := true }, c.log⟩

/-- `~AudioStreamOutDirect`. -/
def destroy (P : Platform) (c : OnOut) : OnOut :=
  standby P { c with hw := { c.hw with mVoipOutActive := false } }

end AudioStreamOutDirect

end Msm7x27a.Voip
