import Mathlib.Logic.Function.Basic
import Msm7x27a.Audio.Hardware
import Msm7x27a.Lib.Runs

/-!
# `AudioStreamInMSM72xx`

A stream that records: `set` opens and configures the driver of its format, `read` calls it again
after a standby, and both work with the global `audpre_index`, which selects the tables of
pre-processing.  The configuration that the driver is sent, and the routing, are left out.

The streams that are alive share `audpre_index` and `InstanceCount`; `step` is one call.  The log
records, newest first, what `set` has made of a stream and which index pre-processing has used.  The
loop of `read` is in `Recording.Packing`.
-/

namespace Msm7x27a.Recording

open Msm7x27a.Audio

inductive InputFormat where
  | pcm16Bit | amrNb | evrc | qcelp | aac | other (code : ℕ)
  deriving DecidableEq, Repr

/-- `input_state` -/
inductive InputState where
  | closed | opened | started
  deriving DecidableEq, Repr

/-- What `pFormat`, `pChannels` and `pRate` point to. -/
structure Params where
  format : InputFormat
  channels : BitVec 32
  rate : ℕ
  deriving DecidableEq, Repr

/-- The masks of the audio system's headers. -/
structure InputHeaders where
  CHANNEL_IN_MONO : BitVec 32
  CHANNEL_IN_STEREO : BitVec 32

structure AudioStreamInMSM72xx where
  mHardware : Bool := false
  mFd : Int := -1
  mState : InputState := .closed
  mRetryCount : ℕ := 0
  mFormat : InputFormat := .pcm16Bit
  mChannels : BitVec 32
  mSampleRate : ℕ := 8000
  mBufferSize : ℕ := 2048
  mDevices : BitVec 32 := 0
  mFirstread : Bool
  deriving DecidableEq, Repr

/-- The members of `msm_audio_config` that are read. -/
structure Config where
  sample_rate : ℕ
  channel_count : ℕ
  buffer_size : ℕ
  deriving DecidableEq, Repr

/-- What `set` meets: the descriptor that `open` returns, the answers to the first and the second
`AUDIO_GET_CONFIG`, and whether the other calls succeed. -/
structure SetAnswers where
  fd : Int
  getConfig : Option Config
  setConfig : Bool := true
  confirm : Option Config := none
  setVoicememo : Bool := true
  getVoicememo : Bool := true
  deriving DecidableEq, Repr

def ebusy : Status := -16
def eperm : Status := -1
def einval : Status := -22

/-- What a call that fails returns. -/
def failed : Status := -1

namespace AudioStreamInMSM72xx

def params (x : AudioStreamInMSM72xx) : Params := ⟨x.mFormat, x.mChannels, x.mSampleRate⟩

def setParams (p : Params) (x : AudioStreamInMSM72xx) : AudioStreamInMSM72xx :=
  { x with mFormat := p.format, mChannels := p.channels, mSampleRate := p.rate }

/-- `::close(mFd)` if the stream has a descriptor. -/
def closeFd (x : AudioStreamInMSM72xx) : AudioStreamInMSM72xx :=
  if 0 ≤ x.mFd then { x with mFd := -1 } else x

/-- The stream has left no trace. -/
def Closed (x : AudioStreamInMSM72xx) : Prop := x.mState = .closed ∧ x.mFd = -1

instance (x : AudioStreamInMSM72xx) : Decidable x.Closed :=
  inferInstanceAs (Decidable (x.mState = .closed ∧ x.mFd = -1))

end AudioStreamInMSM72xx

/-! ### `set` -/

/-- The stream and the arguments of `set`. -/
structure Vars where
  stream : AudioStreamInMSM72xx
  args : Params

namespace Vars

/-- The arguments are assigned; `own` says that they are the members themselves. -/
def writeArgs (own : Bool) (p : Params) (v : Vars) : Vars :=
  { stream := if own then v.stream.setParams p else v.stream, args := p }

def writeMembers (own : Bool) (p : Params) (v : Vars) : Vars :=
  { stream := v.stream.setParams p, args := if own then p else v.args }

def setDevices (devices : BitVec 32) (v : Vars) : Vars :=
  { v with stream := { v.stream with mDevices := devices } }

def setBufferSize (size : ℕ) (v : Vars) : Vars :=
  { v with stream := { v.stream with mBufferSize := size } }

/-- The label `Error`. -/
def fail (v : Vars) : Vars := { v with stream := v.stream.closeFd }

end Vars

/-- The checks of `set`: the status of a refusal, and the arguments it suggests. -/
def refuse (h : InputHeaders) (InstanceCount : ℕ) (p : Params) : Option (Status × Params) :=
  if 1 < InstanceCount then some (ebusy, p)
  else if p.format ∉ [.pcm16Bit, .amrNb, .evrc, .qcelp, .aac] then
    some (badValue, { p with format := .pcm16Bit })
  else if getInputSampleRate p.rate ≠ p.rate then
    some (badValue, { p with rate := getInputSampleRate p.rate })
  else if p.channels &&& (h.CHANNEL_IN_MONO ||| h.CHANNEL_IN_STEREO) = 0 then
    some (badValue, { p with channels := h.CHANNEL_IN_MONO })
  else none

/-- What the driver can do, after it has refused a configuration. -/
def suggest (h : InputHeaders) (p : Params) (confirm : Option Config) : Params :=
  match confirm with
  | none => p
  | some config =>
    { p with
      channels := if config.channel_count = 1 then h.CHANNEL_IN_MONO else h.CHANNEL_IN_STEREO
      rate := config.sample_rate }

/-- The branch for `AUDIO_HW_IN_FORMAT`, with the driver open: the status, if it ends in `Error`. -/
def configurePcm (h : InputHeaders) (own : Bool) (devices : BitVec 32) (a : SetAnswers) (v : Vars) :
    Option Status × Vars :=
  match a.getConfig with
  | none => (some failed, v)
  | some _ =>
    if a.setConfig = false then (some failed, v.writeArgs own (suggest h v.args a.confirm))
    else
      match a.confirm with
      | none => (some failed, v)
      | some config =>
        (none, ((v.setDevices devices).writeMembers own
          ⟨.pcm16Bit, v.args.channels, config.sample_rate⟩).setBufferSize config.buffer_size)

/-- `mBufferSize` of a format of the voice memo driver. -/
def memoBufferSize : InputFormat → ℕ → ℕ
  | .amrNb, _ => 320
  | .evrc, _ => 230
  | .qcelp, _ => 350
  | _, size => size

/-- The branch for the formats of the voice memo driver: `status` still holds the descriptor when an
`ioctl` fails. -/
def configureMemo (own : Bool) (devices : BitVec 32) (a : SetAnswers) (v : Vars) :
    Option Status × Vars :=
  match a.getConfig with
  | none => (some a.fd, v)
  | some config =>
    let v := ((v.setDevices devices).writeMembers own
      ⟨v.args.format, v.args.channels, config.sample_rate⟩).setBufferSize
        (memoBufferSize v.args.format v.stream.mBufferSize)
    if a.setVoicememo = false ∨ a.getVoicememo = false then (some a.fd, v) else (none, v)

/-- The branch for AAC. -/
def configureAac (own : Bool) (devices : BitVec 32) (a : SetAnswers) (v : Vars) :
    Option Status × Vars :=
  match a.getConfig with
  | none => (some a.fd, v)
  | some _ =>
    let v := ((v.setDevices devices).writeMembers own v.args).setBufferSize 2048
    if a.setConfig = false then (some a.fd, v) else (none, v)

def configure (h : InputHeaders) (own : Bool) (devices : BitVec 32) (a : SetAnswers) (v : Vars) :
    Option Status × Vars :=
  match v.args.format with
  | .pcm16Bit => configurePcm h own devices a v
  | .amrNb | .evrc | .qcelp => configureMemo own devices a v
  | .aac => configureAac own devices a v
  | .other _ => (none, v)

/-- `calculate_audpre_table_index`, as an `int`. -/
def calculate_audpre_table_index (index : ℕ) : Int :=
  if index = 48000 then 8
  else if index = 44100 then 7
  else if index = 32000 then 6
  else if index = 24000 then 5
  else if index = 22050 then 4
  else if index = 16000 then 3
  else if index = 12000 then 2
  else if index = 11025 then 1
  else if index = 8000 then 0
  else -1

/-- The end of `set`: the state is advanced before the index is known. -/
def finish (v : Vars) : Status × Vars × Int :=
  let v := { v with stream := { v.stream with mState := .opened } }
  let audpre_index := calculate_audpre_table_index v.stream.mSampleRate
  if audpre_index < 0 then (einval, v.fail, audpre_index) else (noError, v, audpre_index)

/-- `set` after the driver has been configured, or not. -/
def conclude (r : Option Status × Vars) (audpre_index : Int) : Status × Vars × Int :=
  match r.1 with
  | some status => (status, r.2.fail, audpre_index)
  | none => finish r.2

/-- `set`: the status, the stream and the arguments, and `audpre_index`. -/
def set (h : InputHeaders) (InstanceCount : ℕ) (own : Bool) (devices : BitVec 32) (a : SetAnswers)
    (v : Vars) (audpre_index : Int) : Status × Vars × Int :=
  match refuse h InstanceCount v.args with
  | some (status, p) => (status, v.writeArgs own p, audpre_index)
  | none =>
    let v := { v with stream := { v.stream with mHardware := true } }
    if 0 ≤ v.stream.mFd then (eperm, v, audpre_index)
    else if a.fd < 0 then (a.fd, v.fail, audpre_index)
    else
      conclude (configure h own devices a { v with stream := { v.stream with mFd := a.fd } })
        audpre_index

/-! ### The streams and the global variables -/

inductive Event where
  /-- `set` was called on a stream, and returned with it so. -/
  | set (was : AudioStreamInMSM72xx) (status : Status) (now : AudioStreamInMSM72xx)
  /-- `msm72xx_enable_preproc` uses the tables at this index. -/
  | preproc (audpre_index : Int)
  deriving DecidableEq, Repr

structure Recorder where
  audpp_filter_inited : Bool
  audpre_index : Int := 0
  InstanceCount : ℕ := 0
  streams : ℕ → Option AudioStreamInMSM72xx := fun _ => none
  log : List Event := []

namespace Recorder

def record (e : Event) (s : Recorder) : Recorder := { s with log := e :: s.log }

def put (inp : ℕ) (x : AudioStreamInMSM72xx) (s : Recorder) : Recorder :=
  { s with streams := Function.update s.streams inp (some x) }

/-- `msm72xx_enable_preproc`; the tables are used once its device is open. -/
def enablePreproc (opens : Bool) (s : Recorder) : Recorder :=
  if s.audpp_filter_inited ∧ opens then s.record (.preproc s.audpre_index) else s

/-- A call of `set`. -/
def callSet (h : InputHeaders) (own : Bool) (devices : BitVec 32) (p : Params) (a : SetAnswers)
    (x : AudioStreamInMSM72xx) (s : Recorder) : Status × AudioStreamInMSM72xx × Recorder :=
  let r := Recording.set h s.InstanceCount own devices a ⟨x, p⟩ s.audpre_index
  (r.1, r.2.1.stream,
    { s with audpre_index := r.2.2 }.record (.set x r.1 r.2.1.stream))

/-- `standby`, without the routing. -/
def standby (opens : Bool) (x : AudioStreamInMSM72xx) (s : Recorder) :
    AudioStreamInMSM72xx × Recorder :=
  if x.mState ≠ .closed then ({ x.closeFd with mState := .closed }, s.enablePreproc opens) else (x, s)

/-- What `read` meets before its loop; `opens` answers `open` of the pre-processing device, to enable
and to disable it. -/
structure ReadAnswers where
  set : SetAnswers
  start : Bool := true
  opens : Bool → Bool := fun _ => true

/-- `read` from `AUDIO_INPUT_STARTED` to its loop: whether it goes on. An `ioctl` without a
descriptor fails. -/
def startRecord (a : ReadAnswers) (x : AudioStreamInMSM72xx) (s : Recorder) :
    Bool × AudioStreamInMSM72xx × Recorder :=
  if x.mState = .started then (true, x, s)
  else
    let x := { x with mState := .started }
    if x.mFd < 0 ∨ a.start = false then (false, standby (a.opens false) x s)
    else (true, x, s.enablePreproc (a.opens true))

/-- `read` up to its loop: whether it goes on. -/
def openForRead (h : InputHeaders) (a : ReadAnswers) (x : AudioStreamInMSM72xx) (s : Recorder) :
    Bool × AudioStreamInMSM72xx × Recorder :=
  if x.mHardware = false then (false, x, s)
  else if x.mState = .closed then
    let r := callSet h true x.mDevices x.params a.set x s
    if r.1 ≠ noError then (false, r.2)
    else startRecord a { r.2.1 with mFirstread := false } r.2.2
  else startRecord a x s

end Recorder

/-! ### Calls -/

inductive Op where
  /-- A stream is created; its memory holds `mFirstread`. -/
  | create (inp : ℕ) (mFirstread : Bool)
  /-- A VoIP input is created or destroyed: it counts as an instance. -/
  | createVoip
  | destroyVoip
  | set (inp : ℕ) (devices : BitVec 32) (p : Params) (a : SetAnswers)
  | read (inp : ℕ) (a : Recorder.ReadAnswers)
  | standby (inp : ℕ) (opens : Bool)
  | destroy (inp : ℕ) (opens : Bool)

open Recorder

def step (h : InputHeaders) (s : Recorder) : Op → Option Recorder
  | .create inp mFirstread =>
    match s.streams inp with
    | some _ => none
    | none => some ({ s with InstanceCount := s.InstanceCount + 1 }.put inp
        { mChannels := h.CHANNEL_IN_MONO, mFirstread := mFirstread })
  | .createVoip => some { s with InstanceCount := s.InstanceCount + 1 }
  | .destroyVoip => some { s with InstanceCount := s.InstanceCount - 1 }
  | .set inp devices p a =>
    (s.streams inp).map fun x =>
      let r := callSet h false devices p a x s
      r.2.2.put inp r.2.1
  | .read inp a =>
    (s.streams inp).map fun x =>
      let r := openForRead h a x s
      r.2.2.put inp r.2.1
  | .standby inp opens =>
    (s.streams inp).map fun x =>
      let r := Recorder.standby opens x s
      r.2.put inp r.1
  | .destroy inp opens =>
    (s.streams inp).map fun x =>
      let r := Recorder.standby opens x { s with InstanceCount := s.InstanceCount - 1 }
      { r.2 with streams := Function.update r.2.streams inp none }

end Msm7x27a.Recording
