import Msm7x27a.Route.PostProc
import Msm7x27a.Streams.Registry
import Msm7x27a.Lpa.Session
import Msm7x27a.Lib.Runs

/-!
# Routing, microphone and playback

`doRouting`, `setMode`, `setMicMute`, `enableFM` and `disableFM`, the PCM output
`AudioStreamOutMSM72xx` and the opening and closing of LPA sessions, on the members of
`AudioHardware` and the global variables they share.  The sound driver, the pins and the playback
drivers appear through a log, newest first, and through their answers to a call (`Answers`).  `step`
is one call; a call that `setupDeviceforVoipCall` or `AudioStreamInMSM72xx::read` is made of is a
step of its own.
-/

namespace Msm7x27a.Route

open Msm7x27a.Audio
open Msm7x27a.Lpa (AudioSessionOutLPA)

/-- The argument of `switch_mode`. -/
inductive PinMode where
  | fm | btsco
  deriving DecidableEq, Repr

/-- What happens outside post-processing. -/
inductive Event where
  /-- `setMicMute` is called. -/
  | micRequest (state : Bool)
  /-- `SND_SET_DEVICE`. -/
  | setDevice (device : Int) (ear_mute mic_mute ok : Bool)
  | switchMode (mode : PinMode)
  /-- `AUDIO_START` of the PCM output. -/
  | pcmStart
  /-- `standby()` of the PCM output. -/
  | pcmStandby
  | pcmDestroyed
  /-- The constructor of an LPA session has opened the driver. -/
  | lpaOpened (session : ℕ)
  | lpaDestroyed (session : ℕ)
  deriving DecidableEq, Repr

/-- The members of an `AudioStreamOutMSM72xx`. -/
structure AudioStreamOutMSM72xx where
  mFd : Int := -1
  mStartCount : ℕ := 0
  mStandby : Bool := true
  mDevices : Devices := 0
  deriving DecidableEq, Repr

/-- `AUDIO_HW_NUM_OUT_BUF`. -/
def numOutBuf : ℕ := 2

/-- The members of `AudioHardware` and the global variables.  `mOutput` comes with its address; the
constructor leaves `mOutputLPA` as it finds it. -/
structure State where
  hw : AudioHardware := {}
  mTtyMode : TtyMode := .off
  mDualMicEnabled : Bool := false
  FmA2dpStatus : Int := -1
  m7xsnddriverfd : Int
  pp : PostProc := {}
  mOutput : Option (ℕ × AudioStreamOutMSM72xx) := none
  mOutputLPA : Option ℕ
  log : List Event := []
  deriving DecidableEq, Repr

/-- What a call meets outside.  `mutes` answers the `SND_SET_DEVICE` that mutes the microphone first,
`sets` the one after it; `control` are the answers to post-processing, by its `state`. -/
structure Answers where
  isFMAnalog : Bool := false
  mutes : Bool := true
  sets : Bool := true
  control : Bool → CtlAnswers := fun _ => {}
  /-- `::open(FM_DEVICE)`, and `AUDIO_START` on it. -/
  fmFd : Int := 20
  fmStart : Bool := true
  /-- `::open("/dev/msm_pcm_out")`, the configuration, and the `::write`s. -/
  pcmFd : Int := 30
  getConfig : Bool := true
  setConfig : Bool := true
  write : Bool := true

/-- What stays the same over a run: the code outside, the header's bits, the endpoints that the
constructor has found and the filters it has loaded. -/
structure Env where
  P : Platform
  h : Headers
  e : Endpoints
  F : Filters

def eperm : Status := -1
def eio : Status := -5

/-- Every call of a driver succeeds. -/
structure Answers.Succeed (a : Answers) : Prop where
  mutes : a.mutes = true
  sets : a.sets = true
  opens : ∀ state, (a.control state).opens = true
  params : ∀ state f, (a.control state).sets f = true
  enables : ∀ state, (a.control state).enables = true
  fmFd : 0 ≤ a.fmFd
  fmStart : a.fmStart = true
  pcmFd : 0 ≤ a.pcmFd
  getConfig : a.getConfig = true
  setConfig : a.setConfig = true
  write : a.write = true

theorem succeed_default : ({} : Answers).Succeed where
  mutes := rfl
  sets := rfl
  opens := fun _ => rfl
  params := fun _ _ => rfl
  enables := fun _ => rfl
  fmFd := by decide
  fmStart := rfl
  pcmFd := by decide
  getConfig := rfl
  setConfig := rfl
  write := rfl

/-- The members and the variables at first. -/
def init (m7xsnddriverfd : Int) (junk : Option ℕ) : State where
  m7xsnddriverfd := m7xsnddriverfd
  mOutputLPA := junk

namespace State

def record (s : State) (ev : Event) : State := { s with log := ev :: s.log }

def clearCurDevice (s : State) : State := { s with hw := s.hw.clearCurDevice }

/-- What the selection of the sound device reads. -/
def setting (s : State) (isFMAnalog : Bool) : Setting :=
  ⟨s.hw.mMode, s.mTtyMode, s.mDualMicEnabled, isFMAnalog⟩

end State

/-! ### The sound driver and the pins -/

/-- The microphone is muted first, to release DSP resources. -/
def MutesFirst (e : Endpoints) (device : Int) (mic_mute : Bool) : Prop :=
  device ≠ e .CURRENT ∧ mic_mute = false ∧ ¬e.FmDigital device

instance (e : Endpoints) (device : Int) (mic_mute : Bool) : Decidable (MutesFirst e device mic_mute) := by
  unfold MutesFirst; infer_instance

/-- `do_route_audio_rpc`: the status, and what is sent, newest first. -/
def do_route_audio_rpc (e : Endpoints) (a : Answers) (device : Int) (ear_mute mic_mute : Bool)
    (m7xsnddriverfd : Int) : Status × List Event :=
  if device = -1 then (noError, [])
  else if m7xsnddriverfd < 0 then (eperm, [])
  else if MutesFirst e device mic_mute then
    if a.mutes = false then (eio, [.setDevice device ear_mute true false])
    else
      (if a.sets then noError else eio,
        [.setDevice device ear_mute mic_mute a.sets, .setDevice device ear_mute true true])
  else (if a.sets then noError else eio, [.setDevice device ear_mute mic_mute a.sets])

/-- The calls of `switch_mode` in `doAudioRouteOrMute`. -/
def switchEvents (e : Endpoints) (mCurSndDevice device : Int) : List Event :=
  if e.FmDigital device ∧ device ≠ mCurSndDevice then [.switchMode .fm]
  else if e.FmDigital mCurSndDevice ∧ device ≠ mCurSndDevice then [.switchMode .btsco]
  else []

/-- The outgoing voice is muted unless FM plays or there is a call. -/
def earMute (hw : AudioHardware) : Bool :=
  if hw.isFmon then false else !(hw.mMode = .inCall || hw.mMode = .inCommunication)

/-- FM unmutes the microphone. -/
def fmMicMute (hw : AudioHardware) : Bool := if hw.isFmon then false else hw.mMicMute

def doAudioRouteOrMute (e : Endpoints) (a : Answers) (device : Int) (s : State) : Status × State :=
  let r := do_route_audio_rpc e a device (earMute s.hw) (fmMicMute s.hw) s.m7xsnddriverfd
  (r.1, { s with
    hw := { s.hw with mMicMute := fmMicMute s.hw }
    log := switchEvents e s.hw.mCurSndDevice device ++ (r.2 ++ s.log) })

/-! ### Routing -/

/-- Post-processing is disabled for the old device and enabled for the new one. -/
def PostProc.reconfigure (e : Endpoints) (F : Filters) (a : Bool → CtlAnswers) (device : Int)
    (pp : PostProc) : PostProc :=
  let pp := if pp.playing then (msm72xx_enable_postproc e F (a false) false pp).2 else pp
  let pp := { pp with
    snd_device := device, post_proc_feature_mask := pp.new_post_proc_feature_mask }
  if pp.playing then (msm72xx_enable_postproc e F (a true) true pp).2 else pp

/-- `doRouting`, once it has chosen the sound device. -/
def routeTo (E : Env) (a : Answers) (new_snd_device : Int) (s : State) : Status × State :=
  if new_snd_device ≠ -1 ∧ new_snd_device ≠ s.hw.mCurSndDevice then
    let r := doAudioRouteOrMute E.e a new_snd_device s
    (r.1, { r.2 with
      hw := { r.2.hw with mCurSndDevice := new_snd_device }
      pp := r.2.pp.reconfigure E.e E.F a.control new_snd_device })
  else (noError, s)

/-- The choice of `doRouting`. -/
def choose (E : Env) (a : Answers) (input : Option Devices) (outputDevices : Devices) (s : State) :
    Choice :=
  select E.h E.e (s.setting a.isFMAnalog) input outputDevices
    { FmA2dpStatus := s.FmA2dpStatus
      new_post_proc_feature_mask := s.pp.new_post_proc_feature_mask }

/-- The variables that the choice assigns. -/
def State.assign (s : State) (c : Choice) : State :=
  { s with
    FmA2dpStatus := c.FmA2dpStatus
    pp := { s.pp with new_post_proc_feature_mask := c.new_post_proc_feature_mask } }

/-- `doRouting` once `outputDevices` is known; `input` is the device of the input stream. -/
def doRoutingOf (E : Env) (a : Answers) (input : Option Devices) (outputDevices : Devices)
    (s : State) : Status × State :=
  if input = some E.h.DEVICE_IN_VOICE_CALL then (noError, s)
  else
    let c := choose E a input outputDevices s
    routeTo E a c.new_snd_device (s.assign c)

/-- The mask `doRouting` works with; `none` stands for `mOutput->devices()` without `mOutput`. -/
def State.outputDevices (s : State) (outputDevice : Devices) : Option Devices :=
  if outputDevice ≠ 0 then some outputDevice else s.mOutput.map fun o => o.2.mDevices

def doRouting (E : Env) (a : Answers) (input : Option Devices) (outputDevice : Devices) (s : State) :
    Option (Status × State) :=
  (s.outputDevices outputDevice).map fun outputDevices => doRoutingOf E a input outputDevices s

/-! ### Mode, microphone and FM -/

def setMode (P : Platform) (mode : AudioMode) (s : State) : Status × State :=
  let r := Audio.setMode P mode s.hw
  (r.1, { s with hw := r.2 })

/-- `setMicMute`, `setMicMute_nosync`. -/
def setMicMute (e : Endpoints) (a : Answers) (state : Bool) (s : State) : Status × State :=
  let s := s.record (.micRequest state)
  if s.hw.mMicMute ≠ state then
    doAudioRouteOrMute e a (e .CURRENT) { s with hw := { s.hw with mMicMute := state } }
  else (noError, s)

/-- `getMicMute`. -/
def State.getMicMute (s : State) : Bool := s.hw.mMicMute

def enableFM (a : Answers) (s : State) : State :=
  let close : State := if 0 ≤ s.hw.mFmFd then { s with hw := { s.hw with mFmFd := -1 } } else s
  if a.fmFd < 0 then close
  else if a.fmStart = false then { s with hw := { s.hw with mFmFd := -1 } }
  else { s with hw := { s.hw with mFmFd := a.fmFd } }

def disableFM (s : State) : State :=
  if 0 ≤ s.hw.mFmFd then { s with hw := { s.hw with mFmFd := -1 } } else s

/-- `AudioStreamInMSM72xx::standby`, for a stream of these devices. -/
def inputStandby (E : Env) (a : Answers) (mDevices : Devices) (s : State) : Option State :=
  let s' :=
    if a.isFMAnalog = false ∧ s.hw.isFmon = false then
      (doRouting E a (some mDevices) 0 s.clearCurDevice).map Prod.snd
    else some s
  s'.map fun s => if s.FmA2dpStatus ≠ 0 then { s with FmA2dpStatus := 0 } else s

/-! ### The PCM output -/

/-- `openOutputStream` without flags; the devices are stored if the parameters are `accepted` as
they are. -/
def openPcm (out : ℕ) (devices : Devices) (accepted : Bool) (s : State) : State :=
  match s.mOutput with
  | some _ => s
  | none => { s with mOutput := some (out, { mDevices := if accepted then devices else 0 }) }

/-- The start of `write` in standby: the stream, and whether it goes on. -/
def AudioStreamOutMSM72xx.openDriver (a : Answers) (o : AudioStreamOutMSM72xx) :
    AudioStreamOutMSM72xx × Bool :=
  if a.pcmFd < 0 then ({ o with mFd := -1 }, false)
  else if a.getConfig = false ∨ a.setConfig = false then ({ o with mFd := -1 }, false)
  else ({ o with mFd := a.pcmFd, mStartCount := numOutBuf, mStandby := false }, true)

/-- Playback starts. -/
def PostProc.startPcm (e : Endpoints) (F : Filters) (a : CtlAnswers) (pp : PostProc) : PostProc :=
  (msm72xx_enable_postproc e F a true
    { pp with
      hpcm_playback_in_progress := true
      post_proc_feature_mask := pp.new_post_proc_feature_mask }).2

/-- The end of `write`: audio starts after two buffers. -/
def countBuffer (E : Env) (a : Answers) (p : ℕ) (o : AudioStreamOutMSM72xx) (s : State) : State :=
  let o' := { o with mStartCount := o.mStartCount - 1 }
  if o.mStartCount = 1 then
    { s.record .pcmStart with
      mOutput := some (p, o'), pp := s.pp.startPcm E.e E.F (a.control true) }
  else { s with mOutput := some (p, o') }

/-- `AudioStreamOutMSM72xx::write`; `none` if there is no PCM output. -/
def writePcm (E : Env) (a : Answers) (s : State) : Option State :=
  s.mOutput.map fun (p, o) =>
    let r := if o.mStandby then o.openDriver a else (o, true)
    if r.2 = false ∨ a.write = false then { s with mOutput := some (p, r.1) }
    else countBuffer E a p r.1 s

/-- Post-processing when the PCM output goes to standby. -/
def PostProc.stopPcm (e : Endpoints) (F : Filters) (a : CtlAnswers) (pp : PostProc) : PostProc :=
  let pp := { pp with hpcm_playback_in_progress := false }
  if pp.lpa_playback_in_progress = false then (msm72xx_enable_postproc e F a false pp).2 else pp

/-- `AudioStreamOutMSM72xx::standby`. -/
def standbyPcm (E : Env) (a : Answers) (s : State) : Option State :=
  s.mOutput.map fun (p, o) =>
    let s := s.record .pcmStandby
    if o.mStandby = false ∧ 0 ≤ o.mFd then
      { s with
        mOutput := some (p, { o with mStandby := true, mFd := -1 })
        pp := s.pp.stopPcm E.e E.F (a.control false) }
    else { s with mOutput := some (p, { o with mStandby := true }) }

/-- `setParameters` of the PCM output stores a routing. -/
def setPcmDevices (devices : Devices) (s : State) : Option State :=
  s.mOutput.map fun (p, o) => { s with mOutput := some (p, { o with mDevices := devices }) }

/-! ### LPA sessions -/

def PostProc.lpa (b : Bool) (pp : PostProc) : PostProc := { pp with lpa_playback_in_progress := b }

/-- `openOutputStream` with `AUDIO_OUTPUT_FLAG_LPA`: a session that fails is deleted, and its
`reset` clears the flag. -/
def openLpa (out : ℕ) (format : AudioFormat) (channels samplingRate : ℕ)
    (o : AudioSessionOutLPA.OpenOutcome) (s : State) : State :=
  if (AudioSessionOutLPA.construct format channels samplingRate o).1 = noError then
    { s.record (.lpaOpened out) with mOutputLPA := some out, pp := s.pp.lpa true }
  else { s.record (.lpaDestroyed out) with mOutputLPA := none, pp := s.pp.lpa false }

/-- `closeOutputStream`. -/
def closeOutputStream (out : ℕ) (s : State) : State :=
  if s.mOutput.map Prod.fst = some out then { s.record .pcmDestroyed with mOutput := none }
  else if s.mOutputLPA = some out then
    { s.record (.lpaDestroyed out) with mOutputLPA := none, pp := s.pp.lpa false }
  else s

/-! ### Calls -/

inductive Op where
  | doRouting (input : Option Devices) (outputDevice : Devices)
  | setMode (mode : AudioMode)
  | setMicMute (state : Bool)
  | clearCurDevice
  | setTtyMode (mode : TtyMode)
  | setDualMic (enabled : Bool)
  | enableFM
  | disableFM
  | inputStandby (mDevices : Devices)
  | openPcm (out : ℕ) (devices : Devices) (accepted : Bool)
  | setPcmDevices (devices : Devices)
  | writePcm
  | standbyPcm
  | openLpa (out : ℕ) (format : AudioFormat) (channels samplingRate : ℕ)
    (o : AudioSessionOutLPA.OpenOutcome)
  | closeOutput (out : ℕ)
  deriving DecidableEq, Repr

/-- An operation and what it meets. -/
structure Call where
  op : Op
  a : Answers := {}

/-- The LPA sessions that have opened the driver and are not destroyed. -/
def liveSessions : List Event → List ℕ
  | [] => []
  | .lpaOpened session :: log => session :: liveSessions log
  | .lpaDestroyed session :: log => (liveSessions log).erase session
  | _ :: log => liveSessions log

/-- `new` returns the address of no living object. -/
def State.Fresh (s : State) (out : ℕ) : Prop :=
  s.mOutput.map Prod.fst ≠ some out ∧ out ∉ liveSessions s.log

instance (s : State) (out : ℕ) : Decidable (s.Fresh out) := by unfold State.Fresh; infer_instance

def step (E : Env) (s : State) (c : Call) : Option State :=
  match c.op with
  | .doRouting input outputDevice => (doRouting E c.a input outputDevice s).map Prod.snd
  | .setMode mode => some (setMode E.P mode s).2
  | .setMicMute state => some (setMicMute E.e c.a state s).2
  | .clearCurDevice => some s.clearCurDevice
  | .setTtyMode mode => some { s with mTtyMode := mode }
  | .setDualMic enabled => some { s with mDualMicEnabled := enabled }
  | .enableFM => some (enableFM c.a s)
  | .disableFM => some (disableFM s)
  | .inputStandby mDevices => inputStandby E c.a mDevices s
  | .openPcm out devices accepted =>
    if s.Fresh out then some (openPcm out devices accepted s) else none
  | .setPcmDevices devices => setPcmDevices devices s
  | .writePcm => writePcm E c.a s
  | .standbyPcm => standbyPcm E c.a s
  | .openLpa out format channels samplingRate o =>
    if s.Fresh out then some (openLpa out format channels samplingRate o s) else none
  | .closeOutput out => some (closeOutputStream out s)

/-! ### A plain environment -/

/-- A bit for each device. -/
def Headers.plain : Headers where
  DEVICE_OUT_EARPIECE := 0x1
  DEVICE_OUT_SPEAKER := 0x2
  DEVICE_OUT_WIRED_HEADSET := 0x4
  DEVICE_OUT_WIRED_HEADPHONE := 0x8
  DEVICE_OUT_BLUETOOTH_SCO := 0x10
  DEVICE_OUT_BLUETOOTH_SCO_HEADSET := 0x20
  DEVICE_OUT_BLUETOOTH_SCO_CARKIT := 0x40
  DEVICE_OUT_FM := 0x8000
  DEVICE_IN_VOICE_CALL := 0x400000
  DEVICE_IN_BLUETOOTH_SCO_HEADSET := 0x80000
  DEVICE_IN_WIRED_HEADSET := 0x100000
  DEVICE_IN_FM_RX := 0x1000000
  DEVICE_IN_FM_RX_A2DP := 0x2000000

/-- The endpoints in the order of their names. -/
def Endpoints.plain : Endpoints := fun n => n.ctorIdx

/-- Tables with an MBADRC record for every device, an equalizer and no IIR filter. -/
def Filters.plain : Filters where
  audpp_filter_inited := true
  adrc_filter_exists := fun _ => false
  mbadrc_filter_exists := fun _ => true
  adrc_flag := fun _ => 0
  mbadrc_flag := fun _ => 1
  eq_flag := fun _ => 1
  rx_iir_flag := fun _ => 0

def Env.plain : Env := ⟨.plain, .plain, .plain, .plain⟩

theorem distinct_plain : Endpoints.plain.Distinct where
  injective := by
    intro m n h
    cases m <;> cases n <;> first | rfl | exact absurd h (by decide)
  valid := fun n => Int.natCast_nonneg n.ctorIdx

end Msm7x27a.Route
