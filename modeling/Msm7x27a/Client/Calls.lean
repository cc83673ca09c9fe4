import Msm7x27a.Recording.Opening
import Msm7x27a.Route.Parameters
import Msm7x27a.Voip.Device

/-!
# The calls of `AudioHardware` and of its streams

`System` puts together what the other modules take apart: the members that routing works with, the
streams that record, and the VoIP streams.  `step` is one call of a client.  It returns, or
`doRouting` dereferences `mOutput` while it is null; `none` says that the call cannot be made (there
is no such stream, the address of a new object is in use) or does not return for another reason.

`AudioStreamInVoip` is derived from `AudioStreamInMSM72xx`, so it counts as an instance, and
`doRouting(this)` reads the `mDevices` of the base class, which is never set.
-/

namespace Msm7x27a.Client

open Msm7x27a.Audio Msm7x27a.Route
open Msm7x27a.Recording (InputHeaders Params SetAnswers Recorder AudioStreamInMSM72xx)

/-- What stays the same over a run. -/
structure Environment where
  E : Env
  inputs : InputHeaders
  isInputDevice : Devices → Bool
  DEVICE_IN_COMMUNICATION : Devices

/-- `AudioHardware` and its streams; the hardware of the VoIP streams is in `hardware`. -/
structure System where
  hardware : Hardware
  recorder : Recorder
  mVoipInputs : ℕ → Option Voip.AudioStreamInVoip := fun _ => none
  mDirectOutput : Option Voip.AudioStreamOutDirect := none
  mvsLog : List Voip.MvsEvent := []

namespace System

def state (s : System) : State := s.hardware.state

def withState (s : System) (state : State) : System :=
  { s with hardware := { s.hardware with state := state } }

def mOutput (s : System) : Option (ℕ × AudioStreamOutMSM72xx) := s.state.mOutput

/-- What the VoIP streams see. -/
def voip (s : System) : Voip.Device := ⟨s.state.hw, s.mVoipInputs, s.mDirectOutput, s.mvsLog⟩

def withVoip (s : System) (w : Voip.Device) : System :=
  { s.withState { s.state with hw := w.hw } with
    mVoipInputs := w.mVoipInputs, mDirectOutput := w.mDirectOutput, mvsLog := w.log }

end System

/-- What becomes of a call. -/
inductive Outcome where
  | returns (s : System)
  /-- `mOutput->devices()` without `mOutput`. -/
  | nullOutput

/-- A call that ends in routing, which gives `none` where it has no output. -/
def Outcome.ofRouting : Option System → Outcome
  | some s => .returns s
  | none => .nullOutput

/-- `doRouting`, called by a stream. -/
def route (V : Environment) (a : Answers) (input : Option Devices) (outputDevice : Devices)
    (s : System) : Option System :=
  (doRouting V.E a input outputDevice s.state).map fun r => s.withState r.2

/-! ### Streams that record -/

/-- The routing at the end of `standby`; a stream that has not been set up has no `mHardware`. -/
def routeStandby (V : Environment) (a : Answers) (x : AudioStreamInMSM72xx) (s : System) :
    Option System :=
  if x.mHardware = false then some s
  else (inputStandby V.E a x.mDevices s.state).map s.withState

/-- PCM is not recorded above 8000 Hz in a voice call. -/
def TooFast (p : Params) (mMode : AudioMode) : Prop :=
  mMode = .inCall ∧ 8000 < getInputSampleRate p.rate ∧ p.format = .pcm16Bit

instance (p : Params) (mMode : AudioMode) : Decidable (TooFast p mMode) := by
  unfold TooFast; infer_instance

/-- What `openInputStream` is asked for: the address of the object, what its memory holds for
`mFirstread`, and the arguments. -/
structure InputRequest where
  inp : ℕ
  mFirstread : Bool
  devices : Devices
  params : Params
  deriving DecidableEq, Repr

/-- The request is refused before a stream is created. -/
def InputRequest.Refused (V : Environment) (q : InputRequest) (mMode : AudioMode) : Prop :=
  V.isInputDevice q.devices = false ∨ TooFast q.params mMode

instance (V : Environment) (q : InputRequest) (mMode : AudioMode) : Decidable (q.Refused V mMode) := by
  unfold InputRequest.Refused; infer_instance

/-- A new stream. -/
def InputRequest.stream (V : Environment) (q : InputRequest) : AudioStreamInMSM72xx :=
  { mChannels := V.inputs.CHANNEL_IN_MONO, mFirstread := q.mFirstread }

/-- The address is that of no other stream, and the request is not for a VoIP stream. -/
def InputRequest.Possible (V : Environment) (q : InputRequest) (s : System) : Prop :=
  s.recorder.streams q.inp = none ∧
    ¬(V.isInputDevice q.devices = true ∧ q.devices = V.DEVICE_IN_COMMUNICATION ∧ q.params.rate = 8000)

instance (V : Environment) (q : InputRequest) (s : System) : Decidable (q.Possible V s) :=
  inferInstanceAs (Decidable (_ ∧ ¬_))

/-- `openInputStream` for a stream that records: a stream whose `set` fails is deleted. -/
def openInput (V : Environment) (q : InputRequest) (set : SetAnswers) (opens : Bool) (a : Answers)
    (s : System) : Outcome :=
  if q.Refused V s.state.hw.mMode then .returns s
  else
    let recorder := { s.recorder with InstanceCount := s.recorder.InstanceCount + 1 }
    let r := recorder.callSet V.inputs false q.devices q.params set (q.stream V)
    if r.1 = noError then .returns { s with recorder := r.2.2.put q.inp r.2.1 }
    else
      let recorder := { r.2.2 with InstanceCount := r.2.2.InstanceCount - 1 }
      let r := recorder.standby opens r.2.1
      .ofRouting (routeStandby V a r.1 { s with recorder := r.2 })

/-- `closeInputStream`, with the destructor. -/
def closeInput (V : Environment) (inp : ℕ) (opens : Bool) (a : Answers) (x : AudioStreamInMSM72xx)
    (s : System) : Outcome :=
  let recorder := { s.recorder with InstanceCount := s.recorder.InstanceCount - 1 }
  let r := recorder.standby opens x
  let streams := Function.update r.2.streams inp none
  .ofRouting (routeStandby V a r.1 { s with recorder := { r.2 with streams := streams } })

def standbyInput (V : Environment) (inp : ℕ) (opens : Bool) (a : Answers) (x : AudioStreamInMSM72xx)
    (s : System) : Outcome :=
  let r := s.recorder.standby opens x
  .ofRouting (routeStandby V a r.1 { s with recorder := r.2.put inp r.1 })

/-- The part of `read` that starts recording.  A stream that records no FM is routed first; one that
does not start goes to standby. -/
def startInput (V : Environment) (inp : ℕ) (r : Recorder.ReadAnswers) (first second : Answers)
    (x : AudioStreamInMSM72xx) (s : System) : Option System :=
  if x.mState = .started then some s
  else
    let routed :=
      if x.mDevices ≠ V.E.h.DEVICE_IN_FM_RX then
        route V first (some x.mDevices) 0 (s.withState s.state.clearCurDevice)
      else some s
    routed.bind fun s =>
      let t := s.recorder.startRecord r x
      let s := { s with recorder := t.2.2.put inp t.2.1 }
      if t.1 then some s else routeStandby V second t.2.1 s

/-- `read` up to its loop; `first` and `second` are met by the routing to the input and by the
one in `standby`. -/
def readInput (V : Environment) (inp : ℕ) (r : Recorder.ReadAnswers) (first second : Answers)
    (x : AudioStreamInMSM72xx) (s : System) : Outcome :=
  if x.mHardware = false then .returns s
  else if x.mState = .closed then
    let t := s.recorder.callSet V.inputs true x.mDevices x.params r.set x
    if t.1 ≠ noError then .returns { s with recorder := t.2.2.put inp t.2.1 }
    else
      .ofRouting (startInput V inp r first second { t.2.1 with mFirstread := false }
        { s with recorder := t.2.2 })
  else .ofRouting (startInput V inp r first second x s)

/-- The mask is of one device, or none. -/
def OneDevice (device : Devices) : Prop := device &&& (device - 1) = 0

instance (device : Devices) : Decidable (OneDevice device) :=
  inferInstanceAs (Decidable (_ = _))

/-- `setParameters`, with the routing that the string has. -/
def setInputParameters (V : Environment) (inp : ℕ) (routing : Option Devices) (a : Answers)
    (x : AudioStreamInMSM72xx) (s : System) : Outcome :=
  match routing with
  | none => .returns s
  | some device =>
    if OneDevice device then
      let recorder := s.recorder.put inp { x with mDevices := device }
      .ofRouting (route V a (some device) 0 { s with recorder := recorder })
    else .returns s

/-! ### VoIP streams -/

/-- `setParameters` of an `AudioStreamInVoip`: the devices of the base class are 0. -/
def setVoipParameters (V : Environment) (routing : Option Devices) (a : Answers) (s : System) : Outcome :=
  match routing with
  | none => .returns s
  | some device => if OneDevice device then .ofRouting (route V a (some 0) 0 s) else .returns s

/-- The number of instances after an operation. -/
def instances (op : Voip.Op) (w w' : Voip.Device) (InstanceCount : ℕ) : ℕ :=
  match op with
  | .openInputStream h _ _ _ => if (w'.mVoipInputs h).isSome then InstanceCount + 1 else InstanceCount
  | .closeInputStream h => if (w.mVoipInputs h).isSome then InstanceCount - 1 else InstanceCount
  | _ => InstanceCount

def voipCall (V : Environment) (op : Voip.Op) (s : System) : Option System :=
  (Voip.step V.E.P s.voip op).map fun w =>
    { s.withVoip w with
      recorder := { s.recorder with InstanceCount := instances op s.voip w s.recorder.InstanceCount } }

/-! ### Outputs -/

/-- `keyHandleFm`: FM is switched on or off. -/
def handleFm (on : Option Bool) (a : Answers) (s : System) : System :=
  match on with
  | none => s
  | some true => s.withState (enableFM a s.state)
  | some false => s.withState (disableFM s.state)

/-- The routing in `setParameters` of the PCM output is stored first. -/
def setOutputDevice (V : Environment) (device : Devices) (a : Answers) (s : System) : Option System :=
  (setPcmDevices device s.state).bind fun state => route V a none 0 (s.withState state)

/-- `setParameters` of the PCM output. -/
def setOutputParameters (V : Environment) (on : Option Bool) (routing : Option Devices)
    (a : Answers) (s : System) : Outcome :=
  match routing with
  | none => .returns (handleFm on a s)
  | some device => .ofRouting (setOutputDevice V device a (handleFm on a s))

/-! ### Calls -/

/-- A call of a client, with what it meets.  The routing of `setParameters` is what the string has
for it. -/
inductive Call where
  | setMode (mode : AudioMode)
  | setMicMute (state : Bool) (a : Answers)
  | setParameters (p : KeyValuePairs) (w : Key → Answers)
  | openOutput (out : ℕ) (devices : Devices) (accepted : Bool)
  | openLpa (out : ℕ) (format : AudioFormat) (channels samplingRate : ℕ)
      (o : Lpa.AudioSessionOutLPA.OpenOutcome)
  | closeOutput (out : ℕ)
  | write (a : Answers)
  | standbyOutput (a : Answers)
  | setOutputParameters (on : Option Bool) (routing : Option Devices) (a : Answers)
  | setDirectParameters (routing : Option Devices) (a : Answers)
  | setLpaParameters (session : ℕ) (routing : Option Devices) (a : Answers)
  | openInput (q : InputRequest) (set : SetAnswers) (opens : Bool) (a : Answers)
  | closeInput (inp : ℕ) (opens : Bool) (a : Answers)
  | read (inp : ℕ) (r : Recorder.ReadAnswers) (first second : Answers)
  | standbyInput (inp : ℕ) (opens : Bool) (a : Answers)
  | setInputParameters (inp : ℕ) (routing : Option Devices) (a : Answers)
  | voip (op : Voip.Op)
  | setVoipParameters (h : ℕ) (routing : Option Devices) (a : Answers)

/-- `setParameters` of an output other than `mOutput`. -/
def setDevice (V : Environment) (routing : Option Devices) (a : Answers) (s : System) : Outcome :=
  match routing with
  | none => .returns s
  | some device => .ofRouting (route V a none device s)

def step (V : Environment) (s : System) : Call → Option Outcome
  | .setMode mode => some (.returns (s.withState (setMode V.E.P mode s.state).2))
  | .setMicMute state a => some (.returns (s.withState (setMicMute V.E.e a state s.state).2))
  | .setParameters p w =>
    some (.ofRouting ((s.hardware.setParameters V.E w p).map fun r => { s with hardware := r.2 }))
  | .openOutput out devices accepted =>
    if s.state.Fresh out then some (.returns (s.withState (openPcm out devices accepted s.state)))
    else none
  | .openLpa out format channels samplingRate o =>
    if s.state.Fresh out then
      some (.returns (s.withState (openLpa out format channels samplingRate o s.state)))
    else none
  | .closeOutput out => some (.returns (s.withState (closeOutputStream out s.state)))
  | .write a => (writePcm V.E a s.state).map fun state => .returns (s.withState state)
  | .standbyOutput a => (standbyPcm V.E a s.state).map fun state => .returns (s.withState state)
  | .setOutputParameters on routing a => s.mOutput.map fun _ => setOutputParameters V on routing a s
  | .setDirectParameters routing a => s.mDirectOutput.map fun _ => setDevice V routing a s
  | .setLpaParameters session routing a =>
    if session ∈ liveSessions s.state.log then some (setDevice V routing a s) else none
  | .openInput q set opens a => if q.Possible V s then some (openInput V q set opens a s) else none
  | .closeInput inp opens a => (s.recorder.streams inp).map fun x => closeInput V inp opens a x s
  | .read inp r first second => (s.recorder.streams inp).map fun x => readInput V inp r first second x s
  | .standbyInput inp opens a => (s.recorder.streams inp).map fun x => standbyInput V inp opens a x s
  | .setInputParameters inp routing a =>
    (s.recorder.streams inp).map fun x => setInputParameters V inp routing a x s
  | .voip op => (voipCall V op s).map .returns
  | .setVoipParameters h routing a => (s.mVoipInputs h).map fun _ => setVoipParameters V routing a s

/-- The state after a call that returns. -/
def advance (V : Environment) (s : System) (c : Call) : Option System :=
  match step V s c with
  | some (.returns s') => some s'
  | _ => none

/-- The state after the constructor: the sound driver's descriptor and endpoints, what the memory
holds for `mOutputLPA`, and whether the filter tables have been loaded. -/
def init (m7xsnddriverfd : Int) (junk : Option ℕ) (mSndEndpoints : List SndEndpoint)
    (audpp_filter_inited : Bool) : System where
  hardware := { state := Route.init m7xsnddriverfd junk, mSndEndpoints := mSndEndpoints }
  recorder := { audpp_filter_inited := audpp_filter_inited }

end Msm7x27a.Client
