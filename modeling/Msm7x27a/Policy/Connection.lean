import Msm7x27a.Policy.Strategy
import Msm7x27a.Policy.Outputs

/-!
# Connecting and disconnecting a device

`setForceUse` and `setDeviceConnectionState`.  The latter handles an output device, then the input
device that comes with a headset, or an input device alone; it is `none` where the code dereferences
the null descriptor of an output that is not open.
-/

namespace Msm7x27a.Policy

open Msm7x27a.Audio (Status noError badValue)
open Msm7x27a.Route (Devices)

namespace State

variable {R : Type} (B : Base R) (H : Headers)

/-! ### `setForceUse` -/

/-- The configurations that are stored for a use.  For a dock and for the system others are stored
too, with a warning. -/
def accepts : ForceUse → ForcedConfig → Bool
  | .communication, config => config ∈ [.speaker, .btSco, .none]
  | .media, config =>
    config ∈ [.headphones, .btA2dp, .speaker, .wiredAccessory, .analogDock, .digitalDock, .none,
      .noBtA2dp]
  | .record, config => config ∈ [.btSco, .wiredAccessory, .none]
  | .dock, _ | .system, _ => true
  | .other _, _ => false

def storeForceUse (usage : ForceUse) (config : ForcedConfig) (s : State R) : State R :=
  { s with mForceUse := Function.update s.mForceUse usage config }

/-- Every open output gets its device again. -/
def routeOutputs (force : State R → ℕ → Devices → Bool) (s : State R) : State R :=
  s.mOutputs.keys.foldl (fun s output =>
    let newDevice := B.getNewDevice s output true
    s.setOutputDevice output newDevice (force s output newDevice)) s

def checkA2dpSuspend (s : State R) : State R := { s with mA2dpSuspended := B.checkA2dpSuspend s }

def checkOutputForAllStrategies (s : State R) : State R :=
  { s with rest := B.checkOutputForAllStrategies s }

def updateDevicesAndOutputs (s : State R) : State R :=
  { s with
    mDeviceForStrategy := (B.updateDevicesAndOutputs s).1
    mPreviousOutputs := (B.updateDevicesAndOutputs s).2 }

/-- The changes that a new forced use triggers. -/
def applyForceUse (s : State R) : State R :=
  let s := ((s.checkA2dpSuspend B).checkOutputForAllStrategies B).updateDevicesAndOutputs B
  (s.routeOutputs B fun _ _ newDevice => newDevice ≠ 0).routeActiveInput B H

def setForceUse (usage : ForceUse) (config : ForcedConfig) (s : State R) : State R :=
  match usage with
  | .other _ => s.applyForceUse B H
  | .media =>
    if accepts .media config = false then s
    else if s.fmMode = .digital ∧ config = .none then { s with pendingForceNone := true }
    else ({ s with pendingForceNone := false }.storeForceUse .media config).applyForceUse B H
  | usage =>
    if accepts usage config = false then s else (s.storeForceUse usage config).applyForceUse B H

/-! ### The output device -/

/-- The mode of FM is set, unless FM is connected in a mode; `none` is an error. -/
def startFm (isAnalog : Bool) (device : Devices) (s : State R) : Option (State R) :=
  if device = H.AUDIO_DEVICE_OUT_FM then
    let fmMode : FmMode := if isAnalog then .analog else .digital
    if fmMode = s.fmMode then none
    else if s.fmMode ≠ .none then none
    else some (s.setFmMode fmMode)
  else some s

/-- The parameter is sent to the outputs. -/
def sendTo (outputs : SortedVector ℕ) (parameter : Parameter) (s : State R) : State R :=
  outputs.toList.foldl (fun s output => s.setParameters output parameter) s

/-- The address of a device that is connected. -/
def setAddress (device : Devices) (device_address : String) (outputs : SortedVector ℕ) (s : State R) :
    State R :=
  if outputs.toList = [] then s
  else if s.mHasA2dp ∧ H.audio_is_a2dp_device device then
    { s with mA2dpDeviceAddress := device_address, mA2dpSuspended := false }.sendTo outputs
      (.a2dpSinkAddress device_address)
  else if H.audio_is_bluetooth_sco_device device then { s with mScoDeviceAddress := device_address }
  else if s.mHasUsb ∧ H.audio_is_usb_device device then
    let s := { s with mUsbCardAndDevice := device_address }
    if device_address = "" then s else s.sendTo outputs (.cardAndDevice device_address)
  else s

/-- An output device is connected: the status, and the outputs for it. -/
def connectDevice (c : Client) (isAnalog : Bool) (device : Devices) (device_address : String)
    (s : State R) : Status × State R × SortedVector ℕ :=
  match s.startFm H isAnalog device with
  | none => (invalidOperation, s, .empty)
  | some s =>
    if s.mAvailableOutputDevices.has device then (invalidOperation, s, .empty)
    else
      let r := s.checkOutputsForDevice c device .available
      if r.1 ≠ noError then (invalidOperation, r.2)
      else
        let s := { r.2.1 with
          mAvailableOutputDevices := r.2.1.mAvailableOutputDevices ||| device }
        (noError, s.setAddress H device device_address r.2.2, r.2.2)

/-- FM goes off, and a forced use that was put off is set. -/
def fmOff (s : State R) : State R :=
  let s := s.setFmMode .none
  if s.pendingForceNone then s.setForceUse B H .media .none else s

/-- Media would be played through A2DP. -/
def MediaOnA2dp (s : State R) : Prop :=
  let newDevice := s.getDeviceForStrategy B H .media false
  newDevice.has H.AUDIO_DEVICE_OUT_BLUETOOTH_A2DP ∨
    newDevice.has H.AUDIO_DEVICE_OUT_BLUETOOTH_A2DP_HEADPHONES ∨
      newDevice.has H.AUDIO_DEVICE_OUT_BLUETOOTH_A2DP_SPEAKER

instance (s : State R) : Decidable (s.MediaOnA2dp B H) := by unfold MediaOnA2dp; infer_instance

/-- FM is turned off, whether it is connected or not. -/
def stopFm (device : Devices) (s : State R) : Option (State R) :=
  if device = H.AUDIO_DEVICE_OUT_FM then
    let s := s.fmOff B H
    if s.MediaOnA2dp B H then
      if s.mPrimaryOutput ∈ s.mOutputs then
        some (s.setOutputDevice s.mPrimaryOutput H.AUDIO_DEVICE_OUT_WIRED_HEADSET true)
      else none
    else some s
  else some s

/-- The address of a device that is disconnected. -/
def clearAddress (device : Devices) (s : State R) : State R :=
  if s.mHasA2dp ∧ H.audio_is_a2dp_device device then
    { s with mA2dpDeviceAddress := "", mA2dpSuspended := false }
  else if H.audio_is_bluetooth_sco_device device then { s with mScoDeviceAddress := "" }
  else if s.mHasUsb ∧ H.audio_is_usb_device device then { s with mUsbCardAndDevice := "" }
  else s

/-- An output device is disconnected: the status, and the outputs that are not needed any more. -/
def disconnectDevice (c : Client) (device : Devices) (s : State R) :
    Option (Status × State R × SortedVector ℕ) :=
  (s.stopFm B H device).map fun s =>
    if s.mAvailableOutputDevices.has device = false then (invalidOperation, s, .empty)
    else
      let s := { s with mAvailableOutputDevices := s.mAvailableOutputDevices &&& ~~~device }
      let r := s.checkOutputsForDevice c device .unavailable
      (noError, r.2.1.clearAddress H device, r.2.2)

/-- The switch over the state of an output device. -/
def setOutputState (c : Client) (isAnalog : Bool) (device : Devices) (state : ConnectionState)
    (device_address : String) (s : State R) : Option (Status × State R × SortedVector ℕ) :=
  match state with
  | .available => some (s.connectDevice H c isAnalog device device_address)
  | .unavailable => s.disconnectDevice B H c device
  | .other _ => some (badValue, s, .empty)

/-- FM counts as music on the primary output. -/
def countFm (device : Devices) (state : ConnectionState) (s : State R) : State R × Devices :=
  let newDevice := B.getNewDevice s s.mPrimaryOutput false
  if device = H.AUDIO_DEVICE_OUT_FM then
    let delta : Int := if state = .available then 1 else -1
    let s := { s with mOutputs := s.mOutputs.modify s.mPrimaryOutput (·.changeRefCount .music delta) }
    let newDevice := if state = .available then
      B.getNewDevice s s.mPrimaryOutput false ||| H.AUDIO_DEVICE_OUT_FM else newDevice
    (s.setParameters s.mPrimaryOutput (.handleFm newDevice), newDevice)
  else (s, newDevice)

/-- The base class removes the output and the outputs that duplicate it. -/
def closeOutput (output : ℕ) (s : State R) : State R :=
  if output ∈ s.mOutputs then
    { s with
      mOutputs := s.mOutputs.filter fun o desc => o ≠ output ∧ ¬Duplicates desc output
      rest := B.closeOutput s output }
  else s

/-- The outputs that are closed: after a disconnection all that are not needed, after a connection
the direct ones that were opened for their parameters. -/
def closeUnused (state : ConnectionState) : List ℕ → State R → Option (State R)
  | [], s => some s
  | output :: outputs, s =>
    if state = .unavailable then closeUnused state outputs (s.closeOutput B output)
    else
      match s.mOutputs.valueFor output with
      | none => none
      | some desc =>
        if desc.mFlags.DIRECT ∧ desc.mFlags.onDemand = false then
          closeUnused state outputs (s.closeOutput B output)
        else closeUnused state outputs s

/-- What follows the switch over the state. -/
def finishOutput (device : Devices) (state : ConnectionState) (outputs : SortedVector ℕ)
    (s : State R) : Option (State R) :=
  if s.mPrimaryOutput ∈ s.mOutputs then
    let r := s.countFm B H device state
    let s := r.1.setOutputDevice s.mPrimaryOutput r.2 false
    let s := (s.checkA2dpSuspend B).checkOutputForAllStrategies B
    (s.closeUnused B state outputs.toList).map fun s =>
      (s.updateDevicesAndOutputs B).routeOutputs B fun s output _ =>
        !(s.mOutputs.valueFor output).any (·.isDuplicated)
  else none

/-! ### The input device -/

/-- The input device that comes with an output device. -/
def pairedInput (device : Devices) : Option Devices :=
  if device = H.AUDIO_DEVICE_OUT_WIRED_HEADSET then some H.AUDIO_DEVICE_IN_WIRED_HEADSET
  else if device = H.AUDIO_DEVICE_OUT_BLUETOOTH_SCO ∨
      device = H.AUDIO_DEVICE_OUT_BLUETOOTH_SCO_HEADSET ∨
      device = H.AUDIO_DEVICE_OUT_BLUETOOTH_SCO_CARKIT then
    some H.AUDIO_DEVICE_IN_BLUETOOTH_SCO_HEADSET
  else none

def setInputState (device : Devices) (state : ConnectionState) (s : State R) : Status × State R :=
  match state with
  | .available =>
    if s.hasInput device then (invalidOperation, s)
    else
      (noError, { s with
        mAvailableInputDevices :=
          s.mAvailableInputDevices ||| (device &&& ~~~H.AUDIO_DEVICE_BIT_IN) }.routeActiveInput B H)
  | .unavailable =>
    if s.hasInput device = false then (invalidOperation, s)
    else
      (noError, { s with
        mAvailableInputDevices := s.mAvailableInputDevices &&& ~~~device }.routeActiveInput B H)
  | .other _ => (badValue, s)

/-! ### `setDeviceConnectionState` -/

/-- The checks of an output device before anything else. -/
def refuses (device : Devices) (s : State R) : Bool :=
  !s.mHasA2dp && H.audio_is_a2dp_device device || !s.mHasUsb && H.audio_is_usb_device device ||
    !s.mHasRemoteSubmix && H.audio_is_remote_submix_device device

/-- The input device that comes with the output device follows it. -/
def changePaired (device : Devices) (state : ConnectionState) (s : State R) : Status × State R :=
  match pairedInput H device with
  | none => (noError, s)
  | some device =>
    if H.audio_is_input_device device then s.setInputState B H device state else (badValue, s)

/-- An output device that has passed the checks. -/
def changeOutput (c : Client) (isAnalog : Bool) (device : Devices) (state : ConnectionState)
    (device_address : String) (s : State R) : Option (Status × State R) :=
  (s.setOutputState B H c isAnalog device state device_address).bind fun (status, s, outputs) =>
    if status ≠ noError then some (status, s)
    else (s.finishOutput B H device state outputs).map (changePaired B H device state)

/-- The open outputs are remembered. -/
def saveOutputs (s : State R) : State R := { s with mPreviousOutputs := s.mOutputs }

def setDeviceConnectionState (c : Client) (isAnalog : Bool) (device : Devices)
    (state : ConnectionState) (device_address : String) (s : State R) : Option (Status × State R) :=
  if H.audio_is_output_device device = false ∧ H.audio_is_input_device device = false then
    some (badValue, s)
  else if H.MAX_DEVICE_ADDRESS_LEN ≤ device_address.utf8ByteSize then some (badValue, s)
  else if H.audio_is_output_device device then
    if s.refuses H device then some (badValue, s)
    else s.saveOutputs.changeOutput B H c isAnalog device state device_address
  else some (s.setInputState B H device state)

end State

end Msm7x27a.Policy
