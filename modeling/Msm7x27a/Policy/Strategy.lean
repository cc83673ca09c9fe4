import Msm7x27a.Policy.Manager

/-!
# The device of a strategy

`getDeviceForStrategy` and `getDeviceForInputSource`.  The cases of the first that fall through to
the next are functions of the device that they come with.
-/

namespace Msm7x27a.Policy

open Msm7x27a.Route (Devices)

/-- The first device that is there, 0 if none is. -/
def firstOf : List Devices → Devices
  | [] => 0
  | d :: ds => if d ≠ 0 then d else firstOf ds

namespace State

variable {R : Type} (B : Base R) (H : Headers) (s : State R)

/-- The device, if it is available for output. -/
def out (device : Devices) : Devices := s.mAvailableOutputDevices &&& device

/-- A2DP may be used for media. -/
def a2dpForMedia : Bool :=
  s.mHasA2dp && s.mForceUse .media ≠ .noBtA2dp && B.getA2dpOutput s ≠ 0 && !s.mA2dpSuspended

/-- The case of `FORCE_BT_SCO`, before it falls through. -/
def scoDevice (strategy : Strategy) : Devices :=
  firstOf [
    if B.isInCall s.mPhoneState = false ∨ strategy ≠ .dtmf then
      s.out H.AUDIO_DEVICE_OUT_BLUETOOTH_SCO_CARKIT else 0,
    s.out H.AUDIO_DEVICE_OUT_BLUETOOTH_SCO_HEADSET,
    s.out H.AUDIO_DEVICE_OUT_BLUETOOTH_SCO]

/-- The case of `FORCE_NONE`. -/
def phoneDefault : Devices :=
  let a2dp := B.isInCall s.mPhoneState = false ∧ s.a2dpForMedia B
  firstOf [
    if a2dp then s.out H.AUDIO_DEVICE_OUT_BLUETOOTH_A2DP else 0,
    if a2dp then s.out H.AUDIO_DEVICE_OUT_BLUETOOTH_A2DP_HEADPHONES else 0,
    s.out H.AUDIO_DEVICE_OUT_WIRED_HEADPHONE,
    s.out H.AUDIO_DEVICE_OUT_WIRED_HEADSET,
    s.out H.AUDIO_DEVICE_OUT_USB_DEVICE,
    s.out H.AUDIO_DEVICE_OUT_DGTL_DOCK_HEADSET,
    s.out H.AUDIO_DEVICE_OUT_AUX_DIGITAL,
    s.out H.AUDIO_DEVICE_OUT_ANLG_DOCK_HEADSET,
    s.out H.AUDIO_DEVICE_OUT_EARPIECE,
    s.mDefaultOutputDevice]

/-- The case of `FORCE_SPEAKER`. -/
def phoneSpeaker : Devices :=
  firstOf [
    if B.isInCall s.mPhoneState = false ∧ s.a2dpForMedia B then
      s.out H.AUDIO_DEVICE_OUT_BLUETOOTH_A2DP_SPEAKER else 0,
    s.out H.AUDIO_DEVICE_OUT_USB_DEVICE,
    s.out H.AUDIO_DEVICE_OUT_DGTL_DOCK_HEADSET,
    s.out H.AUDIO_DEVICE_OUT_AUX_DIGITAL,
    s.out H.AUDIO_DEVICE_OUT_ANLG_DOCK_HEADSET,
    s.out H.AUDIO_DEVICE_OUT_SPEAKER,
    s.mDefaultOutputDevice]

/-- `STRATEGY_PHONE`, also for DTMF in a call. -/
def phoneDevice (strategy : Strategy) : Devices :=
  let device :=
    match s.mForceUse .communication with
    | .btSco =>
      if s.scoDevice B H strategy ≠ 0 then s.scoDevice B H strategy else s.phoneDefault B H
    | .speaker => s.phoneSpeaker B H
    | _ => s.phoneDefault B H
  if s.out H.AUDIO_DEVICE_OUT_FM ≠ 0 ∧ s.mForceUse .media = .speaker then H.AUDIO_DEVICE_OUT_SPEAKER
  else device

/-- `device2` of `STRATEGY_MEDIA`. -/
def mediaDevice2 : Devices :=
  let a2dp := s.a2dpForMedia B ∧ s.fmMode ≠ .analog
  firstOf [
    if a2dp then s.out H.AUDIO_DEVICE_OUT_BLUETOOTH_A2DP else 0,
    if a2dp then s.out H.AUDIO_DEVICE_OUT_BLUETOOTH_A2DP_HEADPHONES else 0,
    if a2dp then s.out H.AUDIO_DEVICE_OUT_BLUETOOTH_A2DP_SPEAKER else 0,
    s.out H.AUDIO_DEVICE_OUT_WIRED_HEADPHONE,
    s.out H.AUDIO_DEVICE_OUT_WIRED_HEADSET,
    s.out H.AUDIO_DEVICE_OUT_USB_ACCESSORY,
    s.out H.AUDIO_DEVICE_OUT_USB_DEVICE,
    s.out H.AUDIO_DEVICE_OUT_DGTL_DOCK_HEADSET,
    s.out H.AUDIO_DEVICE_OUT_AUX_DIGITAL,
    s.out H.AUDIO_DEVICE_OUT_ANLG_DOCK_HEADSET,
    s.out H.AUDIO_DEVICE_OUT_SPEAKER]

/-- The choice by the forced use for media.  The default case has no `break` after it assigns
`mDefaultOutputDevice`, so the speaker takes its place. -/
def mediaForced (device : Devices) : Devices :=
  match s.mForceUse .media with
  | .speaker => s.out H.AUDIO_DEVICE_OUT_SPEAKER
  | _ =>
    let device := device ||| s.mediaDevice2 B H
    if device ≠ 0 then device else s.out H.AUDIO_DEVICE_OUT_SPEAKER

/-- FM is played with the media. -/
def withFm (device : Devices) : Devices :=
  if s.out H.AUDIO_DEVICE_OUT_FM ≠ 0 then
    let device := device ||| H.AUDIO_DEVICE_OUT_FM
    if s.fmMode = .analog then
      if device = H.AUDIO_DEVICE_OUT_SPEAKER ||| H.AUDIO_DEVICE_OUT_WIRED_HEADSET |||
          H.AUDIO_DEVICE_OUT_FM then H.AUDIO_DEVICE_OUT_SPEAKER
      else if device &&& H.AUDIO_DEVICE_OUT_WIRED_HEADSET ≠ 0 then
        device &&& ~~~(device &&& H.AUDIO_DEVICE_OUT_WIRED_HEADSET)
      else device
    else device
  else device

/-- `STRATEGY_MEDIA`, come to with a device. -/
def mediaDevice (strategy : Strategy) (device : Devices) : Devices :=
  let device := s.withFm H (s.mediaForced B H device)
  if s.mPhoneState = .inCall ∧ B.isA2dpDevice device = false ∧
      device ≠ s.mDeviceForStrategy .phone ∧ strategy = .enforcedAudible then
    if s.mCanBeMuted = false then device else s.mDeviceForStrategy .phone
  else device

/-- `STRATEGY_ENFORCED_AUDIBLE`, also for sonification outside a call. -/
def audibleDevice (strategy : Strategy) : Devices :=
  let device :=
    if strategy = .sonification ∨ s.mCanBeMuted = false then s.out H.AUDIO_DEVICE_OUT_SPEAKER else 0
  if s.fmMode = .analog then device else s.mediaDevice B H strategy device

/-- `STRATEGY_SONIFICATION`. -/
def sonificationDevice : Devices :=
  if B.isInCall s.mPhoneState then s.phoneDevice B H .phone else s.audibleDevice B H .sonification

def getDeviceForStrategy (strategy : Strategy) (fromCache : Bool) : Devices :=
  if fromCache then s.mDeviceForStrategy strategy
  else
    match strategy with
    | .sonificationRespectful =>
      if B.isInCall s.mPhoneState then s.sonificationDevice B H
      else if B.isMusicActiveRemotely s then s.sonificationDevice B H
      else if B.isMusicActive s then s.mediaDevice B H .media 0
      else s.sonificationDevice B H
    | .dtmf =>
      if B.isInCall s.mPhoneState then s.phoneDevice B H .dtmf else s.mediaDevice B H .media 0
    | .phone => s.phoneDevice B H .phone
    | .sonification => s.sonificationDevice B H
    | .enforcedAudible => s.audibleDevice B H .enforcedAudible
    | .media => s.mediaDevice B H .media 0
    | .other _ => 0

/-! ### Inputs -/

/-- The device is available for input. -/
def hasInput (device : Devices) : Bool := s.mAvailableInputDevices.has device

/-- The device of a microphone. -/
def micDevice : Devices :=
  if s.mForceUse .record = .btSco ∧ s.hasInput H.AUDIO_DEVICE_IN_BLUETOOTH_SCO_HEADSET then
    H.AUDIO_DEVICE_IN_BLUETOOTH_SCO_HEADSET
  else if s.hasInput H.AUDIO_DEVICE_IN_WIRED_HEADSET then H.AUDIO_DEVICE_IN_WIRED_HEADSET
  else if s.hasInput H.AUDIO_DEVICE_IN_BUILTIN_MIC then H.AUDIO_DEVICE_IN_BUILTIN_MIC
  else 0

def getDeviceForInputSource (inputSource : InputSource) : Devices :=
  match inputSource with
  | .voiceUplink =>
    if s.hasInput H.AUDIO_DEVICE_IN_VOICE_CALL then H.AUDIO_DEVICE_IN_VOICE_CALL else s.micDevice H
  | .default | .mic | .voiceRecognition | .hotword => s.micDevice H
  | .voiceCommunication => H.AUDIO_DEVICE_IN_COMMUNICATION
  | .camcorder =>
    if s.hasInput H.AUDIO_DEVICE_IN_BACK_MIC then H.AUDIO_DEVICE_IN_BACK_MIC
    else if s.hasInput H.AUDIO_DEVICE_IN_BUILTIN_MIC then H.AUDIO_DEVICE_IN_BUILTIN_MIC
    else 0
  | .voiceDownlink | .voiceCall =>
    if s.hasInput H.AUDIO_DEVICE_IN_VOICE_CALL then H.AUDIO_DEVICE_IN_VOICE_CALL else 0
  | .remoteSubmix =>
    if s.hasInput H.AUDIO_DEVICE_IN_REMOTE_SUBMIX then H.AUDIO_DEVICE_IN_REMOTE_SUBMIX else 0
  | .fmRx => H.AUDIO_DEVICE_IN_FM_RX
  | .fmRxA2dp => H.AUDIO_DEVICE_IN_FM_RX_A2DP
  | .other _ => 0

/-- The active input is given the device of its source, if that is another one. -/
def routeActiveInput : State R :=
  let activeInput := B.getActiveInput s
  if activeInput = 0 then s
  else
    match s.mInputs.valueFor activeInput with
    | none => s
    | some inputDesc =>
      let newDevice := s.getDeviceForInputSource H inputDesc.mInputSource
      if newDevice ≠ 0 ∧ newDevice ≠ inputDesc.mDevice then
        { s with
          mInputs := s.mInputs.modify activeInput fun inputDesc =>
            { inputDesc with mDevice := newDevice } }.setParameters activeInput (.routing newDevice)
      else s

end State

end Msm7x27a.Policy
