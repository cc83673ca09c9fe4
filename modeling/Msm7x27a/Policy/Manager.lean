import Msm7x27a.Route.Devices
import Msm7x27a.Lib.KeyedVector
import Msm7x27a.Lib.SortedVector

/-!
# The state of the audio policy manager

The members of `AudioPolicyManager` and of its base class that the modelled functions read and write.
Output profiles are addresses into a heap, as their lists of rates, formats and channel masks change;
an output descriptor either belongs to a profile or is that of a duplicating output.

The base class, the audio flinger and the audio headers are code outside the repository.  `Headers`
has the devices and their classes, `Base` what the base class computes, and `Client` what the client
interface answers to one call.  The rest of the base class's state is the type `R`: its functions
change that and what is said here, and no more.
-/

namespace Msm7x27a.Policy

open Msm7x27a.Audio (AudioMode Status)
open Msm7x27a.Route (Devices)

def invalidOperation : Status := -38

/-- `AUDIO_DEVICE_*`, and the classes of devices. -/
structure Headers where
  AUDIO_DEVICE_OUT_EARPIECE : Devices
  AUDIO_DEVICE_OUT_SPEAKER : Devices
  AUDIO_DEVICE_OUT_WIRED_HEADSET : Devices
  AUDIO_DEVICE_OUT_WIRED_HEADPHONE : Devices
  AUDIO_DEVICE_OUT_BLUETOOTH_SCO : Devices
  AUDIO_DEVICE_OUT_BLUETOOTH_SCO_HEADSET : Devices
  AUDIO_DEVICE_OUT_BLUETOOTH_SCO_CARKIT : Devices
  AUDIO_DEVICE_OUT_BLUETOOTH_A2DP : Devices
  AUDIO_DEVICE_OUT_BLUETOOTH_A2DP_HEADPHONES : Devices
  AUDIO_DEVICE_OUT_BLUETOOTH_A2DP_SPEAKER : Devices
  AUDIO_DEVICE_OUT_ALL_A2DP : Devices
  AUDIO_DEVICE_OUT_AUX_DIGITAL : Devices
  AUDIO_DEVICE_OUT_ANLG_DOCK_HEADSET : Devices
  AUDIO_DEVICE_OUT_DGTL_DOCK_HEADSET : Devices
  AUDIO_DEVICE_OUT_USB_ACCESSORY : Devices
  AUDIO_DEVICE_OUT_USB_DEVICE : Devices
  AUDIO_DEVICE_OUT_FM : Devices
  AUDIO_DEVICE_BIT_IN : Devices
  AUDIO_DEVICE_IN_COMMUNICATION : Devices
  AUDIO_DEVICE_IN_BUILTIN_MIC : Devices
  AUDIO_DEVICE_IN_BACK_MIC : Devices
  AUDIO_DEVICE_IN_BLUETOOTH_SCO_HEADSET : Devices
  AUDIO_DEVICE_IN_WIRED_HEADSET : Devices
  AUDIO_DEVICE_IN_VOICE_CALL : Devices
  AUDIO_DEVICE_IN_REMOTE_SUBMIX : Devices
  AUDIO_DEVICE_IN_FM_RX : Devices
  AUDIO_DEVICE_IN_FM_RX_A2DP : Devices
  audio_is_output_device : Devices → Bool
  audio_is_input_device : Devices → Bool
  audio_is_a2dp_device : Devices → Bool
  audio_is_usb_device : Devices → Bool
  audio_is_remote_submix_device : Devices → Bool
  audio_is_bluetooth_sco_device : Devices → Bool
  audio_is_linear_pcm : ℕ → Bool
  MAX_DEVICE_ADDRESS_LEN : ℕ

/-- `fm_modes`. -/
inductive FmMode where
  | digital | analog | none
  deriving DecidableEq, Repr

/-- `AudioSystem::force_use`. -/
inductive ForceUse where
  | communication | media | record | dock | system | other (code : ℕ)
  deriving DecidableEq, Repr

/-- `AudioSystem::forced_config`. -/
inductive ForcedConfig where
  | none | speaker | headphones | btSco | btA2dp | wiredAccessory | btCarDock | btDeskDock
  | analogDock | digitalDock | noBtA2dp | systemEnforced | other (code : ℕ)
  deriving DecidableEq, Repr

/-- `routing_strategy`. -/
inductive Strategy where
  | media | phone | sonification | sonificationRespectful | dtmf | enforcedAudible | other (code : ℕ)
  deriving DecidableEq, Repr

/-- `AudioSystem::stream_type`, as far as the code tells streams apart. -/
inductive StreamType where
  | music | system | ring | enforcedAudible | other (code : ℕ)
  deriving DecidableEq, Repr

/-- `AudioSystem::device_connection_state`. -/
inductive ConnectionState where
  | unavailable | available | other (code : ℕ)
  deriving DecidableEq, Repr

/-- `AUDIO_SOURCE_*`. -/
inductive InputSource where
  | default | mic | voiceUplink | voiceDownlink | voiceCall | camcorder | voiceRecognition
  | voiceCommunication | remoteSubmix | hotword | fmRx | fmRxA2dp | other (code : ℕ)
  deriving DecidableEq, Repr

/-- The bits `AUDIO_OUTPUT_FLAG_*` that are tested. -/
structure OutputFlags where
  DIRECT : Bool := false
  LPA : Bool := false
  TUNNEL : Bool := false
  VOIP_RX : Bool := false
  COMPRESS_OFFLOAD : Bool := false
  deriving DecidableEq, Repr

/-- Outputs of these kinds are only opened for a client. -/
def OutputFlags.onDemand (f : OutputFlags) : Bool := f.LPA || f.TUNNEL || f.VOIP_RX

def OutputFlags.union (f g : OutputFlags) : OutputFlags where
  DIRECT := f.DIRECT || g.DIRECT
  LPA := f.LPA || g.LPA
  TUNNEL := f.TUNNEL || g.TUNNEL
  VOIP_RX := f.VOIP_RX || g.VOIP_RX
  COMPRESS_OFFLOAD := f.COMPRESS_OFFLOAD || g.COMPRESS_OFFLOAD

structure IOProfile where
  mSupportedDevices : Devices
  mFlags : OutputFlags := {}
  mSamplingRates : List ℕ := []
  mFormats : List ℕ := []
  mChannelMasks : List ℕ := []
  deriving DecidableEq, Repr

/-- The profiles of a module, by address. -/
structure HwModule where
  mHandle : ℕ
  mOutputProfiles : List ℕ
  deriving DecidableEq, Repr

/-- What an output descriptor stands for. -/
inductive Origin where
  | profile (mProfile : ℕ)
  | duplicated (mOutput1 mOutput2 : ℕ)
  deriving DecidableEq, Repr

/-- What an output is opened for; 0 is any value. -/
structure OutputConfig where
  mSamplingRate : ℕ := 0
  mFormat : ℕ := 0
  mChannelMask : ℕ := 0
  deriving DecidableEq, Repr

structure AudioOutputDescriptor extends OutputConfig where
  origin : Origin
  mFlags : OutputFlags := {}
  mRefCount : StreamType → ℕ := fun _ => 0
  mDirectOpenCount : Int := 0

structure AudioInputDescriptor where
  mInputSource : InputSource
  mDevice : Devices
  deriving DecidableEq, Repr

/-- Parameters that are sent to an output or an input. -/
inductive Parameter where
  | a2dpSinkAddress (address : String)
  | cardAndDevice (address : String)
  | handleFm (device : Devices)
  | routing (device : Devices)
  deriving DecidableEq, Repr

/-- What is done through `setOutputDevice`, the client interface and the base class's mutes. -/
inductive Event where
  | setOutputDevice (output : ℕ) (device : Devices) (force : Bool)
  | setParameters (handle : ℕ) (parameter : Parameter)
  | setStrategyMute (strategy : Strategy) (on : Bool) (output : ℕ)
  | setStreamMute (stream : StreamType) (on : Bool) (output : ℕ)
  deriving DecidableEq, Repr

/-- The members; `R` is the rest of the base class's. -/
structure State (R : Type) where
  mAvailableOutputDevices : Devices
  mAvailableInputDevices : Devices
  mDefaultOutputDevice : Devices
  mPhoneState : AudioMode
  mForceUse : ForceUse → ForcedConfig
  fmMode : FmMode
  /-- The constructor leaves it as it finds it. -/
  pendingForceNone : Bool
  mHasA2dp : Bool
  mHasUsb : Bool
  mHasRemoteSubmix : Bool
  mA2dpSuspended : Bool
  mA2dpDeviceAddress : String := ""
  mScoDeviceAddress : String := ""
  mUsbCardAndDevice : String := ""
  /-- `mStreams[AUDIO_STREAM_ENFORCED_AUDIBLE].mCanBeMuted`. -/
  mCanBeMuted : Bool
  mDeviceForStrategy : Strategy → Devices
  mPrimaryOutput : ℕ
  mOutputs : KeyedVector ℕ AudioOutputDescriptor
  mPreviousOutputs : KeyedVector ℕ AudioOutputDescriptor
  mInputs : KeyedVector ℕ AudioInputDescriptor
  mHwModules : List HwModule
  /-- The profiles, by address. -/
  profile : ℕ → IOProfile
  rest : R
  log : List Event := []

/-- What the base class computes. -/
structure Base (R : Type) where
  isInCall : AudioMode → Bool
  isA2dpDevice : Devices → Bool
  getA2dpOutput : State R → ℕ
  /-- Music is active, or was a short time ago, remotely or not. -/
  isMusicActiveRemotely : State R → Bool
  isMusicActive : State R → Bool
  getNewDevice : State R → ℕ → Bool → Devices
  getActiveInput : State R → ℕ
  checkA2dpSuspend : State R → Bool
  checkOutputForAllStrategies : State R → R
  /-- `mDeviceForStrategy` and `mPreviousOutputs`. -/
  updateDevicesAndOutputs :
    State R → (Strategy → Devices) × KeyedVector ℕ AudioOutputDescriptor
  closeOutput : State R → ℕ → R
  getStrategy : StreamType → Strategy
  isCompatibleProfile : IOProfile → Devices → OutputConfig → OutputFlags → Bool
  /-- The open output for a device and flags, 0 if there is none. -/
  selectOutput : State R → Devices → OutputFlags → ℕ
  sharesHwModuleWith : State R → ℕ → ℕ → Bool
  device : State R → ℕ → Devices
  isActive : State R → ℕ → Bool
  isStrategyActive : State R → ℕ → Strategy → Bool
  /-- All stream types, in the order of their numbers. -/
  streams : List StreamType
  setStopTime : State R → ℕ → StreamType → R
  handleIncallSonification : State R → StreamType → Bool → Bool → R
  /-- The effects follow the output that `getOutputForEffect` returns. -/
  moveEffects : State R → R
  checkOutputForStrategy : State R → Strategy → R

/-- A request for a new output: for a profile, or to duplicate the output of a profile. -/
inductive Request where
  | output (mProfile : ℕ)
  | duplicate (mProfile : ℕ)
  deriving DecidableEq, Repr

/-- What the client interface answers to one call.  A new output has a handle that no open output
has. -/
structure Client where
  /-- `openOutput` and `openDuplicateOutput` succeed. -/
  opens : Request → Bool
  handle : Request → List ℕ → ℕ
  fresh : ∀ r used, handle r used ∉ used
  ne_zero : ∀ r used, handle r used ≠ 0
  /-- What `openOutput` leaves of the parameters it is given. -/
  config : Request → OutputConfig → OutputConfig
  /-- The values that are read from the reply to a query for a profile, if it has an `=`. -/
  samplingRates : ℕ → Option (List ℕ)
  formats : ℕ → Option (List ℕ)
  channelMasks : ℕ → Option (List ℕ)

/-! ### Small operations -/

namespace AudioOutputDescriptor

def isDuplicated (desc : AudioOutputDescriptor) : Bool :=
  match desc.origin with
  | .profile _ => false
  | .duplicated .. => true

/-- `changeRefCount`: the count does not go below zero. -/
def changeRefCount (stream : StreamType) (delta : Int) (desc : AudioOutputDescriptor) :
    AudioOutputDescriptor :=
  let count := (desc.mRefCount stream + delta).toNat
  { desc with mRefCount := Function.update desc.mRefCount stream count }

end AudioOutputDescriptor

namespace State

variable {R : Type} (s : State R)

def record (ev : Event) : State R := { s with log := ev :: s.log }

/-- `setOutputDevice`; what it does to the device and the mutes of the output is not followed. -/
def setOutputDevice (output : ℕ) (device : Devices) (force : Bool) : State R :=
  s.record (.setOutputDevice output device force)

def setParameters (handle : ℕ) (parameter : Parameter) : State R :=
  s.record (.setParameters handle parameter)

def setFmMode (mode : FmMode) : State R := { s with fmMode := mode }

/-- The base class registers the output. -/
def addOutput (output : ℕ) (desc : AudioOutputDescriptor) : State R :=
  { s with mOutputs := s.mOutputs.add output desc }

/-- The devices of the descriptor's profile; none for a duplicating output. -/
def supportedBy (desc : AudioOutputDescriptor) : Devices :=
  match desc.origin with
  | .profile p => (s.profile p).mSupportedDevices
  | .duplicated .. => 0

/-- The output duplicates the output `output` to another. -/
def Duplicates (desc : AudioOutputDescriptor) (output : ℕ) : Prop :=
  match desc.origin with
  | .profile _ => False
  | .duplicated o1 o2 => o1 = output ∨ o2 = output

instance (desc : AudioOutputDescriptor) (output : ℕ) : Decidable (Duplicates desc output) := by
  unfold Duplicates
  split <;> infer_instance

end State

/-! ### A plain policy -/

/-- One bit of `bits` is set, and no other. -/
def oneOf (bits device : Devices) : Bool :=
  device ≠ 0 ∧ device &&& (device - 1) = 0 ∧ device &&& ~~~bits = 0

/-- A bit for each device; input devices have `AUDIO_DEVICE_BIT_IN` too. -/
def Headers.plain : Headers where
  AUDIO_DEVICE_OUT_EARPIECE := 0x1
  AUDIO_DEVICE_OUT_SPEAKER := 0x2
  AUDIO_DEVICE_OUT_WIRED_HEADSET := 0x4
  AUDIO_DEVICE_OUT_WIRED_HEADPHONE := 0x8
  AUDIO_DEVICE_OUT_BLUETOOTH_SCO := 0x10
  AUDIO_DEVICE_OUT_BLUETOOTH_SCO_HEADSET := 0x20
  AUDIO_DEVICE_OUT_BLUETOOTH_SCO_CARKIT := 0x40
  AUDIO_DEVICE_OUT_BLUETOOTH_A2DP := 0x80
  AUDIO_DEVICE_OUT_BLUETOOTH_A2DP_HEADPHONES := 0x100
  AUDIO_DEVICE_OUT_BLUETOOTH_A2DP_SPEAKER := 0x200
  AUDIO_DEVICE_OUT_ALL_A2DP := 0x380
  AUDIO_DEVICE_OUT_AUX_DIGITAL := 0x400
  AUDIO_DEVICE_OUT_ANLG_DOCK_HEADSET := 0x800
  AUDIO_DEVICE_OUT_DGTL_DOCK_HEADSET := 0x1000
  AUDIO_DEVICE_OUT_USB_ACCESSORY := 0x2000
  AUDIO_DEVICE_OUT_USB_DEVICE := 0x4000
  AUDIO_DEVICE_OUT_FM := 0x80000
  AUDIO_DEVICE_BIT_IN := 0x80000000
  AUDIO_DEVICE_IN_COMMUNICATION := 0x80000001
  AUDIO_DEVICE_IN_BUILTIN_MIC := 0x80000004
  AUDIO_DEVICE_IN_BLUETOOTH_SCO_HEADSET := 0x80000008
  AUDIO_DEVICE_IN_WIRED_HEADSET := 0x80000010
  AUDIO_DEVICE_IN_VOICE_CALL := 0x80000040
  AUDIO_DEVICE_IN_BACK_MIC := 0x80000080
  AUDIO_DEVICE_IN_REMOTE_SUBMIX := 0x80000100
  AUDIO_DEVICE_IN_FM_RX := 0x80000800
  AUDIO_DEVICE_IN_FM_RX_A2DP := 0x80001000
  audio_is_output_device := oneOf 0xfffff
  audio_is_input_device device := device.has 0x80000000 && oneOf 0x1fff (device &&& 0x7fffffff)
  audio_is_a2dp_device := oneOf 0x380
  audio_is_usb_device := oneOf 0x6000
  audio_is_remote_submix_device device := device = 0x8000 ∨ device = 0x80000100
  audio_is_bluetooth_sco_device := oneOf 0x70
  audio_is_linear_pcm format := format = 1 ∨ format = 2
  MAX_DEVICE_ADDRESS_LEN := 20

/-- No stream is active, and nothing is chosen. -/
def Base.plain : Base Unit where
  isInCall mode := mode = .inCall ∨ mode = .inCommunication
  isA2dpDevice := oneOf 0x380
  getA2dpOutput _ := 0
  isMusicActiveRemotely _ := false
  isMusicActive _ := false
  getNewDevice _ _ _ := 0
  getActiveInput _ := 0
  checkA2dpSuspend s := s.mA2dpSuspended
  checkOutputForAllStrategies s := s.rest
  updateDevicesAndOutputs s := (s.mDeviceForStrategy, s.mOutputs)
  closeOutput s _ := s.rest
  getStrategy _ := .media
  isCompatibleProfile p device config flags :=
    p.mSupportedDevices &&& device = device ∧ p.mFlags = flags ∧
      (config.mSamplingRate = 0 ∨ config.mSamplingRate ∈ p.mSamplingRates) ∧
      (config.mFormat = 0 ∨ config.mFormat ∈ p.mFormats) ∧
      (config.mChannelMask = 0 ∨ config.mChannelMask ∈ p.mChannelMasks)
  selectOutput s _ _ := s.mPrimaryOutput
  sharesHwModuleWith _ _ _ := true
  device _ _ := 0
  isActive _ _ := false
  isStrategyActive _ _ _ := false
  streams := []
  setStopTime s _ _ := s.rest
  handleIncallSonification s _ _ _ := s.rest
  moveEffects s := s.rest
  checkOutputForStrategy s _ := s.rest

/-- Every output can be opened, and gets the handle after the highest; no handle is the first. -/
def Client.plain : Client where
  opens _ := true
  handle _ used := used.foldr max 1 + 1
  fresh := by
    intro _ used hmem
    have hle : ∀ l : List ℕ, ∀ h ∈ l, h ≤ l.foldr max 1 := by
      intro l
      induction l with
      | nil => exact fun h hh => absurd hh List.not_mem_nil
      | cons k l ih =>
        intro h hh
        rcases List.mem_cons.1 hh with rfl | hh
        · exact le_max_left ..
        · exact (ih h hh).trans (le_max_right ..)
    have := hle used _ hmem
    omega
  ne_zero _ _ := Nat.succ_ne_zero _
  config _ config := config
  samplingRates _ := none
  formats _ := none
  channelMasks _ := none

/-- The primary output is open, and can be routed to every device that is not A2DP or USB. -/
def State.plain : State Unit where
  mAvailableOutputDevices := 0x3
  mAvailableInputDevices := 0x45
  mDefaultOutputDevice := 0x2
  mPhoneState := .normal
  mForceUse _ := .none
  fmMode := .none
  pendingForceNone := false
  mHasA2dp := false
  mHasUsb := false
  mHasRemoteSubmix := false
  mA2dpSuspended := false
  mCanBeMuted := true
  mDeviceForStrategy _ := 0
  mPrimaryOutput := 1
  mOutputs := KeyedVector.empty.add 1 { origin := .profile 0 }
  mPreviousOutputs := .empty
  mInputs := .empty
  mHwModules := [{ mHandle := 1, mOutputProfiles := [0] }]
  profile _ := { mSupportedDevices := 0x8047f }
  rest := ()

end Msm7x27a.Policy
