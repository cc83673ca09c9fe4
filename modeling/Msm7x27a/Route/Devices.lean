import Msm7x27a.Audio.Hardware
import Mathlib.Data.Fintype.Defs
import Mathlib.Data.Finset.Insert

/-!
# The sound device of a route

The part of `doRouting` that selects the sound device: from the device of the input stream, the mask
of output devices and the state of TTY, dual microphone and FM.  Masks are 32 bits wide; the bits of
the devices are those of the audio system's headers, and the ids of the sound devices those that the
sound driver reports, so both are parameters.
-/

namespace Msm7x27a.Route

open Msm7x27a.Audio

/-- A mask of audio devices. -/
abbrev Devices := BitVec 32

/-- Some device of `bits` is in the mask. -/
def Devices.has (mask bits : Devices) : Bool := mask &&& bits ≠ 0

theorem Devices.or_ne_self {mask bits : Devices} (h : mask.has bits = false) (hb : bits ≠ 0) :
    mask ||| bits ≠ mask := by
  intro e
  apply hb
  calc bits = (mask ||| bits) &&& bits := by
        ext i
        simpa using fun h => Or.inr h
    _ = mask &&& bits := by rw [e]
    _ = 0 := by simpa [Devices.has] using h

theorem Devices.and_not_ne_self {mask bits : Devices} (h : mask.has bits = true) :
    mask &&& ~~~bits ≠ mask := by
  intro e
  have hbits : mask &&& bits ≠ 0 := by simpa [Devices.has] using h
  apply hbits
  rw [← e]
  ext i
  simp

theorem Devices.has_or_self {mask bits : Devices} (hb : bits ≠ 0) :
    (mask ||| bits).has bits = true := by
  have h : (mask ||| bits) &&& bits = bits := by
    ext i
    simpa using fun h => Or.inr h
  unfold has
  rw [h]
  exact decide_eq_true hb

theorem Devices.has_and_not_self {mask bits : Devices} : (mask &&& ~~~bits).has bits = false := by
  have h : mask &&& ~~~bits &&& bits = 0 := by
    ext i
    simp
  unfold has
  rw [h]
  rfl

/-- The bits `AudioSystem::DEVICE_*`. -/
structure Headers where
  DEVICE_OUT_EARPIECE : Devices
  DEVICE_OUT_SPEAKER : Devices
  DEVICE_OUT_WIRED_HEADSET : Devices
  DEVICE_OUT_WIRED_HEADPHONE : Devices
  DEVICE_OUT_BLUETOOTH_SCO : Devices
  DEVICE_OUT_BLUETOOTH_SCO_HEADSET : Devices
  DEVICE_OUT_BLUETOOTH_SCO_CARKIT : Devices
  DEVICE_OUT_FM : Devices
  DEVICE_IN_VOICE_CALL : Devices
  DEVICE_IN_BLUETOOTH_SCO_HEADSET : Devices
  DEVICE_IN_WIRED_HEADSET : Devices
  DEVICE_IN_FM_RX : Devices
  DEVICE_IN_FM_RX_A2DP : Devices
  deriving DecidableEq, Repr

/-- The variables `SND_DEVICE_*` that the constructor looks an endpoint up for. -/
inductive SndDevice where
  | CURRENT | HANDSET | SPEAKER | BT | HEADSET | STEREO_HEADSET_AND_SPEAKER | IN_S_SADC_OUT_HANDSET
  | IN_S_SADC_OUT_SPEAKER_PHONE | TTY_HEADSET | TTY_HCO | TTY_VCO | FM_DIGITAL_STEREO_HEADSET
  | FM_DIGITAL_SPEAKER_PHONE | FM_DIGITAL_BT_A2DP_HEADSET | FM_ANALOG_STEREO_HEADSET
  | FM_ANALOG_STEREO_HEADSET_CODEC
  deriving DecidableEq, Repr

/-- The ids of the endpoints; -1 where the driver reports none of that name. -/
abbrev Endpoints := SndDevice → Int

/-- The constructor looks for no endpoint of this name. -/
def SND_DEVICE_CARKIT : Int := -1

/-- The id is that of one of the three digital FM devices. -/
def Endpoints.FmDigital (e : Endpoints) (d : Int) : Prop :=
  d = e .FM_DIGITAL_STEREO_HEADSET ∨ d = e .FM_DIGITAL_SPEAKER_PHONE ∨
    d = e .FM_DIGITAL_BT_A2DP_HEADSET

instance (e : Endpoints) : DecidablePred e.FmDigital := fun _ => by
  unfold Endpoints.FmDigital; infer_instance

/-- The driver reports every endpoint, and no two with one id. -/
structure Endpoints.Distinct (e : Endpoints) : Prop where
  injective : Function.Injective e
  valid : ∀ n, 0 ≤ e n

inductive TtyMode where
  | off | vco | hco | full
  deriving DecidableEq, Repr

/-! ### Post-processing features -/

/-- The filters of `AudioFilter.csv`. -/
inductive Feature where
  | adrc | eq | rxIir | mbadrc
  deriving DecidableEq, Repr

instance : Fintype Feature := ⟨{.adrc, .eq, .rxIir, .mbadrc}, fun f => by cases f <;> decide⟩

/-- `ADRC_ENABLE`, `EQ_ENABLE`, `RX_IIR_ENABLE` and `MBADRC_ENABLE`. -/
def Feature.enable : Feature → BitVec 32
  | .adrc => 0x0001
  | .eq => 0x0002
  | .rxIir => 0x0004
  | .mbadrc => 0x0010

/-- `ADRC_DISABLE`, `EQ_DISABLE`, `RX_IIR_DISABLE` and `MBADRC_DISABLE`. -/
def Feature.disable : Feature → BitVec 32
  | .adrc => 0xFFFE
  | .eq => 0xFFFD
  | .rxIir => 0xFFFB
  | .mbadrc => 0xFFEF

def allFeatures : BitVec 32 :=
  Feature.adrc.enable ||| Feature.eq.enable ||| Feature.rxIir.enable ||| Feature.mbadrc.enable

/-! ### The selection -/

/-- What the selection reads besides the devices. -/
structure Setting where
  mMode : AudioMode
  mTtyMode : TtyMode
  mDualMicEnabled : Bool
  /-- What `isFMAnalog` answers. -/
  isFMAnalog : Bool
  deriving DecidableEq, Repr

/-- The variables that the selection assigns. -/
structure Choice where
  new_snd_device : Int := -1
  FmA2dpStatus : Int
  new_post_proc_feature_mask : BitVec 32
  deriving DecidableEq, Repr

def Choice.device (c : Choice) (d : Int) : Choice := { c with new_snd_device := d }

/-- The device, with all features for it. -/
def Choice.deviceWithFeatures (c : Choice) (d : Int) : Choice :=
  { c with new_snd_device := d, new_post_proc_feature_mask := allFeatures }

section Select

variable (h : Headers) (e : Endpoints) (o : Setting)

/-- The device of an input stream, other than `DEVICE_IN_VOICE_CALL`. -/
def routeInput (inputDevice outputDevices : Devices) (c : Choice) : Choice :=
  if inputDevice = 0 then c
  else if inputDevice.has h.DEVICE_IN_BLUETOOTH_SCO_HEADSET then c.device (e .BT)
  else if inputDevice.has h.DEVICE_IN_WIRED_HEADSET then c.device (e .HEADSET)
  else if inputDevice.has h.DEVICE_IN_FM_RX_A2DP then
    { c.device (e .FM_DIGITAL_BT_A2DP_HEADSET) with FmA2dpStatus := 1 }
  else if inputDevice.has h.DEVICE_IN_FM_RX then c
  else if outputDevices.has h.DEVICE_OUT_SPEAKER then c.deviceWithFeatures (e .SPEAKER)
  else c.device (e .HANDSET)

/-- The device of an input stream, if there is one. -/
def routeStream (input : Option Devices) (outputDevices : Devices) (c : Choice) : Choice :=
  match input with
  | none => c
  | some inputDevice => routeInput h e inputDevice outputDevices c

/-- The device of an output route. -/
def routeOutput (outputDevices : Devices) (c : Choice) : Choice :=
  if o.mTtyMode ≠ .off ∧ o.mMode = .inCall ∧ outputDevices.has h.DEVICE_OUT_WIRED_HEADSET then
    match o.mTtyMode with
    | .off => c
    | .full => c.device (e .TTY_HEADSET)
    | .vco => c.device (e .TTY_VCO)
    | .hco => c.device (e .TTY_HCO)
  else if outputDevices.has h.DEVICE_OUT_WIRED_HEADSET ∧ outputDevices.has h.DEVICE_OUT_SPEAKER then
    c.deviceWithFeatures (e .STEREO_HEADSET_AND_SPEAKER)
  else if outputDevices.has h.DEVICE_OUT_WIRED_HEADPHONE ∧ outputDevices.has h.DEVICE_OUT_SPEAKER then
    c.deviceWithFeatures (e .STEREO_HEADSET_AND_SPEAKER)
  else if outputDevices.has h.DEVICE_OUT_WIRED_HEADSET ∧ outputDevices.has h.DEVICE_OUT_FM then
    if o.isFMAnalog = false then c.deviceWithFeatures (e .FM_DIGITAL_STEREO_HEADSET)
    else c.device (e .FM_ANALOG_STEREO_HEADSET_CODEC)
  else if outputDevices.has h.DEVICE_OUT_SPEAKER ∧ outputDevices.has h.DEVICE_OUT_FM then
    c.deviceWithFeatures (e .FM_DIGITAL_SPEAKER_PHONE)
  else if outputDevices.has h.DEVICE_OUT_FM ∧ o.isFMAnalog then c.device (e .FM_ANALOG_STEREO_HEADSET)
  else if outputDevices.has (h.DEVICE_OUT_BLUETOOTH_SCO ||| h.DEVICE_OUT_BLUETOOTH_SCO_HEADSET) then
    c.device (e .BT)
  else if outputDevices.has h.DEVICE_OUT_BLUETOOTH_SCO_CARKIT then c.device SND_DEVICE_CARKIT
  else if outputDevices.has h.DEVICE_OUT_WIRED_HEADSET then c.deviceWithFeatures (e .HEADSET)
  else if outputDevices.has h.DEVICE_OUT_WIRED_HEADPHONE then c.deviceWithFeatures (e .HEADSET)
  else if outputDevices.has h.DEVICE_OUT_SPEAKER then c.deviceWithFeatures (e .SPEAKER)
  else if outputDevices.has h.DEVICE_OUT_EARPIECE then c.deviceWithFeatures (e .HANDSET)
  else c

/-- The second microphone, in a voice call. -/
def routeDualMic (c : Choice) : Choice :=
  if o.mDualMicEnabled ∧ o.mMode = .inCall then
    if c.new_snd_device = e .HANDSET then c.device (e .IN_S_SADC_OUT_HANDSET)
    else if c.new_snd_device = e .SPEAKER then c.device (e .IN_S_SADC_OUT_SPEAKER_PHONE)
    else c
  else c

/-- The FM route to A2DP, when there is no output device. -/
def routeFmA2dp (outputDevices : Devices) (c : Choice) : Choice :=
  if outputDevices = 0 ∧ c.FmA2dpStatus = 1 then c.device (e .FM_DIGITAL_BT_A2DP_HEADSET) else c

/-- The selection of `doRouting`; `input` is the device of the input stream if there is one. -/
def select (input : Option Devices) (outputDevices : Devices) (c : Choice) : Choice :=
  let c := routeStream h e input outputDevices c
  let c := if c.new_snd_device = -1 then routeOutput h e o outputDevices c else c
  routeFmA2dp e outputDevices (routeDualMic e o c)

/-! ### What can be selected -/

/-- No device, or one of the driver's; never the current one. -/
def Endpoints.Selects (c : Choice) : Prop :=
  c.new_snd_device = -1 ∨ ∃ n, n ≠ .CURRENT ∧ c.new_snd_device = e n

variable {h e o} {c : Choice}

theorem selects_device {n : SndDevice} (hn : n ≠ .CURRENT) : e.Selects (c.device (e n)) :=
  .inr ⟨n, hn, rfl⟩

theorem selects_deviceWithFeatures {n : SndDevice} (hn : n ≠ .CURRENT) :
    e.Selects (c.deviceWithFeatures (e n)) :=
  .inr ⟨n, hn, rfl⟩

theorem selects_ite {p : Prop} [Decidable p] {a b : Choice} (ha : e.Selects a) (hb : e.Selects b) :
    e.Selects (if p then a else b) := by
  split
  · exact ha
  · exact hb

theorem selects_routeStream (hc : e.Selects c) (input : Option Devices) (outputDevices : Devices) :
    e.Selects (routeStream h e input outputDevices c) := by
  cases input with
  | none => exact hc
  | some inputDevice =>
    unfold routeStream routeInput
    refine selects_ite hc ?_
    refine selects_ite (selects_device (by decide)) ?_
    refine selects_ite (selects_device (by decide)) ?_
    refine selects_ite (.inr ⟨.FM_DIGITAL_BT_A2DP_HEADSET, by decide, rfl⟩) ?_
    refine selects_ite hc ?_
    exact selects_ite (selects_deviceWithFeatures (by decide)) (selects_device (by decide))

theorem selects_routeOutput (hc : e.Selects c) (outputDevices : Devices) :
    e.Selects (routeOutput h e o outputDevices c) := by
  unfold routeOutput
  apply selects_ite
  · split
    · exact hc
    · exact selects_device (by decide)
    · exact selects_device (by decide)
    · exact selects_device (by decide)
  refine selects_ite (selects_deviceWithFeatures (by decide)) ?_
  refine selects_ite (selects_deviceWithFeatures (by decide)) ?_
  apply selects_ite
  · exact selects_ite (selects_deviceWithFeatures (by decide)) (selects_device (by decide))
  refine selects_ite (selects_deviceWithFeatures (by decide)) ?_
  refine selects_ite (selects_device (by decide)) ?_
  refine selects_ite (selects_device (by decide)) ?_
  -- the endpoint of a car kit is not known
  refine selects_ite (.inl rfl) ?_
  refine selects_ite (selects_deviceWithFeatures (by decide)) ?_
  refine selects_ite (selects_deviceWithFeatures (by decide)) ?_
  refine selects_ite (selects_deviceWithFeatures (by decide)) ?_
  exact selects_ite (selects_deviceWithFeatures (by decide)) hc

theorem selects_routeDualMic (hc : e.Selects c) : e.Selects (routeDualMic e o c) := by
  unfold routeDualMic
  refine selects_ite ?_ hc
  exact selects_ite (selects_device (by decide)) (selects_ite (selects_device (by decide)) hc)

theorem selects_routeFmA2dp (hc : e.Selects c) (outputDevices : Devices) :
    e.Selects (routeFmA2dp e outputDevices c) :=
  selects_ite (selects_device (by decide)) hc

/-- **The selection.** It keeps the current route or selects an endpoint of the driver. -/
theorem selects_select (hc : e.Selects c) (input : Option Devices) (outputDevices : Devices) :
    e.Selects (select h e o input outputDevices c) := by
  have hin := selects_routeStream (h := h) hc input outputDevices
  unfold select
  apply selects_routeFmA2dp
  apply selects_routeDualMic
  exact selects_ite (selects_routeOutput hin outputDevices) hin

end Select

end Msm7x27a.Route
