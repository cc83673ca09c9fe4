import Mathlib.Data.Nat.Notation
import Mathlib.Data.List.Basic

/-!
# `AudioHardware`: mode, microphone and the formats of a VoIP call

The members of `AudioHardware` that a VoIP call reads and writes, and the functions on them that
are not methods of a stream: `setMode`, `setMicMute`, `setupDeviceforVoipCall`, `getMvsMode`,
`getMvsRateType` and `getInputSampleRate`.

What the code takes from outside the repository is a `Platform`: the base class's `setMode`, the
answer of the sound driver to a mute of the current device, and the rates `MVS_VOC_*_RATE` of the
kernel header.  Mutexes are not part of these functions; the locking of the same code is the
subject of `Voip.Locks`.
-/

namespace Msm7x27a.Audio

/-- `AudioSystem::MODE_*`. -/
inductive AudioMode where
  | normal | ringtone | inCall | inCommunication
  deriving DecidableEq, Repr

/-- `status_t`: zero for success, a negative number for an error. -/
abbrev Status := Int

def noError : Status := 0
def badValue : Status := -22
def noInit : Status := -19
def unknownError : Status := -2147483648

/-- `audio_format_t`, as far as the VoIP streams tell formats apart. -/
inductive AudioFormat where
  | pcm16Bit | amrNb | amrWb | evrc | evrcb | evrcwb | other (code : ℕ)
  deriving DecidableEq, Repr

/-- The vocoder modes of the MVS driver. -/
inductive MvsMode where
  | pcm | pcmWb | amr | amrWb | is127 | fourGvNb | fourGvWb
  deriving DecidableEq, Repr

/-- The rate types of the MVS driver: none for PCM, the mode of an AMR bit rate, a vocoder rate. -/
inductive MvsRateType where
  | zero | amr (bitRate : ℕ) | voc (rate : ℕ)
  deriving DecidableEq, Repr

/-- The code outside the repository that the modelled functions call. -/
structure Platform where
  /-- `AudioHardwareBase::setMode`: the mode stored and the status, from the old and the new mode. -/
  baseSetMode : AudioMode → AudioMode → AudioMode × Status
  /-- What `do_route_audio_rpc` answers for `SND_DEVICE_CURRENT` in a mode, with a muted microphone. -/
  routeCurrent : AudioMode → Bool → Status
  /-- The rates `MVS_VOC_0_RATE` to `MVS_VOC_1_RATE`. -/
  vocRate : ℕ → Bool

/-- A platform that stores every mode, accepts every mute and knows no vocoder rate. -/
def Platform.plain : Platform := ⟨fun _ mode => (mode, noError), fun _ _ => noError, fun _ => false⟩

/-- The members of `AudioHardware` of a VoIP call. -/
structure AudioHardware where
  mMode : AudioMode := .normal
  mMicMute : Bool := true
  mFmFd : Int := -1
  mCurSndDevice : Int := -1
  mVoipBitRate : ℕ := 0
  mVoipFd : Int := -1
  mVoipInActive : Bool := false
  mVoipOutActive : Bool := false
  mDirectOutrefCnt : Int := 0
  deriving DecidableEq, Repr

/-! ### Mode and microphone -/

def AudioHardware.isFmon (hw : AudioHardware) : Bool := hw.mFmFd ≠ -1

def AudioHardware.clearCurDevice (hw : AudioHardware) : AudioHardware :=
  { hw with mCurSndDevice := -1 }

def setMode (P : Platform) (mode : AudioMode) (hw : AudioHardware) : Status × AudioHardware :=
  let r := P.baseSetMode hw.mMode mode
  let hw := { hw with mMode := r.1 }
  (r.2, if r.2 = noError then hw.clearCurDevice else hw)

/-- `doAudioRouteOrMute(SND_DEVICE_CURRENT)`: FM unmutes the microphone. -/
def muteCurrent (P : Platform) (hw : AudioHardware) : Status × AudioHardware :=
  let hw := if hw.isFmon then { hw with mMicMute := false } else hw
  (P.routeCurrent hw.mMode hw.mMicMute, hw)

/-- `setMicMute_nosync`, and `setMicMute` with `mLock` held. -/
def setMicMute (P : Platform) (state : Bool) (hw : AudioHardware) : Status × AudioHardware :=
  if hw.mMicMute ≠ state then muteCurrent P { hw with mMicMute := state } else (noError, hw)

/-- `doRouting`, once it has chosen the sound device: -1 keeps the current one. -/
def doRouting (new_snd_device : Int) (hw : AudioHardware) : AudioHardware :=
  if new_snd_device ≠ -1 ∧ new_snd_device ≠ hw.mCurSndDevice then
    { hw with
      mMicMute := if hw.isFmon then false else hw.mMicMute
      mCurSndDevice := new_snd_device }
  else hw

def setupDeviceforVoipCall (P : Platform) (value : Bool) (hw : AudioHardware) :
    Status × AudioHardware :=
  if hw.mMode = .inCall ∧ value = false then (noError, hw)
  else
    let r := setMode P (if value then .inCommunication else .normal) hw
    if r.1 = badValue then (unknownError, r.2)
    else
      let r' := setMicMute P (!value) r.2
      if r'.1 ≠ noError then (unknownError, r'.2) else (noError, r'.2)

/-! ### Formats and rates -/

/-- `none` is `BAD_INDEX`. -/
def getMvsMode (format : AudioFormat) (rate : ℕ) : Option MvsMode :=
  match format with
  | .pcm16Bit => if rate = 8000 then some .pcm else if rate = 16000 then some .pcmWb else some .pcm
  | .amrNb => some .amr
  | .amrWb => some .amrWb
  | .evrc => some .is127
  | .evrcb => some .fourGvNb
  | .evrcwb => some .fourGvWb
  | .other _ => none

/-- `none` is `-EINVAL`. -/
def getMvsRateType (P : Platform) (mVoipBitRate : ℕ) (mvsMode : MvsMode) : Option MvsRateType :=
  match mvsMode with
  | .amr =>
    if mVoipBitRate ∈ [4750, 5150, 5900, 6700, 7400, 7950, 10200, 12200] then some (.amr mVoipBitRate)
    else none
  | .amrWb =>
    if mVoipBitRate ∈ [6600, 8850, 12650, 14250, 15850, 18250, 19850, 23050, 23850] then
      some (.amr mVoipBitRate)
    else none
  | .pcm | .pcmWb => some .zero
  | .is127 | .fourGvNb | .fourGvWb => if P.vocRate mVoipBitRate then some (.voc mVoipBitRate) else none

def inputSamplingRates : List ℕ := [8000, 11025, 12000, 16000, 22050, 24000, 32000, 44100, 48000]

/-- `abs(sampleRate - rate)`: an unsigned difference, read as a signed number. -/
def rateDelta (sampleRate rate : ℕ) : ℕ :=
  (BitVec.ofNat 32 sampleRate - BitVec.ofNat 32 rate).toInt.natAbs

/-- The loop of `getInputSampleRate`, from the difference and the rate of the last turn. -/
def nearestRate (sampleRate : ℕ) : ℕ → ℕ → List ℕ → ℕ
  | _, last, [] => last
  | prevDelta, last, rate :: rates =>
    let delta := rateDelta sampleRate rate
    if prevDelta < delta then last else nearestRate sampleRate delta rate rates

def getInputSampleRate (sampleRate : ℕ) : ℕ :=
  nearestRate sampleRate 0xFFFFFFFF 0 inputSamplingRates

/-! ### What a call of `setupDeviceforVoipCall` leaves alone -/

/-- At most the mode, the microphone and the current device differ. -/
structure SameVoip (hw hw' : AudioHardware) : Prop where
  mFmFd : hw'.mFmFd = hw.mFmFd
  mVoipBitRate : hw'.mVoipBitRate = hw.mVoipBitRate
  mVoipFd : hw'.mVoipFd = hw.mVoipFd
  mVoipInActive : hw'.mVoipInActive = hw.mVoipInActive
  mVoipOutActive : hw'.mVoipOutActive = hw.mVoipOutActive
  mDirectOutrefCnt : hw'.mDirectOutrefCnt = hw.mDirectOutrefCnt

theorem SameVoip.refl (hw : AudioHardware) : SameVoip hw hw := ⟨rfl, rfl, rfl, rfl, rfl, rfl⟩

theorem SameVoip.trans {a b c : AudioHardware} (h : SameVoip a b) (h' : SameVoip b c) :
    SameVoip a c :=
  ⟨h'.1.trans h.1, h'.2.trans h.2, h'.3.trans h.3, h'.4.trans h.4, h'.5.trans h.5, h'.6.trans h.6⟩

section Setup

variable (P : Platform) (value : Bool) (hw : AudioHardware)

theorem setMode_same (mode : AudioMode) : SameVoip hw (setMode P mode hw).2 := by
  unfold setMode
  simp only
  split <;> exact ⟨rfl, rfl, rfl, rfl, rfl, rfl⟩

theorem setMicMute_same (state : Bool) : SameVoip hw (setMicMute P state hw).2 := by
  unfold setMicMute muteCurrent
  split
  · dsimp only
    split <;> exact ⟨rfl, rfl, rfl, rfl, rfl, rfl⟩
  · exact .refl hw

/-- **Frame.** Setting up the device for a call changes the mode, the microphone and the current
device only. -/
theorem setup_same : SameVoip hw (setupDeviceforVoipCall P value hw).2 := by
  unfold setupDeviceforVoipCall
  split
  · exact .refl hw
  · dsimp only
    generalize (if value = true then AudioMode.inCommunication else AudioMode.normal) = mode
    have h1 := setMode_same P hw mode
    have h2 := setMicMute_same P (setMode P mode hw).2 (!value)
    split
    · exact h1
    · split <;> exact h1.trans h2

@[simp] theorem setup_mVoipFd : (setupDeviceforVoipCall P value hw).2.mVoipFd = hw.mVoipFd :=
  (setup_same P value hw).mVoipFd

@[simp] theorem setup_mVoipInActive :
    (setupDeviceforVoipCall P value hw).2.mVoipInActive = hw.mVoipInActive :=
  (setup_same P value hw).mVoipInActive

@[simp] theorem setup_mVoipOutActive :
    (setupDeviceforVoipCall P value hw).2.mVoipOutActive = hw.mVoipOutActive :=
  (setup_same P value hw).mVoipOutActive

end Setup

end Msm7x27a.Audio
