import Msm7x27a.Policy.Connection

/-!
# Direct outputs

`getOutput` and `releaseOutput`.  A direct output is opened for the first profile that fits and is
shared by the clients that ask for the same configuration; `mDirectOpenCount` counts them.
-/

namespace Msm7x27a.Policy

open Msm7x27a.Route (Devices)

/-- An output is accepted if it has the parameters that were asked for; 0 asks for none. -/
def OutputConfig.accepts (asked opened : OutputConfig) : Bool :=
  (asked.mSamplingRate = 0 ∨ asked.mSamplingRate = opened.mSamplingRate) ∧
    (asked.mFormat = 0 ∨ asked.mFormat = opened.mFormat) ∧
    (asked.mChannelMask = 0 ∨ asked.mChannelMask = opened.mChannelMask)

/-- The descriptor of a direct output that has one client. -/
def IOProfile.directDescriptor (address : ℕ) (opened : OutputConfig) (flags : OutputFlags)
    (p : IOProfile) : AudioOutputDescriptor where
  toOutputConfig := opened
  origin := .profile address
  mFlags := p.mFlags.union flags
  mDirectOpenCount := 1

namespace State

variable {R : Type} (B : Base R) (H : Headers)

/-- The first profile for a direct output. -/
def getProfileForDirectOutput (device : Devices) (config : OutputConfig) (flags : OutputFlags)
    (s : State R) : Option ℕ :=
  let flags : OutputFlags := if flags.onDemand then flags else { DIRECT := true }
  let wanted : OutputFlags := if flags.COMPRESS_OFFLOAD then { COMPRESS_OFFLOAD := true } else flags
  s.loadedProfiles.find? fun p =>
    B.isCompatibleProfile (s.profile p) device config wanted &&
      s.mAvailableOutputDevices.has (s.profile p).mSupportedDevices

/-- The open outputs of a profile. -/
def outputsOf (p : ℕ) (s : State R) : List (ℕ × AudioOutputDescriptor) :=
  s.mOutputs.toList.filter fun o => o.2.origin = .profile p

/-- A new direct output: its handle, 0 if it cannot be opened. -/
def openDirect (c : Client) (p : ℕ) (config : OutputConfig) (flags : OutputFlags) (s : State R) :
    ℕ × State R :=
  let output := c.handle (.output p) s.mOutputs.keys
  let desc := (s.profile p).directDescriptor p (c.config (.output p) config) flags
  if c.opens (.output p) = false ∨ config.accepts desc.toOutputConfig = false then (0, s)
  else
    let s := s.addOutput output desc
    (output, { s with rest := B.moveEffects s, mPreviousOutputs := s.mOutputs })

/-- A direct output of the profile: an open one with the same configuration, or a new one in place
of the one that is open with another. -/
def getDirectOutput (c : Client) (p : ℕ) (config : OutputConfig) (flags : OutputFlags)
    (s : State R) : ℕ × State R :=
  match (s.outputsOf p).find? fun o => o.2.toOutputConfig = config with
  | some (output, _) =>
    (output, { s with mOutputs := s.mOutputs.modify output fun desc =>
      { desc with mDirectOpenCount := desc.mDirectOpenCount + 1 } })
  | none =>
    match (s.outputsOf p).getLast? with
    | some (output, _) => (s.closeOutput B output).openDirect B c p config flags
    | none => s.openDirect B c p config flags

/-- Offloading implies a direct output. -/
def direct (flags : OutputFlags) : OutputFlags :=
  if flags.COMPRESS_OFFLOAD then { flags with DIRECT := true } else flags

/-- The profile for a direct output, if one is required. -/
def directProfile (stream : StreamType) (config : OutputConfig) (flags : OutputFlags)
    (s : State R) : Option ℕ :=
  let device := s.getDeviceForStrategy B H (B.getStrategy stream) false
  if (direct flags).DIRECT then s.getProfileForDirectOutput B device config (direct flags) else none

/-- The handle, 0 if there is no output. -/
def getOutput (c : Client) (stream : StreamType) (config : OutputConfig) (flags : OutputFlags)
    (s : State R) : ℕ × State R :=
  match s.directProfile B H stream config flags with
  | some p => s.getDirectOutput B c p config (direct flags)
  | none =>
    let device := s.getDeviceForStrategy B H (B.getStrategy stream) false
    (if H.audio_is_linear_pcm config.mFormat then B.selectOutput s device (direct flags) else 0, s)

def releaseOutput (output : ℕ) (s : State R) : State R :=
  match s.mOutputs.valueFor output with
  | none => s
  | some desc =>
    if desc.mFlags.DIRECT then
      if desc.mDirectOpenCount ≤ 0 ∧ desc.mFlags.onDemand = false then s
      else
        let s := { s with mOutputs := s.mOutputs.modify output fun desc =>
          { desc with mDirectOpenCount := desc.mDirectOpenCount - 1 } }
        if desc.mDirectOpenCount - 1 = 0 ∨ desc.mFlags.onDemand then
          let s := s.closeOutput B output
          { s with rest := B.moveEffects s }
        else s
    else s

/-- The plain policy with a direct profile for the speaker and headsets. -/
def plainDirect (flags : OutputFlags) : State Unit :=
  { plain with
    mHwModules := [{ mHandle := 1, mOutputProfiles := [0, 1] }]
    profile p := if p = 0 then { mSupportedDevices := 0x8047f } else
      { mSupportedDevices := 0x6, mFlags := flags, mSamplingRates := [48000] } }

end State

end Msm7x27a.Policy
