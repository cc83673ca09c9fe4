import Msm7x27a.Policy.Direct
import Msm7x27a.Policy.Essentials

/-!
# Calls of the policy manager

`startOutput`, `stopOutput` and `setPhoneState`, and the calls as steps of a system: `step B H s call`
is the state after the call, and `none` where the code dereferences a null descriptor.
-/

namespace Msm7x27a.Policy

open Msm7x27a.Audio (AudioMode Status noError badValue)
open Msm7x27a.Route (Devices)

namespace State

variable {R : Type} (B : Base R) (H : Headers)

/-! ### Streams on an output -/

/-- The count of a stream on one output. -/
def countOne (output : ℕ) (stream : StreamType) (delta : Int) (s : State R) : State R :=
  { s with mOutputs := s.mOutputs.modify output (·.changeRefCount stream delta) }

/-- A duplicating output passes the change on to the two outputs it is duplicated to. -/
def changeRefCount (output : ℕ) (stream : StreamType) (delta : Int) (s : State R) : State R :=
  match (s.mOutputs.valueFor output).map AudioOutputDescriptor.origin with
  | some (.duplicated mOutput1 mOutput2) =>
    ((s.countOne mOutput1 stream delta).countOne mOutput2 stream delta).countOne output stream delta
  | _ => s.countOne output stream delta

/-- The output plays the stream `n` times. -/
def countIs (output : ℕ) (stream : StreamType) (n : ℕ) (s : State R) : Bool :=
  (s.mOutputs.valueFor output).any fun desc => desc.mRefCount stream = n

def handleNotificationRoutingForStream (stream : StreamType) (s : State R) : State R :=
  match stream with
  | .music =>
    let s := { s with rest := B.checkOutputForStrategy s .sonificationRespectful }
    let s := { s with rest := B.checkOutputForStrategy s .media }
    s.updateDevicesAndOutputs B
  | _ => s

/-- Sonification in a call, for one stream. -/
def handleIncallSonification (stream : StreamType) (starting stateChange : Bool) (s : State R) :
    State R :=
  { s with rest := B.handleIncallSonification s stream starting stateChange }

/-- The device for a stream that starts is set. -/
def routeStarted (output : ℕ) (stream : StreamType) (s : State R) : State R :=
  let newDevice := B.getNewDevice s output false
  let force := s.mOutputs.keys.any fun o =>
    o ≠ output ∧ B.sharesHwModuleWith s output o ∧ B.device s o ≠ newDevice
  if stream = .system ∧ s.fmMode = .analog ∧ newDevice = H.AUDIO_DEVICE_OUT_FM then
    s.setOutputDevice output (newDevice ||| H.AUDIO_DEVICE_OUT_WIRED_HEADSET) true
  else s.setOutputDevice output newDevice force

def startOutput (output : ℕ) (stream : StreamType) (s : State R) : Status × State R :=
  if output ∈ s.mOutputs then
    let s := s.changeRefCount output stream 1
    if s.countIs output stream 1 then
      let s := s.routeStarted B H output stream
      let s := if B.isInCall s.mPhoneState then s.handleIncallSonification B stream true false else s
      (noError, s.handleNotificationRoutingForStream B stream)
    else (noError, s)
  else (badValue, s)

/-- The device is set again when a stream has stopped, on other active outputs too. -/
def routeStopped (output : ℕ) (s : State R) : State R :=
  let newDevice := B.getNewDevice s output false
  let s := s.setOutputDevice output newDevice (s.fmMode = .analog)
  s.mOutputs.keys.foldl (fun s o =>
    if o ≠ output ∧ B.isActive s o ∧ B.sharesHwModuleWith s output o ∧ newDevice ≠ B.device s o then
      s.setOutputDevice o (B.getNewDevice s o false) true
    else s) s

def stopOutput (output : ℕ) (stream : StreamType) (s : State R) : Status × State R :=
  if output ∈ s.mOutputs then
    let s := if B.isInCall s.mPhoneState then s.handleIncallSonification B stream false false else s
    if s.countIs output stream 0 then (invalidOperation, s)
    else
      let s := s.changeRefCount output stream (-1)
      if s.countIs output stream 0 then
        let s := { s with rest := B.setStopTime s output stream }
        (noError, (s.routeStopped B output).handleNotificationRoutingForStream B stream)
      else (noError, s)
  else (badValue, s)

/-! ### The phone -/

/-- Sonification in a call, for every stream. -/
def handleAllSonification (starting : Bool) (s : State R) : State R :=
  B.streams.foldl (fun s stream => s.handleIncallSonification B stream starting true) s

/-- The media strategy is muted for a while on the outputs it is active on. -/
def muteMedia (s : State R) : State R :=
  s.mOutputs.keys.foldl (fun s o =>
    if B.isStrategyActive s o .media then
      (s.record (.setStrategyMute .media true o)).record (.setStrategyMute .media false o)
    else s) s

/-- The device of the primary output, and of the others after a call. -/
def routePhone (oldState state : AudioMode) (newDevice : Devices) (force : Bool) (s : State R) :
    State R :=
  let s := s.setOutputDevice s.mPrimaryOutput newDevice force
  let s := if B.isInCall state then
    let s := if oldState = .ringtone then s.record (.setStreamMute .ring false s.mPrimaryOutput) else s
    s.handleAllSonification B true else s
  if B.isInCall oldState ∧ B.isInCall state = false then
    s.mOutputs.keys.foldl (fun s o =>
      if o ≠ s.mPrimaryOutput ∧ B.isActive s o then
        s.setOutputDevice o (B.getNewDevice s o false) force
      else s) s
  else s

def setPhoneState (state : AudioMode) (s : State R) : Option (State R) :=
  if state = s.mPhoneState then some s
  else if s.mPrimaryOutput ∈ s.mOutputs then
    let oldState := s.mPhoneState
    let s := if B.isInCall oldState then s.handleAllSonification B false else s
    let s := { s with mPhoneState := state }
    let force := B.isInCall oldState || B.isInCall state
    let newDevice := B.getNewDevice s s.mPrimaryOutput false
    let s := ((s.checkA2dpSuspend B).checkOutputForAllStrategies B).updateDevicesAndOutputs B
    let newDevice := if B.isInCall oldState ∧ newDevice = 0 then B.device s s.mPrimaryOutput
      else newDevice
    let s := if B.isInCall state ∧ oldState = .ringtone then
      s.record (.setStreamMute .ring true s.mPrimaryOutput) else s
    let s := if B.isInCall state then s.muteMedia B else s
    some (s.routePhone B oldState state newDevice force)
  else none

end State

namespace State

variable {R : Type} {B : Base R} {H : Headers} {output : ℕ} {stream : StreamType} {s s' : State R}

/-! ### What the calls leave alone -/

theorem same_handleNotificationRoutingForStream (s : State R) :
    Same s (s.handleNotificationRoutingForStream B stream) := by
  unfold handleNotificationRoutingForStream
  split <;> exact ⟨rfl, rfl, rfl, rfl⟩

theorem same_routeStarted (s : State R) : Same s (s.routeStarted B H output stream) := by
  unfold routeStarted
  dsimp only
  split <;> exact same_setOutputDevice ..

theorem same_handleIncallSonification (starting stateChange : Bool) (s : State R) :
    Same s (s.handleIncallSonification B stream starting stateChange) := ⟨rfl, rfl, rfl, rfl⟩

/-- A start that succeeds counts, and nothing else it does is essential. -/
theorem same_startOutput (h : output ∈ s.mOutputs) :
    Same (s.changeRefCount output stream 1) (s.startOutput B H output stream).2 := by
  unfold startOutput
  rw [if_pos h]
  dsimp only
  split
  · refine .trans ?_ (same_handleNotificationRoutingForStream _)
    split
    · exact (same_routeStarted _).trans (same_handleIncallSonification ..)
    · exact same_routeStarted _
  · exact .refl _

theorem startOutput_ok : (s.startOutput B H output stream).1 = noError ↔ output ∈ s.mOutputs := by
  unfold startOutput
  dsimp only
  split
  next h => exact iff_of_true (by split <;> rfl) h
  next h => exact iff_of_false badValue_ne h

theorem startOutput_of_closed (h : output ∉ s.mOutputs) :
    s.startOutput B H output stream = (badValue, s) := if_neg h

theorem same_routeStopped (s : State R) : Same s (s.routeStopped B output) := by
  refine .trans (same_setOutputDevice ..) (same_foldl ?_ _ _)
  intro s o
  split
  · exact same_setOutputDevice ..
  · exact .refl s

/-- A stop of a stream that plays counts, and nothing else it does is essential. -/
theorem same_stopOutput (h : output ∈ s.mOutputs) :
    Same (if s.countIs output stream 0 then s else s.changeRefCount output stream (-1))
      (s.stopOutput B output stream).2 := by
  unfold stopOutput
  rw [if_pos h]
  dsimp only
  have hincall : ∃ r, (if B.isInCall s.mPhoneState then s.handleIncallSonification B stream false
      false else s) = { s with rest := r } := by
    split
    · exact ⟨_, rfl⟩
    · exact ⟨s.rest, rfl⟩
  obtain ⟨r, hr⟩ := hincall
  rw [hr]
  have hcount : ({ s with rest := r } : State R).countIs output stream 0 =
      s.countIs output stream 0 := rfl
  rw [hcount]
  split
  · exact ⟨rfl, rfl, rfl, rfl⟩
  · have hchange : Same (s.changeRefCount output stream (-1))
        ({ s with rest := r }.changeRefCount output stream (-1)) := by
      unfold changeRefCount
      dsimp only
      split <;> exact ⟨rfl, rfl, rfl, rfl⟩
    generalize { s with rest := r }.changeRefCount output stream (-1) = s₁ at hchange
    split
    · have hstop : Same s₁ { s₁ with rest := B.setStopTime s₁ output stream } :=
        ⟨rfl, rfl, rfl, rfl⟩
      refine hchange.trans (hstop.trans ?_)
      exact (same_routeStopped _).trans (same_handleNotificationRoutingForStream _)
    · exact hchange

theorem stopOutput_of_closed (h : output ∉ s.mOutputs) :
    s.stopOutput B output stream = (badValue, s) := if_neg h

theorem same_handleAllSonification (starting : Bool) (s : State R) :
    Same s (s.handleAllSonification B starting) :=
  same_foldl (fun _ _ => same_handleIncallSonification ..) _ s

theorem same_muteMedia (s : State R) : Same s (s.muteMedia B) := by
  refine same_foldl ?_ _ s
  intro s o
  split
  · exact ⟨rfl, rfl, rfl, rfl⟩
  · exact .refl s

theorem same_routePhone (oldState state : AudioMode) (newDevice : Devices) (force : Bool)
    (s : State R) : Same s (s.routePhone B oldState state newDevice force) := by
  have hroute : ∀ s : State R, Same s (s.mOutputs.keys.foldl (fun s o =>
      if o ≠ s.mPrimaryOutput ∧ B.isActive s o then
        s.setOutputDevice o (B.getNewDevice s o false) force else s) s) := by
    intro s
    refine same_foldl ?_ _ s
    intro s o
    split
    · exact same_setOutputDevice ..
    · exact .refl s
  have hring : ∀ s : State R, Same s (if oldState = .ringtone then
      s.record (.setStreamMute .ring false s.mPrimaryOutput) else s) := by
    intro s
    split
    · exact ⟨rfl, rfl, rfl, rfl⟩
    · exact .refl s
  have hcall : ∀ s : State R, Same s (if B.isInCall state then
      (if oldState = .ringtone then s.record (.setStreamMute .ring false s.mPrimaryOutput)
        else s).handleAllSonification B true else s) := by
    intro s
    split
    · exact (hring s).trans (same_handleAllSonification ..)
    · exact .refl s
  unfold routePhone
  dsimp only
  split
  · exact ((same_setOutputDevice ..).trans (hcall _)).trans (hroute _)
  · exact (same_setOutputDevice ..).trans (hcall _)

/-- The phone state is nothing essential. -/
theorem same_setPhoneState {state : AudioMode} (h : s.setPhoneState B state = some s') :
    Same s s' := by
  unfold setPhoneState at h
  split at h
  · obtain rfl := Option.some.inj h
    exact .refl s
  · split at h
    · obtain rfl := Option.some.inj h
      dsimp only
      refine .trans ?_ (same_routePhone ..)
      have hold : Same s (if B.isInCall s.mPhoneState then s.handleAllSonification B false else s) := by
        split
        · exact same_handleAllSonification ..
        · exact .refl s
      generalize (if B.isInCall s.mPhoneState then s.handleAllSonification B false else s) = s₁ at hold
      have hupdate : Same s₁ ((({ s₁ with mPhoneState := state }.checkA2dpSuspend
          B).checkOutputForAllStrategies B).updateDevicesAndOutputs B) := ⟨rfl, rfl, rfl, rfl⟩
      refine (hold.trans hupdate).trans ?_
      generalize ((({ s₁ with mPhoneState := state }.checkA2dpSuspend
          B).checkOutputForAllStrategies B).updateDevicesAndOutputs B) = s₂
      have hring : Same s₂ (if B.isInCall state ∧ s.mPhoneState = .ringtone then
          s₂.record (.setStreamMute .ring true s₂.mPrimaryOutput) else s₂) := by
        split
        · exact ⟨rfl, rfl, rfl, rfl⟩
        · exact .refl s₂
      split
      · exact hring.trans (same_muteMedia _)
      · exact hring
    · cases h

end State

/-! ### Calls -/

/-- A call from the client side, with what the client interface and `hw.fm.isAnalog` answer to it. -/
inductive Call where
  | setDeviceConnectionState (c : Client) (isAnalog : Bool) (device : Devices)
      (state : ConnectionState) (device_address : String)
  | setForceUse (usage : ForceUse) (config : ForcedConfig)
  | setPhoneState (state : AudioMode)
  | getOutput (c : Client) (stream : StreamType) (config : OutputConfig) (flags : OutputFlags)
  | releaseOutput (output : ℕ)
  | startOutput (output : ℕ) (stream : StreamType)
  | stopOutput (output : ℕ) (stream : StreamType)

def step {R : Type} (B : Base R) (H : Headers) (s : State R) : Call → Option (State R)
  | .setDeviceConnectionState c isAnalog device state device_address =>
    (s.setDeviceConnectionState B H c isAnalog device state device_address).map Prod.snd
  | .setForceUse usage config => some (s.setForceUse B H usage config)
  | .setPhoneState state => s.setPhoneState B state
  | .getOutput c stream config flags => some (s.getOutput B H c stream config flags).2
  | .releaseOutput output => some (s.releaseOutput B output)
  | .startOutput output stream => some (s.startOutput B H output stream).2
  | .stopOutput output stream => some (s.stopOutput B output stream).2

end Msm7x27a.Policy
