import Msm7x27a.Policy.Calls
import Msm7x27a.Lib.Runs
import Mathlib.Data.List.Find

/-!
# The device of the active input

`setForceUse` and `setDeviceConnectionState` give the active input the device of its source.  Every
other function leaves alone what that device depends on, so the active input follows its source in
every run of calls that start and stop no input, and no other input is touched.

The base class finds the active input: the first one that is started and has no virtual device.
-/

namespace Msm7x27a.Policy

open Msm7x27a.Audio (AudioMode Status)
open Msm7x27a.Route (Devices)
open Msm7x27a.Runs

/-- The first input that is started and has no virtual device, 0 if there is none. -/
def firstActive (started : ℕ → Bool) (virtual : Devices → Bool)
    (mInputs : KeyedVector ℕ AudioInputDescriptor) : ℕ :=
  ((mInputs.toList.find? fun i => started i.1 && !virtual i.2.mDevice).map Prod.fst).getD 0

/-- Only the remote submix is virtual. -/
def RealMicrophones (H : Headers) (virtual : Devices → Bool) : Prop :=
  ∀ device ∈ [0, H.AUDIO_DEVICE_IN_COMMUNICATION, H.AUDIO_DEVICE_IN_BUILTIN_MIC,
    H.AUDIO_DEVICE_IN_BACK_MIC, H.AUDIO_DEVICE_IN_BLUETOOTH_SCO_HEADSET,
    H.AUDIO_DEVICE_IN_WIRED_HEADSET, H.AUDIO_DEVICE_IN_VOICE_CALL, H.AUDIO_DEVICE_IN_FM_RX,
    H.AUDIO_DEVICE_IN_FM_RX_A2DP], virtual device = false

/-- The device that the handle was last told to route to. -/
def lastRouting (handle : ℕ) : List Event → Option Devices
  | [] => none
  | .setParameters h (.routing device) :: log =>
    if h = handle then some device else lastRouting handle log
  | _ :: log => lastRouting handle log

/-- What the device of an input depends on, and what inputs were told. -/
structure InputView where
  mInputs : KeyedVector ℕ AudioInputDescriptor
  mAvailableInputDevices : Devices
  record : ForcedConfig
  lastRouting : ℕ → Option Devices

namespace State

variable {R : Type} {B : Base R} {H : Headers} {c : Client} {isAnalog : Bool} {device : Devices}
  {state : ConnectionState} {device_address : String} {outputs : SortedVector ℕ} {s s' : State R}

def inputView (s : State R) : InputView where
  mInputs := s.mInputs
  mAvailableInputDevices := s.mAvailableInputDevices
  record := s.mForceUse .record
  lastRouting handle := Policy.lastRouting handle s.log

/-- The inputs, what their devices depend on and what they were told are the same. -/
def SameInputs (s s' : State R) : Prop := s'.inputView = s.inputView

theorem SameInputs.refl (s : State R) : SameInputs s s := rfl

theorem SameInputs.trans {s'' : State R} (h : SameInputs s s') (h' : SameInputs s' s'') :
    SameInputs s s'' := Eq.trans h' h

theorem inputs_setOutputDevice (output : ℕ) (device : Devices) (force : Bool) (s : State R) :
    SameInputs s (s.setOutputDevice output device force) := rfl

theorem inputs_foldl {α : Type} {f : State R → α → State R} (hf : ∀ s a, SameInputs s (f s a))
    (l : List α) (s : State R) : SameInputs s (l.foldl f s) := by
  induction l generalizing s with
  | nil => exact .refl s
  | cons a l ih => exact (hf s a).trans (ih _)

/-! ### Functions that leave the inputs alone -/

theorem inputs_routeOutputs (force : State R → ℕ → Devices → Bool) (s : State R) :
    SameInputs s (s.routeOutputs B force) :=
  inputs_foldl (fun _ _ => inputs_setOutputDevice ..) _ s

theorem inputs_update (s : State R) : SameInputs s (((s.checkA2dpSuspend B).checkOutputForAllStrategies
    B).updateDevicesAndOutputs B) := rfl

theorem inputs_sendTo {parameter : Parameter} (hp : ∀ device, parameter ≠ .routing device)
    (h : SameInputs s s') : SameInputs s (s'.sendTo outputs parameter) := by
  refine h.trans (inputs_foldl ?_ _ s')
  intro s handle
  cases parameter with
  | routing device => exact absurd rfl (hp device)
  | a2dpSinkAddress | cardAndDevice | handleFm => rfl

theorem inputs_setAddress (s : State R) :
    SameInputs s (s.setAddress H device device_address outputs) := by
  unfold setAddress
  split
  · rfl
  · split
    · exact inputs_sendTo (by simp) rfl
    · split
      · rfl
      · split
        · dsimp only
          split
          · rfl
          · exact inputs_sendTo (by simp) rfl
        · rfl

theorem inputs_clearAddress (s : State R) : SameInputs s (s.clearAddress H device) := by
  unfold clearAddress
  split_ifs <;> rfl

theorem inputs_startFm (h : s.startFm H isAnalog device = some s') : SameInputs s s' := by
  unfold startFm at h
  dsimp only at h
  split_ifs at h <;> (obtain rfl := Option.some.inj h; rfl)

theorem OnlyOutputs.inputs (h : OnlyOutputs s s') : SameInputs s s' := by
  unfold OnlyOutputs at h
  rw [h]
  rfl

theorem inputs_checkOutputsForDevice :
    SameInputs s (s.checkOutputsForDevice c device state).2.1 := by
  unfold checkOutputsForDevice
  split
  · exact only_connectOutputs.inputs
  · rfl

theorem inputs_closeOutput (output : ℕ) (s : State R) : SameInputs s (s.closeOutput B output) := by
  unfold closeOutput
  split <;> rfl

theorem inputs_closeUnused {l : List ℕ} (h : s.closeUnused B state l = some s') : SameInputs s s' := by
  induction l generalizing s with
  | nil =>
    obtain rfl := Option.some.inj h
    rfl
  | cons output l ih =>
    unfold closeUnused at h
    split at h
    · exact (inputs_closeOutput ..).trans (ih h)
    · split at h
      · cases h
      · split at h
        · exact (inputs_closeOutput ..).trans (ih h)
        · exact ih h

theorem inputs_countFm : SameInputs s (s.countFm B H device state).1 := by
  unfold countFm
  dsimp only
  split <;> rfl

theorem inputs_finishOutput (h : s.finishOutput B H device state outputs = some s') :
    SameInputs s s' := by
  unfold finishOutput at h
  split at h
  · obtain ⟨s₁, h₁, rfl⟩ := Option.map_eq_some_iff.1 h
    have hcount : SameInputs s (s.countFm B H device state).1 := inputs_countFm
    refine (hcount.trans ?_).trans ((inputs_closeUnused h₁).trans ?_)
    · rfl
    · exact SameInputs.trans rfl (inputs_routeOutputs ..)
  · cases h

/-! ### Outputs of clients, and the phone -/

theorem inputs_getOutput (stream : StreamType) (config : OutputConfig) (flags : OutputFlags)
    (s : State R) : SameInputs s (s.getOutput B H c stream config flags).2 := by
  have hopen : ∀ (s : State R) p flags, SameInputs s (s.openDirect B c p config flags).2 := by
    intro s p flags
    unfold openDirect
    dsimp only
    split <;> rfl
  unfold getOutput
  split
  · unfold getDirectOutput
    split
    · rfl
    · split
      · exact (inputs_closeOutput ..).trans (hopen ..)
      · exact hopen ..
  · rfl

theorem inputs_releaseOutput (output : ℕ) (s : State R) :
    SameInputs s (s.releaseOutput B output) := by
  unfold releaseOutput
  split
  · rfl
  next desc _ =>
    split
    · split
      · rfl
      · dsimp only
        split
        · -- the count changes before the output is closed
          have hcount : SameInputs s { s with mOutputs := s.mOutputs.modify output fun desc =>
              { desc with mDirectOpenCount := desc.mDirectOpenCount - 1 } } := rfl
          exact hcount.trans (SameInputs.trans (inputs_closeOutput ..) rfl)
        · rfl
    · rfl

theorem inputs_changeRefCount (output : ℕ) (stream : StreamType) (delta : Int) (s : State R) :
    SameInputs s (s.changeRefCount output stream delta) := by
  unfold changeRefCount
  split <;> rfl

theorem inputs_handleNotificationRoutingForStream (stream : StreamType) (s : State R) :
    SameInputs s (s.handleNotificationRoutingForStream B stream) := by
  unfold handleNotificationRoutingForStream
  split <;> rfl

theorem inputs_routeStarted (output : ℕ) (stream : StreamType) (s : State R) :
    SameInputs s (s.routeStarted B H output stream) := by
  unfold routeStarted
  dsimp only
  split <;> rfl

theorem inputs_handleIncallSonification (stream : StreamType) (starting stateChange incall : Bool)
    (s : State R) : SameInputs s
      (if incall then s.handleIncallSonification B stream starting stateChange else s) := by
  split <;> rfl

theorem inputs_startOutput (output : ℕ) (stream : StreamType) (s : State R) :
    SameInputs s (s.startOutput B H output stream).2 := by
  unfold startOutput
  split
  · dsimp only
    split
    · have hroute := (inputs_changeRefCount output stream 1 s).trans
        (inputs_routeStarted (B := B) (H := H) output stream _)
      refine (hroute.trans ?_).trans (inputs_handleNotificationRoutingForStream ..)
      exact inputs_handleIncallSonification ..
    · exact inputs_changeRefCount ..
  · rfl

theorem inputs_routeStopped (output : ℕ) (s : State R) : SameInputs s (s.routeStopped B output) := by
  refine SameInputs.trans (inputs_setOutputDevice ..) (inputs_foldl ?_ _ _)
  intro s o
  split <;> rfl

theorem inputs_stopOutput (output : ℕ) (stream : StreamType) (s : State R) :
    SameInputs s (s.stopOutput B output stream).2 := by
  unfold stopOutput
  split
  · dsimp only
    have hincall := inputs_handleIncallSonification (B := B) stream false false (B.isInCall s.mPhoneState) s
    generalize (if B.isInCall s.mPhoneState then s.handleIncallSonification B stream false false
      else s) = s₁ at hincall
    split
    · exact hincall
    · refine hincall.trans ((inputs_changeRefCount output stream (-1) s₁).trans ?_)
      generalize s₁.changeRefCount output stream (-1) = s₂
      split
      · have hstop : SameInputs s₂ { s₂ with rest := B.setStopTime s₂ output stream } := rfl
        exact (hstop.trans (inputs_routeStopped ..)).trans
          (inputs_handleNotificationRoutingForStream ..)
      · rfl
  · rfl

theorem inputs_handleAllSonification (starting incall : Bool) (s : State R) :
    SameInputs s (if incall then s.handleAllSonification B starting else s) := by
  split
  · have hstep : ∀ (s : State R) stream,
        SameInputs s (s.handleIncallSonification B stream starting true) := fun _ _ => rfl
    exact inputs_foldl hstep _ s
  · rfl

theorem inputs_muteMedia (incall : Bool) (s : State R) :
    SameInputs s (if incall then s.muteMedia B else s) := by
  split
  · refine inputs_foldl ?_ _ s
    intro s o
    split <;> rfl
  · rfl

theorem inputs_routePhone (oldState state : AudioMode) (newDevice : Devices) (force : Bool)
    (s : State R) : SameInputs s (s.routePhone B oldState state newDevice force) := by
  have hring : ∀ s : State R, SameInputs s (if oldState = .ringtone then
      s.record (.setStreamMute .ring false s.mPrimaryOutput) else s) := by
    intro s
    split <;> rfl
  have hcall : ∀ s : State R, SameInputs s (if B.isInCall state then
      (if oldState = .ringtone then s.record (.setStreamMute .ring false s.mPrimaryOutput)
        else s).handleAllSonification B true else s) := by
    intro s
    split
    next h =>
      have hall := inputs_handleAllSonification (B := B) true true (if oldState = .ringtone then
        s.record (.setStreamMute .ring false s.mPrimaryOutput) else s)
      exact (hring s).trans hall
    next => rfl
  unfold routePhone
  dsimp only
  have hprimary := (inputs_setOutputDevice s.mPrimaryOutput newDevice force s).trans (hcall _)
  split
  · refine hprimary.trans (inputs_foldl ?_ _ _)
    intro s o
    split <;> rfl
  · exact hprimary

theorem inputs_setPhoneState {state : AudioMode} (h : s.setPhoneState B state = some s') :
    SameInputs s s' := by
  unfold setPhoneState at h
  split at h
  · obtain rfl := Option.some.inj h
    rfl
  · split at h
    · obtain rfl := Option.some.inj h
      dsimp only
      have hold := inputs_handleAllSonification (B := B) false (B.isInCall s.mPhoneState) s
      generalize (if B.isInCall s.mPhoneState then s.handleAllSonification B false else s) = s₁ at hold
      refine SameInputs.trans ?_ (inputs_routePhone ..)
      refine SameInputs.trans ?_ (inputs_muteMedia ..)
      refine hold.trans ?_
      split <;> rfl
    · cases h

/-! ### The active input -/

variable {started : ℕ → Bool} {virtual : Devices → Bool} {i : ℕ}

/-- The active input is open, and was last told its device. -/
structure Active (started : ℕ → Bool) (virtual : Devices → Bool) (i : ℕ) (s : State R) : Prop where
  active : firstActive started virtual s.mInputs = i
  opened : ∃ desc, s.mInputs.valueFor i = some desc ∧ desc.mInputSource ≠ .remoteSubmix
  told : ∀ desc, s.mInputs.valueFor i = some desc →
    ∀ device, lastRouting i s.log = some device → device = desc.mDevice

/-- It has the device of its source, if there is one. -/
structure Follows (H : Headers) (started : ℕ → Bool) (virtual : Devices → Bool) (i : ℕ) (s : State R) :
    Prop extends Active started virtual i s where
  device : ∀ desc, s.mInputs.valueFor i = some desc →
    s.getDeviceForInputSource H desc.mInputSource ≠ 0 →
    desc.mDevice = s.getDeviceForInputSource H desc.mInputSource

/-- The other inputs have their devices, and were told nothing. -/
def SparesOthers (i : ℕ) (s s' : State R) : Prop :=
  ∀ j ≠ i, s'.mInputs.valueFor j = s.mInputs.valueFor j ∧ lastRouting j s'.log = lastRouting j s.log

theorem SparesOthers.trans {s'' : State R} (h : SparesOthers i s s') (h' : SparesOthers i s' s'') :
    SparesOthers i s s'' :=
  fun j hj => ⟨(h' j hj).1.trans (h j hj).1, (h' j hj).2.trans (h j hj).2⟩

/-- The active input has not got a virtual device. -/
theorem virtual_of_firstActive {v : KeyedVector ℕ AudioInputDescriptor} {desc : AudioInputDescriptor}
    (h : firstActive started virtual v = i) (hi : i ≠ 0) (hdesc : v.valueFor i = some desc) :
    virtual desc.mDevice = false := by
  unfold firstActive at h
  rcases hf : v.toList.find? fun i => started i.1 && !virtual i.2.mDevice with - | ⟨j, desc'⟩
  · rw [hf] at h
    exact absurd h.symm hi
  · rw [hf] at h
    obtain rfl : j = i := h
    have hactive := List.find?_some hf
    rw [KeyedVector.item_unique (KeyedVector.valueFor_eq_some.1 hdesc) (List.mem_of_find?_eq_some hf)]
    simpa using (Bool.and_eq_true_iff.1 hactive).2

/-- Another device that is no virtual one either does not change which input is active. -/
theorem firstActive_modify {v : KeyedVector ℕ AudioInputDescriptor}
    {f : AudioInputDescriptor → AudioInputDescriptor} {desc : AudioInputDescriptor}
    (hdesc : v.valueFor i = some desc) (hf : virtual (f desc).mDevice = virtual desc.mDevice) :
    firstActive started virtual (v.modify i f) = firstActive started virtual v := by
  have hkeys : (Prod.fst ∘ fun p : ℕ × AudioInputDescriptor => if p.1 = i then (p.1, f p.2) else p) =
      Prod.fst := by
    funext p
    dsimp only [Function.comp_apply]
    split <;> rfl
  unfold firstActive KeyedVector.modify
  rw [List.find?_map, Option.map_map, hkeys]
  refine congrArg (fun o : Option (ℕ × AudioInputDescriptor) => (o.map Prod.fst).getD 0) (List.find?_congr ?_)
  intro p hp
  dsimp only [Function.comp_apply]
  split
  next e =>
    -- only this input changes, and its device is as real as before
    obtain rfl : p.2 = desc :=
      KeyedVector.item_unique (e ▸ hp) (KeyedVector.valueFor_eq_some.1 hdesc)
    rw [hf]
  next => rfl

theorem getDeviceForInputSource_mem (s : State R) {source : InputSource} (h : source ≠ .remoteSubmix) :
    s.getDeviceForInputSource H source ∈ [0, H.AUDIO_DEVICE_IN_COMMUNICATION,
      H.AUDIO_DEVICE_IN_BUILTIN_MIC, H.AUDIO_DEVICE_IN_BACK_MIC, H.AUDIO_DEVICE_IN_BLUETOOTH_SCO_HEADSET,
      H.AUDIO_DEVICE_IN_WIRED_HEADSET, H.AUDIO_DEVICE_IN_VOICE_CALL, H.AUDIO_DEVICE_IN_FM_RX,
      H.AUDIO_DEVICE_IN_FM_RX_A2DP] := by
  unfold getDeviceForInputSource micDevice
  cases source with
  | remoteSubmix => exact absurd rfl h
  | voiceCommunication | fmRx | fmRxA2dp | other _ => simp
  | _ =>
    dsimp only
    split_ifs <;> simp

/-- **Routing.** After the active input is routed it has the device of its source. -/
theorem Active.route (h : Active started virtual i s)
    (hbase : B.getActiveInput s = firstActive started virtual s.mInputs)
    (hreal : RealMicrophones H virtual) (hi : i ≠ 0) :
    Follows H started virtual i (s.routeActiveInput B H) ∧
      SparesOthers i s (s.routeActiveInput B H) := by
  obtain ⟨desc, hdesc, hsource⟩ := h.opened
  unfold routeActiveInput
  dsimp only
  rw [hbase, h.active, if_neg hi, hdesc]
  dsimp only
  split
  next hnew =>
    have hvalue : ∀ j, (s.mInputs.modify i fun inputDesc => { inputDesc with
        mDevice := s.getDeviceForInputSource H desc.mInputSource }).valueFor j =
        if j = i then some ⟨desc.mInputSource, s.getDeviceForInputSource H desc.mInputSource⟩
          else s.mInputs.valueFor j := by
      intro j
      rw [KeyedVector.valueFor_modify]
      split
      next e => rw [e, hdesc, Option.map_some]
      next => rfl
    have hkept : virtual (s.getDeviceForInputSource H desc.mInputSource) = virtual desc.mDevice :=
      (hreal _ (getDeviceForInputSource_mem s hsource)).trans
        (virtual_of_firstActive h.active hi hdesc).symm
    have hself := (hvalue i).trans (if_pos rfl)
    refine ⟨⟨⟨(firstActive_modify hdesc hkept).trans h.active, ⟨_, hself, hsource⟩, ?_⟩, ?_⟩, ?_⟩
    · intro desc' hdesc' device hlast
      obtain rfl := Option.some.inj (hself.symm.trans hdesc')
      exact (Option.some.inj ((if_pos rfl).symm.trans hlast)).symm
    · intro desc' hdesc' _
      obtain rfl := Option.some.inj (hself.symm.trans hdesc')
      rfl
    · intro j hj
      exact ⟨(hvalue j).trans (if_neg hj), if_neg hj.symm⟩
  next hold =>
    refine ⟨⟨h, ?_⟩, fun j _ => ⟨rfl, rfl⟩⟩
    intro desc' hdesc' hne
    obtain rfl := Option.some.inj (hdesc.symm.trans hdesc')
    by_contra hother
    exact hold ⟨hne, fun e => hother e.symm⟩

/-! ### One call -/

theorem SameInputs.active (hv : SameInputs s s') (h : Active started virtual i s) :
    Active started virtual i s' := by
  have hinputs : s'.mInputs = s.mInputs := congrArg InputView.mInputs hv
  have hlast : Policy.lastRouting i s'.log = Policy.lastRouting i s.log :=
    congrArg (·.lastRouting i) hv
  refine ⟨hinputs ▸ h.active, hinputs ▸ h.opened, ?_⟩
  rw [hinputs, hlast]
  exact h.told

theorem SameInputs.sourceDevice (hv : SameInputs s s') (source : InputSource) :
    s'.getDeviceForInputSource H source = s.getDeviceForInputSource H source := by
  have havailable : s'.mAvailableInputDevices = s.mAvailableInputDevices :=
    congrArg InputView.mAvailableInputDevices hv
  have hrecord : s'.mForceUse .record = s.mForceUse .record := congrArg InputView.record hv
  unfold getDeviceForInputSource micDevice hasInput
  rw [havailable, hrecord]

theorem SameInputs.spares (hv : SameInputs s s') : SparesOthers i s s' :=
  fun j _ => ⟨congrArg (·.mInputs.valueFor j) hv, congrArg (·.lastRouting j) hv⟩

/-- The active input follows its source, and nothing was done to the others since `s₀`. -/
def Tracks (H : Headers) (started : ℕ → Bool) (virtual : Devices → Bool) (i : ℕ) (s₀ s : State R) :
    Prop := Follows H started virtual i s ∧ SparesOthers i s₀ s

variable {s₀ : State R}

theorem Tracks.same (h : Tracks H started virtual i s₀ s) (hv : SameInputs s s') :
    Tracks H started virtual i s₀ s' := by
  refine ⟨⟨hv.active h.1.toActive, ?_⟩, h.2.trans hv.spares⟩
  intro desc hdesc
  have hinputs : s'.mInputs = s.mInputs := congrArg InputView.mInputs hv
  rw [SameInputs.sourceDevice hv]
  exact h.1.device desc (hinputs ▸ hdesc)

section Follow

variable (hbase : ∀ s : State R, B.getActiveInput s = firstActive started virtual s.mInputs)
  (hreal : RealMicrophones H virtual) (hi : i ≠ 0)
include hbase hreal hi

/-- What an input's device depends on may change before the active input is routed. -/
theorem Tracks.reroute (h : Tracks H started virtual i s₀ s) (hinputs : s'.mInputs = s.mInputs)
    (hlog : ∀ j, lastRouting j s'.log = lastRouting j s.log) :
    Tracks H started virtual i s₀ (s'.routeActiveInput B H) := by
  have hactive : Active started virtual i s' := by
    refine ⟨hinputs ▸ h.1.active, hinputs ▸ h.1.opened, ?_⟩
    rw [hinputs, hlog]
    exact h.1.told
  have hspares : SparesOthers i s s' := fun j _ => ⟨congrArg (·.valueFor j) hinputs, hlog j⟩
  have hroute := hactive.route (hbase s') hreal hi
  exact ⟨hroute.1, (h.2.trans hspares).trans hroute.2⟩

theorem Tracks.applyForceUse (h : Tracks H started virtual i s₀ s) (hinputs : s'.mInputs = s.mInputs)
    (hlog : ∀ j, lastRouting j s'.log = lastRouting j s.log) :
    Tracks H started virtual i s₀ (s'.applyForceUse B H) := by
  have hroute : SameInputs s' ((((s'.checkA2dpSuspend B).checkOutputForAllStrategies
      B).updateDevicesAndOutputs B).routeOutputs B fun _ _ newDevice => newDevice ≠ 0) :=
    (inputs_update s').trans (inputs_routeOutputs ..)
  refine h.reroute hbase hreal hi ((congrArg InputView.mInputs hroute).trans hinputs) fun j => ?_
  exact (congrArg (·.lastRouting j) hroute).trans (hlog j)

theorem Tracks.setForceUse (h : Tracks H started virtual i s₀ s) (usage : ForceUse)
    (config : ForcedConfig) : Tracks H started virtual i s₀ (s.setForceUse B H usage config) := by
  unfold State.setForceUse
  split
  · exact h.applyForceUse hbase hreal hi rfl fun _ => rfl
  · split
    · exact h
    · split
      · exact h.same rfl
      · exact h.applyForceUse hbase hreal hi rfl fun _ => rfl
  · split
    · exact h
    · exact h.applyForceUse hbase hreal hi rfl fun _ => rfl

theorem Tracks.stopFm (h : Tracks H started virtual i s₀ s) (hs : s.stopFm B H device = some s') :
    Tracks H started virtual i s₀ s' := by
  have hoff : Tracks H started virtual i s₀ (s.fmOff B H) := by
    have hnone : Tracks H started virtual i s₀ (s.setFmMode .none) := h.same rfl
    unfold fmOff
    dsimp only
    split
    · exact hnone.setForceUse hbase hreal hi .media .none
    · exact hnone
  unfold State.stopFm at hs
  dsimp only at hs
  split_ifs at hs
  · obtain rfl := Option.some.inj hs
    exact hoff.same (inputs_setOutputDevice ..)
  · obtain rfl := Option.some.inj hs
    exact hoff
  · obtain rfl := Option.some.inj hs
    exact h

theorem Tracks.setInputState (h : Tracks H started virtual i s₀ s) :
    Tracks H started virtual i s₀ (s.setInputState B H device state).2 := by
  unfold State.setInputState
  split
  · split
    · exact h
    · exact h.reroute hbase hreal hi rfl fun _ => rfl
  · split
    · exact h
    · exact h.reroute hbase hreal hi rfl fun _ => rfl
  · exact h

theorem Tracks.setOutputState (h : Tracks H started virtual i s₀ s)
    {r : Status × State R × SortedVector ℕ}
    (hs : s.setOutputState B H c isAnalog device state device_address = some r) :
    Tracks H started virtual i s₀ r.2.1 := by
  unfold State.setOutputState at hs
  split at hs
  · obtain rfl := Option.some.inj hs
    unfold connectDevice
    split
    · exact h
    next s₁ hfm =>
      have h₁ := h.same (inputs_startFm hfm)
      dsimp only
      split
      · exact h₁
      · have h₂ : Tracks H started virtual i s₀ (s₁.checkOutputsForDevice c device .available).2.1 :=
          h₁.same inputs_checkOutputsForDevice
        split
        · exact h₂
        · have hadded : Tracks H started virtual i s₀ { (s₁.checkOutputsForDevice c device .available).2.1 with
              mAvailableOutputDevices := (s₁.checkOutputsForDevice c device
                .available).2.1.mAvailableOutputDevices ||| device } := h₂.same rfl
          exact hadded.same (inputs_setAddress _)
  · obtain ⟨s₁, hfm, rfl⟩ := Option.map_eq_some_iff.1 hs
    have h₁ := h.stopFm hbase hreal hi hfm
    dsimp only
    split
    · exact h₁
    · have hremoved : Tracks H started virtual i s₀ { s₁ with
          mAvailableOutputDevices := s₁.mAvailableOutputDevices &&& ~~~device } := h₁.same rfl
      exact (hremoved.same inputs_checkOutputsForDevice).same (inputs_clearAddress _)
  · obtain rfl := Option.some.inj hs
    exact h

theorem Tracks.setDeviceConnectionState (h : Tracks H started virtual i s₀ s) {r : Status × State R}
    (hs : s.setDeviceConnectionState B H c isAnalog device state device_address = some r) :
    Tracks H started virtual i s₀ r.2 := by
  unfold State.setDeviceConnectionState at hs
  split at hs
  · obtain rfl := Option.some.inj hs
    exact h
  · split at hs
    · obtain rfl := Option.some.inj hs
      exact h
    · split at hs
      · split at hs
        · obtain rfl := Option.some.inj hs
          exact h
        · unfold changeOutput at hs
          obtain ⟨⟨status, s₁, outputs⟩, h₁, hs⟩ := Option.bind_eq_some_iff.1 hs
          have hsaved : Tracks H started virtual i s₀ s.saveOutputs := h.same rfl
          have hchanged : Tracks H started virtual i s₀ s₁ := hsaved.setOutputState hbase hreal hi h₁
          dsimp only at hs
          split at hs
          · obtain rfl := Option.some.inj hs
            exact hchanged
          · obtain ⟨s₂, h₂, rfl⟩ := Option.map_eq_some_iff.1 hs
            have hfinished := hchanged.same (inputs_finishOutput h₂)
            -- a headset's microphone follows it
            unfold changePaired
            split
            · exact hfinished
            · split
              · exact hfinished.setInputState hbase hreal hi
              · exact hfinished
      · obtain rfl := Option.some.inj hs
        exact h.setInputState hbase hreal hi

theorem Tracks.step (h : Tracks H started virtual i s₀ s) {call : Call}
    (hs : Policy.step B H s call = some s') : Tracks H started virtual i s₀ s' := by
  cases call with
  | setDeviceConnectionState c isAnalog device state device_address =>
    obtain ⟨r, hr, rfl⟩ := Option.map_eq_some_iff.1 hs
    exact h.setDeviceConnectionState hbase hreal hi hr
  | setForceUse usage config =>
    obtain rfl := Option.some.inj hs
    exact h.setForceUse hbase hreal hi usage config
  | setPhoneState state => exact h.same (inputs_setPhoneState hs)
  | getOutput c stream config flags =>
    obtain rfl := Option.some.inj hs
    exact h.same (inputs_getOutput ..)
  | releaseOutput output =>
    obtain rfl := Option.some.inj hs
    exact h.same (inputs_releaseOutput ..)
  | startOutput output stream =>
    obtain rfl := Option.some.inj hs
    exact h.same (inputs_startOutput ..)
  | stopOutput output stream =>
    obtain rfl := Option.some.inj hs
    exact h.same (inputs_stopOutput ..)

/-- **The microphone follows.** In every run of calls the input that is active keeps the device of its
source, if there is one, and that is the last it was told; nothing is done to any other input. -/
theorem microphone_follows {calls : List Call} (h : Follows H started virtual i s)
    (hr : run (Policy.step B H) s calls = some s') :
    Follows H started virtual i s' ∧ SparesOthers i s s' := by
  have hstart : Tracks H started virtual i s s := ⟨h, fun _ _ => ⟨rfl, rfl⟩⟩
  exact run_inv (fun _ _ _ h _ hs => Tracks.step hbase hreal hi h hs) hstart
    (along_true (fun _ _ => trivial) s calls) hr

end Follow

/-- A recorder and a camcorder use the built-in microphone; the recorder was started first. -/
def plainInputs : State Unit :=
  { plain with
    mInputs := (KeyedVector.empty.add 5 ⟨.mic, 0x80000004⟩).add 6 ⟨.camcorder, 0x80000004⟩ }

/-- The remote submix of the plain policy. -/
def plainVirtual (device : Devices) : Bool := device = 0x80000100

/-- The plain policy with the active input of the base class. -/
def activeBase : Base Unit :=
  { Base.plain with getActiveInput := fun s => firstActive (fun _ => true) plainVirtual s.mInputs }

/-- A headset is connected, a recording with SCO is forced, and SCO is connected. -/
def headsets : List Call :=
  [.setDeviceConnectionState .plain false 0x4 .available "", .setForceUse .record .btSco,
    .setDeviceConnectionState .plain false 0x20 .available ""]

/-- The recorder gets the headset's microphone, then that of SCO. -/
theorem microphone_follows_headsets : ∃ s, run (Policy.step activeBase .plain) plainInputs headsets = some s ∧
    lastRouting 5 s.log = some 0x80000008 ∧
      Follows .plain (fun _ => true) plainVirtual 5 s ∧ SparesOthers 5 plainInputs s := by
  have hrun : ∃ s, run (Policy.step activeBase .plain) plainInputs headsets = some s ∧
      lastRouting 5 s.log = some 0x80000008 := exists_run (by decide +kernel)
  obtain ⟨s, hr, hlast⟩ := hrun
  have hstart : Follows .plain (fun _ => true) plainVirtual 5 plainInputs := by
    refine ⟨⟨by decide, ⟨⟨.mic, 0x80000004⟩, by decide, by decide⟩, ?_⟩, ?_⟩
    · intro desc _ device hnone
      cases hnone
    · intro desc hdesc _
      have hvalue : plainInputs.mInputs.valueFor 5 = some ⟨.mic, 0x80000004⟩ := by decide
      obtain rfl := Option.some.inj (hvalue.symm.trans hdesc)
      decide
  have hreal : RealMicrophones .plain plainVirtual := by
    simp [RealMicrophones, Headers.plain, plainVirtual]
  exact ⟨s, hr, hlast, microphone_follows (fun _ => rfl) hreal (by decide) hstart hr⟩

end State

end Msm7x27a.Policy
