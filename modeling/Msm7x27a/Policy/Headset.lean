import Msm7x27a.Policy.Coverage
import Msm7x27a.Policy.Wiring
import Msm7x27a.Lib.Runs

/-!
# The microphones of headsets

An output device that is a headset brings an input device: the wired headset one of its own, and the
three SCO devices one for all of them.  The input device of the wired headset follows its output.
That of SCO is there with the first SCO output, and gone with any of them that is disconnected.
-/

namespace Msm7x27a.Policy

open Msm7x27a.Audio (Status noError)
open Msm7x27a.Route (Devices)
open Msm7x27a.Bits Msm7x27a.Runs

/-- The SCO devices for output. -/
def Headers.scoOutputs (H : Headers) : List Devices :=
  [H.AUDIO_DEVICE_OUT_BLUETOOTH_SCO, H.AUDIO_DEVICE_OUT_BLUETOOTH_SCO_HEADSET,
    H.AUDIO_DEVICE_OUT_BLUETOOTH_SCO_CARKIT]

/-- What is known of the audio headers: an output device is one bit, and the two input devices have
`AUDIO_DEVICE_BIT_IN` and no other bit in common. -/
structure Headers.Headsets (H : Headers) : Prop extends H.Distinct where
  output : ∀ device, H.audio_is_output_device device = true → OneBit device
  wired_input : H.audio_is_input_device H.AUDIO_DEVICE_IN_WIRED_HEADSET = true
  sco_input : H.audio_is_input_device H.AUDIO_DEVICE_IN_BLUETOOTH_SCO_HEADSET = true
  common : H.AUDIO_DEVICE_IN_WIRED_HEADSET &&& H.AUDIO_DEVICE_IN_BLUETOOTH_SCO_HEADSET =
    H.AUDIO_DEVICE_BIT_IN
  wired_ne_zero : H.AUDIO_DEVICE_IN_WIRED_HEADSET &&& ~~~H.AUDIO_DEVICE_BIT_IN ≠ 0
  sco_ne_zero : H.AUDIO_DEVICE_IN_BLUETOOTH_SCO_HEADSET &&& ~~~H.AUDIO_DEVICE_BIT_IN ≠ 0

/-- A call of `setDeviceConnectionState`, with what is answered to it. -/
structure DeviceCall where
  c : Client
  isAnalog : Bool
  device : Devices
  state : ConnectionState
  device_address : String

namespace State

variable {R : Type} {B : Base R} {H : Headers} {c : Client} {isAnalog : Bool}
  {device i j : Devices} {state : ConnectionState} {device_address : String}
  {outputs : SortedVector ℕ} {s s' : State R} {call : DeviceCall}

def deviceStep (B : Base R) (H : Headers) (s : State R) (call : DeviceCall) : Option (State R) :=
  (s.setDeviceConnectionState B H call.c call.isAnalog call.device call.state
    call.device_address).map Prod.snd

/-- The microphones are available with their headsets. -/
structure Mirrors (H : Headers) (s : State R) : Prop where
  wired : s.hasInput H.AUDIO_DEVICE_IN_WIRED_HEADSET =
    s.mAvailableOutputDevices.has H.AUDIO_DEVICE_OUT_WIRED_HEADSET
  sco : s.hasInput H.AUDIO_DEVICE_IN_BLUETOOTH_SCO_HEADSET =
    H.scoOutputs.any s.mAvailableOutputDevices.has

/-- No input device that is available is marked as one. -/
def PlainInputs (H : Headers) (s : State R) : Prop :=
  s.mAvailableInputDevices &&& H.AUDIO_DEVICE_BIT_IN = 0

/-- The call disconnects a SCO output, and another one stays. -/
structure DropsSco (H : Headers) (s : State R) (call : DeviceCall) : Prop where
  accepted : s.Accepted H call.device call.device_address
  state : call.state = .unavailable
  sco : call.device ∈ H.scoOutputs
  connected : s.mAvailableOutputDevices.has call.device = true
  primary : s.mPrimaryOutput ∈ s.mOutputs
  other : ∃ d ∈ H.scoOutputs, d ≠ call.device ∧ s.mAvailableOutputDevices.has d = true

/-! ### The input devices -/

theorem has_or_of_disjoint {mask x y : Devices} (h : x &&& y = 0) :
    (mask ||| x).has y = mask.has y := by
  unfold Devices.has
  rw [or_and_of_disjoint h]

theorem has_and_not_of_disjoint {mask x y : Devices} (h : mask &&& x &&& y = 0) :
    (mask &&& ~~~x).has y = mask.has y := by
  unfold Devices.has
  rw [and_not_and_of_disjoint h]

theorem has_of_within {mask x y : Devices} (h : Within x y) (hx : mask.has x = true) :
    mask.has y = true :=
  decide_eq_true ((h.and_left mask).ne_zero (of_decide_eq_true hx))

/-- One input device has changed. -/
structure InputSet (H : Headers) (i j : Devices) (on : Bool) (s s' : State R) : Prop where
  changed : s'.hasInput i = on
  other : s'.hasInput j = s.hasInput j
  plain : PlainInputs H s'

/-- The input device `i` is there when it has been connected, and not when it has been disconnected,
whatever the call returns. -/
theorem inputSet_setInputState (hs : PlainInputs H s) (hij : i &&& j = H.AUDIO_DEVICE_BIT_IN)
    (hi : i &&& ~~~H.AUDIO_DEVICE_BIT_IN ≠ 0) (hstate : state = .available ∨ state = .unavailable) :
    InputSet H i j (state = .available) s (s.setInputState B H i state).2 := by
  have hroute : ∀ s : State R, (s.routeActiveInput B H).mAvailableInputDevices =
      s.mAvailableInputDevices := fun s => (same_routeActiveInput s).keeps.mAvailableInputDevices
  rcases hstate with rfl | rfl
  · unfold setInputState
    dsimp only
    split
    next hthere => exact ⟨hthere.trans (decide_eq_true rfl).symm, rfl, hs⟩
    next =>
      have hj : i &&& ~~~H.AUDIO_DEVICE_BIT_IN &&& j = 0 := by
        have hcomm : i &&& ~~~H.AUDIO_DEVICE_BIT_IN &&& j = i &&& j &&& ~~~H.AUDIO_DEVICE_BIT_IN := by
          ac_rfl
        rw [hcomm, hij]
        exact BitVec.and_not_self _
      have hin : i &&& ~~~H.AUDIO_DEVICE_BIT_IN &&& H.AUDIO_DEVICE_BIT_IN = 0 := by
        rw [BitVec.and_assoc, BitVec.not_and_self]
        exact BitVec.and_zero
      refine ⟨?_, ?_, ?_⟩
      · unfold hasInput
        rw [hroute]
        exact has_of_within (within_and_left ..) (Devices.has_or_self hi)
      · unfold hasInput
        rw [hroute]
        exact has_or_of_disjoint hj
      · unfold PlainInputs
        rw [hroute]
        exact (or_and_of_disjoint hin).trans hs
  · unfold setInputState
    dsimp only
    split
    next habsent => exact ⟨habsent, rfl, hs⟩
    next =>
      have hcommon : s.mAvailableInputDevices &&& i &&& j = 0 := by
        rw [BitVec.and_assoc, hij]
        exact hs
      have hin : s.mAvailableInputDevices &&& i &&& H.AUDIO_DEVICE_BIT_IN = 0 := by
        have hcomm : s.mAvailableInputDevices &&& i &&& H.AUDIO_DEVICE_BIT_IN =
            s.mAvailableInputDevices &&& H.AUDIO_DEVICE_BIT_IN &&& i := by ac_rfl
        rw [hcomm, hs]
        exact BitVec.zero_and
      refine ⟨?_, ?_, ?_⟩
      · unfold hasInput
        rw [hroute]
        exact Devices.has_and_not_self
      · unfold hasInput
        rw [hroute]
        exact has_and_not_of_disjoint hcommon
      · unfold PlainInputs
        rw [hroute]
        exact (and_not_and_of_disjoint hin).trans hs

/-! ### The output and its input device -/

/-- The mask with the device or without it. -/
def setBits (mask device : Devices) (on : Bool) : Devices :=
  if on then mask ||| device else mask &&& ~~~device

theorem has_setBits {mask x : Devices} {on : Bool} (hdevice : OneBit device) (hx : OneBit x) :
    (setBits mask device on).has x = if device = x then on else mask.has x := by
  unfold setBits
  by_cases he : device = x
  · subst he
    rw [if_pos rfl]
    cases on with
    | true => exact Devices.has_or_self hdevice.ne_zero
    | false => exact Devices.has_and_not_self
  · rw [if_neg he]
    have hdisjoint := hdevice.and_eq_zero hx he
    cases on with
    | true => exact has_or_of_disjoint hdisjoint
    | false =>
      refine has_and_not_of_disjoint ?_
      rw [BitVec.and_assoc, hdisjoint]
      exact BitVec.and_zero

/-- An output has been connected or disconnected, and its input device too. -/
structure HeadsetSet (H : Headers) (device : Devices) (on : Bool) (s s' : State R) : Prop where
  outputs : s'.mAvailableOutputDevices = setBits s.mAvailableOutputDevices device on
  wired : s'.hasInput H.AUDIO_DEVICE_IN_WIRED_HEADSET =
    if device = H.AUDIO_DEVICE_OUT_WIRED_HEADSET then on
    else s.hasInput H.AUDIO_DEVICE_IN_WIRED_HEADSET
  sco : s'.hasInput H.AUDIO_DEVICE_IN_BLUETOOTH_SCO_HEADSET =
    if device ∈ H.scoOutputs then on else s.hasInput H.AUDIO_DEVICE_IN_BLUETOOTH_SCO_HEADSET
  plain : PlainInputs H s'

section Paired

variable (hH : H.Headsets)

include hH

theorem oneBit_sco {d : Devices} (h : d ∈ H.scoOutputs) : OneBit d := by
  apply hH.oneBit
  simp only [Headers.scoOutputs, List.mem_cons, List.not_mem_nil, or_false] at h
  rcases h with rfl | rfl | rfl <;> simp [Headers.outputs, Headers.otherOutputs]

theorem headset_not_sco : H.AUDIO_DEVICE_OUT_WIRED_HEADSET ∉ H.scoOutputs := by
  intro h
  have hnodup := (List.nodup_append.1 hH.nodup).2.1
  simp only [Headers.scoOutputs, List.mem_cons, List.not_mem_nil, or_false] at h
  rcases h with e | e | e <;> simp [Headers.otherOutputs, e] at hnodup

theorem fm_not_sco : H.AUDIO_DEVICE_OUT_FM ∉ H.scoOutputs := by
  intro h
  have hnodup := (List.nodup_append.1 hH.nodup).2.1
  simp only [Headers.scoOutputs, List.mem_cons, List.not_mem_nil, or_false] at h
  rcases h with e | e | e <;> simp [Headers.otherOutputs, e] at hnodup

theorem changePaired_wired : s.changePaired B H H.AUDIO_DEVICE_OUT_WIRED_HEADSET state =
    s.setInputState B H H.AUDIO_DEVICE_IN_WIRED_HEADSET state := by
  unfold changePaired
  have hp : pairedInput H H.AUDIO_DEVICE_OUT_WIRED_HEADSET =
    some H.AUDIO_DEVICE_IN_WIRED_HEADSET := if_pos rfl
  rw [hp]
  exact if_pos hH.wired_input

theorem changePaired_sco (h : device ∈ H.scoOutputs) : s.changePaired B H device state =
    s.setInputState B H H.AUDIO_DEVICE_IN_BLUETOOTH_SCO_HEADSET state := by
  have hne : device ≠ H.AUDIO_DEVICE_OUT_WIRED_HEADSET := fun e => headset_not_sco hH (e ▸ h)
  have hp : pairedInput H device = some H.AUDIO_DEVICE_IN_BLUETOOTH_SCO_HEADSET := by
    unfold pairedInput
    rw [if_neg hne, if_pos (by simpa [Headers.scoOutputs] using h)]
  unfold changePaired
  rw [hp]
  exact if_pos hH.sco_input

omit hH in
theorem changePaired_other (hne : device ≠ H.AUDIO_DEVICE_OUT_WIRED_HEADSET)
    (h : device ∉ H.scoOutputs) : s.changePaired B H device state = (noError, s) := by
  have hp : pairedInput H device = none := by
    unfold pairedInput
    rw [if_neg hne, if_neg (by simpa [Headers.scoOutputs] using h)]
  unfold changePaired
  rw [hp]

theorem headsetSet_changePaired {on : Bool} (hs : PlainInputs H s)
    (hout : s'.mAvailableOutputDevices = setBits s.mAvailableOutputDevices device on)
    (hin : s'.mAvailableInputDevices = s.mAvailableInputDevices)
    (hstate : state = if on then .available else .unavailable) :
    HeadsetSet H device on s (s'.changePaired B H device state).2 := by
  have hplain : PlainInputs H s' := by
    unfold PlainInputs
    rw [hin]
    exact hs
  have hinput : ∀ i, s'.hasInput i = s.hasInput i := by
    intro i
    unfold hasInput
    rw [hin]
  have hchange : state = .available ∨ state = .unavailable := by
    cases on <;> simp [hstate]
  have hon : decide (state = .available) = on := by
    cases on <;> simp [hstate]
  have hkept := ((keeps_changePaired B H device state s').1.mAvailableOutputDevices).trans hout
  by_cases hwired : device = H.AUDIO_DEVICE_OUT_WIRED_HEADSET
  · subst hwired
    have hset := inputSet_setInputState (B := B) hplain hH.common hH.wired_ne_zero hchange
    rw [hon] at hset
    rw [changePaired_wired hH] at hkept ⊢
    refine ⟨hkept, ?_, ?_, hset.plain⟩
    · rw [if_pos rfl]
      exact hset.changed
    · rw [if_neg (headset_not_sco hH)]
      exact hset.other.trans (hinput _)
  · by_cases hsco : device ∈ H.scoOutputs
    · have hset := inputSet_setInputState (B := B) hplain
        ((BitVec.and_comm ..).trans hH.common) hH.sco_ne_zero hchange
      rw [hon] at hset
      rw [changePaired_sco hH hsco] at hkept ⊢
      refine ⟨hkept, ?_, ?_, hset.plain⟩
      · rw [if_neg hwired]
        exact hset.other.trans (hinput _)
      · rw [if_pos hsco]
        exact hset.changed
    · rw [changePaired_other hwired hsco] at hkept ⊢
      refine ⟨hkept, ?_, ?_, hplain⟩
      · rw [if_neg hwired]
        exact hinput _
      · rw [if_neg hsco]
        exact hinput _

/-- The microphones are available with their headsets afterwards, unless a SCO output has been
disconnected and another one stays. -/
theorem mirrors_of_set {on : Bool} (hdevice : OneBit device) (hm : Mirrors H s)
    (h : HeadsetSet H device on s s') : Mirrors H s' ↔
      ¬(on = false ∧ device ∈ H.scoOutputs ∧
        ∃ d ∈ H.scoOutputs, d ≠ device ∧ s.mAvailableOutputDevices.has d = true) := by
  have hwired : s'.hasInput H.AUDIO_DEVICE_IN_WIRED_HEADSET =
      s'.mAvailableOutputDevices.has H.AUDIO_DEVICE_OUT_WIRED_HEADSET := by
    rw [h.wired, h.outputs, has_setBits hdevice (oneBit_headset hH.toDistinct), hm.wired]
  have hbits : ∀ d ∈ H.scoOutputs, s'.mAvailableOutputDevices.has d =
      if device = d then on else s.mAvailableOutputDevices.has d := by
    intro d hd
    rw [h.outputs, has_setBits hdevice (oneBit_sco hH hd)]
  have hany : (H.scoOutputs.any fun d => s'.mAvailableOutputDevices.has d) =
      H.scoOutputs.any fun d => if device = d then on else s.mAvailableOutputDevices.has d := by
    rw [Bool.eq_iff_iff, List.any_eq_true, List.any_eq_true]
    exact exists_congr fun d => and_congr_right fun hd => by rw [hbits d hd]
  have hiff : Mirrors H s' ↔ s'.hasInput H.AUDIO_DEVICE_IN_BLUETOOTH_SCO_HEADSET =
      H.scoOutputs.any fun d => if device = d then on else s.mAvailableOutputDevices.has d := by
    rw [← hany]
    exact ⟨fun hm' => hm'.sco, fun hsco => ⟨hwired, hsco⟩⟩
  rw [hiff, h.sco]
  by_cases hsco : device ∈ H.scoOutputs
  · rw [if_pos hsco]
    cases on with
    | true =>
      refine iff_of_true ?_ fun hd => absurd hd.1 Bool.noConfusion
      exact (List.any_eq_true.2 ⟨device, hsco, if_pos rfl⟩).symm
    | false =>
      rw [eq_comm, ← Bool.not_eq_true, List.any_eq_true]
      refine not_congr ⟨?_, ?_⟩
      · rintro ⟨d, hd, hon⟩
        split at hon
        · cases hon
        next hne => exact ⟨rfl, hsco, d, hd, Ne.symm hne, hon⟩
      · rintro ⟨-, -, d, hd, hne, hon⟩
        exact ⟨d, hd, (if_neg (Ne.symm hne)).trans hon⟩
  · refine iff_of_true ?_ fun hd => hsco hd.2.1
    rw [if_neg hsco, hm.sco, Bool.eq_iff_iff, List.any_eq_true, List.any_eq_true]
    refine exists_congr fun d => and_congr_right fun hd => ?_
    have hne : device ≠ d := fun e => hsco (e ▸ hd)
    rw [if_neg hne]

end Paired

/-! ### Calls -/

/-- What a call on an output device does to the headsets. -/
inductive HeadsetChange (H : Headers) (call : DeviceCall) (s s' : State R) : Prop where
  | kept (hout : s'.mAvailableOutputDevices = s.mAvailableOutputDevices)
      (hin : s'.mAvailableInputDevices = s.mAvailableInputDevices) (hdrop : ¬DropsSco H s call)
  | connected (hstate : call.state = .available) (h : HeadsetSet H call.device true s s')
  | disconnected (hstate : call.state = .unavailable)
      (haccepted : s.Accepted H call.device call.device_address)
      (hconnected : s.mAvailableOutputDevices.has call.device = true)
      (hprimary : s.mPrimaryOutput ∈ s.mOutputs) (h : HeadsetSet H call.device false s s')

section Step

variable (hH : H.Headsets)

include hH

theorem headsetChange_deviceStep (hs : PlainInputs H s)
    (hdevice : H.audio_is_output_device call.device = true)
    (h : deviceStep B H s call = some s') : HeadsetChange H call s s' := by
  obtain ⟨r, hr, rfl⟩ := Option.map_eq_some_iff.1 h
  obtain ⟨c, isAnalog, device, state, device_address⟩ := call
  rcases setDeviceConnectionState_cases hr with ⟨rfl, hnot⟩ | ⟨hacc, hchange⟩ | ⟨hnot, -⟩
  · exact .kept rfl rfl fun hd => hnot hd.accepted
  · cases hchange with
    | busy h => exact .kept rfl rfl fun hd => absurd hd.state ConnectionState.noConfusion
    | refused h1 hc h2 ho =>
      obtain ⟨-, mode, rfl⟩ := startFm_cases h1
      exact .kept h2.keeps.mAvailableOutputDevices h2.keeps.mAvailableInputDevices
        fun hd => absurd hd.state ConnectionState.noConfusion
    | @connected s₁ s₂ s₃ h1 hc h2 ho h3 =>
      obtain ⟨-, mode, rfl⟩ := startFm_cases h1
      have hkeeps := keeps_finishOutput h3
      refine .connected rfl (headsetSet_changePaired hH hs ?_ ?_ rfl)
      · exact hkeeps.mAvailableOutputDevices.trans h2.mAvailableOutputDevices
      · exact hkeeps.mAvailableInputDevices.trans h2.mAvailableInputDevices
    | absent h1 hc =>
      have hdevices := devices_stopFm h1
      refine .kept hdevices.mAvailableOutputDevices hdevices.mAvailableInputDevices fun hd => ?_
      exact absurd (hd.connected.symm.trans hc) (by decide)
    | @disconnected s₁ s₂ s₃ h1 hc h2 ho h3 =>
      have hdevices := devices_stopFm h1
      have hkeeps := keeps_finishOutput h3
      have hprimary : s.mPrimaryOutput ∈ s.mOutputs := by
        have hopen := (finishOutput_cases h3).1
        rw [h2.mPrimaryOutput, ho, mOutputs_stopFm h1] at hopen
        exact (wiring_stopFm h1).mPrimaryOutput ▸ hopen
      refine .disconnected rfl hacc hc hprimary (headsetSet_changePaired hH hs ?_ ?_ rfl)
      · rw [hkeeps.mAvailableOutputDevices, h2.mAvailableOutputDevices]
        exact congrArg (· &&& ~~~device) hdevices.mAvailableOutputDevices
      · rw [hkeeps.mAvailableInputDevices, h2.mAvailableInputDevices]
        exact hdevices.mAvailableInputDevices
    | badState code => exact .kept rfl rfl fun hd => absurd hd.state ConnectionState.noConfusion
  · exact absurd (hdevice.symm.trans hnot) (by decide)

/-- A call that disconnects a SCO output goes through. -/
theorem deviceStep_of_drops (hd : DropsSco H s call) : ∃ s', deviceStep B H s call = some s' := by
  obtain ⟨c, isAnalog, device, state, device_address⟩ := call
  obtain ⟨hacc, hstate, hsco, hconnected, hprimary, -⟩ := hd
  dsimp only at hacc hstate hsco hconnected
  subst hstate
  have hfm : device ≠ H.AUDIO_DEVICE_OUT_FM := fun e => fm_not_sco hH (e ▸ hsco)
  have hstop : s.saveOutputs.stopFm B H device = some s.saveOutputs := stopFm_of_ne hfm
  obtain ⟨s₂, h2, hkeeps, houtputs⟩ := disconnect_ok c isAnalog device_address hstop hconnected
  have hopen : s₂.mPrimaryOutput ∈ s₂.mOutputs := by
    rw [hkeeps.mPrimaryOutput, houtputs]
    exact hprimary
  obtain ⟨s₃, h3⟩ : ∃ s₃, s₂.finishOutput B H device .unavailable
      (s.saveOutputs.outputsWith fun supported =>
        !supported.has (s.saveOutputs.mAvailableOutputDevices &&& ~~~device)) = some s₃ :=
    finishOutput_of_unavailable hopen
  have hcall : s.setDeviceConnectionState B H c isAnalog device .unavailable device_address =
      some (s₃.changePaired B H device .unavailable) := by
    unfold setDeviceConnectionState
    rw [if_neg fun hn => absurd (hacc.output.symm.trans hn.1) (by decide),
      if_neg (not_le.2 hacc.address), if_pos hacc.output, if_neg (by simp [hacc.present]),
      changeOutput_of_ok h2, h3]
    rfl
  exact ⟨_, congrArg (Option.map Prod.snd) hcall⟩

/-- One call on an output device. -/
theorem mirrors_step_iff (hs : PlainInputs H s) (hm : Mirrors H s)
    (hdevice : H.audio_is_output_device call.device = true) :
    Ends (deviceStep B H) (Mirrors H) s call ↔ ¬DropsSco H s call := by
  have hbit := hH.output _ hdevice
  constructor
  · intro hends hd
    obtain ⟨s', h⟩ := deviceStep_of_drops (B := B) hH hd
    cases headsetChange_deviceStep hH hs hdevice h with
    | kept hout hin hdrop => exact hdrop hd
    | connected hstate hset => exact absurd (hstate.symm.trans hd.state) ConnectionState.noConfusion
    | disconnected hstate haccepted hconnected hprimary hset =>
      exact (mirrors_of_set hH hbit hm hset).1 (hends s' h) ⟨rfl, hd.sco, hd.other⟩
  · intro hd s' h
    cases headsetChange_deviceStep hH hs hdevice h with
    | kept hout hin hdrop =>
      refine ⟨?_, ?_⟩
      · unfold hasInput
        rw [hin, hout]
        exact hm.wired
      · unfold hasInput
        rw [hin, hout]
        exact hm.sco
    | connected hstate hset =>
      exact (mirrors_of_set hH hbit hm hset).2 fun hc => absurd hc.1 Bool.noConfusion
    | disconnected hstate haccepted hconnected hprimary hset =>
      refine (mirrors_of_set hH hbit hm hset).2 fun hc => hd ?_
      exact ⟨haccepted, hstate, hc.2.1, hconnected, hprimary, hc.2.2⟩

/-- **The microphones of headsets.** In a run of calls on output devices from a state without headsets,
the input devices are available exactly when their outputs are, after every call, if and only if no
call disconnects a SCO output while another one is available. -/
theorem mirrors_iff (hwired : s.hasInput H.AUDIO_DEVICE_IN_WIRED_HEADSET = false)
    (hsco : s.hasInput H.AUDIO_DEVICE_IN_BLUETOOTH_SCO_HEADSET = false)
    (hout : ∀ d ∈ H.AUDIO_DEVICE_OUT_WIRED_HEADSET :: H.scoOutputs,
      s.mAvailableOutputDevices.has d = false)
    {calls : List DeviceCall}
    (hcalls : ∀ call ∈ calls, H.audio_is_output_device call.device = true) :
    Along (deviceStep B H) (Ends (deviceStep B H) (Mirrors H)) s calls ↔
      Along (deviceStep B H) (fun s call => ¬DropsSco H s call) s calls := by
  have hplain : PlainInputs H s := by
    have hnone : s.mAvailableInputDevices &&& H.AUDIO_DEVICE_IN_WIRED_HEADSET = 0 := by
      simpa [hasInput, Devices.has] using hwired
    unfold PlainInputs
    rw [← hH.common, ← BitVec.and_assoc, hnone]
    exact BitVec.zero_and
  have hm : Mirrors H s := by
    refine ⟨hwired.trans (hout _ (List.mem_cons_self ..)).symm, hsco.trans ?_⟩
    symm
    rw [List.any_eq_false]
    exact fun d hd => by rw [hout d (List.mem_cons_of_mem _ hd)]; decide
  refine along_congr (I := fun s => PlainInputs H s ∧ Mirrors H s) ?_ ?_ ⟨hplain, hm⟩ hcalls
  · exact fun s call hcall hI => mirrors_step_iff hH hI.1 hI.2 hcall
  · intro s call s' hcall hI hends h
    refine ⟨?_, hends s' h⟩
    cases headsetChange_deviceStep hH hI.1 hcall h with
    | kept hout hin hdrop =>
      unfold PlainInputs
      rw [hin]
      exact hI.1
    | connected hstate hset => exact hset.plain
    | disconnected hstate haccepted hconnected hprimary hset => exact hset.plain

end Step

end State

/-! ### A plain policy -/

theorem oneBit_of_oneOf {bits device : Devices} (h : oneOf bits device = true) : OneBit device := by
  simp only [oneOf, decide_eq_true_eq] at h
  obtain ⟨hne, hone, -⟩ := h
  have hpos : device.toNat ≠ 0 := fun e => hne (BitVec.eq_of_toNat_eq e)
  have hpred : (device - 1).toNat = device.toNat - 1 := by
    have hone : (1 : Devices).toNat = 1 := rfl
    have := device.isLt
    rw [BitVec.toNat_sub, hone]
    omega
  have hnat : device.toNat &&& (device.toNat - 1) = 0 := by
    rw [← hpred, ← BitVec.toNat_and, hone]
    rfl
  obtain ⟨k, hk⟩ := (Nat.and_sub_one_eq_zero_iff_isPowerOfTwo hpos).1 hnat
  have hlt : k < 32 := by
    have := device.isLt
    rw [hk] at this
    exact (Nat.pow_lt_pow_iff_right (by decide)).1 this
  refine ⟨k, hlt, BitVec.eq_of_toNat_eq ?_⟩
  rw [hk, BitVec.toNat_twoPow_of_lt hlt]

theorem headsets_plain : Headers.plain.Headsets where
  toDistinct := distinct_plain
  output device h := oneBit_of_oneOf h
  wired_input := by decide
  sco_input := by decide
  common := by decide
  wired_ne_zero := by decide
  sco_ne_zero := by decide

namespace State

theorem mirrors_headsets : Along (deviceStep .plain .plain)
    (Ends (deviceStep .plain .plain) (Mirrors .plain)) plain
      [⟨.plain, false, 0x4, .available, ""⟩, ⟨.plain, false, 0x20, .available, ""⟩] := by
  refine (mirrors_iff headsets_plain (by decide) (by decide) ?_ ?_).2 ?_
  · have hnone : (Headers.plain.AUDIO_DEVICE_OUT_WIRED_HEADSET :: Headers.plain.scoOutputs).all
        (fun d => plain.mAvailableOutputDevices.has d = false) = true := by decide
    exact fun d hd => of_decide_eq_true (List.all_eq_true.1 hnone d hd)
  · intro call hcall
    simp only [List.mem_cons, List.not_mem_nil, or_false] at hcall
    rcases hcall with rfl | rfl <;> decide
  · refine ⟨fun hd => absurd hd.state (by decide), fun s _ => ⟨?_, fun _ _ => trivial⟩⟩
    exact fun hd => absurd hd.state (by decide)

/-- A car kit is connected beside a headset and disconnected again: the headset stays an output, and
its microphone is gone. -/
theorem headset_without_microphone : ∃ t, run (deviceStep .plain .plain) plain
    [⟨.plain, false, 0x20, .available, ""⟩, ⟨.plain, false, 0x40, .available, ""⟩,
      ⟨.plain, false, 0x40, .unavailable, ""⟩] = some t ∧ ¬Mirrors .plain t := by
  have h : ((run (deviceStep .plain .plain) plain
      [⟨.plain, false, 0x20, .available, ""⟩, ⟨.plain, false, 0x40, .available, ""⟩,
        ⟨.plain, false, 0x40, .unavailable, ""⟩]).any fun t =>
      decide (t.mAvailableInputDevices = 0x45 ∧ t.mAvailableOutputDevices = 0x23)) = true := by
    decide +kernel
  obtain ⟨t, hr, hin, hout⟩ := exists_run h
  refine ⟨t, hr, fun hm => ?_⟩
  have hsco := hm.sco
  unfold hasInput at hsco
  rw [hin, hout] at hsco
  exact absurd hsco (by decide)

end State

end Msm7x27a.Policy
