import Msm7x27a.Policy.Coverage
import Msm7x27a.Policy.Mutes

/-!
# The device of the volume

`getDeviceForVolume` makes one device of the mask that a strategy gets.  That mask is none, a single
device, or several with the speaker or FM among them (`Resolved`), whatever the state; in a call it
may be one that an earlier state has found (`Obtained`).
-/

namespace Msm7x27a.Policy

open Msm7x27a.Route (Devices)
open Msm7x27a.Bits

/-- At most one device. -/
def Single (device : Devices) : Prop := device = 0 ∨ OneBit device

/-- A mask that the priorities of `getDeviceForVolume` make one device of. -/
def Resolved (H : Headers) (device : Devices) : Prop :=
  Single device ∨ device.has H.AUDIO_DEVICE_OUT_SPEAKER = true ∨ device.has H.AUDIO_DEVICE_OUT_FM = true

/-- What `getDeviceForStrategy` has given in some state.  The devices that it has kept were given in
states before; it reads them if it is asked to, and in a call. -/
inductive Obtained {R : Type} (B : Base R) (H : Headers) : Devices → Prop
  | call (s : State R) (strategy : Strategy) (fromCache : Bool)
      (default : Single s.mDefaultOutputDevice)
      (kept : fromCache = true ∨ s.mPhoneState = .inCall →
        ∀ strategy, Obtained B H (s.mDeviceForStrategy strategy)) :
      Obtained B H (s.getDeviceForStrategy B H strategy fromCache)

/-! ### One device of a mask -/

variable {H : Headers} {device : Devices}

theorem popCount_of_oneBit (h : OneBit device) : ¬1 < popCount device := by
  unfold popCount
  rw [oneBit_iff_countP.1 h]
  exact Nat.lt_irrefl 1

theorem oneBit_of_popCount (hne : device ≠ 0) (h : ¬1 < popCount device) : OneBit device := by
  have hpos := countP_pos_of_ne_zero hne
  unfold popCount at h
  exact oneBit_iff_countP.2 (by omega)

section Bits

variable (hH : H.Distinct)

include hH

theorem Resolved.getDeviceForVolume (h : Resolved H device) :
    OneBit (getDeviceForVolume H device) := by
  have hspeaker := State.oneBit_speaker hH
  have hfm := State.oneBit_fm hH
  unfold Policy.getDeviceForVolume
  split
  next => exact hspeaker
  next hne =>
    split
    next hmany =>
      split
      next => exact hspeaker
      next hnospeaker =>
        rcases h with (h | h) | h | h
        · exact absurd h hne
        · exact absurd hmany (popCount_of_oneBit h)
        · exact absurd h hnospeaker
        · rw [if_pos h]
          exact hfm
    next hone => exact oneBit_of_popCount hne hone

end Bits

/-! ### What a strategy gets -/

theorem Resolved.of_within {mask : Devices} (hbit : OneBit mask)
    (hmask : mask = H.AUDIO_DEVICE_OUT_SPEAKER ∨ mask = H.AUDIO_DEVICE_OUT_FM)
    (h : Within mask device) : Resolved H device := by
  have hhas : device.has mask = true := decide_eq_true (hbit.within_iff.1 h)
  rcases hmask with rfl | rfl
  · exact .inr (.inl hhas)
  · exact .inr (.inr hhas)

theorem single_firstOf {l : List Devices} (h : ∀ d ∈ l, Single d) : Single (firstOf l) := by
  by_cases hne : firstOf l = 0
  · exact .inl hne
  · exact h _ (firstOf_mem hne)

theorem single_ite {p : Prop} [Decidable p] (h : Single device) : Single (if p then device else 0) := by
  split
  · exact h
  · exact .inl rfl

namespace State

variable {R : Type} {B : Base R} {s : State R}

section Bits

variable (hH : H.Distinct)

include hH

theorem single_out (hmem : device ∈ H.outputs) : Single (s.out device) := by
  by_cases hzero : s.out device = 0
  · exact .inl hzero
  · rw [out_eq hH hmem hzero]
    exact .inr (hH.oneBit device hmem)

theorem single_scoDevice (strategy : Strategy) : Single (s.scoDevice B H strategy) := by
  apply single_firstOf
  simp only [List.forall_mem_cons]
  refine ⟨single_ite (single_out hH ?_), single_out hH ?_, single_out hH ?_, by simp⟩
  all_goals simp [Headers.outputs, Headers.otherOutputs]

theorem single_phoneDefault (hd : Single s.mDefaultOutputDevice) : Single (s.phoneDefault B H) := by
  apply single_firstOf
  simp only [List.forall_mem_cons]
  refine ⟨single_ite (single_out hH ?_), single_ite (single_out hH ?_), single_out hH ?_,
    single_out hH ?_, single_out hH ?_, single_out hH ?_, single_out hH ?_, single_out hH ?_,
    single_out hH ?_, hd, by simp⟩
  all_goals simp [Headers.outputs, Headers.a2dpOutputs, Headers.otherOutputs]

theorem single_phoneSpeaker (hd : Single s.mDefaultOutputDevice) : Single (s.phoneSpeaker B H) := by
  apply single_firstOf
  simp only [List.forall_mem_cons]
  refine ⟨single_ite (single_out hH ?_), single_out hH ?_, single_out hH ?_, single_out hH ?_,
    single_out hH ?_, single_out hH ?_, hd, by simp⟩
  all_goals simp [Headers.outputs, Headers.a2dpOutputs, Headers.otherOutputs]

/-- The phone has one device. -/
theorem single_phoneDevice (hd : Single s.mDefaultOutputDevice) (strategy : Strategy) :
    Single (s.phoneDevice B H strategy) := by
  unfold phoneDevice
  dsimp only
  split
  · exact .inr (oneBit_speaker hH)
  · split
    · split
      · exact single_scoDevice hH strategy
      · exact single_phoneDefault hH hd
    · exact single_phoneSpeaker hH hd
    · exact single_phoneDefault hH hd

theorem single_mediaDevice2 : Single (s.mediaDevice2 B H) := by
  rw [mediaDevice2_eq]
  apply single_firstOf
  intro d hd
  obtain ⟨device, hchoice, rfl⟩ := List.mem_map.1 hd
  rcases mediaChoices_cases hchoice with hother | ⟨ha2dp, -⟩
  · exact single_out hH (List.mem_append_right _ hother)
  · exact single_out hH (List.mem_append_left _ ha2dp)

theorem single_speaker : Single (s.out H.AUDIO_DEVICE_OUT_SPEAKER) :=
  single_out hH (by simp [Headers.outputs, Headers.otherOutputs])

/-- A second device comes beside the speaker or alone. -/
theorem mediaForced_resolved (h : device = 0 ∨ device = s.out H.AUDIO_DEVICE_OUT_SPEAKER) :
    Single (s.mediaForced B H device) ∨
      Within H.AUDIO_DEVICE_OUT_SPEAKER (s.mediaForced B H device) := by
  unfold mediaForced
  split
  · exact .inl (single_speaker hH)
  · dsimp only
    split
    next =>
      by_cases hzero : device = 0
      · have he : device ||| s.mediaDevice2 B H = s.mediaDevice2 B H := by
          rw [hzero]
          exact BitVec.zero_or
        rw [he]
        exact .inl (single_mediaDevice2 hH)
      · obtain rfl := h.resolve_left hzero
        rw [out_eq hH (by simp [Headers.outputs, Headers.otherOutputs]) hzero]
        exact .inr (within_or_left ..)
    next => exact .inl (single_speaker hH)

/-- FM is there if it is added, or else the speaker alone. -/
theorem withFm_resolved (h : Single device ∨ Within H.AUDIO_DEVICE_OUT_SPEAKER device) :
    Resolved H (s.withFm H device) := by
  have hfm := oneBit_fm hH
  have hadded := within_or_right device H.AUDIO_DEVICE_OUT_FM
  unfold withFm
  split
  · dsimp only
    split
    · split
      · exact .inl (.inr (oneBit_speaker hH))
      · split
        · exact .of_within hfm (.inr rfl) (hadded.and_not (fm_and_headset hH))
        · exact .of_within hfm (.inr rfl) hadded
    · exact .of_within hfm (.inr rfl) hadded
  · rcases h with h | h
    · exact .inl h
    · exact .of_within (oneBit_speaker hH) (.inl rfl) h

/-- In a call the media device may be the one kept for the phone. -/
theorem mediaDevice_resolved (strategy : Strategy)
    (hkept : s.mPhoneState = .inCall → Resolved H (s.mDeviceForStrategy .phone))
    (h : device = 0 ∨ device = s.out H.AUDIO_DEVICE_OUT_SPEAKER) :
    Resolved H (s.mediaDevice B H strategy device) := by
  have hmedia := withFm_resolved (s := s) hH (mediaForced_resolved (B := B) hH h)
  unfold mediaDevice
  dsimp only
  split
  next hcall =>
    split
    · exact hmedia
    · exact hkept hcall.1
  · exact hmedia

theorem audibleDevice_resolved (strategy : Strategy)
    (hkept : s.mPhoneState = .inCall → Resolved H (s.mDeviceForStrategy .phone)) :
    Resolved H (s.audibleDevice B H strategy) := by
  unfold audibleDevice
  dsimp only
  generalize hdevice : (if strategy = .sonification ∨ s.mCanBeMuted = false then
    s.out H.AUDIO_DEVICE_OUT_SPEAKER else 0) = device
  have hcases : device = 0 ∨ device = s.out H.AUDIO_DEVICE_OUT_SPEAKER := by
    rw [← hdevice]
    split
    · exact .inr rfl
    · exact .inl rfl
  split
  · rcases hcases with rfl | rfl
    · exact .inl (.inl rfl)
    · exact .inl (single_speaker hH)
  · exact mediaDevice_resolved hH strategy hkept hcases

theorem sonificationDevice_resolved (hd : Single s.mDefaultOutputDevice)
    (hkept : s.mPhoneState = .inCall → Resolved H (s.mDeviceForStrategy .phone)) :
    Resolved H (s.sonificationDevice B H) := by
  unfold sonificationDevice
  split
  · exact .inl (single_phoneDevice hH hd .phone)
  · exact audibleDevice_resolved hH .sonification hkept

/-- Every strategy gets a mask that is resolved, if what is kept for the phone in a call is. -/
theorem getDeviceForStrategy_resolved (strategy : Strategy) (hd : Single s.mDefaultOutputDevice)
    (hkept : s.mPhoneState = .inCall → Resolved H (s.mDeviceForStrategy .phone)) :
    Resolved H (s.getDeviceForStrategy B H strategy false) := by
  have hmedia : Resolved H (s.mediaDevice B H .media 0) :=
    mediaDevice_resolved hH .media hkept (.inl rfl)
  have hsonification := sonificationDevice_resolved (B := B) hH hd hkept
  unfold getDeviceForStrategy
  rw [if_neg Bool.false_ne_true]
  cases strategy with
  | media => exact hmedia
  | phone => exact .inl (single_phoneDevice hH hd .phone)
  | sonification => exact hsonification
  | sonificationRespectful =>
    dsimp only
    split_ifs
    · exact hsonification
    · exact hsonification
    · exact hmedia
    · exact hsonification
  | dtmf =>
    dsimp only
    split
    · exact .inl (single_phoneDevice hH hd .dtmf)
    · exact hmedia
  | enforcedAudible => exact audibleDevice_resolved hH .enforcedAudible hkept
  | other code => exact .inl (.inl rfl)

end Bits

end State

section Obtained

variable {R : Type} {B : Base R} (hH : H.Distinct)

include hH

/-- What is obtained is resolved: the induction is over the states that kept what this one reads. -/
theorem Obtained.resolved (h : Obtained B H device) : Resolved H device := by
  induction h with
  | call s strategy fromCache hd _ ih =>
    cases fromCache with
    | true => exact ih (.inl rfl) strategy
    | false =>
      exact State.getDeviceForStrategy_resolved hH strategy hd fun hcall => ih (.inr hcall) .phone

namespace State

/-- **The volume is taken from one device.** In every state that has kept what was obtained before,
every strategy gets a mask that `getDeviceForVolume` makes a single device of. -/
theorem getDeviceForVolume_oneBit (s : State R) (strategy : Strategy)
    (hd : Single s.mDefaultOutputDevice)
    (hkept : s.mPhoneState = .inCall → ∀ strategy, Obtained B H (s.mDeviceForStrategy strategy)) :
    OneBit (getDeviceForVolume H (s.getDeviceForStrategy B H strategy false)) := by
  have hresolved := getDeviceForStrategy_resolved (B := B) hH strategy hd
    fun hcall => (hkept hcall .phone).resolved hH
  exact hresolved.getDeviceForVolume hH

end State

end Obtained

namespace State

/-- A call has begun with the speaker, the headphone and FM there, and what was chosen before is kept. -/
def callDevices : State Unit :=
  { plainDevices 0x8000A with
    mPhoneState := .inCall
    mCanBeMuted := true
    mDeviceForStrategy strategy :=
      (plainDevices 0x8000A).getDeviceForStrategy .plain .plain strategy false }

/-- What is enforced to be audible goes to the headphone, where the phone was before. -/
theorem getDeviceForVolume_call :
    OneBit (getDeviceForVolume .plain
      (callDevices.getDeviceForStrategy .plain .plain .enforcedAudible false)) := by
  have hbefore : Single (plainDevices 0x8000A).mDefaultOutputDevice := .inr (by decide +kernel)
  have hidle : (plainDevices 0x8000A).mPhoneState ≠ .inCall := by decide +kernel
  refine getDeviceForVolume_oneBit distinct_plain callDevices .enforcedAudible
    (.inr (by decide +kernel)) fun _ strategy => ?_
  exact .call (plainDevices 0x8000A) strategy false hbefore fun h =>
    h.elim (fun h => by cases h) fun h => absurd h hidle

end State

end Msm7x27a.Policy
