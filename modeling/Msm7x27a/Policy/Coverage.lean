import Msm7x27a.Policy.Strategy
import Msm7x27a.Lib.Bits

/-!
# A device for every strategy

Which strategies get a device that is available or the default one.  `Covered` says for each of them,
by its own cases, when the search for a device ends with one.
-/

namespace Msm7x27a.Policy

open Msm7x27a.Route (Devices)
open Msm7x27a.Bits

/-- The A2DP devices for output. -/
def Headers.a2dpOutputs (H : Headers) : List Devices :=
  [H.AUDIO_DEVICE_OUT_BLUETOOTH_A2DP, H.AUDIO_DEVICE_OUT_BLUETOOTH_A2DP_HEADPHONES,
    H.AUDIO_DEVICE_OUT_BLUETOOTH_A2DP_SPEAKER]

def Headers.otherOutputs (H : Headers) : List Devices :=
  [H.AUDIO_DEVICE_OUT_EARPIECE, H.AUDIO_DEVICE_OUT_SPEAKER, H.AUDIO_DEVICE_OUT_WIRED_HEADSET,
    H.AUDIO_DEVICE_OUT_WIRED_HEADPHONE, H.AUDIO_DEVICE_OUT_BLUETOOTH_SCO,
    H.AUDIO_DEVICE_OUT_BLUETOOTH_SCO_HEADSET, H.AUDIO_DEVICE_OUT_BLUETOOTH_SCO_CARKIT,
    H.AUDIO_DEVICE_OUT_AUX_DIGITAL, H.AUDIO_DEVICE_OUT_ANLG_DOCK_HEADSET,
    H.AUDIO_DEVICE_OUT_DGTL_DOCK_HEADSET, H.AUDIO_DEVICE_OUT_USB_ACCESSORY,
    H.AUDIO_DEVICE_OUT_USB_DEVICE, H.AUDIO_DEVICE_OUT_FM]

/-- The output devices. -/
def Headers.outputs (H : Headers) : List Devices := H.a2dpOutputs ++ H.otherOutputs

/-- Each output device is a bit of its own. -/
structure Headers.Distinct (H : Headers) : Prop where
  oneBit : ∀ d ∈ H.outputs, OneBit d
  nodup : H.outputs.Nodup

theorem firstOf_ne_zero {l : List Devices} : firstOf l ≠ 0 ↔ ∃ d ∈ l, d ≠ 0 := by
  induction l with
  | nil => simp [firstOf]
  | cons d l ih =>
    unfold firstOf
    split
    next hd => exact iff_of_true hd ⟨d, List.mem_cons_self .., hd⟩
    next hd =>
      rw [ih, List.exists_mem_cons_iff]
      exact (or_iff_right hd).symm

theorem firstOf_within {l : List Devices} {mask : Devices} (h : ∀ d ∈ l, Within d mask) :
    Within (firstOf l) mask := by
  induction l with
  | nil => exact within_zero mask
  | cons d l ih =>
    unfold firstOf
    split
    · exact h d (List.mem_cons_self ..)
    · exact ih fun d' h' => h d' (List.mem_cons_of_mem _ h')

/-- The device that is found is in the list. -/
theorem firstOf_mem {l : List Devices} (h : firstOf l ≠ 0) : firstOf l ∈ l := by
  induction l with
  | nil => exact absurd rfl h
  | cons d l ih =>
    unfold firstOf at h ⊢
    split
    · exact List.mem_cons_self ..
    next hd =>
      rw [if_neg hd] at h
      exact List.mem_cons_of_mem _ (ih h)

theorem firstOf_append (l l' : List Devices) :
    firstOf (l ++ l') = if firstOf l ≠ 0 then firstOf l else firstOf l' := by
  induction l with
  | nil => rfl
  | cons d l ih =>
    have hcons : ∀ l, firstOf (d :: l) = if d ≠ 0 then d else firstOf l := fun _ => rfl
    rw [List.cons_append, hcons, hcons, ih]
    by_cases hd : d ≠ 0
    · rw [if_pos hd, if_pos hd, if_pos hd]
    · rw [if_neg hd, if_neg hd]

namespace State

section Defs

variable {R : Type} (B : Base R) (H : Headers) (s : State R)

/-- There is a device, and all that there is is available or the default one. -/
def Playable (device : Devices) : Prop :=
  device ≠ 0 ∧ Within device (s.mAvailableOutputDevices ||| s.mDefaultOutputDevice)

/-- One of the devices is available. -/
def finds (devices : List Devices) : Bool := devices.any fun device => s.out device ≠ 0

/-- The devices that media may be played to, unless the speaker is forced. -/
def mediaChoices : List Devices :=
  (if s.a2dpForMedia B ∧ s.fmMode ≠ .analog then H.a2dpOutputs else []) ++
    [H.AUDIO_DEVICE_OUT_WIRED_HEADPHONE, H.AUDIO_DEVICE_OUT_WIRED_HEADSET,
      H.AUDIO_DEVICE_OUT_USB_ACCESSORY, H.AUDIO_DEVICE_OUT_USB_DEVICE,
      H.AUDIO_DEVICE_OUT_DGTL_DOCK_HEADSET, H.AUDIO_DEVICE_OUT_AUX_DIGITAL,
      H.AUDIO_DEVICE_OUT_ANLG_DOCK_HEADSET, H.AUDIO_DEVICE_OUT_SPEAKER]

/-- FM is available, or a device for media. -/
def MediaCovered : Prop :=
  s.out H.AUDIO_DEVICE_OUT_FM ≠ 0 ∨
    if s.mForceUse .media = .speaker then s.out H.AUDIO_DEVICE_OUT_SPEAKER ≠ 0
    else s.finds (s.mediaChoices B H)

/-- The speaker that a call is put on with FM is there. -/
def PhoneCovered : Prop :=
  s.out H.AUDIO_DEVICE_OUT_FM ≠ 0 → s.mForceUse .media = .speaker →
    (s.mAvailableOutputDevices ||| s.mDefaultOutputDevice).has H.AUDIO_DEVICE_OUT_SPEAKER = true

/-- Beside analog FM the speaker is the only choice. -/
def SonificationCovered : Prop :=
  if B.isInCall s.mPhoneState then s.PhoneCovered H
  else if s.fmMode = .analog then s.out H.AUDIO_DEVICE_OUT_SPEAKER ≠ 0
  else s.MediaCovered B H

/-- Media is played to an A2DP device alone. -/
def MediaA2dp : Prop :=
  s.out H.AUDIO_DEVICE_OUT_FM = 0 ∧ s.mForceUse .media ≠ .speaker ∧ s.a2dpForMedia B = true ∧
    s.fmMode ≠ .analog ∧ s.finds H.a2dpOutputs

instance : Decidable (s.MediaA2dp B H) := by unfold MediaA2dp; infer_instance

/-- Beside analog FM nothing is chosen for what may be muted; in a call it takes the device of the
phone. -/
def AudibleCovered : Prop :=
  if s.fmMode = .analog then s.mCanBeMuted = false ∧ s.out H.AUDIO_DEVICE_OUT_SPEAKER ≠ 0
  else if s.mPhoneState = .inCall ∧ s.mCanBeMuted = true ∧ ¬s.MediaA2dp B H then s.PhoneCovered H
  else s.MediaCovered B H

/-- The search for a device of the strategy ends with one. -/
def Covered (strategy : Strategy) : Prop :=
  match strategy with
  | .media => s.MediaCovered B H
  | .phone => s.PhoneCovered H
  | .sonification => s.SonificationCovered B H
  | .sonificationRespectful =>
    if B.isInCall s.mPhoneState = false ∧ B.isMusicActiveRemotely s = false ∧ B.isMusicActive s then
      s.MediaCovered B H
    else s.SonificationCovered B H
  | .dtmf => if B.isInCall s.mPhoneState then s.PhoneCovered H else s.MediaCovered B H
  | .enforcedAudible => s.AudibleCovered B H
  | .other _ => False

end Defs

variable {R : Type} {B : Base R} {H : Headers} {s : State R} {device : Devices}

theorem out_within (device : Devices) : Within (s.out device) s.mAvailableOutputDevices :=
  within_and_left ..

theorem within_playable (h : Within device s.mAvailableOutputDevices) :
    Within device (s.mAvailableOutputDevices ||| s.mDefaultOutputDevice) :=
  h.trans (within_or_left ..)

/-! ### Media -/

/-- The second device is the first of the choices that is available. -/
theorem mediaDevice2_eq : s.mediaDevice2 B H = firstOf ((s.mediaChoices B H).map s.out) := by
  unfold mediaDevice2 mediaChoices Headers.a2dpOutputs
  by_cases ha2dp : s.a2dpForMedia B ∧ s.fmMode ≠ .analog
  · simp only [if_pos ha2dp]
    rfl
  · simp only [if_neg ha2dp]
    rfl

theorem finds_iff {devices : List Devices} :
    s.finds devices = true ↔ ∃ device ∈ devices, s.out device ≠ 0 := by
  unfold finds
  rw [List.any_eq_true]
  simp only [decide_eq_true_eq]

/-- The search ends with a device if one of the list is available. -/
theorem firstOf_out {devices : List Devices} :
    firstOf (devices.map s.out) ≠ 0 ↔ s.finds devices = true := by
  rw [firstOf_ne_zero, finds_iff]
  simp

theorem mediaDevice2_ne_zero : s.mediaDevice2 B H ≠ 0 ↔ s.finds (s.mediaChoices B H) = true := by
  rw [mediaDevice2_eq, firstOf_out]

theorem mediaDevice2_within : Within (s.mediaDevice2 B H) s.mAvailableOutputDevices := by
  rw [mediaDevice2_eq]
  apply firstOf_within
  intro d hd
  obtain ⟨device, -, rfl⟩ := List.mem_map.1 hd
  exact out_within device

theorem mediaForced_within (h : Within device s.mAvailableOutputDevices) :
    Within (s.mediaForced B H device) s.mAvailableOutputDevices := by
  unfold mediaForced
  split
  · exact out_within _
  · dsimp only
    split
    · exact h.or mediaDevice2_within
    · exact out_within _

/-- A device that sonification brings along is the speaker, which is the last choice anyway. -/
theorem mediaForced_ne_zero (h : device = 0 ∨ device = s.out H.AUDIO_DEVICE_OUT_SPEAKER) :
    s.mediaForced B H device ≠ 0 ↔
      if s.mForceUse .media = .speaker then s.out H.AUDIO_DEVICE_OUT_SPEAKER ≠ 0
      else s.finds (s.mediaChoices B H) = true := by
  have hspeaker : s.out H.AUDIO_DEVICE_OUT_SPEAKER ≠ 0 → s.mediaDevice2 B H ≠ 0 := by
    intro hs
    refine mediaDevice2_ne_zero.2 (finds_iff.2 ⟨_, ?_, hs⟩)
    exact List.mem_append_right _ (by simp)
  have hdevice : device ≠ 0 → s.mediaDevice2 B H ≠ 0 := by
    intro hne
    rcases h with rfl | rfl
    · exact absurd rfl hne
    · exact hspeaker hne
  unfold mediaForced
  split
  next hforce => rw [if_pos hforce]
  next hforce =>
    rw [if_neg hforce, ← mediaDevice2_ne_zero]
    dsimp only
    split
    next hne =>
      refine iff_of_true hne ?_
      rcases or_ne_zero.1 hne with hd | hd
      · exact hdevice hd
      · exact hd
    next hzero =>
      have hnone : ¬s.mediaDevice2 B H ≠ 0 := fun hd => hzero (or_ne_zero.2 (.inr hd))
      exact iff_of_false (fun hs => hnone (hspeaker hs)) hnone

section Bits

variable (hH : H.Distinct)

include hH

theorem oneBit_fm : OneBit H.AUDIO_DEVICE_OUT_FM :=
  hH.oneBit _ (by simp [Headers.outputs, Headers.otherOutputs])

theorem oneBit_speaker : OneBit H.AUDIO_DEVICE_OUT_SPEAKER :=
  hH.oneBit _ (by simp [Headers.outputs, Headers.otherOutputs])

theorem oneBit_headset : OneBit H.AUDIO_DEVICE_OUT_WIRED_HEADSET :=
  hH.oneBit _ (by simp [Headers.outputs, Headers.otherOutputs])

/-- FM is no headset. -/
theorem fm_and_headset : H.AUDIO_DEVICE_OUT_FM &&& H.AUDIO_DEVICE_OUT_WIRED_HEADSET = 0 := by
  refine (oneBit_fm hH).and_eq_zero (oneBit_headset hH) ?_
  intro e
  have hnodup := (List.nodup_append.1 hH.nodup).2.1
  simp [Headers.otherOutputs, e] at hnodup

/-- FM is added, and beside analog FM the headset is left out. -/
theorem withFm_within (h : Within device s.mAvailableOutputDevices) :
    Within (s.withFm H device) s.mAvailableOutputDevices := by
  unfold withFm
  split
  next hfm =>
    have hboth : Within (device ||| H.AUDIO_DEVICE_OUT_FM) s.mAvailableOutputDevices :=
      h.or ((oneBit_fm hH).within_iff.2 hfm)
    dsimp only
    split
    · split
      next he =>
        rw [he] at hboth
        refine Within.trans ?_ hboth
        exact (within_or_left ..).trans (within_or_left ..)
      next =>
        split
        · exact (within_and_left ..).trans hboth
        · exact hboth
    · exact hboth
  next => exact h

theorem withFm_ne_zero : s.withFm H device ≠ 0 ↔ s.out H.AUDIO_DEVICE_OUT_FM ≠ 0 ∨ device ≠ 0 := by
  unfold withFm
  split
  next hfm =>
    refine iff_of_true ?_ (.inl hfm)
    have hbit := (oneBit_fm hH).ne_zero
    dsimp only
    split
    · split
      · exact (oneBit_speaker hH).ne_zero
      next =>
        split
        · refine Within.ne_zero ?_ hbit
          exact (within_or_right ..).and_not (fm_and_headset hH)
        · exact or_ne_zero.2 (.inr hbit)
    · exact or_ne_zero.2 (.inr hbit)
  next hfm =>
    rw [not_not] at hfm
    exact ⟨.inr, fun h => h.resolve_left (not_not.2 hfm)⟩

/-- The media device: available, and there if one of its choices is. -/
theorem media_within (h : Within device s.mAvailableOutputDevices) :
    Within (s.withFm H (s.mediaForced B H device)) s.mAvailableOutputDevices :=
  withFm_within hH (mediaForced_within h)

theorem media_playable (h : device = 0 ∨ device = s.out H.AUDIO_DEVICE_OUT_SPEAKER) :
    s.Playable (s.withFm H (s.mediaForced B H device)) ↔ s.MediaCovered B H := by
  have hwithin : Within device s.mAvailableOutputDevices := by
    rcases h with rfl | rfl
    · exact within_zero _
    · exact out_within _
  unfold Playable MediaCovered
  rw [withFm_ne_zero hH, mediaForced_ne_zero h]
  exact and_iff_left (within_playable (media_within hH hwithin))

/-! ### The phone -/

omit hH in
/-- A list of available devices that ends with the default one has a first device. -/
theorem firstOf_playable {l : List Devices} (hd : s.mDefaultOutputDevice ≠ 0)
    (hmem : s.mDefaultOutputDevice ∈ l)
    (h : ∀ d ∈ l, (∃ device, d = s.out device) ∨ d = 0 ∨ d = s.mDefaultOutputDevice) :
    s.Playable (firstOf l) := by
  refine ⟨firstOf_ne_zero.2 ⟨_, hmem, hd⟩, firstOf_within ?_⟩
  intro d hdl
  rcases h d hdl with ⟨device, rfl⟩ | rfl | rfl
  · exact within_playable (out_within device)
  · exact within_zero _
  · exact within_or_right ..

omit hH in
theorem phoneDefault_playable (hd : s.mDefaultOutputDevice ≠ 0) :
    s.Playable (s.phoneDefault B H) := by
  unfold phoneDefault
  dsimp only
  refine firstOf_playable hd (by simp) ?_
  intro d hmem
  simp only [List.mem_cons, List.not_mem_nil, or_false] at hmem
  rcases hmem with rfl | rfl | rfl | rfl | rfl | rfl | rfl | rfl | rfl | rfl
  all_goals first
    | exact .inl ⟨_, rfl⟩
    | exact .inr (.inr rfl)
    | split
      · exact .inl ⟨_, rfl⟩
      · exact .inr (.inl rfl)

omit hH in
theorem phoneSpeaker_playable (hd : s.mDefaultOutputDevice ≠ 0) :
    s.Playable (s.phoneSpeaker B H) := by
  unfold phoneSpeaker
  refine firstOf_playable hd (by simp) ?_
  intro d hmem
  simp only [List.mem_cons, List.not_mem_nil, or_false] at hmem
  rcases hmem with rfl | rfl | rfl | rfl | rfl | rfl | rfl
  all_goals first
    | exact .inl ⟨_, rfl⟩
    | exact .inr (.inr rfl)
    | split
      · exact .inl ⟨_, rfl⟩
      · exact .inr (.inl rfl)

omit hH in
theorem scoDevice_within (strategy : Strategy) :
    Within (s.scoDevice B H strategy) s.mAvailableOutputDevices := by
  unfold scoDevice
  apply firstOf_within
  intro d hmem
  simp only [List.mem_cons, List.not_mem_nil, or_false] at hmem
  rcases hmem with rfl | rfl | rfl
  · split
    · exact out_within _
    · exact within_zero _
  · exact out_within _
  · exact out_within _

/-- The phone has a device by its own choices; the speaker that FM puts it on may be missing. -/
theorem phone_playable (hd : s.mDefaultOutputDevice ≠ 0) (strategy : Strategy) :
    s.Playable (s.phoneDevice B H strategy) ↔ s.PhoneCovered H := by
  unfold phoneDevice PhoneCovered
  dsimp only
  split
  next hspeaker =>
    have hbit := oneBit_speaker hH
    unfold Playable Devices.has
    rw [hbit.within_iff, decide_eq_true_eq]
    exact ⟨fun h _ _ => h.2, fun h => ⟨hbit.ne_zero, h hspeaker.1 hspeaker.2⟩⟩
  next hno =>
    refine iff_of_true ?_ fun hfm hforce => absurd ⟨hfm, hforce⟩ hno
    split
    · split
      next hne => exact ⟨hne, within_playable (scoDevice_within strategy)⟩
      next => exact phoneDefault_playable hd
    · exact phoneSpeaker_playable hd
    · exact phoneDefault_playable hd

/-! ### The strategies -/

theorem sonification_playable (hd : s.mDefaultOutputDevice ≠ 0) :
    s.Playable (s.sonificationDevice B H) ↔ s.SonificationCovered B H := by
  unfold sonificationDevice SonificationCovered
  split
  · exact phone_playable hH hd .phone
  · have hspeaker : (if Strategy.sonification = .sonification ∨ s.mCanBeMuted = false then
        s.out H.AUDIO_DEVICE_OUT_SPEAKER else 0) = s.out H.AUDIO_DEVICE_OUT_SPEAKER :=
      if_pos (.inl rfl)
    unfold audibleDevice
    dsimp only
    rw [hspeaker]
    split
    · exact and_iff_left (within_playable (out_within _))
    · unfold mediaDevice
      dsimp only
      rw [if_neg (by simp)]
      exact media_playable hH (.inr rfl)

/-- An output device that is available is the whole of what is found of it. -/
theorem out_eq (hmem : device ∈ H.outputs) (hne : s.out device ≠ 0) : s.out device = device :=
  ((hH.oneBit device hmem).and_eq _).resolve_left hne

/-- The device is not one for A2DP. -/
theorem not_mem_a2dpOutputs (h : device ∈ H.otherOutputs) : device ∉ H.a2dpOutputs := fun ha2dp =>
  List.disjoint_of_nodup_append hH.nodup ha2dp h

omit hH in
theorem mediaChoices_cases (h : device ∈ s.mediaChoices B H) :
    device ∈ H.otherOutputs ∨ device ∈ H.a2dpOutputs ∧ s.a2dpForMedia B = true := by
  have hrest : ∀ d ∈ [H.AUDIO_DEVICE_OUT_WIRED_HEADPHONE, H.AUDIO_DEVICE_OUT_WIRED_HEADSET,
      H.AUDIO_DEVICE_OUT_USB_ACCESSORY, H.AUDIO_DEVICE_OUT_USB_DEVICE,
      H.AUDIO_DEVICE_OUT_DGTL_DOCK_HEADSET, H.AUDIO_DEVICE_OUT_AUX_DIGITAL,
      H.AUDIO_DEVICE_OUT_ANLG_DOCK_HEADSET, H.AUDIO_DEVICE_OUT_SPEAKER], d ∈ H.otherOutputs := by
    simp [Headers.otherOutputs]
  unfold mediaChoices at h
  rcases List.mem_append.1 h with h | h
  · split at h
    next ha2dp => exact .inr ⟨h, ha2dp.1⟩
    next => cases h
  · exact .inl (hrest device h)

/-- Beside FM no single device is left. -/
theorem out_fm_of_a2dp (hfm : s.fmMode ≠ .analog) (h : s.withFm H device ∈ H.a2dpOutputs) :
    s.out H.AUDIO_DEVICE_OUT_FM = 0 := by
  by_contra hne
  unfold withFm at h
  rw [if_pos hne] at h
  dsimp only at h
  rw [if_neg hfm] at h
  have hbit : OneBit (device ||| H.AUDIO_DEVICE_OUT_FM) :=
    hH.oneBit _ (List.mem_append_left _ h)
  have hother : H.AUDIO_DEVICE_OUT_FM ∈ H.otherOutputs := by simp [Headers.otherOutputs]
  have hboth := (oneBit_fm hH).within_iff.1 (within_or_right device H.AUDIO_DEVICE_OUT_FM)
  refine hboth (hbit.and_eq_zero (oneBit_fm hH) ?_)
  intro e
  exact not_mem_a2dpOutputs hH hother (e ▸ h)

/-- Media is played to an A2DP device alone if one of them is the first choice. -/
theorem isA2dpDevice_media (hB : ∀ d, B.isA2dpDevice d = true ↔ d ∈ H.a2dpOutputs)
    (hfm : s.fmMode ≠ .analog) :
    B.isA2dpDevice (s.withFm H (s.mediaForced B H 0)) = true ↔ s.MediaA2dp B H := by
  have hspeaker : s.out H.AUDIO_DEVICE_OUT_SPEAKER ∉ H.a2dpOutputs := by
    have hother : H.AUDIO_DEVICE_OUT_SPEAKER ∈ H.otherOutputs := by simp [Headers.otherOutputs]
    intro h
    have hne := (hH.oneBit _ (List.mem_append_left _ h)).ne_zero
    rw [out_eq hH (List.mem_append_right _ hother) hne] at h
    exact not_mem_a2dpOutputs hH hother h
  have hzero : ∀ x : Devices, 0 ||| x = x := fun x => BitVec.zero_or
  have hnofm : s.out H.AUDIO_DEVICE_OUT_FM = 0 → ∀ d, s.withFm H d = d :=
    fun h d => if_neg (not_not.2 h)
  rw [hB]
  constructor
  · intro hdev
    have hnone := out_fm_of_a2dp hH hfm hdev
    rw [hnofm hnone] at hdev
    unfold mediaForced at hdev
    split at hdev
    next => exact absurd hdev hspeaker
    next hforce =>
      dsimp only at hdev
      rw [hzero] at hdev
      split at hdev
      next hne =>
        rw [mediaDevice2_eq] at hne hdev
        obtain ⟨d, hchoice, hout⟩ := List.mem_map.1 (firstOf_mem hne)
        rw [← hout] at hne hdev
        rcases mediaChoices_cases hchoice with hother | ⟨ha2dp, hmedia⟩
        · rw [out_eq hH (List.mem_append_right _ hother) hne] at hdev
          exact absurd hdev (not_mem_a2dpOutputs hH hother)
        · exact ⟨hnone, hforce, hmedia, hfm, finds_iff.2 ⟨d, ha2dp, hne⟩⟩
      next => exact absurd hdev hspeaker
  · rintro ⟨hnone, hforce, hmedia, -, hfinds⟩
    have hfirst : firstOf (H.a2dpOutputs.map s.out) ≠ 0 := firstOf_out.2 hfinds
    have hchoices : s.mediaDevice2 B H = firstOf (H.a2dpOutputs.map s.out) := by
      rw [mediaDevice2_eq, mediaChoices, if_pos ⟨hmedia, hfm⟩, List.map_append, firstOf_append,
        if_pos hfirst]
    obtain ⟨d', ha2dp', hout⟩ := List.mem_map.1 (firstOf_mem hfirst)
    have hdev : s.mediaForced B H 0 = d' := by
      unfold mediaForced
      split
      next hspk => exact absurd hspk hforce
      next =>
        dsimp only
        rw [hzero, hchoices, if_pos hfirst, ← hout]
        exact out_eq hH (List.mem_append_left _ ha2dp') (hout ▸ hfirst)
    rw [hnofm hnone, hdev]
    exact ha2dp'

/-- What is enforced to be audible: on the speaker, with the media, or where the phone is. -/
theorem audible_playable (hd : s.mDefaultOutputDevice ≠ 0)
    (hB : ∀ d, B.isA2dpDevice d = true ↔ d ∈ H.a2dpOutputs)
    (hcache : s.mDeviceForStrategy .phone = s.getDeviceForStrategy B H .phone false) :
    s.Playable (s.audibleDevice B H .enforcedAudible) ↔ s.AudibleCovered B H := by
  have hphone : s.mDeviceForStrategy .phone = s.phoneDevice B H .phone := hcache
  have hspeaker : (if Strategy.enforcedAudible = .sonification ∨ s.mCanBeMuted = false then
      s.out H.AUDIO_DEVICE_OUT_SPEAKER else 0) =
        if s.mCanBeMuted = false then s.out H.AUDIO_DEVICE_OUT_SPEAKER else 0 := by simp
  unfold audibleDevice AudibleCovered
  dsimp only
  rw [hspeaker]
  split
  next =>
    split
    next hmute =>
      rw [and_iff_right hmute]
      exact and_iff_left (within_playable (out_within _))
    next hmute => exact iff_of_false (fun h => h.1 rfl) fun h => hmute h.1
  next hfm =>
    unfold mediaDevice
    dsimp only
    cases hmute : s.mCanBeMuted with
    | false =>
      simp only [if_true, Bool.false_eq_true, false_and, and_false, if_false, ite_self]
      exact media_playable hH (.inr rfl)
    | true =>
      simp only [Bool.true_eq_false, if_false, and_true, true_and]
      simp only [← isA2dpDevice_media hH hB hfm, Bool.not_eq_true, hphone]
      split
      next hcall =>
        rw [if_pos ⟨hcall.1, hcall.2.1⟩]
        exact phone_playable hH hd .phone
      next hno =>
        split
        next hcall =>
          have he : s.withFm H (s.mediaForced B H 0) = s.phoneDevice B H .phone := by
            by_contra hne
            exact hno ⟨hcall.1, hcall.2, hne⟩
          rw [he]
          exact phone_playable hH hd .phone
        next => exact media_playable hH (.inl rfl)

/-- **A device for every strategy.** With a default device, a strategy gets a device that is available
or the default one if and only if it is covered. -/
theorem playable_iff (strategy : Strategy) (hd : s.mDefaultOutputDevice ≠ 0)
    (hB : ∀ d, B.isA2dpDevice d = true ↔ d ∈ H.a2dpOutputs)
    (hcache : s.mDeviceForStrategy .phone = s.getDeviceForStrategy B H .phone false) :
    s.Playable (s.getDeviceForStrategy B H strategy false) ↔ s.Covered B H strategy := by
  have hmedia : s.Playable (s.mediaDevice B H .media 0) ↔ s.MediaCovered B H := by
    unfold mediaDevice
    dsimp only
    rw [if_neg (by simp)]
    exact media_playable hH (.inl rfl)
  unfold getDeviceForStrategy Covered
  rw [if_neg Bool.false_ne_true]
  cases strategy with
  | media => exact hmedia
  | phone => exact phone_playable hH hd .phone
  | sonification => exact sonification_playable hH hd
  | sonificationRespectful =>
    dsimp only
    cases hcall : B.isInCall s.mPhoneState with
    | true => simpa using sonification_playable hH hd
    | false =>
      cases hremote : B.isMusicActiveRemotely s with
      | true => simpa using sonification_playable hH hd
      | false =>
        cases hactive : B.isMusicActive s with
        | true => simpa using hmedia
        | false => simpa using sonification_playable hH hd
  | dtmf =>
    dsimp only
    split
    · exact phone_playable hH hd .dtmf
    · exact hmedia
  | enforcedAudible => exact audible_playable hH hd hB hcache
  | other code => exact iff_of_false (fun h => h.1 rfl) id

end Bits

end State

/-! ### The plain policy -/

theorem distinct_plain : Headers.plain.Distinct where
  oneBit := by
    have hall : (Headers.plain.outputs.all fun d => decide (OneBit d)) = true := by decide +kernel
    exact fun d hd => of_decide_eq_true (List.all_eq_true.1 hall d hd)
  nodup := by decide

theorem isA2dpDevice_plain (d : Devices) :
    Base.plain.isA2dpDevice d = true ↔ d ∈ Headers.plain.a2dpOutputs := by
  have hmasks : ∀ k < 8, oneOf 0x380 (BitVec.ofNat 32 (k * 128)) = true →
      BitVec.ofNat 32 (k * 128) ∈ [0x80, 0x100, (0x200 : Devices)] := by
    decide +kernel
  constructor
  · intro h
    have hbits : Within d 0x380 := by
      simp only [Base.plain, oneOf, decide_eq_true_eq] at h
      exact h.2.2
    have hle : d.toNat ≤ 0x380 := by
      rw [← hbits.and_eq, BitVec.toNat_and]
      exact Nat.and_le_left
    -- the bits of the mask are above the lowest seven
    have hlow : d &&& 0x7f = 0 := calc
      d &&& 0x7f = d &&& 0x380 &&& 0x7f := by rw [BitVec.and_comm d 0x380, hbits.and_eq]
      _ = 0 := by rw [BitVec.and_assoc]; exact BitVec.and_zero
    have hmod : d.toNat % 128 = 0 :=
      (Nat.and_two_pow_sub_one_eq_mod d.toNat 7).symm.trans (congrArg BitVec.toNat hlow)
    have hd := hmasks (d.toNat / 128) (by omega)
    rw [Nat.div_mul_cancel (Nat.dvd_of_mod_eq_zero hmod)] at hd
    rw [BitVec.ofNat_toNat, BitVec.setWidth_eq] at hd
    exact hd h
  · intro h
    have hall : Headers.plain.a2dpOutputs.all Base.plain.isA2dpDevice = true := by decide
    exact List.all_eq_true.1 hall d h

namespace State

/-- The earpiece is available and the speaker, if it is asked for, and the phone has the earpiece. -/
def plainDevices (devices : Devices) : State Unit :=
  { plain with
    mAvailableOutputDevices := devices
    mDefaultOutputDevice := 0x1
    mDeviceForStrategy _ := 0x1 }

/-- Media goes to the speaker. -/
theorem playable_speaker :
    (plainDevices 0x3).Playable ((plainDevices 0x3).getDeviceForStrategy .plain .plain .media false) := by
  have hd : (plainDevices 0x3).mDefaultOutputDevice ≠ 0 := by decide +kernel
  have hcache : (plainDevices 0x3).mDeviceForStrategy .phone =
      (plainDevices 0x3).getDeviceForStrategy .plain .plain .phone false := by
    decide +kernel
  have hcovered : (plainDevices 0x3).MediaCovered .plain .plain := by
    unfold MediaCovered
    decide +kernel
  exact (playable_iff distinct_plain .media hd isA2dpDevice_plain hcache).2 hcovered

/-- Only the earpiece is available, which is the default device.  Media has none: the default device
is assigned, and the next case takes the speaker for it. -/
theorem media_without_device : (plainDevices 0x1).mDefaultOutputDevice ≠ 0 ∧
    (plainDevices 0x1).mDeviceForStrategy .phone =
        (plainDevices 0x1).getDeviceForStrategy .plain .plain .phone false ∧
      ¬(plainDevices 0x1).Playable
        ((plainDevices 0x1).getDeviceForStrategy .plain .plain .media false) := by
  refine ⟨by decide +kernel, by decide +kernel, fun h => h.1 ?_⟩
  decide +kernel

end State

end Msm7x27a.Policy
