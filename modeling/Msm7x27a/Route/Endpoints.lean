import Msm7x27a.Lib.Bits
import Msm7x27a.Route.Parameters

/-!
# The endpoints of the sound driver

The constructor of `AudioHardware` scans the endpoints that the driver reports for the names of the
`SND_DEVICE_*` variables, and `doRouting` chooses one of these variables.  It chooses
`SND_DEVICE_CARKIT` too, which the constructor does not look for.

`routes_iff`: an output is routed to an endpoint exactly if it is not routed to a car kit.
-/

namespace Msm7x27a.Route

open Msm7x27a.Audio

/-! ### The scan -/

/-- The name that `CHECK_FOR` compares with. -/
def SndDevice.name : SndDevice → Value
  | .CURRENT => "CURRENT".toList
  | .HANDSET => "HANDSET".toList
  | .SPEAKER => "SPEAKER".toList
  | .BT => "BT".toList
  | .HEADSET => "HEADSET".toList
  | .STEREO_HEADSET_AND_SPEAKER => "STEREO_HEADSET_AND_SPEAKER".toList
  | .IN_S_SADC_OUT_HANDSET => "IN_S_SADC_OUT_HANDSET".toList
  | .IN_S_SADC_OUT_SPEAKER_PHONE => "IN_S_SADC_OUT_SPEAKER_PHONE".toList
  | .TTY_HEADSET => "TTY_HEADSET".toList
  | .TTY_HCO => "TTY_HCO".toList
  | .TTY_VCO => "TTY_VCO".toList
  | .FM_DIGITAL_STEREO_HEADSET => "FM_DIGITAL_STEREO_HEADSET".toList
  | .FM_DIGITAL_SPEAKER_PHONE => "FM_DIGITAL_SPEAKER_PHONE".toList
  | .FM_DIGITAL_BT_A2DP_HEADSET => "FM_DIGITAL_BT_A2DP_HEADSET".toList
  | .FM_ANALOG_STEREO_HEADSET => "FM_ANALOG_STEREO_HEADSET".toList
  | .FM_ANALOG_STEREO_HEADSET_CODEC => "FM_ANALOG_STEREO_HEADSET_CODEC".toList

/-- The checks of one endpoint. -/
def checkFor (ept : SndEndpoint) (e : Endpoints) : Endpoints := fun n =>
  if ept.name = n.name then ept.id else e n

/-- The loop of the constructor over the endpoints; `SND_DEVICE_BT_EC_OFF`, which it sets too, is not
used. -/
def scan : List SndEndpoint → Endpoints → Endpoints
  | [], e => e
  | ept :: epts, e => scan epts (checkFor ept e)

/-- The variables after the constructor. -/
def endpoints (mSndEndpoints : List SndEndpoint) : Endpoints := scan mSndEndpoints fun _ => -1

/-- What is found of a name: the last endpoint that has it, or what was known before. -/
theorem scan_cases (epts : List SndEndpoint) (e : Endpoints) (n : SndDevice) :
    (∃ ept ∈ epts, ept.name = n.name ∧ scan epts e n = ept.id) ∨
      (∀ ept ∈ epts, ept.name ≠ n.name) ∧ scan epts e n = e n := by
  induction epts generalizing e with
  | nil => exact Or.inr ⟨fun ept h => absurd h (List.not_mem_nil), rfl⟩
  | cons ept epts ih =>
    rw [scan]
    obtain ⟨ept', hmem, hname, hid⟩ | ⟨hno, he⟩ := ih (checkFor ept e)
    · exact Or.inl ⟨ept', List.mem_cons_of_mem _ hmem, hname, hid⟩
    · unfold checkFor at he
      by_cases hname : ept.name = n.name
      · rw [if_pos hname] at he
        exact Or.inl ⟨ept, List.mem_cons_self, hname, he⟩
      · rw [if_neg hname] at he
        refine Or.inr ⟨fun ept' hmem => ?_, he⟩
        obtain rfl | hmem := List.mem_cons.1 hmem
        · exact hname
        · exact hno ept' hmem

/-- A name that is reported is found. -/
theorem endpoints_found {epts : List SndEndpoint} {n : SndDevice}
    (h : ∃ ept ∈ epts, ept.name = n.name) : ∃ ept ∈ epts, endpoints epts n = ept.id := by
  obtain ⟨ept, hmem, -, hid⟩ | ⟨hno, -⟩ := scan_cases epts (fun _ => -1) n
  · exact ⟨ept, hmem, hid⟩
  · obtain ⟨ept, hmem, hname⟩ := h
    exact absurd hname (hno ept hmem)

/-- There is an endpoint named after each variable that the selection uses. -/
def NamesAll (epts : List SndEndpoint) : Prop :=
  ∀ n : SndDevice, n ≠ .CURRENT → ∃ ept ∈ epts, ept.name = n.name

theorem endpoints_valid {epts : List SndEndpoint} (hall : NamesAll epts) (n : SndDevice)
    (hn : n ≠ .CURRENT) : 0 ≤ endpoints epts n := by
  obtain ⟨ept, -, hid⟩ := endpoints_found (hall n hn)
  rw [hid]
  exact Int.natCast_nonneg _

/-! ### The selection -/

/-- The mask has one of the devices that an output can be routed to. -/
def HasOutput (h : Headers) (mask : Devices) : Prop :=
  mask.has h.DEVICE_OUT_EARPIECE ∨ mask.has h.DEVICE_OUT_SPEAKER ∨ mask.has h.DEVICE_OUT_WIRED_HEADSET ∨
    mask.has h.DEVICE_OUT_WIRED_HEADPHONE ∨ mask.has h.DEVICE_OUT_BLUETOOTH_SCO ∨
    mask.has h.DEVICE_OUT_BLUETOOTH_SCO_HEADSET ∨ mask.has h.DEVICE_OUT_BLUETOOTH_SCO_CARKIT

instance (h : Headers) (mask : Devices) : Decidable (HasOutput h mask) := by
  unfold HasOutput; infer_instance

/-- The mask has a car kit, and nothing that goes before it. -/
structure ToCarkit (h : Headers) (o : Setting) (mask : Devices) : Prop where
  carkit : mask.has h.DEVICE_OUT_BLUETOOTH_SCO_CARKIT
  tty : ¬(o.mTtyMode ≠ .off ∧ o.mMode = .inCall ∧ mask.has h.DEVICE_OUT_WIRED_HEADSET)
  headset : ¬(mask.has h.DEVICE_OUT_WIRED_HEADSET ∧ mask.has h.DEVICE_OUT_SPEAKER)
  headphone : ¬(mask.has h.DEVICE_OUT_WIRED_HEADPHONE ∧ mask.has h.DEVICE_OUT_SPEAKER)
  headsetFm : ¬(mask.has h.DEVICE_OUT_WIRED_HEADSET ∧ mask.has h.DEVICE_OUT_FM)
  speakerFm : ¬(mask.has h.DEVICE_OUT_SPEAKER ∧ mask.has h.DEVICE_OUT_FM)
  analogFm : ¬(mask.has h.DEVICE_OUT_FM ∧ o.isFMAnalog)
  sco : ¬mask.has (h.DEVICE_OUT_BLUETOOTH_SCO ||| h.DEVICE_OUT_BLUETOOTH_SCO_HEADSET)

/-- Some endpoint other than the current one is chosen. -/
def Endpoints.Picks (e : Endpoints) (c : Choice) : Prop :=
  ∃ n : SndDevice, n ≠ .CURRENT ∧ c.new_snd_device = e n

theorem Devices.has_or_left {mask b b' : Devices} (h : mask.has b) : mask.has (b ||| b') := by
  unfold has at h ⊢
  exact decide_eq_true (((Bits.within_or_left b b').and_left mask).ne_zero (of_decide_eq_true h))

theorem Devices.has_or_right {mask b b' : Devices} (h : mask.has b') : mask.has (b ||| b') := by
  unfold has at h ⊢
  exact decide_eq_true (((Bits.within_or_right b b').and_left mask).ne_zero (of_decide_eq_true h))

section Selection

variable {h : Headers} {e : Endpoints} {o : Setting} {mask : Devices} {c : Choice}

theorem picks_device {n : SndDevice} (hn : n ≠ .CURRENT) : e.Picks (c.device (e n)) := ⟨n, hn, rfl⟩

theorem picks_deviceWithFeatures {n : SndDevice} (hn : n ≠ .CURRENT) :
    e.Picks (c.deviceWithFeatures (e n)) :=
  ⟨n, hn, rfl⟩

/-- A mask with an output goes to the car kit or to an endpoint. -/
theorem routeOutput_cases (hmask : HasOutput h mask) (c : Choice) :
    (ToCarkit h o mask ∧ (routeOutput h e o mask c).new_snd_device = SND_DEVICE_CARKIT) ∨
      (¬ToCarkit h o mask ∧ e.Picks (routeOutput h e o mask c)) := by
  unfold routeOutput
  by_cases htty : o.mTtyMode ≠ .off ∧ o.mMode = .inCall ∧ mask.has h.DEVICE_OUT_WIRED_HEADSET
  · rw [if_pos htty]
    refine Or.inr ⟨fun hc => hc.tty htty, ?_⟩
    cases hmode : o.mTtyMode with
    | off => exact absurd hmode htty.1
    | full => exact picks_device (by decide)
    | vco => exact picks_device (by decide)
    | hco => exact picks_device (by decide)
  rw [if_neg htty]
  by_cases hheadset : mask.has h.DEVICE_OUT_WIRED_HEADSET ∧ mask.has h.DEVICE_OUT_SPEAKER
  · rw [if_pos hheadset]
    exact Or.inr ⟨fun hc => hc.headset hheadset, picks_deviceWithFeatures (by decide)⟩
  rw [if_neg hheadset]
  by_cases hheadphone : mask.has h.DEVICE_OUT_WIRED_HEADPHONE ∧ mask.has h.DEVICE_OUT_SPEAKER
  · rw [if_pos hheadphone]
    exact Or.inr ⟨fun hc => hc.headphone hheadphone, picks_deviceWithFeatures (by decide)⟩
  rw [if_neg hheadphone]
  by_cases hheadsetFm : mask.has h.DEVICE_OUT_WIRED_HEADSET ∧ mask.has h.DEVICE_OUT_FM
  · rw [if_pos hheadsetFm]
    refine Or.inr ⟨fun hc => hc.headsetFm hheadsetFm, ?_⟩
    split
    · exact picks_deviceWithFeatures (by decide)
    · exact picks_device (by decide)
  rw [if_neg hheadsetFm]
  by_cases hspeakerFm : mask.has h.DEVICE_OUT_SPEAKER ∧ mask.has h.DEVICE_OUT_FM
  · rw [if_pos hspeakerFm]
    exact Or.inr ⟨fun hc => hc.speakerFm hspeakerFm, picks_deviceWithFeatures (by decide)⟩
  rw [if_neg hspeakerFm]
  by_cases hanalog : mask.has h.DEVICE_OUT_FM ∧ o.isFMAnalog
  · rw [if_pos hanalog]
    exact Or.inr ⟨fun hc => hc.analogFm hanalog, picks_device (by decide)⟩
  rw [if_neg hanalog]
  by_cases hsco : mask.has (h.DEVICE_OUT_BLUETOOTH_SCO ||| h.DEVICE_OUT_BLUETOOTH_SCO_HEADSET)
  · rw [if_pos hsco]
    exact Or.inr ⟨fun hc => hc.sco hsco, picks_device (by decide)⟩
  rw [if_neg hsco]
  by_cases hcarkit : mask.has h.DEVICE_OUT_BLUETOOTH_SCO_CARKIT
  · rw [if_pos hcarkit]
    exact Or.inl ⟨⟨hcarkit, htty, hheadset, hheadphone, hheadsetFm, hspeakerFm, hanalog, hsco⟩, rfl⟩
  rw [if_neg hcarkit]
  refine Or.inr ⟨fun hc => hcarkit hc.carkit, ?_⟩
  by_cases hset : mask.has h.DEVICE_OUT_WIRED_HEADSET
  · rw [if_pos hset]
    exact picks_deviceWithFeatures (by decide)
  rw [if_neg hset]
  by_cases hphone : mask.has h.DEVICE_OUT_WIRED_HEADPHONE
  · rw [if_pos hphone]
    exact picks_deviceWithFeatures (by decide)
  rw [if_neg hphone]
  by_cases hspeaker : mask.has h.DEVICE_OUT_SPEAKER
  · rw [if_pos hspeaker]
    exact picks_deviceWithFeatures (by decide)
  rw [if_neg hspeaker]
  have hearpiece : mask.has h.DEVICE_OUT_EARPIECE := by
    obtain h | h | h | h | h | h | h := hmask
    · exact h
    · exact absurd h hspeaker
    · exact absurd h hset
    · exact absurd h hphone
    · exact absurd (Devices.has_or_left h) hsco
    · exact absurd (Devices.has_or_right h) hsco
    · exact absurd h hcarkit
  rw [if_pos hearpiece]
  exact picks_deviceWithFeatures (by decide)

theorem picks_routeDualMic (hc : e.Picks c) : e.Picks (routeDualMic e o c) := by
  unfold routeDualMic
  split
  · split
    · exact picks_device (by decide)
    · split
      · exact picks_device (by decide)
      · exact hc
  · exact hc

/-- Nothing is chosen for the second microphone. -/
theorem routeDualMic_carkit (hvalid : ∀ n : SndDevice, n ≠ .CURRENT → 0 ≤ e n)
    (hc : c.new_snd_device = -1) : (routeDualMic e o c).new_snd_device = -1 := by
  have hne : ∀ n : SndDevice, n ≠ .CURRENT → c.new_snd_device ≠ e n := by
    intro n hn h
    have := hvalid n hn
    omega
  unfold routeDualMic
  rw [if_neg (hne .HANDSET (by decide)), if_neg (hne .SPEAKER (by decide)), ite_self]
  exact hc

theorem ne_zero_of_hasOutput (hmask : HasOutput h mask) : mask ≠ 0 := by
  rintro rfl
  have hzero : ∀ b : Devices, Devices.has 0 b = false := by
    intro b
    simp [Devices.has]
  obtain h | h | h | h | h | h | h := hmask <;> exact Bool.false_ne_true ((hzero _).symm.trans h)

theorem select_cases (hvalid : ∀ n : SndDevice, n ≠ .CURRENT → 0 ≤ e n) (hmask : HasOutput h mask)
    (hc : c.new_snd_device = -1) :
    (ToCarkit h o mask ∧ (select h e o none mask c).new_snd_device = -1) ∨
      (¬ToCarkit h o mask ∧ e.Picks (select h e o none mask c)) := by
  have hfm : ∀ c : Choice, routeFmA2dp e mask c = c := fun c =>
    if_neg fun h => ne_zero_of_hasOutput hmask h.1
  have hsel : select h e o none mask c = routeDualMic e o (routeOutput h e o mask c) := by
    unfold select routeStream
    dsimp only
    rw [if_pos hc, hfm]
  rw [hsel]
  obtain ⟨hkit, hnew⟩ | ⟨hkit, hpick⟩ := routeOutput_cases (e := e) (o := o) hmask c
  · exact Or.inl ⟨hkit, routeDualMic_carkit hvalid hnew⟩
  · exact Or.inr ⟨hkit, picks_routeDualMic hpick⟩

end Selection

/-! ### Routing -/

/-- `SND_SET_DEVICE` is issued for a device and for no other, and the device is the current one. -/
structure RoutedTo (s s' : State) (id : Int) : Prop where
  issued : ∃ evs, s'.log = evs ++ s.log ∧ (∃ ear mic ok, .setDevice id ear mic ok ∈ evs) ∧
    ∀ device ear mic ok, .setDevice device ear mic ok ∈ evs → device = id
  current : s'.hw.mCurSndDevice = id

section Routing

variable {E : Env} {a : Answers} {s : State} {device : Int}

theorem do_route_issues (hdev : device ≠ -1) {fd : Int} (hfd : 0 ≤ fd) (ear_mute mic_mute : Bool) :
    (∃ ear mic ok, .setDevice device ear mic ok ∈
        (do_route_audio_rpc E.e a device ear_mute mic_mute fd).2) ∧
      ∀ device' ear mic ok, .setDevice device' ear mic ok ∈
        (do_route_audio_rpc E.e a device ear_mute mic_mute fd).2 → device' = device := by
  unfold do_route_audio_rpc
  rw [if_neg hdev, if_neg (Int.not_lt.2 hfd)]
  split
  · split
    · refine ⟨⟨_, _, _, List.mem_cons_self⟩, fun device' ear mic ok h => ?_⟩
      cases List.mem_singleton.1 h
      rfl
    · refine ⟨⟨_, _, _, List.mem_cons_self⟩, fun device' ear mic ok h => ?_⟩
      obtain h | h := List.mem_cons.1 h
      · cases h
        rfl
      · cases List.mem_singleton.1 h
        rfl
  · refine ⟨⟨_, _, _, List.mem_cons_self⟩, fun device' ear mic ok h => ?_⟩
    cases List.mem_singleton.1 h
    rfl

theorem not_mem_switchEvents {e : Endpoints} {cur d : Int} {ear mic ok : Bool} {device' : Int} :
    Event.setDevice device' ear mic ok ∉ switchEvents e cur d := by
  intro h
  unfold switchEvents at h
  split at h
  · cases List.mem_singleton.1 h
  split at h
  · cases List.mem_singleton.1 h
  · cases h

theorem routeTo_routed (hdev : device ≠ -1) (hcur : s.hw.mCurSndDevice = -1) (hfd : 0 ≤ s.m7xsnddriverfd) :
    RoutedTo s (routeTo E a device s).2 device := by
  obtain ⟨hissued, honly⟩ := do_route_issues (E := E) (a := a) hdev hfd (earMute s.hw) (fmMicMute s.hw)
  have hne : device ≠ -1 ∧ device ≠ s.hw.mCurSndDevice := by
    rw [hcur]
    exact ⟨hdev, hdev⟩
  unfold routeTo
  rw [if_pos hne]
  unfold doAudioRouteOrMute
  refine ⟨⟨_, (List.append_assoc _ _ _).symm, ?_, fun device' ear mic ok h => ?_⟩, rfl⟩
  · obtain ⟨ear, mic, ok, h⟩ := hissued
    exact ⟨ear, mic, ok, List.mem_append_right _ h⟩
  · obtain h | h := List.mem_append.1 h
    · exact absurd h not_mem_switchEvents
    · exact honly device' ear mic ok h

theorem doRoutingOf_cases {mask : Devices} (hvalid : ∀ n : SndDevice, n ≠ .CURRENT → 0 ≤ E.e n)
    (hfd : 0 ≤ s.m7xsnddriverfd) (hcur : s.hw.mCurSndDevice = -1) (hmask : HasOutput E.h mask) :
    (ToCarkit E.h (s.setting a.isFMAnalog) mask ∧
        (doRoutingOf E a none mask s).2.hw.mCurSndDevice = -1) ∨
      (¬ToCarkit E.h (s.setting a.isFMAnalog) mask ∧
        ∃ n : SndDevice, n ≠ .CURRENT ∧ RoutedTo s (doRoutingOf E a none mask s).2 (E.e n)) := by
  have hto : doRoutingOf E a none mask s = routeTo E a (choose E a none mask s).new_snd_device
      (s.assign (choose E a none mask s)) := by
    unfold doRoutingOf
    rw [if_neg fun h => by cases h]
  rw [hto]
  obtain ⟨hkit, hnew⟩ | ⟨hkit, n, hn, hnew⟩ := select_cases (o := s.setting a.isFMAnalog)
    (c := ⟨-1, s.FmA2dpStatus, s.pp.new_post_proc_feature_mask⟩) hvalid hmask rfl
  · refine Or.inl ⟨hkit, ?_⟩
    have hstay : (choose E a none mask s).new_snd_device = -1 := hnew
    unfold routeTo
    rw [hstay, if_neg fun h => h.1 rfl]
    exact hcur
  · refine Or.inr ⟨hkit, n, hn, ?_⟩
    have hpick : (choose E a none mask s).new_snd_device = E.e n := hnew
    have hne : E.e n ≠ -1 := by
      have := hvalid n hn
      omega
    rw [hpick]
    obtain ⟨hissued, hcurrent⟩ := routeTo_routed (E := E) (a := a)
      (s := s.assign (choose E a none mask s)) hne hcur hfd
    exact ⟨hissued, hcurrent⟩

/-- **When an output is routed.** With every name reported, `doRouting(NULL)` sends the endpoint of an
output to the driver and records it, exactly if the output is not a car kit. -/
theorem routes_iff {epts : List SndEndpoint} {out : ℕ × AudioStreamOutMSM72xx} (hall : NamesAll epts)
    (hfd : 0 ≤ s.m7xsnddriverfd) (hcur : s.hw.mCurSndDevice = -1) (hout : s.mOutput = some out)
    (hmask : HasOutput E.h out.2.mDevices) :
    (∃ r, doRouting { E with e := endpoints epts } a none 0 s = some r ∧
        ∃ ept ∈ epts, RoutedTo s r.2 ept.id) ↔
      ¬ToCarkit E.h (s.setting a.isFMAnalog) out.2.mDevices := by
  have hdevices : s.outputDevices 0 = some out.2.mDevices := by
    unfold State.outputDevices
    rw [hout]
    rfl
  unfold doRouting
  rw [hdevices, Option.map_some]
  obtain ⟨hkit, hstay⟩ | ⟨hkit, n, hn, hrouted⟩ :=
    doRoutingOf_cases (E := { E with e := endpoints epts }) (a := a) (endpoints_valid hall) hfd hcur hmask
  · refine iff_of_false ?_ (not_not.2 hkit)
    rintro ⟨r, hr, ept, -, hrouted⟩
    cases hr
    have hid := hstay.symm.trans hrouted.current
    omega
  · obtain ⟨ept, hmem, hid⟩ := endpoints_found (hall n hn)
    have hid' : ({ E with e := endpoints epts } : Env).e n = ept.id := hid
    rw [hid'] at hrouted
    exact iff_of_true ⟨_, rfl, ept, hmem, hrouted⟩ hkit

end Routing

/-- An endpoint for each variable of the selection, and one for the car kit. -/
def reported : List SndEndpoint :=
  ⟨16, "CARKIT".toList⟩ ::
    [SndDevice.HANDSET, .SPEAKER, .BT, .HEADSET, .STEREO_HEADSET_AND_SPEAKER, .IN_S_SADC_OUT_HANDSET,
      .IN_S_SADC_OUT_SPEAKER_PHONE, .TTY_HEADSET, .TTY_HCO, .TTY_VCO, .FM_DIGITAL_STEREO_HEADSET,
      .FM_DIGITAL_SPEAKER_PHONE, .FM_DIGITAL_BT_A2DP_HEADSET, .FM_ANALOG_STEREO_HEADSET,
      .FM_ANALOG_STEREO_HEADSET_CODEC].map fun n => ⟨n.ctorIdx, n.name⟩

theorem namesAll_reported : NamesAll reported := by
  intro n hn
  refine ⟨⟨n.ctorIdx, n.name⟩, List.mem_cons_of_mem _ (List.mem_map_of_mem ?_), rfl⟩
  cases n with
  | CURRENT => exact absurd rfl hn
  | _ => decide

/-- An output is open with these devices. -/
def anOutputOn (mDevices : Devices) : State := { init 3 none with mOutput := some (1, { mDevices := mDevices }) }

theorem routes_speaker :
    ∃ r, doRouting { Env.plain with e := endpoints reported } {} none 0 (anOutputOn 0x2) = some r ∧
      ∃ ept ∈ reported, RoutedTo (anOutputOn 0x2) r.2 ept.id := by
  refine (routes_iff namesAll_reported (by decide) rfl rfl ?_).2 fun h => ?_
  · exact Or.inr (Or.inl rfl)
  · exact Bool.false_ne_true h.carkit

/-- The car kit is reported, and not routed to. -/
theorem ignores_carkit :
    (∃ ept ∈ reported, ept.name = "CARKIT".toList) ∧
      ¬∃ r, doRouting { Env.plain with e := endpoints reported } {} none 0 (anOutputOn 0x40) = some r ∧
        ∃ ept ∈ reported, RoutedTo (anOutputOn 0x40) r.2 ept.id := by
  refine ⟨⟨_, List.mem_cons_self, rfl⟩, ?_⟩
  rintro ⟨r, hr, ept, -, hrouted⟩
  cases hr
  obtain ⟨-, hstay⟩ | ⟨hkit, -⟩ := doRoutingOf_cases (E := { Env.plain with e := endpoints reported })
    (a := {}) (s := anOutputOn 0x40) (endpoints_valid namesAll_reported) (by decide) rfl
    (by decide : HasOutput Headers.plain 0x40)
  · have hid := hstay.symm.trans hrouted.current
    omega
  · refine hkit ⟨by decide, ?_, ?_, ?_, ?_, ?_, ?_, by decide⟩
    · exact fun h => absurd h.2.2 (by decide)
    · exact fun h => absurd h.1 (by decide)
    · exact fun h => absurd h.1 (by decide)
    · exact fun h => absurd h.1 (by decide)
    · exact fun h => absurd h.1 (by decide)
    · exact fun h => absurd h.1 (by decide)

end Msm7x27a.Route
