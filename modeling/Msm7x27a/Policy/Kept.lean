import Msm7x27a.Policy.Wiring
import Msm7x27a.Lib.Runs

/-!
# Outputs in use when a device is connected

`checkOutputsForDevice` lists the outputs that are open beside those that it opens, and the outputs
of the list are closed by their flags.  Connecting a device leaves every open output open if and only
if no direct output is open that can be routed to the device, those of the on-demand kinds apart.
-/

namespace Msm7x27a.Policy

open Msm7x27a.Audio (Status noError)
open Msm7x27a.Route (Devices)
open Msm7x27a.Runs

namespace State

variable {R : Type} {B : Base R} {H : Headers} {c : Client} {isAnalog : Bool} {device : Devices}
  {state : ConnectionState} {device_address : String} {outputs : SortedVector ℕ}
  {s s' : State R} {o output p : ℕ} {desc : AudioOutputDescriptor}

/-- The device passes all checks that come before its outputs are listed. -/
structure Connecting (H : Headers) (device : Devices) (device_address : String) (s : State R) :
    Prop where
  accepted : s.Accepted H device device_address
  fm : device = H.AUDIO_DEVICE_OUT_FM → s.fmMode = .none
  absent : s.mAvailableOutputDevices.has device = false
  primary : s.mPrimaryOutput ∈ s.mOutputs

/-- A direct output that is not of an on-demand kind can be routed to the device. -/
def DirectOpen (device : Devices) (s : State R) : Prop :=
  ∃ p ∈ s.mOutputs.toList, p.2.isDuplicated = false ∧ (s.supportedBy p.2).has device = true ∧
    p.2.mFlags.DIRECT = true ∧ p.2.mFlags.onDemand = false

/-! ### The end of an output change -/

theorem countFm_valueFor (B : Base R) (H : Headers) (device : Devices) (state : ConnectionState)
    (h : s.mOutputs.valueFor o = some desc) : ∃ desc', (s.countFm B H device state).1.mOutputs.valueFor o = some desc' ∧
      desc'.origin = desc.origin ∧ desc'.mFlags = desc.mFlags := by
  rw [mOutputs_countFm]
  split
  · rw [KeyedVector.valueFor_modify, h]
    split
    · exact ⟨_, rfl, rfl, rfl⟩
    · exact ⟨desc, rfl, rfl, rfl⟩
  · exact ⟨desc, h, rfl, rfl⟩

/-- A listed output that is not used is closed. -/
theorem finishOutput_closes (h : s.finishOutput B H device state outputs = some s')
    (hmem : o ∈ outputs) (ho : s.mOutputs.valueFor o = some desc) (hunused : Unused state desc) :
    o ∉ s'.mOutputs := by
  obtain ⟨-, s₁, s₂, -, hcount, hclose, hsame⟩ := finishOutput_cases h
  obtain ⟨desc', hd', -, hflags⟩ := countFm_valueFor B H device state ho
  rw [hsame.mOutputs]
  apply not_mem_closeUnused hclose hmem (hcount ▸ hd')
  unfold Unused at hunused ⊢
  rw [hflags]
  exact hunused

/-- An output stays open that is neither listed and not used nor duplicates one that is. -/
theorem finishOutput_spares (h : s.finishOutput B H device state outputs = some s')
    (ho : s.mOutputs.valueFor o = some desc)
    (hl : ∀ output ∈ outputs, ∀ d, s.mOutputs.valueFor output = some d → Unused state d →
      o ≠ output ∧ ¬Duplicates desc output) : o ∈ s'.mOutputs := by
  obtain ⟨-, s₁, s₂, -, hcount, hclose, hsame⟩ := finishOutput_cases h
  obtain ⟨desc', hd', horigin, -⟩ := countFm_valueFor B H device state ho
  rw [hsame.mOutputs, KeyedVector.mem_iff_valueFor]
  refine ⟨desc', closeUnused_spares hclose (hcount ▸ hd') ?_⟩
  intro output houtput d hd hunused
  have hopen : output ∈ s.mOutputs := by
    rw [mem_mOutputs, ← (wiring_countFm B H device state s).origins,
      ← mem_mOutputs, ← hcount]
    exact KeyedVector.mem_iff_valueFor.2 ⟨d, hd⟩
  obtain ⟨d₀, h₀⟩ := KeyedVector.mem_iff_valueFor.1 hopen
  obtain ⟨d₁, h₁, -, hflags⟩ := countFm_valueFor B H device state h₀
  rw [← hcount] at h₁
  obtain rfl : d₁ = d := Option.some.inj (h₁.symm.trans hd)
  have hspared := hl output houtput d₀ h₀
  unfold Unused at hspared hunused
  unfold Duplicates at hspared ⊢
  rw [horigin]
  rw [hflags] at hunused
  exact hspared hunused

/-! ### Connecting -/

/-- The outputs of the device are found if a direct output is open that can be routed to it. -/
theorem connects_of_directOpen (hw : Wired s) (habsent : s.mAvailableOutputDevices.has device = false)
    (h : s.DirectOpen device) : s.Connects c device := by
  obtain ⟨⟨o, desc⟩, hmem, hdup, hdevice, -, -⟩ := h
  have ho := KeyedVector.valueFor_eq_some.2 hmem
  refine ⟨habsent, ?_⟩
  cases horigin : desc.origin with
  | profile p =>
    unfold supportedBy at hdevice
    rw [horigin] at hdevice
    refine connectOutputs_of_open (hw.loaded o p ?_) hdevice ho horigin
    rw [origins_of_valueFor ho, horigin]
  | duplicated o₁ o₂ =>
    unfold AudioOutputDescriptor.isDuplicated at hdup
    rw [horigin] at hdup
    cases hdup

/-- A listed output that is not used is an open direct one, or has just been opened. -/
theorem kept_connected (hw : Wired s) {s₂ s₃ : State R} (hno : ¬s.DirectOpen device)
    (ho : s₂.mOutputs = (s.connectOutputs c device).2.1.mOutputs)
    (h : s₂.finishOutput B H device .available (s.connectOutputs c device).2.2 = some s₃)
    (hopen : o ∈ s.mOutputs) : o ∈ s₃.mOutputs := by
  obtain ⟨desc, hd⟩ := KeyedVector.mem_iff_valueFor.1 hopen
  obtain ⟨hkept, hlist⟩ := kept_connectOutputs c device s
  have hd₂ : s₂.mOutputs.valueFor o = some desc := by
    rw [ho, hkept o hopen]
    exact hd
  refine finishOutput_spares h hd₂ ?_
  intro output houtput d hdo hunused
  have hnew : output ∉ s.mOutputs := by
    rcases hlist output houtput with hwith | hnew
    · obtain ⟨d', hd', hdup, hdevice⟩ := mem_outputsWith.1 hwith
      rw [ho, hkept output (KeyedVector.mem_iff_valueFor.2 ⟨d', hd'⟩), hd'] at hdo
      obtain rfl := Option.some.inj hdo
      obtain ⟨hdirect, hdemand⟩ := hunused.resolve_left (by decide)
      exact absurd ⟨(output, d'), KeyedVector.valueFor_eq_some.1 hd', hdup, hdevice, hdirect,
        hdemand⟩ hno
    · exact hnew
  refine ⟨fun e => hnew (e ▸ hopen), fun hdup => ?_⟩
  unfold Duplicates at hdup
  split at hdup
  · exact hdup
  next o₁ o₂ horigin =>
    have hor : s.origins o = some (.duplicated o₁ o₂) := by rw [origins_of_valueFor hd, horigin]
    obtain ⟨⟨p₁, h₁⟩, ⟨p₂, h₂⟩⟩ := hw.duplicated o o₁ o₂ hor
    rcases hdup with rfl | rfl
    · exact hnew (mem_mOutputs.2 ⟨_, h₁⟩)
    · exact hnew (mem_mOutputs.2 ⟨_, h₂⟩)

/-- A direct output that can be routed to the device is closed. -/
theorem closed_connected {s₂ s₃ : State R} (hdirect : s.DirectOpen device)
    (ho : s₂.mOutputs = (s.connectOutputs c device).2.1.mOutputs)
    (h : s₂.finishOutput B H device .available (s.connectOutputs c device).2.2 = some s₃) :
    ∃ o ∈ s.mOutputs, o ∉ s₃.mOutputs := by
  obtain ⟨⟨o, desc⟩, hmem, hdup, hdevice, hflag, hdemand⟩ := hdirect
  have hd := KeyedVector.valueFor_eq_some.2 hmem
  have hopen : o ∈ s.mOutputs := KeyedVector.mem_iff_valueFor.2 ⟨desc, hd⟩
  obtain ⟨hkept, -⟩ := kept_connectOutputs c device s
  have hd₂ : s₂.mOutputs.valueFor o = some desc := by
    rw [ho, hkept o hopen]
    exact hd
  have hlisted : o ∈ (s.connectOutputs c device).2.2 :=
    subset_connectOutputs (mem_outputsWith.2 ⟨desc, hd, hdup, hdevice⟩)
  exact ⟨o, hopen, finishOutput_closes h hlisted hd₂ (.inr ⟨hflag, hdemand⟩)⟩

/-- What happens to the open outputs when a device is connected is decided by their flags. -/
theorem kept_outputChange (hw : Wired s) (hc : ∀ r used, c.handle r used ≠ s.mPrimaryOutput)
    {r : Status × State R} (h : OutputChange B H c isAnalog device s .available r) :
    (∀ o ∈ s.mOutputs, o ∈ r.2.mOutputs) ↔
      ((device = H.AUDIO_DEVICE_OUT_FM → s.fmMode = .none) →
        s.mAvailableOutputDevices.has device = false → s.mPrimaryOutput ∈ s.mOutputs →
          ¬s.DirectOpen device) := by
  cases h with
  | busy hbusy =>
    obtain ⟨hfm, hon⟩ := startFm_eq_none hbusy
    exact iff_of_true (fun _ => id) fun hoff => absurd (hoff hfm) hon
  | @refused s₁ s₂ h1 hcon h2 ho =>
    obtain ⟨-, mode, rfl⟩ := startFm_cases h1
    have hsame : ∀ o ∈ s.mOutputs, o ∈ s₂.mOutputs := by
      intro o hopen
      rw [KeyedVector.mem_iff_valueFor, ho o]
      exact KeyedVector.mem_iff_valueFor.1 hopen
    refine iff_of_true hsame fun _ habsent _ hdirect => hcon (connects_setFmMode.2 ?_)
    exact connects_of_directOpen hw habsent hdirect
  | @connected s₁ s₂ s₃ h1 hcon h2 ho h3 =>
    obtain ⟨hfm, mode, rfl⟩ := startFm_cases h1
    have hw₁ : Wired (s.setFmMode mode) := (wiring_startFm h1).wired hw
    have hopen : s.mPrimaryOutput ∈ s.mOutputs := by
      have hprimary := (finishOutput_cases h3).1
      rw [h2.mPrimaryOutput, ho] at hprimary
      have hc₁ : ∀ r used, c.handle r used ≠ (s.setFmMode mode).mPrimaryOutput := hc
      exact primary_of_connectOutputs (s := s.setFmMode mode) hc₁ hprimary
    rw [(keeps_changePaired B H device .available s₃).2]
    constructor
    · intro hkept _ _ _ hdirect
      obtain ⟨o, hmem, hclosed⟩ := closed_connected (s := s.setFmMode mode) hdirect ho h3
      exact hclosed (hkept o hmem)
    · intro hno o hmem
      exact kept_connected hw₁ (hno hfm hcon.1 hopen) ho h3 hmem

/-- Every output that is open stays open when a device is connected. -/
def KeepsOpen (B : Base R) (H : Headers) (s : State R) : Call → Prop
  | .setDeviceConnectionState c isAnalog device .available device_address =>
    ∀ r ∈ s.setDeviceConnectionState B H c isAnalog device .available device_address,
      ∀ o ∈ s.mOutputs, o ∈ r.2.mOutputs
  | _ => True

/-- No direct output is open that the device could be routed to, if it gets to be connected. -/
def NoDirectOpen (H : Headers) (s : State R) : Call → Prop
  | .setDeviceConnectionState _ _ device .available device_address =>
    s.Connecting H device device_address → ¬s.DirectOpen device
  | _ => True

/-- A device that passes the checks is connected if a direct output is open for it. -/
theorem connecting_ok (B : Base R) (c : Client) (isAnalog : Bool) (hw : Wired s)
    (h : s.Connecting H device device_address) (hdirect : s.DirectOpen device) :
    ∃ r, s.setDeviceConnectionState B H c isAnalog device .available device_address = some r := by
  obtain ⟨⟨houtput, haddress, hpresent⟩, hfm, habsent, hprimary⟩ := h
  unfold setDeviceConnectionState
  rw [if_neg (by simp [houtput]), if_neg (not_le.2 haddress), if_pos houtput,
    if_neg (by simp [hpresent])]
  obtain ⟨mode, hs⟩ := startFm_of_off (H := H) (s := s.saveOutputs) isAnalog hfm
  have hw₁ : Wired (s.saveOutputs.setFmMode mode) := by
    refine SameWiring.wired ?_ hw
    exact ⟨rfl, rfl, rfl⟩
  have hconnects : (s.saveOutputs.setFmMode mode).Connects c device :=
    connects_of_directOpen hw₁ habsent hdirect
  obtain ⟨s₂, h2, hkeeps, houtputs⟩ := connect_ok B c device_address hs hconnects
  have hlisted : Listed s₂ ((s.saveOutputs.setFmMode mode).checkOutputsForDevice c device
      .available).2.2 := by
    unfold Listed
    rw [houtputs]
    exact listed_connectOutputs
  have hopen : s₂.mPrimaryOutput ∈ s₂.mOutputs := by
    rw [hkeeps.mPrimaryOutput, houtputs, KeyedVector.mem_iff_valueFor]
    have hkept := (kept_connectOutputs c device (s.saveOutputs.setFmMode mode)).1 _ hprimary
    obtain ⟨desc, hd⟩ := KeyedVector.mem_iff_valueFor.1 hprimary
    exact ⟨desc, hkept.trans hd⟩
  obtain ⟨s₃, h3⟩ := finishOutput_of_listed (B := B) (H := H) hopen hlisted
  rw [changeOutput_of_ok h2, h3]
  exact ⟨_, rfl⟩

/-- **One call.** The outputs that are open stay open if and only if no direct one could be routed
to the device. -/
theorem keepsOpen_iff {call : Call} (hw : Wired s)
    (hc : ∀ c ∈ call.client, ∀ r used, c.handle r used ≠ s.mPrimaryOutput) :
    KeepsOpen B H s call ↔ NoDirectOpen H s call := by
  unfold KeepsOpen NoDirectOpen
  split
  next c isAnalog device device_address =>
    have hsave : SameWiring s s.saveOutputs := ⟨rfl, rfl, rfl⟩
    have hsaved := hsave.wired hw
    constructor
    · intro hkept hconnecting hdirect
      obtain ⟨r, hr⟩ := connecting_ok B c isAnalog hw hconnecting hdirect
      rcases setDeviceConnectionState_cases hr with ⟨-, hno⟩ | ⟨-, h⟩ | ⟨hno, -⟩
      · exact hno hconnecting.accepted
      · exact (kept_outputChange hsaved (hc c rfl) h).1 (hkept r hr) hconnecting.fm
          hconnecting.absent hconnecting.primary hdirect
      · exact absurd (hno.symm.trans hconnecting.accepted.output) (by decide)
    · intro hno r hr
      rcases setDeviceConnectionState_cases hr with ⟨rfl, -⟩ | ⟨haccepted, h⟩ | ⟨-, rfl⟩
      · exact fun _ => id
      · exact (kept_outputChange hsaved (hc c rfl) h).2 fun hfm habsent hprimary =>
          hno ⟨haccepted, hfm, habsent, hprimary⟩
      · rw [(keeps_setInputState B H device .available s).2]
        exact fun _ => id
  next => exact Iff.rfl

/-- **Outputs in use.** In a run from a state with wired outputs, every device that is connected
leaves the open outputs open if and only if no device is connected while a direct output is open that
could be routed to it. -/
theorem keptOpen_iff {calls : List Call} (hw : Wired s)
    (hc : ∀ call ∈ calls, ∀ c ∈ call.client, ∀ r used, c.handle r used ≠ s.mPrimaryOutput) :
    Along (step B H) (KeepsOpen B H) s calls ↔ Along (step B H) (NoDirectOpen H) s calls := by
  refine along_congr (I := fun s' => Wired s' ∧ s'.mPrimaryOutput = s.mPrimaryOutput) ?_ ?_
    ⟨hw, rfl⟩ hc
  · intro s' call hcall hI
    exact keepsOpen_iff hI.1 (hI.2 ▸ hcall)
  · intro s' call s'' hcall hI _ hs
    obtain ⟨hw', hprimary⟩ := wired_step (hI.2 ▸ hcall) hs hI.1
    exact ⟨hw', hprimary.trans hI.2⟩

theorem wired_plainDirect (flags : OutputFlags) : Wired (plainDirect flags) := by
  have horigins : ∀ o origin, (plainDirect flags).origins o = some origin → origin = .profile 0 := by
    intro o origin ho
    rw [origins_plainDirect] at ho
    split at ho
    · exact (Option.some.inj ho).symm
    · cases ho
  refine ⟨?_, ?_, ?_⟩
  · intro o p ho
    obtain rfl := Origin.profile.inj (horigins o _ ho)
    have hloaded : (plainDirect flags).loadedProfiles = [0, 1] := rfl
    rw [hloaded]
    exact List.mem_cons_self ..
  · intro o o₁ o₂ ho
    cases horigins o _ ho
  · intro o₁ o₂ ho
    cases horigins _ _ ho

/-- A headset is connected, and the primary output stays open. -/
theorem keptOpen_headset : Along (step .plain .plain) (KeepsOpen .plain .plain)
    (plainDirect { DIRECT := true }) [.setDeviceConnectionState .plain false 0x4 .available ""] := by
  refine (keptOpen_iff (wired_plainDirect _) ?_).2 ?_
  · intro call hcall c hclient
    obtain rfl := List.mem_singleton.1 hcall
    obtain rfl := Option.some.inj hclient
    exact plain_handle
  · refine ⟨fun _ => ?_, fun _ _ => trivial⟩
    show ¬(plainDirect { DIRECT := true }).DirectOpen 0x4
    unfold DirectOpen
    decide

/-- A client has a direct output that plays to the speaker; a headset is connected, and the output is
closed. -/
theorem headset_closes_direct : ∃ t, run (step .plain .plain) (plainDirect { DIRECT := true })
    [.getOutput .plain .music { mSamplingRate := 48000 } { DIRECT := true }] = some t ∧
      (t.mOutputs.valueFor 2).any (fun desc => desc.mDirectOpenCount = 1) = true ∧
        ¬KeepsOpen .plain .plain t (.setDeviceConnectionState .plain false 0x4 .available "") := by
  have h : ((run (step .plain .plain) (plainDirect { DIRECT := true })
      [.getOutput .plain .music { mSamplingRate := 48000 } { DIRECT := true }]).any fun t =>
        (t.mOutputs.valueFor 2).any (fun desc => desc.mDirectOpenCount = 1) ∧ 2 ∈ t.mOutputs ∧
          (t.setDeviceConnectionState .plain .plain .plain false 0x4 .available "").any
            fun r => 2 ∉ r.2.mOutputs) = true := by
    decide +kernel
  simp only [Option.any_eq_true, decide_eq_true_eq] at h
  obtain ⟨t, hrun, ⟨desc, hd, hcount⟩, hopen, r, hr, hclosed⟩ := h
  refine ⟨t, hrun, ?_, ?_⟩
  · rw [hd]
    exact decide_eq_true hcount
  · intro hkept
    exact hclosed (hkept r hr 2 hopen)

end State

end Msm7x27a.Policy
