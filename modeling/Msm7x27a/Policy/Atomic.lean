import Msm7x27a.Policy.Essentials

/-!
# Errors of `setDeviceConnectionState`

A call that returns an error has changed nothing of what the manager decides by (`Essentials`) if
and only if it does not fail after it has written (`FailsClean`).  It sets the mode of FM before it
looks whether FM is connected and can be, turns FM off before it looks whether FM is connected, and
connects or disconnects a headset before it looks at the headset's input device.
-/

namespace Msm7x27a.Policy

open Msm7x27a.Audio (Status noError badValue)
open Msm7x27a.Route (Devices)

/-- What is known of the audio headers. -/
structure Headers.Lawful (H : Headers) : Prop where
  fm_unpaired : State.pairedInput H H.AUDIO_DEVICE_OUT_FM = none
  paired_input : ∀ device, ∀ input ∈ State.pairedInput H device,
    H.audio_is_input_device input = true
  output_ne_zero : ∀ device, H.audio_is_output_device device = true → device ≠ 0

namespace State

variable {R : Type} {B : Base R} {H : Headers} {c : Client} {isAnalog : Bool} {device : Devices}
  {state : ConnectionState} {device_address : String} {outputs : SortedVector ℕ} {s s' : State R}

/-- A result of a call on `s` that is an error comes with the essentials of `s`. -/
def CleanError (s : State R) (result : Option (Status × State R)) : Prop :=
  ∀ r ∈ result, r.1 ≠ noError → r.2.essentials = s.essentials

theorem cleanError_none : CleanError s none := fun r hr => absurd hr (Option.not_mem_none r)

theorem cleanError_some {r : Status × State R} : CleanError s (some r) ↔
    (r.1 ≠ noError → r.2.essentials = s.essentials) := by
  unfold CleanError
  simp only [Option.mem_some_iff, forall_eq']

theorem changeOutput_of_error {status : Status} (hne : status ≠ noError)
    (h : s.setOutputState B H c isAnalog device state device_address = some (status, s', outputs)) :
    s.changeOutput B H c isAnalog device state device_address = some (status, s') := by
  unfold changeOutput
  rw [h, Option.bind_some]
  exact if_pos hne

theorem changeOutput_of_ok
    (h : s.setOutputState B H c isAnalog device state device_address = some (noError, s', outputs)) :
    s.changeOutput B H c isAnalog device state device_address =
      (s'.finishOutput B H device state outputs).map (changePaired B H device state) := by
  unfold changeOutput
  rw [h, Option.bind_some]
  exact if_neg (not_not.2 rfl)

/-! ### The condition -/

/-- The device can be connected. -/
def Connects (c : Client) (device : Devices) (s : State R) : Prop :=
  s.mAvailableOutputDevices.has device = false ∧
    (s.checkOutputsForDevice c device .available).1 = noError

/-- The output device changes, and the primary output is open. -/
def ChangesOutput (c : Client) (device : Devices) (state : ConnectionState) (s : State R) : Prop :=
  match state with
  | .available =>
    s.Connects c device ∧ s.mPrimaryOutput ∈ (s.checkOutputsForDevice c device .available).2.1.mOutputs
  | .unavailable => s.mAvailableOutputDevices.has device = true ∧ s.mPrimaryOutput ∈ s.mOutputs
  | .other _ => False

/-- The input device can follow: it is not there yet, or it is there. -/
def InputFits (state : ConnectionState) (device : Devices) (s : State R) : Prop :=
  match state with
  | .available => s.hasInput device = false
  | .unavailable => s.hasInput device = true
  | .other _ => False

/-- The call does not fail after it has written. -/
structure FailsClean (B : Base R) (H : Headers) (c : Client) (device : Devices)
    (state : ConnectionState) (s : State R) : Prop where
  /-- FM that gets a mode can be connected. -/
  startFm : state = .available → device = H.AUDIO_DEVICE_OUT_FM → s.fmMode = .none →
    s.Connects c device
  /-- FM that is not connected is off when it is disconnected. -/
  stopFm : state = .unavailable → device = H.AUDIO_DEVICE_OUT_FM →
    s.mAvailableOutputDevices.has device = false → s.stopFm B H device ≠ none →
      s.fmMode = .none ∧ s.pendingForceNone = false
  /-- The input device can follow an output device that changes. -/
  paired : s.ChangesOutput c device state → ∀ input ∈ pairedInput H device, s.InputFits state input

/-! ### The input device -/

theorem setInputState_ok_iff : (s.setInputState B H device state).1 = noError ↔
    s.InputFits state device := by
  unfold setInputState InputFits
  cases state with
  | available =>
    dsimp only
    split
    next h => exact iff_of_false invalidOperation_ne (by simp [h])
    next h => exact iff_of_true rfl (by simpa using h)
  | unavailable =>
    dsimp only
    split
    next h => exact iff_of_false invalidOperation_ne (by simp [h])
    next h => exact iff_of_true rfl (by simpa using h)
  | other code => exact iff_of_false badValue_ne id

/-- An error of the input device leaves everything as it was. -/
theorem setInputState_error (h : (s.setInputState B H device state).1 ≠ noError) :
    (s.setInputState B H device state).2 = s := by
  unfold setInputState at h ⊢
  cases state with
  | available =>
    dsimp only at h ⊢
    split at h
    next h1 => rw [if_pos h1]
    next => exact absurd rfl h
  | unavailable =>
    dsimp only at h ⊢
    split at h
    next h1 => rw [if_pos h1]
    next => exact absurd rfl h
  | other code => rfl

/-- Once the output has changed, the call fails clean only if the input device can follow. -/
theorem paired_iff (hH : H.Lawful) {s₀ : State R} (hd : Keeps s s')
    (hout : s.mAvailableOutputDevices ≠ s₀.mAvailableOutputDevices)
    (hin : s.mAvailableInputDevices = s₀.mAvailableInputDevices) :
    ((s'.changePaired B H device state).1 ≠ noError →
        (s'.changePaired B H device state).2.essentials = s₀.essentials) ↔
      ∀ input ∈ pairedInput H device, s₀.InputFits state input := by
  unfold changePaired
  cases hp : pairedInput H device with
  | none => exact iff_of_true (fun h => absurd rfl h) nofun
  | some input =>
    have hfits : s'.InputFits state input ↔ s₀.InputFits state input := by
      unfold InputFits hasInput
      rw [hd.mAvailableInputDevices, hin]
    simp only [hH.paired_input device input hp, if_true, Option.mem_some_iff, forall_eq']
    rw [← hfits, ← setInputState_ok_iff (B := B) (H := H)]
    constructor
    · intro h
      by_contra hne
      have he := h hne
      rw [setInputState_error hne] at he
      apply hout
      rw [← hd.mAvailableOutputDevices]
      exact congrArg Essentials.mAvailableOutputDevices he
    · intro h hne
      exact absurd h hne

/-- An output without a paired input device does not fail at its end. -/
theorem cleanError_of_unpaired {s₁ : State R} (hp : pairedInput H device = none) :
    CleanError s ((s₁.finishOutput B H device state outputs).map (changePaired B H device state)) := by
  intro r hr hne
  obtain ⟨s₂, -, rfl⟩ := Option.map_eq_some_iff.1 hr
  unfold changePaired at hne
  rw [hp] at hne
  exact absurd rfl hne

/-- The end of an output change. -/
theorem cleanError_finish (hH : H.Lawful) {s₁ : State R}
    (hout : s₁.mAvailableOutputDevices ≠ s.mAvailableOutputDevices)
    (hin : s₁.mAvailableInputDevices = s.mAvailableInputDevices)
    (hfinish : ∃ s₂, s₁.finishOutput B H device state outputs = some s₂) :
    CleanError s ((s₁.finishOutput B H device state outputs).map (changePaired B H device state)) ↔
      ∀ input ∈ pairedInput H device, s.InputFits state input := by
  obtain ⟨s₂, hs⟩ := hfinish
  rw [hs, Option.map_some, cleanError_some]
  exact paired_iff hH (keeps_finishOutput hs) hout hin

/-! ### Connecting -/

theorem openProfile_setFmMode {mode : FmMode} {p : ℕ} : (s.setFmMode mode).openProfile c p =
    ((s.openProfile c p).1.setFmMode mode, (s.openProfile c p).2) := by
  unfold openProfile
  dsimp only [setFmMode]
  split_ifs <;> rfl

theorem openProfiles_setFmMode {mode : FmMode} {ps : List ℕ} :
    openProfiles c ps (s.setFmMode mode) outputs =
      ((openProfiles c ps s outputs).1.setFmMode mode, (openProfiles c ps s outputs).2) := by
  induction ps generalizing s outputs with
  | nil => rfl
  | cons p ps ih =>
    unfold openProfiles
    rw [openProfile_setFmMode]
    have hopen : (s.setFmMode mode).isOpen p = s.isOpen p := rfl
    rw [hopen]
    split
    · rw [ih]
    · rcases s.openProfile c p with ⟨s₁, - | output⟩
      · exact ih
      · dsimp only
        rw [ih]

/-- The outputs for a device do not depend on FM. -/
theorem connects_setFmMode {mode : FmMode} :
    (s.setFmMode mode).Connects c device ↔ s.Connects c device := by
  have hcheck : ((s.setFmMode mode).checkOutputsForDevice c device .available).1 =
      (s.checkOutputsForDevice c device .available).1 := by
    unfold checkOutputsForDevice connectOutputs
    rw [if_pos rfl, if_pos rfl]
    dsimp only
    have houtputs : (s.setFmMode mode).outputsWith (fun supported => supported.has device) =
      s.outputsWith fun supported => supported.has device := rfl
    have hprofiles : (s.setFmMode mode).profilesFor device = s.profilesFor device := rfl
    rw [houtputs, hprofiles, openProfiles_setFmMode]
    split <;> rfl
  unfold Connects
  rw [hcheck]
  exact Iff.rfl

section Connect

variable (B c device_address)

theorem connect_of_none (hs : s.startFm H isAnalog device = none) :
    s.setOutputState B H c isAnalog device .available device_address =
      some (invalidOperation, s, .empty) := by
  unfold setOutputState connectDevice
  rw [hs]

/-- A device that cannot be connected: nothing essential changes but the mode of FM. -/
theorem connect_refused {s₁ : State R} (hs : s.startFm H isAnalog device = some s₁)
    (h : ¬s₁.Connects c device) : ∃ s₂ outputs,
      s.setOutputState B H c isAnalog device .available device_address =
          some (invalidOperation, s₂, outputs) ∧ OnlyOutputs s₁ s₂ ∧ SameOutputs s₁ s₂ := by
  unfold setOutputState connectDevice
  rw [hs]
  dsimp only
  split
  · exact ⟨s₁, .empty, rfl, .refl s₁, fun _ => rfl⟩
  next hhas =>
    have hcheck : (s₁.checkOutputsForDevice c device .available).1 ≠ noError :=
      fun e => h ⟨by simpa using hhas, e⟩
    rw [if_pos hcheck]
    exact ⟨_, _, rfl, only_connectOutputs, same_connectOutputs hcheck⟩

theorem connect_ok {s₁ : State R} (hs : s.startFm H isAnalog device = some s₁)
    (h : s₁.Connects c device) : ∃ s₂,
      s.setOutputState B H c isAnalog device .available device_address =
          some (noError, s₂, (s₁.checkOutputsForDevice c device .available).2.2) ∧
        Keeps { s₁ with
          mAvailableOutputDevices := s₁.mAvailableOutputDevices ||| device } s₂ ∧
        s₂.mOutputs = (s₁.checkOutputsForDevice c device .available).2.1.mOutputs := by
  have honly : OnlyOutputs s₁ (s₁.checkOutputsForDevice c device .available).2.1 :=
    only_connectOutputs
  unfold setOutputState connectDevice
  rw [hs]
  dsimp only
  rw [if_neg (by simp [h.1]), if_neg (not_not.2 h.2)]
  generalize (s₁.checkOutputsForDevice c device .available).2.1 = s₂ at honly
  generalize (s₁.checkOutputsForDevice c device .available).2.2 = outputs
  have hsame : Same { s₂ with mAvailableOutputDevices := s₂.mAvailableOutputDevices ||| device }
      (setAddress H device device_address outputs
        { s₂ with mAvailableOutputDevices := s₂.mAvailableOutputDevices ||| device }) :=
    same_setAddress _
  refine ⟨_, rfl, .trans ?_ hsame.keeps, hsame.mOutputs⟩
  rw [honly]
  exact ⟨rfl, rfl, rfl, rfl, rfl, rfl, rfl⟩

end Connect

/-- FM that gets a mode has to be connected too. -/
theorem cleanError_connect_fm (hH : H.Lawful) (hfm : device = H.AUDIO_DEVICE_OUT_FM) :
    CleanError s (s.changeOutput B H c isAnalog device .available device_address) ↔
      (s.fmMode = .none → s.Connects c device) := by
  have hunpaired : pairedInput H device = none := hfm ▸ hH.fm_unpaired
  obtain ⟨mode, hne, hs⟩ := startFm_of_fm isAnalog s hfm
  by_cases hoff : s.fmMode = .none
  · rw [if_pos hoff] at hs
    by_cases hc : (s.setFmMode mode).Connects c device
    · obtain ⟨s₂, h2, -⟩ := connect_ok B c device_address hs hc
      rw [changeOutput_of_ok h2]
      exact iff_of_true (cleanError_of_unpaired hunpaired) fun _ => connects_setFmMode.1 hc
    · obtain ⟨s₂, outputs, h2, honly, hsame⟩ := connect_refused B c device_address hs hc
      have he := essentials_of_outputs honly hsame
      rw [changeOutput_of_error invalidOperation_ne h2, cleanError_some]
      refine iff_of_false ?_ fun h => hc (connects_setFmMode.2 (h hoff))
      intro h
      have hmode : mode = s.fmMode :=
        congrArg Essentials.fmMode (he.symm.trans (h invalidOperation_ne))
      exact hne (hmode.trans hoff)
  · rw [if_neg hoff] at hs
    rw [changeOutput_of_error invalidOperation_ne (connect_of_none B c device_address hs),
      cleanError_some]
    exact iff_of_true (fun _ => rfl) fun h => absurd h hoff

/-- Another output is connected as a whole, or not at all; its input device may fail. -/
theorem cleanError_connect (hH : H.Lawful) (hdev : H.audio_is_output_device device = true)
    (hfm : device ≠ H.AUDIO_DEVICE_OUT_FM) :
    CleanError s (s.changeOutput B H c isAnalog device .available device_address) ↔
      (s.ChangesOutput c device .available →
        ∀ input ∈ pairedInput H device, s.InputFits .available input) := by
  have hs : s.startFm H isAnalog device = some s := startFm_of_ne hfm
  by_cases hc : s.Connects c device
  · obtain ⟨s₂, h2, hkeeps, houtputs⟩ := connect_ok B c device_address hs hc
    rw [changeOutput_of_ok h2]
    by_cases hopen : s.mPrimaryOutput ∈ (s.checkOutputsForDevice c device .available).2.1.mOutputs
    · have hlisted : Listed s₂ (s.checkOutputsForDevice c device .available).2.2 := by
        unfold Listed
        rw [houtputs]
        exact listed_connectOutputs
      have hopen' : s₂.mPrimaryOutput ∈ s₂.mOutputs := by
        rw [hkeeps.mPrimaryOutput, houtputs]
        exact hopen
      have hfinish : ∃ s₃, s₂.finishOutput B H device .available _ = some s₃ :=
        finishOutput_of_listed hopen' hlisted
      have hne : s₂.mAvailableOutputDevices ≠ s.mAvailableOutputDevices := by
        rw [hkeeps.mAvailableOutputDevices]
        exact Devices.or_ne_self hc.1 (hH.output_ne_zero device hdev)
      rw [cleanError_finish hH hne hkeeps.mAvailableInputDevices hfinish]
      exact ⟨fun h _ => h, fun h => h ⟨hc, hopen⟩⟩
    · have hclosed : s₂.finishOutput B H device .available
          (s.checkOutputsForDevice c device .available).2.2 = none := by
        unfold finishOutput
        exact if_neg (by rw [hkeeps.mPrimaryOutput, houtputs]; exact hopen)
      rw [hclosed]
      exact iff_of_true cleanError_none fun h => absurd h.2 hopen
  · obtain ⟨s₂, outputs, h2, honly, hsame⟩ := connect_refused B c device_address hs hc
    rw [changeOutput_of_error invalidOperation_ne h2, cleanError_some]
    exact iff_of_true (fun _ => essentials_of_outputs honly hsame) fun h => absurd h.1 hc

/-! ### Disconnecting -/

section Disconnect

variable (c isAnalog device_address)

theorem disconnect_refused {s₁ : State R} (hs : s.stopFm B H device = some s₁)
    (h : s.mAvailableOutputDevices.has device = false) :
    s.setOutputState B H c isAnalog device .unavailable device_address =
      some (invalidOperation, s₁, .empty) := by
  unfold setOutputState disconnectDevice
  dsimp only
  rw [hs, Option.map_some, if_pos (by rw [(devices_stopFm hs).1]; exact h)]

theorem disconnect_ok {s₁ : State R} (hs : s.stopFm B H device = some s₁)
    (h : s.mAvailableOutputDevices.has device = true) : ∃ s₂,
      s.setOutputState B H c isAnalog device .unavailable device_address =
          some (noError, s₂, s₁.outputsWith fun supported =>
            !supported.has (s₁.mAvailableOutputDevices &&& ~~~device)) ∧
        Keeps { s₁ with
          mAvailableOutputDevices := s₁.mAvailableOutputDevices &&& ~~~device } s₂ ∧
        s₂.mOutputs = s₁.mOutputs := by
  obtain ⟨hout, hin⟩ := devices_stopFm hs
  unfold setOutputState disconnectDevice
  dsimp only
  rw [hs, Option.map_some, if_neg (by rw [hout, h]; decide)]
  refine ⟨_, rfl, .trans ?_ (same_clearAddress _).keeps, (same_clearAddress _).mOutputs⟩
  exact ⟨rfl, rfl, rfl, rfl, rfl, rfl, rfl⟩

end Disconnect

/-- FM that is not connected is turned off all the same. -/
theorem cleanError_disconnect_fm (hH : H.Lawful) (hfm : device = H.AUDIO_DEVICE_OUT_FM) :
    CleanError s (s.changeOutput B H c isAnalog device .unavailable device_address) ↔
      (s.mAvailableOutputDevices.has device = false → s.stopFm B H device ≠ none →
        s.fmMode = .none ∧ s.pendingForceNone = false) := by
  have hunpaired : pairedInput H device = none := hfm ▸ hH.fm_unpaired
  rcases hs : s.stopFm B H device with - | s₁
  · have hnone : s.changeOutput B H c isAnalog device .unavailable device_address = none := by
      unfold changeOutput setOutputState disconnectDevice
      rw [hs]
      rfl
    rw [hnone]
    exact iff_of_true cleanError_none fun _ h => absurd rfl h
  · rcases Bool.eq_false_or_eq_true (s.mAvailableOutputDevices.has device) with hhas | hhas
    · obtain ⟨s₂, h2, -⟩ := disconnect_ok c isAnalog device_address hs hhas
      rw [changeOutput_of_ok h2]
      exact iff_of_true (cleanError_of_unpaired hunpaired) fun h => absurd (hhas.symm.trans h) (by decide)
    · rw [changeOutput_of_error invalidOperation_ne (disconnect_refused c isAnalog device_address hs hhas),
        cleanError_some, (stopFm_of_fm hfm hs).essentials, essentials_fmOff]
      exact ⟨fun h _ _ => h invalidOperation_ne, fun h _ => h hhas nofun⟩

theorem cleanError_disconnect (hH : H.Lawful) (hfm : device ≠ H.AUDIO_DEVICE_OUT_FM) :
    CleanError s (s.changeOutput B H c isAnalog device .unavailable device_address) ↔
      (s.ChangesOutput c device .unavailable →
        ∀ input ∈ pairedInput H device, s.InputFits .unavailable input) := by
  have hs : s.stopFm B H device = some s := stopFm_of_ne hfm
  rcases Bool.eq_false_or_eq_true (s.mAvailableOutputDevices.has device) with hhas | hhas
  · obtain ⟨s₂, h2, hkeeps, houtputs⟩ := disconnect_ok c isAnalog device_address hs hhas
    generalize s.outputsWith _ = outputs at h2
    rw [changeOutput_of_ok h2]
    by_cases hopen : s.mPrimaryOutput ∈ s.mOutputs
    · have hopen' : s₂.mPrimaryOutput ∈ s₂.mOutputs := by
        rw [hkeeps.mPrimaryOutput, houtputs]
        exact hopen
      have hfinish : ∃ s₃, s₂.finishOutput B H device .unavailable outputs = some s₃ :=
        finishOutput_of_unavailable hopen'
      have hne : s₂.mAvailableOutputDevices ≠ s.mAvailableOutputDevices := by
        rw [hkeeps.mAvailableOutputDevices]
        exact Devices.and_not_ne_self hhas
      rw [cleanError_finish hH hne hkeeps.mAvailableInputDevices hfinish]
      exact ⟨fun h _ => h, fun h => h ⟨hhas, hopen⟩⟩
    · have hclosed : s₂.finishOutput B H device .unavailable outputs = none := by
        unfold finishOutput
        exact if_neg (by rw [hkeeps.mPrimaryOutput, houtputs]; exact hopen)
      rw [hclosed]
      exact iff_of_true cleanError_none fun h => absurd h.2 hopen
  · rw [changeOutput_of_error invalidOperation_ne (disconnect_refused c isAnalog device_address hs hhas), cleanError_some]
    exact iff_of_true (fun _ => rfl) fun h => absurd (hhas.symm.trans h.1) (by decide)

/-! ### Whole calls -/

theorem cleanError_changeOutput (hH : H.Lawful) (hdev : H.audio_is_output_device device = true) :
    CleanError s (s.changeOutput B H c isAnalog device state device_address) ↔
      s.FailsClean B H c device state := by
  by_cases hfm : device = H.AUDIO_DEVICE_OUT_FM
  · have hunpaired : ∀ input ∈ pairedInput H device, s.InputFits state input := by
      rw [hfm, hH.fm_unpaired]
      exact fun input h => absurd h (Option.not_mem_none input)
    cases state with
    | available =>
      rw [cleanError_connect_fm hH hfm]
      exact ⟨fun h => ⟨fun _ _ => h, nofun, fun _ => hunpaired⟩, fun h => h.startFm rfl hfm⟩
    | unavailable =>
      rw [cleanError_disconnect_fm hH hfm]
      exact ⟨fun h => ⟨nofun, fun _ _ => h, fun _ => hunpaired⟩, fun h => h.stopFm rfl hfm⟩
    | other code =>
      rw [changeOutput_of_error badValue_ne rfl, cleanError_some]
      exact iff_of_true (fun _ => rfl) ⟨nofun, nofun, fun _ => hunpaired⟩
  · cases state with
    | available =>
      rw [cleanError_connect hH hdev hfm]
      exact ⟨fun h => ⟨fun _ e => absurd e hfm, nofun, h⟩, fun h => h.paired⟩
    | unavailable =>
      rw [cleanError_disconnect hH hfm]
      exact ⟨fun h => ⟨nofun, fun _ e => absurd e hfm, h⟩, fun h => h.paired⟩
    | other code =>
      rw [changeOutput_of_error badValue_ne rfl, cleanError_some]
      exact iff_of_true (fun _ => rfl) ⟨nofun, nofun, fun h => absurd h id⟩

/-- An output device that passes the checks. -/
structure Accepted (H : Headers) (device : Devices) (device_address : String) (s : State R) :
    Prop where
  output : H.audio_is_output_device device = true
  address : device_address.utf8ByteSize < H.MAX_DEVICE_ADDRESS_LEN
  present : s.refuses H device = false

/-- **Errors.** A call that returns an error has changed nothing the manager decides by, if and only
if it does not fail after it has written. -/
theorem atomic_iff (hH : H.Lawful) :
    (∀ r ∈ s.setDeviceConnectionState B H c isAnalog device state device_address,
      r.1 ≠ noError → r.2.essentials = s.essentials) ↔
      (s.Accepted H device device_address → s.saveOutputs.FailsClean B H c device state) := by
  show CleanError s _ ↔ _
  unfold setDeviceConnectionState
  split
  next hclass =>
    rw [cleanError_some]
    exact iff_of_true (fun _ => rfl) fun h => absurd (h.output.symm.trans hclass.1) (by decide)
  next =>
    split
    next haddress =>
      rw [cleanError_some]
      exact iff_of_true (fun _ => rfl) fun h => absurd haddress (not_le.2 h.address)
    next haddress =>
      split
      next hdev =>
        split
        next hrefused =>
          rw [cleanError_some]
          exact iff_of_true (fun _ => rfl) fun h => absurd (h.present.symm.trans hrefused) (by decide)
        next hpresent =>
          rw [← cleanError_changeOutput hH hdev]
          exact ⟨fun h _ => h, fun h => h ⟨hdev, not_le.1 haddress, by simpa using hpresent⟩⟩
      next hdev =>
        rw [cleanError_some]
        refine iff_of_true (fun h => ?_) fun h => absurd h.output hdev
        rw [setInputState_error h]

end State

theorem lawful_plain : Headers.plain.Lawful where
  fm_unpaired := rfl
  paired_input := by
    intro device input h
    unfold State.pairedInput at h
    split_ifs at h
    · obtain rfl := Option.some.inj h
      decide
    · obtain rfl := Option.some.inj h
      decide
    · cases h
  output_ne_zero := by
    intro device h
    simp only [Headers.plain, oneOf, decide_eq_true_eq] at h
    exact h.1

namespace State

/-- A headset that is not connected cannot be disconnected, and nothing changes. -/
theorem atomic_headset : ∃ r, plain.setDeviceConnectionState .plain .plain .plain false 0x4
    .unavailable "" = some r ∧ r.1 = invalidOperation ∧ r.2.essentials = plain.essentials := by
  have h : (plain.setDeviceConnectionState .plain .plain .plain false 0x4 .unavailable "").any
      (fun r => r.1 = invalidOperation) = true := by decide +kernel
  simp only [Option.any_eq_true, decide_eq_true_eq] at h
  obtain ⟨r, hr, hstatus⟩ := h
  have hclean : plain.saveOutputs.FailsClean .plain .plain .plain 0x4 .unavailable :=
    ⟨fun e => absurd e (by decide), fun _ e => absurd e (by decide), fun h => absurd h.1 (by decide)⟩
  exact ⟨r, hr, hstatus, (atomic_iff lawful_plain).2 (fun _ => hclean) r hr
    (hstatus ▸ invalidOperation_ne)⟩

/-- A car kit is connected beside a Bluetooth headset: it stays an available output device, though
the call returns that the input device is connected already. -/
theorem car_kit_beside_headset : ∃ r, plain.setDeviceConnectionState .plain .plain .plain false 0x20
    .available "" = some r ∧ r.1 = noError ∧
      ¬∀ r' ∈ r.2.setDeviceConnectionState .plain .plain .plain false 0x40 .available "",
        r'.1 ≠ noError → r'.2.essentials = r.2.essentials := by
  have h : (plain.setDeviceConnectionState .plain .plain .plain false 0x20 .available "").any
      (fun r => r.1 = noError ∧ r.2.mAvailableOutputDevices = 0x23 ∧
        (r.2.setDeviceConnectionState .plain .plain .plain false 0x40 .available "").any
          fun r' => r'.1 = invalidOperation ∧ r'.2.mAvailableOutputDevices = 0x63) = true := by
    decide +kernel
  simp only [Option.any_eq_true, decide_eq_true_eq] at h
  obtain ⟨r, hr, hok, hheadset, r', hr', hstatus, hboth⟩ := h
  refine ⟨r, hr, hok, ?_⟩
  intro hclean
  have hsame : r'.2.mAvailableOutputDevices = r.2.mAvailableOutputDevices :=
    congrArg Essentials.mAvailableOutputDevices (hclean r' hr' (hstatus ▸ invalidOperation_ne))
  rw [hboth, hheadset] at hsame
  exact absurd hsame (by decide)

end State

end Msm7x27a.Policy
