import Msm7x27a.Policy.Connection

/-!
# What the manager decides by

What the helpers of `setForceUse` and `setDeviceConnectionState` leave alone of the devices, of FM,
of the forced uses and of the open outputs, and when the end of an output change goes through.
-/

namespace Msm7x27a.Policy

open Msm7x27a.Audio (Status noError badValue)
open Msm7x27a.Route (Devices)

theorem invalidOperation_ne : invalidOperation ≠ noError := by decide

theorem badValue_ne : badValue ≠ noError := by decide

/-- What the manager decides by. -/
structure Essentials where
  mAvailableOutputDevices : Devices
  mAvailableInputDevices : Devices
  fmMode : FmMode
  pendingForceNone : Bool
  mForceUse : ForceUse → ForcedConfig
  /-- The counts of every open output; `none` for a handle of none. -/
  mRefCount : ℕ → Option (StreamType → ℕ)

namespace State

variable {R : Type} {B : Base R} {H : Headers} {c : Client} {isAnalog : Bool} {device : Devices}
  {state : ConnectionState} {device_address : String} {outputs : SortedVector ℕ} {s s' : State R}

def essentials (s : State R) : Essentials where
  mAvailableOutputDevices := s.mAvailableOutputDevices
  mAvailableInputDevices := s.mAvailableInputDevices
  fmMode := s.fmMode
  pendingForceNone := s.pendingForceNone
  mForceUse := s.mForceUse
  mRefCount output := (s.mOutputs.valueFor output).map (·.mRefCount)

/-! ### What the helpers leave alone -/

/-- At most what the essentials leave out differs, and the open outputs are the same. -/
structure Same (s s' : State R) : Prop where
  essentials : s'.essentials = s.essentials
  mOutputs : s'.mOutputs = s.mOutputs
  mPrimaryOutput : s'.mPrimaryOutput = s.mPrimaryOutput
  mHwModules : s'.mHwModules = s.mHwModules

theorem Same.refl (s : State R) : Same s s := ⟨rfl, rfl, rfl, rfl⟩

theorem Same.trans {s'' : State R} (h : Same s s') (h' : Same s' s'') : Same s s'' :=
  ⟨h'.1.trans h.1, h'.2.trans h.2, h'.3.trans h.3, h'.4.trans h.4⟩

theorem same_setOutputDevice (output : ℕ) (device : Devices) (force : Bool) :
    Same s (s.setOutputDevice output device force) := ⟨rfl, rfl, rfl, rfl⟩

theorem same_setParameters (handle : ℕ) (parameter : Parameter) :
    Same s (s.setParameters handle parameter) := ⟨rfl, rfl, rfl, rfl⟩

/-- A loop that records. -/
theorem same_foldl {α : Type} {f : State R → α → State R} (hf : ∀ s a, Same s (f s a)) (l : List α)
    (s : State R) : Same s (l.foldl f s) := by
  induction l generalizing s with
  | nil => exact .refl s
  | cons a l ih => exact (hf s a).trans (ih _)

theorem same_routeOutputs (force : State R → ℕ → Devices → Bool) (s : State R) :
    Same s (s.routeOutputs B force) :=
  same_foldl (fun _ _ => same_setOutputDevice ..) _ s

theorem same_sendTo (parameter : Parameter) (h : Same s s') :
    Same s (s'.sendTo outputs parameter) :=
  h.trans (same_foldl (fun _ _ => same_setParameters ..) _ s')

theorem same_routeActiveInput (s : State R) : Same s (s.routeActiveInput B H) := by
  unfold routeActiveInput
  dsimp only
  split
  · exact .refl s
  · split
    · exact .refl s
    · split
      · exact ⟨rfl, rfl, rfl, rfl⟩
      · exact .refl s

theorem same_update (s : State R) : Same s (((s.checkA2dpSuspend B).checkOutputForAllStrategies
    B).updateDevicesAndOutputs B) := ⟨rfl, rfl, rfl, rfl⟩

theorem same_applyForceUse (s : State R) : Same s (s.applyForceUse B H) :=
  ((same_update s).trans (same_routeOutputs _ _)).trans (same_routeActiveInput _)

theorem same_setAddress (s : State R) : Same s (s.setAddress H device device_address outputs) := by
  unfold setAddress
  split
  · exact .refl s
  · split
    · exact same_sendTo _ ⟨rfl, rfl, rfl, rfl⟩
    · split
      · exact ⟨rfl, rfl, rfl, rfl⟩
      · split
        · dsimp only
          split
          · exact ⟨rfl, rfl, rfl, rfl⟩
          · exact same_sendTo _ ⟨rfl, rfl, rfl, rfl⟩
        · exact .refl s

theorem same_clearAddress (s : State R) : Same s (s.clearAddress H device) := by
  unfold clearAddress
  split_ifs <;> exact ⟨rfl, rfl, rfl, rfl⟩

/-- The available devices, FM, the forced uses, the primary output and the modules are the same. -/
structure Keeps (s s' : State R) : Prop where
  mAvailableOutputDevices : s'.mAvailableOutputDevices = s.mAvailableOutputDevices
  mAvailableInputDevices : s'.mAvailableInputDevices = s.mAvailableInputDevices
  fmMode : s'.fmMode = s.fmMode
  pendingForceNone : s'.pendingForceNone = s.pendingForceNone
  mForceUse : s'.mForceUse = s.mForceUse
  mPrimaryOutput : s'.mPrimaryOutput = s.mPrimaryOutput
  mHwModules : s'.mHwModules = s.mHwModules

theorem Keeps.refl (s : State R) : Keeps s s := ⟨rfl, rfl, rfl, rfl, rfl, rfl, rfl⟩

theorem Keeps.trans {s'' : State R} (h : Keeps s s') (h' : Keeps s' s'') : Keeps s s'' :=
  ⟨h'.1.trans h.1, h'.2.trans h.2, h'.3.trans h.3, h'.4.trans h.4, h'.5.trans h.5, h'.6.trans h.6,
    h'.7.trans h.7⟩

theorem Same.keeps (h : Same s s') : Keeps s s' where
  mAvailableOutputDevices := congrArg Essentials.mAvailableOutputDevices h.essentials
  mAvailableInputDevices := congrArg Essentials.mAvailableInputDevices h.essentials
  fmMode := congrArg Essentials.fmMode h.essentials
  pendingForceNone := congrArg Essentials.pendingForceNone h.essentials
  mForceUse := congrArg Essentials.mForceUse h.essentials
  mPrimaryOutput := h.mPrimaryOutput
  mHwModules := h.mHwModules

theorem OnlyOutputs.keeps (h : OnlyOutputs s s') : Keeps s s' := by
  rw [h]
  exact ⟨rfl, rfl, rfl, rfl, rfl, rfl, rfl⟩

/-- A failed check changes nothing essential. -/
theorem essentials_of_outputs (h : OnlyOutputs s s') (ho : SameOutputs s s') :
    s'.essentials = s.essentials := by
  have hcounts : (fun output => (s'.mOutputs.valueFor output).map (·.mRefCount)) =
      fun output => (s.mOutputs.valueFor output).map (·.mRefCount) := by
    funext output
    rw [ho output]
  rw [h]
  unfold essentials
  simp only [hcounts]

/-! ### FM -/

/-- Turning FM off changes nothing essential if FM is off and no forced use was put off. -/
theorem essentials_fmOff : (s.fmOff B H).essentials = s.essentials ↔
    s.fmMode = .none ∧ s.pendingForceNone = false := by
  unfold fmOff
  cases hp : s.pendingForceNone with
  | true =>
    have hset : (s.setFmMode .none).setForceUse B H .media .none =
        ({ s.setFmMode .none with pendingForceNone := false }.storeForceUse .media
          .none).applyForceUse B H := rfl
    have hpending : (s.setFmMode .none).pendingForceNone = true := hp
    simp only [hpending, if_true, hset]
    rw [(same_applyForceUse _).essentials]
    refine iff_of_false ?_ (by simp)
    intro h
    have h' : false = s.pendingForceNone := congrArg Essentials.pendingForceNone h
    rw [hp] at h'
    cases h'
  | false =>
    have hpending : (s.setFmMode .none).pendingForceNone = false := hp
    simp only [hpending, Bool.false_eq_true, if_false, and_true]
    constructor
    · intro h
      have h' : FmMode.none = s.fmMode := congrArg Essentials.fmMode h
      exact h'.symm
    · intro h
      unfold essentials setFmMode
      simp only [h]

/-- Turning FM off leaves the outputs and the available devices alone. -/
structure SameDevices (s s' : State R) : Prop where
  mAvailableOutputDevices : s'.mAvailableOutputDevices = s.mAvailableOutputDevices
  mAvailableInputDevices : s'.mAvailableInputDevices = s.mAvailableInputDevices

theorem SameDevices.trans {s'' : State R} (h : SameDevices s s') (h' : SameDevices s' s'') :
    SameDevices s s'' := ⟨h'.1.trans h.1, h'.2.trans h.2⟩

theorem Same.devices (h : Same s s') : SameDevices s s' :=
  ⟨congrArg Essentials.mAvailableOutputDevices h.essentials,
    congrArg Essentials.mAvailableInputDevices h.essentials⟩

/-- What `fmOff` stores is no device and no output. -/
theorem fmOff_cases : ∃ s₁ : State R, SameDevices s s₁ ∧ s₁.mOutputs = s.mOutputs ∧
    Same s₁ (s.fmOff B H) := by
  unfold fmOff
  dsimp only
  split
  · have h : Same ({ s.setFmMode .none with pendingForceNone := false }.storeForceUse .media .none)
        ((s.setFmMode .none).setForceUse B H .media .none) := same_applyForceUse _
    refine ⟨_, ?_, ?_, h⟩
    · exact ⟨rfl, rfl⟩
    · rfl
  · exact ⟨s.setFmMode .none, ⟨rfl, rfl⟩, rfl, .refl _⟩

theorem devices_fmOff : SameDevices s (s.fmOff B H) := by
  obtain ⟨s₁, hdevices, -, h⟩ := fmOff_cases (B := B) (H := H) (s := s)
  exact hdevices.trans h.devices

/-- `stopFm` is about FM only. -/
theorem stopFm_of_ne (h : device ≠ H.AUDIO_DEVICE_OUT_FM) : s.stopFm B H device = some s := if_neg h

theorem stopFm_of_fm (h : device = H.AUDIO_DEVICE_OUT_FM) (hs : s.stopFm B H device = some s') :
    Same (s.fmOff B H) s' := by
  unfold stopFm at hs
  rw [if_pos h] at hs
  dsimp only at hs
  split at hs
  · split at hs
    · obtain rfl := Option.some.inj hs
      exact same_setOutputDevice ..
    · cases hs
  · obtain rfl := Option.some.inj hs
    exact .refl _

theorem devices_stopFm (hs : s.stopFm B H device = some s') : SameDevices s s' := by
  by_cases h : device = H.AUDIO_DEVICE_OUT_FM
  · exact devices_fmOff.trans (stopFm_of_fm h hs).devices
  · rw [stopFm_of_ne h] at hs
    obtain rfl := Option.some.inj hs
    exact ⟨rfl, rfl⟩

theorem mOutputs_fmOff : (s.fmOff B H).mOutputs = s.mOutputs := by
  obtain ⟨s₁, -, houtputs, h⟩ := fmOff_cases (B := B) (H := H) (s := s)
  exact h.mOutputs.trans houtputs

theorem mOutputs_stopFm (hs : s.stopFm B H device = some s') : s'.mOutputs = s.mOutputs := by
  by_cases h : device = H.AUDIO_DEVICE_OUT_FM
  · exact (stopFm_of_fm h hs).mOutputs.trans mOutputs_fmOff
  · rw [stopFm_of_ne h] at hs
    exact congrArg mOutputs (Option.some.inj hs).symm

theorem startFm_of_ne (h : device ≠ H.AUDIO_DEVICE_OUT_FM) : s.startFm H isAnalog device = some s :=
  if_neg h

/-- FM gets a mode if it is off. -/
theorem startFm_of_fm (isAnalog : Bool) (s : State R) (h : device = H.AUDIO_DEVICE_OUT_FM) :
    ∃ mode, mode ≠ .none ∧
      s.startFm H isAnalog device = if s.fmMode = .none then some (s.setFmMode mode) else none := by
  have hmode : (if isAnalog then FmMode.analog else .digital) ≠ .none := by
    cases isAnalog <;> decide
  refine ⟨_, hmode, ?_⟩
  unfold startFm
  rw [if_pos h]
  dsimp only
  by_cases hoff : s.fmMode = .none
  · rw [if_neg (hoff ▸ hmode), if_neg (not_not.2 hoff), if_pos hoff]
  · rw [if_pos hoff, if_neg hoff]
    exact ite_self none

/-- FM is on already. -/
theorem startFm_eq_none (h : s.startFm H isAnalog device = none) :
    device = H.AUDIO_DEVICE_OUT_FM ∧ s.fmMode ≠ .none := by
  by_cases hfm : device = H.AUDIO_DEVICE_OUT_FM
  · obtain ⟨mode, -, hs⟩ := startFm_of_fm isAnalog s hfm
    rw [hs] at h
    split at h
    · cases h
    next hon => exact ⟨hfm, hon⟩
  · rw [startFm_of_ne hfm] at h
    cases h

theorem startFm_of_off (isAnalog : Bool) (hoff : device = H.AUDIO_DEVICE_OUT_FM → s.fmMode = .none) :
    ∃ mode, s.startFm H isAnalog device = some (s.setFmMode mode) := by
  by_cases hfm : device = H.AUDIO_DEVICE_OUT_FM
  · obtain ⟨mode, -, hs⟩ := startFm_of_fm isAnalog s hfm
    exact ⟨mode, hs.trans (if_pos (hoff hfm))⟩
  · exact ⟨s.fmMode, startFm_of_ne hfm⟩

/-- Nothing but the mode of FM changes. -/
theorem startFm_cases (h : s.startFm H isAnalog device = some s') :
    (device = H.AUDIO_DEVICE_OUT_FM → s.fmMode = .none) ∧ ∃ mode, s' = s.setFmMode mode := by
  by_cases hfm : device = H.AUDIO_DEVICE_OUT_FM
  · obtain ⟨mode, -, hs⟩ := startFm_of_fm isAnalog s hfm
    rw [hs] at h
    split at h
    next hoff => exact ⟨fun _ => hoff, mode, (Option.some.inj h).symm⟩
    next => cases h
  · rw [startFm_of_ne hfm] at h
    exact ⟨fun e => absurd e hfm, s.fmMode, (Option.some.inj h).symm⟩

/-! ### The end of an output change -/

theorem keeps_countFm : Keeps s (s.countFm B H device state).1 := by
  unfold countFm
  dsimp only
  split
  · exact ⟨rfl, rfl, rfl, rfl, rfl, rfl, rfl⟩
  · exact .refl s

theorem mOutputs_countFm : (s.countFm B H device state).1.mOutputs =
    if device = H.AUDIO_DEVICE_OUT_FM then
      s.mOutputs.modify s.mPrimaryOutput (·.changeRefCount .music (if state = .available then 1 else -1))
    else s.mOutputs := by
  unfold countFm
  dsimp only
  split <;> rfl

theorem keeps_closeOutput (output : ℕ) : Keeps s (s.closeOutput B output) := by
  unfold closeOutput
  split
  · exact ⟨rfl, rfl, rfl, rfl, rfl, rfl, rfl⟩
  · exact .refl s

theorem keeps_closeUnused {l : List ℕ} (h : s.closeUnused B state l = some s') : Keeps s s' := by
  induction l generalizing s with
  | nil =>
    obtain rfl := Option.some.inj h
    exact .refl s
  | cons output l ih =>
    unfold closeUnused at h
    split at h
    · exact (keeps_closeOutput output).trans (ih h)
    · split at h
      · cases h
      · split at h
        · exact (keeps_closeOutput output).trans (ih h)
        · exact ih h

/-- What happens after an output device has changed: FM is counted, outputs are closed, and the
rest is nothing essential. -/
theorem finishOutput_cases (h : s.finishOutput B H device state outputs = some s') :
    s.mPrimaryOutput ∈ s.mOutputs ∧ ∃ s₁ s₂, Keeps s s₁ ∧
      s₁.mOutputs = (s.countFm B H device state).1.mOutputs ∧
      s₁.closeUnused B state outputs.toList = some s₂ ∧ Same s₂ s' := by
  unfold finishOutput at h
  split at h
  next hopen =>
    obtain ⟨s₂, h1, rfl⟩ := Option.map_eq_some_iff.1 h
    have hcount : Keeps s (s.countFm B H device state).1 := keeps_countFm
    generalize s.countFm B H device state = r at h1 hcount ⊢
    generalize hs₁ : ((r.1.setOutputDevice s.mPrimaryOutput r.2 false).checkA2dpSuspend
      B).checkOutputForAllStrategies B = s₁ at h1
    have hkeeps : Keeps r.1 s₁ := by
      rw [← hs₁]
      exact ⟨rfl, rfl, rfl, rfl, rfl, rfl, rfl⟩
    have houtputs : s₁.mOutputs = r.1.mOutputs := by
      rw [← hs₁]
      rfl
    have hupdate : Same s₂ (s₂.updateDevicesAndOutputs B) := ⟨rfl, rfl, rfl, rfl⟩
    exact ⟨hopen, s₁, s₂, hcount.trans hkeeps, houtputs, h1, hupdate.trans (same_routeOutputs _ _)⟩
  next => cases h

theorem keeps_finishOutput (h : s.finishOutput B H device state outputs = some s') : Keeps s s' := by
  obtain ⟨-, s₁, s₂, h1, -, h2, h3⟩ := finishOutput_cases h
  exact (h1.trans (keeps_closeUnused h2)).trans h3.keeps

/-- Closing an output leaves open the others that are no duplicating ones. -/
theorem valueFor_closeOutput {o output : ℕ} {desc : AudioOutputDescriptor}
    (ho : s.mOutputs.valueFor o = some desc) (hdup : desc.isDuplicated = false) (hne : o ≠ output) :
    (s.closeOutput B output).mOutputs.valueFor o = some desc := by
  have hno : ¬Duplicates desc output := by
    unfold AudioOutputDescriptor.isDuplicated at hdup
    unfold Duplicates
    split
    next h => exact id
    next o1 o2 h => simp [h] at hdup
  unfold closeOutput
  split
  · rw [KeyedVector.valueFor_filter, ho]
    exact Option.filter_some_pos (by simp [hne, hno])
  · exact ho

/-- Listed outputs can be closed one after the other. -/
theorem closeUnused_of_listed {l : List ℕ} (hl : l.Nodup)
    (h : ∀ output ∈ l, ∃ desc, s.mOutputs.valueFor output = some desc ∧ desc.isDuplicated = false) :
    ∃ s', s.closeUnused B state l = some s' := by
  induction l generalizing s with
  | nil => exact ⟨s, rfl⟩
  | cons output l ih =>
    obtain ⟨hnot, hl'⟩ := List.nodup_cons.1 hl
    have hclose : ∃ s', (s.closeOutput B output).closeUnused B state l = some s' := by
      apply ih hl'
      intro o ho
      obtain ⟨desc, hd, hdup⟩ := h o (List.mem_cons_of_mem _ ho)
      exact ⟨desc, valueFor_closeOutput hd hdup (fun e => hnot (e ▸ ho)), hdup⟩
    obtain ⟨desc, hd, -⟩ := h output (List.mem_cons_self ..)
    unfold closeUnused
    split
    · exact hclose
    · rw [hd]
      dsimp only
      split
      · exact hclose
      · exact ih hl' fun o ho => h o (List.mem_cons_of_mem _ ho)

theorem closeUnused_of_unavailable (l : List ℕ) (s : State R) :
    ∃ s', s.closeUnused B .unavailable l = some s' := by
  induction l generalizing s with
  | nil => exact ⟨s, rfl⟩
  | cons output l ih =>
    unfold closeUnused
    rw [if_pos rfl]
    exact ih _

theorem finishOutput_of_unavailable (h : s.mPrimaryOutput ∈ s.mOutputs) :
    ∃ s', s.finishOutput B H device .unavailable outputs = some s' := by
  unfold finishOutput
  rw [if_pos h]
  obtain ⟨s', hs⟩ := closeUnused_of_unavailable (B := B) outputs.toList _
  exact ⟨_, by dsimp only; rw [hs]; rfl⟩

/-- FM is counted on an open output, and no output is opened or closed. -/
theorem listed_countFm (hl : Listed s outputs) :
    Listed (s.countFm B H device state).1 outputs := by
  intro o ho
  obtain ⟨desc, hd, hdup⟩ := hl o ho
  unfold countFm
  dsimp only
  split
  · by_cases he : o = s.mPrimaryOutput
    · exact ⟨_, KeyedVector.valueFor_modify.trans ((if_pos he).trans (congrArg _ hd)), hdup⟩
    · exact ⟨desc, KeyedVector.valueFor_modify.trans ((if_neg he).trans hd), hdup⟩
  · exact ⟨desc, hd, hdup⟩

theorem finishOutput_of_listed (h : s.mPrimaryOutput ∈ s.mOutputs) (hl : Listed s outputs) :
    ∃ s', s.finishOutput B H device state outputs = some s' := by
  unfold finishOutput
  rw [if_pos h]
  dsimp only
  generalize hs₁ : (((s.countFm B H device state).1.setOutputDevice s.mPrimaryOutput
    (s.countFm B H device state).2 false).checkA2dpSuspend B).checkOutputForAllStrategies B = s₁
  have houtputs : s₁.mOutputs = (s.countFm B H device state).1.mOutputs := by
    rw [← hs₁]
    rfl
  have hlisted : Listed s₁ outputs := by
    unfold Listed
    rw [houtputs]
    exact listed_countFm hl
  have hclosed : ∃ s', s₁.closeUnused B state outputs.toList = some s' :=
    closeUnused_of_listed outputs.nodup hlisted
  obtain ⟨s', hs⟩ := hclosed
  rw [hs]
  exact ⟨_, rfl⟩

end State

end Msm7x27a.Policy
