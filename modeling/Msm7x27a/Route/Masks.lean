import Msm7x27a.Route.Steps

/-!
# The masks of post-processing over whole runs

A call does one of a few things to post-processing (`moved`): it leaves it alone, assigns the mask
for the next device, routes to a device, starts or stops the PCM playback, or writes the flag of LPA.
`step_pp` says so of every call, and both results of this file are read off it.

* The masks that are sent are sound (`Sound`) in a run exactly if post-processing is enabled only for
  devices with a record of a range compressor, or with a mask that asks for none.
* Post-processing is off when nothing plays (`OffWhenSilent`) in a run exactly if the reset of an LPA
  session finds it off where no PCM plays: `reset` clears the flag and sends nothing.
-/

namespace Msm7x27a.Route

open Msm7x27a.Audio
open Msm7x27a.Lpa (AudioSessionOutLPA)

/-! ### What a call does to post-processing -/

inductive Move where
  | keep
  /-- The mask for the next device is assigned. -/
  | assign (mask : BitVec 32)
  /-- The mask is assigned, and the device is routed to. -/
  | route (mask : BitVec 32) (device : Int)
  /-- The PCM output starts. -/
  | start
  /-- The PCM output goes to standby. -/
  | stop
  | lpa (b : Bool)
  deriving DecidableEq, Repr

def PostProc.move (E : Env) (a : Answers) (pp : PostProc) : Move → PostProc
  | .keep => pp
  | .assign mask => { pp with new_post_proc_feature_mask := mask }
  | .route mask device =>
    { pp with new_post_proc_feature_mask := mask }.reconfigure E.e E.F a.control device
  | .start => pp.startPcm E.e E.F (a.control true)
  | .stop => pp.stopPcm E.e E.F (a.control false)
  | .lpa b => pp.lpa b

/-- `doRouting`, by the choice it makes. -/
def chosen (c : Choice) (mCurSndDevice : Int) : Move :=
  if c.new_snd_device ≠ -1 ∧ c.new_snd_device ≠ mCurSndDevice then
    .route c.new_post_proc_feature_mask c.new_snd_device
  else .assign c.new_post_proc_feature_mask

def routeMove (E : Env) (a : Answers) (input : Option Devices) (outputDevice : Devices) (s : State) :
    Move :=
  match s.outputDevices outputDevice with
  | none => .keep
  | some outputDevices =>
    if input = some E.h.DEVICE_IN_VOICE_CALL then .keep
    else chosen (choose E a input outputDevices s) s.hw.mCurSndDevice

/-- The write that fills the last buffer before the start. -/
def AudioStreamOutMSM72xx.Starts (o : AudioStreamOutMSM72xx) (a : Answers) : Prop :=
  o.mStandby = false ∧ a.write = true ∧ o.mStartCount = 1

instance (o : AudioStreamOutMSM72xx) (a : Answers) : Decidable (o.Starts a) := by
  unfold AudioStreamOutMSM72xx.Starts; infer_instance

/-- What the call does to post-processing. -/
def moved (E : Env) (s : State) (c : Call) : Move :=
  match c.op with
  | .doRouting input outputDevice => routeMove E c.a input outputDevice s
  | .inputStandby mDevices =>
    if c.a.isFMAnalog = false ∧ s.hw.isFmon = false then
      routeMove E c.a (some mDevices) 0 s.clearCurDevice
    else .keep
  | .writePcm => if ∃ o ∈ s.mOutput, o.2.Starts c.a then .start else .keep
  | .standbyPcm => if ∃ o ∈ s.mOutput, o.2.mStandby = false ∧ 0 ≤ o.2.mFd then .stop else .keep
  | .openLpa out format channels samplingRate o =>
    if s.Fresh out then
      .lpa (decide ((AudioSessionOutLPA.construct format channels samplingRate o).1 = noError))
    else .keep
  | .closeOutput out =>
    if s.mOutput.map Prod.fst ≠ some out ∧ s.mOutputLPA = some out then .lpa false else .keep
  | _ => .keep

section Moves

variable {E : Env} {a : Answers} {c : Call} {s s' : State}

theorem routeTo_pp (choice : Choice) :
    (routeTo E a choice.new_snd_device (s.assign choice)).2.pp =
      s.pp.move E a (chosen choice s.hw.mCurSndDevice) := by
  unfold chosen routeTo
  by_cases h : choice.new_snd_device ≠ -1 ∧ choice.new_snd_device ≠ s.hw.mCurSndDevice
  · rw [if_pos h, if_pos (show _ ∧ choice.new_snd_device ≠ (s.assign choice).hw.mCurSndDevice from h)]
    rfl
  · rw [if_neg h, if_neg (show ¬(_ ∧ choice.new_snd_device ≠ (s.assign choice).hw.mCurSndDevice) from h)]
    rfl

theorem doRouting_pp {input : Option Devices} {outputDevice : Devices}
    (h : (doRouting E a input outputDevice s).map Prod.snd = some s') :
    s'.pp = s.pp.move E a (routeMove E a input outputDevice s) := by
  unfold doRouting at h
  rw [Option.map_map] at h
  obtain ⟨outputDevices, ho, rfl⟩ := Option.map_eq_some_iff.1 h
  unfold routeMove
  rw [ho]
  dsimp only [Function.comp_apply]
  unfold doRoutingOf
  split
  · rfl
  · exact routeTo_pp _

theorem inputStandby_pp {mDevices : Devices} (h : inputStandby E c.a mDevices s = some s')
    (hop : c.op = .inputStandby mDevices) : s'.pp = s.pp.move E c.a (moved E s c) := by
  unfold inputStandby at h
  obtain ⟨s₁, h1, rfl⟩ := Option.map_eq_some_iff.1 h
  have hpp : (if s₁.FmA2dpStatus ≠ 0 then { s₁ with FmA2dpStatus := 0 } else s₁).pp = s₁.pp := by
    split <;> rfl
  rw [hpp]
  unfold moved
  rw [hop]
  dsimp only
  by_cases hstay : c.a.isFMAnalog = false ∧ s.hw.isFmon = false
  · rw [if_pos hstay] at h1 ⊢
    exact doRouting_pp h1
  · rw [if_neg hstay] at h1 ⊢
    obtain rfl := Option.some.inj h1
    rfl

theorem openDriver_cases (a : Answers) (o : AudioStreamOutMSM72xx) :
    o.openDriver a = ({ o with mFd := -1 }, false) ∨ 0 ≤ a.pcmFd ∧
      o.openDriver a = ({ o with mFd := a.pcmFd, mStartCount := numOutBuf, mStandby := false }, true) := by
  unfold AudioStreamOutMSM72xx.openDriver
  split
  · exact .inl rfl
  next hfd =>
    split
    · exact .inl rfl
    · exact .inr ⟨by omega, rfl⟩

/-- A write that does not start the audio takes the output from `o` to `o'`. -/
structure AudioStreamOutMSM72xx.Waits (o o' : AudioStreamOutMSM72xx) : Prop where
  running : o.mStandby = false →
    o'.mStandby = false ∧ o'.mFd = o.mFd ∧ (o'.mStartCount = 0 ↔ o.mStartCount = 0)
  opened : o.mStandby = true → o'.mStandby = false → 0 ≤ o'.mFd ∧ o'.mStartCount ≠ 0

theorem countBuffer_cases (a : Answers) (p : ℕ) (o : AudioStreamOutMSM72xx) (s : State) :
    o.mStartCount = 1 ∧ countBuffer E a p o s =
        { s.record .pcmStart with
          mOutput := some (p, { o with mStartCount := 0 })
          pp := s.pp.startPcm E.e E.F (a.control true) } ∨
      o.mStartCount ≠ 1 ∧ countBuffer E a p o s =
        { s with mOutput := some (p, { o with mStartCount := o.mStartCount - 1 }) } := by
  unfold countBuffer
  by_cases h1 : o.mStartCount = 1
  · rw [if_pos h1, h1]
    exact .inl ⟨rfl, rfl⟩
  · rw [if_neg h1]
    exact .inr ⟨h1, rfl⟩

/-- **What a write does.** It starts the audio or it waits. -/
theorem writePcm_cases (h : writePcm E a s = some s') : ∃ p o, s.mOutput = some (p, o) ∧
    (o.Starts a ∧ s' =
        { s.record .pcmStart with
          mOutput := some (p, { o with mStartCount := 0 })
          pp := s.pp.startPcm E.e E.F (a.control true) } ∨
      ¬o.Starts a ∧ ∃ o', s' = { s with mOutput := some (p, o') } ∧ o.Waits o') := by
  obtain ⟨⟨p, o⟩, ho, rfl⟩ := Option.map_eq_some_iff.1 h
  refine ⟨p, o, ho, ?_⟩
  dsimp only
  rcases Bool.eq_false_or_eq_true o.mStandby with hst | hst
  · -- two buffers are missing after the driver is opened
    have hno : ¬o.Starts a := fun h => by simp [h.1] at hst
    refine .inr ⟨hno, ?_⟩
    rw [if_pos hst]
    rcases openDriver_cases a o with he | ⟨hfd, he⟩
    · rw [he, if_pos (.inl rfl)]
      exact ⟨_, rfl, by simp [hst], by simp [hst]⟩
    · rw [he]
      split
      · exact ⟨_, rfl, by simp [hst], fun _ _ => ⟨hfd, by simp [numOutBuf]⟩⟩
      · rcases countBuffer_cases (E := E) a p { o with
            mFd := a.pcmFd, mStartCount := numOutBuf, mStandby := false } s with ⟨h1, -⟩ | ⟨-, hc⟩
        · cases h1
        · rw [hc]
          exact ⟨_, rfl, by simp [hst], fun _ _ => ⟨hfd, by simp [numOutBuf]⟩⟩
  · have hon : ¬o.mStandby = true := by simp [hst]
    rw [if_neg hon]
    cases hw : a.write with
    | false =>
      rw [if_pos (.inr rfl)]
      exact .inr ⟨fun h => by simp [h.2.1] at hw, o, rfl, fun _ => ⟨hst, rfl, .rfl⟩, by simp [hst]⟩
    | true =>
      rw [if_neg (by simp)]
      rcases countBuffer_cases (E := E) a p o s with ⟨h1, hc⟩ | ⟨h1, hc⟩
      · exact .inl ⟨⟨hst, hw, h1⟩, hc⟩
      · refine .inr ⟨fun h => h1 h.2.2, _, hc, fun _ => ⟨hst, rfl, ?_⟩, by simp [hst]⟩
        show o.mStartCount - 1 = 0 ↔ o.mStartCount = 0
        omega

theorem writePcm_pp (h : writePcm E a s = some s') :
    s'.pp = s.pp.move E a (if ∃ o ∈ s.mOutput, o.2.Starts a then .start else .keep) := by
  obtain ⟨p, o, ho, h⟩ := writePcm_cases h
  simp only [ho, Option.mem_some_iff, exists_eq_left']
  rcases h with ⟨hstarts, rfl⟩ | ⟨hno, o', rfl, -⟩
  · rw [if_pos hstarts]
    rfl
  · rw [if_neg hno]
    rfl

theorem standbyPcm_pp (h : standbyPcm E a s = some s') :
    s'.pp = s.pp.move E a
      (if ∃ o ∈ s.mOutput, o.2.mStandby = false ∧ 0 ≤ o.2.mFd then .stop else .keep) := by
  obtain ⟨⟨p, o⟩, ho, rfl⟩ := Option.map_eq_some_iff.1 h
  simp only [ho, Option.mem_some_iff, exists_eq_left']
  by_cases h1 : o.mStandby = false ∧ 0 ≤ o.mFd
  · rw [if_pos h1, if_pos h1]
    rfl
  · rw [if_neg h1, if_neg h1]
    rfl

theorem openLpa_pp (out : ℕ) (format : AudioFormat) (channels samplingRate : ℕ)
    (o : AudioSessionOutLPA.OpenOutcome) :
    (openLpa out format channels samplingRate o s).pp = s.pp.lpa
      (decide ((AudioSessionOutLPA.construct format channels samplingRate o).1 = noError)) := by
  unfold openLpa
  split
  next h => simp [h]
  next h => simp [h]

theorem closeOutputStream_pp (out : ℕ) : (closeOutputStream out s).pp = s.pp.move E a
    (if s.mOutput.map Prod.fst ≠ some out ∧ s.mOutputLPA = some out then .lpa false else .keep) := by
  unfold closeOutputStream
  split
  next h =>
    rw [if_neg (fun h' => h'.1 h)]
    rfl
  next h =>
    split
    next h' =>
      rw [if_pos ⟨h, h'⟩]
      rfl
    next h' =>
      rw [if_neg (fun hc => h' hc.2)]
      rfl

/-- **What a call does to post-processing.** -/
theorem step_pp (hs : step E s c = some s') : s'.pp = s.pp.move E c.a (moved E s c) := by
  obtain ⟨op, a⟩ := c
  cases op with
  | doRouting input outputDevice => exact doRouting_pp hs
  | setMode mode =>
    obtain rfl := Option.some.inj hs
    rfl
  | setMicMute state =>
    obtain rfl := Option.some.inj hs
    show (setMicMute E.e a state s).2.pp = s.pp
    unfold setMicMute
    dsimp only
    split <;> rfl
  | clearCurDevice =>
    obtain rfl := Option.some.inj hs
    rfl
  | setTtyMode mode =>
    obtain rfl := Option.some.inj hs
    rfl
  | setDualMic enabled =>
    obtain rfl := Option.some.inj hs
    rfl
  | enableFM =>
    obtain rfl := Option.some.inj hs
    show (enableFM a s).pp = s.pp
    unfold enableFM
    split_ifs <;> rfl
  | disableFM =>
    obtain rfl := Option.some.inj hs
    show (disableFM s).pp = s.pp
    unfold disableFM
    split <;> rfl
  | inputStandby mDevices => exact inputStandby_pp hs rfl
  | openPcm out devices accepted =>
    simp only [step] at hs
    split at hs
    · obtain rfl := Option.some.inj hs
      show (openPcm out devices accepted s).pp = s.pp
      unfold openPcm
      split <;> rfl
    · cases hs
  | setPcmDevices devices =>
    obtain ⟨⟨p, o⟩, -, rfl⟩ := Option.map_eq_some_iff.1 hs
    rfl
  | writePcm => exact writePcm_pp hs
  | standbyPcm => exact standbyPcm_pp hs
  | openLpa out format channels samplingRate o =>
    simp only [step] at hs
    split at hs
    next hfresh =>
      obtain rfl := Option.some.inj hs
      unfold moved
      simp only [if_pos hfresh]
      exact openLpa_pp ..
    next => cases hs
  | closeOutput out =>
    obtain rfl := Option.some.inj hs
    exact closeOutputStream_pp out

end Moves

/-! ### Sound masks -/

/-- The device and the mask that post-processing is enabled with, if it is. -/
def Move.enables (pp : PostProc) : Move → Option (Int × BitVec 32)
  | .route mask device => if pp.playing then some (device, mask) else none
  | .start => some (pp.snd_device, pp.new_post_proc_feature_mask)
  | _ => none

/-- Every mask that was sent is sound. -/
def MasksSound (E : Env) (s : State) : Prop := Log.Always (Sound E.e E.F) s.pp.log

/-- If the call enables post-processing for a device, then the device has a record of a range
compressor or the mask asks for none. -/
def Compresses (E : Env) (s : State) (c : Call) : Prop :=
  ∀ p ∈ (moved E s c).enables s.pp, 0 ≤ p.1 → E.F.Compresses (device_id E.e p.1) p.2

instance (E : Env) : DecidablePred (MasksSound E) := fun _ => by unfold MasksSound; infer_instance

instance (E : Env) (s : State) : DecidablePred (Compresses E s) := fun _ => by
  unfold Compresses; infer_instance

/-- The drivers are willing, and `audio.legacy.postproc` is true. -/
structure Answers.Legacy (a : Answers) : Prop extends a.Succeed where
  legacy : ∀ state, (a.control state).legacy = true

theorem legacy_default : ({} : Answers).Legacy := ⟨succeed_default, fun _ => rfl⟩

section Sound

variable {E : Env} {a : Answers} {pp : PostProc}

theorem reconfigure_of_silent (h : pp.playing = false) (device : Int) :
    pp.reconfigure E.e E.F a.control device = { pp with
      snd_device := device, post_proc_feature_mask := pp.new_post_proc_feature_mask } := by
  have h' : PostProc.playing { pp with
      snd_device := device, post_proc_feature_mask := pp.new_post_proc_feature_mask } = false := h
  unfold PostProc.reconfigure
  simp only [h, h', Bool.false_eq_true, if_false]

/-- Post-processing is disabled, then enabled for the device. -/
theorem reconfigure_of_playing (h : pp.playing = true) (device : Int) :
    pp.reconfigure E.e E.F a.control device =
      (msm72xx_enable_postproc E.e E.F (a.control true) true
        { (msm72xx_enable_postproc E.e E.F (a.control false) false pp).2 with
          snd_device := device
          post_proc_feature_mask := pp.new_post_proc_feature_mask }).2 := by
  have same : SameGlobals pp (msm72xx_enable_postproc E.e E.F (a.control false) false pp).2 :=
    same_enable pp
  unfold PostProc.reconfigure
  simp only [h, if_true, same.new_post_proc_feature_mask]
  apply if_pos
  unfold PostProc.playing at h ⊢
  rw [same.hpcm, same.lpa]
  exact h

/-- **Sound masks, move by move.** -/
theorem always_move (ha : a.Legacy) (hF : E.F.audpp_filter_inited = true) (m : Move) :
    Log.Always (Sound E.e E.F) (pp.move E a m).log ↔ Log.Always (Sound E.e E.F) pp.log ∧
      ∀ p ∈ m.enables pp, 0 ≤ p.1 → E.F.Compresses (device_id E.e p.1) p.2 := by
  cases m with
  | route mask device =>
    simp only [PostProc.move, Move.enables]
    cases hp : pp.playing with
    | true =>
      have hp' : PostProc.playing { pp with new_post_proc_feature_mask := mask } = true := hp
      rw [reconfigure_of_playing hp', enable_sound_iff (ha.legacy true) (ha.opens true) hF,
        disable_sound_iff]
      simp
    | false =>
      have hp' : PostProc.playing { pp with new_post_proc_feature_mask := mask } = false := hp
      rw [reconfigure_of_silent hp']
      simp
  | start =>
    unfold PostProc.move PostProc.startPcm Move.enables
    rw [enable_sound_iff (ha.legacy true) (ha.opens true) hF]
    simp
  | stop =>
    unfold PostProc.move PostProc.stopPcm Move.enables
    dsimp only
    split
    · rw [disable_sound_iff]
      simp
    · simp
  | _ => simp [PostProc.move, Move.enables, PostProc.lpa]

end Sound

/-- A call that moves post-processing comes to an end. -/
theorem exists_step_of_moved {E : Env} {s : State} {c : Call} (h : moved E s c ≠ .keep) :
    ∃ s', step E s c = some s' := by
  have hroute : ∀ {input outputDevice s₀}, routeMove E c.a input outputDevice s₀ ≠ .keep →
      ∃ r, doRouting E c.a input outputDevice s₀ = some r := by
    intro input outputDevice s₀ h
    unfold routeMove at h
    split at h
    · exact absurd rfl h
    next outputDevices ho => exact ⟨_, by rw [doRouting, ho]; rfl⟩
  obtain ⟨op, a⟩ := c
  cases op with
  | doRouting input outputDevice =>
    obtain ⟨r, hr⟩ := hroute h
    exact ⟨r.2, by simp only [step, hr]; rfl⟩
  | inputStandby mDevices =>
    unfold moved at h
    simp only at h
    split at h
    next hstay =>
      obtain ⟨r, hr⟩ := hroute h
      exact ⟨_, by simp only [step, inputStandby, if_pos hstay, hr]; rfl⟩
    next => exact absurd rfl h
  | writePcm =>
    unfold moved at h
    simp only at h
    split at h
    next ho =>
      obtain ⟨o, ho, -⟩ := ho
      exact ⟨_, by simp only [step, writePcm, Option.mem_def.1 ho]; rfl⟩
    next => exact absurd rfl h
  | standbyPcm =>
    unfold moved at h
    simp only at h
    split at h
    next ho =>
      obtain ⟨o, ho, -⟩ := ho
      exact ⟨_, by simp only [step, standbyPcm, Option.mem_def.1 ho]; rfl⟩
    next => exact absurd rfl h
  | openLpa out format channels samplingRate o =>
    unfold moved at h
    simp only at h
    split at h
    next hfresh => exact ⟨_, if_pos hfresh⟩
    next => exact absurd rfl h
  | closeOutput out => exact ⟨_, rfl⟩
  | _ => exact absurd rfl h

/-- **The range compressors.** With the drivers willing and the filter file accepted, the masks sent
are sound after every call of a run if and only if every call that enables post-processing does so
for a device with a record of a range compressor, or with a mask that asks for none. -/
theorem masksSound_iff (E : Env) (hF : E.F.audpp_filter_inited = true) (fd : Int) (junk : Option ℕ)
    (calls : List Call) (hcalls : ∀ c ∈ calls, c.a.Legacy) :
    Runs.Along (step E) (Runs.Ends (step E) (MasksSound E)) (init fd junk) calls ↔
      Runs.Along (step E) (Compresses E) (init fd junk) calls := by
  refine Runs.along_congr (A := fun c => c.a.Legacy) (I := MasksSound E) ?_ ?_ trivial hcalls
  · intro s c ha hsound
    have hstep : ∀ s', step E s c = some s' → (MasksSound E s' ↔ Compresses E s c) := by
      intro s' hs
      unfold MasksSound
      rw [step_pp hs, always_move ha hF]
      exact and_iff_right hsound
    constructor
    · intro hends p hp
      have hmoved : moved E s c ≠ .keep := by
        intro h
        rw [h] at hp
        cases hp
      obtain ⟨s', hs⟩ := exists_step_of_moved hmoved
      exact (hstep s' hs).1 (hends s' hs) p hp
    · intro hc s' hs
      exact (hstep s' hs).2 hc
  · intro s c s' _ _ hends hs
    exact hends s' hs

/-- A route to the speaker, playback, a route to the handset, standby. -/
theorem masksSound_playback :
    Runs.Along (step .plain) (Runs.Ends (step .plain) (MasksSound .plain)) (init 3 none)
      [⟨.openPcm 7 0x2 true, {}⟩, ⟨.doRouting none 0x2, {}⟩, ⟨.writePcm, {}⟩, ⟨.writePcm, {}⟩,
        ⟨.doRouting none 0x1, {}⟩, ⟨.standbyPcm, {}⟩] := by
  refine (masksSound_iff .plain rfl 3 none _ ?_).2 (by decide +kernel)
  simp [legacy_default]

/-- The same tables without a record of a range compressor. -/
def Env.uncompressed : Env :=
  { Env.plain with F := { Filters.plain with mbadrc_filter_exists := fun _ => false } }

/-- Playback over the speaker enables both range compressors. -/
theorem both_compressors : ∃ s,
    Runs.run (step .uncompressed) (init 3 none)
      [⟨.openPcm 7 0x2 true, {}⟩, ⟨.doRouting none 0x2, {}⟩, ⟨.writePcm, {}⟩, ⟨.writePcm, {}⟩] =
        some s ∧ ¬MasksSound .uncompressed s :=
  Runs.exists_run (by decide +kernel)

/-! ### Off when nothing plays -/

/-- With no playback in progress, the last mask that was sent enables nothing. -/
def OffWhenSilent (s : State) : Prop := s.pp.playing = false → LastOff s.pp.log

/-- If the call resets an LPA session while no PCM plays, post-processing is off already. -/
def ResetsOff (E : Env) (s : State) (c : Call) : Prop :=
  moved E s c = .lpa false → s.pp.hpcm_playback_in_progress = false → LastOff s.pp.log

instance : DecidablePred OffWhenSilent := fun _ => by unfold OffWhenSilent; infer_instance

instance (E : Env) (s : State) : DecidablePred (ResetsOff E s) := fun _ => by
  unfold ResetsOff; infer_instance

/-- Without a sound device nothing has been enabled, or all is off again. -/
def PostProc.OffWithoutDevice (pp : PostProc) : Prop := pp.snd_device < 0 → LastOff pp.log

section Off

variable {E : Env} {a : Answers} {pp : PostProc}

/-- Disabling turns everything off, for any device. -/
theorem off_disable (ha : a.Legacy) (hF : E.F.audpp_filter_inited = true)
    (h : pp.OffWithoutDevice) :
    LastOff (msm72xx_enable_postproc E.e E.F (a.control false) false pp).2.log := by
  by_cases hd : 0 ≤ pp.snd_device
  · exact lastOff_disable (ha.legacy false) (ha.opens false) hF hd
  · rw [log_enable_of_neg (by omega)]
    exact h (by omega)

/-- **The setting without a device, move by move.** -/
theorem offWithoutDevice_move (ha : a.Legacy) (hF : E.F.audpp_filter_inited = true)
    (h : pp.OffWithoutDevice) (hoff : pp.playing = false → LastOff pp.log) (m : Move) :
    (pp.move E a m).OffWithoutDevice := by
  cases m with
  | route mask device =>
    simp only [PostProc.move]
    intro hneg
    cases hp : pp.playing with
    | true =>
      have hp' : PostProc.playing { pp with new_post_proc_feature_mask := mask } = true := hp
      rw [reconfigure_of_playing hp'] at hneg ⊢
      rw [(same_enable _).snd_device] at hneg
      rw [log_enable_of_neg hneg]
      apply off_disable ha hF
      exact h
    | false =>
      have hp' : PostProc.playing { pp with new_post_proc_feature_mask := mask } = false := hp
      rw [reconfigure_of_silent hp']
      exact hoff hp
  | start =>
    intro hneg
    simp only [PostProc.move, PostProc.startPcm] at hneg ⊢
    rw [(same_enable _).snd_device] at hneg
    rw [log_enable_of_neg hneg]
    exact h hneg
  | stop =>
    simp only [PostProc.move, PostProc.stopPcm]
    split
    · intro _
      apply off_disable ha hF
      exact h
    · exact h
  | _ => exact h

/-- **Off when nothing plays, move by move.** Only the reset of an LPA session can break it. -/
theorem off_move (ha : a.Legacy) (hF : E.F.audpp_filter_inited = true) (h : pp.OffWithoutDevice)
    (hoff : pp.playing = false → LastOff pp.log) (m : Move) :
    ((pp.move E a m).playing = false → LastOff (pp.move E a m).log) ↔
      (m = .lpa false → pp.hpcm_playback_in_progress = false → LastOff pp.log) := by
  cases m with
  | keep => exact iff_of_true hoff nofun
  | assign mask => exact iff_of_true hoff nofun
  | route mask device =>
    refine iff_of_true ?_ nofun
    simp only [PostProc.move]
    cases hp : pp.playing with
    | true =>
      have hp' : PostProc.playing { pp with new_post_proc_feature_mask := mask } = true := hp
      rw [reconfigure_of_playing hp']
      intro hsilent
      unfold PostProc.playing at hp hsilent
      rw [(same_enable _).hpcm, (same_enable _).lpa] at hsilent
      simp only [(same_enable _).hpcm, (same_enable _).lpa, hp] at hsilent
      cases hsilent
    | false =>
      have hp' : PostProc.playing { pp with new_post_proc_feature_mask := mask } = false := hp
      rw [reconfigure_of_silent hp']
      exact fun _ => hoff hp
  | start =>
    refine iff_of_true ?_ nofun
    intro hsilent
    simp only [PostProc.move, PostProc.startPcm] at hsilent
    unfold PostProc.playing at hsilent
    rw [(same_enable _).hpcm] at hsilent
    cases hsilent
  | stop =>
    refine iff_of_true ?_ nofun
    simp only [PostProc.move, PostProc.stopPcm]
    split
    next =>
      intro _
      apply off_disable ha hF
      exact h
    next hlpa =>
      intro hsilent
      exact absurd (by simpa [PostProc.playing] using hsilent) hlpa
  | lpa b =>
    cases b with
    | true =>
      refine iff_of_true ?_ nofun
      intro hsilent
      simp [PostProc.move, PostProc.lpa, PostProc.playing] at hsilent
    | false =>
      simp [PostProc.move, PostProc.lpa, PostProc.playing]

end Off

/-- **Nothing plays.** With the drivers willing and the filter file accepted, post-processing is off
whenever nothing plays, after every call of a run, if and only if every reset of an LPA session while
no PCM plays finds it off. -/
theorem offWhenSilent_iff (E : Env) (hF : E.F.audpp_filter_inited = true) (fd : Int)
    (junk : Option ℕ) (calls : List Call) (hcalls : ∀ c ∈ calls, c.a.Legacy) :
    Runs.Along (step E) (Runs.Ends (step E) OffWhenSilent) (init fd junk) calls ↔
      Runs.Along (step E) (ResetsOff E) (init fd junk) calls := by
  refine Runs.along_congr (A := fun c => c.a.Legacy)
    (I := fun s => OffWhenSilent s ∧ s.pp.OffWithoutDevice) ?_ ?_ ?_ hcalls
  · rintro s c ha ⟨hoff, hdev⟩
    have hstep : ∀ s', step E s c = some s' → (OffWhenSilent s' ↔ ResetsOff E s c) := by
      intro s' hs
      unfold OffWhenSilent
      rw [step_pp hs]
      exact off_move ha hF hdev hoff _
    constructor
    · intro hends hmoved
      obtain ⟨s', hs⟩ := exists_step_of_moved (E := E) (s := s) (c := c) (by simp [hmoved])
      exact (hstep s' hs).1 (hends s' hs) hmoved
    · intro hc s' hs
      exact (hstep s' hs).2 hc
  · rintro s c s' ha ⟨hoff, hdev⟩ hends hs
    refine ⟨hends s' hs, ?_⟩
    rw [step_pp hs]
    exact offWithoutDevice_move ha hF hdev hoff _
  · exact ⟨fun _ => nofun, fun _ => nofun⟩

/-- PCM playback starts and ends, then an LPA session is opened and closed. -/
theorem offWhenSilent_playback :
    Runs.Along (step .plain) (Runs.Ends (step .plain) OffWhenSilent) (init 3 none)
      [⟨.openPcm 7 0x2 true, {}⟩, ⟨.doRouting none 0x2, {}⟩, ⟨.writePcm, {}⟩, ⟨.writePcm, {}⟩,
        ⟨.standbyPcm, {}⟩, ⟨.openLpa 8 .pcm16Bit 2 44100 ⟨4, {}, 1, 5, 0, []⟩, {}⟩,
        ⟨.closeOutput 8, {}⟩] := by
  refine (offWhenSilent_iff .plain rfl 3 none _ ?_).2 (by decide +kernel)
  simp [legacy_default]

/-- A route during LPA playback enables the filters, and the session is closed. -/
theorem left_on : ∃ s,
    Runs.run (step .plain) (init 3 none)
      [⟨.doRouting none 0x1, {}⟩, ⟨.openLpa 8 .pcm16Bit 2 44100 ⟨4, {}, 1, 5, 0, []⟩, {}⟩,
        ⟨.doRouting none 0x2, {}⟩, ⟨.closeOutput 8, {}⟩] = some s ∧
      s.pp.playing = false ∧ ¬LastOff s.pp.log :=
  Runs.exists_run (by decide +kernel)

end Msm7x27a.Route
