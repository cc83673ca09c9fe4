import Msm7x27a.Route.Masks

/-!
# The playback flags over whole runs

`hpcm_playback_in_progress` and `lpa_playback_in_progress` against what the log says of the streams:
whether the PCM output has started and not gone to standby since (`pcmPlaying`), and which LPA
sessions have opened the driver and are not destroyed (`liveSessions`).  The flags match the streams
in a run exactly if the PCM output is not destroyed while it plays and no LPA session is destroyed
beside a living one: the destructor of the one does not clear its flag, and `reset` of the other
clears a flag that all sessions share.
-/

namespace Msm7x27a.Route

open Msm7x27a.Audio
open Msm7x27a.Lpa (AudioSessionOutLPA)

/-- The PCM output has started, and has not gone to standby or been destroyed since. -/
def pcmPlaying : List Event → Bool
  | [] => false
  | .pcmStart :: _ => true
  | .pcmStandby :: _ | .pcmDestroyed :: _ => false
  | _ :: log => pcmPlaying log

/-- The two flags are true exactly while such a stream plays. -/
def FlagsMatch (s : State) : Prop :=
  s.pp.hpcm_playback_in_progress = pcmPlaying s.log ∧
    (s.pp.lpa_playback_in_progress = true ↔ liveSessions s.log ≠ [])

/-- The PCM output is not closed while it plays, and no LPA session is destroyed, after a failed open
or by a close, while another one lives. -/
def ClosesCleanly (s : State) (c : Call) : Prop :=
  match c.op with
  | .openLpa out format channels samplingRate o =>
    s.Fresh out → (AudioSessionOutLPA.construct format channels samplingRate o).1 ≠ noError →
      liveSessions s.log = []
  | .closeOutput out =>
    if s.mOutput.map Prod.fst = some out then pcmPlaying s.log = false
    else s.mOutputLPA = some out → (liveSessions s.log).erase out = []
  | _ => True

instance : DecidablePred FlagsMatch := fun _ => by unfold FlagsMatch; infer_instance

/-! ### The streams and the log -/

/-- The members of the PCM output, and what the log says of it. -/
structure PcmInv (s : State) : Prop where
  fd : ∀ o ∈ s.mOutput, o.2.mStandby = false → 0 ≤ o.2.mFd
  playing : pcmPlaying s.log = true ↔
    ∃ o ∈ s.mOutput, o.2.mStandby = false ∧ o.2.mStartCount = 0

/-- A change that concerns no stream. -/
structure NoStream (s s' : State) : Prop where
  output : s'.mOutput = s.mOutput
  log : Log.Grows (fun ev => ¬ev.Aside) s.log s'.log

section Log

variable {log log' : List Event}

theorem pcmPlaying_of_grows (h : Log.Grows (fun ev => ¬ev.Aside) log log') :
    pcmPlaying log' = pcmPlaying log := by
  refine h.read_eq fun ev hev log => ?_
  cases ev with
  | micRequest | setDevice | switchMode => rfl
  | _ => exact absurd trivial hev

theorem liveSessions_of_grows (h : Log.Grows (fun ev => ¬ev.Aside) log log') :
    liveSessions log' = liveSessions log := by
  refine h.read_eq fun ev hev log => ?_
  cases ev with
  | micRequest | setDevice | switchMode => rfl
  | _ => exact absurd trivial hev

theorem grows_switchEvents (e : Endpoints) (cur device : Int) :
    Log.Grows (fun ev => ¬ev.Aside) log (switchEvents e cur device ++ log) := by
  refine ⟨_, rfl, ?_⟩
  unfold switchEvents
  split_ifs <;> simp [Event.Aside]

theorem grows_rpc (e : Endpoints) (a : Answers) (device : Int) (ear mic : Bool) (fd : Int) :
    Log.Grows (fun ev => ¬ev.Aside) log ((do_route_audio_rpc e a device ear mic fd).2 ++ log) := by
  refine ⟨_, rfl, ?_⟩
  unfold do_route_audio_rpc
  split_ifs <;> simp [Event.Aside]

end Log

section NoStream

variable {E : Env} {a : Answers} {s s' : State}

theorem NoStream.refl (s : State) : NoStream s s := ⟨rfl, .refl _⟩

theorem NoStream.inv (h : NoStream s s') (hi : PcmInv s) : PcmInv s' where
  fd := h.output ▸ hi.fd
  playing := by
    rw [pcmPlaying_of_grows h.log, h.output]
    exact hi.playing

theorem noStream_doAudioRouteOrMute (device : Int) :
    NoStream s (doAudioRouteOrMute E.e a device s).2 :=
  ⟨rfl, (grows_rpc ..).trans (grows_switchEvents ..)⟩

theorem noStream_doRoutingOf {input : Option Devices} {outputDevices : Devices} :
    NoStream s (doRoutingOf E a input outputDevices s).2 := by
  unfold doRoutingOf
  split
  · exact .refl s
  · dsimp only
    unfold routeTo
    split
    · have h := noStream_doAudioRouteOrMute (E := E) (a := a)
        (s := s.assign (choose E a input outputDevices s))
        (choose E a input outputDevices s).new_snd_device
      exact ⟨h.output, h.log⟩
    · exact ⟨rfl, .refl _⟩

theorem noStream_doRouting {input : Option Devices} {outputDevice : Devices}
    (h : (doRouting E a input outputDevice s).map Prod.snd = some s') : NoStream s s' := by
  unfold doRouting at h
  rw [Option.map_map] at h
  obtain ⟨outputDevices, -, rfl⟩ := Option.map_eq_some_iff.1 h
  exact noStream_doRoutingOf

theorem noStream_setMicMute (state : Bool) : NoStream s (setMicMute E.e a state s).2 := by
  have hrec : Log.Grows (fun ev => ¬ev.Aside) s.log (.micRequest state :: s.log) :=
    .cons id _
  unfold setMicMute
  dsimp only
  split
  · have h := noStream_doAudioRouteOrMute (E := E) (a := a)
      (s := { s.record (.micRequest state) with hw := { s.hw with mMicMute := state } }) (E.e .CURRENT)
    exact ⟨h.output, hrec.trans h.log⟩
  · exact ⟨rfl, hrec⟩

theorem noStream_enableFM : NoStream s (enableFM a s) := by
  unfold enableFM
  split_ifs <;> exact ⟨rfl, .refl _⟩

theorem noStream_disableFM : NoStream s (disableFM s) := by
  unfold disableFM
  split <;> exact ⟨rfl, .refl _⟩

theorem noStream_inputStandby {mDevices : Devices} (h : inputStandby E a mDevices s = some s') :
    NoStream s s' := by
  have hend : ∀ t : State, NoStream s t →
      NoStream s (if t.FmA2dpStatus ≠ 0 then { t with FmA2dpStatus := 0 } else t) := by
    intro t ht
    split
    · exact ⟨ht.output, ht.log⟩
    · exact ht
  obtain ⟨s₁, h1, rfl⟩ := Option.map_eq_some_iff.1 h
  apply hend
  split at h1
  · have h := noStream_doRouting h1
    exact ⟨h.output, h.log⟩
  · obtain rfl := Option.some.inj h1
    exact .refl s

end NoStream

/-! ### The PCM output -/

section Pcm

variable {E : Env} {a : Answers} {s s' : State} {p : ℕ} {o : AudioStreamOutMSM72xx}

theorem PcmInv.of_output (ho : s.mOutput = some (p, o)) (hfd : o.mStandby = false → 0 ≤ o.mFd)
    (hplaying : pcmPlaying s.log = true ↔ o.mStandby = false ∧ o.mStartCount = 0) : PcmInv s where
  fd := by simpa [ho] using hfd
  playing := by simpa [ho] using hplaying

theorem PcmInv.output (h : PcmInv s) (ho : s.mOutput = some (p, o)) :
    (o.mStandby = false → 0 ≤ o.mFd) ∧
      (pcmPlaying s.log = true ↔ o.mStandby = false ∧ o.mStartCount = 0) :=
  ⟨by simpa [ho] using h.fd (p, o), by simpa [ho] using h.playing⟩

theorem inv_writePcm (hi : PcmInv s) (h : writePcm E a s = some s') : PcmInv s' := by
  obtain ⟨p, o, ho, h⟩ := writePcm_cases h
  obtain ⟨hfd, hplaying⟩ := hi.output ho
  rcases h with ⟨hstarts, rfl⟩ | ⟨-, o', rfl, hw⟩
  · exact .of_output rfl hfd (iff_of_true rfl ⟨hstarts.1, rfl⟩)
  · cases hst : o.mStandby with
    | true =>
      have hno : pcmPlaying s.log ≠ true := fun h => by simpa [hst] using hplaying.1 h
      refine .of_output rfl (fun h => (hw.opened hst h).1) (iff_of_false hno ?_)
      rintro ⟨hst', h0⟩
      exact (hw.opened hst hst').2 h0
    | false =>
      obtain ⟨hst', hfd', h0⟩ := hw.running hst
      refine .of_output rfl (fun _ => by rw [hfd']; exact hfd hst) (hplaying.trans ?_)
      rw [hst, hst', h0]

theorem inv_standbyPcm (h : standbyPcm E a s = some s') : PcmInv s' := by
  obtain ⟨⟨p, o⟩, -, rfl⟩ := Option.map_eq_some_iff.1 h
  dsimp only
  split
  · exact .of_output rfl nofun (iff_of_false nofun nofun)
  · exact .of_output rfl nofun (iff_of_false nofun nofun)

theorem inv_openPcm (hi : PcmInv s) (out : ℕ) (devices : Devices) (accepted : Bool) :
    PcmInv (openPcm out devices accepted s) := by
  unfold openPcm
  split
  · exact hi
  next ho =>
    have hno : pcmPlaying s.log ≠ true := by
      rw [Ne, hi.playing, ho]
      simp
    exact .of_output rfl nofun (iff_of_false hno nofun)

theorem inv_setPcmDevices {devices : Devices} (hi : PcmInv s)
    (h : setPcmDevices devices s = some s') : PcmInv s' := by
  obtain ⟨⟨p, o⟩, ho, rfl⟩ := Option.map_eq_some_iff.1 h
  obtain ⟨hfd, hplaying⟩ := hi.output ho
  exact .of_output rfl hfd hplaying

theorem inv_openLpa (hi : PcmInv s) (out : ℕ) (format : AudioFormat) (channels samplingRate : ℕ)
    (o : AudioSessionOutLPA.OpenOutcome) : PcmInv (openLpa out format channels samplingRate o s) := by
  unfold openLpa
  split
  · exact ⟨hi.fd, hi.playing⟩
  · exact ⟨hi.fd, hi.playing⟩

theorem inv_closeOutputStream (hi : PcmInv s) (out : ℕ) : PcmInv (closeOutputStream out s) := by
  unfold closeOutputStream
  split
  · exact ⟨nofun, iff_of_false nofun (by simp)⟩
  · split
    · exact ⟨hi.fd, hi.playing⟩
    · exact hi

/-- **The PCM output.** Every call keeps its members in line with the log. -/
theorem pcmInv_step {c : Call} (hi : PcmInv s) (hs : step E s c = some s') : PcmInv s' := by
  obtain ⟨op, a⟩ := c
  cases op with
  | doRouting input outputDevice => exact (noStream_doRouting hs).inv hi
  | setMicMute state =>
    obtain rfl := Option.some.inj hs
    exact (noStream_setMicMute state).inv hi
  | enableFM =>
    obtain rfl := Option.some.inj hs
    exact noStream_enableFM.inv hi
  | disableFM =>
    obtain rfl := Option.some.inj hs
    exact noStream_disableFM.inv hi
  | inputStandby mDevices => exact (noStream_inputStandby hs).inv hi
  | setMode mode | clearCurDevice | setTtyMode mode | setDualMic enabled =>
    obtain rfl := Option.some.inj hs
    exact ⟨hi.fd, hi.playing⟩
  | openPcm out devices accepted =>
    simp only [step] at hs
    split at hs
    · obtain rfl := Option.some.inj hs
      exact inv_openPcm hi ..
    · cases hs
  | setPcmDevices devices => exact inv_setPcmDevices hi hs
  | writePcm => exact inv_writePcm hi hs
  | standbyPcm => exact inv_standbyPcm hs
  | openLpa out format channels samplingRate o =>
    simp only [step] at hs
    split at hs
    · obtain rfl := Option.some.inj hs
      exact inv_openLpa hi ..
    · cases hs
  | closeOutput out =>
    obtain rfl := Option.some.inj hs
    exact inv_closeOutputStream hi out

end Pcm

/-! ### The flags -/

section Flags

variable {E : Env} {a : Answers} {c : Call} {s s' : State}

/-- The flag of PCM playback after a move. -/
def Move.hpcm (before : Bool) : Move → Bool
  | .start => true
  | .stop => false
  | _ => before

/-- The flag of LPA playback after a move. -/
def Move.lpaFlag (before : Bool) : Move → Bool
  | .lpa b => b
  | _ => before

theorem same_reconfigure (pp : PostProc) (device : Int) :
    (pp.reconfigure E.e E.F a.control device).hpcm_playback_in_progress =
        pp.hpcm_playback_in_progress ∧
      (pp.reconfigure E.e E.F a.control device).lpa_playback_in_progress =
        pp.lpa_playback_in_progress := by
  cases hp : pp.playing with
  | true =>
    rw [reconfigure_of_playing hp, (same_enable _).hpcm, (same_enable _).lpa]
    exact ⟨(same_enable pp).hpcm, (same_enable pp).lpa⟩
  | false =>
    rw [reconfigure_of_silent hp]
    exact ⟨rfl, rfl⟩

theorem flags_move (pp : PostProc) (m : Move) :
    (pp.move E a m).hpcm_playback_in_progress = m.hpcm pp.hpcm_playback_in_progress ∧
      (pp.move E a m).lpa_playback_in_progress = m.lpaFlag pp.lpa_playback_in_progress := by
  cases m with
  | route mask device => exact same_reconfigure (a := a) _ device
  | start => exact ⟨(same_enable _).hpcm, (same_enable _).lpa⟩
  | stop =>
    simp only [PostProc.move, PostProc.stopPcm]
    split
    · exact ⟨(same_enable _).hpcm, (same_enable _).lpa⟩
    · exact ⟨rfl, rfl⟩
  | _ => exact ⟨rfl, rfl⟩

theorem flags_routeMove (input : Option Devices) (outputDevice : Devices) (b : Bool) :
    (routeMove E a input outputDevice s).hpcm b = b ∧
      (routeMove E a input outputDevice s).lpaFlag b = b := by
  unfold routeMove chosen
  split
  · exact ⟨rfl, rfl⟩
  · split_ifs <;> exact ⟨rfl, rfl⟩

/-- The flags after a call, by what it does to post-processing. -/
theorem flagsMatch_iff (hs : step E s c = some s') : FlagsMatch s' ↔
    (moved E s c).hpcm s.pp.hpcm_playback_in_progress = pcmPlaying s'.log ∧
      ((moved E s c).lpaFlag s.pp.lpa_playback_in_progress = true ↔ liveSessions s'.log ≠ []) := by
  unfold FlagsMatch
  rw [step_pp hs, (flags_move _ _).1, (flags_move _ _).2]

/-- A call that concerns no stream keeps the flags matching. -/
theorem flags_noStream (h : FlagsMatch s) (hs : step E s c = some s') (hn : NoStream s s')
    (hm : (moved E s c).hpcm s.pp.hpcm_playback_in_progress = s.pp.hpcm_playback_in_progress ∧
      (moved E s c).lpaFlag s.pp.lpa_playback_in_progress = s.pp.lpa_playback_in_progress) :
    FlagsMatch s' := by
  rw [flagsMatch_iff hs, hm.1, hm.2, pcmPlaying_of_grows hn.log, liveSessions_of_grows hn.log]
  exact h

theorem flags_inputStandby {mDevices : Devices} (h : FlagsMatch s)
    (hs : step E s ⟨.inputStandby mDevices, a⟩ = some s') : FlagsMatch s' := by
  refine flags_noStream h hs (noStream_inputStandby hs) ?_
  unfold moved
  dsimp only
  split
  · exact ⟨(flags_routeMove _ _ _).1, (flags_routeMove _ _ _).2⟩
  · exact ⟨rfl, rfl⟩

theorem flags_writePcm (h : FlagsMatch s) (hs : step E s ⟨.writePcm, a⟩ = some s') :
    FlagsMatch s' := by
  rw [flagsMatch_iff hs]
  obtain ⟨p, o, ho, hcases⟩ := writePcm_cases hs
  unfold moved
  simp only [ho, Option.mem_some_iff, exists_eq_left']
  rcases hcases with ⟨hstarts, rfl⟩ | ⟨hno, o', rfl, -⟩
  · rw [if_pos hstarts]
    exact ⟨rfl, h.2⟩
  · rw [if_neg hno]
    exact h

theorem flags_standbyPcm (h : FlagsMatch s) (hi : PcmInv s)
    (hs : step E s ⟨.standbyPcm, a⟩ = some s') : FlagsMatch s' := by
  rw [flagsMatch_iff hs]
  obtain ⟨⟨p, o⟩, ho, rfl⟩ := Option.map_eq_some_iff.1 hs
  obtain ⟨hfd, hplaying⟩ := hi.output ho
  unfold moved
  simp only [ho, Option.mem_some_iff, exists_eq_left']
  by_cases hon : o.mStandby = false ∧ 0 ≤ o.mFd
  · rw [if_pos hon, if_pos hon]
    exact ⟨rfl, h.2⟩
  · rw [if_neg hon, if_neg hon]
    refine ⟨?_, h.2⟩
    -- an output in standby does not play
    have hno : pcmPlaying s.log ≠ true := by
      intro hp
      have hst := (hplaying.1 hp).1
      exact hon ⟨hst, hfd hst⟩
    show s.pp.hpcm_playback_in_progress = false
    rw [h.1]
    exact Bool.eq_false_iff.2 hno

theorem flags_openLpa {out : ℕ} {format : AudioFormat} {channels samplingRate : ℕ}
    {o : AudioSessionOutLPA.OpenOutcome} (h : FlagsMatch s)
    (hs : step E s ⟨.openLpa out format channels samplingRate o, a⟩ = some s') :
    FlagsMatch s' ↔ ClosesCleanly s ⟨.openLpa out format channels samplingRate o, a⟩ := by
  rw [flagsMatch_iff hs]
  simp only [step] at hs
  split at hs
  next hfresh =>
    obtain rfl := Option.some.inj hs
    unfold moved ClosesCleanly openLpa
    simp only [if_pos hfresh]
    split
    next hok =>
      refine iff_of_true ⟨h.1, ?_⟩ (fun _ hne => absurd hok hne)
      simp [hok, Move.lpaFlag, State.record, liveSessions]
    next hok =>
      have herase : (liveSessions s.log).erase out = liveSessions s.log :=
        List.erase_of_not_mem hfresh.2
      constructor
      · intro h' _ _
        simpa [hok, Move.lpaFlag, State.record, liveSessions, herase] using h'.2
      · intro h'
        refine ⟨h.1, ?_⟩
        simp [hok, Move.lpaFlag, State.record, liveSessions, h' hfresh hok]
  next => cases hs

theorem flags_closeOutput {out : ℕ} (h : FlagsMatch s)
    (hs : step E s ⟨.closeOutput out, a⟩ = some s') :
    FlagsMatch s' ↔ ClosesCleanly s ⟨.closeOutput out, a⟩ := by
  rw [flagsMatch_iff hs]
  obtain rfl := Option.some.inj hs
  unfold moved ClosesCleanly closeOutputStream
  dsimp only
  by_cases hpcm : s.mOutput.map Prod.fst = some out
  · rw [if_pos hpcm, if_pos hpcm, if_neg (fun h' => h'.1 hpcm), ← h.1]
    exact and_iff_left h.2
  · rw [if_neg hpcm, if_neg hpcm]
    by_cases hlpa : s.mOutputLPA = some out
    · rw [if_pos hlpa, if_pos ⟨hpcm, hlpa⟩]
      constructor
      · intro h' _
        by_contra hne
        exact Bool.false_ne_true (h'.2.2 hne)
      · intro h'
        refine ⟨h.1, ?_⟩
        simp [Move.lpaFlag, State.record, liveSessions, h' hlpa]
    · rw [if_neg hlpa, if_neg (fun h' => hlpa h'.2)]
      exact iff_of_true h (fun h' => absurd h' hlpa)

/-- **The flags, step by step.** -/
theorem flags_step (h : FlagsMatch s) (hi : PcmInv s) (hs : step E s c = some s') :
    FlagsMatch s' ↔ ClosesCleanly s c := by
  obtain ⟨op, a⟩ := c
  cases op with
  | doRouting input outputDevice =>
    refine iff_of_true ?_ trivial
    apply flags_noStream h hs (noStream_doRouting hs)
    exact ⟨(flags_routeMove _ _ _).1, (flags_routeMove _ _ _).2⟩
  | inputStandby mDevices => exact iff_of_true (flags_inputStandby h hs) trivial
  | setMicMute state =>
    obtain rfl := Option.some.inj hs
    exact iff_of_true (flags_noStream h hs (noStream_setMicMute state) ⟨rfl, rfl⟩) trivial
  | enableFM =>
    obtain rfl := Option.some.inj hs
    exact iff_of_true (flags_noStream h hs noStream_enableFM ⟨rfl, rfl⟩) trivial
  | disableFM =>
    obtain rfl := Option.some.inj hs
    exact iff_of_true (flags_noStream h hs noStream_disableFM ⟨rfl, rfl⟩) trivial
  | setMode mode | clearCurDevice | setTtyMode mode | setDualMic enabled =>
    obtain rfl := Option.some.inj hs
    exact iff_of_true h trivial
  | openPcm out devices accepted =>
    refine iff_of_true ?_ trivial
    rw [flagsMatch_iff hs]
    simp only [step] at hs
    split at hs
    · obtain rfl := Option.some.inj hs
      unfold openPcm
      split <;> exact h
    · cases hs
  | setPcmDevices devices =>
    refine iff_of_true ?_ trivial
    rw [flagsMatch_iff hs]
    obtain ⟨⟨p, o⟩, -, rfl⟩ := Option.map_eq_some_iff.1 hs
    exact h
  | writePcm => exact iff_of_true (flags_writePcm h hs) trivial
  | standbyPcm => exact iff_of_true (flags_standbyPcm h hi hs) trivial
  | openLpa out format channels samplingRate o => exact flags_openLpa h hs
  | closeOutput out => exact flags_closeOutput h hs

end Flags

/-- A call that is not clean comes to an end. -/
theorem exists_step_of_not_clean {E : Env} {s : State} {c : Call} (h : ¬ClosesCleanly s c) :
    ∃ s', step E s c = some s' := by
  obtain ⟨op, a⟩ := c
  cases op with
  | openLpa out format channels samplingRate o =>
    by_cases hfresh : s.Fresh out
    · exact ⟨_, if_pos hfresh⟩
    · exact absurd (fun h' => absurd h' hfresh) h
  | closeOutput out => exact ⟨_, rfl⟩
  | _ => exact absurd trivial h

/-- **The flags.** In every run, whatever the drivers answer, the flags match the streams after every
call if and only if every call closes cleanly. -/
theorem flagsMatch_along_iff (E : Env) (fd : Int) (junk : Option ℕ) (calls : List Call) :
    Runs.Along (step E) (Runs.Ends (step E) FlagsMatch) (init fd junk) calls ↔
      Runs.Along (step E) ClosesCleanly (init fd junk) calls := by
  refine Runs.along_congr (A := fun _ => True) (I := fun s => FlagsMatch s ∧ PcmInv s) ?_ ?_ ?_
    fun _ _ => trivial
  · rintro s c - ⟨h, hi⟩
    constructor
    · intro hends
      by_contra hno
      obtain ⟨s', hs⟩ := exists_step_of_not_clean (E := E) hno
      exact hno ((flags_step h hi hs).1 (hends s' hs))
    · intro hc s' hs
      exact (flags_step h hi hs).2 hc
  · rintro s c s' - ⟨-, hi⟩ hends hs
    exact ⟨hends s' hs, pcmInv_step hi hs⟩
  · exact ⟨⟨rfl, by simp [init, liveSessions]⟩, nofun, by simp [init, pcmPlaying]⟩

/-- The PCM output plays and is closed without a standby: its flag stays true. -/
theorem closed_while_playing : ∃ s,
    Runs.run (step .plain) (init 3 none)
      [⟨.openPcm 7 0x2 true, {}⟩, ⟨.writePcm, {}⟩, ⟨.writePcm, {}⟩, ⟨.closeOutput 7, {}⟩] = some s ∧
      s.mOutput = none ∧ ¬FlagsMatch s :=
  Runs.exists_run (by decide +kernel)

end Msm7x27a.Route
