import Msm7x27a.Voip.Outcomes

/-!
# Refused VoIP streams

A new stream whose `set` fails is deleted.  The destructors use `mHardware`, which `set` has not stored
where it refuses its arguments, and `~AudioStreamInVoip` clears `mVoipInActive`, which another stream
may have raised.

`refusals_clean_iff` says for every reachable state when an open neither dereferences a null pointer
nor, if it refuses the stream, changes what the VoIP streams share.
-/

namespace Msm7x27a.Voip

open Msm7x27a.Audio Msm7x27a.Runs

/-- What an open that refuses its stream must leave. -/
structure SameShared (w w' : Device) : Prop where
  mVoipFd : w'.hw.mVoipFd = w.hw.mVoipFd
  mVoipInActive : w'.hw.mVoipInActive = w.hw.mVoipInActive
  mVoipOutActive : w'.hw.mVoipOutActive = w.hw.mVoipOutActive
  mDirectOutrefCnt : w'.hw.mDirectOutrefCnt = w.hw.mDirectOutrefCnt
  mMode : w'.hw.mMode = w.hw.mMode
  mDirectOutput : w'.mDirectOutput = w.mDirectOutput
  mVoipInputs : w'.mVoipInputs = w.mVoipInputs

/-- `openInputStream` returns, and has changed nothing if there is no new stream. -/
def CleanIn (P : Platform) (w : Device) (h : ℕ) (junk : Bool) (a : StreamArgs) (o : MvsOutcome) : Prop :=
  ∃ w', w.openInputStream P h junk a o = some w' ∧ (w'.mVoipInputs h = none → SameShared w w')

/-- `openOutputStream` returns, and has changed nothing if there is no stream. -/
def CleanOut (P : Platform) (w : Device) (a : StreamArgs) : Prop :=
  ∃ w', w.openOutputStream P a = some w' ∧ (w'.mDirectOutput = none → SameShared w w')

/-- The arguments that the direct output is not refused for. -/
def AcceptsOut (a : StreamArgs) : Prop :=
  getMvsMode a.format a.rate ≠ none ∧ (a.format = .pcm16Bit →
    (a.channels = 0 ∨ a.channels = channelOutMono) ∧ (a.rate = 0 ∨ a.rate = 8000 ∨ a.rate = 16000))

/-! ### Reachable states -/

/-- A call: of the VoIP streams, or another one, which leaves their members alone. -/
inductive AnyCall where
  | voip (op : Op)
  | other (mMode : AudioMode) (mMicMute : Bool) (mFmFd mCurSndDevice : Int) (mVoipBitRate : ℕ)

def stepAny (P : Platform) (w : Device) : AnyCall → Option Device
  | .voip op => step P w op
  | .other mMode mMicMute mFmFd mCurSndDevice mVoipBitRate =>
    some { w with
      hw := { w.hw with
        mMode := mMode, mMicMute := mMicMute, mFmFd := mFmFd, mCurSndDevice := mCurSndDevice
        mVoipBitRate := mVoipBitRate } }

/-- `mVoipFd` is a descriptor or -1. -/
def FdOk (hw : AudioHardware) : Prop := -1 ≤ hw.mVoipFd

section Fd

variable {P : Platform} {hw : AudioHardware} {log : List MvsEvent} {o : MvsOutcome}

theorem fdOk_mvsError (h : FdOk hw) (fd : Int) : FdOk (mvsError fd hw log).2.1 := by
  unfold mvsError
  split
  · exact Int.le_refl (-1)
  · exact h

theorem fdOk_setup (h : FdOk hw) (value : Bool) : FdOk (setupDeviceforVoipCall P value hw).2 := by
  unfold FdOk
  rw [setup_mVoipFd]
  exact h

namespace AudioStreamInVoip

variable {s : AudioStreamInVoip} {c c' : OnIn} {bytes : ℕ} {r : ReadReturn}

theorem fdOk_unattached (hfd : FdOk hw) (h : Unattached hw s log o c') : FdOk c'.hw := by
  cases h with
  | refused => exact fdOk_mvsError hfd _
  | failed => exact Int.le_refl (-1)

/-- The stream has been given `mHardware`, and is not open. -/
theorem unattached_stream (h : Unattached hw s log o c') :
    c'.s.mHardware = s.mHardware ∧ c'.s.mState = s.mState := by
  cases h with
  | refused => exact ⟨rfl, rfl⟩
  | failed => exact ⟨rfl, rfl⟩

theorem fdOk_attached {a : StreamArgs} (hfd : FdOk hw) (h : Attached hw s log a o c') : FdOk c'.hw := by
  cases h with
  | attached => exact hfd
  | opened _ _ ho => exact Int.le_trans (by decide) ho

theorem fdOk_polled (hfd : FdOk c.hw) (h : Polled P c bytes r c') : FdOk c'.hw := by
  cases h with
  | short => exact hfd
  | polled _ _ _ hp =>
    unfold FdOk
    rw [hp.hw, setupDevice_mVoipFd]
    exact hfd

theorem fdOk_reads (hfd : FdOk c.hw) (h : Reads P c bytes o r c') : FdOk c'.hw := by
  cases h with
  | failed _ hat => exact fdOk_unattached hfd hat
  | reopened _ hat hp =>
    have hat' := fdOk_attached hfd hat
    refine fdOk_polled ?_ hp
    exact hat'
  | resumed _ hp => exact fdOk_polled hfd hp

theorem fdOk_standby (hfd : FdOk c.hw) (h : ℕ) : FdOk (standby P h c).hw := by
  by_cases hc : Closes c
  · rw [standby_closes P h hc]
    refine fdOk_setup ?_ false
    exact Int.le_refl (-1)
  · rw [standby_stays P h hc]
    exact hfd

end AudioStreamInVoip

namespace AudioStreamOutDirect

variable {c c' : OnOut} {status : Int} {bytes : ℕ} {frame : MvsFrame} {r : WriteReturn}

theorem fdOk_written (hfd : FdOk c.hw) (h : Written c status bytes frame r c') : FdOk c'.hw := by
  cases h with
  | put _ _ _ hp =>
    unfold FdOk
    rw [hp.hw]
    exact hfd
  | failed => exact fdOk_mvsError hfd _

theorem fdOk_leaveStandby (hfd : FdOk c.hw) (fd : Int) : FdOk (leaveStandby P c fd).hw := by
  unfold FdOk
  rw [leaveStandby_mVoipFd]
  exact hfd

theorem fdOk_writes (hfd : FdOk c.hw) (h : Writes P c bytes frame o r c') : FdOk c'.hw := by
  cases h with
  | attached _ _ hw => exact fdOk_written (fdOk_leaveStandby hfd _) hw
  | refused => exact fdOk_mvsError hfd _
  | failed => exact Int.le_refl (-1)
  | opened _ _ _ ho _ _ hw =>
    refine fdOk_written (fdOk_leaveStandby ?_ _) hw
    exact Int.le_trans (by decide) ho
  | resumed _ hw => exact fdOk_written hfd hw

theorem fdOk_standby (hfd : FdOk c.hw) : FdOk (standby P c).hw := by
  by_cases hc : Closes c
  · rw [standby_closes P hc]
    refine fdOk_setup ?_ false
    exact Int.le_refl (-1)
  · rw [standby_stays P hc]
    exact hfd

end AudioStreamOutDirect

end Fd

/-! ### Every call -/

section Step

variable {P : Platform} {w w' : Device}

theorem fdOk_step (hwf : w.Wf) (hfd : FdOk w.hw) {op : Op} (hs : step P w op = some w') :
    FdOk w'.hw := by
  cases Device.step_cases hwf hs with
  | openInFailed _ hat => exact AudioStreamInVoip.fdOk_unattached hfd hat
  | openIn _ _ hat =>
    have hat' := AudioStreamInVoip.fdOk_attached hfd hat
    dsimp only
    split
    · exact fdOk_setup hat' true
    · exact hat'
  | read _ hr => exact AudioStreamInVoip.fdOk_reads (c := w.onIn _) hfd hr
  | standbyIn => exact AudioStreamInVoip.fdOk_standby (c := w.onIn _) hfd _
  | closeIn => exact AudioStreamInVoip.fdOk_standby (c := w.onIn _) hfd _
  | closeInUnknown => exact hfd
  | openOut =>
    dsimp only
    split
    · refine fdOk_setup ?_ true
      exact hfd
    · exact hfd
  | openOutAgain => exact hfd
  | write _ hw => exact AudioStreamOutDirect.fdOk_writes (c := w.onOut _) hfd hw
  | standbyOut => exact AudioStreamOutDirect.fdOk_standby (c := w.onOut _) hfd
  | closeOutUnknown => exact hfd
  | closeOutShared => exact hfd
  | closeOut => exact AudioStreamOutDirect.fdOk_standby (c := w.lastOut _) hfd

/-- What holds of every reachable state. -/
theorem fdOk_run {calls : List AnyCall} (hr : run (stepAny P) Device.init calls = some w) :
    w.Wf ∧ FdOk w.hw := by
  have hinit : FdOk Device.init.hw := Int.le_refl (-1)
  refine run_inv (I := fun w => w.Wf ∧ FdOk w.hw) (C := fun _ _ => True) ?_
    ⟨Device.wf_init, hinit⟩ (along_true (fun _ _ => trivial) _ _) hr
  intro w call w' ⟨hwf, hfd⟩ _ hs
  cases call with
  | voip op => exact ⟨Device.wf_step hwf hs, fdOk_step hwf hfd hs⟩
  | other mMode mMicMute mFmFd mCurSndDevice mVoipBitRate =>
    cases hs
    exact ⟨hwf, hfd⟩

/-! ### Opening an input -/

/-- At 8000 Hz only the driver can keep `attach` from its end. -/
theorem attach_neg (P : Platform) (c : OnIn) {a : StreamArgs} (ha : a.rate = 8000) (o : MvsOutcome) :
    (AudioStreamInVoip.attach P c a o).1 < 0 ↔
      c.hw.mVoipFd < 0 ∧ ¬Opens P c.hw.mVoipBitRate a.format a.rate o := by
  have hzero : ¬noError < 0 := by decide
  have hrate : ¬(a.rate ≠ 8000 ∧ a.rate ≠ 16000) := fun h => h.1 ha
  unfold AudioStreamInVoip.attach
  by_cases hfd : 0 ≤ c.hw.mVoipFd
  · rw [if_pos hfd]
    dsimp only
    rw [if_neg hzero, if_neg hrate]
    exact iff_of_false hzero fun h => absurd hfd (Int.not_le.2 h.1)
  · rw [if_neg hfd, ← openMvs_neg P c.hw c.log]
    dsimp only
    by_cases hneg : (openMvs P c.hw c.log a.format a.rate o).status < 0
    · rw [if_pos hneg]
      exact iff_of_true hneg ⟨Int.not_le.1 hfd, hneg⟩
    · rw [if_neg hneg, if_neg hrate]
      exact iff_of_false hzero fun h => hneg h.2

/-- The stream whose driver does not open is deleted: the input is inactive then. -/
theorem sameShared_unattached (hfd : FdOk w.hw) {junk : Bool} {o : MvsOutcome} {c : OnIn}
    (hat : AudioStreamInVoip.Unattached w.hw (Device.newInput junk) w.log o c) :
    SameShared w { w with hw := { c.hw with mVoipInActive := false }, log := c.log } ↔
      w.hw.mVoipInActive = false := by
  have hrest : c.hw.mVoipFd = w.hw.mVoipFd ∧ c.hw.mVoipOutActive = w.hw.mVoipOutActive ∧
      c.hw.mDirectOutrefCnt = w.hw.mDirectOutrefCnt ∧ c.hw.mMode = w.hw.mMode := by
    unfold FdOk at hfd
    cases hat with
    | refused => exact ⟨rfl, rfl, rfl, rfl⟩
    | failed _ hneg => exact ⟨by dsimp only; omega, rfl, rfl, rfl⟩
  obtain ⟨hvoip, hout, hcnt, hmode⟩ := hrest
  constructor
  · intro h
    exact h.mVoipInActive.symm
  · intro h
    exact ⟨hvoip, h.symm, hout, hcnt, hmode, rfl, rfl⟩

/-- The destructor of a stream that has not been opened. -/
theorem destroy_closed (P : Platform) (h : ℕ) {c : OnIn} (hcl : c.s.mState = .closed) :
    AudioStreamInVoip.destroy P h c = ⟨{ c.hw with mVoipInActive := false }, c.s, c.log⟩ := by
  unfold AudioStreamInVoip.destroy AudioStreamInVoip.standby
  dsimp only
  rw [if_neg fun h => h.1 hcl]

theorem cleanIn_iff (hfd : FdOk w.hw) {h : ℕ} {junk : Bool} {a : StreamArgs} {o : MvsOutcome}
    (ha : a.rate = 8000) (hnew : w.mVoipInputs h = none) :
    CleanIn P w h junk a o ↔ Device.AcceptsIn a ∧ (0 ≤ w.hw.mVoipFd ∨
      Opens P w.hw.mVoipBitRate a.format a.rate o ∨ w.hw.mVoipInActive = false) := by
  have hpre : ¬(a.rate ≠ 8000 ∨ w.mVoipInputs h ≠ none) := by
    rw [not_or, not_not, not_not]
    exact ⟨ha, hnew⟩
  unfold CleanIn Device.openInputStream
  rw [if_neg hpre]
  by_cases hok : Device.AcceptsIn a
  · have hneg := attach_neg P (w.onIn (Device.newInput junk)) ha o
    rw [show w.onIn { mFirstread := junk } = ⟨w.hw, { mFirstread := junk }, w.log⟩ from rfl,
      Device.set_accepted ha hok]
    rw [show w.onIn (Device.newInput junk) = ⟨w.hw, Device.newInput junk, w.log⟩ from rfl] at hneg
    obtain ⟨r, hr⟩ : ∃ r, AudioStreamInVoip.attach P ⟨w.hw, Device.newInput junk, w.log⟩ a o = r :=
      ⟨_, rfl⟩
    rw [hr] at hneg ⊢
    dsimp only at hneg ⊢
    obtain ⟨hst, -⟩ | ⟨hst, hat⟩ := AudioStreamInVoip.attach_cases P _ ha o hr
    · rw [if_neg (not_not.2 hst)]
      refine iff_of_true ?_ ⟨hok, ?_⟩
      · have hsome : ∀ s : AudioStreamInVoip,
            Function.update w.mVoipInputs h (some s) h = none → False := by
          intro s hnone
          rw [Function.update_self] at hnone
          cases hnone
        split
        · exact ⟨_, rfl, fun hnone => (hsome _ hnone).elim⟩
        · exact ⟨_, rfl, fun hnone => (hsome _ hnone).elim⟩
      · by_contra hno
        obtain ⟨hfd', hno'⟩ := not_or.1 hno
        have hlt := hneg.2 ⟨Int.not_le.1 hfd', fun h => hno' (Or.inl h)⟩
        rw [hst] at hlt
        exact absurd hlt (by decide)
    · obtain ⟨hlt, hopens⟩ := hneg.1 hst
      have hne : r.1 ≠ noError := Int.ne_of_lt hst
      obtain ⟨hhw, hstate⟩ := AudioStreamInVoip.unattached_stream hat
      have hnull : r.2.s.mHardware = true := hhw
      rw [if_pos hne, if_pos hnull, destroy_closed P h hstate]
      have hsame := sameShared_unattached hfd hat
      constructor
      · rintro ⟨w', he, hshared⟩
        cases he
        exact ⟨hok, Or.inr (Or.inr (hsame.1 (hshared hnew)))⟩
      · rintro ⟨-, hcond⟩
        have hinactive := (hcond.resolve_left (Int.not_le.2 hlt)).resolve_left hopens
        exact ⟨_, rfl, fun _ => hsame.2 hinactive⟩
  · refine iff_of_false ?_ fun h => hok h.1
    rintro ⟨w', he, -⟩
    rw [show w.onIn { mFirstread := junk } = ⟨w.hw, { mFirstread := junk }, w.log⟩ from rfl] at he
    obtain ⟨hne, hnull⟩ := Device.set_refused ha hok w.hw w.log o
    dsimp only at he
    rw [if_pos hne, hnull] at he
    cases he

/-! ### Opening the direct output -/

theorem set_out (c : OnOut) (hc : c.s = {}) (a : StreamArgs) :
    (AudioStreamOutDirect.set c a).1 = noError ↔ AcceptsOut a := by
  have hbad : ¬badValue = noError := by decide
  have hmono : c.s.mChannels = channelOutMono := by rw [hc]
  unfold AudioStreamOutDirect.set AcceptsOut
  rw [hmono]
  by_cases hmode : getMvsMode a.format a.rate = none
  · rw [if_pos hmode]
    exact iff_of_false hbad fun h => h.1 hmode
  rw [if_neg hmode]
  by_cases hpcm : a.format = .pcm16Bit
  · rw [if_pos hpcm]
    dsimp only
    by_cases hch : a.channels = 0 ∨ a.channels = channelOutMono
    · have hch' : (if a.channels = 0 then channelOutMono else a.channels) = channelOutMono := by
        split
        · rfl
        next hne => exact hch.resolve_left hne
      rw [hch', if_neg (not_not.2 rfl)]
      by_cases h0 : a.rate = 0
      · rw [if_pos h0, if_pos rfl]
        exact iff_of_true rfl ⟨hmode, fun _ => ⟨hch, Or.inl h0⟩⟩
      rw [if_neg h0]
      by_cases h8 : a.rate = 8000
      · rw [if_pos h8]
        exact iff_of_true rfl ⟨hmode, fun _ => ⟨hch, Or.inr (Or.inl h8)⟩⟩
      rw [if_neg h8]
      by_cases h16 : a.rate = 16000
      · rw [if_pos h16]
        exact iff_of_true rfl ⟨hmode, fun _ => ⟨hch, Or.inr (Or.inr h16)⟩⟩
      · rw [if_neg h16]
        refine iff_of_false hbad fun h => ?_
        obtain h | h | h := (h.2 hpcm).2
        · exact h0 h
        · exact h8 h
        · exact h16 h
    · obtain ⟨h0, hne⟩ := not_or.1 hch
      rw [if_neg h0, if_pos hne]
      exact iff_of_false hbad fun h => hch (h.2 hpcm).1
  · rw [if_neg hpcm]
    exact iff_of_true rfl ⟨hmode, fun h => absurd h hpcm⟩

theorem cleanOut_iff {a : StreamArgs} : CleanOut P w a ↔ w.mDirectOutput ≠ none ∨ AcceptsOut a := by
  unfold CleanOut Device.openOutputStream
  cases hout : w.mDirectOutput with
  | some s =>
    refine iff_of_true ⟨_, rfl, fun hnone => ?_⟩ (Or.inl (Option.some_ne_none s))
    cases hnone
  | none =>
    dsimp only
    rw [← set_out (w.onOut {}) rfl a]
    by_cases hok : (AudioStreamOutDirect.set (w.onOut {}) a).1 = noError
    · rw [if_neg (not_not.2 hok)]
      refine iff_of_true ⟨_, rfl, fun hnone => ?_⟩ (Or.inr hok)
      cases hnone
    · rw [if_pos hok]
      refine iff_of_false ?_ fun h => hok (h.resolve_left (not_not.2 rfl))
      rintro ⟨w', he, -⟩
      cases he

/-- When an open is clean, in every reachable state. -/
theorem refusals_clean_iff {calls : List AnyCall} (hr : run (stepAny P) Device.init calls = some w) :
    (∀ (h : ℕ) (junk : Bool) (a : StreamArgs) (o : MvsOutcome), a.rate = 8000 →
      w.mVoipInputs h = none → (CleanIn P w h junk a o ↔ Device.AcceptsIn a ∧ (0 ≤ w.hw.mVoipFd ∨
        Opens P w.hw.mVoipBitRate a.format a.rate o ∨ w.hw.mVoipInActive = false))) ∧
      ∀ a : StreamArgs, CleanOut P w a ↔ w.mDirectOutput ≠ none ∨ AcceptsOut a := by
  obtain ⟨-, hfd⟩ := fdOk_run hr
  exact ⟨fun _ _ _ _ ha hnew => cleanIn_iff hfd ha hnew, fun _ => cleanOut_iff⟩

end Step

theorem clean_twoStreams :
    CleanIn .plain Device.init 0 true ⟨.pcm16Bit, channelInMono, 8000⟩ ⟨-1, 0, 0, 0⟩ ∧
      CleanOut .plain Device.init ⟨.pcm16Bit, channelOutMono, 8000⟩ := by
  obtain ⟨hin, hout⟩ := @refusals_clean_iff .plain Device.init [] rfl
  refine ⟨(hin 0 true _ _ rfl rfl).2 ⟨⟨by decide, fun _ => by decide⟩, Or.inr (Or.inr rfl)⟩, ?_⟩
  exact (hout _).2 (Or.inr ⟨by decide, fun _ => ⟨Or.inr rfl, Or.inr (Or.inl rfl)⟩⟩)

/-- An output at 44100 Hz and an input without the mono bit are deleted through a null pointer. -/
theorem unclean_opens :
    ¬CleanOut .plain Device.init ⟨.pcm16Bit, channelOutMono, 44100⟩ ∧
      ¬CleanIn .plain Device.init 0 true ⟨.pcm16Bit, 0x4, 8000⟩ ⟨3, 0, 0, 0⟩ := by
  refine ⟨fun h => ?_, fun h => ?_⟩
  · obtain hnone | hok := cleanOut_iff.1 h
    · exact hnone rfl
    · exact absurd (hok.2 rfl).2 (by decide)
  · have hfd := (@fdOk_run .plain _ [] rfl).2
    have hok := ((cleanIn_iff hfd rfl rfl).1 h).1
    exact absurd (hok.2 rfl) (by decide)

end Msm7x27a.Voip
