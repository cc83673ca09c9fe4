import Msm7x27a.Voip.Usage

/-!
# The mode of the phone follows the VoIP streams

`setupDeviceforVoipCall` is called from the streams: with `true` by the first `read()` of an open
input, by a `write()` that leaves standby while the input is active, and where one stream is opened
while the other is active; with `false` by the stream that closes the driver.  The base class's
`setMode` is taken to store the mode and to succeed (`StoresMode`).

Two flags go wrong.  A `read()` that resumes an open input does not set `mVoipInActive`, and
`standby()` resets `mSetupDevice` only where it closes the driver itself.  On the runs that avoid
both, and do not write a frame of negative length (`Op.SetsUp`), the mode is as it should be
(`callMode_of_run`): `Line` is what the hardware and the streams keep, `CallLog` ties it to the log.
-/

namespace Msm7x27a.Voip

open Msm7x27a.Audio

/-- `AudioHardwareBase::setMode` stores the mode and returns `NO_ERROR`. -/
def StoresMode (P : Platform) : Prop := ∀ old new, P.baseSetMode old new = (new, noError)

/-- The device is set up for a VoIP call. -/
def OnCall (hw : AudioHardware) : Prop := hw.mMode = .inCommunication ∧ hw.mMicMute = false

/-- The device is not in a call. -/
def OffCall (hw : AudioHardware) : Prop := hw.mMode = .normal ∧ hw.mMicMute = true

instance : DecidablePred OnCall := fun hw => by unfold OnCall; infer_instance
instance : DecidablePred OffCall := fun hw => by unfold OffCall; infer_instance

/-- The last call on the stream of this direction is neither its `standby()` nor its close. -/
def touched (d : Dir) : List MvsEvent → Bool
  | [] => false
  | .returned (.openStream d') _ :: log => if d' = d then true else touched d log
  | .returned (.read h) _ :: log => if d = .inp h then true else touched d log
  | .returned .write _ :: log => if d = .out then true else touched d log
  | .returned (.standby d') _ :: log => if d' = d then false else touched d log
  | .returned (.close d') _ :: log => if d' = d then false else touched d log
  | _ :: log => touched d log

/-- The device is set up while both directions are in use, and in its normal mode while neither is
open or in use. -/
structure CallMode (h : ℕ) (w : Device) : Prop where
  on : inUse (.inp h) w.log = true → inUse .out w.log = true → OnCall w.hw
  off : touched (.inp h) w.log = false → touched .out w.log = false → OffCall w.hw

/-- The flags are right for the operation:

* a `read()` that resumes an open input finds `mVoipInActive` set;
* one that opens the input again with `mSetupDevice` set finds the output in standby;
* no frame of negative length is written. -/
def Op.SetsUp (w : Device) : Op → Prop
  | .read h .. => ∀ s ∈ w.mVoipInputs h,
    if AudioStreamInVoip.Reopens (w.onIn s) then
      s.mSetupDevice = true → ∀ s' ∈ w.mDirectOutput, s'.mStandby = true
    else w.hw.mVoipInActive = true
  | .write _ frame .. => ∀ s ∈ w.mDirectOutput, s.mFormat ≠ .pcm16Bit → 0 ≤ frame.len
  | _ => True

instance (w : Device) : DecidablePred (Op.SetsUp w) := fun op =>
  match op with
  | .read h .. =>
    inferInstanceAs (Decidable (∀ s ∈ w.mVoipInputs h,
      if AudioStreamInVoip.Reopens (w.onIn s) then
        s.mSetupDevice = true → ∀ s' ∈ w.mDirectOutput, s'.mStandby = true
      else w.hw.mVoipInActive = true))
  | .write _ frame .. =>
    inferInstanceAs (Decidable (∀ s ∈ w.mDirectOutput, s.mFormat ≠ .pcm16Bit → 0 ≤ frame.len))
  | .openInputStream .. | .standbyIn _ | .closeInputStream _ | .openOutputStream _ | .standbyOut
  | .closeOutputStream => instDecidableTrue

/-! ### `setupDeviceforVoipCall` -/

section Setup

variable {P : Platform} {hw : AudioHardware}

theorem setup_true (hP : StoresMode P) (hfm : hw.mFmFd = -1) :
    (setupDeviceforVoipCall P true hw).2 =
      { hw with mMode := .inCommunication, mMicMute := false, mCurSndDevice := -1 } := by
  have hP' : ∀ new, P.baseSetMode hw.mMode new = (new, noError) := hP _
  by_cases hm : hw.mMicMute = false
  · simp [setupDeviceforVoipCall, setMode, hP', noError, badValue, AudioHardware.clearCurDevice,
      setMicMute, hm]
  · simp [setupDeviceforVoipCall, setMode, hP', noError, badValue, AudioHardware.clearCurDevice,
      setMicMute, muteCurrent, AudioHardware.isFmon, hfm, hm]
    split <;> rfl

theorem setup_false (hP : StoresMode P) (hfm : hw.mFmFd = -1) (hmode : hw.mMode ≠ .inCall) :
    (setupDeviceforVoipCall P false hw).2 =
      { hw with mMode := .normal, mMicMute := true, mCurSndDevice := -1 } := by
  have hP' : ∀ new, P.baseSetMode hw.mMode new = (new, noError) := hP _
  by_cases hm : hw.mMicMute = true
  · simp [setupDeviceforVoipCall, setMode, hP', noError, badValue, AudioHardware.clearCurDevice,
      setMicMute, hm, hmode]
  · simp [setupDeviceforVoipCall, setMode, hP', noError, badValue, AudioHardware.clearCurDevice,
      setMicMute, muteCurrent, AudioHardware.isFmon, hfm, hm, hmode]
    split <;> rfl

end Setup

/-! ### The hardware and the streams -/

/-- What holds of the hardware, the input and the output between operations. -/
structure Line (hw : AudioHardware) (inp : Option AudioStreamInVoip)
    (out : Option AudioStreamOutDirect) : Prop where
  fm : hw.mFmFd = -1
  mode : OnCall hw ∨ OffCall hw
  bound : hw.mVoipFd = -1 ∨ 0 ≤ hw.mVoipFd
  idle : hw.mVoipFd = -1 → OffCall hw
  active : 0 ≤ hw.mVoipFd → hw.mVoipInActive = true ∨ hw.mVoipOutActive = true
  input : hw.mVoipInActive = true → 0 ≤ hw.mVoipFd ∧ ∃ s ∈ inp, s.mState ≠ .closed
  playing : ∀ s ∈ out, s.mStandby = false → hw.mVoipOutActive = true ∧ 0 ≤ hw.mVoipFd
  both : ∀ s ∈ inp, ∀ s' ∈ out, hw.mVoipInActive = true → s.mSetupDevice = true →
    s'.mStandby = false → OnCall hw

namespace Line

variable {P : Platform} {hw : AudioHardware} {inp inp' : Option AudioStreamInVoip}
  {out out' : Option AudioStreamOutDirect}

theorem init : Line {} none none where
  fm := rfl
  mode := .inr ⟨rfl, rfl⟩
  bound := .inl rfl
  idle _ := ⟨rfl, rfl⟩
  active h := absurd h (by decide)
  input h := by cases h
  playing s hs := by cases hs
  both s hs := by cases hs

theorem not_inCall (h : Line hw inp out) : hw.mMode ≠ .inCall := by
  rcases h.mode with h | h <;> simp [h.1]

/-- Setting up the device for a call, with the driver open. -/
theorem setUp (hP : StoresMode P) (h : Line hw inp out) (hfd : 0 ≤ hw.mVoipFd)
    (hin : hw.mVoipInActive = true → ∃ s ∈ inp', s.mState ≠ .closed)
    (hout : ∀ s ∈ out', s.mStandby = false → hw.mVoipOutActive = true) :
    Line (setupDeviceforVoipCall P true hw).2 inp' out' := by
  rw [setup_true hP h.fm]
  exact {
    fm := h.fm
    mode := .inl ⟨rfl, rfl⟩
    bound := .inr hfd
    idle := fun h0 => absurd hfd (by simp_all)
    active := h.active
    input := fun hi => ⟨hfd, hin hi⟩
    playing := fun s hs hsb => ⟨hout s hs hsb, hfd⟩
    both := fun _ _ _ _ _ _ _ => ⟨rfl, rfl⟩ }

/-- The driver is closed and the device set back. -/
theorem setBack (hP : StoresMode P) (h : Line hw inp out) {hw' : AudioHardware}
    (hsame : hw'.mFmFd = hw.mFmFd ∧ hw'.mMode = hw.mMode) (hfd : hw'.mVoipFd = -1)
    (hin : hw'.mVoipInActive = false) (hout : ∀ s ∈ out', s.mStandby = true) :
    Line (setupDeviceforVoipCall P false hw').2 inp' out' := by
  rw [setup_false hP (hsame.1.trans h.fm) (hsame.2 ▸ h.not_inCall)]
  exact {
    fm := hsame.1.trans h.fm
    mode := .inr ⟨rfl, rfl⟩
    bound := .inl hfd
    idle := fun _ => ⟨rfl, rfl⟩
    active := fun h0 => absurd h0 (by simp [hfd])
    input := fun hi => absurd hi (by simp [hin])
    playing := fun s hs hsb => absurd hsb (by simp [hout s hs])
    both := fun _ _ s hs _ _ hsb => absurd hsb (by simp [hout s hs]) }

/-! #### The input -/

section Input

open AudioStreamInVoip

variable {s : AudioStreamInVoip} {log : List MvsEvent} {a : StreamArgs} {o : MvsOutcome}
  {c c' : OnIn} {bytes : ℕ}

/-- A failed `attach` leaves the hardware as it was: the driver was closed. -/
theorem hw_of_unattached (h : Line hw inp out) (hat : Unattached hw s log o c) :
    c.hw = hw ∧ hw.mVoipFd = -1 ∧ c.s = { s with mFd := c.s.mFd } := by
  cases hat with
  | refused h0 _ =>
    have hfd : hw.mVoipFd = -1 := h.bound.resolve_right (by omega)
    refine ⟨?_, hfd, rfl⟩
    unfold mvsError
    split
    · simp [← hfd]
    · rfl
  | failed _ h0 _ _ =>
    have hfd : hw.mVoipFd = -1 := h.bound.resolve_right (by omega)
    exact ⟨by simp [← hfd], hfd, rfl⟩

/-- `attach`, when it does not find `mSetupDevice` set with the output out of standby. -/
theorem attached (h : Line hw inp out) (hat : Attached hw s log a o c)
    (hs : s.mSetupDevice = true → ∀ s' ∈ out, s'.mStandby = true) {s' : AudioStreamInVoip}
    (hst : s'.mState ≠ .closed) (hsd : s'.mSetupDevice = s.mSetupDevice) :
    Line c.hw (some s') out ∧ 0 ≤ c.hw.mVoipFd := by
  have hboth : ∀ {hw : AudioHardware}, ∀ s₁ ∈ some s', ∀ s₂ ∈ out, hw.mVoipInActive = true →
      s₁.mSetupDevice = true → s₂.mStandby = false → OnCall hw := by
    rintro hw _ ⟨⟩ s₂ hs₂ _ h1 h2
    simp [hs (hsd ▸ h1) s₂ hs₂] at h2
  cases hat with
  | attached h0 =>
    exact ⟨⟨h.fm, h.mode, h.bound, h.idle, fun _ => .inl rfl, fun _ => ⟨h0, s', rfl, hst⟩,
      h.playing, hboth⟩, h0⟩
  | opened cfg _ hx _ =>
    refine ⟨⟨h.fm, h.mode, .inr hx, fun h0 => ?_, fun _ => .inl rfl, fun _ => ⟨hx, s', rfl, hst⟩,
      fun s hs hsb => ⟨(h.playing s hs hsb).1, hx⟩, hboth⟩, hx⟩
    exact absurd hx (by simp_all)

/-- The rest of a `read` with the driver open. -/
theorem polled (hP : StoresMode P) (h : Line c.hw (some c.s) out) (hfd : 0 ≤ c.hw.mVoipFd)
    (hst : c.s.mState ≠ .closed) {r : ReadReturn} (hp : Polled P c bytes r c') :
    Line c'.hw (some c'.s) out ∧
      (c.s.mSetupDevice = true ∨ r.stored ≠ [] → c'.s.mSetupDevice = true) := by
  cases hp with
  | short => exact ⟨h, fun h => h.resolve_right fun hne => hne rfl⟩
  | polled n _ _ hp =>
    have hs := hp.s
    rw [hp.hw]
    by_cases hsd : c.s.mSetupDevice = true
    · simp only [setupDevice, if_pos hsd] at hs ⊢
      refine ⟨?_, fun _ => by rw [hs]; exact hsd⟩
      rw [hs]
      exact ⟨h.fm, h.mode, h.bound, h.idle, h.active,
        fun hi => ⟨hfd, _, rfl, hst⟩, h.playing,
        fun _ he s' hs' hi _ hsb => h.both c.s rfl s' hs' hi hsd hsb⟩
    · simp only [setupDevice, if_neg hsd] at hs ⊢
      refine ⟨?_, fun _ => by rw [hs]⟩
      rw [hs]
      exact h.setUp hP hfd (fun _ => ⟨_, rfl, hst⟩) fun s hs hsb => (h.playing s hs hsb).1

/-- `standby` of the input, also as its destructor calls it. -/
theorem standbyIn (hP : StoresMode P) (h : Line c.hw (some c.s) out) (k : ℕ) :
    Line (standby P k c).hw inp' out ∧ (standby P k c).hw.mVoipInActive = false := by
  by_cases hcl : Closes c
  · rw [standby_closes P k hcl]
    refine ⟨h.setBack hP ⟨rfl, rfl⟩ rfl rfl fun s hs => ?_, by simp⟩
    by_contra hsb
    have := (h.playing s hs (by simpa using hsb)).1
    simp [hcl.2.1] at this
  · rw [standby_stays P k hcl]
    refine ⟨⟨h.fm, h.mode, h.bound, h.idle, fun h0 => .inr ?_, fun hi => ?_, h.playing, ?_⟩, rfl⟩
    · -- an input that is the only one active is open, so it would have closed the driver
      rcases h.active h0 with hi | ho
      · obtain ⟨-, s, hs, hst⟩ := h.input hi
        cases hs
        by_contra hout
        exact hcl ⟨hst, by simpa using hout, h0⟩
      · exact ho
    · cases hi
    · rintro _ _ _ _ hi
      cases hi

end Input

/-! #### The output -/

section Output

open AudioStreamOutDirect

variable {c : OnOut}

/-- The output becomes active with the driver open, and the device is set up if the input is active
too. -/
theorem activate (hP : StoresMode P) (h : Line hw inp out) {hw' : AudioHardware}
    (hsame : hw'.mFmFd = hw.mFmFd ∧ hw'.mMode = hw.mMode ∧ hw'.mMicMute = hw.mMicMute ∧
      hw'.mVoipInActive = hw.mVoipInActive) (hfd : hw'.mVoipFd = hw.mVoipFd ∨ 0 ≤ hw'.mVoipFd)
    (hact : hw'.mVoipOutActive = true) (hout : ∀ s ∈ out', s.mStandby = false → 0 ≤ hw'.mVoipFd) :
    Line (if hw'.mVoipInActive then (setupDeviceforVoipCall P true hw').2 else hw') inp out' := by
  obtain ⟨hfm, hmode, hmute, hin⟩ := hsame
  have hmode' : OnCall hw' ∨ OffCall hw' := by
    simpa [OnCall, OffCall, hmode, hmute] using h.mode
  have hopen : hw'.mVoipInActive = true → 0 ≤ hw'.mVoipFd := fun hi =>
    hfd.elim (fun e => e ▸ (h.input (hin ▸ hi)).1) id
  have hnone : Line hw' inp none := by
    refine ⟨hfm.trans h.fm, hmode', ?_, fun h0 => ?_, fun _ => .inr hact,
      fun hi => ⟨hopen hi, (h.input (hin ▸ hi)).2⟩, fun s hs => (by cases hs),
      fun _ _ s hs => (by cases hs)⟩
    · exact hfd.elim (fun e => e ▸ h.bound) .inr
    · rcases hfd with e | h1
      · simpa [OffCall, hmode, hmute] using h.idle (e ▸ h0)
      · exact absurd h1 (by simp [h0])
  split
  · rename_i hi
    exact hnone.setUp hP (hopen hi) (fun _ => (h.input (hin ▸ hi)).2) fun _ _ _ => hact
  · rename_i hi
    exact { hnone with
      playing := fun s hs hsb => ⟨hact, hout s hs hsb⟩
      both := fun _ _ _ _ h1 => absurd h1 hi }

/-- `standby` of the output, also as its destructor calls it. -/
theorem standbyOut (hP : StoresMode P) (h : Line c.hw inp out)
    (hout : ∀ s ∈ out', s.mStandby = true) :
    Line (standby P c).hw inp out' ∧ (standby P c).hw.mVoipOutActive = false := by
  by_cases hcl : Closes c
  · rw [standby_closes P hcl]
    exact ⟨h.setBack hP ⟨rfl, rfl⟩ rfl hcl.2 hout, by simp⟩
  · rw [standby_stays P hcl]
    refine ⟨⟨h.fm, h.mode, h.bound, h.idle, fun h0 => .inl ?_, h.input, ?_, ?_⟩, rfl⟩
    · by_contra hin
      exact hcl ⟨h0, by simpa using hin⟩
    · exact fun s hs hsb => absurd hsb (by simp [hout s hs])
    · exact fun _ _ s hs _ _ hsb => absurd hsb (by simp [hout s hs])

end Output

end Line

/-! ### The log -/

/-- What the log tells of the flags and the streams. -/
structure CallLog (h : ℕ) (w : Device) : Prop where
  inTouched : w.hw.mVoipInActive = true → touched (.inp h) w.log = true
  outTouched : w.hw.mVoipOutActive = true → touched .out w.log = true
  inUsed : inUse (.inp h) w.log = true →
    w.hw.mVoipInActive = true ∧ ∃ s ∈ w.mVoipInputs h, s.mSetupDevice = true
  outUsed : inUse .out w.log = true → ∃ s ∈ w.mDirectOutput, s.mStandby = false

theorem touched_grows (d : Dir) {log log' : List MvsEvent} (h : Grows log log') :
    touched d log' = touched d log := by
  refine h.toLog.read_eq fun e he log => ?_
  cases e with
  | stop | returned => exact he.elim
  | _ => rfl

/-- `standby` of a stream returns no call. -/
theorem AudioStreamInVoip.touched_standby {P : Platform} {h : ℕ} {c : OnIn} (d : Dir) :
    touched d (AudioStreamInVoip.standby P h c).log = touched d c.log := by
  by_cases hcl : AudioStreamInVoip.Closes c
  · rw [AudioStreamInVoip.standby_closes P h hcl]
    rfl
  · rw [AudioStreamInVoip.standby_stays P h hcl]

theorem AudioStreamOutDirect.touched_standby {P : Platform} {c : OnOut} (d : Dir) :
    touched d (AudioStreamOutDirect.standby P c).log = touched d c.log := by
  by_cases hcl : AudioStreamOutDirect.Closes c
  · rw [AudioStreamOutDirect.standby_closes P hcl]
    rfl
  · rw [AudioStreamOutDirect.standby_stays P hcl]

/-- What holds between operations. -/
structure CallInv (h : ℕ) (w : Device) : Prop where
  line : Line w.hw (w.mVoipInputs h) w.mDirectOutput
  log : CallLog h w

theorem callInv_init (h : ℕ) : CallInv h Device.init where
  line := .init
  log := ⟨fun h => (by cases h), fun h => (by cases h), fun h => (by cases h), fun h => (by cases h)⟩

/-- **The mode is right** between operations. -/
theorem CallInv.callMode {h : ℕ} {w : Device} (hi : CallInv h w) : CallMode h w where
  on h1 h2 := by
    obtain ⟨hact, s, hs, hsd⟩ := hi.log.inUsed h1
    obtain ⟨s', hs', hsb⟩ := hi.log.outUsed h2
    exact hi.line.both s hs s' hs' hact hsd hsb
  off h1 h2 := by
    have hin : ¬ w.hw.mVoipInActive = true := fun e => by simp [hi.log.inTouched e] at h1
    have hout : ¬ w.hw.mVoipOutActive = true := fun e => by simp [hi.log.outTouched e] at h2
    refine hi.line.idle (hi.line.bound.resolve_right fun h0 => ?_)
    exact (hi.line.active h0).elim hin hout

section Step

variable {P : Platform} {w w' : Device} {op : Op} {h : ℕ}

theorem callInv_openIn (hP : StoresMode P) (hi : CallInv h w) {junk : Bool} {a : StreamArgs}
    {o : MvsOutcome} {c : OnIn} (hnone : w.mVoipInputs h = none)
    (hat : AudioStreamInVoip.Attached w.hw (Device.newInput junk) w.log a o c) :
    CallInv h { w with
      hw := if c.hw.mVoipOutActive then (setupDeviceforVoipCall P true c.hw).2 else c.hw
      mVoipInputs := Function.update w.mVoipInputs h
        (some { c.s with mSetupDevice := c.hw.mVoipOutActive })
      log := .returned (.openStream (.inp h)) true :: c.log } := by
  have hst : c.s.mState ≠ .closed := by cases hat <;> exact fun e => by cases e
  have hsd : c.s.mSetupDevice = false := by cases hat <;> rfl
  obtain ⟨hline, hfd⟩ := hi.line.attached hat (fun e => by cases e) hst hsd
  have hg := hat.grows
  have hflag := hat.setup_flag P
  refine ⟨?_, ⟨fun _ => by simp [touched], fun ho => ?_, fun hu => ?_, fun hu => ?_⟩⟩
  · dsimp only
    rw [Function.update_self]
    split
    · exact hline.setUp hP hfd (fun _ => ⟨_, rfl, hst⟩) fun s hs hsb => (hline.playing s hs hsb).1
    · rename_i hout
      have : { c.s with mSetupDevice := c.hw.mVoipOutActive } = c.s := by
        rw [Bool.not_eq_true] at hout
        rw [hout, ← hsd]
      rw [this]
      exact hline
  · have := hi.log.outTouched (hflag ▸ ho)
    simpa [touched, touched_grows _ hg] using this
  · obtain ⟨-, s, hs, -⟩ := hi.log.inUsed (by simpa [inUse, inUse_grows _ hg] using hu)
    simp [hnone] at hs
  · exact hi.log.outUsed (by simpa [inUse, inUse_grows _ hg] using hu)

/-- What a `read()` leaves of the line, and when it leaves the device set up. -/
theorem line_read (hP : StoresMode P) {c c' : OnIn} {out : Option AudioStreamOutDirect}
    (hline : Line c.hw (some c.s) out) {bytes : ℕ} {o : MvsOutcome}
    {r : AudioStreamInVoip.ReadReturn} (hr : AudioStreamInVoip.Reads P c bytes o r c')
    (hc : AudioStreamInVoip.Reopens c → c.s.mSetupDevice = true → ∀ s' ∈ out, s'.mStandby = true) :
    Line c'.hw (some c'.s) out ∧
      (c.s.mSetupDevice = true ∨ Device.readOk r = true → c'.s.mSetupDevice = true) := by
  have hstored : ∀ {r : AudioStreamInVoip.ReadReturn}, Device.readOk r = true → r.stored ≠ [] := by
    intro r hok
    simp only [Device.readOk, decide_eq_true_eq] at hok
    exact hok.2
  cases hr with
  | failed _ hat =>
    obtain ⟨hhw, -, hs⟩ := hline.hw_of_unattached hat
    rw [hhw, hs]
    refine ⟨?_, fun h => h.resolve_right (by decide)⟩
    exact ⟨hline.fm, hline.mode, hline.bound, hline.idle, hline.active,
      fun h => ⟨(hline.input h).1, _, rfl, by simpa using (hline.input h).2⟩, hline.playing,
      fun _ hs => by cases hs; exact hline.both c.s rfl⟩
  | @reopened _ c₁ _ hre hat hp =>
    have hst : c₁.s.mSetupDevice = c.s.mSetupDevice := by cases hat <;> rfl
    obtain ⟨h1, hfd⟩ : Line c₁.hw (some { c₁.s with mState := .started }) out ∧ 0 ≤ c₁.hw.mVoipFd :=
      hline.attached hat (hc hre) (by simp) hst
    obtain ⟨h2, hset⟩ := Line.polled (c := { c₁ with s := { c₁.s with mState := .started } }) hP h1
      hfd (by simp) hp
    exact ⟨h2, fun h => hset (h.imp (fun e => hst.trans e) hstored)⟩
  | resumed hre hp =>
    have hfd : 0 ≤ c.hw.mVoipFd := hline.bound.resolve_left fun e => hre (.inr e)
    obtain ⟨h2, hset⟩ := hline.polled hP hfd (fun e => hre (.inl e)) hp
    exact ⟨h2, fun h => hset (h.imp id hstored)⟩

theorem callInv_read (hP : StoresMode P) (hi : CallInv h w) {bytes : ℕ} {o : MvsOutcome}
    {results : List AudioStreamInVoip.ReadResult} {s : AudioStreamInVoip}
    {r : AudioStreamInVoip.ReadReturn} {c : OnIn} (hin : w.mVoipInputs h = some s)
    (hr : AudioStreamInVoip.Reads P (w.onIn s) bytes o r c)
    (hc : Op.SetsUp w (.read h bytes o results)) :
    CallInv h (w.putIn h c (.read h) (Device.readOk r)) := by
  have hg := hr.grows
  obtain ⟨hout, hkeep, hset⟩ := hr.flags
  have hc := hc s hin
  obtain ⟨hline, hsd⟩ := line_read (c := w.onIn s) hP (hin ▸ hi.line) hr
    fun hre => by rwa [if_pos hre] at hc
  refine ⟨?_, ⟨fun _ => by simp [Device.putIn, touched], fun ho => ?_, fun hu => ?_, fun hu => ?_⟩⟩
  · simpa [Device.putIn] using hline
  · have := hi.log.outTouched (hout ▸ ho)
    simpa [Device.putIn, touched, touched_grows _ hg] using this
  · by_cases hok : Device.readOk r = true
    · refine ⟨hset (fun hre => by rwa [if_neg hre] at hc) hok, c.s, ?_, hsd (.inr hok)⟩
      simp [Device.putIn]
    · have hu' : inUse (.inp h) w.log = true := by
        simpa [Device.putIn, inUse, hok, inUse_grows _ hg] using hu
      obtain ⟨hact, s', hs', hsd'⟩ := hi.log.inUsed hu'
      obtain rfl : s = s' := Option.some.inj (hin.symm.trans hs')
      exact ⟨hkeep hact, c.s, by simp [Device.putIn], hsd (.inl hsd')⟩
  · exact hi.log.outUsed (by simpa [Device.putIn, inUse, inUse_grows _ hg] using hu)

/-- `standby()` or close of the input: `inp'` is what becomes of the stream, and `e` is the event. -/
theorem callInv_leaveIn (hP : StoresMode P) (hi : CallInv h w) {s : AudioStreamInVoip}
    (hin : w.mVoipInputs h = some s) {w' : Device} {e : MvsEvent}
    (he : e = .returned (.standby (.inp h)) true ∨ e = .returned (.close (.inp h)) true)
    (hhw : w'.hw = (AudioStreamInVoip.standby P h (w.onIn s)).hw)
    (hout : w'.mDirectOutput = w.mDirectOutput)
    (hlog : w'.log = e :: (AudioStreamInVoip.standby P h (w.onIn s)).log) : CallInv h w' := by
  obtain ⟨hline, hact⟩ : Line (AudioStreamInVoip.standby P h (w.onIn s)).hw (w'.mVoipInputs h)
      w.mDirectOutput ∧ _ := Line.standbyIn (c := w.onIn s) hP (hin ▸ hi.line) h
  have hflag := AudioStreamInVoip.standby_flags (P := P) (c := w.onIn s) h
  have hsame : ∀ log, inUse .out (e :: log) = inUse .out log ∧
      touched .out (e :: log) = touched .out log ∧ inUse (.inp h) (e :: log) = false := by
    intro log
    rcases he with rfl | rfl <;> simp [inUse, touched]
  refine ⟨by rw [hhw, hout]; exact hline, ⟨fun ho => ?_, fun ho => ?_, fun hu => ?_, fun hu => ?_⟩⟩
  · exact absurd ho (by simp [hhw, hact])
  · have := hi.log.outTouched (hflag.symm.trans (hhw ▸ ho))
    rw [hlog, (hsame _).2.1, AudioStreamInVoip.touched_standby]
    exact this
  · rw [hlog, (hsame _).2.2] at hu
    cases hu
  · rw [hlog, (hsame _).1, AudioStreamInVoip.inUse_standby] at hu
    rw [hout]
    exact hi.log.outUsed hu

theorem callInv_openInFailed (hi : CallInv h w) {junk : Bool} {o : MvsOutcome} {c : OnIn}
    (hnone : w.mVoipInputs h = none)
    (hat : AudioStreamInVoip.Unattached w.hw (Device.newInput junk) w.log o c) :
    CallInv h { w with hw := { c.hw with mVoipInActive := false }, log := c.log } := by
  obtain ⟨hhw, hfd, -⟩ := hi.line.hw_of_unattached hat
  have hg := hat.grows
  have hl := hi.line
  have hact : w.hw.mVoipInActive = false := by
    by_contra hact
    obtain ⟨-, s, hs, -⟩ := hl.input (by simpa using hact)
    simp [hnone] at hs
  have hsame : { w.hw with mVoipInActive := false } = w.hw := by rw [← hact]
  refine ⟨?_, ⟨fun ha => ?_, fun ho => ?_, fun hu => ?_, fun hu => ?_⟩⟩
  · dsimp only
    rw [hhw, hsame]
    exact hl
  · cases ha
  · rw [hhw] at ho
    exact (touched_grows _ hg).trans (hi.log.outTouched ho)
  · obtain ⟨-, s, hs, -⟩ := hi.log.inUsed ((inUse_grows _ hg).symm.trans hu)
    simp [hnone] at hs
  · exact hi.log.outUsed ((inUse_grows _ hg).symm.trans hu)

/-- What a `write()` leaves of the line, and when it leaves the output out of standby. -/
theorem line_write (hP : StoresMode P) {c c' : OnOut} {inp : Option AudioStreamInVoip}
    (hline : Line c.hw inp (some c.s)) {bytes : ℕ} {frame : MvsFrame} {o : MvsOutcome}
    {r : AudioStreamOutDirect.WriteReturn}
    (hw : AudioStreamOutDirect.Writes P c bytes frame o r c')
    (hc : c.s.mFormat ≠ .pcm16Bit → 0 ≤ frame.len) :
    Line c'.hw inp (some c'.s) ∧
      (c.s.mStandby = false ∨ Device.writeOk bytes r = true → c'.s.mStandby = false) := by
  -- no frame is refused, so what follows leaves the hardware and `mStandby` as they are
  have hput : ∀ {c₁ : OnOut} {st : Int}, AudioStreamOutDirect.Written c₁ st bytes frame r c' →
      c₁.s.mFormat = c.s.mFormat → c'.hw = c₁.hw ∧ c'.s.mStandby = c₁.s.mStandby := by
    intro c₁ st hwr hf
    cases hwr with
    | put n _ _ hp => exact ⟨hp.hw, by rw [hp.s]⟩
    | failed hne hlen =>
      have := hc (hf ▸ hne)
      omega
  cases hw with
  | attached _ h0 hwr =>
    obtain ⟨hhw, hs⟩ := hput hwr rfl
    refine ⟨?_, fun _ => hs⟩
    rw [hhw]
    exact hline.activate hP ⟨rfl, rfl, rfl, rfl⟩ (.inl rfl) rfl fun _ _ _ => h0
  | refused hsb _ hx =>
    refine ⟨?_, fun h => ?_⟩
    · have hfd : c.hw.mVoipFd = -1 := hline.bound.resolve_right (by omega)
      have hsame : (AudioStreamOutDirect.fail o.fd c).2.hw = c.hw := by
        unfold AudioStreamOutDirect.fail mvsError
        split
        · simp [← hfd]
        · rfl
      rw [hsame]
      exact { hline with
        playing := fun _ hs => (by cases hs; exact fun h => absurd h (by simp [AudioStreamOutDirect.fail, hsb]))
        both := fun _ _ _ hs => (by cases hs; exact fun _ _ h => absurd h (by simp [AudioStreamOutDirect.fail, hsb])) }
    · simp [AudioStreamOutDirect.fail, hsb, Device.writeOk_neg hx] at h
  | failed cfg hsb h0 _ hst _ =>
    have hfd : c.hw.mVoipFd = -1 := hline.bound.resolve_right (by omega)
    have hsame : { c.hw with mVoipFd := -1 } = c.hw := by rw [← hfd]
    refine ⟨?_, fun h => ?_⟩
    · rw [hsame]
      exact { hline with
        playing := fun _ hs => (by cases hs; exact fun h => absurd h (by simp [hsb]))
        both := fun _ _ _ hs => (by cases hs; exact fun _ _ h => absurd h (by simp [hsb])) }
    · simp [hsb, Device.writeOk_neg hst] at h
  | opened cfg _ _ hx _ _ hwr =>
    obtain ⟨hhw, hs⟩ := hput hwr rfl
    refine ⟨?_, fun _ => hs⟩
    rw [hhw]
    exact hline.activate hP ⟨rfl, rfl, rfl, rfl⟩ (.inr hx) rfl fun _ _ _ => hx
  | resumed hsb hwr =>
    obtain ⟨hhw, hs⟩ := hput hwr rfl
    refine ⟨?_, fun _ => hs.trans hsb⟩
    rw [hhw]
    exact { hline with
      playing := fun _ h => (by cases h; exact fun _ => hline.playing c.s rfl hsb)
      both := fun s hs _ h => (by cases h; exact fun h1 h2 _ => hline.both s hs c.s rfl h1 h2 hsb) }

theorem callInv_write (hP : StoresMode P) (hi : CallInv h w) {bytes : ℕ} {frame : MvsFrame}
    {o : MvsOutcome} {results : List AudioStreamOutDirect.WriteResult} {s : AudioStreamOutDirect}
    {r : AudioStreamOutDirect.WriteReturn} {c : OnOut} (hout : w.mDirectOutput = some s)
    (hw : AudioStreamOutDirect.Writes P (w.onOut s) bytes frame o r c)
    (hc : Op.SetsUp w (.write bytes frame o results)) :
    CallInv h (w.putOut c .write (Device.writeOk bytes r)) := by
  have hg := hw.grows
  obtain ⟨hin, -, -, -⟩ := hw.flags fun hsb => (hi.line.playing s hout hsb).1
  obtain ⟨hline, hsb⟩ := line_write (c := w.onOut s) hP (hout ▸ hi.line) hw (hc s hout)
  refine ⟨hline, ⟨fun ha => ?_, fun _ => by simp [Device.putOut, touched], fun hu => ?_,
    fun hu => ?_⟩⟩
  · have := hi.log.inTouched (hin ▸ ha)
    simpa [Device.putOut, touched, touched_grows _ hg] using this
  · obtain ⟨ha, hs⟩ := hi.log.inUsed (by simpa [Device.putOut, inUse, inUse_grows _ hg] using hu)
    exact ⟨hin.trans ha, hs⟩
  · refine ⟨c.s, rfl, hsb ?_⟩
    by_cases hok : Device.writeOk bytes r = true
    · exact .inr hok
    · have hu' : inUse .out w.log = true := by
        simpa [Device.putOut, inUse, hok, inUse_grows _ hg] using hu
      obtain ⟨s', hs', hsb'⟩ := hi.log.outUsed hu'
      obtain rfl : s = s' := Option.some.inj (hout.symm.trans hs')
      exact .inl hsb'

/-- `standby()` or close of the output as a method on `c`: `out'` is what becomes of the stream, and
`e` is the event. -/
theorem callInv_leaveOut (hP : StoresMode P) (hi : CallInv h w) {c : OnOut}
    (hline : Line c.hw (w.mVoipInputs h) w.mDirectOutput)
    (hc : c.hw.mVoipInActive = w.hw.mVoipInActive ∧ c.log = w.log) {w' : Device} {e : MvsEvent}
    (he : e = .returned (.standby .out) true ∨ e = .returned (.close .out) true)
    (hhw : w'.hw = (AudioStreamOutDirect.standby P c).hw)
    (hins : w'.mVoipInputs = w.mVoipInputs) (hout : ∀ s ∈ w'.mDirectOutput, s.mStandby = true)
    (hlog : w'.log = e :: (AudioStreamOutDirect.standby P c).log) : CallInv h w' := by
  obtain ⟨hline', hact⟩ := hline.standbyOut hP hout
  have hflag := (AudioStreamOutDirect.standby_flags (P := P) (c := c)).1.trans hc.1
  have hsame : ∀ log, inUse (.inp h) (e :: log) = inUse (.inp h) log ∧
      touched (.inp h) (e :: log) = touched (.inp h) log ∧ inUse .out (e :: log) = false := by
    intro log
    rcases he with rfl | rfl <;> simp [inUse, touched]
  refine ⟨by rw [hhw, hins]; exact hline', ⟨fun ha => ?_, fun ho => ?_, fun hu => ?_, fun hu => ?_⟩⟩
  · rw [hlog, (hsame _).2.1, AudioStreamOutDirect.touched_standby, hc.2]
    exact hi.log.inTouched (hflag.symm.trans (hhw ▸ ha))
  · exact absurd ho (by simp [hhw, hact])
  · rw [hlog, (hsame _).1, AudioStreamOutDirect.inUse_standby, hc.2] at hu
    obtain ⟨ha, hs⟩ := hi.log.inUsed hu
    exact ⟨by rw [hhw, hflag, ha], hins ▸ hs⟩
  · rw [hlog, (hsame _).2.2] at hu
    cases hu

theorem callInv_openOut (hP : StoresMode P) (hi : CallInv h w) {s : AudioStreamOutDirect}
    (hnone : w.mDirectOutput = none) (hsb : s.mStandby = true) {hw : AudioHardware}
    (hhw : hw = { w.hw with
      mVoipOutActive := true, mDirectOutrefCnt := w.hw.mDirectOutrefCnt + 1 }) :
    CallInv h { w with
      hw := if hw.mVoipInActive then (setupDeviceforVoipCall P true hw).2 else hw
      mDirectOutput := some s
      log := .returned (.openStream .out) true :: w.log } := by
  have hin : (if hw.mVoipInActive then (setupDeviceforVoipCall P true hw).2
      else hw).mVoipInActive = w.hw.mVoipInActive := by
    split <;> simp [hhw]
  refine ⟨?_, ⟨fun ha => ?_, fun _ => by simp [touched], fun hu => ?_, fun hu => ?_⟩⟩
  · refine hi.line.activate hP ?_ (.inl (by rw [hhw])) (by rw [hhw]) ?_
    · subst hhw; exact ⟨rfl, rfl, rfl, rfl⟩
    · rintro _ ⟨⟩ h
      simp [hsb] at h
  · have := hi.log.inTouched (hin.symm.trans ha)
    simpa [touched] using this
  · obtain ⟨ha, hs⟩ := hi.log.inUsed (by simpa [inUse] using hu)
    exact ⟨hin.trans ha, hs⟩
  · obtain ⟨s', hs', -⟩ := hi.log.outUsed (by simpa [inUse] using hu)
    simp [hnone] at hs'

/-- The count of the references to the output is no part of what holds. -/
theorem callInv_refCnt (hi : CallInv h w) (n : Int) {e : List MvsEvent}
    (he : e = [] ∨ e = [.returned (.openStream .out) true]) :
    CallInv h { w with hw := { w.hw with mDirectOutrefCnt := n }, log := e ++ w.log } := by
  have hl := hi.line
  refine ⟨⟨hl.fm, hl.mode, hl.bound, hl.idle, hl.active, hl.input, hl.playing, hl.both⟩, ?_⟩
  rcases he with rfl | rfl
  · exact ⟨hi.log.inTouched, hi.log.outTouched, hi.log.inUsed, hi.log.outUsed⟩
  · exact ⟨fun ha => by simpa [touched] using hi.log.inTouched ha, fun _ => by simp [touched],
      fun hu => hi.log.inUsed (by simpa [inUse] using hu),
      fun hu => hi.log.outUsed (by simpa [inUse] using hu)⟩

theorem callInv_step (hP : StoresMode P) (hw : w.Wf) (hi : CallInv h w) (hon : op.On h)
    (hc : op.SetsUp w) (hs : step P w op = some w') : CallInv h w' := by
  cases Device.step_cases hw hs with
  | openInFailed hnone hat =>
    obtain rfl : _ = h := hon
    exact callInv_openInFailed hi hnone hat
  | openIn hnone _ hat =>
    obtain rfl : _ = h := hon
    exact callInv_openIn hP hi hnone hat
  | read hin hr =>
    obtain rfl : _ = h := hon
    exact callInv_read hP hi hin hr hc
  | standbyIn hin =>
    obtain rfl : _ = h := hon
    exact callInv_leaveIn hP hi hin (.inl rfl) rfl rfl rfl
  | closeIn hin =>
    obtain rfl : _ = h := hon
    exact callInv_leaveIn hP hi hin (.inr rfl) rfl rfl rfl
  | closeInUnknown | closeOutUnknown => exact hi
  | openOut hnone _ hsb => exact callInv_openOut hP hi hnone hsb rfl
  | openOutAgain => exact callInv_refCnt hi _ (e := [_]) (.inr rfl)
  | closeOutShared => exact callInv_refCnt hi _ (.inl rfl)
  | write hout hwr => exact callInv_write hP hi hout hwr hc
  | @standbyOut s hout =>
    refine callInv_leaveOut hP hi (c := w.onOut s) hi.line ⟨rfl, rfl⟩ (.inl rfl) rfl rfl ?_ rfl
    rintro _ ⟨⟩
    exact (AudioStreamOutDirect.standby_flags (P := P) (c := w.onOut s)).2
  | @closeOut s hout _ =>
    have hl := hi.line
    refine callInv_leaveOut hP hi (c := w.lastOut s) ?_ ⟨rfl, rfl⟩ (.inr rfl) rfl rfl ?_ rfl
    · exact ⟨hl.fm, hl.mode, hl.bound, hl.idle, hl.active, hl.input, hl.playing, hl.both⟩
    · rintro _ ⟨⟩

end Step

/-! ### Runs -/

/-- A call in which both streams go to standby, the output first opens the driver again, and the
input resumes. -/
def restartedCall : List Op :=
  [.openInputStream 0 true ⟨.pcm16Bit, channelInMono, 8000⟩ ⟨3, 0, 0, 0⟩,
    .openOutputStream ⟨.pcm16Bit, channelOutMono, 8000⟩, .read 0 320 ⟨4, 0, 0, 0⟩ [.frame {}],
    .write 320 {} ⟨4, 0, 0, 0⟩ [.zero], .standbyIn 0, .standbyOut,
    .write 320 {} ⟨3, 0, 0, 0⟩ [.zero], .read 0 320 ⟨4, 0, 0, 0⟩ [.frame {}]]

end Msm7x27a.Voip
