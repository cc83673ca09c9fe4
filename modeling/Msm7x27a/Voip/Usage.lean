import Msm7x27a.Lib.Log
import Msm7x27a.Voip.Outcomes

/-!
# The driver is not stopped under the other direction

A direction is *in use* when a `read()` or `write()` of it succeeded and its stream has not been put
to standby or closed since (`inUse`, read off the log).  The two `standby()`s stop the driver unless
the flag of the other direction is set, so everything rests on the flags: `Usage` says that a
direction in use has its flag set.

A `read()` that resumes an open input does not set `mVoipInActive`, which `standby()` clears; the
output then stops the driver under the input (`stopped_under_input`).  On the runs without such a
`read()` the driver is never stopped under the other direction (`never_stopped_in_use`), whatever
the driver answers.
-/

namespace Msm7x27a.Voip

open Msm7x27a.Audio

/-! ### Use, as the log tells it -/

/-- The direction is in use after the log. -/
def inUse (d : Dir) : List MvsEvent → Bool
  | [] => false
  | .returned (.read h) ok :: log => if d = .inp h ∧ ok = true then true else inUse d log
  | .returned .write ok :: log => if d = .out ∧ ok = true then true else inUse d log
  | .returned (.standby d') _ :: log => if d' = d then false else inUse d log
  | .returned (.close d') _ :: log => if d' = d then false else inUse d log
  | _ :: log => inUse d log

/-- A stop of the driver by one direction finds the other, the input `h` or the output, not in use. -/
def StopOk (h : ℕ) (log : List MvsEvent) : MvsEvent → Prop
  | .stop (.inp _) _ => inUse .out log = false
  | .stop .out _ => inUse (.inp h) log = false
  | _ => True

instance (h : ℕ) (log : List MvsEvent) : DecidablePred (StopOk h log) := fun e => by
  unfold StopOk; split <;> infer_instance

/-- The driver is never stopped under the other direction. -/
def NeverStoppedInUse (h : ℕ) (log : List MvsEvent) : Prop := Log.Always (StopOk h) log

instance (h : ℕ) : DecidablePred (NeverStoppedInUse h) := fun log =>
  inferInstanceAs (Decidable (Log.Always (StopOk h) log))

/-- The operation is on the input `h` or on the output. -/
def Op.On (h : ℕ) : Op → Prop
  | .openInputStream h' .. | .read h' .. | .standbyIn h' | .closeInputStream h' => h' = h
  | _ => True

/-- Every driver call of the operation succeeds. -/
def Op.Succeeds : Op → Prop
  | .openInputStream _ _ _ o => o.Succeeds
  | .read _ _ o results => o.Succeeds ∧ ∀ x ∈ results, ∃ f, x = .frame f
  | .write _ _ o results => o.Succeeds ∧ ∀ x ∈ results, x = .zero
  | _ => True

/-- A `read()` that resumes an open input, so that it does not pass through `set`, finds
`mVoipInActive` set. -/
def Op.ResumesActive (w : Device) : Op → Prop
  | .read h .. => ∀ s ∈ w.mVoipInputs h, ¬ AudioStreamInVoip.Reopens (w.onIn s) →
    w.hw.mVoipInActive = true
  | _ => True

instance (h : ℕ) : DecidablePred (Op.On h) := fun op => by
  cases op <;> unfold Op.On <;> infer_instance

instance (w : Device) : DecidablePred (Op.ResumesActive w) := fun op => by
  cases op <;> unfold Op.ResumesActive <;> infer_instance

theorem Grows.toLog {log log' : List MvsEvent} (h : Grows log log') :
    Log.Grows MvsEvent.IsDriver log log' := by
  obtain ⟨l, hl, rfl⟩ := h
  exact ⟨l, rfl, hl⟩

theorem inUse_grows (d : Dir) {log log' : List MvsEvent} (h : Grows log log') :
    inUse d log' = inUse d log := by
  refine h.toLog.read_eq fun e he log => ?_
  cases e with
  | stop | returned => exact he.elim
  | _ => rfl

theorem NeverStoppedInUse.grows {h : ℕ} {log log' : List MvsEvent}
    (hs : NeverStoppedInUse h log) (hg : Grows log log') : NeverStoppedInUse h log' := by
  obtain ⟨l, hl, rfl⟩ := hg
  refine Log.Always.append hs fun e he log => ?_
  have := hl e he
  cases e <;> trivial

/-- A `write` that returns an error has not taken the buffer. -/
theorem Device.writeOk_neg {st : Int} (hst : st < 0) (bytes : ℕ)
    (sent : List AudioStreamOutDirect.Sent) : Device.writeOk bytes ⟨st, sent⟩ = false := by
  have : st ≠ bytes := by omega
  simp [Device.writeOk, this]

/-! ### The flags -/

section Flags

variable {hw : AudioHardware} {log : List MvsEvent} {o : MvsOutcome} {P : Platform}

theorem mvsError_flags (fd : Int) (hw : AudioHardware) (log : List MvsEvent) :
    (mvsError fd hw log).2.1.mVoipInActive = hw.mVoipInActive ∧
      (mvsError fd hw log).2.1.mVoipOutActive = hw.mVoipOutActive := by
  unfold mvsError
  split <;> exact ⟨rfl, rfl⟩

namespace AudioStreamInVoip

variable {s : AudioStreamInVoip} {c c' : OnIn} {bytes : ℕ} {r : ReadReturn}

theorem Unattached.flags (h : Unattached hw s log o c') :
    c'.hw.mVoipInActive = hw.mVoipInActive ∧ c'.hw.mVoipOutActive = hw.mVoipOutActive := by
  cases h with
  | refused => exact mvsError_flags ..
  | failed => exact ⟨rfl, rfl⟩

theorem Attached.flags {a : StreamArgs} (h : Attached hw s log a o c') :
    c'.hw.mVoipInActive = true ∧ c'.hw.mVoipOutActive = hw.mVoipOutActive := by
  cases h <;> exact ⟨rfl, rfl⟩

/-- The device is set up for a call, or not: the output's flag stays. -/
theorem Attached.setup_flag {a : StreamArgs} (h : Attached hw s log a o c') (P : Platform) :
    (if c'.hw.mVoipOutActive then (setupDeviceforVoipCall P true c'.hw).2
      else c'.hw).mVoipOutActive = hw.mVoipOutActive := by
  split
  · rw [setup_mVoipOutActive]
    exact h.flags.2
  · exact h.flags.2

theorem Polled.flags (h : Polled P c bytes r c') :
    c'.hw.mVoipInActive = c.hw.mVoipInActive ∧ c'.hw.mVoipOutActive = c.hw.mVoipOutActive := by
  cases h with
  | short => exact ⟨rfl, rfl⟩
  | polled n _ _ hp => rw [hp.hw]; simp

/-- A `read` leaves the output's flag, never clears the input's, and a successful one leaves it set
if it resumes only active inputs. -/
theorem Reads.flags (h : Reads P c bytes o r c') :
    c'.hw.mVoipOutActive = c.hw.mVoipOutActive ∧
      (c.hw.mVoipInActive = true → c'.hw.mVoipInActive = true) ∧
      ((¬ Reopens c → c.hw.mVoipInActive = true) → Device.readOk r = true →
        c'.hw.mVoipInActive = true) := by
  cases h with
  | failed _ hat =>
    obtain ⟨hin, hout⟩ := hat.flags
    exact ⟨hout, fun h => hin.trans h, fun _ hok => absurd hok (by decide)⟩
  | @reopened _ c₁ _ _ hat hp =>
    obtain ⟨hin, hout⟩ := hat.flags
    obtain ⟨hin', hout'⟩ := hp.flags
    exact ⟨hout'.trans hout, fun _ => hin'.trans hin, fun _ _ => hin'.trans hin⟩
  | resumed hre hp =>
    obtain ⟨hin, hout⟩ := hp.flags
    exact ⟨hout, fun h => hin.trans h, fun h _ => hin.trans (h hre)⟩

theorem standby_flags (h : ℕ) : (standby P h c).hw.mVoipOutActive = c.hw.mVoipOutActive := by
  by_cases hcl : Closes c
  · rw [standby_closes P h hcl]
    simp
  · rw [standby_stays P h hcl]

/-- `standby` of the input stops the driver only when the output's flag is not set. -/
theorem standby_stops {h : ℕ} (hs : NeverStoppedInUse h c.log)
    (hout : inUse .out c.log = true → c.hw.mVoipOutActive = true) :
    NeverStoppedInUse h (standby P h c).log := by
  by_cases hcl : Closes c
  · rw [standby_closes P h hcl]
    refine ⟨trivial, trivial, ?_, hs⟩
    by_contra hne
    have := hout (by simpa [StopOk] using hne)
    simp [hcl.2.1] at this
  · rw [standby_stays P h hcl]
    exact hs

theorem inUse_standby (h : ℕ) (d : Dir) : inUse d (standby P h c).log = inUse d c.log := by
  by_cases hcl : Closes c
  · rw [standby_closes P h hcl]
    rfl
  · rw [standby_stays P h hcl]

end AudioStreamInVoip

namespace AudioStreamOutDirect

variable {c c' : OnOut} {status : Int} {bytes : ℕ} {frame : MvsFrame} {r : WriteReturn}

theorem Written.flags (h : Written c status bytes frame r c') :
    c'.hw.mVoipInActive = c.hw.mVoipInActive ∧ c'.hw.mVoipOutActive = c.hw.mVoipOutActive ∧
      c'.s.mStandby = c.s.mStandby := by
  cases h with
  | put n _ _ hp => exact ⟨by rw [hp.hw], by rw [hp.hw], by rw [hp.s]⟩
  | failed => exact ⟨(mvsError_flags ..).1, (mvsError_flags ..).2, rfl⟩

/-- A `write` leaves the input's flag and never clears the output's.  If it ends out of standby, or
succeeds, the output's flag is set, when it was set for a stream out of standby. -/
theorem Writes.flags (h : Writes P c bytes frame o r c')
    (hp : c.s.mStandby = false → c.hw.mVoipOutActive = true) :
    c'.hw.mVoipInActive = c.hw.mVoipInActive ∧
      (c.hw.mVoipOutActive = true → c'.hw.mVoipOutActive = true) ∧
      (c'.s.mStandby = false → c'.hw.mVoipOutActive = true) ∧
      (Device.writeOk bytes r = true → c'.hw.mVoipOutActive = true) := by
  cases h with
  | attached _ _ hwr =>
    obtain ⟨hin, hout, -⟩ := hwr.flags
    have hout' : c'.hw.mVoipOutActive = true := by rw [hout, leaveStandby_mVoipOutActive]
    exact ⟨by rw [hin, leaveStandby_mVoipInActive], fun _ => hout', fun _ => hout', fun _ => hout'⟩
  | refused hsb _ hx =>
    obtain ⟨hin, hout⟩ := mvsError_flags c.s.mFd c.hw c.log
    refine ⟨hin, fun h => hout.trans h, fun h => ?_, fun h => absurd h (by simp [fail, Device.writeOk_neg hx])⟩
    have : c.s.mStandby = false := h
    simp [this] at hsb
  | failed cfg hsb _ _ hst _ =>
    refine ⟨rfl, fun h => h, fun h => ?_, fun h => absurd h (by simp [Device.writeOk_neg hst])⟩
    have : c.s.mStandby = false := h
    simp [this] at hsb
  | opened cfg _ _ _ _ _ hwr =>
    obtain ⟨hin, hout, -⟩ := hwr.flags
    have hout' : c'.hw.mVoipOutActive = true := by rw [hout, leaveStandby_mVoipOutActive]
    exact ⟨by rw [hin, leaveStandby_mVoipInActive], fun _ => hout', fun _ => hout', fun _ => hout'⟩
  | resumed hsb hwr =>
    obtain ⟨hin, hout, -⟩ := hwr.flags
    have hout' : c'.hw.mVoipOutActive = true := hout.trans (hp hsb)
    exact ⟨hin, fun _ => hout', fun _ => hout', fun _ => hout'⟩

theorem standby_flags : (standby P c).hw.mVoipInActive = c.hw.mVoipInActive ∧
    (standby P c).s.mStandby = true := by
  by_cases hcl : Closes c
  · rw [standby_closes P hcl]
    simp
  · rw [standby_stays P hcl]
    exact ⟨rfl, rfl⟩

/-- `standby` of the output stops the driver only when the input's flag is not set. -/
theorem standby_stops {h : ℕ} (hs : NeverStoppedInUse h c.log)
    (hin : inUse (.inp h) c.log = true → c.hw.mVoipInActive = true) :
    NeverStoppedInUse h (standby P c).log := by
  by_cases hcl : Closes c
  · rw [standby_closes P hcl]
    refine ⟨trivial, trivial, ?_, hs⟩
    by_contra hne
    have := hin (by simpa [StopOk] using hne)
    simp [hcl.2] at this
  · rw [standby_stays P hcl]
    exact hs

theorem inUse_standby (d : Dir) : inUse d (standby P c).log = inUse d c.log := by
  by_cases hcl : Closes c
  · rw [standby_closes P hcl]
    rfl
  · rw [standby_stays P hcl]

end AudioStreamOutDirect

end Flags

/-! ### Runs -/

/-- A direction in use has its flag set, and so has an output out of standby. -/
structure Usage (h : ℕ) (w : Device) : Prop where
  stops : NeverStoppedInUse h w.log
  input : inUse (.inp h) w.log = true → w.hw.mVoipInActive = true ∧ w.mVoipInputs h ≠ none
  output : inUse .out w.log = true → w.hw.mVoipOutActive = true
  playing : ∀ s, w.mDirectOutput = some s → s.mStandby = false → w.hw.mVoipOutActive = true

theorem usage_init (h : ℕ) : Usage h Device.init where
  stops := trivial
  input hi := by cases hi
  output ho := by cases ho
  playing _ hs := absurd hs (by simp [Device.init])

/-- `NeverStoppedInUse` after the return of a call. -/
theorem NeverStoppedInUse.returned {h : ℕ} {log : List MvsEvent} (hs : NeverStoppedInUse h log)
    (call : Call) (ok : Bool) : NeverStoppedInUse h (.returned call ok :: log) := ⟨trivial, hs⟩

section Step

variable {P : Platform} {w : Device} {h : ℕ}

theorem Usage.read (hu : Usage h w) {s : AudioStreamInVoip} {bytes : ℕ} {o : MvsOutcome}
    {r : AudioStreamInVoip.ReadReturn} {c : OnIn} (hr : AudioStreamInVoip.Reads P (w.onIn s) bytes o r c)
    (hc : ¬AudioStreamInVoip.Reopens (w.onIn s) → w.hw.mVoipInActive = true) :
    Usage h (w.putIn h c (.read h) (Device.readOk r)) := by
  obtain ⟨hout, hkeep, hset⟩ := hr.flags
  have hg := hr.grows
  refine ⟨(hu.stops.grows hg).returned _ _, fun hi => ?_, fun ho => ?_, fun s hs hsb => ?_⟩
  · refine ⟨?_, by simp [Device.putIn]⟩
    change (if Dir.inp h = .inp h ∧ Device.readOk r = true then true else inUse _ c.log) = true at hi
    split at hi
    next hread => exact hset hc hread.2
    next => exact hkeep (hu.input (inUse_grows _ hg ▸ hi)).1
  · change (if Dir.out = .inp h ∧ Device.readOk r = true then true else inUse _ c.log) = true at ho
    rw [if_neg (by simp)] at ho
    exact hout.trans (hu.output (inUse_grows _ hg ▸ ho))
  · exact hout.trans (hu.playing s hs hsb)

theorem Usage.write (hu : Usage h w) {s : AudioStreamOutDirect} {bytes : ℕ} {frame : MvsFrame}
    {o : MvsOutcome} {r : AudioStreamOutDirect.WriteReturn} {c : OnOut}
    (hout : w.mDirectOutput = some s)
    (hwr : AudioStreamOutDirect.Writes P (w.onOut s) bytes frame o r c) :
    Usage h (w.putOut c .write (Device.writeOk bytes r)) := by
  obtain ⟨hin, hkeep, hplay, hok⟩ := hwr.flags (hu.playing s hout)
  have hg := hwr.grows
  refine ⟨(hu.stops.grows hg).returned _ _, fun hi => ?_, fun ho => ?_, fun s' hs' hsb => ?_⟩
  · change (if Dir.inp h = .out ∧ _ then true else inUse _ c.log) = true at hi
    rw [if_neg (by simp)] at hi
    have hinput := hu.input (inUse_grows _ hg ▸ hi)
    exact ⟨hin.trans hinput.1, hinput.2⟩
  · change (if Dir.out = .out ∧ Device.writeOk bytes r = true then true
      else inUse _ c.log) = true at ho
    split at ho
    next hwrite => exact hok hwrite.2
    next => exact hkeep (hu.output (inUse_grows _ hg ▸ ho))
  · obtain rfl : c.s = s' := Option.some.inj hs'
    exact hplay hsb

/-- A call that ends the use of its direction. -/
theorem inUse_ended {call : Call} {d : Dir} (hcall : call = .standby d ∨ call = .close d) (d' : Dir)
    (ok : Bool) (log : List MvsEvent) :
    inUse d' (.returned call ok :: log) = if d = d' then false else inUse d' log := by
  rcases hcall with rfl | rfl <;> rfl

/-- The input goes to standby, and may be closed then. -/
theorem Usage.endIn (hu : Usage h w) (s : AudioStreamInVoip) {call : Call}
    (hcall : call = .standby (.inp h) ∨ call = .close (.inp h)) (ok : Bool)
    (inputs : ℕ → Option AudioStreamInVoip) :
    Usage h { w with
      hw := (AudioStreamInVoip.standby P h (w.onIn s)).hw
      mVoipInputs := inputs
      log := .returned call ok :: (AudioStreamInVoip.standby P h (w.onIn s)).log } := by
  have hst := AudioStreamInVoip.standby_stops (P := P) (c := w.onIn s) hu.stops hu.output
  have hsame := AudioStreamInVoip.inUse_standby (P := P) (c := w.onIn s) h
  have hflag := AudioStreamInVoip.standby_flags (P := P) (c := w.onIn s) h
  refine ⟨hst.returned _ _, fun hi => ?_, fun ho => ?_, fun s hs hsb => ?_⟩
  · rw [inUse_ended hcall, if_pos rfl] at hi
    cases hi
  · rw [inUse_ended hcall, if_neg fun e => by cases e] at ho
    exact hflag.trans (hu.output ((hsame _).symm.trans ho))
  · exact hflag.trans (hu.playing s hs hsb)

/-- The output goes to standby, and may be closed then. -/
theorem Usage.endOut (hu : Usage h w) {c : OnOut} (hlog : c.log = w.log)
    (hactive : c.hw.mVoipInActive = w.hw.mVoipInActive) {call : Call}
    (hcall : call = .standby .out ∨ call = .close .out) (ok : Bool)
    {out : Option AudioStreamOutDirect} (hout : ∀ s ∈ out, s.mStandby = true) :
    Usage h { w with
      hw := (AudioStreamOutDirect.standby P c).hw
      mDirectOutput := out
      log := .returned call ok :: (AudioStreamOutDirect.standby P c).log } := by
  have hst : NeverStoppedInUse h (AudioStreamOutDirect.standby P c).log := by
    refine AudioStreamOutDirect.standby_stops (hlog ▸ hu.stops) fun hi => ?_
    rw [hlog] at hi
    exact hactive.trans (hu.input hi).1
  have hsame := AudioStreamOutDirect.inUse_standby (P := P) (c := c)
  have hflag := (AudioStreamOutDirect.standby_flags (P := P) (c := c)).1.trans hactive
  refine ⟨hst.returned _ _, fun hi => ?_, fun ho => ?_, fun s hs hsb => ?_⟩
  · rw [inUse_ended hcall, if_neg fun e => by cases e] at hi
    have hi' : inUse (.inp h) w.log = true := hlog ▸ (hsame _).symm.trans hi
    exact ⟨hflag.trans (hu.input hi').1, (hu.input hi').2⟩
  · rw [inUse_ended hcall, if_pos rfl] at ho
    cases ho
  · exact absurd ((hout s hs).symm.trans hsb) (by decide)

theorem usage_step {w' : Device} {op : Op} (hw : w.Wf) (hu : Usage h w) (hon : op.On h)
    (hc : op.ResumesActive w) (hs : step P w op = some w') : Usage h w' := by
  cases Device.step_cases hw hs with
  | @openInFailed h' junk a o c hnone hat =>
    obtain rfl : h' = h := hon
    have hg := hat.grows
    refine ⟨hu.stops.grows hg, fun hin => ?_, fun hout => ?_, fun s hs hsb => ?_⟩
    · exact absurd hnone (hu.input (inUse_grows _ hg ▸ hin)).2
    · exact hat.flags.2.trans (hu.output (inUse_grows _ hg ▸ hout))
    · exact hat.flags.2.trans (hu.playing s hs hsb)
  | @openIn h' junk a o c hnone hwf hat =>
    obtain rfl : h' = h := hon
    have hg := hat.grows
    have hflag := hat.setup_flag P
    refine ⟨(hu.stops.grows hg).returned _ _, fun hin => ?_, fun hout => ?_, fun s hs hsb => ?_⟩
    · exact absurd hnone (hu.input (inUse_grows _ hg ▸ hin)).2
    · exact hflag.trans (hu.output (inUse_grows _ hg ▸ hout))
    · exact hflag.trans (hu.playing s hs hsb)
  | @read h' bytes o results s r c hin hr =>
    obtain rfl : h' = h := hon
    exact hu.read hr (hc s hin)
  | @standbyIn h' s hin =>
    obtain rfl : h' = h := hon
    exact hu.endIn s (.inl rfl) true _
  | @closeIn h' s hin =>
    obtain rfl : h' = h := hon
    exact hu.endIn s (.inr rfl) true _
  | closeInUnknown | closeOutUnknown => exact hu
  | @openOut a s hnone _ hsb =>
    have hflag : ∀ hw : AudioHardware, (if hw.mVoipInActive then
        (setupDeviceforVoipCall P true hw).2 else hw).mVoipInActive = hw.mVoipInActive ∧
        (if hw.mVoipInActive then (setupDeviceforVoipCall P true hw).2
          else hw).mVoipOutActive = hw.mVoipOutActive := by
      intro hw
      split <;> simp
    have hout := (hflag { w.hw with
      mVoipOutActive := true, mDirectOutrefCnt := w.hw.mDirectOutrefCnt + 1 }).2
    refine ⟨hu.stops.returned _ _, fun hi => ⟨?_, (hu.input hi).2⟩, fun _ => hout,
      fun _ _ _ => hout⟩
    exact (hflag _).1.trans (hu.input hi).1
  | openOutAgain => exact ⟨hu.stops.returned _ _, hu.input, hu.output, hu.playing⟩
  | closeOutShared => exact ⟨hu.stops, hu.input, hu.output, hu.playing⟩
  | @write bytes frame o results s r c hout hwr => exact hu.write hout hwr
  | @standbyOut s hout =>
    refine hu.endOut rfl rfl (.inl rfl) true fun s' hs' => ?_
    obtain rfl := Option.some.inj hs'
    exact AudioStreamOutDirect.standby_flags.2
  | @closeOut s hout href =>
    exact hu.endOut (c := w.lastOut s) rfl rfl (.inr rfl) true fun s' hs' => by cases hs'

end Step

/-- **The driver is never stopped under the other direction** in a run on one input and the direct
output whose every `read()` that resumes an open input finds `mVoipInActive` set. -/
theorem never_stopped_in_use (P : Platform) (h : ℕ) (ops : List Op) {w : Device}
    (hr : Runs.run (step P) Device.init ops = some w)
    (hc : Runs.Along (step P) (fun w op => op.On h ∧ op.ResumesActive w) Device.init ops) :
    NeverStoppedInUse h w.log :=
  (Runs.run_inv (I := fun w => w.Wf ∧ Usage h w)
    (fun _ _ _ hI hC hs => ⟨Device.wf_step hI.1 hs, usage_step hI.1 hI.2 hC.1 hC.2 hs⟩)
    ⟨Device.wf_init, usage_init h⟩ hc hr).2.stops

theorem never_stopped_in_use_aCall :
    ∃ w, Runs.run (step .plain) Device.init aCall = some w ∧ NeverStoppedInUse 0 w.log :=
  ⟨_, rfl, never_stopped_in_use .plain 0 aCall rfl (by decide +kernel)⟩

/-- A call in which the input is put to standby while the output is in use, and resumes. -/
def resumedCall : List Op :=
  [.openInputStream 0 true ⟨.pcm16Bit, channelInMono, 8000⟩ ⟨3, 0, 0, 0⟩,
    .openOutputStream ⟨.pcm16Bit, channelOutMono, 8000⟩, .read 0 320 ⟨4, 0, 0, 0⟩ [.frame {}],
    .write 320 {} ⟨4, 0, 0, 0⟩ [.zero], .standbyIn 0, .read 0 320 ⟨4, 0, 0, 0⟩ [.frame {}],
    .standbyOut]

/-- **The driver is stopped under the input**: the `read()` that resumes the input leaves
`mVoipInActive` clear, and `standby()` of the output stops the driver. -/
theorem stopped_under_input : (∀ op ∈ resumedCall, op.On 0 ∧ op.Succeeds) ∧
    ∃ w, Runs.run (step .plain) Device.init resumedCall = some w ∧ ¬ NeverStoppedInUse 0 w.log := by
  refine ⟨?_, Runs.exists_run (by decide +kernel)⟩
  simp [resumedCall, Op.On, Op.Succeeds, MvsOutcome.Succeeds]

end Msm7x27a.Voip
