import Msm7x27a.Client.Calls

/-!
# Routing without an output

`doRouting` asks `mOutput` for the devices when it is not told them.  Parameters and the streams that
record call it whether or not an output is open, and an output other than `mOutput` calls it with the
devices it is given, which may be 0.

`routes_safely_iff` says which calls must not be made without an output.
-/

namespace Msm7x27a.Client

open Msm7x27a.Audio Msm7x27a.Route Msm7x27a.Runs
open Msm7x27a.Recording (InputHeaders Params SetAnswers Recorder AudioStreamInMSM72xx refuse storedRate
  calculate_audpre_table_index Vars)

/-- `standby` restores the routing. -/
def FmOff (a : Answers) (s : System) : Prop := a.isFMAnalog = false ∧ s.state.hw.isFmon = false

/-- `set` returns `NO_ERROR`: the arguments are accepted, and the driver opens and takes them.  If it
does not take them, the status is the descriptor for the formats other than PCM. -/
structure SetSucceeds (h : InputHeaders) (InstanceCount : ℕ) (p : Params) (a : SetAnswers)
    (x : AudioStreamInMSM72xx) : Prop where
  accepted : refuse h InstanceCount p = none
  free : x.mFd < 0
  opens : 0 ≤ a.fd
  granted : ∀ rate, storedRate p a = some rate → 0 ≤ calculate_audpre_table_index rate
  denied : storedRate p a = none → p.format ≠ .pcm16Bit ∧ a.fd = 0

/-- `AUDIO_START` succeeds. -/
def Starts (x : AudioStreamInMSM72xx) (r : Recorder.ReadAnswers) : Prop :=
  r.start = true ∧
    if x.mState = .closed then (storedRate x.params r.set).isSome = true else 0 ≤ x.mFd

/-- The parameters that are followed by routing. -/
def RoutesParameters (E : Env) (p : KeyValuePairs) (d : Hardware) : Prop :=
  (∃ v, p.get .bt_headset_name = some v ∧ bluetoothId v d.mSndEndpoints = 0) ∨
    p.Has .dualmic_enabled ∨
    p.Has .tty_mode ∧ d.state.hw.mMode = .inCall ∧ d.state.hw.mCurSndDevice = E.e .HEADSET

/-- The reads that route. -/
def RoutesRead (V : Environment) (s : System) (r : Recorder.ReadAnswers) (second : Answers)
    (x : AudioStreamInMSM72xx) : Prop :=
  x.mHardware = true ∧ x.mState ≠ .started ∧
    (x.mState = .closed → SetSucceeds V.inputs s.recorder.InstanceCount x.params r.set x) ∧
    (x.mDevices ≠ V.E.h.DEVICE_IN_FM_RX ∨ ¬Starts x r ∧ FmOff second s)

/-- The calls that enter `doRouting` without the devices. -/
def NeedsOutput (V : Environment) (s : System) : Call → Prop
  | .setParameters p _ => RoutesParameters V.E p s.hardware
  | .setDirectParameters routing _ => s.mDirectOutput.isSome ∧ routing = some 0
  | .setLpaParameters session routing _ => session ∈ liveSessions s.state.log ∧ routing = some 0
  | .openInput q set _ a =>
    q.Possible V s ∧ ¬q.Refused V s.state.hw.mMode ∧
      refuse V.inputs (s.recorder.InstanceCount + 1) q.params = none ∧
      ¬SetSucceeds V.inputs (s.recorder.InstanceCount + 1) q.params set (q.stream V) ∧ FmOff a s
  | .closeInput inp _ a => ∃ x, s.recorder.streams inp = some x ∧ x.mHardware = true ∧ FmOff a s
  | .standbyInput inp _ a => ∃ x, s.recorder.streams inp = some x ∧ x.mHardware = true ∧ FmOff a s
  | .read inp r _ second => ∃ x, s.recorder.streams inp = some x ∧ RoutesRead V s r second x
  | .setInputParameters inp routing _ =>
    (s.recorder.streams inp).isSome ∧ ∃ device, routing = some device ∧ OneDevice device
  | .setVoipParameters h routing _ =>
    (s.mVoipInputs h).isSome ∧ ∃ device, routing = some device ∧ OneDevice device
  | _ => False

/-! ### `set` -/

section Set

variable {h : InputHeaders} {n : ℕ} {own : Bool} {devices : BitVec 32} {a : SetAnswers}
  {x : AudioStreamInMSM72xx} {p : Params} {v : Vars} {audpre_index : Int}

/-- A refusal is not `NO_ERROR`. -/
theorem refuse_ne {r : Status × Params} (hr : refuse h n p = some r) : r.1 ≠ noError := by
  have hbusy : Recording.ebusy ≠ noError := by decide
  have hbad : badValue ≠ noError := by decide
  unfold refuse at hr
  split at hr
  · cases hr
    exact hbusy
  split at hr
  · cases hr
    exact hbad
  split at hr
  · cases hr
    exact hbad
  split at hr
  · cases hr
    exact hbad
  · cases hr

theorem configurePcm_denied
    (hr : (if a.getConfig.isSome ∧ a.setConfig then a.confirm.map Recording.Config.sample_rate else none) =
      none) : (Recording.configurePcm h own devices a v).1 = some Recording.failed := by
  unfold Recording.configurePcm
  cases hg : a.getConfig with
  | none => rfl
  | some config =>
    dsimp only
    cases hset : a.setConfig with
    | false => rfl
    | true =>
      rw [hg, hset, if_pos ⟨rfl, rfl⟩, Option.map_eq_none_iff] at hr
      rw [if_neg (Bool.true_eq_false_eq_False), hr]

theorem configureMemo_denied
    (hr : (if a.setVoicememo ∧ a.getVoicememo then a.getConfig.map Recording.Config.sample_rate else none) =
      none) : (Recording.configureMemo own devices a v).1 = some a.fd := by
  unfold Recording.configureMemo
  cases hg : a.getConfig with
  | none => rfl
  | some config =>
    dsimp only
    by_cases hmemo : a.setVoicememo = false ∨ a.getVoicememo = false
    · rw [if_pos hmemo]
    · obtain ⟨hset, hget⟩ := not_or.1 hmemo
      rw [if_pos ⟨eq_true_of_ne_false hset, eq_true_of_ne_false hget⟩, hg] at hr
      cases hr

theorem configureAac_denied {rate : ℕ}
    (hr : (if a.getConfig.isSome ∧ a.setConfig then some rate else none) = none) :
    (Recording.configureAac own devices a v).1 = some a.fd := by
  unfold Recording.configureAac
  cases hg : a.getConfig with
  | none => rfl
  | some config =>
    dsimp only
    cases hset : a.setConfig with
    | false => rfl
    | true =>
      rw [hg, hset, if_pos ⟨rfl, rfl⟩] at hr
      cases hr

/-- What `configure` returns when the driver denies something. -/
theorem configure_denied (hf : ∀ code, v.args.format ≠ .other code) (hr : storedRate v.args a = none) :
    (Recording.configure h own devices a v).1 =
      some (if v.args.format = .pcm16Bit then Recording.failed else a.fd) := by
  unfold storedRate at hr
  unfold Recording.configure
  cases hv : v.args.format with
  | pcm16Bit =>
    rw [hv] at hr
    exact configurePcm_denied hr
  | amrNb =>
    rw [hv] at hr
    exact configureMemo_denied hr
  | evrc =>
    rw [hv] at hr
    exact configureMemo_denied hr
  | qcelp =>
    rw [hv] at hr
    exact configureMemo_denied hr
  | aac =>
    rw [hv] at hr
    exact configureAac_denied hr
  | other code => exact absurd hv (hf code)

/-- The stream as the driver's configuration finds it. -/
def Opened (a : SetAnswers) (v : Vars) : Vars :=
  { v with stream := { v.stream with mHardware := true, mFd := a.fd } }

/-- `set`, when the arguments are accepted and the driver opens. -/
theorem set_opened (hacc : refuse h n v.args = none) (hfree : v.stream.mFd < 0) (hopens : 0 ≤ a.fd) :
    Recording.set h n own devices a v audpre_index =
      Recording.conclude (Recording.configure h own devices a (Opened a v)) audpre_index := by
  unfold Recording.set
  rw [hacc]
  dsimp only
  rw [if_neg (Int.not_le.2 hfree), if_neg (Int.not_lt.2 hopens)]
  rfl

/-- When `set` returns `NO_ERROR`. -/
theorem set_succeeds_iff : (Recording.set h n own devices a v audpre_index).1 = noError ↔
    SetSucceeds h n v.args a v.stream := by
  have heperm : Recording.eperm ≠ noError := by decide
  have hfailed : Recording.failed ≠ noError := by decide
  have heinval : Recording.einval ≠ noError := by decide
  cases hacc : refuse h n v.args with
  | some r =>
    unfold Recording.set
    rw [hacc]
    refine iff_of_false (refuse_ne hacc) fun hs => ?_
    cases hacc.symm.trans hs.accepted
  | none =>
    by_cases hfree : v.stream.mFd < 0
    · by_cases hopens : 0 ≤ a.fd
      · rw [set_opened hacc hfree hopens]
        have hf : ∀ code, (Opened a v).args.format ≠ .other code := Recording.format_of_accepted hacc
        have hg := Recording.granted_configure h own devices a (Opened a v) hf
        unfold Recording.conclude
        cases hr : storedRate v.args a with
        | some rate =>
          obtain ⟨hnone, hsample⟩ := hg.ok rate hr
          rw [hnone]
          dsimp only
          unfold Recording.finish
          dsimp only
          rw [hsample]
          by_cases hneg : calculate_audpre_table_index rate < 0
          · rw [if_pos hneg]
            exact iff_of_false heinval fun hs => absurd (hs.granted rate hr) (Int.not_le.2 hneg)
          · rw [if_neg hneg]
            refine iff_of_true rfl ⟨hacc, hfree, hopens, fun rate' hr' => ?_, fun hnone => ?_⟩
            · cases hr.symm.trans hr'
              exact Int.not_lt.1 hneg
            · cases hr.symm.trans hnone
        | none =>
          rw [configure_denied hf hr]
          dsimp only
          change (if v.args.format = .pcm16Bit then Recording.failed else a.fd) = noError ↔ _
          by_cases hpcm : v.args.format = .pcm16Bit
          · rw [if_pos hpcm]
            exact iff_of_false hfailed fun hs => (hs.denied hr).1 hpcm
          · rw [if_neg hpcm]
            constructor
            · intro hzero
              refine ⟨hacc, hfree, hopens, fun rate hr' => ?_, fun _ => ⟨hpcm, hzero⟩⟩
              cases hr.symm.trans hr'
            · intro hs
              exact (hs.denied hr).2
      · unfold Recording.set
        rw [hacc]
        dsimp only
        rw [if_neg (Int.not_le.2 hfree), if_pos (Int.not_le.1 hopens)]
        exact iff_of_false (Int.ne_of_lt (Int.not_le.1 hopens)) fun hs => hopens hs.opens
    · unfold Recording.set
      rw [hacc]
      dsimp only
      rw [if_pos (Int.not_lt.1 hfree)]
      exact iff_of_false heperm fun hs => hfree hs.free

/-- What `set` does not touch, and the devices that it stores. -/
structure Keeps (devices : BitVec 32) (x x' : AudioStreamInMSM72xx) : Prop where
  mHardware : x'.mHardware = x.mHardware
  mDevices : x'.mDevices = x.mDevices ∨ x'.mDevices = devices

theorem Keeps.trans {x x' x'' : AudioStreamInMSM72xx} (hx : Keeps devices x x')
    (hx' : Keeps devices x' x'') : Keeps devices x x'' := by
  refine ⟨hx'.mHardware.trans hx.mHardware, ?_⟩
  obtain h | h := hx'.mDevices
  · rw [h]
    exact hx.mDevices
  · exact Or.inr h

theorem keeps_writeArgs (own : Bool) (p : Params) (v : Vars) :
    Keeps devices v.stream (v.writeArgs own p).stream := by
  unfold Vars.writeArgs
  dsimp only
  split
  · exact ⟨rfl, Or.inl rfl⟩
  · exact ⟨rfl, Or.inl rfl⟩

theorem keeps_configureMemo (own : Bool) (a : SetAnswers) (v : Vars) :
    Keeps devices v.stream (Recording.configureMemo own devices a v).2.stream := by
  unfold Recording.configureMemo
  split
  · exact ⟨rfl, Or.inl rfl⟩
  · dsimp only
    split
    · exact ⟨rfl, Or.inr rfl⟩
    · exact ⟨rfl, Or.inr rfl⟩

theorem keeps_configure (h : InputHeaders) (own : Bool) (a : SetAnswers) (v : Vars) :
    Keeps devices v.stream (Recording.configure h own devices a v).2.stream := by
  unfold Recording.configure
  split
  · unfold Recording.configurePcm
    split
    · exact ⟨rfl, Or.inl rfl⟩
    · split
      · exact keeps_writeArgs own _ v
      · split
        · exact ⟨rfl, Or.inl rfl⟩
        · exact ⟨rfl, Or.inr rfl⟩
  · exact keeps_configureMemo own a v
  · exact keeps_configureMemo own a v
  · exact keeps_configureMemo own a v
  · unfold Recording.configureAac
    split
    · exact ⟨rfl, Or.inl rfl⟩
    · dsimp only
      split
      · exact ⟨rfl, Or.inr rfl⟩
      · exact ⟨rfl, Or.inr rfl⟩
  · exact ⟨rfl, Or.inl rfl⟩

theorem keeps_closeFd (x : AudioStreamInMSM72xx) : Keeps devices x x.closeFd := by
  unfold AudioStreamInMSM72xx.closeFd
  split
  · exact ⟨rfl, Or.inl rfl⟩
  · exact ⟨rfl, Or.inl rfl⟩

theorem keeps_conclude (r : Option Status × Vars) :
    Keeps devices r.2.stream (Recording.conclude r audpre_index).2.1.stream := by
  unfold Recording.conclude
  split
  · exact keeps_closeFd _
  · unfold Recording.finish
    dsimp only
    have hopened : Keeps devices r.2.stream { r.2.stream with mState := .opened } :=
      ⟨rfl, Or.inl rfl⟩
    split
    · exact hopened.trans (keeps_closeFd _)
    · exact hopened

/-- `set` stores `mHardware` when it has accepted the arguments. -/
theorem set_mHardware (hx : v.stream.mHardware = false) :
    (Recording.set h n own devices a v audpre_index).2.1.stream.mHardware = true ↔
      refuse h n v.args = none := by
  cases hacc : refuse h n v.args with
  | some r =>
    unfold Recording.set
    rw [hacc]
    dsimp only
    have hkeeps : Keeps devices v.stream (v.writeArgs own r.2).stream := keeps_writeArgs own r.2 v
    rw [hkeeps.mHardware, hx]
    exact iff_of_false Bool.false_ne_true fun hnone => by cases hnone
  | none =>
    refine iff_of_true ?_ rfl
    unfold Recording.set
    rw [hacc]
    dsimp only
    split
    · rfl
    split
    · have hkeeps : ∀ x, Keeps devices x x.closeFd := keeps_closeFd
      exact (hkeeps _).mHardware
    · exact ((keeps_configure h own a _).trans (keeps_conclude _)).mHardware

theorem keeps_set (hacc : refuse h n v.args = none) :
    Keeps devices { v.stream with mHardware := true }
      (Recording.set h n own devices a v audpre_index).2.1.stream := by
  unfold Recording.set
  rw [hacc]
  dsimp only
  split
  · exact ⟨rfl, Or.inl rfl⟩
  split
  · exact keeps_closeFd _
  · have hopened : Keeps devices { v.stream with mHardware := true } (Opened a v).stream :=
      ⟨rfl, Or.inl rfl⟩
    exact hopened.trans ((keeps_configure h own a _).trans (keeps_conclude _))

/-- The descriptor after a `set` that returns `NO_ERROR`: there is none if the driver denies something. -/
theorem set_mFd (hs : SetSucceeds h n v.args a v.stream) :
    0 ≤ (Recording.set h n own devices a v audpre_index).2.1.stream.mFd ↔
      (storedRate v.args a).isSome = true := by
  have hf : ∀ code, (Opened a v).args.format ≠ .other code := Recording.format_of_accepted hs.accepted
  have hg := Recording.granted_configure h own devices a (Opened a v) hf
  have hsame := Recording.sameState_configure h own devices a (Opened a v)
  have hfd : (Recording.configure h own devices a (Opened a v)).2.stream.mFd = a.fd := hsame.mFd
  rw [set_opened hs.accepted hs.free hs.opens]
  unfold Recording.conclude
  cases hr : storedRate v.args a with
  | some rate =>
    obtain ⟨hnone, hsample⟩ := hg.ok rate hr
    rw [hnone]
    dsimp only
    unfold Recording.finish
    dsimp only
    rw [hsample, if_neg (Int.not_lt.2 (hs.granted rate hr))]
    refine iff_of_true ?_ rfl
    dsimp only
    rw [hfd]
    exact hs.opens
  | none =>
    rw [configure_denied hf hr]
    dsimp only
    refine iff_of_false ?_ Bool.false_ne_true
    unfold Vars.fail AudioStreamInMSM72xx.closeFd
    rw [hfd, if_pos hs.opens]
    dsimp only
    decide

theorem closeFd_mState (x : AudioStreamInMSM72xx) : x.closeFd.mState = x.mState := by
  unfold AudioStreamInMSM72xx.closeFd
  split
  · rfl
  · rfl

/-- `set` does not start the stream. -/
theorem set_mState (hs : SetSucceeds h n v.args a v.stream) (hst : v.stream.mState ≠ .started) :
    (Recording.set h n own devices a v audpre_index).2.1.stream.mState ≠ .started := by
  have hopened : Recording.InputState.opened ≠ .started := by decide
  have hsame := Recording.sameState_configure h own devices a (Opened a v)
  rw [set_opened hs.accepted hs.free hs.opens]
  unfold Recording.conclude
  split
  · dsimp only
    unfold Vars.fail
    rw [closeFd_mState, hsame.mState]
    exact hst
  · unfold Recording.finish
    dsimp only
    split
    · unfold Vars.fail
      rw [closeFd_mState]
      exact hopened
    · exact hopened

/-- A stream that sets itself up again. -/
structure SetAgain (h : InputHeaders) (a : SetAnswers) (x : AudioStreamInMSM72xx)
    (r : Status × AudioStreamInMSM72xx × Recorder) : Prop where
  mHardware : r.2.1.mHardware = true
  mDevices : r.2.1.mDevices = x.mDevices
  mState : r.2.1.mState ≠ .started
  mFd : 0 ≤ r.2.1.mFd ↔ (storedRate x.params a).isSome = true

theorem callSet_again {t : Recorder} (hs : SetSucceeds h t.InstanceCount x.params a x)
    (hst : x.mState ≠ .started) : SetAgain h a x (t.callSet h true x.mDevices x.params a x) := by
  have hk := @keeps_set h t.InstanceCount true x.mDevices a ⟨x, x.params⟩ t.audpre_index hs.accepted
  exact ⟨hk.mHardware, hk.mDevices.elim id id, set_mState (v := ⟨x, x.params⟩) hs hst,
    set_mFd (v := ⟨x, x.params⟩) hs⟩

theorem callSet_succeeds_iff {t : Recorder} :
    (t.callSet h own devices p a x).1 = noError ↔ SetSucceeds h t.InstanceCount p a x :=
  set_succeeds_iff (v := ⟨x, p⟩)

end Set

/-! ### Routing -/

section Route

variable {V : Environment} {a : Answers} {s s' : System} {x : AudioStreamInMSM72xx}

theorem ofRouting_null {o : Option System} : Outcome.ofRouting o = .nullOutput ↔ o = none := by
  cases o with
  | none => exact iff_of_true rfl rfl
  | some s => exact iff_of_false Outcome.noConfusion fun h => by cases h

/-- When `doRouting` has no output. -/
theorem doRouting_none {E : Env} {input : Option Devices} {outputDevice : Devices} {s : State} :
    Route.doRouting E a input outputDevice s = none ↔ outputDevice = 0 ∧ s.mOutput = none := by
  unfold Route.doRouting State.outputDevices
  rw [Option.map_eq_none_iff]
  by_cases h0 : outputDevice = 0
  · rw [if_neg (not_not.2 h0), Option.map_eq_none_iff, and_iff_right h0]
  · rw [if_pos h0]
    exact iff_of_false (Option.some_ne_none _) fun h => h0 h.1

theorem route_none {input : Option Devices} {outputDevice : Devices} :
    route V a input outputDevice s = none ↔ outputDevice = 0 ∧ s.mOutput = none := by
  unfold route
  rw [Option.map_eq_none_iff]
  exact doRouting_none

theorem routeStandby_none :
    routeStandby V a x s = none ↔ s.mOutput = none ∧ x.mHardware = true ∧ FmOff a s := by
  unfold routeStandby
  cases hhw : x.mHardware with
  | false =>
    rw [if_pos rfl]
    exact iff_of_false (Option.some_ne_none s) fun h => Bool.false_ne_true h.2.1
  | true =>
    rw [if_neg (Bool.true_eq_false_eq_False), Option.map_eq_none_iff]
    unfold inputStandby FmOff
    dsimp only
    by_cases hoff : a.isFMAnalog = false ∧ s.state.hw.isFmon = false
    · rw [if_pos hoff, Option.map_eq_none_iff, Option.map_eq_none_iff, doRouting_none]
      exact ⟨fun h => ⟨h.2, rfl, hoff⟩, fun h => ⟨rfl, h.1⟩⟩
    · rw [if_neg hoff]
      exact iff_of_false (Option.some_ne_none _) fun h => hoff h.2.2

/-- Routing leaves the output where it is. -/
theorem route_mOutput {input : Option Devices} {outputDevice : Devices}
    (h : route V a input outputDevice s = some s') : s'.mOutput = s.mOutput := by
  obtain ⟨r, hr, rfl⟩ := Option.map_eq_some_iff.1 h
  obtain ⟨outputDevices, -, rfl⟩ := Option.map_eq_some_iff.1 hr
  unfold System.mOutput doRoutingOf
  split
  · rfl
  · dsimp only
    unfold routeTo
    split
    · rfl
    · rfl

/-! ### Streams that record -/

/-- `standby` keeps `mHardware`. -/
theorem standby_mHardware (opens : Bool) (x : AudioStreamInMSM72xx) (t : Recorder) :
    (Recorder.standby opens x t).1.mHardware = x.mHardware := by
  have hkeeps : Keeps 0 x x.closeFd := keeps_closeFd x
  have hclose := hkeeps.mHardware
  unfold Recorder.standby
  split
  · exact hclose
  · rfl

/-- A stream that does not start is in standby. -/
theorem startRecord_spec {r : Recorder.ReadAnswers} (t : Recorder) (hst : x.mState ≠ .started) :
    ((Recorder.startRecord r x t).1 = true ↔ r.start = true ∧ 0 ≤ x.mFd) ∧
      (Recorder.startRecord r x t).2.1.mHardware = x.mHardware := by
  unfold Recorder.startRecord
  rw [if_neg hst]
  dsimp only
  by_cases hbad : x.mFd < 0 ∨ r.start = false
  · rw [if_pos hbad]
    refine ⟨iff_of_false Bool.false_ne_true fun h => ?_, standby_mHardware _ _ _⟩
    obtain hfd | hstart := hbad
    · exact absurd h.2 (Int.not_le.2 hfd)
    · exact Bool.false_ne_true (hstart.symm.trans h.1)
  · obtain ⟨hfd, hstart⟩ := not_or.1 hbad
    rw [if_neg hbad]
    exact ⟨iff_of_true rfl ⟨eq_true_of_ne_false hstart, Int.not_lt.1 hfd⟩, rfl⟩

theorem startInput_none {inp : ℕ} {r : Recorder.ReadAnswers} {first second : Answers} :
    startInput V inp r first second x s = none ↔
      s.mOutput = none ∧ x.mState ≠ .started ∧ (x.mDevices ≠ V.E.h.DEVICE_IN_FM_RX ∨
        ¬(r.start = true ∧ 0 ≤ x.mFd) ∧ x.mHardware = true ∧ FmOff second s) := by
  unfold startInput
  by_cases hst : x.mState = .started
  · rw [if_pos hst]
    exact iff_of_false (Option.some_ne_none s) fun h => h.2.1 hst
  rw [if_neg hst]
  dsimp only
  by_cases hdev : x.mDevices ≠ V.E.h.DEVICE_IN_FM_RX
  · rw [if_pos hdev]
    have hroute := @route_none V first (s.withState s.state.clearCurDevice) (some x.mDevices) 0
    cases hr : route V first (some x.mDevices) 0 (s.withState s.state.clearCurDevice) with
    | none => exact iff_of_true rfl ⟨(hroute.1 hr).2, hst, Or.inl hdev⟩
    | some s₁ =>
      have hout : s₁.mOutput ≠ none := by
        rw [route_mOutput hr]
        exact fun hnone => Option.some_ne_none s₁ (hr.symm.trans (hroute.2 ⟨rfl, hnone⟩))
      refine iff_of_false ?_ fun h => ?_
      · rw [Option.bind_some]
        split
        · exact Option.some_ne_none _
        · exact fun hnone => hout (routeStandby_none.1 hnone).1
      · exact Option.some_ne_none s₁ (hr.symm.trans (hroute.2 ⟨rfl, h.1⟩))
  · rw [if_neg hdev, Option.bind_some]
    obtain ⟨hgo, hhw⟩ := startRecord_spec (r := r) s.recorder hst
    by_cases hstart : r.start = true ∧ 0 ≤ x.mFd
    · rw [if_pos (hgo.2 hstart)]
      refine iff_of_false (Option.some_ne_none _) fun h => ?_
      exact (h.2.2.resolve_left hdev).1 hstart
    · rw [if_neg fun h => hstart (hgo.1 h), routeStandby_none, hhw]
      constructor
      · intro h
        exact ⟨h.1, hst, Or.inr ⟨hstart, h.2.1, h.2.2⟩⟩
      · intro h
        exact ⟨h.1, (h.2.2.resolve_left hdev).2.1, (h.2.2.resolve_left hdev).2.2⟩

theorem readInput_null {inp : ℕ} {r : Recorder.ReadAnswers} {first second : Answers} :
    readInput V inp r first second x s = .nullOutput ↔ s.mOutput = none ∧ RoutesRead V s r second x := by
  unfold readInput RoutesRead Starts
  by_cases hhw : x.mHardware = false
  · rw [if_pos hhw]
    exact iff_of_false Outcome.noConfusion fun h => Bool.false_ne_true (hhw.symm.trans h.2.1)
  have htrue : x.mHardware = true := eq_true_of_ne_false hhw
  rw [if_neg hhw, and_iff_right htrue]
  by_cases hcl : x.mState = .closed
  · have hst : x.mState ≠ .started := by
      rw [hcl]
      decide
    rw [if_pos hcl, if_pos hcl]
    by_cases hok : SetSucceeds V.inputs s.recorder.InstanceCount x.params r.set x
    · obtain ⟨hmHardware, hmDevices, hmState, hmFd⟩ := callSet_again hok hst
      dsimp only
      rw [if_neg (not_not.2 (callSet_succeeds_iff.2 hok)), ofRouting_null, startInput_none]
      dsimp only
      rw [hmHardware, hmDevices, hmFd, and_iff_right hmState, and_iff_right hst,
        and_iff_right fun _ => hok, and_iff_right rfl]
      rfl
    · dsimp only
      rw [if_pos fun h => hok (callSet_succeeds_iff.1 h)]
      exact iff_of_false Outcome.noConfusion fun h => hok (h.2.2.1 hcl)
  · rw [if_neg hcl, if_neg hcl, ofRouting_null, startInput_none, and_iff_right htrue,
      and_iff_right (a := x.mState = .closed → _) fun h => absurd h hcl]

theorem openInput_null {q : InputRequest} {set : SetAnswers} {opens : Bool} :
    openInput V q set opens a s = .nullOutput ↔
      s.mOutput = none ∧ ¬q.Refused V s.state.hw.mMode ∧
        refuse V.inputs (s.recorder.InstanceCount + 1) q.params = none ∧
        ¬SetSucceeds V.inputs (s.recorder.InstanceCount + 1) q.params set (q.stream V) ∧ FmOff a s := by
  unfold openInput
  by_cases href : q.Refused V s.state.hw.mMode
  · rw [if_pos href]
    exact iff_of_false Outcome.noConfusion fun h => h.2.1 href
  rw [if_neg href, and_iff_right href]
  dsimp only
  by_cases hok : SetSucceeds V.inputs (s.recorder.InstanceCount + 1) q.params set (q.stream V)
  · rw [if_pos (callSet_succeeds_iff.2 hok)]
    exact iff_of_false Outcome.noConfusion fun h => h.2.2.1 hok
  · rw [if_neg fun h => hok (callSet_succeeds_iff.1 h), ofRouting_null, routeStandby_none,
      standby_mHardware, and_iff_right hok]
    have hset : ∀ t : Recorder, (t.callSet V.inputs false q.devices q.params set (q.stream V)).2.1.mHardware =
        true ↔ refuse V.inputs t.InstanceCount q.params = none := fun t =>
      set_mHardware (v := ⟨q.stream V, q.params⟩) rfl
    rw [hset]
    rfl

theorem closeInput_null {inp : ℕ} {opens : Bool} :
    closeInput V inp opens a x s = .nullOutput ↔ s.mOutput = none ∧ x.mHardware = true ∧ FmOff a s := by
  unfold closeInput
  dsimp only
  rw [ofRouting_null, routeStandby_none, standby_mHardware]
  rfl

theorem standbyInput_null {inp : ℕ} {opens : Bool} :
    standbyInput V inp opens a x s = .nullOutput ↔ s.mOutput = none ∧ x.mHardware = true ∧ FmOff a s := by
  unfold standbyInput
  dsimp only
  rw [ofRouting_null, routeStandby_none, standby_mHardware]
  rfl

/-- A routing to one device, or none. -/
theorem oneDevice_null {input : Option Devices} {device : Devices} :
    (if OneDevice device then Outcome.ofRouting (route V a input 0 s') else .returns s) = .nullOutput ↔
      s'.mOutput = none ∧ OneDevice device := by
  by_cases hone : OneDevice device
  · rw [if_pos hone, ofRouting_null, route_none, and_iff_right rfl, and_iff_left hone]
  · rw [if_neg hone]
    exact iff_of_false Outcome.noConfusion fun h => hone h.2

theorem setInputParameters_null {inp : ℕ} {routing : Option Devices} :
    setInputParameters V inp routing a x s = .nullOutput ↔
      s.mOutput = none ∧ ∃ device, routing = some device ∧ OneDevice device := by
  unfold setInputParameters
  cases routing with
  | none => exact iff_of_false Outcome.noConfusion (by simp)
  | some device =>
    simp only [Option.some.injEq, exists_eq_left']
    exact oneDevice_null

theorem setVoipParameters_null {routing : Option Devices} :
    setVoipParameters V routing a s = .nullOutput ↔
      s.mOutput = none ∧ ∃ device, routing = some device ∧ OneDevice device := by
  unfold setVoipParameters
  cases routing with
  | none => exact iff_of_false Outcome.noConfusion (by simp)
  | some device =>
    simp only [Option.some.injEq, exists_eq_left']
    exact oneDevice_null

/-! ### Outputs -/

theorem setDevice_null {routing : Option Devices} :
    setDevice V routing a s = .nullOutput ↔ s.mOutput = none ∧ routing = some 0 := by
  unfold setDevice
  cases routing with
  | none => exact iff_of_false Outcome.noConfusion fun h => by cases h.2
  | some device =>
    dsimp only
    rw [ofRouting_null, route_none, Option.some_inj, and_comm]

theorem mOutput_handleFm (on : Option Bool) (a : Answers) (s : System) :
    (handleFm on a s).mOutput = s.mOutput := by
  have hon : (enableFM a s.state).mOutput = s.mOutput := by
    unfold enableFM System.mOutput
    dsimp only
    split
    · split
      · rfl
      · rfl
    split
    · rfl
    · rfl
  have hoff : (disableFM s.state).mOutput = s.mOutput := by
    unfold disableFM System.mOutput
    split
    · rfl
    · rfl
  unfold handleFm
  split
  · rfl
  · exact hon
  · exact hoff

/-- The PCM output finds itself. -/
theorem setOutputParameters_ne {on : Option Bool} {routing : Option Devices} (hout : s.mOutput ≠ none) :
    setOutputParameters V on routing a s ≠ .nullOutput := by
  unfold setOutputParameters
  cases routing with
  | none => exact Outcome.noConfusion
  | some device =>
    dsimp only
    rw [Ne, ofRouting_null]
    unfold setOutputDevice setPcmDevices
    have hfm := mOutput_handleFm on a s
    unfold System.mOutput at hfm hout
    rw [← hfm] at hout
    obtain ⟨o, ho⟩ := Option.ne_none_iff_exists'.1 hout
    rw [ho, Option.map_some, Option.bind_some, route_none]
    intro h
    cases h.2

/-! ### `AudioHardware::setParameters` -/

/-- Parameters need no output before they are routed. -/
theorem hardwareRoute_none {E : Env} {d : Hardware} : d.route E a = none ↔ d.state.mOutput = none := by
  unfold Hardware.route
  rw [Option.map_eq_none_iff, doRouting_none, and_iff_right rfl]

section Parameters

variable {E : Env} {w : Key → Answers} {p : KeyValuePairs} {d d' : Hardware}

theorem setBluetooth_state (p : KeyValuePairs) (d : Hardware) :
    ((d.setBluetoothNrec p).setBluetoothVGS p).state = d.state ∧
      ((d.setBluetoothNrec p).setBluetoothVGS p).mSndEndpoints = d.mSndEndpoints := by
  unfold Hardware.setBluetoothNrec Hardware.setBluetoothVGS
  cases p.get .bt_headset_nrec with
  | none => cases p.get .bt_headset_vgs <;> exact ⟨rfl, rfl⟩
  | some value => cases p.get .bt_headset_vgs <;> exact ⟨rfl, rfl⟩

theorem setBluetoothName_out (hout : d.state.mOutput = none) :
    (Hardware.setBluetoothName E a p d = none ∧
        ∃ v, p.get .bt_headset_name = some v ∧ bluetoothId v d.mSndEndpoints = 0) ∨
      ∃ d', Hardware.setBluetoothName E a p d = some d' ∧ d'.state = d.state ∧
        ¬∃ v, p.get .bt_headset_name = some v ∧ bluetoothId v d.mSndEndpoints = 0 := by
  unfold Hardware.setBluetoothName
  cases hget : p.get .bt_headset_name with
  | none =>
    refine Or.inr ⟨d, rfl, rfl, ?_⟩
    rintro ⟨v, hv, -⟩
    cases hv
  | some value =>
    dsimp only
    by_cases hzero : bluetoothId value d.mSndEndpoints = 0
    · rw [if_pos hzero]
      refine Or.inl ⟨?_, value, rfl, hzero⟩
      rw [hardwareRoute_none]
      exact hout
    · rw [if_neg hzero]
      refine Or.inr ⟨_, rfl, rfl, ?_⟩
      rintro ⟨v, hv, hv0⟩
      cases hv
      exact hzero hv0

theorem setDualMic_out (hout : d.state.mOutput = none) :
    (Hardware.setDualMic E a p d = none ∧ p.Has .dualmic_enabled) ∨
      Hardware.setDualMic E a p d = some d ∧ ¬p.Has .dualmic_enabled := by
  unfold Hardware.setDualMic KeyValuePairs.Has
  cases p.get .dualmic_enabled with
  | none => exact Or.inr ⟨rfl, Bool.false_ne_true⟩
  | some value =>
    refine Or.inl ⟨?_, rfl⟩
    dsimp only
    rw [hardwareRoute_none]
    exact hout

theorem setTtyAndRate_out (hout : d.state.mOutput = none) :
    Hardware.setTtyAndRate E a p d = none ↔
      p.Has .tty_mode ∧ d.state.hw.mMode = .inCall ∧ d.state.hw.mCurSndDevice = E.e .HEADSET := by
  unfold Hardware.setTtyAndRate KeyValuePairs.Has
  cases p.get .tty_mode with
  | none => exact iff_of_false (Option.some_ne_none _) fun h => Bool.false_ne_true h.1
  | some value =>
    dsimp only
    by_cases hmode : d.state.hw.mMode = .inCall
    · rw [if_neg (not_not.2 hmode)]
      by_cases hcur : d.state.hw.mCurSndDevice = E.e .HEADSET
      · rw [if_pos hcur, Option.map_eq_none_iff, hardwareRoute_none]
        exact iff_of_true hout ⟨rfl, hmode, hcur⟩
      · rw [if_neg hcur]
        exact iff_of_false (Option.some_ne_none _) fun h => hcur h.2.2
    · rw [if_pos hmode]
      exact iff_of_false (Option.some_ne_none _) fun h => hmode h.2.1

/-- Without an output the first key that routes ends the call. -/
theorem setParameters_out (hout : d.state.mOutput = none) :
    d.setParameters E w p = none ↔ RoutesParameters E p d := by
  unfold Hardware.setParameters RoutesParameters
  by_cases hlen : p.length = 0
  · -- an empty string has no values
    have hnone : ∀ k, ¬p.Has k := by
      intro k hk
      obtain ⟨v, hv⟩ := Option.isSome_iff_exists.1 hk
      exact absurd hlen (Nat.ne_of_gt (p.pos k v hv))
    rw [if_pos hlen]
    refine iff_of_false (Option.some_ne_none _) ?_
    rintro (⟨v, hv, -⟩ | hdual | ⟨htty, -⟩)
    · exact hnone _ (Option.isSome_iff_exists.2 ⟨v, hv⟩)
    · exact hnone _ hdual
    · exact hnone _ htty
  · rw [if_neg hlen]
    obtain ⟨hstate, hends⟩ := setBluetooth_state p d
    have hout₁ : ((d.setBluetoothNrec p).setBluetoothVGS p).state.mOutput = none := by
      rw [hstate]
      exact hout
    rw [← hends, ← hstate]
    obtain ⟨hnone, hname⟩ | ⟨d₂, hd₂, hstate₂, hname⟩ := setBluetoothName_out (E := E)
      (a := w .bt_headset_name) (p := p) hout₁
    · rw [hnone]
      exact iff_of_true rfl (Or.inl hname)
    rw [or_iff_right hname, hd₂, Option.bind_some]
    rw [← hstate₂] at hout₁ ⊢
    obtain ⟨hnone, hdual⟩ | ⟨hsome, hdual⟩ := setDualMic_out (E := E) (a := w .dualmic_enabled)
      (p := p) hout₁
    · rw [hnone]
      exact iff_of_true rfl (Or.inl hdual)
    · rw [or_iff_right hdual, hsome, Option.bind_some, Option.map_eq_none_iff]
      exact setTtyAndRate_out hout₁

theorem setParameters_none :
    d.setParameters E w p = none ↔ d.state.mOutput = none ∧ RoutesParameters E p d := by
  by_cases hout : d.state.mOutput = none
  · rw [and_iff_right hout]
    exact setParameters_out hout
  · refine iff_of_false ?_ fun h => hout h.1
    obtain ⟨status, d', hd', -, -⟩ := Hardware.setParameters_spec w p (Option.isSome_iff_ne_none.2 hout)
    rw [hd']
    exact Option.some_ne_none _

end Parameters

end Route

/-! ### Every call -/

section Step

variable {V : Environment} {s : System}

/-- A call that does not route. -/
theorem returns_ne {s' : System} : (some (Outcome.returns s') : Option Outcome) ≠ some .nullOutput := by
  intro h
  cases h

theorem map_returns_ne {β : Type} {x : Option β} {f : β → System} :
    (x.map fun b => Outcome.returns (f b)) ≠ some .nullOutput := by
  intro h
  obtain ⟨b, -, hb⟩ := Option.map_eq_some_iff.1 h
  cases hb

theorem ite_returns_ne {C : Prop} [Decidable C] {s' : System} :
    (if C then some (Outcome.returns s') else none : Option Outcome) ≠ some .nullOutput := by
  split
  · exact returns_ne
  · intro h
    cases h

/-- A call on a stream that `doRouting` is entered from. -/
theorem map_null {β : Type} {x : Option β} {f : β → Outcome} {C : β → Prop} {Q : Prop}
    (hf : ∀ b, f b = .nullOutput ↔ Q ∧ C b) :
    x.map f = some .nullOutput ↔ Q ∧ ∃ b, x = some b ∧ C b := by
  cases x with
  | none =>
    refine iff_of_false ?_ ?_
    · intro h
      cases h
    · rintro ⟨-, b, hb, -⟩
      cases hb
  | some b =>
    rw [Option.map_some, Option.some_inj, hf]
    constructor
    · intro h
      exact ⟨h.1, b, rfl, h.2⟩
    · rintro ⟨hq, b', hb, hc⟩
      cases hb
      exact ⟨hq, hc⟩

/-- A call that never enters `doRouting` without the devices. -/
theorem null_iff_false {o : Option Outcome} (h : o ≠ some .nullOutput) {Q : Prop} :
    o = some .nullOutput ↔ Q ∧ False :=
  iff_of_false h fun hq => hq.2

/-- A call with a condition of its own. -/
theorem ite_null {C R Q : Prop} [Decidable C] {o : Outcome} (ho : o = .nullOutput ↔ Q ∧ R) :
    (if C then some o else none) = some .nullOutput ↔ Q ∧ C ∧ R := by
  by_cases hc : C
  · rw [if_pos hc, Option.some_inj, ho, and_iff_right hc]
  · rw [if_neg hc]
    refine iff_of_false ?_ fun h => hc h.2.1
    intro h
    cases h

theorem step_null_iff (c : Call) :
    step V s c = some .nullOutput ↔ s.mOutput = none ∧ NeedsOutput V s c := by
  unfold step NeedsOutput
  cases c with
  | setMode mode => exact null_iff_false returns_ne
  | setMicMute state a => exact null_iff_false returns_ne
  | setParameters p w =>
    dsimp only
    rw [Option.some_inj, ofRouting_null, Option.map_eq_none_iff]
    exact setParameters_none
  | openOutput out devices accepted => exact null_iff_false ite_returns_ne
  | openLpa out format channels samplingRate o => exact null_iff_false ite_returns_ne
  | closeOutput out => exact null_iff_false returns_ne
  | write a => exact null_iff_false map_returns_ne
  | standbyOutput a => exact null_iff_false map_returns_ne
  | setOutputParameters on routing a =>
    refine null_iff_false fun h => ?_
    obtain ⟨o, ho, h⟩ := Option.map_eq_some_iff.1 h
    refine setOutputParameters_ne ?_ h
    rw [ho]
    exact Option.some_ne_none o
  | setDirectParameters routing a =>
    dsimp only
    rw [map_null fun _ => setDevice_null, Option.isSome_iff_exists, exists_and_right]
  | setLpaParameters session routing a => exact ite_null setDevice_null
  | openInput q set opens a => exact ite_null openInput_null
  | closeInput inp opens a => exact map_null fun _ => closeInput_null
  | read inp r first second => exact map_null fun _ => readInput_null
  | standbyInput inp opens a => exact map_null fun _ => standbyInput_null
  | setInputParameters inp routing a =>
    dsimp only
    rw [map_null fun _ => setInputParameters_null, Option.isSome_iff_exists, exists_and_right]
  | voip op => exact null_iff_false map_returns_ne
  | setVoipParameters h routing a =>
    dsimp only
    rw [map_null fun _ => setVoipParameters_null, Option.isSome_iff_exists, exists_and_right]

/-- **Which calls need an output.** In a run `mOutput` is never dereferenced while it is null exactly
if no call that enters `doRouting` without the devices is made without an output. -/
theorem routes_safely_iff (V : Environment) (s : System) (calls : List Call) :
    Along (advance V) (fun s c => step V s c ≠ some .nullOutput) s calls ↔
      Along (advance V) (fun s c => s.mOutput = none → ¬NeedsOutput V s c) s calls := by
  refine along_congr (A := fun _ => True) (I := fun _ => True) ?_ (fun _ _ _ _ _ _ _ => trivial) trivial
    fun _ _ => trivial
  intro s c _ _
  rw [Ne, step_null_iff, not_and]

end Step

/-- Every device is an input. -/
def Environment.plain : Environment where
  E := .plain
  inputs := Recording.plainMasks
  isInputDevice := fun _ => true
  DEVICE_IN_COMMUNICATION := 0x10000

/-- `dualmic_enabled=true` -/
def dualMicOn : KeyValuePairs := .single 20 .dualmic_enabled ['t', 'r', 'u', 'e'] (by decide)

/-- A recording from the built-in microphone. -/
def aRecording : InputRequest := ⟨0, false, 0x40000, ⟨.pcm16Bit, 0x10, 8000⟩⟩

/-- An output and a recording are opened, and the output is closed. -/
def outputClosed : List Call :=
  [.openOutput 1 0x2 true,
    .openInput aRecording { fd := 3, getConfig := some ⟨8000, 1, 2048⟩, confirm := some ⟨8000, 1, 2048⟩ }
      true {},
    .closeOutput 1]

/-- Parameters set before an output is open, and a recording closed after the output, dereference null. -/
theorem nulls_output :
    step .plain (init 0 none [] true) (.setParameters dualMicOn fun _ => {}) = some .nullOutput ∧
      ∃ s, run (advance .plain) (init 0 none [] true) outputClosed = some s ∧
        step .plain s (.closeInput 0 true {}) = some .nullOutput :=
  ⟨rfl, _, rfl, rfl⟩

end Msm7x27a.Client
