import Msm7x27a.Lib.Log
import Msm7x27a.Recording.Stream
import Msm7x27a.Audio.SampleRate

/-!
# What a failed `set` leaves

`set` advances the state before it has looked up `audpre_index`, and stores the index before it has
checked it.  A rate that the driver reports and the tables do not have is then refused with the
stream in `AUDIO_INPUT_OPENED` and the index -1, and the next `standby` reads the tables at -1.

Nothing else goes wrong: in a run every `set` that fails leaves its stream closed, and every index
used is one of the tables', exactly if no `set` is told such a rate (`leaves_no_trace_iff`).
-/

namespace Msm7x27a.Recording

open Msm7x27a.Audio Msm7x27a.Runs

/-- The sampling rate that `set` stores, if the driver grants everything. -/
def storedRate (p : Params) (a : SetAnswers) : Option ℕ :=
  match p.format with
  | .pcm16Bit =>
    if a.getConfig.isSome ∧ a.setConfig then a.confirm.map Config.sample_rate else none
  | .amrNb | .evrc | .qcelp =>
    if a.setVoicememo ∧ a.getVoicememo then a.getConfig.map Config.sample_rate else none
  | .aac => if a.getConfig.isSome ∧ a.setConfig then some p.rate else none
  | .other _ => none

/-- A `set` that passes its checks, on a stream without a descriptor, gets everything from the driver
and is told a rate that the tables do not have. -/
structure WrongRate (h : InputHeaders) (InstanceCount : ℕ) (p : Params) (a : SetAnswers)
    (x : AudioStreamInMSM72xx) : Prop where
  accepted : refuse h InstanceCount p = none
  free : x.mFd < 0
  opens : 0 ≤ a.fd
  rate : ∃ rate, storedRate p a = some rate ∧ calculate_audpre_table_index rate < 0

/-- An index of the tables. -/
def InTables (audpre_index : Int) : Prop := 0 ≤ audpre_index ∧ audpre_index ≤ 8

/-- A `set` that fails on a closed stream leaves it closed, and the tables are used in range. -/
def Event.Good : Event → Prop
  | .set was status now => was.Closed → status ≠ noError → now.Closed
  | .preproc audpre_index => InTables audpre_index

instance : DecidablePred Event.Good
  | .set was status now =>
    inferInstanceAs (Decidable (was.Closed → status ≠ noError → now.Closed))
  | .preproc audpre_index => inferInstanceAs (Decidable (0 ≤ audpre_index ∧ audpre_index ≤ 8))

/-- A stream that is not closed has a descriptor. -/
structure AudioStreamInMSM72xx.Settled (x : AudioStreamInMSM72xx) : Prop where
  closed : x.mState = .closed → x.mFd = -1
  opened : x.mState ≠ .closed → 0 ≤ x.mFd

theorem AudioStreamInMSM72xx.Settled.fd {x : AudioStreamInMSM72xx} (h : x.Settled) :
    0 ≤ x.mFd ∨ x.mFd = -1 := by
  by_cases hc : x.mState = .closed
  · exact .inr (h.closed hc)
  · exact .inl (h.opened hc)

theorem calculate_le (index : ℕ) : calculate_audpre_table_index index ≤ 8 := by
  unfold calculate_audpre_table_index
  split_ifs <;> decide

/-! ### Rates -/

/-- A rate that `set` accepts is one of the tables'. -/
theorem rate_of_accepted {h : InputHeaders} {n : ℕ} {p : Params} (hr : refuse h n p = none) :
    0 ≤ calculate_audpre_table_index p.rate := by
  have hsame : getInputSampleRate p.rate = p.rate := by
    by_contra hne
    unfold refuse at hr
    rw [if_pos hne] at hr
    split_ifs at hr
  have hall : ∀ r ∈ inputSamplingRates, 0 ≤ calculate_audpre_table_index r := by decide
  exact hall p.rate ((getInputSampleRate_self p.rate).1 hsame)

/-- For AAC the stream keeps the rate it has asked for, which the tables have. -/
theorem not_wrongRate_aac {h : InputHeaders} {n : ℕ} {p : Params} {a : SetAnswers}
    {x : AudioStreamInMSM72xx} (hf : p.format = .aac) : ¬WrongRate h n p a x := by
  intro hw
  obtain ⟨rate, hrate, hneg⟩ := hw.rate
  have he : rate = p.rate := by
    rw [storedRate, hf] at hrate
    dsimp only at hrate
    split at hrate
    · exact (Option.some.inj hrate).symm
    · cases hrate
  rw [he] at hneg
  exact absurd (rate_of_accepted hw.accepted) (Int.not_le.2 hneg)

/-! ### `set` -/

section Set

variable {h : InputHeaders} {n : ℕ} {own : Bool} {devices : BitVec 32} {a : SetAnswers}
  {x : AudioStreamInMSM72xx} {p : Params} {v : Vars} {audpre_index : Int}

/-- The descriptor and the state of the stream are the same. -/
structure SameState (x x' : AudioStreamInMSM72xx) : Prop where
  mFd : x'.mFd = x.mFd
  mState : x'.mState = x.mState

theorem sameState_writeArgs (own : Bool) (p : Params) (v : Vars) :
    SameState v.stream (v.writeArgs own p).stream := by
  unfold Vars.writeArgs
  dsimp only
  split <;> exact ⟨rfl, rfl⟩

theorem sameState_configureMemo (own : Bool) (devices : BitVec 32) (a : SetAnswers) (v : Vars) :
    SameState v.stream (configureMemo own devices a v).2.stream := by
  unfold configureMemo
  split
  · exact ⟨rfl, rfl⟩
  · dsimp only
    split <;> exact ⟨rfl, rfl⟩

theorem sameState_configure (h : InputHeaders) (own : Bool) (devices : BitVec 32) (a : SetAnswers)
    (v : Vars) : SameState v.stream (configure h own devices a v).2.stream := by
  unfold configure
  split
  · unfold configurePcm
    split
    · exact ⟨rfl, rfl⟩
    · split
      · exact sameState_writeArgs _ _ _
      · split <;> exact ⟨rfl, rfl⟩
  · exact sameState_configureMemo own devices a v
  · exact sameState_configureMemo own devices a v
  · exact sameState_configureMemo own devices a v
  · unfold configureAac
    split
    · exact ⟨rfl, rfl⟩
    · dsimp only
      split <;> exact ⟨rfl, rfl⟩
  · exact ⟨rfl, rfl⟩

/-- `configure` succeeds if the driver grants everything, and stores the rate. -/
structure Granted (rate : Option ℕ) (r : Option Status × Vars) : Prop where
  ok : ∀ n, rate = some n → r.1 = none ∧ r.2.stream.mSampleRate = n
  denied : rate = none → ∃ status, r.1 = some status

section Granted

variable {rate : Option ℕ} {v : Vars}

theorem granted_none {status : Status} (h : rate = none) : Granted rate (some status, v) :=
  ⟨fun n hn => absurd (h.symm.trans hn) (Option.some_ne_none n).symm, fun _ => ⟨status, rfl⟩⟩

theorem granted_some (h : rate = some v.stream.mSampleRate) : Granted rate (none, v) :=
  ⟨fun _ hn => ⟨rfl, Option.some.inj (h.symm.trans hn)⟩,
    fun hn => absurd (h.symm.trans hn) (Option.some_ne_none _)⟩

end Granted

theorem granted_pcm (h : InputHeaders) (own : Bool) (devices : BitVec 32) (a : SetAnswers) (v : Vars) :
    Granted (if a.getConfig.isSome ∧ a.setConfig then a.confirm.map Config.sample_rate else none)
      (configurePcm h own devices a v) := by
  unfold configurePcm
  cases a.getConfig with
  | none => exact granted_none (by simp)
  | some config =>
    cases a.setConfig with
    | false => exact granted_none (by simp)
    | true =>
      cases a.confirm with
      | none => exact granted_none (by simp)
      | some config' => exact granted_some (if_pos ⟨rfl, rfl⟩)

theorem granted_memo (own : Bool) (devices : BitVec 32) (a : SetAnswers) (v : Vars) :
    Granted (if a.setVoicememo ∧ a.getVoicememo then a.getConfig.map Config.sample_rate else none)
      (configureMemo own devices a v) := by
  unfold configureMemo
  cases a.getConfig with
  | none => exact granted_none (by simp)
  | some config =>
    cases a.setVoicememo with
    | false => exact granted_none (by simp)
    | true =>
      cases a.getVoicememo with
      | false => exact granted_none (by simp)
      | true => exact granted_some (if_pos ⟨rfl, rfl⟩)

theorem granted_aac (own : Bool) (devices : BitVec 32) (a : SetAnswers) (v : Vars) :
    Granted (if a.getConfig.isSome ∧ a.setConfig then some v.args.rate else none)
      (configureAac own devices a v) := by
  unfold configureAac
  cases a.getConfig with
  | none => exact granted_none (by simp)
  | some config =>
    cases a.setConfig with
    | false => exact granted_none (by simp)
    | true => exact granted_some (if_pos ⟨rfl, rfl⟩)

theorem granted_configure (h : InputHeaders) (own : Bool) (devices : BitVec 32) (a : SetAnswers)
    (v : Vars) (hf : ∀ code, v.args.format ≠ .other code) :
    Granted (storedRate v.args a) (configure h own devices a v) := by
  unfold storedRate configure
  cases hv : v.args.format with
  | pcm16Bit => exact granted_pcm h own devices a v
  | amrNb => exact granted_memo own devices a v
  | evrc => exact granted_memo own devices a v
  | qcelp => exact granted_memo own devices a v
  | aac => exact granted_aac own devices a v
  | other code => exact absurd hv (hf code)

/-- A format that `set` accepts. -/
theorem format_of_accepted (hr : refuse h n p = none) (code : ℕ) : p.format ≠ .other code := by
  intro hf
  have hnot : p.format ∉ [.pcm16Bit, .amrNb, .evrc, .qcelp, .aac] := by
    rw [hf]
    simp
  unfold refuse at hr
  rw [if_pos hnot] at hr
  split at hr <;> cases hr

theorem settled_of_same {x x' : AudioStreamInMSM72xx} (hx : x.Settled) (hs : SameState x x') :
    x'.Settled where
  closed hc := hs.mFd.trans (hx.closed (hs.mState.symm.trans hc))
  opened hc := hs.mFd.symm ▸ hx.opened fun h => hc (hs.mState.trans h)

theorem closed_of_same {x x' : AudioStreamInMSM72xx} (hx : x.Closed) (hs : SameState x x') :
    x'.Closed :=
  ⟨hs.mState.trans hx.1, hs.mFd.trans hx.2⟩

/-- What `set` leaves: a settled stream, closed as before if it fails, and an index of the tables. -/
structure Left (x : AudioStreamInMSM72xx) (r : Status × Vars × Int) : Prop where
  settled : r.2.1.stream.Settled
  index : InTables r.2.2
  closed : x.Closed → r.1 ≠ noError → r.2.1.stream.Closed

/-- A `set` that leaves the descriptor and the state of the stream alone. -/
theorem left_of_same {x : AudioStreamInMSM72xx} (hx : x.Settled) (hi : InTables audpre_index)
    {status : Status} {v : Vars} (hs : SameState x v.stream) : Left x (status, v, audpre_index) where
  settled := settled_of_same hx hs
  index := hi
  closed hc _ := closed_of_same hc hs

/-- The label `Error` after the driver has been opened. -/
theorem sameState_fail {x : AudioStreamInMSM72xx} {v : Vars} (hx : x.mFd = -1) (hfd : 0 ≤ v.stream.mFd)
    (hst : v.stream.mState = x.mState) : SameState x v.fail.stream := by
  unfold Vars.fail AudioStreamInMSM72xx.closeFd
  dsimp only
  rw [if_pos hfd]
  exact ⟨hx.symm, hst⟩

/-- The end of `set`, with a rate of the tables. -/
theorem left_finish {x : AudioStreamInMSM72xx} (hfd : 0 ≤ v.stream.mFd)
    (hrate : 0 ≤ calculate_audpre_table_index v.stream.mSampleRate) : Left x (finish v) := by
  unfold finish
  dsimp only
  rw [if_neg (Int.not_lt.2 hrate)]
  refine ⟨⟨fun h => ?_, fun _ => hfd⟩, ⟨hrate, calculate_le _⟩, fun _ h => absurd rfl h⟩
  cases h

/-- What `set` makes of the result of `configure`. -/
theorem left_configured {x : AudioStreamInMSM72xx} (hx : x.mFd = -1) (hst : x.mState = .closed)
    (hfd : 0 ≤ v.stream.mFd) (hv : v.stream.mState = .closed) (hi : InTables audpre_index)
    (hf : ∀ code, v.args.format ≠ .other code)
    (hrate : ∀ rate, storedRate v.args a = some rate → 0 ≤ calculate_audpre_table_index rate) :
    Left x (conclude (configure h own devices a v) audpre_index) := by
  have hs := sameState_configure h own devices a v
  have hg := granted_configure h own devices a v hf
  have hfd' : 0 ≤ (configure h own devices a v).2.stream.mFd := hs.mFd.symm ▸ hfd
  have hx' : x.Settled := ⟨fun _ => hx, fun hne => absurd hst hne⟩
  unfold conclude
  cases hsr : storedRate v.args a with
  | none =>
    obtain ⟨status, hstatus⟩ := hg.denied hsr
    rw [hstatus]
    exact left_of_same hx' hi (sameState_fail hx hfd' (hs.mState.trans (hv.trans hst.symm)))
  | some rate =>
    obtain ⟨hnone, hsample⟩ := hg.ok rate hsr
    rw [hnone]
    exact left_finish hfd' (hsample.symm ▸ hrate rate hsr)

/-- **What `set` does** when it is not told a wrong rate. -/
theorem set_left (hx : v.stream.Settled) (hi : InTables audpre_index)
    (hw : ¬WrongRate h n v.args a v.stream) :
    Left v.stream (Recording.set h n own devices a v audpre_index) := by
  unfold Recording.set
  cases hr : refuse h n v.args with
  | some r => exact left_of_same hx hi (sameState_writeArgs own r.2 v)
  | none =>
    dsimp only
    split
    · exact left_of_same hx hi ⟨rfl, rfl⟩
    · next hfd =>
      have hfree : v.stream.mFd < 0 := Int.not_le.1 hfd
      have hclosed : v.stream.mState = .closed := by
        by_contra hne
        exact hfd (hx.opened hne)
      have hminus : v.stream.mFd = -1 := hx.closed hclosed
      split
      · refine left_of_same hx hi ?_
        unfold Vars.fail AudioStreamInMSM72xx.closeFd
        dsimp only
        rw [if_neg hfd]
        exact ⟨rfl, rfl⟩
      · next hopen =>
        have hopens : 0 ≤ a.fd := Int.not_lt.1 hopen
        refine left_configured hminus hclosed ?_ ?_ hi ?_ ?_
        · exact hopens
        · exact hclosed
        · exact format_of_accepted hr
        · intro rate hrate
          exact Int.not_lt.1 fun hneg => hw ⟨hr, hfree, hopens, rate, hrate, hneg⟩

/-- **The wrong rate.** `set` fails and leaves the stream opened, without a descriptor. -/
theorem set_of_wrongRate (hw : WrongRate h n v.args a v.stream) :
    (Recording.set h n own devices a v audpre_index).1 = einval ∧
      (Recording.set h n own devices a v audpre_index).2.1.stream.mState = .opened := by
  obtain ⟨rate, hrate, hneg⟩ := hw.rate
  have hg := granted_configure h own devices a
    { v with stream := { v.stream with mHardware := true, mFd := a.fd } }
    (format_of_accepted hw.accepted)
  obtain ⟨hnone, hsample⟩ := hg.ok rate hrate
  have hfail : ∀ v : Vars, v.fail.stream.mState = v.stream.mState := by
    intro v
    unfold Vars.fail AudioStreamInMSM72xx.closeFd
    dsimp only
    split <;> rfl
  unfold Recording.set
  rw [hw.accepted]
  dsimp only
  rw [if_neg (Int.not_le.2 hw.free), if_neg (Int.not_lt.2 hw.opens)]
  unfold conclude
  rw [hnone]
  dsimp only
  unfold finish
  dsimp only
  rw [hsample, if_pos hneg]
  exact ⟨rfl, hfail _⟩

end Set

/-! ### The streams -/

/-- Every event is good, the index is one of the tables', and the streams are settled. -/
structure Sound (s : Recorder) : Prop where
  log : ∀ e ∈ s.log, e.Good
  index : InTables s.audpre_index
  streams : ∀ inp x, s.streams inp = some x → x.Settled

/-- No `set` is told a rate that the tables do not have. -/
def RateKnown (h : InputHeaders) (s : Recorder) : Op → Prop
  | .set inp _ p a => ∀ x, s.streams inp = some x → ¬WrongRate h s.InstanceCount p a x
  | .read inp a => ∀ x, s.streams inp = some x → x.mHardware = true → x.mState = .closed →
      ¬WrongRate h s.InstanceCount x.params a.set x
  | _ => True

section Step

variable {h : InputHeaders} {s s' : Recorder} {x : AudioStreamInMSM72xx} {op : Op}

theorem sound_put (hs : Sound s) (hx : x.Settled) (inp : ℕ) : Sound (s.put inp x) where
  log := hs.log
  index := hs.index
  streams j y hy := by
    have hput : (s.put inp x).streams = Function.update s.streams inp (some x) := rfl
    rw [hput] at hy
    by_cases hj : j = inp
    · rw [hj, Function.update_self] at hy
      cases hy
      exact hx
    · rw [Function.update_of_ne hj] at hy
      exact hs.streams j y hy

theorem sound_enablePreproc (hs : Sound s) (opens : Bool) : Sound (s.enablePreproc opens) := by
  unfold Recorder.enablePreproc
  split
  · exact ⟨List.forall_mem_cons.2 ⟨hs.index, hs.log⟩, hs.index, hs.streams⟩
  · exact hs

theorem sound_standby (hs : Sound s) (hx : 0 ≤ x.mFd ∨ x.mFd = -1) (opens : Bool)
    (hc : x.mState = .closed → x.mFd = -1) :
    (Recorder.standby opens x s).1.Settled ∧ Sound (Recorder.standby opens x s).2 := by
  unfold Recorder.standby
  split
  · refine ⟨⟨fun _ => ?_, fun hne => absurd rfl hne⟩, sound_enablePreproc hs opens⟩
    have hfd : x.closeFd.mFd = -1 := by
      unfold AudioStreamInMSM72xx.closeFd
      split
      · rfl
      · next hneg => exact hx.resolve_left hneg
    exact hfd
  · next hcl => exact ⟨⟨hc, fun hne => absurd hne hcl⟩, hs⟩

theorem sound_startRecord (hs : Sound s) (hx : x.Settled) (a : Recorder.ReadAnswers) :
    (Recorder.startRecord a x s).2.1.Settled ∧ Sound (Recorder.startRecord a x s).2.2 := by
  have hne : InputState.started ≠ .closed := by decide
  unfold Recorder.startRecord
  split
  · exact ⟨hx, hs⟩
  · dsimp only
    split
    · refine sound_standby hs ?_ _ ?_
      · exact hx.fd
      · intro hc
        exact absurd hc hne
    · next hgo =>
      refine ⟨⟨fun hc => absurd hc hne, fun _ => ?_⟩, sound_enablePreproc hs _⟩
      exact Int.not_lt.1 (not_or.1 hgo).1

theorem sound_callSet (own : Bool) (devices : BitVec 32) {p : Params} {a : SetAnswers} (hs : Sound s)
    (hx : x.Settled) (hw : ¬WrongRate h s.InstanceCount p a x) :
    (Recorder.callSet h own devices p a x s).2.1.Settled ∧
      Sound (Recorder.callSet h own devices p a x s).2.2 := by
  have hl : Left x (Recording.set h s.InstanceCount own devices a ⟨x, p⟩ s.audpre_index) :=
    set_left (v := ⟨x, p⟩) hx hs.index hw
  exact ⟨hl.settled, ⟨List.forall_mem_cons.2 ⟨hl.closed, hs.log⟩, hl.index, hs.streams⟩⟩

theorem sound_openForRead (hs : Sound s) (hx : x.Settled) {a : Recorder.ReadAnswers}
    (hw : x.mHardware = true → x.mState = .closed → ¬WrongRate h s.InstanceCount x.params a.set x) :
    (Recorder.openForRead h a x s).2.1.Settled ∧ Sound (Recorder.openForRead h a x s).2.2 := by
  unfold Recorder.openForRead
  split
  · exact ⟨hx, hs⟩
  · next hhw =>
    split
    · next hc =>
      have hcall := sound_callSet true x.mDevices hs hx
        (hw (eq_true_of_ne_false hhw) hc)
      dsimp only
      split
      · exact hcall
      · refine sound_startRecord hcall.2 ?_ a
        exact ⟨hcall.1.closed, hcall.1.opened⟩
    · exact sound_startRecord hs hx a

/-- A step that is told no wrong rate. -/
theorem sound_step (hs : Sound s) (hk : RateKnown h s op) (he : step h s op = some s') : Sound s' := by
  cases op with
  | create inp mFirstread =>
    cases hst : s.streams inp with
    | some y =>
      rw [step, hst] at he
      cases he
    | none =>
      rw [step, hst] at he
      cases he
      exact sound_put (s := { s with InstanceCount := s.InstanceCount + 1 })
        ⟨hs.log, hs.index, hs.streams⟩ ⟨fun _ => rfl, fun hne => absurd rfl hne⟩ inp
  | createVoip =>
    cases he
    exact ⟨hs.log, hs.index, hs.streams⟩
  | destroyVoip =>
    cases he
    exact ⟨hs.log, hs.index, hs.streams⟩
  | set inp devices p a =>
    obtain ⟨x, hx, rfl⟩ := Option.map_eq_some_iff.1 he
    obtain ⟨hset, hsound⟩ := sound_callSet false devices hs (hs.streams inp x hx) (hk x hx)
    exact sound_put hsound hset inp
  | read inp a =>
    obtain ⟨x, hx, rfl⟩ := Option.map_eq_some_iff.1 he
    obtain ⟨hset, hsound⟩ := sound_openForRead hs (hs.streams inp x hx) (hk x hx)
    exact sound_put hsound hset inp
  | standby inp opens =>
    obtain ⟨x, hx, rfl⟩ := Option.map_eq_some_iff.1 he
    obtain ⟨hset, hsound⟩ := sound_standby hs (hs.streams inp x hx).fd opens
      (hs.streams inp x hx).closed
    exact sound_put hsound hset inp
  | destroy inp opens =>
    obtain ⟨x, hx, rfl⟩ := Option.map_eq_some_iff.1 he
    obtain ⟨-, hsound⟩ := sound_standby (s := { s with InstanceCount := s.InstanceCount - 1 })
      ⟨hs.log, hs.index, hs.streams⟩ (hs.streams inp x hx).fd opens (hs.streams inp x hx).closed
    refine ⟨hsound.log, hsound.index, fun j y hy => ?_⟩
    dsimp only at hy
    by_cases hj : j = inp
    · rw [hj, Function.update_self] at hy
      cases hy
    · rw [Function.update_of_ne hj] at hy
      exact hsound.streams j y hy

/-! ### Runs -/

/-- The log only grows. -/
def LogGrows (s s' : Recorder) : Prop := Log.Grows (fun _ => True) s.log s'.log

theorem logGrows_enablePreproc (opens : Bool) (s : Recorder) : LogGrows s (s.enablePreproc opens) := by
  unfold Recorder.enablePreproc
  split
  · exact .cons trivial s.log
  · exact .refl s.log

theorem logGrows_standby (opens : Bool) (x : AudioStreamInMSM72xx) (s : Recorder) :
    LogGrows s (Recorder.standby opens x s).2 := by
  unfold Recorder.standby
  split
  · exact logGrows_enablePreproc opens s
  · exact .refl s.log

theorem logGrows_startRecord (a : Recorder.ReadAnswers) (x : AudioStreamInMSM72xx) (s : Recorder) :
    LogGrows s (Recorder.startRecord a x s).2.2 := by
  unfold Recorder.startRecord
  split
  · exact .refl s.log
  · dsimp only
    split
    · exact logGrows_standby _ _ s
    · exact logGrows_enablePreproc _ s

/-- Where `read` calls `set`, what that has left is in the log afterwards. -/
theorem logGrows_openForRead (a : Recorder.ReadAnswers) (x : AudioStreamInMSM72xx) (s : Recorder) :
    LogGrows s (Recorder.openForRead h a x s).2.2 ∧
      (x.mHardware = true → x.mState = .closed →
        LogGrows (Recorder.callSet h true x.mDevices x.params a.set x s).2.2
          (Recorder.openForRead h a x s).2.2) := by
  have hset : LogGrows s (Recorder.callSet h true x.mDevices x.params a.set x s).2.2 :=
    .cons trivial s.log
  unfold Recorder.openForRead
  split
  · next hhw => exact ⟨.refl s.log, fun h' => absurd hhw (by rw [h']; decide)⟩
  · split
    · dsimp only
      split
      · exact ⟨hset, fun _ _ => .refl _⟩
      · have hstart := logGrows_startRecord a
          { (Recorder.callSet h true x.mDevices x.params a.set x s).2.1 with mFirstread := false }
          (Recorder.callSet h true x.mDevices x.params a.set x s).2.2
        exact ⟨hset.trans hstart, fun _ _ => hstart⟩
    · next hne => exact ⟨logGrows_startRecord a x s, fun _ hc => absurd hc hne⟩

theorem logGrows_step (he : step h s op = some s') : LogGrows s s' := by
  cases op with
  | create inp mFirstread =>
    cases hst : s.streams inp with
    | some y =>
      rw [step, hst] at he
      cases he
    | none =>
      rw [step, hst] at he
      cases he
      exact .refl s.log
  | createVoip =>
    cases he
    exact .refl s.log
  | destroyVoip =>
    cases he
    exact .refl s.log
  | set inp devices p a =>
    obtain ⟨x, hx, rfl⟩ := Option.map_eq_some_iff.1 he
    exact .cons trivial s.log
  | read inp a =>
    obtain ⟨x, hx, rfl⟩ := Option.map_eq_some_iff.1 he
    exact (logGrows_openForRead a x s).1
  | standby inp opens =>
    obtain ⟨x, hx, rfl⟩ := Option.map_eq_some_iff.1 he
    exact logGrows_standby opens x s
  | destroy inp opens =>
    obtain ⟨x, hx, rfl⟩ := Option.map_eq_some_iff.1 he
    exact logGrows_standby opens x { s with InstanceCount := s.InstanceCount - 1 }

/-- A `set` that is told a wrong rate is in the log. -/
theorem bad_callSet {own : Bool} {devices : BitVec 32} {p : Params} {a : SetAnswers} (hx : x.Settled)
    (hw : WrongRate h s.InstanceCount p a x) (hlog : LogGrows
      (Recorder.callSet h own devices p a x s).2.2 s') : ¬∀ e ∈ s'.log, e.Good := by
  intro hgood
  have hset : (Recording.set h s.InstanceCount own devices a ⟨x, p⟩ s.audpre_index).1 = einval ∧
      (Recording.set h s.InstanceCount own devices a ⟨x, p⟩ s.audpre_index).2.1.stream.mState =
        .opened := set_of_wrongRate (v := ⟨x, p⟩) hw
  obtain ⟨hstatus, hstate⟩ := hset
  have hc : x.mState = .closed := by
    by_contra hne
    exact absurd (hx.opened hne) (Int.not_le.2 hw.free)
  obtain ⟨l, hl, -⟩ := hlog
  have hmem : Event.set x (Recording.set h s.InstanceCount own devices a ⟨x, p⟩ s.audpre_index).1
      (Recording.set h s.InstanceCount own devices a ⟨x, p⟩ s.audpre_index).2.1.stream ∈ s'.log := by
    rw [hl]
    exact List.mem_append_right l (List.mem_cons_self ..)
  have hne : einval ≠ noError := by decide
  have hclosed := hgood _ hmem ⟨hc, hx.closed hc⟩ (hstatus ▸ hne)
  have hopened : InputState.opened ≠ .closed := by decide
  exact hopened (hstate.symm.trans hclosed.1)

theorem rateKnown_of_good (hs : Sound s) (he : step h s op = some s') (hgood : ∀ e ∈ s'.log, e.Good) :
    RateKnown h s op := by
  cases op with
  | set inp devices p a =>
    obtain ⟨x, hx, rfl⟩ := Option.map_eq_some_iff.1 he
    intro y hy hw
    cases hx.symm.trans hy
    exact bad_callSet (hs.streams inp x hx) hw (.refl _) hgood
  | read inp a =>
    obtain ⟨x, hx, rfl⟩ := Option.map_eq_some_iff.1 he
    intro y hy hhw hc hw
    cases hx.symm.trans hy
    exact bad_callSet (hs.streams inp x hx) hw ((logGrows_openForRead a x s).2 hhw hc) hgood
  | _ => trivial

end Step

/-- No stream is open. -/
def init (audpp_filter_inited : Bool) : Recorder where
  audpp_filter_inited := audpp_filter_inited

theorem sound_init (audpp_filter_inited : Bool) : Sound (init audpp_filter_inited) where
  log e he := by cases he
  index := ⟨Int.le_refl 0, (by decide : (0 : Int) ≤ 8)⟩
  streams inp x hx := by cases hx

/-- **A failed recording open leaves no trace**, and pre-processing uses the tables only: in a run of
calls on any streams, exactly if no `set` is told a rate that the tables do not have. -/
theorem leaves_no_trace_iff {h : InputHeaders} {audpp_filter_inited : Bool} {ops : List Op}
    {t : Recorder} (hr : run (step h) (init audpp_filter_inited) ops = some t) :
    (∀ e ∈ t.log, e.Good) ↔ Along (step h) (RateKnown h) (init audpp_filter_inited) ops := by
  refine run_iff (J := fun _ => True) (I := Sound) (P := fun t => ∀ e ∈ t.log, e.Good)
    (fun _ _ _ _ _ => trivial) ?_ ?_ ?_ ?_ trivial (sound_init audpp_filter_inited) hr
  · intro s l s' _ hs hc he
    exact sound_step hs hc he
  · intro s hs
    exact hs.log
  · intro s l s' _ hs he hgood
    exact rateKnown_of_good hs he hgood
  · intro s l s' _ he hgood e hmem
    obtain ⟨l', hl, -⟩ := logGrows_step he
    refine hgood e ?_
    rw [hl]
    exact List.mem_append_right l' hmem

def plainMasks : InputHeaders := ⟨0x10, 0xC⟩

/-- A PCM recording of 8000 Hz for which the driver reports this rate. -/
def reports (sample_rate : ℕ) : SetAnswers where
  fd := 5
  getConfig := some ⟨8000, 1, 2048⟩
  confirm := some ⟨sample_rate, 1, 2048⟩

/-- A stream is created, opened and destroyed. -/
def openAndDestroy (sample_rate : ℕ) : List Op :=
  [.create 1 false, .set 1 0 ⟨.pcm16Bit, 0x10, 8000⟩ (reports sample_rate), .destroy 1 true]

theorem leaves_no_trace_8000 : ∃ t, run (step plainMasks) (init true) (openAndDestroy 8000) = some t ∧
    ∀ e ∈ t.log, e.Good := by
  have hrun : ∃ t, run (step plainMasks) (init true) (openAndDestroy 8000) = some t ∧
      t.InstanceCount = 0 := exists_run (by decide)
  obtain ⟨t, ht, -⟩ := hrun
  refine ⟨t, ht, (leaves_no_trace_iff ht).2 ?_⟩
  refine (along_cons rfl).2 ⟨trivial, (along_cons rfl).2 ⟨?_, (along_cons rfl).2 ⟨trivial, trivial⟩⟩⟩
  rintro x - ⟨-, -, -, rate, hrate, hneg⟩
  have h8000 : ¬calculate_audpre_table_index 8000 < 0 := by decide
  cases Option.some.inj hrate
  exact h8000 hneg

/-- The driver reports 7350 Hz: the stream stays opened, and its destruction uses the tables at -1. -/
theorem wrong_rate_leaves_index : ∃ t,
    run (step plainMasks) (init true) (openAndDestroy 7350) = some t ∧
      .preproc (-1) ∈ t.log ∧ ¬∀ e ∈ t.log, e.Good :=
  exists_run (by decide)

end Msm7x27a.Recording
