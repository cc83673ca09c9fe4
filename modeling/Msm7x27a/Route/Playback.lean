import Msm7x27a.Lib.Bytes
import Msm7x27a.Lib.Log
import Msm7x27a.Route.Routing

/-!
# The calls of `AudioStreamOutMSM72xx::write`

`write` with its loop: short writes, retries and errors.  A `Session` is the stream while it plays;
its log has an entry for each call, newest first.  In any sequence of calls the driver gets a prefix
of each buffer, and it is started by the second call whose whole buffer it has got (`plays`).

`Route.Routing` knows the loop by whether it ends (`Answers.write`); `writePcm_of_write` says that the
two agree.
-/

namespace Msm7x27a.Route

open Msm7x27a.Audio Msm7x27a.Bytes Msm7x27a.Runs

/-- What `::write` does: at most so many bytes of those offered are taken. -/
inductive WriteResult where
  | written (n : ℕ)
  | eagain
  | error
  deriving DecidableEq, Repr

/-- The loop of `write`: whether it is left, or `write` with it for an error, and the bytes that the
driver has taken. -/
def writeLoop (buffer : List Byte) : List WriteResult → (count p : ℕ) → List Byte →
    Option (Bool × List Byte)
  | results, count, p, taken =>
    if count = 0 then some (true, taken)
    else
      match results with
      | [] => none
      | .written n :: results =>
        let written := min n count
        writeLoop buffer results (count - written) (p + written)
          (taken ++ (buffer.drop p).take written)
      | .eagain :: results => writeLoop buffer results count p taken
      | .error :: _ => some (false, taken)
termination_by structural results => results

/-- What a call of `write` was: its buffer, the bytes that the driver took, whether it issued
`AUDIO_START`, and what it returned. -/
structure WriteEntry where
  buffer : List Byte
  /-- The driver was open. -/
  opened : Bool
  taken : List Byte
  starts : Bool
  ret : Int
  deriving DecidableEq, Repr

/-- The status that `write` fails with when it cannot open and configure the driver. -/
def openStatus (a : Answers) : Status := if a.pcmFd < 0 then a.pcmFd else -1

namespace AudioStreamOutMSM72xx

/-- `write`, from its loop on. -/
def play (buffer : List Byte) (results : List WriteResult) (o : AudioStreamOutMSM72xx) :
    Option (WriteEntry × AudioStreamOutMSM72xx) :=
  (writeLoop buffer results buffer.length 0 []).map fun r =>
    if r.1 then
      (⟨buffer, true, r.2, o.mStartCount = 1, buffer.length⟩,
        { o with mStartCount := o.mStartCount - 1 })
    else (⟨buffer, true, r.2, false, -1⟩, o)

/-- `write`. -/
def write (a : Answers) (buffer : List Byte) (results : List WriteResult)
    (o : AudioStreamOutMSM72xx) : Option (WriteEntry × AudioStreamOutMSM72xx) :=
  let r := if o.mStandby then o.openDriver a else (o, true)
  if r.2 then r.1.play buffer results else some (⟨buffer, false, [], false, openStatus a⟩, r.1)

end AudioStreamOutMSM72xx

/-- The whole buffer was accepted. -/
def WriteEntry.Accepted (e : WriteEntry) : Prop := e.opened = true ∧ e.taken = e.buffer

instance : DecidablePred WriteEntry.Accepted := fun e =>
  inferInstanceAs (Decidable (e.opened = true ∧ e.taken = e.buffer))

/-- The driver got a prefix, and the call returned its byte count only if that was all. -/
structure WriteEntry.InOrder (e : WriteEntry) : Prop where
  taken : e.taken <+: e.buffer
  ret : e.ret = e.buffer.length → e.Accepted

/-! ### The loop -/

/-- Nothing is left to take. -/
theorem taken_all {buffer taken : List Byte} {count p : ℕ} (htotal : p + count = buffer.length)
    (hcount : count = 0) (htaken : taken = buffer.take p) : taken = buffer := by
  have hp : p = buffer.length := by omega
  rw [htaken, hp, List.take_length]

/-- What the loop leaves. -/
theorem writeLoop_taken {buffer : List Byte} {results : List WriteResult} {count p : ℕ}
    {taken : List Byte} {r : Bool × List Byte} (htotal : p + count = buffer.length)
    (htaken : taken = buffer.take p) (h : writeLoop buffer results count p taken = some r) :
    r.2 <+: buffer ∧ (r.1 = true ↔ r.2 = buffer) := by
  induction results generalizing count p taken with
  | nil =>
    unfold writeLoop at h
    split at h
    · next h0 =>
      cases h
      rw [taken_all htotal h0 htaken]
      exact ⟨List.prefix_rfl, iff_of_true rfl rfl⟩
    · cases h
  | cons result results ih =>
    unfold writeLoop at h
    split at h
    · next h0 =>
      cases h
      rw [taken_all htotal h0 htaken]
      exact ⟨List.prefix_rfl, iff_of_true rfl rfl⟩
    · cases result with
      | written n =>
        refine ih ?_ ?_ h
        · have hle : min n count ≤ count := Nat.min_le_right n count
          omega
        · rw [htaken, List.take_add]
      | eagain => exact ih htotal htaken h
      | error =>
        cases h
        rw [htaken]
        refine ⟨List.take_prefix p buffer, iff_of_false Bool.false_ne_true fun hall => ?_⟩
        have hlen := congrArg List.length hall
        rw [List.length_take] at hlen
        omega

/-! ### A session -/

/-- The stream, and the calls so far, newest first. -/
structure Session where
  stream : AudioStreamOutMSM72xx
  log : List WriteEntry := []

/-- A call: what it meets, and its buffer. -/
structure WriteCall where
  a : Answers := {}
  buffer : List Byte
  results : List WriteResult

/-- One call of `write`. -/
def Session.step (s : Session) (c : WriteCall) : Option Session :=
  (s.stream.write c.a c.buffer c.results).map fun r => ⟨r.2, r.1 :: s.log⟩

/-- The call issues `AUDIO_START` if and only if it is the second one that was accepted. -/
def StartsSecond (before : List WriteEntry) (e : WriteEntry) : Prop :=
  e.starts = true ↔ e.Accepted ∧ before.countP (WriteEntry.Accepted ·) = 1

/-- `mStartCount` counts the buffers that are accepted. -/
structure Counted (s : Session) : Prop where
  inOrder : ∀ e ∈ s.log, e.InOrder
  starts : Log.Always StartsSecond s.log
  standby : s.stream.mStandby = true → s.log.countP (WriteEntry.Accepted ·) = 0
  count : s.stream.mStandby = false →
    s.stream.mStartCount = numOutBuf - s.log.countP (WriteEntry.Accepted ·)

theorem openStatus_neg (a : Answers) : openStatus a < 0 := by
  unfold openStatus
  split
  · assumption
  · decide

/-- A call that does not get the driver open. -/
theorem openDriver_false {a : Answers} {o : AudioStreamOutMSM72xx} (h : (o.openDriver a).2 = false) :
    (o.openDriver a).1 = { o with mFd := -1 } := by
  unfold AudioStreamOutMSM72xx.openDriver at h ⊢
  split
  · rfl
  · next hfd =>
    rw [if_neg hfd] at h
    split
    · rfl
    · next hcfg =>
      rw [if_neg hcfg] at h
      cases h

theorem openDriver_true {a : Answers} {o : AudioStreamOutMSM72xx} (h : (o.openDriver a).2 = true) :
    (o.openDriver a).1 =
      { o with mFd := a.pcmFd, mStartCount := numOutBuf, mStandby := false } := by
  unfold AudioStreamOutMSM72xx.openDriver at h ⊢
  split
  · next hfd =>
    rw [if_pos hfd] at h
    cases h
  · next hfd =>
    rw [if_neg hfd] at h
    split
    · next hcfg =>
      rw [if_pos hcfg] at h
      cases h
    · rfl

/-- A call once the driver is open. -/
theorem play_cases {buffer : List Byte} {results : List WriteResult} {o o' : AudioStreamOutMSM72xx}
    {e : WriteEntry} (h : o.play buffer results = some (e, o')) :
    e.taken <+: e.buffer ∧
      ((e.Accepted ∧ e.starts = decide (o.mStartCount = 1) ∧
          o' = { o with mStartCount := o.mStartCount - 1 }) ∨
        (¬e.Accepted ∧ e.starts = false ∧ e.ret = -1 ∧ o' = o)) := by
  unfold AudioStreamOutMSM72xx.play at h
  obtain ⟨⟨left, taken⟩, hloop, he⟩ := Option.map_eq_some_iff.1 h
  obtain ⟨htaken, hall⟩ := writeLoop_taken (Nat.zero_add _) rfl hloop
  cases left with
  | true =>
    cases he
    exact ⟨htaken, Or.inl ⟨⟨rfl, hall.1 rfl⟩, rfl, rfl⟩⟩
  | false =>
    cases he
    exact ⟨htaken, Or.inr ⟨fun h => absurd (hall.2 h.2) Bool.false_ne_true, rfl, rfl, rfl⟩⟩

/-- A call that fails counts nothing. -/
theorem count_rejected {e : WriteEntry} (he : ¬e.Accepted) (log : List WriteEntry) :
    (e :: log).countP (WriteEntry.Accepted ·) = log.countP (WriteEntry.Accepted ·) := by
  rw [List.countP_cons, if_neg (by rw [decide_eq_true_eq]; exact he)]
  rfl

theorem startsSecond_rejected {e : WriteEntry} (he : ¬e.Accepted) (hstarts : e.starts = false)
    (log : List WriteEntry) : StartsSecond log e := by
  unfold StartsSecond
  rw [hstarts]
  exact iff_of_false Bool.false_ne_true fun h => he h.1

/-- A negative status is no byte count. -/
theorem inOrder_of_neg {e : WriteEntry} (htaken : e.taken <+: e.buffer) (hneg : e.ret < 0) :
    e.InOrder where
  taken := htaken
  ret hret := by
    have hlen : (0 : Int) ≤ e.buffer.length := Int.natCast_nonneg _
    rw [hret] at hneg
    exact absurd hneg (Int.not_lt.2 hlen)

/-- A call while the driver is open counts its buffer. -/
theorem play_counts {buffer : List Byte} {results : List WriteResult} {o o' : AudioStreamOutMSM72xx}
    {e : WriteEntry} {log : List WriteEntry}
    (hcount : o.mStartCount = numOutBuf - log.countP (WriteEntry.Accepted ·))
    (h : o.play buffer results = some (e, o')) :
    e.InOrder ∧ StartsSecond log e ∧ o'.mStandby = o.mStandby ∧
      o'.mStartCount = numOutBuf - (e :: log).countP (WriteEntry.Accepted ·) := by
  obtain ⟨htaken, ⟨hacc, hstarts, rfl⟩ | ⟨hacc, hstarts, hret, rfl⟩⟩ := play_cases h
  · refine ⟨⟨htaken, fun _ => hacc⟩, ?_, rfl, ?_⟩
    · unfold StartsSecond
      rw [hstarts, decide_eq_true_eq, hcount]
      unfold numOutBuf
      constructor
      · intro h1
        exact ⟨hacc, by omega⟩
      · rintro ⟨-, h1⟩
        omega
    · rw [List.countP_cons, if_pos (decide_eq_true hacc)]
      dsimp only
      omega
  · refine ⟨inOrder_of_neg htaken (by rw [hret]; decide), startsSecond_rejected hacc hstarts log, rfl, ?_⟩
    rw [count_rejected hacc]
    exact hcount

/-- One call. -/
theorem counted_step {s s' : Session} {c : WriteCall} (hs : Counted s) (h : s.step c = some s') :
    Counted s' := by
  unfold Session.step at h
  obtain ⟨⟨e, o'⟩, hw, he⟩ := Option.map_eq_some_iff.1 h
  cases he
  unfold AudioStreamOutMSM72xx.write at hw
  cases hst : s.stream.mStandby with
  | false =>
    rw [hst, if_neg Bool.false_ne_true] at hw
    dsimp only at hw
    rw [if_pos rfl] at hw
    obtain ⟨horder, hstarts, hstandby, hcount⟩ := play_counts (hs.count hst) hw
    refine ⟨List.forall_mem_cons.2 ⟨horder, hs.inOrder⟩, ⟨hstarts, hs.starts⟩, fun h => ?_, fun _ => hcount⟩
    rw [hstandby, hst] at h
    cases h
  | true =>
    have hzero := hs.standby hst
    rw [hst, if_pos rfl] at hw
    dsimp only at hw
    cases hopen : (s.stream.openDriver c.a).2 with
    | true =>
      rw [hopen, if_pos rfl, openDriver_true hopen] at hw
      have hfull : numOutBuf = numOutBuf - s.log.countP (WriteEntry.Accepted ·) := by
        rw [hzero]
        rfl
      obtain ⟨horder, hstarts, hstandby, hcount⟩ := play_counts hfull hw
      refine ⟨List.forall_mem_cons.2 ⟨horder, hs.inOrder⟩, ⟨hstarts, hs.starts⟩, fun h => ?_, fun _ => hcount⟩
      rw [hstandby] at h
      cases h
    | false =>
      rw [hopen, if_neg Bool.false_ne_true, openDriver_false hopen] at hw
      cases hw
      have hacc : ¬(⟨c.buffer, false, [], false, openStatus c.a⟩ : WriteEntry).Accepted := fun h =>
        absurd h.1 Bool.false_ne_true
      refine ⟨List.forall_mem_cons.2 ⟨?_, hs.inOrder⟩, ⟨?_, hs.starts⟩, fun _ => ?_, fun h => ?_⟩
      · exact inOrder_of_neg List.nil_prefix (openStatus_neg c.a)
      · exact startsSecond_rejected hacc rfl s.log
      · rw [count_rejected hacc]
        exact hzero
      · dsimp only at h
        rw [hst] at h
        cases h

/-- **PCM output preserves the byte stream**: in any sequence of calls that begins in standby each call
gives the driver a prefix of its buffer, returns the byte count only if that was all, and issues
`AUDIO_START` exactly if it is the second call that was accepted. -/
theorem plays {o : AudioStreamOutMSM72xx} {calls : List WriteCall} {s : Session}
    (ho : o.mStandby = true) (hr : run Session.step ⟨o, []⟩ calls = some s) :
    (∀ e ∈ s.log, e.InOrder) ∧ Log.Always StartsSecond s.log := by
  have hinit : Counted ⟨o, []⟩ := by
    refine ⟨List.forall_mem_nil _, trivial, fun _ => rfl, fun h => ?_⟩
    rw [ho] at h
    cases h
  have hs : Counted s := run_inv (fun _ _ _ hs _ h => counted_step hs h) hinit
    (along_true (C := fun _ _ => True) (fun _ _ => trivial) _ _) hr
  exact ⟨hs.inOrder, hs.starts⟩

/-- Three buffers: a short write and a retry, an error, and a whole one. -/
def threeWrites : List WriteCall :=
  [{ buffer := [1, 2, 3], results := [.written 2, .eagain, .written 5] },
    { buffer := [4, 5], results := [.written 1, .error] },
    { buffer := [6, 7], results := [.written 0, .written 2] }]

theorem plays_threeWrites : ∃ s, run Session.step ⟨{}, []⟩ threeWrites = some s ∧
    s.log.map (·.starts) = [true, false, false] ∧ ∀ e ∈ s.log, e.InOrder := by
  have hrun : ∃ s, run Session.step ⟨{}, []⟩ threeWrites = some s ∧
      s.log.map (·.starts) = [true, false, false] := exists_run (by decide)
  obtain ⟨s, hs, hstarts⟩ := hrun
  exact ⟨s, hs, hstarts, (plays rfl hs).1⟩

/-! ### The loop in `Route.Routing` -/

/-- The call as `Route.Routing` has it: the same stream, and `AUDIO_START` where it is issued. -/
theorem writePcm_of_write {E : Env} {a : Answers} {buffer : List Byte} {results : List WriteResult}
    {s : State} {p : ℕ} {o o' : AudioStreamOutMSM72xx} {e : WriteEntry}
    (hs : s.mOutput = some (p, o)) (h : o.write a buffer results = some (e, o')) :
    ∃ s', writePcm E { a with write := decide e.Accepted } s = some s' ∧ s'.mOutput = some (p, o') ∧
      s'.log = if e.starts then .pcmStart :: s.log else s.log := by
  unfold AudioStreamOutMSM72xx.write at h
  unfold writePcm
  rw [hs]
  dsimp only [Option.map_some] at h ⊢
  have hopen : o.openDriver { a with write := decide e.Accepted } = o.openDriver a := rfl
  rw [hopen]
  generalize (if o.mStandby then o.openDriver a else (o, true)) = r at h ⊢
  refine ⟨_, rfl, ?_⟩
  cases hr : r.2 with
  | false =>
    rw [hr, if_neg Bool.false_ne_true] at h
    cases h
    rw [if_pos (Or.inl rfl)]
    exact ⟨rfl, rfl⟩
  | true =>
    rw [hr, if_pos rfl] at h
    obtain ⟨-, ⟨hacc, hstarts, rfl⟩ | ⟨hacc, hstarts, -, rfl⟩⟩ := play_cases h
    · rw [decide_eq_true hacc, if_neg (by decide), hstarts]
      unfold countBuffer
      split
      · next h1 =>
        rw [decide_eq_true h1]
        exact ⟨rfl, rfl⟩
      · next h1 =>
        rw [decide_eq_false h1]
        exact ⟨rfl, rfl⟩
    · rw [decide_eq_false hacc, if_pos (Or.inr rfl), hstarts]
      exact ⟨rfl, rfl⟩

end Msm7x27a.Route
