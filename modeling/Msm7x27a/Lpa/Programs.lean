import Msm7x27a.Lib.Threads
import Msm7x27a.Lpa.Session

/-!
# The session as programs

The operations of `Lpa.Session` and `isBufferAvailable` with the mutexes `mLock`, `mEmptyQueueMutex`
and `mFilledQueueMutex` and the condition variable `mWriteCv`, as programs of `Lib.Threads`.  The
code between two lock operations is one region, and regions that an argument has to single out have
names of their own.

`alone_prog`: run without other threads, the program of an operation does what `Lpa.step` says.
-/

namespace Msm7x27a.Lpa

open Msm7x27a.Threads

inductive Mutex where
  | mLock | mEmptyQueueMutex | mFilledQueueMutex
  deriving DecidableEq, Repr

inductive CondVar where
  | mWriteCv
  deriving DecidableEq, Repr

inductive Region where
  | work
  /-- `isBufferAvailable` looks at `mEmptyQueue`. -/
  | test
  /-- `isBufferAvailable` returns, having found a buffer. -/
  | found
  /-- `isBufferAvailable` returns, having waited. -/
  | waited
  /-- `write` takes `*mEmptyQueue.begin()`. -/
  | dequeue
  /-- `stop` sets `mSkipWrite` and signals. -/
  | stop
  /-- `flush` goes to the driver, sets `mSkipWrite` and signals. -/
  | flushDriver (pauseOk flushOk : Bool)
  /-- The event thread tests for the end of the stream. -/
  | endOfStream
  /-- The event thread signals. -/
  | writeDone
  deriving DecidableEq, Repr

/-- What a thread may run. -/
inductive Request where
  | op (o : Op)
  | isBufferAvailable
  deriving DecidableEq, Repr

namespace Programs

abbrev Code := Cmd AudioSessionOutLPA Mutex CondVar Region

/-- A region that signals nothing. -/
def act (f : AudioSessionOutLPA → AudioSessionOutLPA) (k : AudioSessionOutLPA → Code) : Code :=
  .act .work f (fun _ => none) k

def write (bytes : ℕ) (ok : Bool) (now : Int) : Code :=
  .lock .mLock <|
  act (fun s => (s.record (.called (.write bytes))).takeSkip) fun s =>
  match s.bytesLeft bytes with
  | none => .unlock .mLock .done
  | some bytes =>
    .lock .mEmptyQueueMutex <|
    .act .dequeue (fun s => if s.mEmptyQueue.isEmpty then s.record .readsEnd else s.dequeue)
      (fun _ => none) fun s =>
    .unlock .mEmptyQueueMutex <|
    match s.mEmptyQueue with
    | [] => .unlock .mLock .done
    | buf :: _ =>
      let buf := { buf with bytesToWrite := bytes }
      if 0 < bytes then
        act (fun s => s.startClock now) fun _ =>
        .lock .mFilledQueueMutex <|
        act (fun s => s.pushFilled buf) fun _ =>
        .unlock .mFilledQueueMutex <|
        act (fun s => s.sendToDriver buf ok) fun _ =>
        .unlock .mLock .done
      else
        .lock .mEmptyQueueMutex <|
        act (fun s => s.pushEmpty buf) fun _ =>
        .unlock .mEmptyQueueMutex <|
        act (fun s => s.reachEos) fun _ =>
        .lock .mFilledQueueMutex <|
        act (fun s => s.postIfDrained) fun _ =>
        .unlock .mFilledQueueMutex <|
        .unlock .mLock .done

def flush (pauseOk flushOk : Bool) : Code :=
  .lock .mLock <|
  act (fun s => s.record (.called .flush)) fun _ =>
  .lock .mFilledQueueMutex <|
  .lock .mEmptyQueueMutex <|
  act (fun s => s.refill) fun _ =>
  .unlock .mEmptyQueueMutex <|
  .unlock .mFilledQueueMutex <|
  .act (.flushDriver pauseOk flushOk) (fun s => (s.flushDriver pauseOk flushOk).2)
    (fun s => if (s.flushDriver pauseOk flushOk).1 = Audio.noError then some .mWriteCv else none)
    fun _ =>
  .unlock .mLock .done

def stop : Code :=
  .lock .mLock <|
  .act .stop (fun s => s.stop) (fun _ => some .mWriteCv) fun _ =>
  .unlock .mLock .done

def isBufferAvailable : Code :=
  .lock .mLock <|
  .lock .mEmptyQueueMutex <|
  .act .test id (fun _ => none) fun s =>
  if s.mEmptyQueue.isEmpty then
    .unlock .mLock <|
    .wait .mWriteCv .mEmptyQueueMutex <|
    .unlock .mEmptyQueueMutex <|
    .lock .mLock <|
    .act .waited (fun s =>
        if s.mSkipWrite then s.takeSkip.record (.available false s.mEmptyQueue)
        else s.record (.available true s.mEmptyQueue)) (fun _ => none) fun _ =>
    .unlock .mLock .done
  else
    .unlock .mEmptyQueueMutex <|
    .act .found (fun s => s.record (.available true s.mEmptyQueue)) (fun _ => none) fun _ =>
    .unlock .mLock .done

/-- `AUDIO_EVENT_WRITE_DONE`.  At the end of the stream `mLock` is released around `fsync`, with
`mFilledQueueMutex` held. -/
def writeDone (buf_addr : ℕ) (fsyncOk : Bool) : Code :=
  let finish : Code :=
    .unlock .mFilledQueueMutex <|
    .act .writeDone id (fun _ => some .mWriteCv) fun _ =>
    .unlock .mLock .done
  .lock .mLock <|
  act (fun s => s.record (.writeDone buf_addr)) fun _ =>
  .lock .mFilledQueueMutex <|
  act (fun s => s.eraseFilled buf_addr) fun s =>
  match s.findFilled buf_addr with
  | none => finish
  | some buf =>
    .lock .mEmptyQueueMutex <|
    act (fun s => s.pushEmpty buf) fun _ =>
    .unlock .mEmptyQueueMutex <|
    .act .endOfStream (fun s => s.receiveEos) (fun _ => none) fun s =>
    if s.EndsStream ∧ s.mObserver then
      .unlock .mLock <|
      act (fun s => s.record (.fsync fsyncOk)) fun _ =>
      .lock .mLock <|
      act (fun s => s.record (.postEOS s.mFilledQueue)) fun _ =>
      finish
    else finish

/-- The program of an operation; those that take no mutex are one region. -/
def prog : Request → Code
  | .op (.write bytes ok now) => write bytes ok now
  | .op (.flush pauseOk flushOk) => flush pauseOk flushOk
  | .op .stop => stop
  | .op (.writeDone buf_addr fsyncOk) => writeDone buf_addr fsyncOk
  | .op (.start o now) => act (fun s => (s.start o now).2) fun _ => .done
  | .op (.pause ok now) => act (fun s => s.pause ok now) fun _ => .done
  | .op (.setObserver observer) => act (fun s => s.setObserver observer) fun _ => .done
  | .op (.suspend statsOk stopOk) => act (fun s => s.suspend statsOk stopOk) fun _ => .done
  | .isBufferAvailable => isBufferAvailable

/-- Threads `τ` that run programs; `may` says which thread may begin what. -/
def system {τ : Type} (may : τ → Request → AudioSessionOutLPA → Bool) :
    System AudioSessionOutLPA Mutex CondVar Region Request τ := ⟨prog, may⟩

/-! ### What a program does when it runs alone -/

open AudioSessionOutLPA

variable {s s' : AudioSessionOutLPA}

theorem alone_write {bytes : ℕ} {ok : Bool} {now : Int}
    (h : step s (.write bytes ok now) = some s') : (write bytes ok now).alone s = s' := by
  obtain ⟨r, hr, rfl⟩ := Option.map_eq_some_iff.1 h
  unfold AudioSessionOutLPA.write at hr
  have hleft : (s.record (.called (.write bytes))).bytesLeft bytes = s.bytesLeft bytes := rfl
  dsimp only at hr
  rw [hleft] at hr
  simp only [write, act, Cmd.alone]
  cases hb : s.bytesLeft bytes with
  | none =>
    rw [hb] at hr
    cases hr
    rfl
  | some n =>
    rw [hb] at hr
    cases hq : s.mEmptyQueue with
    | nil =>
      rw [show (s.record (.called (.write bytes))).takeSkip.mEmptyQueue = [] from hq] at hr
      cases hr
    | cons b q =>
      have hq' : (s.record (.called (.write bytes))).takeSkip.mEmptyQueue = b :: q := hq
      rw [hq'] at hr
      simp only [Cmd.alone, hq', List.isEmpty_cons, Bool.false_eq_true, if_false]
      dsimp only at hr
      split_ifs at hr ⊢ <;> cases hr <;> rfl

theorem alone_writeDone (s : AudioSessionOutLPA) (buf_addr : ℕ) (fsyncOk : Bool) :
    (writeDone buf_addr fsyncOk).alone s = s.writeDone buf_addr fsyncOk := by
  unfold AudioSessionOutLPA.writeDone
  simp only [writeDone, act, Cmd.alone]
  cases hb : (s.record (.writeDone buf_addr)).findFilled buf_addr with
  | none =>
    have he : (s.record (.writeDone buf_addr)).eraseFilled buf_addr = s.record (.writeDone buf_addr) := by
      unfold eraseFilled
      rw [List.eraseP_of_forall_not (List.find?_eq_none.1 hb)]
    simp only [Cmd.alone, he, id]
  | some b =>
    dsimp only
    by_cases he : (pushEmpty b (eraseFilled buf_addr (s.record (.writeDone buf_addr)))).EndsStream ∧
        (pushEmpty b (eraseFilled buf_addr (s.record (.writeDone buf_addr)))).mObserver = true
    · rw [if_pos he]
      simp only [Cmd.alone, if_pos he, id]
      unfold postEos
      rw [if_pos]
      unfold receiveEos
      rw [if_pos he.1]
      exact he.2
    · rw [if_neg he]
      simp only [Cmd.alone, if_neg he, id]

/-- **The programs.** Run without other threads, the program of an operation does what the
operation does as one step. -/
theorem alone_prog {op : Op} (h : step s op = some s') : (prog (.op op)).alone s = s' := by
  cases op with
  | write bytes ok now => exact alone_write h
  | writeDone buf_addr fsyncOk =>
    cases h
    exact alone_writeDone s buf_addr fsyncOk
  | _ => cases h; rfl

end Programs

end Msm7x27a.Lpa
