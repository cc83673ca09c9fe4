import Msm7x27a.Audio.Hardware
import Msm7x27a.Lib.Runs

/-!
# `AudioSessionOutLPA`

The low power playback session: buffers shared with the driver `/dev/msm_pcm_lp_dec` are kept in
`mBufPool` and move between `mEmptyQueue` and `mFilledQueue`.  The members of the class and its
functions, as the source has them, with the answers of the kernel as arguments: for an `ioctl` or
`fsync` whether it succeeded.  The contents of the buffers are left out.

The log is no member of the class: it records, newest first, the calls of the kernel, the calls of
the client and the observer, and the events handled.  `step` is one operation as one step.  The
regions between the lock operations of `write`, `flush` and the event thread have definitions of
their own; `Lpa.Programs` runs them one by one.
-/

namespace Msm7x27a.Lpa

open Msm7x27a.Audio

def LPA_BUFFER_SIZE : ℕ := 512 * 1024

/-- An ION buffer: the members of `BuffersAllocated` that `memBufferAlloc` sets. -/
structure IonBuffer where
  ion_handle : ℕ
  localBuf : ℕ
  memBuf : ℕ
  memBufsize : ℕ
  memFd : Int
  deriving DecidableEq, Repr

/-- An entry of a queue.  The constructor leaves `bytesToWrite` as it finds it, and only `write`
sets it. -/
structure BuffersAllocated extends IonBuffer where
  bytesToWrite : ℕ := 0
  deriving DecidableEq, Repr

/-- The members of `msm_audio_aio_buf` that `write` sets. -/
structure AioBuf where
  buf_addr : ℕ
  buf_len : ℕ
  data_len : ℕ
  private_data : Int
  deriving DecidableEq, Repr

/-- The calls of a client that the log records when they begin. -/
inductive Call where
  | write (bytes : ℕ) | flush
  deriving DecidableEq, Repr

/-- What happens to the driver, to the ION buffers and between client, session and observer. -/
inductive Event where
  | called (c : Call)
  | asyncWrite (aio : AioBuf) (ok : Bool)
  /-- `AUDIO_PAUSE`; the argument 0 resumes. -/
  | audioPause (on ok : Bool)
  | audioFlush (ok : Bool)
  | audioStop (ok : Bool)
  | audioStart (ok : Bool)
  | getConfig (ok : Bool)
  | setConfig (sample_rate channel_count : ℕ) (ok : Bool)
  | getStats (ok : Bool)
  | fsync (ok : Bool)
  /-- The event `AUDIO_EVENT_WRITE_DONE` for this address is handled. -/
  | writeDone (buf_addr : ℕ)
  /-- `mObserver->postEOS`; `filled` is `mFilledQueue` at the time. -/
  | postEOS (filled : List BuffersAllocated)
  | registerIon (vaddr fd : Int) (ok : Bool)
  | deregisterIon (vaddr : ℕ) (fd : Int)
  | munmap (addr len : ℕ)
  | ionFree (handle : ℕ)
  | free (ptr : ℕ)
  | closed (fd : Int)
  /-- `isBufferAvailable` returns; `empty` is `mEmptyQueue` at the time. -/
  | available (isAvail : Bool) (empty : List BuffersAllocated)
  /-- `write` reads `*mEmptyQueue.begin()` of the empty list. -/
  | readsEnd
  deriving DecidableEq, Repr

structure AudioSessionOutLPA where
  mSampleRate : ℕ := 0
  mChannels : ℕ := 0
  mPaused : Bool := false
  mIsDriverStarted : Bool := false
  mGenerateEOS : Bool := true
  mReachedEOS : Bool := false
  mSkipWrite : Bool := false
  mEosEventReceived : Bool := false
  /-- Whether an observer is registered. -/
  mObserver : Bool := false
  timePlayed : Int := 0
  timeStarted : Int := 0
  afd : Int := -1
  ionfd : Int := -1
  mEmptyQueue : List BuffersAllocated := []
  mFilledQueue : List BuffersAllocated := []
  mBufPool : List BuffersAllocated := []
  log : List Event := []
  deriving DecidableEq, Repr

namespace AudioSessionOutLPA

/-- Something happens. -/
def record (s : AudioSessionOutLPA) (e : Event) : AudioSessionOutLPA := { s with log := e :: s.log }

/-! ### Allocation -/

/-- What the kernel answers while one buffer is allocated: `fd` is the shared descriptor, `mapped`
and `localBuf` are the results of `mmap` and `malloc`. -/
structure AllocOutcome where
  alloc : Bool := true
  handle : ℕ
  share : Bool := true
  fd : Int
  mapped : Option ℕ
  localBuf : Option ℕ
  register : Bool := true
  deriving DecidableEq, Repr

/-- `memBufferAlloc`: the address it returns (0 is `NULL`, -1 is `MAP_FAILED`), the descriptor if it
stores one behind `ion_fd`, and the session. -/
def memBufferAlloc (nSize : ℕ) (o : AllocOutcome) (s : AudioSessionOutLPA) :
    Int × Option Int × AudioSessionOutLPA :=
  if o.alloc = false then (0, none, s)
  else if o.share = false then (0, none, s.record (.ionFree o.handle))
  else
    match o.mapped, o.localBuf with
    | none, _ => (-1, none, (s.record (.closed o.fd)).record (.ionFree o.handle))
    | some ion_buf, none =>
      (0, none, ((s.record (.munmap ion_buf nSize)).record (.closed o.fd)).record (.ionFree o.handle))
    | some ion_buf, some local_buf =>
      let buf : BuffersAllocated :=
        { ion_handle := o.handle, localBuf := local_buf, memBuf := ion_buf, memBufsize := nSize
          memFd := o.fd }
      (ion_buf, some o.fd,
        { s with mEmptyQueue := s.mEmptyQueue ++ [buf], mBufPool := s.mBufPool ++ [buf] })

/-- The loop of `bufferAlloc`.  Its local variable `ion_fd` keeps its value when an allocation
fails, and the registration is tried all the same. -/
def allocLoop : List AllocOutcome → Int → AudioSessionOutLPA → AudioSessionOutLPA
  | [], _, s => s
  | o :: os, ion_fd, s =>
    let r := memBufferAlloc LPA_BUFFER_SIZE o s
    let ion_fd := r.2.1.getD ion_fd
    allocLoop os ion_fd (r.2.2.record (.registerIon r.1 ion_fd o.register))

def bufferAlloc (ionfd junk : Int) (os : List AllocOutcome) (s : AudioSessionOutLPA) :
    AudioSessionOutLPA :=
  let s := { s with ionfd := ionfd }
  if ionfd < 0 then s else allocLoop os junk s

/-- What `bufferDeAlloc` does to one buffer, newest first. -/
def release (b : IonBuffer) : List Event :=
  [.free b.localBuf, .ionFree b.ion_handle, .closed b.memFd, .munmap b.memBuf LPA_BUFFER_SIZE,
    .deregisterIon b.memBuf b.memFd]

/-- The loop of `bufferDeAlloc` over a queue. -/
def releaseAll : List BuffersAllocated → List Event → List Event
  | [], log => log
  | b :: q, log => releaseAll q (release b.toIonBuffer ++ log)

def bufferDeAlloc (s : AudioSessionOutLPA) : AudioSessionOutLPA :=
  let s := { s with mEmptyQueue := [], log := releaseAll s.mEmptyQueue s.log }
  let s := { s with mFilledQueue := [], log := releaseAll s.mFilledQueue s.log }
  let s := { s with mBufPool := [] }
  if 0 ≤ s.ionfd then { s.record (.closed s.ionfd) with ionfd := -1 } else s

/-! ### Starting and pausing the driver -/

structure StartOutcome where
  resume : Bool := true
  getConfig : Bool := true
  setConfig : Bool := true
  start : Bool := true
  deriving DecidableEq, Repr

/-- `start` gives the driver up. -/
def closeDriver (s : AudioSessionOutLPA) : AudioSessionOutLPA :=
  { s.record (.closed s.afd) with afd := -1 }

/-- The part of `start` from `AUDIO_START` on. -/
def startDriver (ok : Bool) (now : Int) (s : AudioSessionOutLPA) : Status × AudioSessionOutLPA :=
  let s := s.record (.audioStart ok)
  if ok = false then (badValue, s)
  else
    (noError, { s with
      mIsDriverStarted := true
      timeStarted := if s.timeStarted = 0 then now else s.timeStarted })

def start (o : StartOutcome) (now : Int) (s : AudioSessionOutLPA) : Status × AudioSessionOutLPA :=
  if s.mPaused ∧ s.mIsDriverStarted then
    let s := { s with mPaused := false }
    (if o.resume then noError else unknownError, s.record (.audioPause false o.resume))
  else
    let s := { s with mPaused := false }
    if 0 ≤ s.afd then
      let s := s.record (.getConfig o.getConfig)
      if o.getConfig = false then (badValue, s.closeDriver)
      else
        let s := s.record (.setConfig s.mSampleRate s.mChannels o.setConfig)
        if o.setConfig = false then (badValue, s.closeDriver) else startDriver o.start now s
    else startDriver o.start now s

def pause (ok : Bool) (now : Int) (s : AudioSessionOutLPA) : AudioSessionOutLPA :=
  { s.record (.audioPause true ok) with
    mPaused := true, timePlayed := s.timePlayed + (now - s.timeStarted) }

def stop (s : AudioSessionOutLPA) : AudioSessionOutLPA := { s with mSkipWrite := true }

def setObserver (observer : Bool) (s : AudioSessionOutLPA) : AudioSessionOutLPA :=
  { s with mObserver := observer }

/-! ### `write` -/

/-- A pending skip is taken. -/
def takeSkip (s : AudioSessionOutLPA) : AudioSessionOutLPA := { s with mSkipWrite := false }

/-- How many bytes a pending skip leaves to write; `none` is the return with `UNKNOWN_ERROR`. -/
def bytesLeft (s : AudioSessionOutLPA) (bytes : ℕ) : Option ℕ :=
  if s.mSkipWrite then if bytes < LPA_BUFFER_SIZE then some 0 else none else some bytes

/-- The first buffer of `mEmptyQueue` is taken. -/
def dequeue (s : AudioSessionOutLPA) : AudioSessionOutLPA :=
  { s with mEmptyQueue := s.mEmptyQueue.tail }

def pushEmpty (b : BuffersAllocated) (s : AudioSessionOutLPA) : AudioSessionOutLPA :=
  { s with mEmptyQueue := s.mEmptyQueue ++ [b] }

def pushFilled (b : BuffersAllocated) (s : AudioSessionOutLPA) : AudioSessionOutLPA :=
  { s with mFilledQueue := s.mFilledQueue ++ [b] }

def reachEos (s : AudioSessionOutLPA) : AudioSessionOutLPA := { s with mReachedEOS := true }

/-- The clock starts with the first write. -/
def startClock (now : Int) (s : AudioSessionOutLPA) : AudioSessionOutLPA :=
  { s with timeStarted := if s.timeStarted = 0 then now else s.timeStarted }

def postEos (s : AudioSessionOutLPA) : AudioSessionOutLPA :=
  if s.mObserver then s.record (.postEOS s.mFilledQueue) else s

/-- `aio_buf_local`: an odd length is made even. -/
def aioBuf (b : BuffersAllocated) : AioBuf where
  buf_addr := b.memBuf
  buf_len := b.bytesToWrite
  data_len := if b.bytesToWrite % 2 ≠ 0 then b.bytesToWrite + 1 else b.bytesToWrite
  private_data := b.memFd

/-- The buffer goes to the driver, and a short one ends the stream. -/
def sendToDriver (b : BuffersAllocated) (ok : Bool) (s : AudioSessionOutLPA) : AudioSessionOutLPA :=
  let s := if s.mIsDriverStarted then s.record (.asyncWrite (aioBuf b) ok) else s
  if b.bytesToWrite < LPA_BUFFER_SIZE then s.reachEos else s

/-- The end of the stream is posted if nothing is queued and it has not been received. -/
def postIfDrained (s : AudioSessionOutLPA) : AudioSessionOutLPA :=
  if s.mFilledQueue.isEmpty ∧ s.mEosEventReceived = false then
    { s with mEosEventReceived := true }.postEos
  else s

/-- `write`; `none` stands for reading `*mEmptyQueue.begin()` of the empty list. -/
def write (bytes : ℕ) (ok : Bool) (now : Int) (s : AudioSessionOutLPA) :
    Option (Status × AudioSessionOutLPA) :=
  let s := s.record (.called (.write bytes))
  match s.bytesLeft bytes with
  | none => some (unknownError, s.takeSkip)
  | some bytes =>
    let s := s.takeSkip
    match s.mEmptyQueue with
    | [] => none
    | buf :: _ =>
      let buf := { buf with bytesToWrite := bytes }
      let s := s.dequeue
      if 0 < bytes then
        some (noError, (((s.startClock now).pushFilled buf).sendToDriver buf ok))
      else some (noError, ((s.pushEmpty buf).reachEos.postIfDrained))

/-! ### `flush` -/

/-- All buffers go to `mEmptyQueue`, in the order of the pool. -/
def refill (s : AudioSessionOutLPA) : AudioSessionOutLPA :=
  { s with mEmptyQueue := s.mBufPool, mFilledQueue := [] }

/-- `flush` from `mReachedEOS = false` on. -/
def flushDriver (pauseOk flushOk : Bool) (s : AudioSessionOutLPA) : Status × AudioSessionOutLPA :=
  let s := { s with mReachedEOS := false }
  if s.mPaused = false then
    if s.mEosEventReceived = false then
      let s := s.record (.audioPause true pauseOk)
      if pauseOk = false then (unknownError, s)
      else
        let s := { s with mSkipWrite := true }.record (.audioFlush flushOk)
        if flushOk = false then (unknownError, s) else (noError, { s with mEosEventReceived := false })
    else (noError, { s with mEosEventReceived := false })
  else
    let s := { s with timeStarted := 0, mSkipWrite := true }.record (.audioFlush flushOk)
    if flushOk = false then (unknownError, s)
    else
      let s := s.record (.audioPause true pauseOk)
      if pauseOk = false then (unknownError, s) else (noError, { s with mEosEventReceived := false })

def flush (pauseOk flushOk : Bool) (s : AudioSessionOutLPA) : Status × AudioSessionOutLPA :=
  flushDriver pauseOk flushOk (s.record (.called .flush)).refill

/-! ### The event thread -/

/-- The buffer of `mFilledQueue` with this address. -/
def findFilled (s : AudioSessionOutLPA) (buf_addr : ℕ) : Option BuffersAllocated :=
  s.mFilledQueue.find? fun b => b.memBuf = buf_addr

def eraseFilled (buf_addr : ℕ) (s : AudioSessionOutLPA) : AudioSessionOutLPA :=
  { s with mFilledQueue := s.mFilledQueue.eraseP fun b => b.memBuf = buf_addr }

/-- The last buffer of a stream that has ended is done. -/
def EndsStream (s : AudioSessionOutLPA) : Prop :=
  s.mFilledQueue.isEmpty ∧ s.mReachedEOS ∧ s.mGenerateEOS

instance (s : AudioSessionOutLPA) : Decidable s.EndsStream := by unfold EndsStream; infer_instance

def receiveEos (s : AudioSessionOutLPA) : AudioSessionOutLPA :=
  if s.EndsStream then { s with mEosEventReceived := true } else s

/-- `AUDIO_EVENT_WRITE_DONE`. -/
def writeDone (buf_addr : ℕ) (fsyncOk : Bool) (s : AudioSessionOutLPA) : AudioSessionOutLPA :=
  let s := s.record (.writeDone buf_addr)
  match s.findFilled buf_addr with
  | none => s
  | some buf =>
    let s := (s.eraseFilled buf_addr).pushEmpty buf
    if s.EndsStream ∧ s.mObserver then (s.receiveEos.record (.fsync fsyncOk)).postEos
    else s.receiveEos

/-- `AUDIO_EVENT_SUSPEND`. -/
def suspend (statsOk stopOk : Bool) (s : AudioSessionOutLPA) : AudioSessionOutLPA :=
  if s.mPaused = false then s
  else
    { ({ s.record (.getStats statsOk) with mReachedEOS := false }.record (.audioStop stopOk)) with
      mIsDriverStarted := false }

/-! ### Operations -/

/-- What the kernel answers to the constructor; `junk` is what the local variable `ion_fd` of
`bufferAlloc` holds at first. -/
structure OpenOutcome where
  afd : Int
  start : StartOutcome := {}
  now : Int := 1
  ionfd : Int
  junk : Int := 0
  allocs : List AllocOutcome
  deriving DecidableEq, Repr

/-- `openAudioSessionDevice`. -/
def openAudioSessionDevice (o : OpenOutcome) (s : AudioSessionOutLPA) : Status × AudioSessionOutLPA :=
  let s := { s with afd := o.afd }
  if o.afd < 0 then (unknownError, s)
  else (noError, bufferAlloc o.ionfd o.junk o.allocs (start o.start o.now s).2)

/-- The constructor; `channels` is the number of channels. -/
def construct (format : AudioFormat) (channels samplingRate : ℕ) (o : OpenOutcome) :
    Status × AudioSessionOutLPA :=
  let s : AudioSessionOutLPA := { mSampleRate := samplingRate, mChannels := channels }
  if format = .pcm16Bit ∧ (channels = 0 ∨ 2 < channels) then (badValue, s)
  else openAudioSessionDevice o s

end AudioSessionOutLPA

/-- An operation of the client or an event of the driver, with the answers of the kernel. -/
inductive Op where
  | write (bytes : ℕ) (ok : Bool) (now : Int)
  | start (o : AudioSessionOutLPA.StartOutcome) (now : Int)
  | pause (ok : Bool) (now : Int)
  | flush (pauseOk flushOk : Bool)
  | stop
  | setObserver (observer : Bool)
  | writeDone (buf_addr : ℕ) (fsyncOk : Bool)
  | suspend (statsOk stopOk : Bool)
  deriving DecidableEq, Repr

/-- One operation; `none` is a `write` that finds `mEmptyQueue` empty. -/
def step (s : AudioSessionOutLPA) : Op → Option AudioSessionOutLPA
  | .write bytes ok now => (s.write bytes ok now).map Prod.snd
  | .start o now => some (s.start o now).2
  | .pause ok now => some (s.pause ok now)
  | .flush pauseOk flushOk => some (s.flush pauseOk flushOk).2
  | .stop => some s.stop
  | .setObserver observer => some (s.setObserver observer)
  | .writeDone buf_addr fsyncOk => some (s.writeDone buf_addr fsyncOk)
  | .suspend statsOk stopOk => some (s.suspend statsOk stopOk)

/-- Two buffers are allocated and the driver is started. -/
def twoBuffers : AudioSessionOutLPA.OpenOutcome where
  afd := 10
  ionfd := 11
  allocs :=
    [{ handle := 1, fd := 21, mapped := some 0x1000, localBuf := some 0x100 },
      { handle := 2, fd := 22, mapped := some 0x2000, localBuf := some 0x200 }]

/-- The session that is opened so, with an observer. -/
def opened : AudioSessionOutLPA :=
  (AudioSessionOutLPA.construct .pcm16Bit 2 44100 twoBuffers).2.setObserver true

/-- A stream of one full and one short buffer, flushed and begun again. -/
def aStream : List Op :=
  [.setObserver true, .write LPA_BUFFER_SIZE true 2, .write 100 true 3, .writeDone 0x1000 true,
    .writeDone 0x2000 true, .flush true true, .write LPA_BUFFER_SIZE true 4,
    .write LPA_BUFFER_SIZE true 4]

end Msm7x27a.Lpa
