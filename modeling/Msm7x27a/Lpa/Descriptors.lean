import Msm7x27a.Lib.Leases
import Msm7x27a.Lpa.Session

/-!
# The descriptors of a session

The constructor and the destructor of `AudioSessionOutLPA` once more, with the members `afd` and
`ionfd` as variables that hold something before they are assigned, and every call with a descriptor
in the log.  `construct_session` says that this is the constructor of `Lpa.Session`.

A session closes what it opened and nothing else exactly if the constructor gets as far as opening
the driver, either the driver opens or `ionfd` happens to hold a negative number, and the first buffer
is allocated where it comes to that: `bufferAlloc` passes its `ion_fd` on unassigned otherwise
(`closes_own_iff`).
-/

namespace Msm7x27a.Lpa

open Msm7x27a.Audio Msm7x27a.Leases
open AudioSessionOutLPA (AllocOutcome StartOutcome OpenOutcome)

/-- A variable of type `int`: what it holds, and whether it has been assigned. -/
structure Slot where
  value : Int
  assigned : Bool
  deriving DecidableEq, Repr

namespace Slot

def of (value : Int) : Slot := ⟨value, true⟩

def unset (value : Int) : Slot := ⟨value, false⟩

end Slot

inductive IoctlCode where
  | audioPause | audioGetConfig | audioSetConfig | audioStart | audioStop | audioAbortGetEvent
  | registerIon | deregisterIon | ionAlloc | ionShare | ionFree
  deriving DecidableEq, Repr

/-- A call that opens, uses or closes a descriptor; `carried` is the descriptor in the
`msm_audio_ion_info` of an `ioctl`. -/
inductive Access where
  | opened (fd : Int)
  | ioctl (fd : Slot) (request : IoctlCode) (carried : Option Slot)
  | closed (fd : Slot)
  deriving DecidableEq, Repr

namespace Access

/-- The descriptor the call is made with has been assigned. -/
def Own : Access → Prop
  | .opened _ => True
  | .ioctl fd _ _ => fd.assigned
  | .closed fd => fd.assigned

instance : DecidablePred Own
  | .opened _ => .isTrue trivial
  | .ioctl fd _ _ => inferInstanceAs (Decidable (fd.assigned = true))
  | .closed fd => inferInstanceAs (Decidable (fd.assigned = true))

/-- The descriptor the call carries has been assigned. -/
def CarriesOwn : Access → Prop
  | .ioctl _ _ (some fd) => fd.assigned
  | _ => True

/-- What the call does to the open descriptors; closing a negative number fails. -/
def use : Access → Option (Use Int)
  | .opened fd => some (.acquire fd)
  | .ioctl .. => none
  | .closed fd => if fd.value < 0 then none else some (.release fd.value)

end Access

/-- The members the constructor and the destructor work with. -/
structure Members where
  mPaused : Bool := false
  mIsDriverStarted : Bool := false
  mEventThreadAlive : Bool := false
  afd : Slot
  ionfd : Slot
  mEmptyQueue : List BuffersAllocated := []
  mFilledQueue : List BuffersAllocated := []
  mBufPool : List BuffersAllocated := []
  log : List Access := []
  deriving DecidableEq, Repr

namespace Members

/-! ### Calls -/

def record (a : Access) (s : Members) : Members := { s with log := a :: s.log }

/-- A call has returned the descriptor `fd`, or a negative number. -/
def opens (fd : Int) (s : Members) : Members := if fd < 0 then s else s.record (.opened fd)

def ioctl (fd : Slot) (request : IoctlCode) (s : Members) : Members :=
  s.record (.ioctl fd request none)

def ioctlWith (fd : Slot) (request : IoctlCode) (carried : Slot) (s : Members) : Members :=
  s.record (.ioctl fd request (some carried))

def close (fd : Slot) (s : Members) : Members := s.record (.closed fd)

/-! ### The constructor -/

/-- `start` gives the driver up. -/
def closeDriver (s : Members) : Members := { s.close s.afd with afd := .of (-1) }

def startDriver (ok : Bool) (s : Members) : Status × Members :=
  let s := s.ioctl s.afd .audioStart
  if ok = false then (badValue, s) else (noError, { s with mIsDriverStarted := true })

def start (o : StartOutcome) (s : Members) : Status × Members :=
  if s.mPaused ∧ s.mIsDriverStarted then
    let s := { s with mPaused := false }
    (if o.resume then noError else unknownError, s.ioctl s.afd .audioPause)
  else
    let s := { s with mPaused := false }
    if 0 ≤ s.afd.value then
      let s := s.ioctl s.afd .audioGetConfig
      if o.getConfig = false then (badValue, s.closeDriver)
      else
        let s := s.ioctl s.afd .audioSetConfig
        if o.setConfig = false then (badValue, s.closeDriver) else startDriver o.start s
    else startDriver o.start s

/-- `memBufferAlloc`: what it stores behind `ion_fd`, and the session. -/
def memBufferAlloc (nSize : ℕ) (o : AllocOutcome) (s : Members) : Option Slot × Members :=
  let s := s.ioctl s.ionfd .ionAlloc
  if o.alloc = false then (none, s)
  else
    let s := s.ioctl s.ionfd .ionShare
    if o.share = false then (none, s.ioctl s.ionfd .ionFree)
    else
      let s := s.opens o.fd
      match o.mapped, o.localBuf with
      | none, _ => (none, (s.close (.of o.fd)).ioctl s.ionfd .ionFree)
      | some _, none => (none, (s.close (.of o.fd)).ioctl s.ionfd .ionFree)
      | some ion_buf, some local_buf =>
        let buf : BuffersAllocated :=
          { ion_handle := o.handle, localBuf := local_buf, memBuf := ion_buf, memBufsize := nSize
            memFd := o.fd }
        (some (.of o.fd),
          { s with mEmptyQueue := s.mEmptyQueue ++ [buf], mBufPool := s.mBufPool ++ [buf] })

def allocLoop : List AllocOutcome → Slot → Members → Members
  | [], _, s => s
  | o :: os, ion_fd, s =>
    let r := memBufferAlloc LPA_BUFFER_SIZE o s
    let ion_fd := r.1.getD ion_fd
    allocLoop os ion_fd (r.2.ioctlWith r.2.afd .registerIon ion_fd)

def bufferAlloc (ionfd junk : Int) (os : List AllocOutcome) (s : Members) : Members :=
  let s := { s with ionfd := .of ionfd }.opens ionfd
  if ionfd < 0 then s else allocLoop os (.unset junk) s

def openAudioSessionDevice (o : OpenOutcome) (s : Members) : Status × Members :=
  let s := { s with afd := .of o.afd }
  if o.afd < 0 then (unknownError, s)
  else (noError, bufferAlloc o.ionfd o.junk o.allocs (start o.start (s.opens o.afd)).2)

def createEventThread (s : Members) : Members := { s with mEventThreadAlive := true }

/-- The constructor of an object whose memory holds `afd` and `ionfd`. -/
def construct (format : AudioFormat) (channels : BitVec 32) (o : OpenOutcome) (afd ionfd : Int) :
    Status × Members :=
  let s : Members := { afd := .unset afd, ionfd := .unset ionfd }
  if format = .pcm16Bit ∧ (channels.cpop = 0 ∨ 2 < channels.cpop) then (badValue, s)
  else
    let r := openAudioSessionDevice o s
    (r.1, if r.1 = noError then r.2.createEventThread else r.2)

/-! ### The destructor -/

def requestAndWaitForEventThreadExit (s : Members) : Members :=
  if s.mEventThreadAlive then s.ioctl s.afd .audioAbortGetEvent else s

/-- What `bufferDeAlloc` does to one buffer. -/
def release (b : BuffersAllocated) (s : Members) : Members :=
  ((s.ioctlWith s.afd .deregisterIon (.of b.memFd)).close (.of b.memFd)).ioctl s.ionfd .ionFree

/-- The loop of `bufferDeAlloc` over a queue. -/
def releaseAll : List BuffersAllocated → Members → Members
  | [], s => s
  | b :: q, s => releaseAll q (s.release b)

def bufferDeAlloc (s : Members) : Members :=
  let s : Members := { releaseAll s.mEmptyQueue s with mEmptyQueue := [] }
  let s : Members := { releaseAll s.mFilledQueue s with mFilledQueue := [] }
  let s : Members := { s with mBufPool := [] }
  if 0 ≤ s.ionfd.value then { s.close s.ionfd with ionfd := .of (-1) } else s

def reset (s : Members) : Members :=
  let s := { s.ioctl s.afd .audioStop with mIsDriverStarted := false }
  let s := s.requestAndWaitForEventThreadExit.bufferDeAlloc
  s.close s.afd

/-- The destructor; the event thread may have ended by itself before. -/
def destruct (ended : Bool) (s : Members) : Members :=
  { s with mEventThreadAlive := s.mEventThreadAlive && !ended }.reset

/-- The calls of the constructor and the destructor. -/
def lifetime (format : AudioFormat) (channels : BitVec 32) (o : OpenOutcome) (afd ionfd : Int)
    (ended : Bool) : List Access :=
  ((construct format channels o afd ionfd).2.destruct ended).log

/-! ### The ways of the constructor -/

variable {format : AudioFormat} {channels : BitVec 32} {o : OpenOutcome}

theorem construct_of_bad (h : format = .pcm16Bit ∧ (channels.cpop = 0 ∨ 2 < channels.cpop))
    (o : OpenOutcome) (afd ionfd : Int) :
    construct format channels o afd ionfd =
      (badValue, { afd := .unset afd, ionfd := .unset ionfd }) :=
  if_pos h

theorem construct_of_closed
    (h : ¬(format = .pcm16Bit ∧ (channels.cpop = 0 ∨ 2 < channels.cpop))) (hd : o.afd < 0)
    (afd ionfd : Int) :
    construct format channels o afd ionfd =
      (unknownError, { afd := .of o.afd, ionfd := .unset ionfd }) := by
  have hop : openAudioSessionDevice o { afd := .unset afd, ionfd := .unset ionfd } =
      (unknownError, { afd := .of o.afd, ionfd := .unset ionfd }) := if_pos hd
  have hne : unknownError ≠ noError := by decide
  unfold construct
  rw [if_neg h]
  dsimp only
  rw [hop, if_neg hne]

theorem construct_of_open
    (h : ¬(format = .pcm16Bit ∧ (channels.cpop = 0 ∨ 2 < channels.cpop))) (hd : 0 ≤ o.afd)
    (afd ionfd : Int) :
    construct format channels o afd ionfd =
      (noError,
        (openAudioSessionDevice o { afd := .unset afd, ionfd := .unset ionfd }).2.createEventThread) := by
  have hop : (openAudioSessionDevice o { afd := .unset afd, ionfd := .unset ionfd }).1 = noError := by
    unfold openAudioSessionDevice
    rw [if_neg (Int.not_lt.2 hd)]
  unfold construct
  rw [if_neg h]
  dsimp only
  rw [if_pos hop, hop]

/-! ### The constructor of `Lpa.Session` -/

/-- The members that both models have. -/
structure Shows (s : Members) (t : AudioSessionOutLPA) : Prop where
  paused : t.mPaused = s.mPaused
  started : t.mIsDriverStarted = s.mIsDriverStarted
  afd : t.afd = s.afd.value
  empty : t.mEmptyQueue = s.mEmptyQueue
  filled : t.mFilledQueue = s.mFilledQueue
  pool : t.mBufPool = s.mBufPool

section

variable {s : Members} {t : AudioSessionOutLPA}

theorem shows_opens (h : Shows s t) (n : Int) : Shows (s.opens n) t := by
  unfold Members.opens
  split
  · exact h
  · exact ⟨h.paused, h.started, h.afd, h.empty, h.filled, h.pool⟩

theorem shows_startDriver (h : Shows s t) (ok : Bool) (now : Int) :
    Shows (startDriver ok s).2 (AudioSessionOutLPA.startDriver ok now t).2 := by
  unfold startDriver AudioSessionOutLPA.startDriver
  dsimp only
  split
  · exact ⟨h.paused, h.started, h.afd, h.empty, h.filled, h.pool⟩
  · exact ⟨h.paused, rfl, h.afd, h.empty, h.filled, h.pool⟩

theorem shows_start (h : Shows s t) (o : StartOutcome) (now : Int) :
    Shows (start o s).2 (AudioSessionOutLPA.start o now t).2 := by
  have hc : (t.mPaused ∧ t.mIsDriverStarted) ↔ (s.mPaused ∧ s.mIsDriverStarted) := by
    rw [h.paused, h.started]
  have ha : 0 ≤ t.afd ↔ 0 ≤ s.afd.value := by rw [h.afd]
  have hp : Shows { s with mPaused := false } { t with mPaused := false } :=
    ⟨rfl, h.started, h.afd, h.empty, h.filled, h.pool⟩
  have hd : ∀ s' : Members, ∀ t' : AudioSessionOutLPA, Shows s' t' → Shows s'.closeDriver t'.closeDriver :=
    fun _ _ h' => ⟨h'.paused, h'.started, rfl, h'.empty, h'.filled, h'.pool⟩
  have hr : ∀ s' : Members, ∀ t' : AudioSessionOutLPA, ∀ c : IoctlCode, ∀ e : Event, Shows s' t' →
      Shows (s'.ioctl s'.afd c) (t'.record e) :=
    fun _ _ _ _ h' => ⟨h'.paused, h'.started, h'.afd, h'.empty, h'.filled, h'.pool⟩
  unfold start AudioSessionOutLPA.start
  dsimp only
  by_cases hresume : s.mPaused ∧ s.mIsDriverStarted
  · rw [if_pos hresume, if_pos (hc.2 hresume)]
    exact hr _ _ _ _ hp
  · rw [if_neg hresume, if_neg fun ht => hresume (hc.1 ht)]
    by_cases hafd : 0 ≤ s.afd.value
    · rw [if_pos hafd, if_pos (ha.2 hafd)]
      split_ifs
      · exact hd _ _ (hr _ _ _ _ hp)
      · exact hd _ _ (hr _ _ _ _ (hr _ _ _ _ hp))
      · exact shows_startDriver (hr _ _ _ _ (hr _ _ _ _ hp)) _ _
    · rw [if_neg hafd, if_neg fun ht => hafd (ha.1 ht)]
      exact shows_startDriver hp _ _

theorem shows_memBufferAlloc (h : Shows s t) (nSize : ℕ) (o : AllocOutcome) :
    Shows (memBufferAlloc nSize o s).2 (AudioSessionOutLPA.memBufferAlloc nSize o t).2.2 := by
  have hs : Shows ((s.ioctl s.ionfd .ionAlloc).ioctl (s.ioctl s.ionfd .ionAlloc).ionfd .ionShare) t :=
    ⟨h.paused, h.started, h.afd, h.empty, h.filled, h.pool⟩
  have ho := shows_opens hs o.fd
  unfold memBufferAlloc AudioSessionOutLPA.memBufferAlloc
  dsimp only
  split_ifs
  · exact ⟨h.paused, h.started, h.afd, h.empty, h.filled, h.pool⟩
  · exact ⟨h.paused, h.started, h.afd, h.empty, h.filled, h.pool⟩
  · cases o.mapped with
    | none => exact ⟨ho.paused, ho.started, ho.afd, ho.empty, ho.filled, ho.pool⟩
    | some ion_buf =>
      cases o.localBuf with
      | none => exact ⟨ho.paused, ho.started, ho.afd, ho.empty, ho.filled, ho.pool⟩
      | some local_buf =>
        exact ⟨ho.paused, ho.started, ho.afd, congrArg (· ++ [_]) ho.empty, ho.filled,
          congrArg (· ++ [_]) ho.pool⟩

theorem shows_allocLoop (h : Shows s t) (os : List AllocOutcome) (ion_fd : Slot) (ion_fd' : Int) :
    Shows (allocLoop os ion_fd s) (AudioSessionOutLPA.allocLoop os ion_fd' t) := by
  induction os generalizing s t ion_fd ion_fd' with
  | nil => exact h
  | cons o os ih =>
    have hm := shows_memBufferAlloc h LPA_BUFFER_SIZE o
    rw [allocLoop, AudioSessionOutLPA.allocLoop]
    refine ih ?_ _ _
    exact ⟨hm.paused, hm.started, hm.afd, hm.empty, hm.filled, hm.pool⟩

theorem shows_bufferAlloc (h : Shows s t) (ionfd junk : Int) (os : List AllocOutcome) :
    Shows (bufferAlloc ionfd junk os s) (AudioSessionOutLPA.bufferAlloc ionfd junk os t) := by
  have h₀ : Shows { s with ionfd := .of ionfd } { t with ionfd := ionfd } :=
    ⟨h.paused, h.started, h.afd, h.empty, h.filled, h.pool⟩
  unfold bufferAlloc AudioSessionOutLPA.bufferAlloc
  dsimp only
  split_ifs
  · exact shows_opens h₀ ionfd
  · exact shows_allocLoop (shows_opens h₀ ionfd) os _ _

end

/-- The constructor with descriptors is the constructor of `Lpa.Session`: it returns the same status,
and once it has tried the driver the members are the same. -/
theorem construct_session (format : AudioFormat) (channels : BitVec 32) (samplingRate : ℕ)
    (o : OpenOutcome) (afd ionfd : Int) :
    (construct format channels o afd ionfd).1 =
        (AudioSessionOutLPA.construct format channels.cpop.toNat samplingRate o).1 ∧
      ((construct format channels o afd ionfd).1 ≠ badValue →
        Shows (construct format channels o afd ionfd).2
          (AudioSessionOutLPA.construct format channels.cpop.toNat samplingRate o).2) := by
  have hcount : (channels.cpop.toNat = 0 ∨ 2 < channels.cpop.toNat) ↔
      (channels.cpop = 0 ∨ 2 < channels.cpop) := by
    bv_omega
  by_cases hbad : format = .pcm16Bit ∧ (channels.cpop = 0 ∨ 2 < channels.cpop)
  · have hs : AudioSessionOutLPA.construct format channels.cpop.toNat samplingRate o =
        (badValue, { mSampleRate := samplingRate, mChannels := channels.cpop.toNat }) :=
      if_pos ⟨hbad.1, hcount.2 hbad.2⟩
    rw [construct_of_bad hbad, hs]
    exact ⟨rfl, fun h => absurd rfl h⟩
  · have hs : AudioSessionOutLPA.construct format channels.cpop.toNat samplingRate o =
        AudioSessionOutLPA.openAudioSessionDevice o
          { mSampleRate := samplingRate, mChannels := channels.cpop.toNat } :=
      if_neg fun h => hbad ⟨h.1, hcount.1 h.2⟩
    rw [hs]
    by_cases hd : 0 ≤ o.afd
    · rw [construct_of_open hbad hd]
      unfold openAudioSessionDevice AudioSessionOutLPA.openAudioSessionDevice
      dsimp only
      rw [if_neg (Int.not_lt.2 hd), if_neg (Int.not_lt.2 hd)]
      have h₀ : Shows { afd := .of o.afd, ionfd := .unset ionfd }
          { mSampleRate := samplingRate, mChannels := channels.cpop.toNat, afd := o.afd } :=
        ⟨rfl, rfl, rfl, rfl, rfl, rfl⟩
      have h := shows_bufferAlloc (shows_start (shows_opens h₀ o.afd) o.start o.now) o.ionfd o.junk o.allocs
      exact ⟨rfl, fun _ => ⟨h.paused, h.started, h.afd, h.empty, h.filled, h.pool⟩⟩
    · have hneg : o.afd < 0 := Int.not_le.1 hd
      rw [construct_of_closed hbad hneg]
      unfold AudioSessionOutLPA.openAudioSessionDevice
      dsimp only
      rw [if_pos hneg]
      exact ⟨rfl, fun _ => ⟨rfl, rfl, rfl, rfl, rfl, rfl⟩⟩

/-! ### What is open -/

/-- A number that `open` or `ION_IOC_SHARE` has returned stands for a descriptor if it is not
negative. -/
def holding (fd : Int) : List Int := if fd < 0 then [] else [fd]

/-- The shared descriptors of the buffers. -/
def shared (q : List BuffersAllocated) : List Int := q.flatMap fun b => holding b.memFd

/-- So far every call was made with an assigned descriptor, and the descriptors `l` are open. -/
structure Sound (l : List Int) (s : Members) : Prop where
  own : ∀ a ∈ s.log, a.Own
  holds : Holds (s.log.filterMap Access.use) l

variable {l l' : List Int} {s s' : Members} {fd : Slot}

theorem Sound.of_log (h : Sound l s) (hl : s'.log = s.log) : Sound l s' := by
  refine ⟨?_, ?_⟩
  · rw [hl]
    exact h.own
  · rw [hl]
    exact h.holds

theorem Sound.perm (h : Sound l s) (hp : l.Perm l') : Sound l' s := ⟨h.own, h.holds.perm hp⟩

/-- A call that opens and closes nothing. -/
theorem Sound.record (h : Sound l s) {a : Access} (ha : a.Own) (hu : a.use = none) :
    Sound l (s.record a) := by
  refine ⟨List.forall_mem_cons.2 ⟨ha, h.own⟩, ?_⟩
  have hl : (s.record a).log.filterMap Access.use = s.log.filterMap Access.use :=
    List.filterMap_cons_none hu
  rw [hl]
  exact h.holds

theorem Sound.ioctl (h : Sound l s) (hfd : fd.assigned) (request : IoctlCode) :
    Sound l (s.ioctl fd request) :=
  h.record hfd rfl

theorem Sound.ioctlWith (h : Sound l s) (hfd : fd.assigned) (request : IoctlCode)
    (carried : Slot) : Sound l (s.ioctlWith fd request carried) :=
  h.record hfd rfl

theorem Sound.opens (h : Sound l s) (n : Int) : Sound (holding n ++ l) (s.opens n) := by
  unfold Members.opens holding
  split
  · exact h
  · exact ⟨List.forall_mem_cons.2 ⟨trivial, h.own⟩, h.holds.acquire n⟩

theorem Sound.close (fd : Slot) (h : Sound (holding fd.value ++ l) s) (hfd : fd.assigned) :
    Sound l (s.close fd) := by
  by_cases hneg : fd.value < 0
  · rw [holding, if_pos hneg] at h
    exact h.record hfd (if_pos hneg)
  · rw [holding, if_neg hneg] at h
    refine ⟨List.forall_mem_cons.2 ⟨hfd, h.own⟩, ?_⟩
    have hu : (Access.closed fd).use = some (.release fd.value) := if_neg hneg
    have hl : (s.close fd).log.filterMap Access.use =
        .release fd.value :: s.log.filterMap Access.use := List.filterMap_cons_some hu
    rw [hl]
    exact h.holds.release

theorem shared_append (q q' : List BuffersAllocated) : shared (q ++ q') = shared q ++ shared q' :=
  List.flatMap_append

/-! ### Construction -/

/-- What the code that works on the driver or on one buffer leaves alone. -/
structure SameMembers (s s' : Members) : Prop where
  ionfd : s'.ionfd = s.ionfd
  filled : s'.mFilledQueue = s.mFilledQueue

theorem sameMembers_opens (s : Members) (n : Int) :
    SameMembers s (s.opens n) ∧ (s.opens n).afd = s.afd ∧ (s.opens n).mEmptyQueue = s.mEmptyQueue := by
  unfold Members.opens
  split <;> exact ⟨⟨rfl, rfl⟩, rfl, rfl⟩

theorem sameMembers_startDriver (ok : Bool) (s : Members) :
    SameMembers s (startDriver ok s).2 ∧ (startDriver ok s).2.afd = s.afd ∧
      (startDriver ok s).2.mEmptyQueue = s.mEmptyQueue := by
  unfold startDriver
  dsimp only
  split <;> exact ⟨⟨rfl, rfl⟩, rfl, rfl⟩

theorem sameMembers_start (o : StartOutcome) (s : Members) :
    SameMembers s (start o s).2 ∧ (start o s).2.mEmptyQueue = s.mEmptyQueue := by
  unfold start
  dsimp only
  split_ifs
  · exact ⟨⟨rfl, rfl⟩, rfl⟩
  · exact ⟨⟨rfl, rfl⟩, rfl⟩
  · exact ⟨⟨rfl, rfl⟩, rfl⟩
  · exact ⟨⟨rfl, rfl⟩, rfl⟩
  · exact ⟨⟨(sameMembers_startDriver _ _).1.ionfd, (sameMembers_startDriver _ _).1.filled⟩,
      (sameMembers_startDriver _ _).2.2⟩
  · exact ⟨⟨(sameMembers_startDriver _ _).1.ionfd, (sameMembers_startDriver _ _).1.filled⟩,
      (sameMembers_startDriver _ _).2.2⟩

theorem sound_startDriver (ok : Bool) (ha : s.afd.assigned) (h : Sound l s) :
    Sound l (startDriver ok s).2 := by
  unfold startDriver
  dsimp only
  split
  · exact h.ioctl ha _
  · exact (h.ioctl ha _).of_log rfl

/-- `start` keeps the driver or gives it up. -/
theorem sound_start (o : StartOutcome) (ha : s.afd.assigned)
    (h : Sound (holding s.afd.value ++ l) s) :
    (start o s).2.afd.assigned ∧ Sound (holding (start o s).2.afd.value ++ l) (start o s).2 := by
  have hp : Sound (holding s.afd.value ++ l) { s with mPaused := false } := h.of_log rfl
  have hclose : ∀ s' : Members, s'.afd = s.afd → Sound (holding s.afd.value ++ l) s' →
      Sound l s'.closeDriver := by
    intro s' he h'
    have ha' : s'.afd.assigned := he ▸ ha
    rw [← he] at h'
    exact (Sound.close s'.afd h' ha').of_log rfl
  have hdriver : ∀ s' : Members, s'.afd = s.afd → Sound (holding s.afd.value ++ l) s' →
      (startDriver o.start s').2.afd.assigned ∧
        Sound (holding (startDriver o.start s').2.afd.value ++ l) (startDriver o.start s').2 := by
    intro s' he h'
    rw [(sameMembers_startDriver o.start s').2.1, he]
    exact ⟨ha, sound_startDriver o.start (he ▸ ha) h'⟩
  unfold start
  dsimp only
  split_ifs
  · exact ⟨ha, hp.ioctl ha _⟩
  · exact ⟨ha, hp.ioctl ha _⟩
  · exact ⟨rfl, hclose _ rfl (hp.ioctl ha _)⟩
  · exact ⟨rfl, hclose _ rfl ((hp.ioctl ha _).ioctl ha _)⟩
  · exact hdriver _ rfl ((hp.ioctl ha _).ioctl ha _)
  · exact hdriver _ rfl hp

theorem memBufferAlloc_same (nSize : ℕ) (o : AllocOutcome) (s : Members) :
    SameMembers s (memBufferAlloc nSize o s).2 ∧ (memBufferAlloc nSize o s).2.afd = s.afd := by
  unfold memBufferAlloc
  dsimp only
  have ho := sameMembers_opens ((s.ioctl s.ionfd .ionAlloc).ioctl s.ionfd .ionShare) o.fd
  split_ifs
  · exact ⟨⟨rfl, rfl⟩, rfl⟩
  · exact ⟨⟨rfl, rfl⟩, rfl⟩
  · split
    · exact ⟨⟨ho.1.ionfd, ho.1.filled⟩, ho.2.1⟩
    · exact ⟨⟨ho.1.ionfd, ho.1.filled⟩, ho.2.1⟩
    · exact ⟨⟨ho.1.ionfd, ho.1.filled⟩, ho.2.1⟩

/-- An allocation that fails closes the shared descriptor, and one that succeeds keeps it with the
new buffer. -/
theorem sound_memBufferAlloc (nSize : ℕ) (o : AllocOutcome) (hi : s.ionfd.assigned)
    (h : Sound (shared s.mEmptyQueue ++ l) s) :
    Sound (shared (memBufferAlloc nSize o s).2.mEmptyQueue ++ l) (memBufferAlloc nSize o s).2 := by
  have h₁ := h.ioctl hi .ionAlloc
  have h₂ : Sound (shared s.mEmptyQueue ++ l)
      ((s.ioctl s.ionfd .ionAlloc).ioctl (s.ioctl s.ionfd .ionAlloc).ionfd .ionShare) := h₁.ioctl hi _
  have h₃ := h₂.opens o.fd
  have ho := sameMembers_opens
    ((s.ioctl s.ionfd .ionAlloc).ioctl (s.ioctl s.ionfd .ionAlloc).ionfd .ionShare) o.fd
  have hi' := ho.1.ionfd ▸ hi
  have hq := congrArg shared ho.2.2
  unfold memBufferAlloc
  dsimp only
  split_ifs
  · exact h₁
  · exact h₂.ioctl hi _
  · split
    · have hc := (Sound.close (.of o.fd) h₃ rfl).ioctl hi' .ionFree
      exact hc.perm (.of_eq (congrArg (· ++ l) hq.symm))
    · have hc := (Sound.close (.of o.fd) h₃ rfl).ioctl hi' .ionFree
      exact hc.perm (.of_eq (congrArg (· ++ l) hq.symm))
    · refine (h₃.perm ?_).of_log rfl
      rw [shared_append, hq, List.append_assoc]
      refine List.Perm.trans ?_ (List.perm_append_comm_assoc _ _ _)
      exact .of_eq (congrArg (· ++ _) (List.append_nil _).symm)

theorem sound_allocLoop (os : List AllocOutcome) (ion_fd : Slot) (ha : s.afd.assigned)
    (hi : s.ionfd.assigned) (h : Sound (shared s.mEmptyQueue ++ l) s) :
    (allocLoop os ion_fd s).afd = s.afd ∧ SameMembers s (allocLoop os ion_fd s) ∧
      Sound (shared (allocLoop os ion_fd s).mEmptyQueue ++ l) (allocLoop os ion_fd s) := by
  induction os generalizing s ion_fd with
  | nil => exact ⟨rfl, ⟨rfl, rfl⟩, h⟩
  | cons o os ih =>
    obtain ⟨hsame, hafd⟩ := memBufferAlloc_same LPA_BUFFER_SIZE o s
    have hs := sound_memBufferAlloc LPA_BUFFER_SIZE o hi h
    have ha' : (memBufferAlloc LPA_BUFFER_SIZE o s).2.afd.assigned := hafd ▸ ha
    have hi' : (memBufferAlloc LPA_BUFFER_SIZE o s).2.ionfd.assigned := hsame.ionfd ▸ hi
    obtain ⟨h₁, h₂, h₃⟩ := ih ((memBufferAlloc LPA_BUFFER_SIZE o s).1.getD ion_fd)
      (s := ((memBufferAlloc LPA_BUFFER_SIZE o s).2.ioctlWith
        (memBufferAlloc LPA_BUFFER_SIZE o s).2.afd .registerIon
        ((memBufferAlloc LPA_BUFFER_SIZE o s).1.getD ion_fd))) ha' hi' (hs.ioctlWith ha' _ _)
    exact ⟨h₁.trans hafd, ⟨h₂.ionfd.trans hsame.ionfd, h₂.filled.trans hsame.filled⟩, h₃⟩

/-- After `bufferAlloc` the driver, the ION device and the shared descriptors of the buffers are
open. -/
theorem sound_bufferAlloc (ionfd junk : Int) (os : List AllocOutcome) (ha : s.afd.assigned)
    (hq : s.mEmptyQueue = []) (h : Sound (holding s.afd.value) s) :
    (bufferAlloc ionfd junk os s).afd = s.afd ∧ (bufferAlloc ionfd junk os s).ionfd = .of ionfd ∧
      (bufferAlloc ionfd junk os s).mFilledQueue = s.mFilledQueue ∧
      Sound (shared (bufferAlloc ionfd junk os s).mEmptyQueue ++ (holding ionfd ++ holding s.afd.value))
        (bufferAlloc ionfd junk os s) := by
  have hset : Sound (holding s.afd.value) { s with ionfd := .of ionfd } := h.of_log rfl
  have hopen := hset.opens ionfd
  obtain ⟨hsame, hafd, hempty⟩ := sameMembers_opens { s with ionfd := .of ionfd } ionfd
  have he : shared ({ s with ionfd := .of ionfd }.opens ionfd).mEmptyQueue = [] := by
    rw [hempty, hq]
    rfl
  have hall : Sound (shared ({ s with ionfd := .of ionfd }.opens ionfd).mEmptyQueue ++
      (holding ionfd ++ holding s.afd.value)) ({ s with ionfd := .of ionfd }.opens ionfd) := by
    rw [he]
    exact hopen
  unfold bufferAlloc
  dsimp only
  split_ifs
  · exact ⟨hafd, hsame.ionfd, hsame.filled, hall⟩
  · have ha' : ({ s with ionfd := .of ionfd }.opens ionfd).afd.assigned := by
      rw [hafd]
      exact ha
    have hi' : ({ s with ionfd := .of ionfd }.opens ionfd).ionfd.assigned := by
      rw [hsame.ionfd]
      rfl
    obtain ⟨h₁, h₂, h₃⟩ := sound_allocLoop os (.unset junk) ha' hi' hall
    exact ⟨h₁.trans hafd, h₂.ionfd.trans hsame.ionfd, h₂.filled.trans hsame.filled, h₃⟩

/-- What a constructor that opens the driver leaves. -/
theorem sound_openAudioSessionDevice (o : OpenOutcome) (hd : 0 ≤ o.afd) (afd ionfd : Int) :
    ∃ s, openAudioSessionDevice o { afd := .unset afd, ionfd := .unset ionfd } = (noError, s) ∧
      s.afd.assigned ∧ s.ionfd.assigned ∧ s.mFilledQueue = [] ∧
      Sound (shared s.mEmptyQueue ++ (holding s.ionfd.value ++ holding s.afd.value)) s := by
  have h₀ : Sound [] { afd := .of o.afd, ionfd := .unset ionfd } := ⟨by simp, holds_nil⟩
  obtain ⟨hsame, hafd, hempty⟩ := sameMembers_opens { afd := .of o.afd, ionfd := .unset ionfd } o.afd
  have ha : ({ afd := .of o.afd, ionfd := .unset ionfd : Members }.opens o.afd).afd.assigned := by
    rw [hafd]
    rfl
  have h₁ := h₀.opens o.afd
  have he : holding o.afd =
      holding ({ afd := .of o.afd, ionfd := .unset ionfd : Members }.opens o.afd).afd.value := by
    rw [hafd]
    rfl
  rw [he] at h₁
  obtain ⟨ha₂, h₂⟩ := sound_start o.start ha h₁
  rw [List.append_nil] at h₂
  obtain ⟨hs, hq⟩ := sameMembers_start o.start
    ({ afd := .of o.afd, ionfd := .unset ionfd : Members }.opens o.afd)
  obtain ⟨ha₃, hi₃, hf₃, h₃⟩ := sound_bufferAlloc o.ionfd o.junk o.allocs ha₂ (hq.trans hempty) h₂
  refine ⟨_, if_neg (Int.not_lt.2 hd), ?_, ?_, ?_, ?_⟩
  · rw [ha₃]
    exact ha₂
  · rw [hi₃]
    rfl
  · rw [hf₃, hs.filled, hsame.filled]
  · rw [ha₃, hi₃]
    exact h₃

/-! ### Destruction -/

theorem releaseAll_same (q : List BuffersAllocated) (s : Members) :
    (releaseAll q s).afd = s.afd ∧ (releaseAll q s).ionfd = s.ionfd ∧
      (releaseAll q s).mFilledQueue = s.mFilledQueue := by
  induction q generalizing s with
  | nil => exact ⟨rfl, rfl, rfl⟩
  | cons b q ih => exact ih (s.release b)

/-- The loop of `bufferDeAlloc` closes the shared descriptors of its queue. -/
theorem sound_releaseAll {q : List BuffersAllocated} (ha : s.afd.assigned)
    (hi : q = [] ∨ s.ionfd.assigned) (h : Sound (shared q ++ l) s) : Sound l (releaseAll q s) := by
  induction q generalizing s with
  | nil => exact h
  | cons b q ih =>
    have hb : s.ionfd.assigned := hi.resolve_left (List.cons_ne_nil b q)
    have hq : Sound (holding b.memFd ++ (shared q ++ l)) s :=
      h.perm (.of_eq (List.append_assoc (holding b.memFd) (shared q) l))
    have hd := hq.ioctlWith ha .deregisterIon (.of b.memFd)
    exact ih ha (.inr hb) ((Sound.close (.of b.memFd) hd rfl).ioctl hb .ionFree)

theorem bufferDeAlloc_afd (s : Members) : s.bufferDeAlloc.afd = s.afd := by
  have h := (releaseAll_same s.mEmptyQueue s).1
  unfold bufferDeAlloc
  dsimp only
  split_ifs
  · exact (releaseAll_same _ _).1.trans h
  · exact (releaseAll_same _ _).1.trans h

theorem sound_bufferDeAlloc (ha : s.afd.assigned)
    (hi : s.ionfd.assigned ∨ s.ionfd.value < 0 ∧ s.mEmptyQueue = [])
    (hf : s.mFilledQueue = [])
    (h : Sound (shared s.mEmptyQueue ++ (holding s.ionfd.value ++ l)) s) :
    Sound l s.bufferDeAlloc := by
  obtain ⟨hafd, hion, hfill⟩ := releaseAll_same s.mEmptyQueue s
  have hi' : s.mEmptyQueue = [] ∨ s.ionfd.assigned := hi.symm.imp_left And.right
  have h₁ := sound_releaseAll ha hi' h
  unfold bufferDeAlloc
  dsimp only
  rw [hfill, hf]
  split_ifs with hneg
  · have hset : s.ionfd.assigned := by
      refine hi.resolve_right fun hlt => ?_
      exact absurd (hion ▸ hneg : 0 ≤ s.ionfd.value) (Int.not_le.2 hlt.1)
    rw [← hion] at h₁ hset
    exact (Sound.close _ (h₁.of_log rfl) hset).of_log rfl
  · have hlt : s.ionfd.value < 0 := by
      rw [← hion]
      exact Int.not_le.1 hneg
    rw [holding, if_pos hlt] at h₁
    exact h₁.of_log rfl

/-- The destructor closes what is open. -/
theorem sound_destruct (ended : Bool) (ha : s.afd.assigned)
    (hi : s.ionfd.assigned ∨ s.ionfd.value < 0 ∧ s.mEmptyQueue = [])
    (hf : s.mFilledQueue = [])
    (h : Sound (shared s.mEmptyQueue ++ (holding s.ionfd.value ++ holding s.afd.value)) s) :
    Sound [] (s.destruct ended) := by
  have h₁ := h.ioctl ha .audioStop
  unfold destruct reset requestAndWaitForEventThreadExit
  dsimp only
  split_ifs
  all_goals
    refine Sound.close _ ?_ (by rw [bufferDeAlloc_afd]; exact ha)
    rw [bufferDeAlloc_afd, List.append_nil]
    refine sound_bufferDeAlloc ha hi hf ?_
  · exact (h₁.ioctl ha _).of_log rfl
  · exact h₁.of_log rfl

/-- The calls are made with descriptors that the session has assigned, and every descriptor that is
opened is closed once. -/
structure UsesOwn (log : List Access) : Prop where
  own : ∀ a ∈ log, a.Own
  settled : Settled (log.filterMap Access.use)

/-- The calls are made with descriptors that the session has assigned, and carry such descriptors, and
every descriptor that is opened is closed once. -/
structure ClosesOwn (log : List Access) : Prop extends UsesOwn log where
  carried : ∀ a ∈ log, a.CarriesOwn

theorem usesOwn_of_sound (h : Sound [] s) : UsesOwn s.log := ⟨h.own, h.holds.settled⟩

/-- The destructor closes `afd` whatever it is. -/
theorem closed_mem_destruct (ended : Bool) (s : Members) :
    Access.closed s.afd ∈ (s.destruct ended).log := by
  have h : ∀ t : Members, t.requestAndWaitForEventThreadExit.afd = t.afd := by
    intro t
    unfold requestAndWaitForEventThreadExit
    split <;> rfl
  unfold destruct reset
  dsimp only
  rw [bufferDeAlloc_afd, h]
  exact List.mem_cons_self ..

/-- Without a driver the destructor looks at an `ionfd` that nobody has assigned. -/
theorem destruct_unopened (ended : Bool) (fd : Slot) (ionfd : Int) (h : 0 ≤ ionfd) :
    Access.closed (.unset ionfd) ∈ (({ afd := fd, ionfd := .unset ionfd : Members }).destruct ended).log := by
  have hb : ∀ log : List Access,
      ({ afd := fd, ionfd := .unset ionfd, log := log : Members }).bufferDeAlloc.log =
        .closed (.unset ionfd) :: log := by
    intro log
    unfold bufferDeAlloc
    exact congrArg Members.log (if_pos h)
  have hd : (({ afd := fd, ionfd := .unset ionfd : Members }).destruct ended).log =
      .closed (bufferDeAlloc _).afd :: (bufferDeAlloc _).log := rfl
  rw [hd]
  refine List.mem_cons_of_mem _ ?_
  exact (hb [.ioctl fd .audioStop none]) ▸ List.mem_cons_self ..

theorem channels_ok_iff (channels : BitVec 32) :
    ¬(channels.cpop = 0 ∨ 2 < channels.cpop) ↔ channels.cpop = 1 ∨ channels.cpop = 2 := by
  bv_omega

/-! ### What the calls carry -/

/-- The calls carry assigned descriptors. -/
def Carries (s : Members) : Prop := ∀ a ∈ s.log, a.CarriesOwn

theorem carries_record (s : Members) (a : Access) :
    Carries (s.record a) ↔ a.CarriesOwn ∧ Carries s := List.forall_mem_cons

theorem carries_ioctl (fd : Slot) (request : IoctlCode) (s : Members) :
    Carries (s.ioctl fd request) ↔ Carries s :=
  (carries_record s _).trans (and_iff_right trivial)

theorem carries_close (fd : Slot) (s : Members) : Carries (s.close fd) ↔ Carries s :=
  (carries_record s _).trans (and_iff_right trivial)

theorem carries_ioctlWith (fd : Slot) (request : IoctlCode) (carried : Slot) (s : Members) :
    Carries (s.ioctlWith fd request carried) ↔ carried.assigned = true ∧ Carries s :=
  carries_record s _

theorem carries_opens (n : Int) (s : Members) : Carries (s.opens n) ↔ Carries s := by
  unfold Members.opens
  split
  · exact Iff.rfl
  · exact (carries_record s _).trans (and_iff_right trivial)

theorem carries_closeDriver (s : Members) : Carries s.closeDriver ↔ Carries s :=
  carries_close s.afd s

theorem carries_startDriver (ok : Bool) (s : Members) :
    Carries (startDriver ok s).2 ↔ Carries s := by
  unfold startDriver
  dsimp only
  split
  · exact carries_ioctl _ _ s
  · exact carries_ioctl _ _ s

theorem carries_start (o : StartOutcome) (s : Members) : Carries (start o s).2 ↔ Carries s := by
  unfold start
  dsimp only
  split_ifs
  · exact carries_ioctl _ _ _
  · exact carries_ioctl _ _ _
  · rw [carries_closeDriver, carries_ioctl]
    exact Iff.rfl
  · rw [carries_closeDriver, carries_ioctl, carries_ioctl]
    exact Iff.rfl
  · rw [carries_startDriver, carries_ioctl, carries_ioctl]
    exact Iff.rfl
  · rw [carries_startDriver]
    exact Iff.rfl

/-- The buffer is allocated. -/
def Complete (o : AllocOutcome) : Prop :=
  o.alloc = true ∧ o.share = true ∧ o.mapped.isSome = true ∧ o.localBuf.isSome = true

instance : DecidablePred Complete := fun o =>
  inferInstanceAs (Decidable (o.alloc = true ∧ o.share = true ∧ o.mapped.isSome = true ∧
    o.localBuf.isSome = true))

theorem carries_memBufferAlloc (nSize : ℕ) (o : AllocOutcome) (s : Members) :
    Carries (memBufferAlloc nSize o s).2 ↔ Carries s := by
  unfold memBufferAlloc
  dsimp only
  split_ifs
  · rw [carries_ioctl]
  · rw [carries_ioctl, carries_ioctl, carries_ioctl]
  · split
    · rw [carries_ioctl, carries_close, carries_opens, carries_ioctl, carries_ioctl]
    · rw [carries_ioctl, carries_close, carries_opens, carries_ioctl, carries_ioctl]
    · refine (carries_opens _ _).trans ?_
      rw [carries_ioctl, carries_ioctl]

/-- `*ion_fd` is assigned if the buffer is allocated, and only then. -/
theorem memBufferAlloc_fst (nSize : ℕ) (o : AllocOutcome) (s : Members) :
    (memBufferAlloc nSize o s).1 = if Complete o then some (.of o.fd) else none := by
  obtain ⟨alloc, handle, share, fd, mapped, localBuf, register⟩ := o
  cases alloc with
  | false => rfl
  | true =>
    cases share with
    | false => rfl
    | true =>
      cases mapped with
      | none => rfl
      | some ion_buf => cases localBuf <;> rfl

/-- Nothing that an earlier call has carried is taken back. -/
theorem Carries.of_allocLoop {os : List AllocOutcome} {ion_fd : Slot}
    (h : Carries (allocLoop os ion_fd s)) : Carries s := by
  induction os generalizing s ion_fd with
  | nil => exact h
  | cons o os ih => exact (carries_memBufferAlloc _ o s).1 ((carries_record _ _).1 (ih h)).2

theorem carries_allocLoop (os : List AllocOutcome) {ion_fd : Slot} (hset : ion_fd.assigned)
    (s : Members) : Carries (allocLoop os ion_fd s) ↔ Carries s := by
  induction os generalizing s ion_fd with
  | nil => exact Iff.rfl
  | cons o os ih =>
    have hset' : ((memBufferAlloc LPA_BUFFER_SIZE o s).1.getD ion_fd).assigned := by
      rw [memBufferAlloc_fst]
      split
      · rfl
      · exact hset
    refine (ih hset' _).trans ((carries_record _ _).trans ?_)
    rw [carries_memBufferAlloc]
    exact and_iff_right hset'

/-- With `ion_fd` unassigned the first allocation decides. -/
theorem carries_allocLoop_unset (os : List AllocOutcome) (junk : Int) (s : Members) :
    Carries (allocLoop os (.unset junk) s) ↔ Carries s ∧ ∀ o ∈ os.head?, Complete o := by
  cases os with
  | nil => exact (and_iff_left (by simp)).symm
  | cons o os =>
    have hhead : (∀ o' ∈ (o :: os).head?, Complete o') ↔ Complete o := by simp
    rw [hhead, allocLoop, memBufferAlloc_fst]
    by_cases hc : Complete o
    · rw [if_pos hc, Option.getD_some, carries_allocLoop os rfl, carries_ioctlWith, carries_memBufferAlloc]
      exact ⟨fun h => ⟨h.2, hc⟩, fun h => ⟨rfl, h.1⟩⟩
    · rw [if_neg hc, Option.getD_none]
      refine iff_of_false ?_ fun h => hc h.2
      intro h
      exact Bool.false_ne_true ((carries_ioctlWith _ _ _ _).1 h.of_allocLoop).1

theorem carries_bufferAlloc (ionfd junk : Int) (os : List AllocOutcome) (s : Members) :
    Carries (bufferAlloc ionfd junk os s) ↔
      Carries s ∧ (0 ≤ ionfd → ∀ o ∈ os.head?, Complete o) := by
  have h : Carries ({ s with ionfd := .of ionfd }.opens ionfd) ↔ Carries s := carries_opens _ _
  unfold bufferAlloc
  dsimp only
  split_ifs with hi
  · rw [h]
    exact (and_iff_left fun hpos => absurd hi (Int.not_lt.2 hpos)).symm
  · rw [carries_allocLoop_unset, h]
    exact and_congr_right fun _ => ⟨fun hall _ => hall, fun hall => hall (Int.not_lt.1 hi)⟩

theorem carries_releaseAll (q : List BuffersAllocated) (s : Members) :
    Carries (releaseAll q s) ↔ Carries s := by
  induction q generalizing s with
  | nil => exact Iff.rfl
  | cons b q ih =>
    rw [releaseAll, ih, release, carries_ioctl, carries_close, carries_ioctlWith]
    exact and_iff_right rfl

theorem carries_bufferDeAlloc (s : Members) : Carries s.bufferDeAlloc ↔ Carries s := by
  have h := (carries_releaseAll (releaseAll s.mEmptyQueue s).mFilledQueue
    { releaseAll s.mEmptyQueue s with mEmptyQueue := [] }).trans (carries_releaseAll s.mEmptyQueue s)
  unfold bufferDeAlloc
  dsimp only
  split_ifs
  · exact (carries_close _ _).trans h
  · exact h

theorem carries_destruct (ended : Bool) (s : Members) : Carries (s.destruct ended) ↔ Carries s := by
  unfold destruct reset
  dsimp only
  rw [carries_close, carries_bufferDeAlloc]
  unfold requestAndWaitForEventThreadExit
  split
  · exact (carries_ioctl _ _ _).trans (carries_ioctl _ _ _)
  · exact carries_ioctl _ _ _

/-- The calls carry assigned descriptors unless the driver and the ION device open and the first
buffer is not allocated. -/
theorem carries_iff (format : AudioFormat) (channels : BitVec 32) (o : OpenOutcome)
    (afd ionfd : Int) (ended : Bool) :
    (∀ a ∈ lifetime format channels o afd ionfd ended, a.CarriesOwn) ↔
      ((format = .pcm16Bit → channels.cpop = 1 ∨ channels.cpop = 2) → 0 ≤ o.afd → 0 ≤ o.ionfd →
        ∀ b ∈ o.allocs.head?, Complete b) := by
  have hempty : ∀ fd fd' : Slot, Carries { afd := fd, ionfd := fd' } := fun _ _ a ha => by cases ha
  refine (carries_destruct ended _).trans ?_
  by_cases hbad : format = .pcm16Bit ∧ (channels.cpop = 0 ∨ 2 < channels.cpop)
  · rw [construct_of_bad hbad]
    refine iff_of_true (hempty _ _) fun h => ?_
    exact absurd hbad.2 ((channels_ok_iff channels).2 (h hbad.1))
  · have hok : format = .pcm16Bit → channels.cpop = 1 ∨ channels.cpop = 2 := by
      intro hf
      exact (channels_ok_iff channels).1 fun hc => hbad ⟨hf, hc⟩
    by_cases hd : 0 ≤ o.afd
    · rw [construct_of_open hbad hd]
      have hop : Carries (openAudioSessionDevice o { afd := .unset afd, ionfd := .unset ionfd }).2 ↔
          (0 ≤ o.ionfd → ∀ b ∈ o.allocs.head?, Complete b) := by
        unfold openAudioSessionDevice
        rw [if_neg (Int.not_lt.2 hd)]
        refine (carries_bufferAlloc _ _ _ _).trans (and_iff_right ?_)
        exact (carries_start _ _).2 ((carries_opens _ _).2 (hempty _ _))
      refine hop.trans ?_
      exact ⟨fun h _ _ => h, fun h => h hok hd⟩
    · rw [construct_of_closed hbad (Int.not_le.1 hd)]
      exact iff_of_true (hempty _ _) fun _ h => absurd h hd

/-! ### The session -/

theorem usesOwn_lifetime_iff (format : AudioFormat) (channels : BitVec 32) (o : OpenOutcome)
    (afd ionfd : Int) (ended : Bool) :
    UsesOwn (lifetime format channels o afd ionfd ended) ↔
      (format = .pcm16Bit → channels.cpop = 1 ∨ channels.cpop = 2) ∧ (0 ≤ o.afd ∨ ionfd < 0) := by
  unfold lifetime
  by_cases hbad : format = .pcm16Bit ∧ (channels.cpop = 0 ∨ 2 < channels.cpop)
  · rw [construct_of_bad hbad]
    refine iff_of_false ?_ fun h => (channels_ok_iff channels).2 (h.1 hbad.1) hbad.2
    intro h
    exact Bool.false_ne_true (h.own _ (closed_mem_destruct ended _))
  · have hok : format = .pcm16Bit → channels.cpop = 1 ∨ channels.cpop = 2 := by
      intro hf
      exact (channels_ok_iff channels).1 fun hc => hbad ⟨hf, hc⟩
    by_cases hd : 0 ≤ o.afd
    · obtain ⟨s, hs, ha, hi, hf, h⟩ := sound_openAudioSessionDevice o hd afd ionfd
      rw [construct_of_open hbad hd, hs]
      refine iff_of_true (usesOwn_of_sound ?_) ⟨hok, .inl hd⟩
      exact sound_destruct ended ha (.inl hi) hf (h.of_log rfl)
    · have hneg : o.afd < 0 := Int.not_le.1 hd
      rw [construct_of_closed hbad hneg]
      by_cases hi : ionfd < 0
      · refine iff_of_true (usesOwn_of_sound ?_) ⟨hok, .inr hi⟩
        refine sound_destruct ended rfl (.inr ⟨hi, rfl⟩) rfl ⟨by simp, ?_⟩
        have he : shared [] ++ (holding ionfd ++ holding o.afd) = [] := by
          rw [holding, holding, if_pos hi, if_pos hneg]
          rfl
        exact he.symm ▸ holds_nil
      · refine iff_of_false ?_ fun h => h.2.elim hd hi
        intro h
        exact Bool.false_ne_true (h.own _ (destruct_unopened ended _ ionfd (Int.not_lt.1 hi)))

/-- **What a session closes.** Its calls are made with assigned descriptors and carry assigned
descriptors, and what it opens it closes once, exactly if the number of channels is right for the
format, the driver opens or `ionfd` happens to hold a negative number, and the first buffer is
allocated if the driver and the ION device open. -/
theorem closes_own_iff (format : AudioFormat) (channels : BitVec 32) (o : OpenOutcome)
    (afd ionfd : Int) (ended : Bool) :
    ClosesOwn (lifetime format channels o afd ionfd ended) ↔
      (format = .pcm16Bit → channels.cpop = 1 ∨ channels.cpop = 2) ∧ (0 ≤ o.afd ∨ ionfd < 0) ∧
        (0 ≤ o.afd → 0 ≤ o.ionfd → ∀ b ∈ o.allocs.head?, Complete b) := by
  have huses := usesOwn_lifetime_iff format channels o afd ionfd ended
  have hcarries := carries_iff format channels o afd ionfd ended
  constructor
  · rintro ⟨huse, hcarry⟩
    obtain ⟨hchannels, hdriver⟩ := huses.1 huse
    exact ⟨hchannels, hdriver, hcarries.1 hcarry hchannels⟩
  · rintro ⟨hchannels, hdriver, hfirst⟩
    exact ⟨huses.2 ⟨hchannels, hdriver⟩, hcarries.2 fun _ => hfirst⟩

/-- A mask without channels: the destructor stops and closes whatever `afd` holds. -/
theorem closes_descriptor_of_another :
    ¬ClosesOwn (lifetime .pcm16Bit 0 twoBuffers 7 8 false) := by
  intro h
  exact absurd h.own (by decide)

end Members

end Msm7x27a.Lpa
