import Mathlib.Data.List.OfFn
import Msm7x27a.Lpa.Descriptors
import Msm7x27a.Lpa.Queues

/-!
# Whether a session that has been opened is usable

`openAudioSessionDevice` ignores what `start` returns, and `bufferAlloc` returns nothing.  So the
constructor reports `NO_ERROR` as soon as the driver opens, whatever fails after that.

`regs` is what the driver has been told: the buffers for which `AUDIO_REGISTER_ION` has succeeded.
-/

namespace Msm7x27a.Lpa.AudioSessionOutLPA

open Msm7x27a.Audio
open Members (Complete)
open scoped List

def BUFFER_COUNT : ℕ := 2

/-- The loop of `getBufferInfo`; `none` if the iterator passes the end of `mBufPool`. -/
def readBuffers : ℕ → List BuffersAllocated → Option (List ℕ)
  | 0, _ => some []
  | _ + 1, [] => none
  | n + 1, b :: q => (readBuffers n q).map (b.memBuf :: ·)

/-- `getBufferInfo`: the addresses it stores. -/
def getBufferInfo (s : AudioSessionOutLPA) : Option (List ℕ) :=
  readBuffers BUFFER_COUNT s.mBufPool

theorem readBuffers_isSome {n : ℕ} {q : List BuffersAllocated} (h : n ≤ q.length) :
    (readBuffers n q).isSome := by
  induction n generalizing q with
  | zero => rfl
  | succ n ih =>
    cases q with
    | nil => exact absurd h (Nat.not_succ_le_zero n)
    | cons b q =>
      rw [readBuffers, Option.isSome_map]
      exact ih (Nat.le_of_succ_le_succ h)

/-! ### What the driver has been told -/

/-- The address and the descriptor of a registration that has succeeded. -/
def regOf : Event → Option (Int × Int)
  | .registerIon vaddr fd true => some (vaddr, fd)
  | _ => none

/-- The registrations that have succeeded, oldest first. -/
def regs (s : AudioSessionOutLPA) : List (Int × Int) := s.log.reverse.filterMap regOf

/-- The address and the descriptor that are registered for a buffer. -/
def regKey (b : BuffersAllocated) : Int × Int := (b.memBuf, b.memFd)

variable {s : AudioSessionOutLPA} {o : AllocOutcome} {os : List AllocOutcome}

theorem regs_record (s : AudioSessionOutLPA) (e : Event) :
    (s.record e).regs = s.regs ++ (regOf e).toList := by
  have h : (s.record e).log.reverse = s.log.reverse ++ [e] := List.reverse_cons
  rw [regs, h, List.filterMap_append, regs]
  cases he : regOf e with
  | none => rw [List.filterMap_cons_none he]; rfl
  | some k => rw [List.filterMap_cons_some he]; rfl

/-- What happens without a registration that succeeds. -/
theorem regs_of_none {e : Event} (h : regOf e = none) : (s.record e).regs = s.regs := by
  rw [regs_record, h]
  exact List.append_nil _

theorem regs_startDriver (ok : Bool) (now : Int) (s : AudioSessionOutLPA) :
    (startDriver ok now s).2.regs = s.regs := by
  have h : (s.record (.audioStart ok)).regs = s.regs := regs_of_none rfl
  unfold startDriver
  dsimp only
  split
  · exact h
  · exact h

theorem regs_start (o : StartOutcome) (now : Int) (s : AudioSessionOutLPA) :
    (s.start o now).2.regs = s.regs := by
  have hd : ∀ t : AudioSessionOutLPA, t.closeDriver.regs = t.regs := fun t =>
    regs_of_none (e := .closed t.afd) rfl
  have hp : ({ s with mPaused := false } : AudioSessionOutLPA).regs = s.regs := rfl
  unfold start
  dsimp only
  split_ifs
  · exact (regs_of_none rfl).trans hp
  · exact (regs_of_none rfl).trans hp
  · rw [hd]
    exact (regs_of_none rfl).trans hp
  · rw [hd]
    exact (regs_of_none rfl).trans ((regs_of_none rfl).trans hp)
  · rw [regs_startDriver]
    exact (regs_of_none rfl).trans ((regs_of_none rfl).trans hp)
  · rw [regs_startDriver, hp]

/-! ### Allocation -/

/-- The buffer of an allocation that succeeds. -/
def allocBuf (nSize : ℕ) (o : AllocOutcome) : BuffersAllocated where
  ion_handle := o.handle
  localBuf := o.localBuf.getD 0
  memBuf := o.mapped.getD 0
  memBufsize := nSize
  memFd := o.fd

theorem memBufferAlloc_complete (nSize : ℕ) (h : Complete o) (s : AudioSessionOutLPA) :
    memBufferAlloc nSize o s =
      (((allocBuf nSize o).memBuf : Int), some (allocBuf nSize o).memFd,
        { s with
          mEmptyQueue := s.mEmptyQueue ++ [allocBuf nSize o]
          mBufPool := s.mBufPool ++ [allocBuf nSize o] }) := by
  obtain ⟨alloc, handle, share, fd, mapped, localBuf, register⟩ := o
  obtain ⟨halloc, hshare, hmapped, hlocal⟩ := h
  obtain ⟨ion_buf, rfl⟩ := Option.isSome_iff_exists.1 hmapped
  obtain ⟨local_buf, rfl⟩ := Option.isSome_iff_exists.1 hlocal
  dsimp only at halloc hshare
  subst halloc hshare
  rfl

/-- An allocation that fails leaves the members and the registrations. -/
structure Unchanged (s s' : AudioSessionOutLPA) : Prop where
  regs : s'.regs = s.regs
  afd : s'.afd = s.afd
  started : s'.mIsDriverStarted = s.mIsDriverStarted
  pool : s'.mBufPool = s.mBufPool

theorem unchanged_record (s : AudioSessionOutLPA) {e : Event} (h : regOf e = none) :
    Unchanged s (s.record e) :=
  ⟨regs_of_none h, rfl, rfl, rfl⟩

theorem Unchanged.trans {a b c : AudioSessionOutLPA} (h : Unchanged a b) (h' : Unchanged b c) :
    Unchanged a c :=
  ⟨h'.regs.trans h.regs, h'.afd.trans h.afd, h'.started.trans h.started, h'.pool.trans h.pool⟩

theorem memBufferAlloc_incomplete (nSize : ℕ) (h : ¬Complete o) (s : AudioSessionOutLPA) :
    Unchanged s (memBufferAlloc nSize o s).2.2 := by
  unfold memBufferAlloc
  split_ifs with halloc hshare
  · exact ⟨rfl, rfl, rfl, rfl⟩
  · exact unchanged_record s rfl
  · split
    · exact (unchanged_record s rfl).trans (unchanged_record _ rfl)
    · exact (unchanged_record s rfl).trans
        ((unchanged_record _ rfl).trans (unchanged_record _ rfl))
    · next ion_buf local_buf hmapped hlocal =>
      refine absurd ⟨?_, ?_, ?_, ?_⟩ h
      · exact Bool.eq_true_of_not_eq_false halloc
      · exact Bool.eq_true_of_not_eq_false hshare
      · rw [hmapped]
        rfl
      · rw [hlocal]
        rfl

/-- One turn of the loop: the driver is told of something if the registration succeeds, and the pool
grows if the allocation does. -/
theorem allocTurn (os : List AllocOutcome) (ion_fd : Int) (o : AllocOutcome) (s : AudioSessionOutLPA) :
    ∃ t ion_fd', allocLoop (o :: os) ion_fd s = allocLoop os ion_fd' t ∧
      t.afd = s.afd ∧ t.mIsDriverStarted = s.mIsDriverStarted ∧
      t.mBufPool.length = s.mBufPool.length + (if Complete o then 1 else 0) ∧
      t.regs.length = s.regs.length + (if o.register then 1 else 0) := by
  have hreg : ∀ a b : Int, ∀ t : AudioSessionOutLPA, (t.record (.registerIon a b o.register)).regs.length =
      t.regs.length + (if o.register then 1 else 0) := by
    intro a b t
    rw [regs_record, List.length_append]
    cases o.register <;> rfl
  refine ⟨_, _, rfl, ?_⟩
  by_cases hc : Complete o
  · rw [memBufferAlloc_complete _ hc, if_pos hc]
    exact ⟨rfl, rfl, List.length_append, hreg _ _ _⟩
  · obtain ⟨hregs, hafd, hstarted, hpool⟩ := memBufferAlloc_incomplete LPA_BUFFER_SIZE hc s
    rw [if_neg hc]
    refine ⟨hafd, hstarted, congrArg List.length hpool, ?_⟩
    rw [hreg, hregs]

theorem allocLoop_driver (os : List AllocOutcome) (ion_fd : Int) (s : AudioSessionOutLPA) :
    (allocLoop os ion_fd s).afd = s.afd ∧
      (allocLoop os ion_fd s).mIsDriverStarted = s.mIsDriverStarted := by
  induction os generalizing s ion_fd with
  | nil => exact ⟨rfl, rfl⟩
  | cons o os ih =>
    obtain ⟨t, ion_fd', he, hafd, hstarted, -, -⟩ := allocTurn os ion_fd o s
    rw [he, (ih ion_fd' t).1, (ih ion_fd' t).2]
    exact ⟨hafd, hstarted⟩

/-- How many buffers and registrations the loop adds. -/
theorem allocLoop_length (os : List AllocOutcome) (ion_fd : Int) (s : AudioSessionOutLPA) :
    (allocLoop os ion_fd s).mBufPool.length = s.mBufPool.length + os.countP (Complete ·) ∧
      (allocLoop os ion_fd s).regs.length = s.regs.length + os.countP (·.register) := by
  induction os generalizing s ion_fd with
  | nil => exact ⟨rfl, rfl⟩
  | cons o os ih =>
    obtain ⟨t, ion_fd', he, -, -, hpool, hregs⟩ := allocTurn os ion_fd o s
    rw [he, (ih ion_fd' t).1, (ih ion_fd' t).2, hpool, hregs, List.countP_cons, List.countP_cons]
    refine ⟨?_, ?_⟩
    · rw [Nat.add_assoc, Nat.add_comm (if Complete o then 1 else 0)]
      simp only [decide_eq_true_eq]
    · rw [Nat.add_assoc, Nat.add_comm (if o.register then 1 else 0)]

/-- While nothing fails, the driver is told of the buffers of the pool. -/
theorem allocLoop_registers (ion_fd : Int) (hos : ∀ o ∈ os, Complete o ∧ o.register = true)
    (h : s.regs = s.mBufPool.map regKey) :
    (allocLoop os ion_fd s).regs = (allocLoop os ion_fd s).mBufPool.map regKey := by
  induction os generalizing s ion_fd with
  | nil => exact h
  | cons o os ih =>
    obtain ⟨⟨hc, hr⟩, hos⟩ := List.forall_mem_cons.1 hos
    rw [allocLoop]
    refine ih _ hos ?_
    rw [memBufferAlloc_complete _ hc, regs_record, hr]
    have hmap : (s.mBufPool ++ [allocBuf LPA_BUFFER_SIZE o]).map regKey =
        s.mBufPool.map regKey ++ [regKey (allocBuf LPA_BUFFER_SIZE o)] := List.map_append
    exact (congrArg (· ++ [regKey (allocBuf LPA_BUFFER_SIZE o)]) h).trans hmap.symm

/-! ### Opening -/

theorem startDriver_started (ok : Bool) (now : Int) (s : AudioSessionOutLPA)
    (hs : s.mIsDriverStarted = false) :
    (startDriver ok now s).2.mIsDriverStarted = true ↔ ok = true := by
  unfold startDriver
  cases ok with
  | true => exact iff_of_true rfl rfl
  | false => exact iff_of_false (fun h => Bool.false_ne_true (hs.symm.trans h)) Bool.false_ne_true

/-- The driver of a new session is started if nothing fails. -/
theorem start_started (st : StartOutcome) (now : Int) (hp : s.mPaused = false)
    (hs : s.mIsDriverStarted = false) (ha : 0 ≤ s.afd) :
    (s.start st now).2.mIsDriverStarted = true ↔
      st.getConfig = true ∧ st.setConfig = true ∧ st.start = true := by
  have hpaused : ¬(s.mPaused = true ∧ s.mIsDriverStarted = true) := by
    intro h
    exact Bool.false_ne_true (hp.symm.trans h.1)
  have hfalse : ¬s.mIsDriverStarted = true := fun h => Bool.false_ne_true (hs.symm.trans h)
  unfold start
  dsimp only
  rw [if_neg hpaused, if_pos ha]
  split_ifs with hget hset
  · exact iff_of_false hfalse fun h => Bool.false_ne_true (hget.symm.trans h.1)
  · exact iff_of_false hfalse fun h => Bool.false_ne_true (hset.symm.trans h.2.1)
  · refine (startDriver_started _ _ _ (by exact hs)).trans ?_
    rw [and_iff_right (Bool.eq_true_of_not_eq_false hget),
      and_iff_right (Bool.eq_true_of_not_eq_false hset)]

theorem start_afd {st : StartOutcome} (now : Int) (hp : s.mPaused = false)
    (hget : st.getConfig = true) (hset : st.setConfig = true) : (s.start st now).2.afd = s.afd := by
  have hd : ∀ t : AudioSessionOutLPA, (startDriver st.start now t).2.afd = t.afd := by
    intro t
    unfold startDriver
    dsimp only
    split <;> rfl
  have hpaused : ¬(s.mPaused = true ∧ s.mIsDriverStarted = true) := by
    intro h
    exact Bool.false_ne_true (hp.symm.trans h.1)
  unfold start
  dsimp only
  rw [if_neg hpaused, hget, hset]
  split_ifs with _ hfalse
  · exact hfalse.elim
  · exact hd _
  · exact hd _

/-- The session can be used: the driver is open and started, and the buffers are there and known to
the driver. -/
structure Usable (s : AudioSessionOutLPA) : Prop where
  afd : 0 ≤ s.afd
  started : s.mIsDriverStarted = true
  pool : s.mBufPool.length = BUFFER_COUNT
  empty : s.mEmptyQueue.length = BUFFER_COUNT
  poolRegs : s.mBufPool.map regKey <+ s.regs
  emptyRegs : s.mEmptyQueue.map regKey <+ s.regs
  info : s.getBufferInfo.isSome

/-- A buffer pool of the right length, in order in `mEmptyQueue` and known to the driver. -/
theorem usable_of_fresh (h : Fresh s) (ha : 0 ≤ s.afd) (hs : s.mIsDriverStarted = true)
    (hp : s.mBufPool.length = BUFFER_COUNT) (hr : s.mBufPool.map regKey <+ s.regs) : Usable s where
  afd := ha
  started := hs
  pool := hp
  empty := h.empty ▸ hp
  poolRegs := hr
  emptyRegs := h.empty ▸ hr
  info := readBuffers_isSome hp.ge

theorem bufferAlloc_driver (ionfd junk : Int) (os : List AllocOutcome) (s : AudioSessionOutLPA) :
    (bufferAlloc ionfd junk os s).afd = s.afd ∧
      (bufferAlloc ionfd junk os s).mIsDriverStarted = s.mIsDriverStarted := by
  unfold bufferAlloc
  dsimp only
  split
  · exact ⟨rfl, rfl⟩
  · exact allocLoop_driver os junk { s with ionfd := ionfd }

/-- The pool of a session without buffers is full after `bufferAlloc`, and the driver knows it,
exactly if the ION device opens and no buffer fails. -/
theorem bufferAlloc_iff (ionfd junk : Int) (hos : os ≠ []) (hp : s.mBufPool = []) (hr : s.regs = []) :
    ((bufferAlloc ionfd junk os s).mBufPool.length = os.length ∧
        (bufferAlloc ionfd junk os s).mBufPool.map regKey <+ (bufferAlloc ionfd junk os s).regs) ↔
      0 ≤ ionfd ∧ ∀ o ∈ os, Complete o ∧ o.register = true := by
  unfold bufferAlloc
  dsimp only
  split_ifs with hi
  · refine iff_of_false ?_ fun h => absurd h.1 (Int.not_le.2 hi)
    rintro ⟨hlen, -⟩
    rw [hp] at hlen
    exact hos (List.eq_nil_of_length_eq_zero hlen.symm)
  · obtain ⟨hpool, hregs⟩ := allocLoop_length os junk { s with ionfd := ionfd }
    have hpool' : (allocLoop os junk { s with ionfd := ionfd }).mBufPool.length =
        os.countP (Complete ·) := by
      rw [hpool, hp]
      exact Nat.zero_add _
    have hregs' : (allocLoop os junk { s with ionfd := ionfd }).regs.length =
        os.countP (·.register) := by
      refine hregs.trans ?_
      rw [show ({ s with ionfd := ionfd } : AudioSessionOutLPA).regs = [] from hr]
      exact Nat.zero_add _
    refine ⟨?_, ?_⟩
    · rintro ⟨hlen, hsub⟩
      have hall : os.countP (·.register) = os.length := by
        refine Nat.le_antisymm List.countP_le_length ?_
        rw [← hlen, ← hregs', ← List.length_map regKey]
        exact hsub.length_le
      refine ⟨Int.not_lt.1 hi, fun o ho => ⟨?_, ?_⟩⟩
      · exact of_decide_eq_true (List.countP_eq_length.1 (hpool'.symm.trans hlen) o ho)
      · exact List.countP_eq_length.1 hall o ho
    · rintro ⟨-, hall⟩
      refine ⟨?_, ?_⟩
      · rw [hpool']
        exact List.countP_eq_length.2 fun o ho => decide_eq_true (hall o ho).1
      · rw [allocLoop_registers junk hall]
        rw [show ({ s with ionfd := ionfd } : AudioSessionOutLPA).regs = [] from hr]
        rw [hp]
        rfl

/-- What `openAudioSessionDevice` does after the driver of a new session has opened. -/
theorem usable_bufferAlloc_iff {st : StartOutcome} {now ionfd junk : Int}
    {alloc : Fin BUFFER_COUNT → AllocOutcome} (hp : s.mPaused = false)
    (hs : s.mIsDriverStarted = false) (ha : 0 ≤ s.afd) (hempty : s.mEmptyQueue = [])
    (hfilled : s.mFilledQueue = []) (hpool : s.mBufPool = []) (hregs : s.regs = []) :
    Usable (bufferAlloc ionfd junk (List.ofFn alloc) (s.start st now).2) ↔
      (st.getConfig = true ∧ st.setConfig = true ∧ st.start = true) ∧
        0 ≤ ionfd ∧ ∀ i, Complete (alloc i) ∧ (alloc i).register = true := by
  have hsame := start_same s st now
  have hos : List.ofFn alloc ≠ [] := by
    intro h
    exact absurd (List.ofFn_eq_nil_iff.1 h) (by decide)
  have hall : (∀ b ∈ List.ofFn alloc, Complete b ∧ b.register = true) ↔
      ∀ i, Complete (alloc i) ∧ (alloc i).register = true := List.forall_mem_ofFn_iff
  have hbuf := bufferAlloc_iff (s := (s.start st now).2) ionfd junk hos (hsame.pool.trans hpool)
    ((regs_start st now s).trans hregs)
  rw [hall, List.length_ofFn] at hbuf
  have hdriver := bufferAlloc_driver ionfd junk (List.ofFn alloc) (s.start st now).2
  refine ⟨?_, ?_⟩
  · intro h
    have hstarted := h.started
    rw [hdriver.2] at hstarted
    exact ⟨(start_started st now hp hs ha).1 hstarted, hbuf.1 ⟨h.pool, h.poolRegs⟩⟩
  · rintro ⟨hst, hrest⟩
    obtain ⟨hlen, hsub⟩ := hbuf.2 hrest
    have hfresh : Fresh s := ⟨hempty.trans hpool.symm, hfilled⟩
    refine usable_of_fresh (fresh_bufferAlloc (hfresh.of_same hsame) ionfd junk _) ?_ ?_ hlen hsub
    · rw [hdriver.1, start_afd now hp hst.1 hst.2.1]
      exact ha
    · rw [hdriver.2]
      exact (start_started st now hp hs ha).2 hst

/-- **What `NO_ERROR` promises.** A constructor that reports `NO_ERROR` leaves a session that can be
used exactly if nothing fails after the driver has opened. -/
theorem usable_iff (format : AudioFormat) (channels : BitVec 32) (samplingRate : ℕ) (o : OpenOutcome)
    (alloc : Fin BUFFER_COUNT → AllocOutcome) :
    ((construct format channels.cpop.toNat samplingRate { o with allocs := List.ofFn alloc }).1 =
        noError →
      Usable
        (construct format channels.cpop.toNat samplingRate { o with allocs := List.ofFn alloc }).2) ↔
    (format = .pcm16Bit ∧ (channels.cpop.toNat = 0 ∨ 2 < channels.cpop.toNat) ∨ o.afd < 0 ∨
      (o.start.getConfig = true ∧ o.start.setConfig = true ∧ o.start.start = true) ∧
        0 ≤ o.ionfd ∧ ∀ i, Complete (alloc i) ∧ (alloc i).register = true) := by
  by_cases hbad : format = .pcm16Bit ∧ (channels.cpop.toNat = 0 ∨ 2 < channels.cpop.toNat)
  · have hc : construct format channels.cpop.toNat samplingRate { o with allocs := List.ofFn alloc } =
        (badValue, { mSampleRate := samplingRate, mChannels := channels.cpop.toNat }) := if_pos hbad
    have hne : badValue ≠ noError := by decide
    rw [hc]
    exact iff_of_true (fun h => absurd h hne) (.inl hbad)
  · rw [or_iff_right hbad]
    by_cases hd : o.afd < 0
    · have hc : construct format channels.cpop.toNat samplingRate { o with allocs := List.ofFn alloc } =
          (unknownError,
            { mSampleRate := samplingRate, mChannels := channels.cpop.toNat, afd := o.afd }) :=
        (if_neg hbad).trans (if_pos hd)
      have hne : unknownError ≠ noError := by decide
      rw [hc]
      exact iff_of_true (fun h => absurd h hne) (.inl hd)
    · have hc : construct format channels.cpop.toNat samplingRate { o with allocs := List.ofFn alloc } =
          (noError, bufferAlloc o.ionfd o.junk (List.ofFn alloc) (start o.start o.now
            { mSampleRate := samplingRate, mChannels := channels.cpop.toNat, afd := o.afd }).2) :=
        (if_neg hbad).trans (if_neg hd)
      rw [or_iff_right hd, hc]
      exact (forall_prop_of_true rfl).trans
        (usable_bufferAlloc_iff rfl rfl (Int.not_lt.1 hd) rfl rfl rfl rfl)

/-- `AUDIO_START` fails, and the constructor reports `NO_ERROR`. -/
theorem reports_unstarted_driver :
    ¬((construct .pcm16Bit (3 : BitVec 32).cpop.toNat 44100
        { twoBuffers with start := { start := false } }).1 = noError →
      Usable (construct .pcm16Bit (3 : BitVec 32).cpop.toNat 44100
        { twoBuffers with start := { start := false } }).2) := by
  intro h
  exact absurd (h (by decide)).started (by decide)

end Msm7x27a.Lpa.AudioSessionOutLPA
