import Mathlib.Data.List.Basic
import Msm7x27a.Lpa.Session

/-!
# The buffers of a session

`mEmptyQueue` and `mFilledQueue` together hold the buffers of `mBufPool`, each as often as the pool
does, after every run of operations (`conserved_of_run`): entries are copied by value between the
lists, with another `bytesToWrite`, but every entry that leaves a list enters another.  So
`bufferDeAlloc` releases every buffer of the pool once.

`SameQueues` is the frame of the code that touches no list, and `write_cases`, `writeDone_cases` say
what the two functions that move one buffer can do.
-/

namespace Msm7x27a.Lpa.AudioSessionOutLPA

open Msm7x27a.Audio

/-! ### Code that touches no list -/

/-- The three lists are the same. -/
structure SameQueues (s s' : AudioSessionOutLPA) : Prop where
  empty : s'.mEmptyQueue = s.mEmptyQueue
  filled : s'.mFilledQueue = s.mFilledQueue
  pool : s'.mBufPool = s.mBufPool

theorem SameQueues.refl (s : AudioSessionOutLPA) : SameQueues s s := ⟨rfl, rfl, rfl⟩

theorem SameQueues.trans {a b c : AudioSessionOutLPA} (h : SameQueues a b) (h' : SameQueues b c) :
    SameQueues a c :=
  ⟨h'.empty.trans h.empty, h'.filled.trans h.filled, h'.pool.trans h.pool⟩

variable (s : AudioSessionOutLPA)

theorem record_same (e : Event) : SameQueues s (s.record e) := ⟨rfl, rfl, rfl⟩

theorem start_same (o : StartOutcome) (now : Int) : SameQueues s (s.start o now).2 := by
  have hd : ∀ s' : AudioSessionOutLPA, SameQueues s s' → SameQueues s (startDriver o.start now s').2 := by
    intro s' h
    refine h.trans ?_
    unfold startDriver
    split <;> exact ⟨rfl, rfl, rfl⟩
  unfold start
  split
  · exact ⟨rfl, rfl, rfl⟩
  · dsimp only
    split_ifs
    · exact ⟨rfl, rfl, rfl⟩
    · exact ⟨rfl, rfl, rfl⟩
    · exact hd _ ⟨rfl, rfl, rfl⟩
    · exact hd _ ⟨rfl, rfl, rfl⟩

theorem pause_same (ok : Bool) (now : Int) : SameQueues s (s.pause ok now) := ⟨rfl, rfl, rfl⟩

theorem suspend_same (statsOk stopOk : Bool) : SameQueues s (s.suspend statsOk stopOk) := by
  unfold suspend
  split
  · exact .refl s
  · exact ⟨rfl, rfl, rfl⟩

theorem postEos_same : SameQueues s s.postEos := by
  unfold postEos
  split
  · exact record_same s _
  · exact .refl s

theorem postIfDrained_same : SameQueues s s.postIfDrained := by
  unfold postIfDrained
  split
  · exact SameQueues.trans (b := { s with mEosEventReceived := true }) ⟨rfl, rfl, rfl⟩ (postEos_same _)
  · exact .refl s

theorem receiveEos_same : SameQueues s s.receiveEos := by
  unfold receiveEos
  split <;> exact ⟨rfl, rfl, rfl⟩

theorem sendToDriver_same (b : BuffersAllocated) (ok : Bool) : SameQueues s (s.sendToDriver b ok) := by
  unfold sendToDriver
  dsimp only
  split_ifs <;> exact ⟨rfl, rfl, rfl⟩

theorem flushDriver_same (pauseOk flushOk : Bool) :
    SameQueues s (s.flushDriver pauseOk flushOk).2 := by
  unfold flushDriver
  dsimp only
  split_ifs <;> exact ⟨rfl, rfl, rfl⟩

/-! ### Code that moves a buffer -/

variable {s} {s' : AudioSessionOutLPA}

/-- What `write` does: a pending skip drops the call, or the first empty buffer goes to
`mFilledQueue` and the driver, or it stays and the stream ends. -/
theorem write_cases {bytes : ℕ} {ok : Bool} {now : Int} (h : step s (.write bytes ok now) = some s') :
    (s.mSkipWrite = true ∧ LPA_BUFFER_SIZE ≤ bytes ∧
      s' = (s.record (.called (.write bytes))).takeSkip) ∨
    ∃ b q, s.mEmptyQueue = b :: q ∧
      ((s.mSkipWrite = false ∧ 0 < bytes ∧
        s' = ((((s.record (.called (.write bytes))).takeSkip.dequeue.startClock now).pushFilled
          { b with bytesToWrite := bytes }).sendToDriver { b with bytesToWrite := bytes } ok)) ∨
      ((s.mSkipWrite = true ∨ bytes = 0) ∧ bytes < LPA_BUFFER_SIZE ∧
        s' = (((s.record (.called (.write bytes))).takeSkip.dequeue.pushEmpty
          { b with bytesToWrite := 0 }).reachEos.postIfDrained))) := by
  obtain ⟨r, hr, rfl⟩ := Option.map_eq_some_iff.1 h
  unfold write at hr
  dsimp only at hr
  cases hleft : (s.record (.called (.write bytes))).bytesLeft bytes with
  | none =>
    left
    rw [hleft] at hr
    cases hr
    unfold bytesLeft at hleft
    split_ifs at hleft with h1 h2
    exact ⟨h1, Nat.not_lt.1 h2, rfl⟩
  | some n =>
    right
    rw [hleft] at hr
    cases hq : s.mEmptyQueue with
    | nil =>
      rw [show (s.record (.called (.write bytes))).takeSkip.mEmptyQueue = [] from hq] at hr
      cases hr
    | cons b q =>
      refine ⟨b, q, rfl, ?_⟩
      rw [show (s.record (.called (.write bytes))).takeSkip.mEmptyQueue = b :: q from hq] at hr
      dsimp only at hr
      -- with a pending skip no byte is left; without one, all are
      have hn : (s.mSkipWrite = false ∧ n = bytes) ∨
          (n = 0 ∧ s.mSkipWrite = true ∧ bytes < LPA_BUFFER_SIZE) := by
        unfold bytesLeft at hleft
        split_ifs at hleft with h1 h2
        · exact .inr ⟨(Option.some.inj hleft).symm, h1, h2⟩
        · exact .inl ⟨(Bool.not_eq_true _).mp h1, (Option.some.inj hleft).symm⟩
      by_cases h0 : 0 < n
      · rcases hn with ⟨hs, rfl⟩ | ⟨rfl, -⟩
        · left
          rw [if_pos h0] at hr
          cases hr
          exact ⟨hs, h0, rfl⟩
        · exact absurd h0 (Nat.lt_irrefl 0)
      · right
        rw [if_neg h0] at hr
        cases hr
        obtain rfl : n = 0 := by omega
        rcases hn with ⟨-, rfl⟩ | ⟨-, h1, h2⟩
        · exact ⟨.inr rfl, Nat.succ_pos _, rfl⟩
        · exact ⟨.inl h1, h2, rfl⟩

/-- What a `WRITE_DONE` event does: nothing when its address is not queued, else the buffer goes
back, and the end of the stream is received if that was the last one. -/
theorem writeDone_cases (s : AudioSessionOutLPA) (buf_addr : ℕ) (fsyncOk : Bool) :
    (s.findFilled buf_addr = none ∧ s.writeDone buf_addr fsyncOk = s.record (.writeDone buf_addr)) ∨
    ∃ b, s.findFilled buf_addr = some b ∧
      let t := ((s.record (.writeDone buf_addr)).eraseFilled buf_addr).pushEmpty b
      (t.EndsStream ∧ t.mObserver = true ∧
        s.writeDone buf_addr fsyncOk =
          ({ t with mEosEventReceived := true }.record (.fsync fsyncOk)).record (.postEOS [])) ∨
      (¬ (t.EndsStream ∧ t.mObserver = true) ∧ s.writeDone buf_addr fsyncOk = t.receiveEos) := by
  have hf : (s.record (.writeDone buf_addr)).findFilled buf_addr = s.findFilled buf_addr := rfl
  unfold writeDone
  dsimp only
  rw [hf]
  cases hb : s.findFilled buf_addr with
  | none => exact .inl ⟨rfl, rfl⟩
  | some b =>
    right
    refine ⟨b, rfl, ?_⟩
    dsimp only
    set t := ((s.record (.writeDone buf_addr)).eraseFilled buf_addr).pushEmpty b
    by_cases ht : t.EndsStream ∧ t.mObserver = true
    · left
      refine ⟨ht.1, ht.2, ?_⟩
      have hq : t.mFilledQueue = [] := List.isEmpty_iff.1 ht.1.1
      rw [if_pos ht, receiveEos, if_pos ht.1, ← hq]
      exact if_pos ht.2
    · exact .inr ⟨ht, if_neg ht⟩

/-- Taking the first entry with a property out of a list. -/
theorem perm_of_find? {α : Type*} {p : α → Bool} {l : List α} {b : α} (h : l.find? p = some b) :
    l.Perm (b :: l.eraseP p) := by
  induction l with
  | nil => simp at h
  | cons a l ih =>
    by_cases ha : p a
    · rw [List.find?_cons_of_pos ha] at h
      cases h
      rw [List.eraseP_cons_of_pos ha]
    · rw [List.find?_cons_of_neg ha] at h
      rw [List.eraseP_cons_of_neg ha]
      exact ((ih h).cons a).trans (List.Perm.swap b a _)

/-! ### Conservation -/

/-- The buffers of the two queues are those of the pool. -/
def Conserved (s : AudioSessionOutLPA) : Prop :=
  ((s.mEmptyQueue ++ s.mFilledQueue).map (·.toIonBuffer)).Perm (s.mBufPool.map (·.toIonBuffer))

theorem Conserved.of_same (h : Conserved s) (hs : SameQueues s s') : Conserved s' := by
  unfold Conserved
  rw [hs.empty, hs.filled, hs.pool]
  exact h

theorem conserved_write {bytes : ℕ} {ok : Bool} {now : Int} (hc : Conserved s)
    (h : step s (.write bytes ok now) = some s') : Conserved s' := by
  rcases write_cases h with ⟨-, -, rfl⟩ | ⟨b, q, hq, ⟨-, -, rfl⟩ | ⟨-, -, rfl⟩⟩
  · exact hc.of_same ⟨rfl, rfl, rfl⟩
  · refine Conserved.of_same ?_ (sendToDriver_same _ _ ok)
    unfold Conserved at hc ⊢
    rw [hq] at hc
    refine List.Perm.trans ?_ hc
    show ((s.mEmptyQueue.tail ++ (s.mFilledQueue ++ [_])).map _).Perm _
    rw [hq, List.tail_cons, ← List.append_assoc, List.map_append]
    exact List.perm_append_comm
  · refine Conserved.of_same ?_ (postIfDrained_same _)
    unfold Conserved at hc ⊢
    rw [hq] at hc
    refine List.Perm.trans ?_ hc
    show (((s.mEmptyQueue.tail ++ [_]) ++ s.mFilledQueue).map _).Perm _
    rw [hq, List.tail_cons, List.map_append, List.map_append, List.map_append]
    exact List.perm_append_comm.append_right _

theorem conserved_writeDone (hc : Conserved s) (buf_addr : ℕ) (fsyncOk : Bool) :
    Conserved (s.writeDone buf_addr fsyncOk) := by
  rcases writeDone_cases s buf_addr fsyncOk with ⟨-, h⟩ | ⟨b, hb, h⟩
  · rw [h]
    exact hc.of_same (record_same s _)
  · have ht : Conserved (((s.record (.writeDone buf_addr)).eraseFilled buf_addr).pushEmpty b) := by
      refine List.Perm.trans (List.Perm.map _ ?_) hc
      show ((s.mEmptyQueue ++ [b]) ++ s.mFilledQueue.eraseP _).Perm _
      rw [List.append_assoc]
      exact (perm_of_find? hb).symm.append_left _
    rcases h with ⟨-, -, h⟩ | ⟨-, h⟩
    · rw [h]
      exact ht.of_same ⟨rfl, rfl, rfl⟩
    · rw [h]
      exact ht.of_same (receiveEos_same _)

theorem conserved_flush (pauseOk flushOk : Bool) : Conserved (s.flush pauseOk flushOk).2 := by
  refine Conserved.of_same ?_ (flushDriver_same _ _ _)
  unfold Conserved
  rw [show (s.record (.called .flush)).refill.mFilledQueue = [] from rfl, List.append_nil]
  exact .refl _

theorem conserved_step {op : Op} (hc : Conserved s) (h : step s op = some s') : Conserved s' := by
  cases op with
  | write bytes ok now => exact conserved_write hc h
  | writeDone buf_addr fsyncOk =>
    cases h
    exact conserved_writeDone hc buf_addr fsyncOk
  | flush pauseOk flushOk =>
    cases h
    exact conserved_flush pauseOk flushOk
  | start o now =>
    cases h
    exact hc.of_same (start_same s o now)
  | suspend statsOk stopOk =>
    cases h
    exact hc.of_same (suspend_same s statsOk stopOk)
  | pause | stop | setObserver =>
    cases h
    exact hc.of_same ⟨rfl, rfl, rfl⟩

/-- No operation changes the pool. -/
theorem pool_step {op : Op} (h : step s op = some s') : s'.mBufPool = s.mBufPool := by
  cases op with
  | write bytes ok now =>
    rcases write_cases h with ⟨-, -, rfl⟩ | ⟨b, q, -, ⟨-, -, rfl⟩ | ⟨-, -, rfl⟩⟩
    · rfl
    · exact (sendToDriver_same _ _ ok).pool
    · exact (postIfDrained_same _).pool
  | writeDone buf_addr fsyncOk =>
    cases h
    rcases writeDone_cases s buf_addr fsyncOk with ⟨-, h⟩ | ⟨b, -, ⟨-, -, h⟩ | ⟨-, h⟩⟩
    · rw [h]; rfl
    · rw [h]; rfl
    · rw [h]
      exact (receiveEos_same _).pool
  | flush pauseOk flushOk =>
    cases h
    exact (flushDriver_same _ pauseOk flushOk).pool
  | start o now =>
    cases h
    exact (start_same s o now).pool
  | suspend statsOk stopOk =>
    cases h
    exact (suspend_same s statsOk stopOk).pool
  | pause | stop | setObserver => cases h; rfl

/-! ### Allocation and release -/

/-- After allocation every buffer of the pool is in `mEmptyQueue`, in order. -/
structure Fresh (s : AudioSessionOutLPA) : Prop where
  empty : s.mEmptyQueue = s.mBufPool
  filled : s.mFilledQueue = []

theorem Fresh.of_same (h : Fresh s) (hs : SameQueues s s') : Fresh s' :=
  ⟨hs.empty.trans (h.empty.trans hs.pool.symm), hs.filled.trans h.filled⟩

theorem fresh_memBufferAlloc (h : Fresh s) (nSize : ℕ) (o : AllocOutcome) :
    Fresh (memBufferAlloc nSize o s).2.2 := by
  unfold memBufferAlloc
  split_ifs
  · exact h
  · exact h.of_same (record_same s _)
  · split
    · exact h.of_same ⟨rfl, rfl, rfl⟩
    · exact h.of_same ⟨rfl, rfl, rfl⟩
    · exact ⟨congrArg (· ++ [_]) h.empty, h.filled⟩

theorem fresh_allocLoop {os : List AllocOutcome} (h : Fresh s) (ion_fd : Int) :
    Fresh (allocLoop os ion_fd s) := by
  induction os generalizing s ion_fd with
  | nil => exact h
  | cons o os ih =>
    apply ih
    exact (fresh_memBufferAlloc h _ o).of_same (record_same _ _)

theorem fresh_bufferAlloc (h : Fresh s) (ionfd junk : Int) (os : List AllocOutcome) :
    Fresh (bufferAlloc ionfd junk os s) := by
  have h' : Fresh { s with ionfd := ionfd } := h.of_same ⟨rfl, rfl, rfl⟩
  unfold bufferAlloc
  dsimp only
  split_ifs
  · exact h'
  · exact fresh_allocLoop h' junk

theorem fresh_construct (format : AudioFormat) (channels samplingRate : ℕ) (o : OpenOutcome) :
    Fresh (construct format channels samplingRate o).2 := by
  unfold construct openAudioSessionDevice
  dsimp only
  split_ifs
  · exact ⟨rfl, rfl⟩
  · exact ⟨rfl, rfl⟩
  · apply fresh_bufferAlloc
    exact Fresh.of_same ⟨rfl, rfl⟩ (start_same _ o.start o.now)

theorem Fresh.conserved (h : Fresh s) : Conserved s := by
  unfold Conserved
  rw [h.empty, h.filled, List.append_nil]

theorem releaseAll_eq (q : List BuffersAllocated) (log : List Event) :
    releaseAll q log = (q.map (·.toIonBuffer)).reverse.flatMap release ++ log := by
  induction q generalizing log with
  | nil => rfl
  | cons b q ih =>
    rw [releaseAll, ih, List.map_cons, List.reverse_cons, List.flatMap_append, List.append_assoc]
    simp

/-- **Buffers are neither lost nor duplicated.** After any run of operations from the constructor on,
the entries of the two queues are those of the pool.  `bufferDeAlloc` then releases the buffers of
the pool, each once, and leaves the three lists empty. -/
theorem conserved_of_run {format : AudioFormat} {channels samplingRate : ℕ} {o : OpenOutcome}
    {ls : List Op} (hr : Runs.run step (construct format channels samplingRate o).2 ls = some s) :
    ((s.mEmptyQueue ++ s.mFilledQueue).map (·.toIonBuffer)).Perm (s.mBufPool.map (·.toIonBuffer)) ∧
    (bufferDeAlloc s).mEmptyQueue = [] ∧ (bufferDeAlloc s).mFilledQueue = [] ∧
    (bufferDeAlloc s).mBufPool = [] ∧
    ∃ bs : List IonBuffer, bs.Perm (s.mBufPool.map (·.toIonBuffer)) ∧
      (bufferDeAlloc s).log =
        (if 0 ≤ s.ionfd then [.closed s.ionfd] else []) ++ bs.flatMap release ++ s.log := by
  have hc : Conserved s := by
    refine Runs.run_inv (C := fun _ _ => True) (fun _ _ _ h _ hs => conserved_step h hs)
      (fresh_construct format channels samplingRate o).conserved ?_ hr
    exact Runs.along_true (fun _ _ => trivial) _ _
  have hlists : (bufferDeAlloc s).mEmptyQueue = [] ∧ (bufferDeAlloc s).mFilledQueue = [] ∧
      (bufferDeAlloc s).mBufPool = [] := by
    unfold bufferDeAlloc
    dsimp only
    split_ifs <;> exact ⟨rfl, rfl, rfl⟩
  refine ⟨hc, hlists.1, hlists.2.1, hlists.2.2, ?_⟩
  refine ⟨((s.mEmptyQueue ++ s.mFilledQueue).map (·.toIonBuffer)).reverse, ?_, ?_⟩
  · exact (List.reverse_perm _).trans (show List.Perm (List.map _ _) _ from hc)
  have hlog : releaseAll s.mFilledQueue (releaseAll s.mEmptyQueue s.log) =
      ((s.mEmptyQueue ++ s.mFilledQueue).map (·.toIonBuffer)).reverse.flatMap release ++ s.log := by
    rw [releaseAll_eq, releaseAll_eq, List.map_append, List.reverse_append, List.flatMap_append,
      List.append_assoc]
  rw [List.append_assoc, ← hlog]
  unfold bufferDeAlloc
  dsimp only
  split_ifs <;> rfl

theorem conserved_of_aStream :
    ∃ s, Runs.run step (construct .pcm16Bit 2 44100 twoBuffers).2 aStream = some s ∧
      s.mBufPool.map (·.memBuf) = [0x1000, 0x2000] ∧
      ((s.mEmptyQueue ++ s.mFilledQueue).map (·.toIonBuffer)).Perm
        (s.mBufPool.map (·.toIonBuffer)) ∧
      (bufferDeAlloc s).mEmptyQueue = [] ∧ (bufferDeAlloc s).mFilledQueue = [] ∧
      (bufferDeAlloc s).mBufPool = [] ∧
      ∃ bs : List IonBuffer, bs.Perm (s.mBufPool.map (·.toIonBuffer)) ∧
        (bufferDeAlloc s).log =
          (if 0 ≤ s.ionfd then [.closed s.ionfd] else []) ++ bs.flatMap release ++ s.log := by
  have h : ∃ s, Runs.run step (construct .pcm16Bit 2 44100 twoBuffers).2 aStream = some s ∧
      s.mBufPool.map (·.memBuf) = [0x1000, 0x2000] := Runs.exists_run (by decide +kernel)
  obtain ⟨s, hr, hp⟩ := h
  exact ⟨s, hr, hp, conserved_of_run hr⟩

end Msm7x27a.Lpa.AudioSessionOutLPA
