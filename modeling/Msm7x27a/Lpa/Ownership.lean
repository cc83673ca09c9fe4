import Msm7x27a.Lpa.Queues

/-!
# Buffers owned by the driver

The driver owns a buffer from a successful `AUDIO_ASYNC_WRITE` of it until its `WRITE_DONE` is
handled or an `AUDIO_FLUSH` or `AUDIO_STOP` succeeds: `owns` reads that off the log.  The queues
agree with the driver (`Agrees`) when it owns the buffers of `mFilledQueue` and none of
`mEmptyQueue`.

The code does not keep that: `write` queues a buffer also when it is not given to the driver, a
`SUSPEND` stops the driver and leaves its buffers in `mFilledQueue`, and `flush` empties
`mFilledQueue` also when it does not flush the driver.  `Handed` is the condition on an operation
that none of this happens, and `agrees_iff_handed` says that it is exact.
-/

namespace Msm7x27a.Lpa

open Msm7x27a.Audio

/-- The driver owns the buffer at this address. -/
def owns : List Event → ℕ → Bool
  | [], _ => false
  | .asyncWrite aio true :: log, a => aio.buf_addr = a ∨ owns log a
  | .writeDone buf_addr :: log, a => buf_addr ≠ a ∧ owns log a
  | .audioFlush true :: _, _ | .audioStop true :: _, _ => false
  | _ :: log, a => owns log a

/-- The driver owns what is in `mFilledQueue` and nothing in `mEmptyQueue`. -/
structure Agrees (s : AudioSessionOutLPA) : Prop where
  filled : ∀ b ∈ s.mFilledQueue, owns s.log b.memBuf = true
  empty : ∀ b ∈ s.mEmptyQueue, owns s.log b.memBuf = false

instance : DecidablePred Agrees := fun s =>
  decidable_of_iff ((∀ b ∈ s.mFilledQueue, owns s.log b.memBuf = true) ∧
      ∀ b ∈ s.mEmptyQueue, owns s.log b.memBuf = false)
    ⟨fun h => ⟨h.1, h.2⟩, fun h => ⟨h.1, h.2⟩⟩

/-- `flush` gets to a successful `AUDIO_FLUSH`. -/
def Flushes (pauseOk flushOk : Bool) (s : AudioSessionOutLPA) : Prop :=
  flushOk = true ∧ (s.mPaused = false → s.mEosEventReceived = false ∧ pauseOk = true)

instance (pauseOk flushOk : Bool) (s : AudioSessionOutLPA) : Decidable (Flushes pauseOk flushOk s) := by
  unfold Flushes; infer_instance

/-- The condition on an operation: a buffer that `write` queues is given to the driver, a paused
`SUSPEND` that stops the driver finds `mFilledQueue` empty, and a `flush` that finds it not empty
flushes the driver. -/
def Handed (s : AudioSessionOutLPA) : Op → Prop
  | .write bytes ok _ => s.mEmptyQueue ≠ [] → s.mSkipWrite = false → 0 < bytes →
      s.mIsDriverStarted = true ∧ ok = true
  | .suspend _ stopOk => s.mPaused = true → stopOk = true → s.mFilledQueue = []
  | .flush pauseOk flushOk => s.mFilledQueue = [] ∨ Flushes pauseOk flushOk s
  | _ => True

instance (s : AudioSessionOutLPA) (op : Op) : Decidable (Handed s op) :=
  match op with
  | .write bytes ok _ =>
    inferInstanceAs (Decidable (s.mEmptyQueue ≠ [] → s.mSkipWrite = false → 0 < bytes →
      s.mIsDriverStarted = true ∧ ok = true))
  | .suspend _ stopOk =>
    inferInstanceAs (Decidable (s.mPaused = true → stopOk = true → s.mFilledQueue = []))
  | .flush pauseOk flushOk =>
    inferInstanceAs (Decidable (s.mFilledQueue = [] ∨ Flushes pauseOk flushOk s))
  | .start .. | .pause _ _ | .stop | .setObserver _ | .writeDone .. => instDecidableTrue

/-- The addresses of the pool's buffers differ. -/
def Distinct (s : AudioSessionOutLPA) : Prop := (s.mBufPool.map (·.memBuf)).Nodup

instance : DecidablePred Distinct := fun s => by unfold Distinct; infer_instance

namespace AudioSessionOutLPA

variable {s s' : AudioSessionOutLPA}

/-! ### Code that leaves the ownership alone -/

theorem owns_start (s : AudioSessionOutLPA) (o : StartOutcome) (now : Int) :
    owns (s.start o now).2.log = owns s.log := by
  funext a
  unfold start startDriver closeDriver
  dsimp only
  split_ifs <;> rfl

theorem owns_postEos (s : AudioSessionOutLPA) : owns s.postEos.log = owns s.log := by
  funext a
  unfold postEos
  split <;> rfl

theorem owns_postIfDrained (s : AudioSessionOutLPA) : owns s.postIfDrained.log = owns s.log := by
  unfold postIfDrained
  split
  · exact owns_postEos _
  · rfl

theorem owns_flushDriver (s : AudioSessionOutLPA) (pauseOk flushOk : Bool) (a : ℕ) :
    owns (s.flushDriver pauseOk flushOk).2.log a =
      if Flushes pauseOk flushOk s then false else owns s.log a := by
  obtain ⟨_, _, paused, _, _, _, _, received⟩ := s
  cases paused <;> cases received <;> cases pauseOk <;> cases flushOk <;> rfl

theorem owns_suspend (s : AudioSessionOutLPA) (statsOk stopOk : Bool) (a : ℕ) :
    owns (s.suspend statsOk stopOk).log a =
      if s.mPaused = true ∧ stopOk = true then false else owns s.log a := by
  obtain ⟨_, _, paused⟩ := s
  cases paused <;> cases stopOk <;> rfl

theorem owns_sendToDriver (s : AudioSessionOutLPA) (b : BuffersAllocated) (ok : Bool) (a : ℕ) :
    owns (s.sendToDriver b ok).log a =
      if s.mIsDriverStarted = true ∧ ok = true then decide (b.memBuf = a ∨ owns s.log a = true)
      else owns s.log a := by
  unfold sendToDriver reachEos record
  dsimp only
  split_ifs <;> simp_all [owns, aioBuf]

/-- The queues still agree after code that changes neither them nor the ownership. -/
theorem agrees_of_same (ha : Agrees s) (hq : SameQueues s s') (ho : owns s'.log = owns s.log) :
    Agrees s' := by
  refine ⟨fun b hb => ?_, fun b hb => ?_⟩
  · rw [ho]
    exact ha.filled b (hq.filled ▸ hb)
  · rw [ho]
    exact ha.empty b (hq.empty ▸ hb)

/-! ### One operation -/

/-- The addresses in the two queues differ. -/
theorem nodup_queues (hc : Conserved s) (hd : Distinct s) :
    (s.mEmptyQueue.map (·.memBuf) ++ s.mFilledQueue.map (·.memBuf)).Nodup := by
  have h := hc.map IonBuffer.memBuf
  rw [List.map_map, List.map_map, List.map_append] at h
  exact h.nodup_iff.2 hd

/-- A buffer that is queued is the driver's exactly if it is given to the driver. -/
theorem agrees_send {b : BuffersAllocated} {q : List BuffersAllocated} {bytes : ℕ} {ok : Bool}
    {t : AudioSessionOutLPA} (hnd : ∀ x ∈ q, x.memBuf ≠ b.memBuf) (hq : s.mEmptyQueue = b :: q)
    (ha : Agrees s) (ht : t.mEmptyQueue = q)
    (htf : t.mFilledQueue = s.mFilledQueue ++ [{ b with bytesToWrite := bytes }])
    (hto : owns t.log = owns s.log) :
    Agrees (t.sendToDriver { b with bytesToWrite := bytes } ok) ↔
      t.mIsDriverStarted = true ∧ ok = true := by
  have hs := sendToDriver_same t { b with bytesToWrite := bytes } ok
  have ho := owns_sendToDriver t { b with bytesToWrite := bytes } ok
  rw [hto] at ho
  have hb : owns s.log b.memBuf = false := ha.empty b (hq ▸ List.mem_cons_self ..)
  constructor
  · intro h
    by_contra hn
    have := h.filled { b with bytesToWrite := bytes } (by rw [hs.filled, htf]; simp)
    rw [ho, if_neg hn, hb] at this
    cases this
  · intro h
    refine ⟨fun x hx => ?_, fun x hx => ?_⟩
    · rw [hs.filled, htf, List.mem_append, List.mem_singleton] at hx
      rw [ho, if_pos h, decide_eq_true_eq]
      rcases hx with hx | rfl
      · exact .inr (ha.filled x hx)
      · exact .inl rfl
    · rw [hs.empty, ht] at hx
      rw [ho, if_pos h, decide_eq_false_iff_not, not_or]
      refine ⟨(hnd x hx).symm, ?_⟩
      rw [ha.empty x (hq ▸ List.mem_cons_of_mem _ hx)]
      exact Bool.false_ne_true

theorem agrees_write {bytes : ℕ} {ok : Bool} {now : Int} (hc : Conserved s) (hd : Distinct s)
    (ha : Agrees s) (h : step s (.write bytes ok now) = some s') :
    Agrees s' ↔ Handed s (.write bytes ok now) := by
  rcases write_cases h with ⟨hskip, -, rfl⟩ | ⟨b, q, hq, ⟨hskip, hb, rfl⟩ | ⟨h0, -, rfl⟩⟩
  · refine iff_of_true (agrees_of_same ha ⟨rfl, rfl, rfl⟩ rfl) ?_
    intro _ hs
    rw [hskip] at hs
    cases hs
  · have hnd := nodup_queues hc hd
    rw [hq, List.map_cons, List.cons_append, List.nodup_cons, List.mem_append, not_or] at hnd
    have hne : ∀ x ∈ q, x.memBuf ≠ b.memBuf := fun x hx e => hnd.1.1 (e ▸ List.mem_map_of_mem hx)
    set t := pushFilled { b with bytesToWrite := bytes }
      (startClock now (s.record (.called (.write bytes))).takeSkip.dequeue)
    have ht : t.mEmptyQueue = q := by
      show s.mEmptyQueue.tail = q
      rw [hq, List.tail_cons]
    have htf : t.mFilledQueue = s.mFilledQueue ++ [{ b with bytesToWrite := bytes }] := rfl
    have hto : owns t.log = owns s.log := funext fun _ => rfl
    refine (agrees_send hne hq ha ht htf hto).trans ⟨fun h _ _ _ => h, fun h => ?_⟩
    exact h (by simp [hq]) hskip hb
  · set t := (pushEmpty { b with bytesToWrite := 0 }
      (s.record (.called (.write bytes))).takeSkip.dequeue).reachEos
    have hto : owns t.log = owns s.log := funext fun _ => rfl
    have ht : Agrees t := by
      refine ⟨fun x hx => ?_, fun x hx => ?_⟩
      · rw [hto]
        exact ha.filled x hx
      · rw [hto]
        change x ∈ s.mEmptyQueue.tail ++ [_] at hx
        rw [hq, List.tail_cons, List.mem_append, List.mem_singleton] at hx
        rcases hx with hx | rfl
        · exact ha.empty x (hq ▸ List.mem_cons_of_mem _ hx)
        · exact ha.empty b (hq ▸ List.mem_cons_self ..)
    refine iff_of_true ?_ ?_
    · exact agrees_of_same ht (postIfDrained_same t) (owns_postIfDrained t)
    · intro _ hs hpos
      rcases h0 with h0 | h0
      · rw [h0] at hs; cases hs
      · omega

theorem agrees_writeDone (hc : Conserved s) (hd : Distinct s) (ha : Agrees s) (buf_addr : ℕ)
    (fsyncOk : Bool) : Agrees (s.writeDone buf_addr fsyncOk) := by
  have ho : ∀ a, owns (.writeDone buf_addr :: s.log) a = decide (buf_addr ≠ a ∧ owns s.log a = true) :=
    fun _ => rfl
  rcases writeDone_cases s buf_addr fsyncOk with ⟨hb, h⟩ | ⟨b, hb, h⟩
  · rw [h]
    refine ⟨fun x hx => ?_, fun x hx => ?_⟩
    · have hne := List.find?_eq_none.1 hb x hx
      show owns (.writeDone buf_addr :: s.log) x.memBuf = true
      rw [ho, decide_eq_true_eq]
      exact ⟨fun e => hne (by simp [e]), ha.filled x hx⟩
    · show owns (.writeDone buf_addr :: s.log) x.memBuf = false
      rw [ho, decide_eq_false_iff_not, ha.empty x hx]
      simp
  · have hbm : b.memBuf = buf_addr := by simpa using List.find?_some hb
    have hmem : b ∈ s.mFilledQueue := List.mem_of_find?_eq_some hb
    -- the buffer is the only one with its address
    have hrest : ∀ x ∈ s.mFilledQueue.eraseP (fun x => x.memBuf = buf_addr), x.memBuf ≠ buf_addr := by
      intro x hx e
      have hnd : (s.mFilledQueue.map (·.memBuf)).Nodup :=
        (List.nodup_append.1 (nodup_queues hc hd)).2.1
      have hp := (perm_of_find? hb).map (·.memBuf)
      rw [hp.nodup_iff, List.map_cons, List.nodup_cons] at hnd
      exact hnd.1 (hbm.trans e.symm ▸ List.mem_map_of_mem hx)
    have ht : Agrees (((s.record (.writeDone buf_addr)).eraseFilled buf_addr).pushEmpty b) := by
      refine ⟨fun x hx => ?_, fun x hx => ?_⟩
      · show owns (.writeDone buf_addr :: s.log) x.memBuf = true
        rw [ho, decide_eq_true_eq]
        exact ⟨(hrest x hx).symm, ha.filled x (List.mem_of_mem_eraseP hx)⟩
      · show owns (.writeDone buf_addr :: s.log) x.memBuf = false
        rw [ho, decide_eq_false_iff_not]
        rcases List.mem_append.1 (show x ∈ s.mEmptyQueue ++ [b] from hx) with hx | hx
        · rw [ha.empty x hx]
          simp
        · rw [List.mem_singleton.1 hx, hbm]
          simp
    rcases h with ⟨-, -, h⟩ | ⟨-, h⟩
    · rw [h]
      exact agrees_of_same ht ⟨rfl, rfl, rfl⟩ rfl
    · rw [h]
      refine agrees_of_same ht (receiveEos_same _) ?_
      unfold receiveEos
      split <;> rfl

theorem agrees_flush (hc : Conserved s) (ha : Agrees s) (pauseOk flushOk : Bool) :
    Agrees (s.flush pauseOk flushOk).2 ↔ Handed s (.flush pauseOk flushOk) := by
  have hs := flushDriver_same (s.record (.called .flush)).refill pauseOk flushOk
  have ho : ∀ a, owns (s.flush pauseOk flushOk).2.log a =
      if Flushes pauseOk flushOk s then false else owns s.log a := owns_flushDriver _ pauseOk flushOk
  have hf : (s.flush pauseOk flushOk).2.mFilledQueue = [] := hs.filled
  have he : (s.flush pauseOk flushOk).2.mEmptyQueue = s.mBufPool := hs.empty
  by_cases hfl : Flushes pauseOk flushOk s
  · refine iff_of_true ⟨by simp [hf], fun x _ => ?_⟩ (.inr hfl)
    rw [ho, if_pos hfl]
  · constructor
    · -- a buffer of `mFilledQueue` is in the pool, and still the driver's
      intro h
      refine .inl (List.eq_nil_iff_forall_not_mem.2 fun x hx => ?_)
      have hmem : x.toIonBuffer ∈ s.mBufPool.map (·.toIonBuffer) :=
        hc.subset (List.mem_map_of_mem (List.mem_append_right _ hx))
      obtain ⟨y, hy, hxy⟩ := List.mem_map.1 hmem
      have := h.empty y (he ▸ hy)
      rw [ho, if_neg hfl, hxy, ha.filled x hx] at this
      cases this
    · rintro (h | h)
      · refine ⟨by simp [hf], fun y hy => ?_⟩
        rw [he] at hy
        have hmem : y.toIonBuffer ∈ (s.mEmptyQueue ++ s.mFilledQueue).map (·.toIonBuffer) :=
          hc.symm.subset (List.mem_map_of_mem hy)
        rw [h, List.append_nil] at hmem
        obtain ⟨x, hx, hxy⟩ := List.mem_map.1 hmem
        rw [ho, if_neg hfl, ← hxy]
        exact ha.empty x hx
      · exact absurd h hfl

theorem agrees_suspend (ha : Agrees s) (statsOk stopOk : Bool) :
    Agrees (s.suspend statsOk stopOk) ↔ Handed s (.suspend statsOk stopOk) := by
  have hs := suspend_same s statsOk stopOk
  have ho := owns_suspend s statsOk stopOk
  by_cases h : s.mPaused = true ∧ stopOk = true
  · constructor
    · intro h' _ _
      refine List.eq_nil_iff_forall_not_mem.2 fun x hx => ?_
      have := h'.filled x (hs.filled.symm ▸ hx)
      rw [ho, if_pos h] at this
      cases this
    · intro h'
      refine ⟨?_, fun x _ => by rw [ho, if_pos h]⟩
      rw [hs.filled, h' h.1 h.2]
      simp
  · refine iff_of_true (agrees_of_same ha hs ?_) fun h1 h2 => absurd ⟨h1, h2⟩ h
    funext a
    rw [ho, if_neg h]

/-- **One operation.** From a state where the queues agree with the driver, they still do after an
operation if and only if the operation meets the condition. -/
theorem agrees_step {op : Op} (hc : Conserved s) (hd : Distinct s) (ha : Agrees s)
    (h : step s op = some s') : Agrees s' ↔ Handed s op := by
  cases op with
  | write bytes ok now => exact agrees_write hc hd ha h
  | writeDone buf_addr fsyncOk =>
    cases h
    exact iff_of_true (agrees_writeDone hc hd ha buf_addr fsyncOk) trivial
  | flush pauseOk flushOk =>
    cases h
    exact agrees_flush hc ha pauseOk flushOk
  | suspend statsOk stopOk =>
    cases h
    exact agrees_suspend ha statsOk stopOk
  | start o now =>
    cases h
    exact iff_of_true (agrees_of_same ha (start_same s o now) (owns_start s o now)) trivial
  | pause ok now =>
    cases h
    exact iff_of_true (agrees_of_same ha ⟨rfl, rfl, rfl⟩ rfl) trivial
  | stop | setObserver =>
    cases h
    exact iff_of_true (agrees_of_same ha ⟨rfl, rfl, rfl⟩ rfl) trivial

/-! ### Runs -/

theorem owns_memBufferAlloc (nSize : ℕ) (o : AllocOutcome) (s : AudioSessionOutLPA) :
    owns (memBufferAlloc nSize o s).2.2.log = owns s.log := by
  funext a
  unfold memBufferAlloc
  split_ifs
  · rfl
  · rfl
  · split <;> rfl

theorem owns_allocLoop (os : List AllocOutcome) (ion_fd : Int) (s : AudioSessionOutLPA) :
    owns (allocLoop os ion_fd s).log = owns s.log := by
  induction os generalizing ion_fd s with
  | nil => rfl
  | cons o os ih =>
    refine (ih _ _).trans ?_
    rw [← owns_memBufferAlloc LPA_BUFFER_SIZE o s]
    funext a
    rfl

/-- The driver owns nothing when the session has been constructed. -/
theorem owns_construct (format : AudioFormat) (channels samplingRate : ℕ) (o : OpenOutcome) (a : ℕ) :
    owns (construct format channels samplingRate o).2.log a = false := by
  unfold construct openAudioSessionDevice bufferAlloc
  dsimp only
  split_ifs
  · rfl
  · rfl
  · exact congrFun (owns_start _ o.start o.now) a
  · rw [owns_allocLoop]
    exact congrFun (owns_start _ o.start o.now) a

/-- `write` is carried out when `mEmptyQueue` is not empty. -/
theorem exists_step_write (bytes : ℕ) (ok : Bool) (now : Int) (h : s.mEmptyQueue ≠ []) :
    ∃ s', step s (.write bytes ok now) = some s' := by
  rw [← Option.ne_none_iff_exists', step, ne_eq, Option.map_eq_none_iff]
  unfold write
  dsimp only
  cases (s.record (.called (.write bytes))).bytesLeft bytes with
  | none => simp
  | some n =>
    cases hq : s.mEmptyQueue with
    | nil => exact absurd hq h
    | cons b q =>
      dsimp only
      rw [show (s.record (.called (.write bytes))).takeSkip.mEmptyQueue = b :: q from hq]
      dsimp only
      split <;> simp

/-- An operation that cannot be carried out meets the condition. -/
theorem handed_of_none {op : Op} (h : step s op = none) : Handed s op := by
  cases op with
  | write bytes ok now =>
    intro hq
    obtain ⟨s', hs⟩ := exists_step_write bytes ok now hq
    rw [h] at hs
    cases hs
  | _ => cases h

/-- **When the queues agree with the driver.** From the constructor on, the queues agree with the
driver after every operation of a run if and only if every operation meets the condition. -/
theorem agrees_iff_handed {format : AudioFormat} {channels samplingRate : ℕ} {o : OpenOutcome}
    (hd : Distinct (construct format channels samplingRate o).2) (ls : List Op) :
    Runs.Along step (Runs.Ends step Agrees) (construct format channels samplingRate o).2 ls ↔
      Runs.Along step Handed (construct format channels samplingRate o).2 ls := by
  have hf := fresh_construct format channels samplingRate o
  have ha : Agrees (construct format channels samplingRate o).2 :=
    ⟨by simp [hf.filled], fun b _ => owns_construct format channels samplingRate o b.memBuf⟩
  refine Runs.along_congr (A := fun _ => True) (I := fun s => Conserved s ∧ Distinct s ∧ Agrees s)
    ?_ ?_ ⟨hf.conserved, hd, ha⟩ fun _ _ => trivial
  · rintro s op - ⟨hc, hd, ha⟩
    constructor
    · intro h
      cases hs : step s op with
      | none => exact handed_of_none hs
      | some s' => exact (agrees_step hc hd ha hs).1 (h s' hs)
    · exact fun h s' hs => (agrees_step hc hd ha hs).2 h
  · rintro s op s' - ⟨hc, hd, -⟩ h hs
    refine ⟨conserved_step hc hs, ?_, h s' hs⟩
    unfold Distinct
    rw [pool_step hs]
    exact hd

theorem agrees_of_aStream :
    Runs.Along step (Runs.Ends step Agrees) (construct .pcm16Bit 2 44100 twoBuffers).2 aStream :=
  (agrees_iff_handed (by decide) aStream).2 (by decide +kernel)

/-- A `SUSPEND` while paused stops the driver, which gives up the buffer; it stays in
`mFilledQueue`. -/
theorem stranded_by_suspend :
    ¬ Runs.Along step (Runs.Ends step Agrees) (construct .pcm16Bit 2 44100 twoBuffers).2
      [.write LPA_BUFFER_SIZE true 2, .pause true 3, .suspend true true] := by
  decide +kernel

end AudioSessionOutLPA

end Msm7x27a.Lpa
