import Msm7x27a.Lib.Log
import Msm7x27a.Lpa.Queues

/-!
# The end of the stream

`mObserver->postEOS` is called with `mFilledQueue` empty and after a write shorter than
`LPA_BUFFER_SIZE` since the last `flush`, and at most once between two calls of `flush`: `PostOk` is
that condition on a call of `postEOS` and the log before it.

`write` posts only while `mEosEventReceived` is not set; a `WRITE_DONE` event does not look at it
before it posts, so a session that is written to after the end of the stream posts it again
(`posted_twice`).  `eos_once` is the property for runs in which no `WRITE_DONE` does so.
-/

namespace Msm7x27a.Lpa

open Msm7x27a.Audio

/-- A write shorter than `LPA_BUFFER_SIZE` has been made since the last `flush`. -/
def shortSinceFlush : List Event → Bool
  | [] => false
  | .called .flush :: _ => false
  | .called (.write bytes) :: log => bytes < LPA_BUFFER_SIZE ∨ shortSinceFlush log
  | _ :: log => shortSinceFlush log

/-- The end of the stream has been posted since the last `flush`. -/
def postedSinceFlush : List Event → Bool
  | [] => false
  | .called .flush :: _ => false
  | .postEOS _ :: _ => true
  | _ :: log => postedSinceFlush log

/-- What holds of every call of `postEOS`. -/
def PostOk (before : List Event) : Event → Prop
  | .postEOS filled => filled = [] ∧ shortSinceFlush before = true ∧ postedSinceFlush before = false
  | _ => True

/-- The condition on an operation: a `WRITE_DONE` event that ends the stream, with an observer,
finds `mEosEventReceived` not set. -/
def NotReceived (s : AudioSessionOutLPA) : Op → Prop
  | .writeDone buf_addr _ => s.findFilled buf_addr ≠ none → (s.eraseFilled buf_addr).EndsStream →
      s.mObserver = true → s.mEosEventReceived = false
  | _ => True

instance (before : List Event) (e : Event) : Decidable (PostOk before e) := by
  cases e <;> unfold PostOk <;> infer_instance

instance (s : AudioSessionOutLPA) (op : Op) : Decidable (NotReceived s op) := by
  cases op <;> unfold NotReceived <;> infer_instance

/-- The event is neither a call of the client, nor an answer to it, nor a call of the observer. -/
def Event.Quiet : Event → Prop
  | .called _ | .postEOS _ | .available .. | .readsEnd => False
  | _ => True

theorem shortSinceFlush_append {l log : List Event} (h : ∀ e ∈ l, e.Quiet) :
    shortSinceFlush (l ++ log) = shortSinceFlush log := by
  refine Log.read_append fun e he log => ?_
  have hquiet := h e he
  cases e with
  | called c => exact hquiet.elim
  | _ => rfl

theorem postedSinceFlush_append {l log : List Event} (h : ∀ e ∈ l, e.Quiet) :
    postedSinceFlush (l ++ log) = postedSinceFlush log := by
  refine Log.read_append fun e he log => ?_
  have hquiet := h e he
  cases e with
  | called c => exact hquiet.elim
  | postEOS filled => exact hquiet.elim
  | _ => rfl

theorem always_append {l log : List Event} (h : Log.Always PostOk log) (hl : ∀ e ∈ l, e.Quiet) :
    Log.Always PostOk (l ++ log) := by
  refine h.append fun e he log => ?_
  have := hl e he
  cases e with
  | postEOS filled => exact this.elim
  | _ => trivial

namespace AudioSessionOutLPA

variable {s s' : AudioSessionOutLPA}

/-! ### Code that posts nothing -/

/-- Nothing is posted and no call of the client begins; the end of the stream is not reached, and
not forgotten once received. -/
structure Quietly (s s' : AudioSessionOutLPA) : Prop where
  log : ∃ l, s'.log = l ++ s.log ∧ ∀ e ∈ l, e.Quiet
  reached : s'.mReachedEOS = true → s.mReachedEOS = true
  received : s.mEosEventReceived = true → s'.mEosEventReceived = true

theorem Quietly.refl (s : AudioSessionOutLPA) : Quietly s s := ⟨⟨[], rfl, by simp⟩, id, id⟩

theorem Quietly.trans {a b c : AudioSessionOutLPA} (h : Quietly a b) (h' : Quietly b c) :
    Quietly a c := by
  obtain ⟨l, hl, hq⟩ := h.log
  obtain ⟨l', hl', hq'⟩ := h'.log
  refine ⟨⟨l' ++ l, ?_, ?_⟩, fun e => h.reached (h'.reached e), fun e => h'.received (h.received e)⟩
  · rw [hl', hl, List.append_assoc]
  · intro e he
    rcases List.mem_append.1 he with he | he
    · exact hq' e he
    · exact hq e he

/-- Nothing is recorded. -/
theorem Quietly.silent (hl : s'.log = s.log)
    (hr : s'.mReachedEOS = true → s.mReachedEOS = true)
    (hv : s.mEosEventReceived = true → s'.mEosEventReceived = true) : Quietly s s' :=
  ⟨⟨[], hl, by simp⟩, hr, hv⟩

theorem startDriver_quietly (ok : Bool) (now : Int) (s : AudioSessionOutLPA) :
    Quietly s (startDriver ok now s).2 := by
  unfold startDriver
  dsimp only
  split <;> exact ⟨⟨[.audioStart ok], rfl, by simp [Event.Quiet]⟩, id, id⟩

theorem start_quietly (s : AudioSessionOutLPA) (o : StartOutcome) (now : Int) :
    Quietly s (s.start o now).2 := by
  unfold start
  split
  · exact ⟨⟨[.audioPause false o.resume], rfl, by simp [Event.Quiet]⟩, id, id⟩
  · dsimp only
    split
    · split
      · exact ⟨⟨[.closed s.afd, .getConfig o.getConfig], rfl, by simp [Event.Quiet]⟩, id, id⟩
      · split
        · exact ⟨⟨[.closed s.afd, .setConfig s.mSampleRate s.mChannels o.setConfig,
            .getConfig o.getConfig], rfl, by simp [Event.Quiet]⟩, id, id⟩
        · refine Quietly.trans ?_ (startDriver_quietly ..)
          exact ⟨⟨[.setConfig s.mSampleRate s.mChannels o.setConfig, .getConfig o.getConfig], rfl,
            by simp [Event.Quiet]⟩, id, id⟩
    · refine Quietly.trans ?_ (startDriver_quietly ..)
      exact .silent rfl id id

theorem suspend_quietly (s : AudioSessionOutLPA) (statsOk stopOk : Bool) :
    Quietly s (s.suspend statsOk stopOk) := by
  unfold suspend
  split
  · exact .refl s
  · refine ⟨⟨[.audioStop stopOk, .getStats statsOk], rfl, by simp [Event.Quiet]⟩, fun e => ?_, id⟩
    cases e

/-- `flushDriver` forgets that the end of the stream was reached. -/
theorem flushDriver_log (s : AudioSessionOutLPA) (pauseOk flushOk : Bool) :
    (s.flushDriver pauseOk flushOk).2.mReachedEOS = false ∧
      ∃ l, (s.flushDriver pauseOk flushOk).2.log = l ++ s.log ∧ ∀ e ∈ l, e.Quiet := by
  unfold flushDriver record
  dsimp only
  split_ifs
  · exact ⟨rfl, [.audioPause true pauseOk], rfl, by simp [Event.Quiet]⟩
  · exact ⟨rfl, [.audioFlush flushOk, .audioPause true pauseOk], rfl, by simp [Event.Quiet]⟩
  · exact ⟨rfl, [.audioFlush flushOk, .audioPause true pauseOk], rfl, by simp [Event.Quiet]⟩
  · exact ⟨rfl, [], rfl, by simp⟩
  · exact ⟨rfl, [.audioFlush flushOk], rfl, by simp [Event.Quiet]⟩
  · exact ⟨rfl, [.audioPause true pauseOk, .audioFlush flushOk], rfl, by simp [Event.Quiet]⟩
  · exact ⟨rfl, [.audioPause true pauseOk, .audioFlush flushOk], rfl, by simp [Event.Quiet]⟩

theorem memBufferAlloc_quietly (nSize : ℕ) (o : AllocOutcome) (s : AudioSessionOutLPA) :
    Quietly s (memBufferAlloc nSize o s).2.2 := by
  unfold memBufferAlloc record
  split_ifs
  · exact .refl s
  · exact ⟨⟨[.ionFree o.handle], rfl, by simp [Event.Quiet]⟩, id, id⟩
  · split
    · exact ⟨⟨[.ionFree o.handle, .closed o.fd], rfl, by simp [Event.Quiet]⟩, id, id⟩
    · exact ⟨⟨[.ionFree o.handle, .closed o.fd, .munmap _ nSize], rfl, by simp [Event.Quiet]⟩, id, id⟩
    · exact .silent rfl id id

theorem allocLoop_quietly (os : List AllocOutcome) (ion_fd : Int) (s : AudioSessionOutLPA) :
    Quietly s (allocLoop os ion_fd s) := by
  induction os generalizing ion_fd s with
  | nil => exact .refl s
  | cons o os ih =>
    refine (memBufferAlloc_quietly LPA_BUFFER_SIZE o s).trans (Quietly.trans ?_ (ih _ _))
    exact ⟨⟨[.registerIon _ _ o.register], rfl, by simp [Event.Quiet]⟩, id, id⟩

theorem construct_quietly (format : AudioFormat) (channels samplingRate : ℕ) (o : OpenOutcome) :
    Quietly {} (construct format channels samplingRate o).2 := by
  set s : AudioSessionOutLPA := { mSampleRate := samplingRate, mChannels := channels, afd := o.afd }
  have hs : Quietly {} s := .silent rfl id id
  unfold construct openAudioSessionDevice bufferAlloc
  dsimp only
  split_ifs
  · exact .silent rfl id id
  · exact hs
  · exact (hs.trans (start_quietly s o.start o.now)).trans (.silent rfl id id)
  · refine (hs.trans (start_quietly s o.start o.now)).trans (.trans ?_ (allocLoop_quietly ..))
    exact .silent rfl id id

/-! ### Runs -/

/-- The flags and the log: what is posted is as it should be, what has been posted has been
received, and the end of the stream is reached by short writes only. -/
structure EosInv (s : AudioSessionOutLPA) : Prop where
  posts : Log.Always PostOk s.log
  received : postedSinceFlush s.log = true → s.mEosEventReceived = true
  reached : s.mReachedEOS = true → shortSinceFlush s.log = true

theorem EosInv.of_quietly (h : EosInv s) (hq : Quietly s s') : EosInv s' := by
  obtain ⟨l, hl, hquiet⟩ := hq.log
  refine ⟨?_, fun e => hq.received (h.received ?_), fun e => ?_⟩
  · rw [hl]
    exact always_append h.posts hquiet
  · rwa [hl, postedSinceFlush_append hquiet] at e
  · rw [hl, shortSinceFlush_append hquiet]
    exact h.reached (hq.reached e)

/-- The end of the stream is received for the first time, and posted. -/
theorem EosInv.post (h : EosInv s) (hs : shortSinceFlush s.log = true)
    (hr : s.mEosEventReceived = false) :
    EosInv ({ s with mEosEventReceived := true }.record (.postEOS [])) := by
  refine ⟨⟨⟨rfl, hs, ?_⟩, h.posts⟩, fun _ => rfl, fun _ => hs⟩
  by_contra hne
  have := h.received ((Bool.not_eq_false _).mp hne)
  rw [hr] at this
  cases this

/-- A call of `write` has begun. -/
theorem EosInv.called_write (h : EosInv s) (bytes : ℕ) :
    EosInv (s.record (.called (.write bytes))) := by
  refine ⟨⟨trivial, h.posts⟩, h.received, fun e => ?_⟩
  show decide (bytes < LPA_BUFFER_SIZE ∨ shortSinceFlush s.log = true) = true
  rw [decide_eq_true_eq]
  exact .inr (h.reached e)

theorem eosInv_sendToDriver (h : EosInv s) (b : BuffersAllocated) (ok : Bool)
    (hb : b.bytesToWrite < LPA_BUFFER_SIZE → shortSinceFlush s.log = true) :
    EosInv (s.sendToDriver b ok) := by
  have ht : EosInv (if s.mIsDriverStarted then s.record (.asyncWrite (aioBuf b) ok) else s) ∧
      shortSinceFlush (if s.mIsDriverStarted then s.record (.asyncWrite (aioBuf b) ok) else s).log =
        shortSinceFlush s.log := by
    split
    · exact ⟨h.of_quietly ⟨⟨[.asyncWrite (aioBuf b) ok], rfl, by simp [Event.Quiet]⟩, id, id⟩, rfl⟩
    · exact ⟨h, rfl⟩
  unfold sendToDriver
  dsimp only
  split
  · refine ⟨ht.1.posts, ht.1.received, fun _ => ?_⟩
    exact ht.2.trans (hb ‹_›)
  · exact ht.1

theorem eosInv_write {bytes : ℕ} {ok : Bool} {now : Int} (h : EosInv s)
    (hs : step s (.write bytes ok now) = some s') : EosInv s' := by
  have hw := h.called_write bytes
  have hshort : bytes < LPA_BUFFER_SIZE →
      shortSinceFlush (s.record (.called (.write bytes))).log = true := by
    intro hb
    show decide (bytes < LPA_BUFFER_SIZE ∨ shortSinceFlush s.log = true) = true
    rw [decide_eq_true_eq]
    exact .inl hb
  rcases write_cases hs with ⟨-, -, rfl⟩ | ⟨b, q, -, ⟨-, -, rfl⟩ | ⟨-, hb, rfl⟩⟩
  · exact hw.of_quietly (.silent rfl id id)
  · refine eosInv_sendToDriver ?_ _ ok hshort
    exact hw.of_quietly (.silent rfl id id)
  · set t := (pushEmpty { b with bytesToWrite := 0 }
      (s.record (.called (.write bytes))).takeSkip.dequeue).reachEos
    have ht : EosInv t := ⟨hw.posts, hw.received, fun _ => hshort hb⟩
    unfold postIfDrained
    split
    · rename_i hd
      have hq : t.mFilledQueue = [] := List.isEmpty_iff.1 hd.1
      unfold postEos
      split
      · have := ht.post (hshort hb) hd.2
        rwa [← hq] at this
      · exact ⟨ht.posts, fun _ => rfl, ht.reached⟩
    · exact ht

theorem eosInv_writeDone {buf_addr : ℕ} {fsyncOk : Bool} (h : EosInv s)
    (hn : NotReceived s (.writeDone buf_addr fsyncOk)) : EosInv (s.writeDone buf_addr fsyncOk) := by
  have hr : EosInv (s.record (.writeDone buf_addr)) :=
    h.of_quietly ⟨⟨[.writeDone buf_addr], rfl, by simp [Event.Quiet]⟩, id, id⟩
  rcases writeDone_cases s buf_addr fsyncOk with ⟨-, e⟩ | ⟨b, hb, ⟨hends, ho, e⟩ | ⟨hno, e⟩⟩
  · rw [e]
    exact hr
  · have hrec : s.mEosEventReceived = false := hn (by rw [hb]; simp) hends ho
    set t := ((s.record (.writeDone buf_addr)).eraseFilled buf_addr).pushEmpty b
    have ht : EosInv (t.record (.fsync fsyncOk)) :=
      hr.of_quietly ⟨⟨[.fsync fsyncOk], rfl, by simp [Event.Quiet]⟩, id, id⟩
    rw [e]
    exact ht.post (ht.reached hends.2.1) hrec
  · rw [e]
    refine hr.of_quietly (.silent ?_ ?_ ?_)
    · unfold receiveEos
      split <;> rfl
    · unfold receiveEos
      split <;> exact id
    · unfold receiveEos
      split
      · exact fun _ => rfl
      · exact id

theorem eosInv_flush (h : EosInv s) (pauseOk flushOk : Bool) :
    EosInv (s.flush pauseOk flushOk).2 := by
  obtain ⟨hr, l, hl, hq⟩ := flushDriver_log (s.record (.called .flush)).refill pauseOk flushOk
  refine ⟨?_, fun e => ?_, fun e => ?_⟩
  · rw [flush, hl]
    exact always_append ⟨trivial, h.posts⟩ hq
  · rw [flush, hl, postedSinceFlush_append hq] at e
    cases e
  · rw [flush, hr] at e
    cases e

theorem eosInv_step {op : Op} (h : EosInv s) (hn : NotReceived s op) (hs : step s op = some s') :
    EosInv s' := by
  cases op with
  | write bytes ok now => exact eosInv_write h hs
  | writeDone buf_addr fsyncOk =>
    cases hs
    exact eosInv_writeDone h hn
  | flush pauseOk flushOk =>
    cases hs
    exact eosInv_flush h pauseOk flushOk
  | start o now =>
    cases hs
    exact h.of_quietly (start_quietly s o now)
  | suspend statsOk stopOk =>
    cases hs
    exact h.of_quietly (suspend_quietly s statsOk stopOk)
  | pause ok now =>
    cases hs
    exact h.of_quietly ⟨⟨[.audioPause true ok], rfl, by simp [Event.Quiet]⟩, id, id⟩
  | stop | setObserver =>
    cases hs
    exact h.of_quietly (.silent rfl id id)

/-- **The end of the stream is posted once.** In every run in which no `WRITE_DONE` event ends the
stream with `mEosEventReceived` set, every call of `postEOS` finds `mFilledQueue` empty and comes
after a short write since the last `flush`, and none comes after another without a `flush`
between them. -/
theorem eos_once {format : AudioFormat} {channels samplingRate : ℕ} {o : OpenOutcome} {ls : List Op}
    (hn : Runs.Along step NotReceived (construct format channels samplingRate o).2 ls)
    (hr : Runs.run step (construct format channels samplingRate o).2 ls = some s) :
    Log.Always PostOk s.log := by
  have h0 : EosInv {} := by
    refine ⟨trivial, fun e => ?_, fun e => ?_⟩ <;> cases e
  have h := h0.of_quietly (construct_quietly format channels samplingRate o)
  exact (Runs.run_inv (fun _ _ _ h hn hs => eosInv_step h hn hs) h hn hr).posts

theorem eos_once_aStream :
    ∃ s, Runs.run step (construct .pcm16Bit 2 44100 twoBuffers).2 aStream = some s ∧
      .postEOS [] ∈ s.log ∧ Log.Always PostOk s.log := by
  have h : ∃ s, Runs.run step (construct .pcm16Bit 2 44100 twoBuffers).2 aStream = some s ∧
      .postEOS [] ∈ s.log := Runs.exists_run (by decide +kernel)
  obtain ⟨s, hr, hp⟩ := h
  exact ⟨s, hr, hp, eos_once (by decide +kernel) hr⟩

/-- A write after the end of the stream: its `WRITE_DONE` posts the end again. -/
theorem posted_twice :
    ∃ s, Runs.run step (construct .pcm16Bit 2 44100 twoBuffers).2
      [.setObserver true, .write 100 true 2, .writeDone 0x1000 true, .write LPA_BUFFER_SIZE true 3,
        .writeDone 0x2000 true] = some s ∧ ¬ Log.Always PostOk s.log :=
  Runs.exists_run (by decide +kernel)

end AudioSessionOutLPA

end Msm7x27a.Lpa
