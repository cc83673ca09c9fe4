import Msm7x27a.Lib.Rely
import Msm7x27a.Lpa.Eos
import Msm7x27a.Lpa.Wakeup

/-!
# A buffer announced as available

One client calls `isBufferAvailable`, and `write` only after it has returned with `*isAvail` true;
the other threads run everything else.  The others only add to `mEmptyQueue` and only set
`mSkipWrite`, so that a buffer the client has seen, or was woken for, is still there when it takes
it.  After its wait, though, `isBufferAvailable` does not look at `mEmptyQueue` again: when it is
woken while there is nothing to be woken for, it announces a buffer that is not there
(`announced_nothing`).  Where that does not happen, every buffer announced exists and `write` finds
one (`sound_of_run`).
-/

namespace Msm7x27a.Lpa

open Msm7x27a.Threads Msm7x27a.Audio

/-- The client asks, is answered, or reads beyond the queue. -/
def Event.Client : Event → Prop
  | .called (.write _) | .available .. | .readsEnd => True
  | _ => False

/-- A buffer that is announced exists, and nothing is read beyond the queue. -/
def Event.Sound : Event → Prop
  | .available true empty => empty ≠ []
  | .readsEnd => False
  | _ => True

instance : DecidablePred Event.Sound := fun e => by unfold Event.Sound; split <;> infer_instance

/-- The client's last call is of `isBufferAvailable`, and has returned with `*isAvail` true. -/
def announced : List Event → Bool
  | [] => false
  | .available isAvail _ :: _ => isAvail
  | .called (.write _) :: _ => false
  | _ :: log => announced log

/-- The client writes only what has been announced, and the others run everything else. -/
def politeClient {τ : Type} [DecidableEq τ] (a t : τ) (i : Request) (s : AudioSessionOutLPA) : Bool :=
  if t = a then
    match i with
    | .isBufferAvailable => true
    | .op (.write ..) => announced s.log
    | _ => false
  else !i.client

theorem announced_of_grows {log log' : List Event} (h : Log.Grows (fun e => ¬ e.Client) log log') :
    announced log' = announced log := by
  refine h.read_eq fun e he log => ?_
  cases e with
  | called c =>
    cases c with
    | write => exact absurd trivial he
    | flush => rfl
  | available => exact absurd trivial he
  | _ => rfl

theorem Event.Quiet.not_client {e : Event} (h : e.Quiet) : ¬ e.Client := by
  intro hc
  cases e with
  | called | available | readsEnd => exact h
  | _ => exact hc

theorem Event.sound_of_not_client {e : Event} (h : ¬ e.Client) : e.Sound := by
  cases e with
  | available | readsEnd => exact absurd trivial h
  | _ => trivial

namespace Programs

open AudioSessionOutLPA

/-! ### What the threads do to the session -/

/-- The queue stays not empty and the flag set, and no event of the client is recorded. -/
structure Spares (s s' : AudioSessionOutLPA) : Prop where
  pool : s'.mBufPool = s.mBufPool
  empty : s.mBufPool ≠ [] → s.mEmptyQueue ≠ [] → s'.mEmptyQueue ≠ []
  skip : s.mSkipWrite = true → s'.mSkipWrite = true
  log : Log.Grows (fun e => ¬ e.Client) s.log s'.log

/-- What a region of the client is run with. -/
def Finds : Region → AudioSessionOutLPA → Prop
  | .found, s | .dequeue, s => s.mEmptyQueue ≠ []
  | .waited, s => s.mSkipWrite = false → s.mEmptyQueue ≠ []
  | _, _ => True

/-- The pool stays, a region of the client records soundly what it finds, and the others spare the
client. -/
def AvailAt (i : Request) (H : Set Mutex) : Code → Prop
  | .done => H = ∅
  | .act r f _ _ => ∀ s, (f s).mBufPool = s.mBufPool ∧
      (Finds r s → Log.Grows Event.Sound s.log (f s).log) ∧ (i.client = false → Spares s (f s))
  | _ => True

section Code

variable {G : Region → AudioSessionOutLPA → Prop} {H : Set Mutex} {m : Mutex} {i : Request} {k : Code}

theorem avail_unlock (hm : m ∉ H) (h : Each (AvailAt i) G H k) :
    Each (AvailAt i) G (insert m H) (.unlock m k) :=
  Each.unlock hm trivial h

theorem avail_lock (h : Each (AvailAt i) G (insert m H) k) : Each (AvailAt i) G H (.lock m k) :=
  ⟨trivial, h⟩

/-- A region that spares the client, whoever runs it. -/
theorem avail_spares {r : Region} {f : AudioSessionOutLPA → AudioSessionOutLPA}
    {sig : AudioSessionOutLPA → Option CondVar} {k : AudioSessionOutLPA → Code}
    (hf : ∀ s, Spares s (f s)) (h : ∀ s, Each (AvailAt i) G H (k s)) :
    Each (AvailAt i) G H (.act r f sig k) := by
  refine ⟨fun s => ⟨(hf s).pool, fun _ => ?_, fun _ => hf s⟩, fun s _ => h s⟩
  exact (hf s).log.mono fun _ => Event.sound_of_not_client

/-- A region of the client. -/
theorem avail_client {r : Region} {f : AudioSessionOutLPA → AudioSessionOutLPA}
    {sig : AudioSessionOutLPA → Option CondVar} {k : AudioSessionOutLPA → Code}
    (hi : i.client = true) (hp : ∀ s, (f s).mBufPool = s.mBufPool)
    (hf : ∀ s, Finds r s → Log.Grows Event.Sound s.log (f s).log)
    (h : ∀ s, Each (AvailAt i) G H (k s)) : Each (AvailAt i) G H (.act r f sig k) :=
  ⟨fun s => ⟨hp s, hf s, fun e => by simp [hi] at e⟩, fun s _ => h s⟩

/-- A region that records nothing and leaves the queue and the flag. -/
theorem spares_silent {s s' : AudioSessionOutLPA} (hp : s'.mBufPool = s.mBufPool)
    (he : s'.mEmptyQueue = s.mEmptyQueue) (hs : s'.mSkipWrite = s.mSkipWrite)
    (hl : s'.log = s.log) : Spares s s' :=
  ⟨hp, fun _ => by rw [he]; exact id, fun e => hs.trans e, hl ▸ Log.Grows.refl _⟩

/-- A region that records quiet events and leaves the queue and the flag. -/
theorem spares_quiet {s s' : AudioSessionOutLPA} (h : SameQueues s s')
    (hs : s.mSkipWrite = true → s'.mSkipWrite = true)
    (hl : ∃ l, s'.log = l ++ s.log ∧ ∀ e ∈ l, e.Quiet) : Spares s s' := by
  refine ⟨h.pool, fun _ => by rw [h.empty]; exact id, hs, ?_⟩
  exact Log.Grows.mono hl fun _ => Event.Quiet.not_client

theorem spares_record {s : AudioSessionOutLPA} {e : Event} (he : ¬ e.Client) :
    Spares s (s.record e) :=
  ⟨rfl, fun _ => id, id, [e], rfl, by simpa using he⟩

theorem avail_end : Each (AvailAt i) G (insert .mLock ∅) (.unlock .mLock .done : Code) :=
  avail_unlock (Set.notMem_empty _) rfl

theorem spares_postIfDrained (s : AudioSessionOutLPA) : Spares s s.postIfDrained := by
  unfold postIfDrained postEos
  split
  · split
    · exact ⟨rfl, fun _ => id, id, [.postEOS s.mFilledQueue], rfl, by simp [Event.Client]⟩
    · exact spares_silent rfl rfl rfl rfl
  · exact spares_silent rfl rfl rfl rfl

theorem spares_sendToDriver (b : BuffersAllocated) (ok : Bool) (s : AudioSessionOutLPA) :
    Spares s (s.sendToDriver b ok) := by
  unfold sendToDriver
  dsimp only
  split_ifs
  · exact ⟨rfl, fun _ => id, id, [.asyncWrite (aioBuf b) ok], rfl, by simp [Event.Client]⟩
  · exact spares_silent rfl rfl rfl rfl
  · exact ⟨rfl, fun _ => id, id, [.asyncWrite (aioBuf b) ok], rfl, by simp [Event.Client]⟩
  · exact spares_silent rfl rfl rfl rfl

theorem spares_pushEmpty (b : BuffersAllocated) (s : AudioSessionOutLPA) :
    Spares s (s.pushEmpty b) :=
  ⟨rfl, fun _ _ => by simp [pushEmpty], id, Log.Grows.refl _⟩

theorem avail_write (bytes : ℕ) (ok : Bool) (now : Int) :
    Each (AvailAt (.op (.write bytes ok now))) G ∅ (write bytes ok now) := by
  have hempty : Mutex.mEmptyQueueMutex ∉ (insert .mLock ∅ : Set Mutex) := by simp
  have hfilled : Mutex.mFilledQueueMutex ∉ (insert .mLock ∅ : Set Mutex) := by simp
  refine avail_lock <| avail_client rfl (fun _ => rfl) ?_ fun s => ?_
  · exact fun s _ => ⟨[.called (.write bytes)], rfl, by simp [Event.Sound]⟩
  split
  · exact avail_end
  · refine avail_lock <| avail_client rfl ?_ ?_ fun s => avail_unlock hempty ?_
    · intro s
      split <;> rfl
    · intro s hs
      have hne : s.mEmptyQueue ≠ [] := hs
      have he : s.mEmptyQueue.isEmpty = false := by simpa using hne
      simp only [he, Bool.false_eq_true, if_false]
      exact Log.Grows.refl _
    · split
      · exact avail_end
      · dsimp only
        split
        · refine avail_spares (fun _ => spares_silent rfl rfl rfl rfl) fun _ => avail_lock ?_
          refine avail_spares (fun _ => spares_silent rfl rfl rfl rfl) fun _ => ?_
          refine avail_unlock hfilled <| avail_spares (spares_sendToDriver _ ok) fun _ => ?_
          exact avail_end
        · refine avail_lock <| avail_spares (spares_pushEmpty _) fun _ => avail_unlock hempty ?_
          refine avail_spares (fun _ => spares_silent rfl rfl rfl rfl) fun _ => avail_lock ?_
          refine avail_spares spares_postIfDrained fun _ => ?_
          exact avail_unlock hfilled avail_end

theorem avail_isBufferAvailable :
    Each (AvailAt .isBufferAvailable) G ∅ isBufferAvailable := by
  have hempty : Mutex.mEmptyQueueMutex ∉ (insert .mLock ∅ : Set Mutex) := by simp
  refine avail_lock <| avail_lock <| avail_spares (fun _ => spares_silent rfl rfl rfl rfl) fun s => ?_
  split
  · rw [Set.insert_comm]
    refine avail_unlock (by simp) ⟨trivial, trivial, ?_⟩
    rw [Set.insert_sdiff_singleton, Set.insert_eq_of_mem (Set.mem_insert _ _)]
    refine avail_unlock (Set.notMem_empty _) <| avail_lock <| avail_client rfl ?_ ?_ fun _ => avail_end
    · intro s
      split <;> rfl
    · intro s hs
      split
      · exact ⟨[.available false s.mEmptyQueue], rfl, by simp [Event.Sound]⟩
      · rename_i hskip
        have hs : s.mEmptyQueue ≠ [] := hs (by simpa using hskip)
        exact ⟨[.available true s.mEmptyQueue], rfl, by simpa [Event.Sound] using hs⟩
  · refine avail_unlock hempty <| avail_client rfl (fun _ => rfl) ?_ fun _ => avail_end
    intro s hs
    exact ⟨[.available true s.mEmptyQueue], rfl, by simpa [Event.Sound, Finds] using hs⟩

theorem avail_flush (pauseOk flushOk : Bool) :
    Each (AvailAt (.op (.flush pauseOk flushOk))) G ∅ (flush pauseOk flushOk) := by
  refine avail_lock <| avail_spares (fun s => spares_record id) fun _ => ?_
  refine avail_lock <| avail_lock <| avail_spares ?_ fun _ => avail_unlock (by simp) ?_
  · exact fun s => ⟨rfl, fun hp _ => hp, id, Log.Grows.refl _⟩
  · refine avail_unlock (by simp) <| avail_spares (fun s => ?_) fun _ => avail_end
    exact spares_quiet (flushDriver_same s pauseOk flushOk) (flushDriver_skip s pauseOk flushOk)
      (flushDriver_log s pauseOk flushOk).2

theorem avail_stop : Each (AvailAt (.op .stop)) G ∅ stop := by
  refine avail_lock <| avail_spares (fun s => ?_) fun _ => avail_end
  exact ⟨rfl, fun _ => id, fun _ => rfl, Log.Grows.refl _⟩

theorem avail_writeDone (buf_addr : ℕ) (fsyncOk : Bool) :
    Each (AvailAt (.op (.writeDone buf_addr fsyncOk))) G ∅ (writeDone buf_addr fsyncOk) := by
  refine avail_lock <| avail_spares (fun s => spares_record id) fun _ => ?_
  refine avail_lock <| avail_spares (fun _ => spares_silent rfl rfl rfl rfl) fun s => ?_
  have hfinish : Each (AvailAt (.op (.writeDone buf_addr fsyncOk))) G
      (insert .mFilledQueueMutex (insert .mLock ∅))
      (.unlock .mFilledQueueMutex <| .act .writeDone id (fun _ => some .mWriteCv) fun _ =>
        .unlock .mLock .done : Code) := by
    refine avail_unlock (by simp) <| avail_spares (fun _ => ?_) fun _ => avail_end
    exact spares_silent rfl rfl rfl rfl
  split
  · exact hfinish
  · refine avail_lock <| avail_spares (spares_pushEmpty _) fun _ => avail_unlock (by simp) ?_
    refine avail_spares (fun s => ?_) fun s => ?_
    · refine spares_silent (receiveEos_same s).pool (receiveEos_same s).empty (receiveEos_skip s) ?_
      unfold receiveEos
      split <;> rfl
    · split
      · rw [Set.insert_comm] at hfinish ⊢
        refine avail_unlock (by simp) <| avail_spares (fun s => spares_record id) fun _ => ?_
        refine avail_lock <| avail_spares (fun s => spares_record id) fun _ => hfinish
      · exact hfinish

theorem avail_prog (i : Request) : Each (AvailAt i) G ∅ (prog i) := by
  cases i with
  | isBufferAvailable => exact avail_isBufferAvailable
  | op o =>
    cases o with
    | write bytes ok now => exact avail_write bytes ok now
    | flush pauseOk flushOk => exact avail_flush pauseOk flushOk
    | stop => exact avail_stop
    | writeDone buf_addr fsyncOk => exact avail_writeDone buf_addr fsyncOk
    | start o now =>
      refine avail_spares (fun s => ?_) fun _ => rfl
      exact spares_quiet (start_same s o now) (fun e => (start_skip s o now).trans e)
        (start_quietly s o now).log
    | pause ok now =>
      refine avail_spares (fun s => ?_) fun _ => rfl
      exact ⟨rfl, fun _ => id, id, [.audioPause true ok], rfl, by simp [Event.Client]⟩
    | setObserver observer =>
      exact avail_spares (fun s => spares_silent rfl rfl rfl rfl) fun _ => rfl
    | suspend statsOk stopOk =>
      refine avail_spares (fun s => ?_) fun _ => rfl
      exact spares_quiet (suspend_same s statsOk stopOk)
        (fun e => (suspend_skip s statsOk stopOk).trans e) (suspend_quietly s statsOk stopOk).log

/-! ### A session without buffers -/

/-- No buffer has been allocated. -/
def NoBuffers (s : AudioSessionOutLPA) : Prop :=
  s.mBufPool = [] ∧ s.mEmptyQueue = [] ∧ s.mFilledQueue = []

/-- The code takes no buffer from anywhere. -/
def NoBuffersAt (H : Set Mutex) : Code → Prop
  | .done => H = ∅
  | .act _ f _ _ => ∀ s, NoBuffers s → NoBuffers (f s)
  | _ => True

section NoBuffers

variable {H : Set Mutex} {m : Mutex} {k : Code}

theorem noBuffers_unlock (hm : m ∉ H) (h : Each NoBuffersAt (fun _ => NoBuffers) H k) :
    Each NoBuffersAt (fun _ => NoBuffers) (insert m H) (.unlock m k) :=
  Each.unlock hm trivial h

theorem noBuffers_end :
    Each NoBuffersAt (fun _ => NoBuffers) (insert .mLock ∅) (.unlock .mLock .done : Code) :=
  noBuffers_unlock (Set.notMem_empty _) rfl

theorem NoBuffers.same {s s' : AudioSessionOutLPA} (h : NoBuffers s) (hs : SameQueues s s') :
    NoBuffers s' :=
  ⟨hs.pool.trans h.1, hs.empty.trans h.2.1, hs.filled.trans h.2.2⟩

theorem noBuffers_act {r : Region} {f : AudioSessionOutLPA → AudioSessionOutLPA}
    {sig : AudioSessionOutLPA → Option CondVar} {k : AudioSessionOutLPA → Code}
    (hf : ∀ s, NoBuffers s → NoBuffers (f s))
    (h : ∀ s, NoBuffers s → Each NoBuffersAt (fun _ => NoBuffers) H (k s)) :
    Each NoBuffersAt (fun _ => NoBuffers) H (.act r f sig k) := ⟨hf, h⟩

/-- A region that touches no list. -/
theorem noBuffers_same {r : Region} {f : AudioSessionOutLPA → AudioSessionOutLPA}
    {sig : AudioSessionOutLPA → Option CondVar} {k : AudioSessionOutLPA → Code}
    (hf : ∀ s, SameQueues s (f s))
    (h : ∀ s, NoBuffers s → Each NoBuffersAt (fun _ => NoBuffers) H (k s)) :
    Each NoBuffersAt (fun _ => NoBuffers) H (.act r f sig k) :=
  noBuffers_act (fun s hs => hs.same (hf s)) h

theorem noBuffers_isBufferAvailable :
    Each NoBuffersAt (fun _ => NoBuffers) ∅ isBufferAvailable := by
  refine ⟨trivial, trivial, noBuffers_same (fun _ => ⟨rfl, rfl, rfl⟩) fun s hs => ?_⟩
  rw [if_pos (by simp [hs.2.1]), Set.insert_comm]
  refine noBuffers_unlock (by simp) ⟨trivial, trivial, ?_⟩
  rw [Set.insert_sdiff_singleton, Set.insert_eq_of_mem (Set.mem_insert _ _)]
  refine noBuffers_unlock (Set.notMem_empty _) ⟨trivial, noBuffers_same ?_ fun _ _ => noBuffers_end⟩
  intro s
  split <;> exact ⟨rfl, rfl, rfl⟩

theorem noBuffers_write (bytes : ℕ) (ok : Bool) (now : Int) :
    Each NoBuffersAt (fun _ => NoBuffers) ∅ (write bytes ok now) := by
  refine ⟨trivial, noBuffers_same (fun _ => ⟨rfl, rfl, rfl⟩) fun s _ => ?_⟩
  split
  · exact noBuffers_end
  · refine ⟨trivial, noBuffers_act (fun s hs => ?_) fun s hs => noBuffers_unlock (by simp) ?_⟩
    · rw [if_pos (by simp [hs.2.1])]
      exact hs.same (record_same s _)
    · rw [hs.2.1]
      exact noBuffers_end

theorem noBuffers_flush (pauseOk flushOk : Bool) :
    Each NoBuffersAt (fun _ => NoBuffers) ∅ (flush pauseOk flushOk) := by
  refine ⟨trivial, noBuffers_same (fun _ => ⟨rfl, rfl, rfl⟩) fun _ _ => ⟨trivial, trivial, ?_⟩⟩
  refine noBuffers_act (fun s hs => ⟨hs.1, hs.1, rfl⟩) fun _ _ => ?_
  refine noBuffers_unlock (by simp) <| noBuffers_unlock (by simp) ?_
  exact noBuffers_same (fun s => flushDriver_same s pauseOk flushOk) fun _ _ => noBuffers_end

/-- The handler of `WRITE_DONE` finds nothing. -/
theorem noBuffers_writeDone (buf_addr : ℕ) (fsyncOk : Bool) :
    Each NoBuffersAt (fun _ => NoBuffers) ∅ (writeDone buf_addr fsyncOk) := by
  refine ⟨trivial, noBuffers_same (fun s => record_same s _) fun _ _ => ⟨trivial, ?_⟩⟩
  refine noBuffers_act (fun s hs => ⟨hs.1, hs.2.1, by simp [eraseFilled, hs.2.2]⟩) fun s hs => ?_
  have hf : s.findFilled buf_addr = none := by simp [findFilled, hs.2.2]
  rw [hf]
  refine noBuffers_unlock (by simp) ?_
  exact noBuffers_same (fun _ => ⟨rfl, rfl, rfl⟩) fun _ _ => noBuffers_end

theorem noBuffers_prog (i : Request) : Each NoBuffersAt (fun _ => NoBuffers) ∅ (prog i) := by
  cases i with
  | isBufferAvailable => exact noBuffers_isBufferAvailable
  | op o =>
    cases o with
    | write bytes ok now => exact noBuffers_write bytes ok now
    | flush pauseOk flushOk => exact noBuffers_flush pauseOk flushOk
    | stop => exact ⟨trivial, noBuffers_same (fun _ => ⟨rfl, rfl, rfl⟩) fun _ _ => noBuffers_end⟩
    | writeDone buf_addr fsyncOk => exact noBuffers_writeDone buf_addr fsyncOk
    | start o now => exact noBuffers_same (fun s => start_same s o now) fun _ _ => rfl
    | pause ok now => exact noBuffers_same (fun s => pause_same s ok now) fun _ _ => rfl
    | setObserver observer => exact noBuffers_same (fun _ => ⟨rfl, rfl, rfl⟩) fun _ _ => rfl
    | suspend statsOk stopOk =>
      exact noBuffers_same (fun s => suspend_same s statsOk stopOk) fun _ _ => rfl

end NoBuffers

end Code

/-! ### The client -/

/-- What the others may do to the client. -/
structure Rely (s s' : AudioSessionOutLPA) : Prop where
  empty : s.mEmptyQueue ≠ [] → s'.mEmptyQueue ≠ []
  skip : s.mSkipWrite = true → s'.mSkipWrite = true
  announced : announced s'.log = announced s.log

/-- The client writes when a buffer has been announced, and is woken for something. -/
def client : Spec AudioSessionOutLPA Mutex Region where
  rely _ := Rely
  allow _ _ := True
  wake s := ¬ Blocked s
  region := Finds
  park _ := True
  post s := announced s.log = true → s.mEmptyQueue ≠ []
  refl _ _ := ⟨id, id, rfl⟩
  trans _ _ _ _ h h' :=
    ⟨fun e => h'.empty (h.empty e), fun e => h'.skip (h.skip e), h'.announced.trans h.announced⟩

section Safe

variable {H : Set Mutex} {s : AudioSessionOutLPA} {k : Code}

/-- From here on nothing is announced. -/
theorem safe_unannounced (hk : Each (Keeps client fun s => announced s.log = false)
    (fun _ s => announced s.log = false) H k) (hs : announced s.log = false) :
    Safe client H k s := by
  have hrely : ∀ H s s', client.rely H s s' → announced s.log = false → announced s'.log = false :=
    fun _ _ _ hr h => (Rely.announced hr).trans h
  refine Safe.of_keeps hrely (fun s h e => ?_) hk hs
  rw [h] at e
  cases e

theorem keeps_work {f : AudioSessionOutLPA → AudioSessionOutLPA} {k : AudioSessionOutLPA → Code}
    (hf : ∀ s, announced (f s).log = announced s.log)
    (h : ∀ s, Each (Keeps client fun s => announced s.log = false)
      (fun _ s => announced s.log = false) H (k s)) :
    Each (Keeps client fun s => announced s.log = false) (fun _ s => announced s.log = false) H
      (act f k) :=
  ⟨fun s hs => ⟨trivial, (hf s).trans hs⟩, fun s _ => h s⟩

/-- `write` after an announcement finds a buffer. -/
theorem safe_write (bytes : ℕ) (ok : Bool) (now : Int) (hs : s.mEmptyQueue ≠ []) :
    Safe client ∅ (write bytes ok now) s := by
  intro s₁ h₁ s₂ h₂ _
  refine ⟨trivial, ?_⟩
  have he₂ : s₂.mEmptyQueue ≠ [] := h₂.empty (h₁.empty hs)
  dsimp only
  split
  · exact safe_unannounced ⟨trivial, trivial⟩ rfl
  · rintro s₃ h₃ s₄ h₄ -
    have he₄ : s₄.mEmptyQueue ≠ [] := h₄.empty (h₃.empty he₂)
    have ha₄ : announced s₄.log = false := h₄.announced.trans h₃.announced
    refine ⟨he₄, safe_unannounced ?_ ?_⟩
    · refine ⟨trivial, ?_⟩
      split
      · exact ⟨trivial, trivial⟩
      · split
        · refine keeps_work (fun _ => rfl) fun _ => ⟨trivial, keeps_work (fun _ => rfl) fun _ => ?_⟩
          refine ⟨trivial, keeps_work (fun s => ?_) fun _ => ⟨trivial, trivial⟩⟩
          exact announced_of_grows (spares_sendToDriver _ ok s).log
        · refine ⟨trivial, keeps_work (fun _ => rfl) fun _ => ⟨trivial, ?_⟩⟩
          refine keeps_work (fun _ => rfl) fun _ => ⟨trivial, keeps_work (fun s => ?_) fun _ => ?_⟩
          · exact announced_of_grows (spares_postIfDrained s).log
          · exact ⟨trivial, trivial, trivial⟩
    · dsimp only
      split
      · rename_i he
        exact absurd (by simpa using he) he₄
      · exact ha₄

/-- `isBufferAvailable` announces a buffer only where there is one. -/
theorem safe_isBufferAvailable : Safe client ∅ isBufferAvailable s := by
  -- what holds when the answer has been recorded
  have hend : ∀ s : AudioSessionOutLPA, (announced s.log = true → s.mEmptyQueue ≠ []) →
      ∀ H, Safe client H (.unlock .mLock .done : Code) s := by
    intro s hs H s₁ h₁ s₂ h₂ ha
    refine h₂.empty (h₁.empty (hs ?_))
    rw [← h₁.announced, ← h₂.announced]
    exact ha
  intro s₁ _ s₂ _ s₃ _ _
  refine ⟨trivial, ?_⟩
  dsimp only
  split
  · rintro s₄ - s₅ -
    refine ⟨trivial, fun s₆ _ hw s₇ h₇ s₈ h₈ s₉ h₉ s₁₀ h₁₀ _ => ?_⟩
    -- woken for a buffer or for a skip, it still finds one of them
    have hfind : s₁₀.mSkipWrite = false → s₁₀.mEmptyQueue ≠ [] := by
      intro hskip
      refine h₁₀.empty (h₉.empty (h₈.empty (h₇.empty fun he => hw ⟨he, ?_⟩)))
      by_contra hs₆
      have : s₁₀.mSkipWrite = true :=
        h₁₀.skip (h₉.skip (h₈.skip (h₇.skip (by simpa using hs₆))))
      rw [hskip] at this
      cases this
    refine ⟨hfind, hend _ (fun ha => ?_) _⟩
    dsimp only at ha ⊢
    split at ha
    · cases ha
    · rename_i hskip
      rw [if_neg hskip]
      exact hfind (by simpa using hskip)
  · rename_i he
    have he₃ : s₃.mEmptyQueue ≠ [] := by simpa using he
    rintro s₄ h₄ s₅ h₅ -
    have he₅ : s₅.mEmptyQueue ≠ [] := h₅.empty (h₄.empty he₃)
    exact ⟨he₅, hend (s₅.record (.available true s₅.mEmptyQueue)) (fun _ => he₅) _⟩

end Safe

/-! ### Runs -/

section Runs

variable {τ : Type} [DecidableEq τ] {a : τ}
  {c c' : Config AudioSessionOutLPA Mutex CondVar Region Request τ} {l : Label CondVar Request τ}

theorem avail_closed : Closed (system (politeClient a)) (fun _ _ => True) fun i =>
    Each (AvailAt i) fun _ _ => True :=
  each_closed (fun _ _ h => h) avail_prog

theorem noBuffers_closed : Closed (system (politeClient a)) (fun _ => NoBuffers) fun _ =>
    Each NoBuffersAt fun _ => NoBuffers :=
  each_closed (fun _ _ h => h) noBuffers_prog

/-- The client may begin an operation only where it is safe. -/
theorem safe_begin {i : Request} {s : AudioSessionOutLPA} (hs : client.post s)
    (hm : politeClient a a i s = true) : Safe client ∅ (prog i) s := by
  unfold politeClient at hm
  rw [if_pos rfl] at hm
  cases i with
  | isBufferAvailable => exact safe_isBufferAvailable
  | op o =>
    cases o with
    | write bytes ok now => exact safe_write bytes ok now (hs hm)
    | _ => cases hm

/-- The invariant: who runs what, whether there are buffers at all, and what is recorded. -/
structure SoundInv (a : τ) (c : Config AudioSessionOutLPA Mutex CondVar Region Request τ) : Prop where
  code : CodeInv (fun i => Each (AvailAt i) fun _ _ => True) c
  begun : ∀ t, ∀ i ∈ c.op t, t ≠ a → i.client = false
  buffers : c.shared.mBufPool ≠ [] ∨
    NoBuffers c.shared ∧ CodeInv (fun _ => Each NoBuffersAt fun _ => NoBuffers) c
  parkedOnce : ParkedOnce c
  safe : SafeAt client a c
  sound : ∀ e ∈ c.shared.log, e.Sound

namespace SoundInv

theorem region (h : SoundInv a c) {t : τ} {r : Region} {f : AudioSessionOutLPA → AudioSessionOutLPA}
    {sig : AudioSessionOutLPA → Option CondVar} {k : AudioSessionOutLPA → Code}
    (hc : c.code t = .act r f sig k) :
    (f c.shared).mBufPool = c.shared.mBufPool ∧
      (Finds r c.shared → Log.Grows Event.Sound c.shared.log (f c.shared).log) ∧
      (t ≠ a → Spares c.shared (f c.shared)) := by
  obtain ⟨i, hi, hk⟩ := h.code.here (t := t) (by simp [hc])
  rw [hc] at hk
  obtain ⟨hp, hl, hs⟩ := hk c.shared
  exact ⟨hp, hl, fun ht => hs (h.begun t i hi ht)⟩

/-- The others stay within what the client relies on. -/
theorem rely (h : SoundInv a c) {t : τ} (ht : t ≠ a) {r : Region}
    {f : AudioSessionOutLPA → AudioSessionOutLPA} {sig : AudioSessionOutLPA → Option CondVar}
    {k : AudioSessionOutLPA → Code} (hc : c.code t = .act r f sig k) :
    Rely c.shared (f c.shared) := by
  have hs := (h.region hc).2.2 ht
  refine ⟨fun he => ?_, hs.skip, announced_of_grows hs.log⟩
  rcases h.buffers with hp | ⟨hn, -⟩
  · exact hs.empty hp he
  · exact absurd hn.2.1 he

/-- What a region is run with: the client is safe, and the others' regions ask nothing. -/
theorem finds (h : SoundInv a c) {t : τ} (hp : ¬ c.Parked t) {r : Region}
    {f : AudioSessionOutLPA → AudioSessionOutLPA} {sig : AudioSessionOutLPA → Option CondVar}
    {k : AudioSessionOutLPA → Code} (hc : c.code t = .act r f sig k) :
    Log.Grows Event.Sound c.shared.log (f c.shared).log := by
  obtain ⟨-, hl, hs⟩ := h.region hc
  by_cases ht : t = a
  · subst ht
    exact hl (h.safe.region hp hc trivial)
  · exact (hs ht).log.mono fun _ => Event.sound_of_not_client

end SoundInv

theorem soundInv_step (h : SoundInv a c) (hl : OnWake (fun s => ¬ Blocked s) a c l)
    (hs : Threads.step (system (politeClient a)) c l = some c') : SoundInv a c' where
  code := h.code.step avail_closed (guard_true c l) hs
  begun := by
    refine begun_of_step (Q := fun t i => t ≠ a → i.client = false) (fun t i s hm ht => ?_) hs h.begun
    have hm' : politeClient a t i s = true := hm
    simpa [politeClient, ht] using hm'
  buffers := by
    have hpool : c'.shared.mBufPool = c.shared.mBufPool ∧ (NoBuffers c.shared →
        CodeInv (fun _ => Each NoBuffersAt fun _ => NoBuffers) c → NoBuffers c'.shared) := by
      cases fires_of_step hs with
      | @act t w r f sig k ws _ hc _ =>
        refine ⟨(h.region hc).1, fun hn hci => ?_⟩
        obtain ⟨-, -, hk⟩ := hci.here (t := t) (by simp [hc])
        rw [hc] at hk
        exact hk _ hn
      | start | spurious | lock | unlock | wait => exact ⟨rfl, fun hn _ => hn⟩
    rcases h.buffers with hp | ⟨hn, hci⟩
    · exact .inl (hpool.1 ▸ hp)
    · refine .inr ⟨hpool.2 hn hci, hci.step noBuffers_closed ?_ hs⟩
      cases l with
      | step t w => exact fun _ _ _ _ _ => hn
      | _ => trivial
  parkedOnce := parkedOnce_step h.parkedOnce hs
  safe := by
    refine h.safe.step avail_closed h.code h.parkedOnce (fun i s => safe_begin) ⟨?_, ?_, ?_, ?_⟩ hs
    · exact fun _ _ _ _ _ _ _ => trivial
    · rintro t r f sig k v rfl hc hsig hp
      exact hl rfl hp r f sig k hc (by simp [hsig])
    · rintro v rfl
      exact hl rfl
    · rintro t w r f sig k ht rfl - hc
      exact h.rely ht hc
  sound := by
    cases fires_of_step hs with
    | act hp hc _ => exact (h.finds hp hc).forall h.sound
    | start | spurious | lock | unlock | wait => exact h.sound

theorem soundInv_init (format : AudioFormat) (channels samplingRate : ℕ) (o : OpenOutcome) :
    SoundInv a (Config.init (construct format channels samplingRate o).2) := by
  have hf := fresh_construct format channels samplingRate o
  have hlog : Log.Grows (fun e => ¬ e.Client) [] (construct format channels samplingRate o).2.log :=
    Log.Grows.mono (construct_quietly format channels samplingRate o).log fun _ => Event.Quiet.not_client
  refine ⟨codeInv_init _ _, ?_, ?_, List.nodup_nil, safeAt_init ?_, ?_⟩
  · intro t i hi
    simp [Config.init] at hi
  · by_cases hp : (construct format channels samplingRate o).2.mBufPool = []
    · exact .inr ⟨⟨hp, hf.empty.trans hp, hf.filled⟩, codeInv_init _ _⟩
    · exact .inl hp
  · intro s hr ha
    rw [Rely.announced hr, announced_of_grows hlog] at ha
    cases ha
  · exact (hlog.mono fun _ => Event.sound_of_not_client).forall (by simp)

/-- **A buffer announced exists.** One client that writes only after an announcement, any number of
other threads, any interleaving from the constructor on, with spurious wakeups.  If the client is
never woken while `mEmptyQueue` is empty and no skip is pending, `mEmptyQueue` is not empty whenever
`isBufferAvailable` returns with `*isAvail` true, and `write` never reads `*mEmptyQueue.begin()` of
the empty list. -/
theorem sound_of_run {format : AudioFormat} {channels samplingRate : ℕ} {o : OpenOutcome}
    {ls : List (Label CondVar Request τ)}
    (hl : Runs.Along (Threads.step (system (politeClient a))) (OnWake (fun s => ¬ Blocked s) a)
      (Config.init (construct format channels samplingRate o).2) ls)
    (hr : Runs.run (Threads.step (system (politeClient a)))
      (Config.init (construct format channels samplingRate o).2) ls = some c) :
    (∀ q, .available true q ∈ c.shared.log → q ≠ []) ∧ .readsEnd ∉ c.shared.log := by
  have h : SoundInv a c := Runs.run_inv (I := SoundInv a) (fun _ _ _ h hl hs => soundInv_step h hl hs)
    (soundInv_init format channels samplingRate o) hl hr
  exact ⟨fun q hq => h.sound _ hq, fun e => h.sound _ e⟩

end Runs

/-! ### A client and one other thread -/

/-- The client writes two full buffers, all there are, asks for another and parks. -/
def asksForThird : List (Label CondVar Request Bool) :=
  let asks := [.start true .isBufferAvailable] ++ List.replicate 6 (.step true none)
  let writes := [.start true (.op (.write LPA_BUFFER_SIZE true 2))] ++
    List.replicate 11 (.step true none)
  asks ++ writes ++ asks ++ writes ++ [.start true .isBufferAvailable] ++
    List.replicate 5 (.step true none)

/-- The `WRITE_DONE` of the first buffer wakes it. -/
def wokenByWriteDone : List (Label CondVar Request Bool) :=
  asksForThird ++ [.start false (.op (.writeDone 0x1000 true))] ++
  List.replicate 9 (.step false none) ++ [.step false (some true), .step false none] ++
  List.replicate 5 (.step true none)

theorem sound_of_wokenByWriteDone :
    ∃ c, Runs.run (Threads.step (system (politeClient true)))
        (Config.init (construct .pcm16Bit 2 44100 twoBuffers).2) wokenByWriteDone = some c ∧
      announced c.shared.log = true ∧
      (∀ q, .available true q ∈ c.shared.log → q ≠ []) ∧ .readsEnd ∉ c.shared.log := by
  have h : ∃ c, Runs.run (Threads.step (system (politeClient true)))
      (Config.init (construct .pcm16Bit 2 44100 twoBuffers).2) wokenByWriteDone = some c ∧
      announced c.shared.log = true := Runs.exists_run (by decide +kernel)
  obtain ⟨c, hr, ha⟩ := h
  exact ⟨c, hr, ha, sound_of_run (by decide +kernel) hr⟩

/-- It wakes on its own, is told that a buffer is there, and writes. -/
def wakesOnItsOwn : List (Label CondVar Request Bool) :=
  asksForThird ++ [.spurious .mWriteCv true] ++ List.replicate 5 (.step true none) ++
  [.start true (.op (.write LPA_BUFFER_SIZE true 4))] ++ List.replicate 6 (.step true none)

/-- A spurious wakeup announces a buffer that is not there, and `write` reads it. -/
theorem announced_nothing :
    ∃ c, Runs.run (Threads.step (system (politeClient true)))
        (Config.init (construct .pcm16Bit 2 44100 twoBuffers).2) wakesOnItsOwn = some c ∧
      .available true [] ∈ c.shared.log ∧ .readsEnd ∈ c.shared.log :=
  Runs.exists_run (by decide +kernel)

end Programs

end Msm7x27a.Lpa
