import Msm7x27a.Lib.Signals
import Msm7x27a.Lpa.Programs
import Msm7x27a.Lpa.Queues

/-!
# Wakeups of the client

The client waits for `mWriteCv` in `isBufferAvailable` while `mEmptyQueue` is empty and no skip is
pending (`Blocked`).  `mEmptyQueue` is guarded by `mEmptyQueueMutex`, which the wait releases, but
`mSkipWrite` by `mLock`, which the client gives back before it waits, and it does not look at
`mSkipWrite` before it waits either; a `flush` that fails does not signal.  Where none of this
happens (`Careful`) no wakeup is lost (`no_lost_wakeup`), and each of the three loses one
(`wakeup_lost`).
-/

namespace Msm7x27a.Lpa

open Msm7x27a.Threads Msm7x27a.Audio

/-- The regions that set `mSkipWrite`. -/
def Region.SetsSkip : Region → Prop
  | .stop | .flushDriver .. => True
  | _ => False

/-- The regions that signal `mWriteCv`, a `flush` if it does not fail. -/
def Region.Signals : Region → Prop
  | .stop | .flushDriver .. | .writeDone => True
  | _ => False

/-- The operations of the one client. -/
def Request.client : Request → Bool
  | .isBufferAvailable | .op (.write ..) => true
  | _ => false

/-- The thread `a` is the client, and the others run everything else. -/
def oneClient {τ : Type} [DecidableEq τ] (a t : τ) (i : Request) (_ : AudioSessionOutLPA) : Bool :=
  decide (t = a) == i.client

namespace AudioSessionOutLPA

/-- There is nothing the client could be woken for. -/
def Blocked (s : AudioSessionOutLPA) : Prop := s.mEmptyQueue = [] ∧ s.mSkipWrite = false

instance : DecidablePred Blocked := fun s => by unfold Blocked; infer_instance

/-- The requests that `flush` makes of the driver succeed. -/
def DriverOk (pauseOk flushOk : Bool) (s : AudioSessionOutLPA) : Prop :=
  s.mPaused = false ∧ s.mEosEventReceived = true ∨ pauseOk = true ∧ flushOk = true

instance (pauseOk flushOk : Bool) : DecidablePred (DriverOk pauseOk flushOk) := fun s => by
  unfold DriverOk; infer_instance

theorem flushDriver_ok {pauseOk flushOk : Bool} {s : AudioSessionOutLPA}
    (h : s.DriverOk pauseOk flushOk) : (s.flushDriver pauseOk flushOk).1 = noError := by
  rcases h with ⟨hp, he⟩ | ⟨rfl, rfl⟩
  · simp [flushDriver, hp, he]
  · unfold flushDriver
    dsimp only
    split_ifs <;> simp_all

/-! ### What code does to the flag -/

theorem start_skip (s : AudioSessionOutLPA) (o : StartOutcome) (now : Int) :
    (s.start o now).2.mSkipWrite = s.mSkipWrite := by
  have hd : ∀ s' : AudioSessionOutLPA, s'.mSkipWrite = s.mSkipWrite →
      (startDriver o.start now s').2.mSkipWrite = s.mSkipWrite := by
    intro s' h
    unfold startDriver
    split <;> exact h
  unfold start
  split
  · rfl
  · dsimp only
    split_ifs
    · rfl
    · rfl
    · exact hd _ rfl
    · exact hd _ rfl

theorem suspend_skip (s : AudioSessionOutLPA) (statsOk stopOk : Bool) :
    (s.suspend statsOk stopOk).mSkipWrite = s.mSkipWrite := by
  unfold suspend
  split <;> rfl

theorem receiveEos_skip (s : AudioSessionOutLPA) : s.receiveEos.mSkipWrite = s.mSkipWrite := by
  unfold receiveEos
  split <;> rfl

/-- `flush` only sets the flag. -/
theorem flushDriver_skip (s : AudioSessionOutLPA) (pauseOk flushOk : Bool)
    (h : s.mSkipWrite = true) : (s.flushDriver pauseOk flushOk).2.mSkipWrite = true := by
  unfold flushDriver
  dsimp only
  split_ifs
  all_goals first | exact h | rfl

end AudioSessionOutLPA

/-- The region, a `flush`, does not fail. -/
def Region.Ok : Region → AudioSessionOutLPA → Prop
  | .flushDriver pauseOk flushOk, s => s.DriverOk pauseOk flushOk
  | _, _ => True

namespace Programs

open AudioSessionOutLPA

def IsWait : Code → Prop
  | .wait .. => True
  | _ => False

instance : DecidablePred IsWait := fun k => by cases k <;> unfold IsWait <;> infer_instance

/-- The client has found `mEmptyQueue` empty and is about to wait. -/
def Window : Code → Prop
  | .wait .. => True
  | .unlock _ k => IsWait k
  | _ => False

/-! ### The code of the client -/

/-- The client comes to the wait only from the test, with both mutexes held. -/
def ClientAt (H : Set Mutex) : Code → Prop
  | .done => H = ∅
  | .lock _ k => ¬ Window k
  | .unlock m k => (Window k → IsWait k) ∧ (IsWait k → m = .mLock ∧ .mLock ∈ H ∧ .mEmptyQueueMutex ∈ H)
  | .act r f _ k => ∀ s, Window (k s) → r = .test ∧ f s = s ∧ s.mEmptyQueue = []
  | .wait .. => .mEmptyQueueMutex ∈ H

section Client

variable {G : Region → AudioSessionOutLPA → Prop} {H : Set Mutex} {m : Mutex} {k : Code}

theorem held_of_window (h : ClientAt H k) (hw : Window k) :
    .mEmptyQueueMutex ∈ H ∧ (.mLock ∈ H ∨ IsWait k) := by
  cases k with
  | wait => exact ⟨h, .inr trivial⟩
  | unlock m k => exact ⟨(h.2 hw).2.2, .inl (h.2 hw).2.1⟩
  | _ => exact absurd hw id

theorem client_unlock (hm : m ∉ H) (hk : ¬ Window k) (h : Each ClientAt G H k) :
    Each ClientAt G (insert m H) (.unlock m k) := by
  have hwait : ¬ IsWait k := by
    intro e
    cases k with
    | wait => exact hk trivial
    | _ => exact e
  exact Each.unlock hm ⟨fun e => absurd e hk, fun e => absurd e hwait⟩ h

theorem client_act {r : Region} {f : AudioSessionOutLPA → AudioSessionOutLPA}
    {sig : AudioSessionOutLPA → Option CondVar} {k : AudioSessionOutLPA → Code}
    (hk : ∀ s, ¬ Window (k s)) (h : ∀ s, Each ClientAt G H (k s)) :
    Each ClientAt G H (.act r f sig k) :=
  ⟨fun s hw => absurd hw (hk s), fun s _ => h s⟩

theorem client_end : Each ClientAt G (insert .mLock ∅) (.unlock .mLock .done : Code) :=
  client_unlock (Set.notMem_empty _) id rfl

theorem client_write (bytes : ℕ) (ok : Bool) (now : Int) :
    Each ClientAt G ∅ (write bytes ok now) := by
  have hempty : Mutex.mEmptyQueueMutex ∉ (insert .mLock ∅ : Set Mutex) := by simp
  have hfilled : Mutex.mFilledQueueMutex ∉ (insert .mLock ∅ : Set Mutex) := by simp
  refine ⟨id, client_act (fun s => by split <;> exact id) fun s => ?_⟩
  split
  · exact client_end
  · refine ⟨id, client_act (fun _ => ?_) fun s => ?_⟩
    · dsimp only [Window]
      split
      · exact id
      · split <;> exact id
    · refine client_unlock hempty ?_ ?_
      · split
        · exact id
        · dsimp only
          split <;> exact id
      · split
        · exact client_end
        · dsimp only
          split
          · refine client_act (fun _ => id) fun _ => ⟨id, client_act (fun _ => id) fun _ => ?_⟩
            exact client_unlock hfilled id <| client_act (fun _ => id) fun _ => client_end
          · refine ⟨id, client_act (fun _ => id) fun _ => client_unlock hempty id ?_⟩
            refine client_act (fun _ => id) fun _ => ⟨id, client_act (fun _ => id) fun _ => ?_⟩
            exact client_unlock hfilled id client_end

theorem client_isBufferAvailable : Each ClientAt G ∅ isBufferAvailable := by
  have hempty : Mutex.mEmptyQueueMutex ∉ (insert .mLock ∅ : Set Mutex) := by simp
  refine ⟨id, id, ?_, fun s _ => ?_⟩
  · intro s hw
    by_cases he : s.mEmptyQueue = []
    · exact ⟨rfl, rfl, he⟩
    · dsimp only at hw
      rw [if_neg (by simpa using he)] at hw
      exact absurd hw id
  · dsimp only
    split
    · rw [Set.insert_comm]
      have hlock : Mutex.mLock ∉ (insert .mEmptyQueueMutex ∅ : Set Mutex) := by simp
      refine Each.unlock hlock ⟨id, fun _ => ⟨rfl, by simp, by simp⟩⟩ ⟨Set.mem_insert _ _, id, ?_⟩
      rw [Set.insert_sdiff_singleton, Set.insert_eq_of_mem (by simp)]
      refine client_unlock (Set.notMem_empty _) id ⟨id, client_act (fun _ => id) fun _ => ?_⟩
      exact client_end
    · exact client_unlock hempty id <| client_act (fun _ => id) fun _ => client_end

end Client

/-! ### The code of the others -/

/-- The region runs with the mutex that guards what it changes, and signals if it is one to. -/
structure Guarded (H : Set Mutex) (r : Region) (f : AudioSessionOutLPA → AudioSessionOutLPA)
    (sig : AudioSessionOutLPA → Option CondVar) : Prop where
  empty : .mEmptyQueueMutex ∈ H ∨ ∀ s, (f s).mEmptyQueue = s.mEmptyQueue
  skip : (.mLock ∈ H ∧ r.SetsSkip) ∨ ∀ s, (f s).mSkipWrite = s.mSkipWrite
  signal : r.Signals → ∀ s, r.Ok s → sig s = some .mWriteCv

/-- The others change the queue and the flag with their mutexes held, and signal. -/
def OthersAt (H : Set Mutex) (k : Code) : Prop :=
  Polite Blocked Region.Signals k ∧
  match k with
  | .done => H = ∅
  | .act r f sig _ => Guarded H r f sig
  | _ => True

section Others

variable {G : Region → AudioSessionOutLPA → Prop} {H : Set Mutex} {m : Mutex} {k : Code}

/-- A region that leaves the queue and the flag. -/
theorem others_act {r : Region} {f : AudioSessionOutLPA → AudioSessionOutLPA}
    {sig : AudioSessionOutLPA → Option CondVar} {k : AudioSessionOutLPA → Code}
    (he : ∀ s, (f s).mEmptyQueue = s.mEmptyQueue) (hs : ∀ s, (f s).mSkipWrite = s.mSkipWrite)
    (hr : r.Signals → ∀ s, r.Ok s → sig s = some .mWriteCv) (h : ∀ s, Each OthersAt G H (k s)) :
    Each OthersAt G H (.act r f sig k) := by
  refine ⟨⟨fun s hb => .inl ⟨(he s).trans hb.1, (hs s).trans hb.2⟩, .inr he, .inr hs, hr⟩, ?_⟩
  exact fun s _ => h s

theorem others_work {f : AudioSessionOutLPA → AudioSessionOutLPA} {k : AudioSessionOutLPA → Code}
    (he : ∀ s, (f s).mEmptyQueue = s.mEmptyQueue) (hs : ∀ s, (f s).mSkipWrite = s.mSkipWrite)
    (h : ∀ s, Each OthersAt G H (k s)) : Each OthersAt G H (act f k) :=
  others_act he hs (fun e => absurd e id) h

theorem others_lock (h : Each OthersAt G (insert m H) k) : Each OthersAt G H (.lock m k) :=
  ⟨⟨trivial, trivial⟩, h⟩

theorem others_unlock (hm : m ∉ H) (h : Each OthersAt G H k) :
    Each OthersAt G (insert m H) (.unlock m k) :=
  Each.unlock hm ⟨trivial, trivial⟩ h

theorem others_end : Each OthersAt G (insert .mLock ∅) (.unlock .mLock .done : Code) :=
  others_unlock (Set.notMem_empty _) ⟨trivial, rfl⟩

theorem others_flush (pauseOk flushOk : Bool) : Each OthersAt G ∅ (flush pauseOk flushOk) := by
  refine others_lock <| others_work (fun _ => rfl) (fun _ => rfl) fun _ => ?_
  have hempty : Mutex.mEmptyQueueMutex ∉
      (insert .mFilledQueueMutex (insert .mLock ∅) : Set Mutex) := by simp
  refine others_lock <| others_lock ⟨⟨?_, ?_, ?_, ?_⟩, fun _ _ => others_unlock hempty ?_⟩
  · exact fun _ _ => .inr (.inr (.inl trivial))
  · exact .inl (Set.mem_insert _ _)
  · exact .inr fun _ => rfl
  · exact fun e => absurd e id
  · refine others_unlock (by simp) ⟨⟨fun _ _ => .inr (.inl trivial), ?_, ?_, ?_⟩, fun _ _ => others_end⟩
    · exact .inr fun s => (flushDriver_same s pauseOk flushOk).empty
    · exact .inl ⟨Set.mem_insert _ _, trivial⟩
    · exact fun _ s hok => if_pos (flushDriver_ok hok)

theorem others_stop : Each OthersAt G ∅ stop := by
  refine others_lock ⟨⟨fun _ _ => .inr (.inl trivial), ?_, ?_, ?_⟩, fun _ _ => others_end⟩
  · exact .inr fun _ => rfl
  · exact .inl ⟨Set.mem_insert _ _, trivial⟩
  · exact fun _ _ _ => rfl

theorem others_writeDone (buf_addr : ℕ) (fsyncOk : Bool) :
    Each OthersAt G ∅ (writeDone buf_addr fsyncOk) := by
  refine others_lock <| others_work (fun _ => rfl) (fun _ => rfl) fun _ => ?_
  refine others_lock <| others_work (fun _ => rfl) (fun _ => rfl) fun s => ?_
  have hfinish : Each OthersAt G (insert .mFilledQueueMutex (insert .mLock ∅))
      (.unlock .mFilledQueueMutex <| .act .writeDone id (fun _ => some .mWriteCv) fun _ =>
        .unlock .mLock .done : Code) := by
    refine others_unlock (by simp) <| others_act (fun _ => rfl) (fun _ => rfl) ?_ fun _ => others_end
    exact fun _ _ _ => rfl
  split
  · exact hfinish
  · have hempty : Mutex.mEmptyQueueMutex ∉
        (insert .mFilledQueueMutex (insert .mLock ∅) : Set Mutex) := by simp
    refine others_lock ⟨⟨fun _ _ => .inr (.inr (.inr fun s => ?_)), ?_, ?_, ?_⟩, fun _ _ => ?_⟩
    · -- the signal comes in either branch
      dsimp only
      split
      · exact .inr fun _ => .inr fun _ => .inl trivial
      · exact .inl trivial
    · exact .inl (Set.mem_insert _ _)
    · exact .inr fun _ => rfl
    · exact fun e => absurd e id
    · refine others_unlock hempty ?_
      refine others_act (fun s => (receiveEos_same s).empty) receiveEos_skip (fun e => absurd e id) ?_
      intro s
      split
      · rw [Set.insert_comm] at hfinish ⊢
        refine others_unlock (by simp) <| others_work (fun _ => rfl) (fun _ => rfl) fun _ => ?_
        exact others_lock <| others_work (fun _ => rfl) (fun _ => rfl) fun _ => hfinish
      · exact hfinish

end Others

/-! ### Runs -/

/-- What is asked of a region: the client does not test while a skip is pending, `mSkipWrite` is not
set between the test and the wait, and a `flush` does not fail while the client is parked. -/
def Careful {τ : Type} (a : τ) (c : Config AudioSessionOutLPA Mutex CondVar Region Request τ) :
    Region → Prop
  | .test => c.shared.mEmptyQueue = [] → c.shared.mSkipWrite = false
  | .stop => ¬ IsWait (c.code a)
  | .flushDriver pauseOk flushOk =>
    ¬ IsWait (c.code a) ∧ (c.Parked a → DriverOk pauseOk flushOk c.shared)
  | _ => True

section Runs

variable {τ : Type} [DecidableEq τ] {a : τ}
  {c c' : Config AudioSessionOutLPA Mutex CondVar Region Request τ} {l : Label CondVar Request τ}

instance decidableCareful (r : Region) : Decidable (Careful a c r) := by
  cases r <;> unfold Careful <;> infer_instance

/-- The code of the client is that of `ClientAt`, and that of the others that of `OthersAt`. -/
def CodeAt (i : Request) : Set Mutex → Code → Prop := if i.client then ClientAt else OthersAt

theorem codeAt_client {i : Request} (h : i.client = true) : CodeAt i = ClientAt := if_pos h

theorem codeAt_others {i : Request} (h : i.client = false) : CodeAt i = OthersAt :=
  if_neg (by simp [h])

theorem codeAt_done {i : Request} {H : Set Mutex} (h : CodeAt i H .done) : H = ∅ := by
  unfold CodeAt at h
  split at h
  · exact h
  · exact h.2

theorem codeAt_prog (i : Request) : Each (CodeAt i) (fun _ _ => True) ∅ (prog i) := by
  have hact : ∀ f : AudioSessionOutLPA → AudioSessionOutLPA, (∀ s, (f s).mEmptyQueue = s.mEmptyQueue) →
      (∀ s, (f s).mSkipWrite = s.mSkipWrite) →
      Each OthersAt (fun _ _ => True) ∅ (act f fun _ => .done) :=
    fun f he hs => others_work he hs fun _ => ⟨trivial, rfl⟩
  cases i with
  | isBufferAvailable => exact client_isBufferAvailable
  | op o =>
    cases o with
    | write bytes ok now => exact client_write bytes ok now
    | flush pauseOk flushOk => exact others_flush pauseOk flushOk
    | stop => exact others_stop
    | writeDone buf_addr fsyncOk => exact others_writeDone buf_addr fsyncOk
    | start o now => exact hact _ (fun s => (start_same s o now).empty) fun s => start_skip s o now
    | pause ok now => exact hact _ (fun _ => rfl) fun _ => rfl
    | setObserver observer => exact hact _ (fun _ => rfl) fun _ => rfl
    | suspend statsOk stopOk =>
      apply hact
      · exact fun s => (suspend_same s statsOk stopOk).empty
      · exact fun s => suspend_skip s statsOk stopOk

theorem window_prog (i : Request) : ¬ Window (prog i) := by
  cases i with
  | isBufferAvailable => exact id
  | op o => cases o <;> exact id

theorem codeAt_closed : Closed (system (oneClient a)) (fun _ _ => True) fun i =>
    Each (CodeAt i) fun _ _ => True :=
  each_closed (fun _ _ => codeAt_done) codeAt_prog

/-- The invariant: who runs what, nothing to be woken for between the test and the wait, and no
wakeup lost. -/
structure WakeInv (a : τ) (c : Config AudioSessionOutLPA Mutex CondVar Region Request τ) : Prop where
  code : CodeInv (fun i => Each (CodeAt i) fun _ _ => True) c
  begun : ∀ t, ∀ i ∈ c.op t, (decide (t = a) == i.client) = true
  window : Window (c.code a) → Blocked c.shared
  told : Told Blocked Region.Signals .mWriteCv a c

namespace WakeInv

theorem client (h : WakeInv a c) (hc : c.code a ≠ .done) : ClientAt (c.held a) (c.code a) := by
  obtain ⟨i, hi, hk⟩ := h.code.here hc
  rwa [codeAt_client (by simpa using h.begun a i hi)] at hk

theorem others (h : WakeInv a c) {t : τ} (ht : t ≠ a) (hc : c.code t ≠ .done) :
    OthersAt (c.held t) (c.code t) := by
  obtain ⟨i, hi, hk⟩ := h.code.here hc
  rwa [codeAt_others (by simpa [ht] using h.begun t i hi)] at hk

theorem polite (h : WakeInv a c) {t : τ} (ht : t ≠ a) : Polite Blocked Region.Signals (c.code t) := by
  by_cases hc : c.code t = .done
  · rw [hc]
    trivial
  · exact (h.others ht hc).1

end WakeInv

theorem wakeInv_init (s : AudioSessionOutLPA) : WakeInv a (Config.init s) where
  code := codeInv_init _ s
  begun t i hi := by simp [Config.init] at hi
  window h := absurd h id
  told := told_init s

/-- Between the test and the wait nobody else changes the queue or the flag. -/
theorem blocked_of_others (h : WakeInv a c) (hl : OnRegion (Careful a) c l) (hw : Window (c.code a))
    {t : τ} {w : Option τ} {r : Region} {f : AudioSessionOutLPA → AudioSessionOutLPA}
    {sig : AudioSessionOutLPA → Option CondVar} {k : AudioSessionOutLPA → Code} (ht : t ≠ a)
    (hlab : l = .step t w) (hc : c.code t = .act r f sig k) : Blocked (f c.shared) := by
  have hne : c.code a ≠ .done := by
    intro e
    rw [e] at hw
    exact hw
  obtain ⟨hempty, hlock⟩ := held_of_window (h.client hne) hw
  have hat := h.others ht (by simp [hc])
  rw [hc] at hat
  obtain ⟨-, he, hs, -⟩ := hat
  have hother : ∀ m, m ∈ c.held a → m ∉ c.held t := by
    intro m ha ht'
    exact ht (Option.some.inj (Eq.trans (Eq.symm ht') ha))
  obtain ⟨hb, hskip⟩ := h.window hw
  constructor
  · exact (he.resolve_left (hother _ hempty) _).trans hb
  · rcases hs with ⟨hm, hsets⟩ | hs
    · have hwait : IsWait (c.code a) := hlock.resolve_left fun e => hother _ e hm
      subst hlab
      have hcare := hl r f sig k hc
      cases r with
      | stop => exact absurd hwait hcare
      | flushDriver => exact absurd hwait hcare.1
      | _ => exact absurd hsets id
    · exact (hs _).trans hskip

/-- Between the test and the wait the client has nothing to be woken for. -/
theorem window_step (h : WakeInv a c) (hl : OnRegion (Careful a) c l)
    (hs : Threads.step (system (oneClient a)) c l = some c') (hw : Window (c'.code a)) :
    Blocked c'.shared := by
  cases fires_of_step hs with
  | @start t i _ _ _ =>
    by_cases hta : a = t
    · subst hta
      change Window ((c.goto a (prog i)).code a) at hw
      rw [Config.goto_self] at hw
      exact absurd hw (window_prog i)
    · exact h.window (by simpa [Config.goto_ne hta] using hw)
  | spurious => exact h.window hw
  | @lock t _ m k _ hc _ =>
    by_cases hta : a = t
    · subst hta
      rw [Config.goto_self] at hw
      have hat := h.client (by simp [hc])
      rw [hc] at hat
      exact absurd hw hat
    · exact h.window (by simpa [Config.goto_ne hta] using hw)
  | @unlock t _ m k _ hc _ =>
    by_cases hta : a = t
    · subst hta
      rw [Config.goto_self] at hw
      have hat := h.client (by simp [hc])
      rw [hc] at hat
      exact h.window (by rw [hc]; exact hat.1 hw)
    · exact h.window (by simpa [Config.goto_ne hta] using hw)
  | @wait t _ v m k _ hc _ =>
    by_cases hta : a = t
    · subst hta
      change Window (((c.setOwner m none).goto a (.lock m k)).code a) at hw
      rw [Config.goto_self] at hw
      exact absurd hw id
    · change Window (((c.setOwner m none).goto t (.lock m k)).code a) at hw
      rw [Config.goto_ne hta] at hw
      exact h.window hw
  | @act t w r f sig k ws _ hc _ =>
    by_cases hta : a = t
    · subst hta
      change Window ((c.goto a (k c.shared)).code a) at hw
      rw [Config.goto_self] at hw
      have hat := h.client (by simp [hc])
      rw [hc] at hat
      obtain ⟨rfl, hf, he⟩ := hat c.shared hw
      show Blocked (f c.shared)
      rw [hf]
      exact ⟨he, hl .test f sig k hc he⟩
    · change Window ((c.goto t (k c.shared)).code a) at hw
      rw [Config.goto_ne hta] at hw
      exact blocked_of_others h hl hw (Ne.symm hta) rfl hc

/-- A region that signals does signal while the client is parked. -/
theorem signals_of_parked (h : WakeInv a c) (hl : OnRegion (Careful a) c l) {t : τ} {w : Option τ}
    {r : Region} {f : AudioSessionOutLPA → AudioSessionOutLPA}
    {sig : AudioSessionOutLPA → Option CondVar} {k : AudioSessionOutLPA → Code} (ht : t ≠ a)
    (hlab : l = .step t w) (hc : c.code t = .act r f sig k) (hr : r.Signals) (hp : c.Parked a) :
    sig c.shared = some .mWriteCv := by
  have hat := h.others ht (by simp [hc])
  rw [hc] at hat
  subst hlab
  have hcare := hl r f sig k hc
  apply hat.2.signal hr
  cases r with
  | flushDriver => exact hcare.2 hp
  | _ => trivial

theorem wakeInv_step (h : WakeInv a c) (hl : OnRegion (Careful a) c l)
    (hs : Threads.step (system (oneClient a)) c l = some c') : WakeInv a c' where
  code := h.code.step codeAt_closed (guard_true c l) hs
  begun := begun_of_step (fun _ _ _ hm => hm) hs h.begun
  window := window_step h hl hs
  told := by
    refine h.told.step (fun u hu => h.polite hu) ?_ ?_ hs
    · intro v m k hc
      exact ⟨rfl, h.window (by rw [hc]; trivial)⟩
    · exact fun t w r f sig k ht hlab hc hr hp => signals_of_parked h hl ht hlab hc hr hp

/-- **No lost wakeup.** One client, any number of other threads, any interleaving in which every
region meets `Careful`: when the client is parked and nobody else has an operation in progress,
`mEmptyQueue` is empty and no skip is pending. -/
theorem no_lost_wakeup {s : AudioSessionOutLPA} {ls : List (Label CondVar Request τ)}
    (hl : Runs.Along (Threads.step (system (oneClient a))) (OnRegion (Careful a)) (Config.init s) ls)
    (hr : Runs.run (Threads.step (system (oneClient a))) (Config.init s) ls = some c)
    (hp : c.Parked a) (hd : ∀ t, t ≠ a → c.code t = .done) :
    c.shared.mEmptyQueue = [] ∧ c.shared.mSkipWrite = false := by
  have h : WakeInv a c :=
    Runs.run_inv (I := WakeInv a) (fun _ _ _ h hl hs => wakeInv_step h hl hs) (wakeInv_init s) hl hr
  exact h.told.quiet hp hd

end Runs

/-! ### A client and one other thread -/

/-- The client is parked and the other thread has nothing left to run. -/
def Asleep (c : Config AudioSessionOutLPA Mutex CondVar Region Request Bool) : Prop :=
  c.Parked true ∧ ∀ t, t ≠ true → c.code t = .done

instance : DecidablePred Asleep := fun c => by unfold Asleep; infer_instance

/-- The client writes two full buffers, all there are. -/
def twoWrites : List (Label CondVar Request Bool) :=
  [.start true (.op (.write LPA_BUFFER_SIZE true 2))] ++ List.replicate 11 (.step true none) ++
  [.start true (.op (.write LPA_BUFFER_SIZE true 3))] ++ List.replicate 11 (.step true none)

/-- The client calls `isBufferAvailable` and comes to the wait. -/
def toTheWait : List (Label CondVar Request Bool) :=
  [.start true .isBufferAvailable] ++ List.replicate 4 (.step true none)

def stops : List (Label CondVar Request Bool) :=
  [.start false (.op .stop)] ++ List.replicate 3 (.step false none)

theorem no_lost_wakeup_pause :
    ∃ c, Runs.run (Threads.step (system (oneClient true))) (Config.init opened)
        (twoWrites ++ toTheWait ++ [.start false (.op (.pause true 4)), .step false none,
          .step true none]) = some c ∧
      c.shared.mEmptyQueue = [] ∧ c.shared.mSkipWrite = false := by
  have h : ∃ c, Runs.run (Threads.step (system (oneClient true))) (Config.init opened)
      (twoWrites ++ toTheWait ++ [.start false (.op (.pause true 4)), .step false none,
        .step true none]) = some c ∧ Asleep c := Runs.exists_run (by decide +kernel)
  obtain ⟨c, hr, hp, hd⟩ := h
  exact ⟨c, hr, no_lost_wakeup (by decide +kernel) hr hp hd⟩

/-- Three wakeups are lost: `stop` runs between the test and the wait; it has run before the test;
a `flush` fails when it has refilled `mEmptyQueue`. -/
theorem wakeup_lost :
    (∃ c, Runs.run (Threads.step (system (oneClient true))) (Config.init opened)
        (twoWrites ++ toTheWait ++ stops ++ [.step true none]) = some c ∧
      Asleep c ∧ c.shared.mSkipWrite = true) ∧
    (∃ c, Runs.run (Threads.step (system (oneClient true))) (Config.init opened)
        (twoWrites ++ stops ++ toTheWait ++ [.step true none]) = some c ∧
      Asleep c ∧ c.shared.mSkipWrite = true) ∧
    ∃ c, Runs.run (Threads.step (system (oneClient true))) (Config.init opened)
        (twoWrites ++ toTheWait ++ [.step true none, .start false (.op (.flush false true))] ++
          List.replicate 9 (.step false none)) = some c ∧
      Asleep c ∧ c.shared.mEmptyQueue ≠ [] := by
  refine ⟨Runs.exists_run ?_, Runs.exists_run ?_, Runs.exists_run ?_⟩
  · decide +kernel
  · decide +kernel
  · decide +kernel

end Programs

end Msm7x27a.Lpa
