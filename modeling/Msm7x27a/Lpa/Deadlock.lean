import Msm7x27a.Lib.LockOrder
import Msm7x27a.Lpa.Programs

/-!
# The mutexes of a session

The programs take `mLock`, then `mFilledQueueMutex`, then `mEmptyQueueMutex`, but for the handler of
`WRITE_DONE` at the end of the stream: it releases `mLock` around `fsync` and requests it again with
`mFilledQueueMutex` held.  `May` says what a program holds when it requests a mutex (`may_prog`).
A client that takes `mLock` in between and requests `mFilledQueueMutex` waits for the event thread
for ever, and that for the client (`flush_over_fsync`); where no thread does so, there is no deadlock
(`never_deadlocked`).
-/

namespace Msm7x27a.Lpa.Programs

open Msm7x27a.Threads Msm7x27a.Audio AudioSessionOutLPA

/-- The programs that take `mFilledQueueMutex`. -/
def UsesFilled : Request → Prop
  | .op (.write ..) | .op (.flush ..) | .op (.writeDone ..) => True
  | _ => False

instance : DecidablePred UsesFilled := by
  intro i
  unfold UsesFilled
  split <;> infer_instance

/-- What a program holds when it requests a mutex. -/
def May (i : Request) (H : Set Mutex) : Mutex → Prop
  | .mLock => ∀ n ∈ H, n = .mFilledQueueMutex
  | .mFilledQueueMutex => UsesFilled i ∧ H = insert .mLock ∅
  | .mEmptyQueueMutex => .mEmptyQueueMutex ∉ H

/-! ### What the programs request -/

section Programs

variable {i : Request} {G : Region → AudioSessionOutLPA → Prop}

theorem holds_nothing : ∀ n ∈ (∅ : Set Mutex), n = .mFilledQueueMutex :=
  fun n hn => absurd hn (Set.notMem_empty n)

/-- Every program ends by giving `mLock` back. -/
theorem may_end : Each (Requests (May i)) G (insert .mLock ∅) (.unlock .mLock .done : Code) :=
  Requests.unlock (Set.notMem_empty _) rfl

theorem may_write (bytes : ℕ) (ok : Bool) (now : Int) :
    Each (Requests (May (.op (.write bytes ok now)))) G ∅ (write bytes ok now) := by
  have hempty : Mutex.mEmptyQueueMutex ∉ (insert .mLock ∅ : Set Mutex) := by simp
  have hfilled : Mutex.mFilledQueueMutex ∉ (insert .mLock ∅ : Set Mutex) := by simp
  refine ⟨holds_nothing, Requests.act fun s => ?_⟩
  split
  · exact may_end
  · refine ⟨hempty, Requests.act fun s => Requests.unlock hempty ?_⟩
    split
    · exact may_end
    · dsimp only
      split
      · refine Requests.act fun _ => ⟨⟨trivial, rfl⟩, Requests.act fun _ => ?_⟩
        exact Requests.unlock hfilled <| Requests.act fun _ => may_end
      · refine ⟨hempty, Requests.act fun _ => Requests.unlock hempty <| Requests.act fun _ => ?_⟩
        refine ⟨⟨trivial, rfl⟩, Requests.act fun _ => ?_⟩
        exact Requests.unlock hfilled may_end

theorem may_flush (pauseOk flushOk : Bool) :
    Each (Requests (May (.op (.flush pauseOk flushOk)))) G ∅ (flush pauseOk flushOk) := by
  refine ⟨holds_nothing, Requests.act fun _ => ⟨⟨trivial, rfl⟩, ?_⟩⟩
  have hempty : Mutex.mEmptyQueueMutex ∉
      (insert .mFilledQueueMutex (insert .mLock ∅) : Set Mutex) := by simp
  refine ⟨hempty, Requests.act fun _ => Requests.unlock hempty ?_⟩
  refine Requests.unlock (by simp) <| Requests.act fun _ => ?_
  exact may_end

theorem may_stop : Each (Requests (May (.op .stop))) G ∅ stop :=
  ⟨holds_nothing, Requests.act fun _ => may_end⟩

theorem may_isBufferAvailable :
    Each (Requests (May .isBufferAvailable)) G ∅ isBufferAvailable := by
  have hempty : Mutex.mEmptyQueueMutex ∉ (insert .mLock ∅ : Set Mutex) := by simp
  refine ⟨holds_nothing, hempty, Requests.act fun s => ?_⟩
  split
  · -- `mLock` is given back before the wait, so that only `mEmptyQueueMutex` is held
    rw [Set.insert_comm]
    refine Requests.unlock (by simp) <| Requests.wait (Set.notMem_empty _) (Set.notMem_empty _) ?_
    refine Requests.unlock (Set.notMem_empty _) ?_
    exact ⟨holds_nothing, Requests.act fun _ => may_end⟩
  · exact Requests.unlock hempty <| Requests.act fun _ => may_end

/-- Around `fsync` the event thread holds `mFilledQueueMutex` alone. -/
theorem may_writeDone (buf_addr : ℕ) (fsyncOk : Bool) :
    Each (Requests (May (.op (.writeDone buf_addr fsyncOk)))) G ∅ (writeDone buf_addr fsyncOk) := by
  refine ⟨holds_nothing, Requests.act fun _ => ⟨⟨trivial, rfl⟩, Requests.act fun s => ?_⟩⟩
  have hfinish : Each (Requests (May (.op (.writeDone buf_addr fsyncOk)))) G
      (insert .mFilledQueueMutex (insert .mLock ∅))
      (.unlock .mFilledQueueMutex <| .act .writeDone id (fun _ => some .mWriteCv) fun _ =>
        .unlock .mLock .done : Code) :=
    Requests.unlock (by simp) <| Requests.act fun _ => may_end
  split
  · exact hfinish
  · have hempty : Mutex.mEmptyQueueMutex ∉
        (insert .mFilledQueueMutex (insert .mLock ∅) : Set Mutex) := by simp
    refine ⟨hempty, Requests.act fun _ => Requests.unlock hempty <| Requests.act fun s => ?_⟩
    split
    · rw [Set.insert_comm] at hfinish ⊢
      refine Requests.unlock (by simp) <| Requests.act fun _ => ⟨?_, Requests.act fun _ => hfinish⟩
      rintro n (rfl | hn)
      · rfl
      · exact absurd hn (Set.notMem_empty n)
    · exact hfinish

theorem may_prog (i : Request) : Each (Requests (May i)) G ∅ (prog i) := by
  have hact : ∀ j f, Each (Requests (May j)) G ∅ (act f fun _ => .done) :=
    fun _ _ => Requests.act fun _ => rfl
  cases i with
  | isBufferAvailable => exact may_isBufferAvailable
  | op o =>
    cases o with
    | write bytes ok now => exact may_write bytes ok now
    | flush pauseOk flushOk => exact may_flush pauseOk flushOk
    | stop => exact may_stop
    | writeDone buf_addr fsyncOk => exact may_writeDone buf_addr fsyncOk
    | _ => exact hact _ _

end Programs

/-! ### Runs -/

section Runs

variable {τ : Type} [DecidableEq τ] {may : τ → Request → AudioSessionOutLPA → Bool}
  {c c' : Config AudioSessionOutLPA Mutex CondVar Region Request τ} {l : Label CondVar Request τ}

/-- While a thread holds `mFilledQueueMutex`, no other takes `mLock` in a program that will request
`mFilledQueueMutex`. -/
def WaitsForFilled (c : Config AudioSessionOutLPA Mutex CondVar Region Request τ) :
    Label CondVar Request τ → Prop
  | .step t _ => .mLock ∈ c.requests t → ∀ i ∈ c.op t, UsesFilled i →
      ∀ u ∈ c.owner .mFilledQueueMutex, u = t
  | _ => True

instance : Decidable (WaitsForFilled c l) := by
  cases l <;> unfold WaitsForFilled <;> infer_instance

/-- Who holds `mLock` while another thread holds `mFilledQueueMutex` will not request that. -/
def Clear (c : Config AudioSessionOutLPA Mutex CondVar Region Request τ) : Prop :=
  ∀ t u i, c.owner .mLock = some t → c.owner .mFilledQueueMutex = some u → t ≠ u →
    c.op t = some i → ¬ UsesFilled i

theorem requests_prog : Closed (system may) (fun _ _ => True) fun i =>
    Each (Requests (May i)) fun _ _ => True :=
  requests_closed may_prog

theorem clear_step (hci : CodeInv (fun i => Each (Requests (May i)) fun _ _ => True) c)
    (h : Clear c) (hl : WaitsForFilled c l) (hs : Threads.step (system may) c l = some c') :
    Clear c' := by
  intro t u i ht hu htu hop hi
  -- the thread that holds `mLock` now has not begun an operation in this step
  have hbusy : c.owner .mLock = some t → c.code t ≠ .done := by
    intro hm hd
    have : Mutex.mLock ∈ c.held t := hm
    have hclosed : Closed (system may) _ _ := requests_prog
    rw [hci.held_of_done hclosed hd] at this
    exact this
  rcases owner_of_step hs ht with ht' | ⟨⟨w, rfl⟩, hreq⟩
  · rw [op_of_step hs (hbusy ht')] at hop
    rcases owner_of_step hs hu with hu' | ⟨-, hreq⟩
    · exact h t u i ht' hu' htu hop hi
    · obtain ⟨-, -, -, hheld⟩ := hci.request hreq
      have : Mutex.mLock ∈ c.held u := hheld ▸ Set.mem_insert _ _
      exact htu (Option.some.inj (ht'.symm.trans this))
  · obtain ⟨-, k, hk⟩ := Config.mem_requests.1 hreq
    rw [op_of_step hs (by simp [hk])] at hop
    rcases owner_of_step hs hu with hu' | ⟨⟨w', hw⟩, -⟩
    · exact htu (hl hreq i hop hi u hu').symm
    · cases hw
      exact htu rfl

/-- The order of the mutexes while a thread holds `mFilledQueueMutex` without `mLock`, or not. -/
def rank (fsync : Prop) [Decidable fsync] : Mutex → ℕ
  | .mLock => 1
  | .mFilledQueueMutex => if fsync then 0 else 2
  | .mEmptyQueueMutex => 3

/-- In every state the mutexes have an order that all requests keep. -/
theorem above_of_clear (hci : CodeInv (fun i => Each (Requests (May i)) fun _ _ => True) c)
    (h : Clear c) : ∃ rank : Mutex → ℕ, ∀ t, ∀ m ∈ c.requests t, Above rank (c.held t) m := by
  classical
  let fsync := ∃ u, c.owner .mFilledQueueMutex = some u ∧ c.owner .mLock ≠ some u
  refine ⟨rank fsync, fun t m hm => ?_⟩
  obtain ⟨i, hi, hmay⟩ := hci.request hm
  intro n hn
  cases m with
  | mLock =>
    obtain rfl := hmay n hn
    have hf : fsync := by
      refine ⟨t, hn, fun e => ?_⟩
      exact absurd (hmay .mLock e) (by decide)
    simp [rank, hf]
  | mFilledQueueMutex =>
    obtain ⟨hu, hheld⟩ := hmay
    have hlock : c.owner .mLock = some t := by
      show Mutex.mLock ∈ c.held t
      rw [hheld]
      exact Set.mem_insert _ _
    have hf : ¬ fsync := by
      rintro ⟨u, hfilled, hne⟩
      exact h t u i hlock hfilled (fun e => hne (e ▸ hlock)) hi hu
    rw [hheld] at hn
    rcases hn with rfl | hn
    · simp [rank, hf]
    · exact absurd hn (Set.notMem_empty n)
  | mEmptyQueueMutex =>
    cases n with
    | mEmptyQueueMutex => exact absurd hn hmay
    | mLock => simp [rank]
    | mFilledQueueMutex =>
      by_cases hf : fsync <;> simp [rank, hf]

/-- **No deadlock.** Take any number of threads, in any interleaving, in which no `write`, `flush`
or `WRITE_DONE` takes `mLock` while another thread holds `mFilledQueueMutex`.  Then no two threads
wait for each other, nor do more of them in a cycle. -/
theorem never_deadlocked {s : AudioSessionOutLPA} {ls : List (Label CondVar Request τ)}
    (hl : Runs.Along (Threads.step (system may)) WaitsForFilled (Config.init s) ls)
    (hr : Runs.run (Threads.step (system may)) (Config.init s) ls = some c) :
    (∀ t u, ¬ (c.WaitsFor t u ∧ c.WaitsFor u t)) ∧ ∀ t, ¬ Relation.TransGen c.WaitsFor t t := by
  obtain ⟨hci, hclear⟩ : CodeInv (fun i => Each (Requests (May i)) fun _ _ => True) c ∧ Clear c := by
    refine Runs.run_inv (I := fun c => CodeInv _ c ∧ Clear c) ?_ ?_ hl hr
    · intro c l c' h hl hs
      exact ⟨h.1.step requests_prog (guard_true c l) hs, clear_step h.1 h.2 hl hs⟩
    · refine ⟨codeInv_init _ s, fun t u i ht => ?_⟩
      simp [Config.init] at ht
  obtain ⟨rank, hrank⟩ := above_of_clear hci hclear
  refine ⟨fun t u h => ?_, no_cycle hrank⟩
  exact no_cycle hrank t (.head h.1 (.single h.2))

end Runs

/-! ### Two threads -/

/-- Both threads may run everything. -/
def anyone (_ : Bool) (_ : Request) (_ : AudioSessionOutLPA) : Bool := true

/-- The client writes a short buffer, and the event thread handles its `WRITE_DONE` up to `fsync`. -/
def untilFsync : List (Label CondVar Request Bool) :=
  [.start true (.op (.write 100 true 2))] ++ List.replicate 11 (.step true none) ++
  [.start false (.op (.writeDone 0x1000 true))] ++ List.replicate 9 (.step false none)

/-- The client begins to flush when the event thread has taken `mLock` again. -/
def flushAfterFsync : List (Label CondVar Request Bool) :=
  untilFsync ++ List.replicate 2 (.step false none) ++ [.start true (.op (.flush true true))]

theorem never_deadlocked_flushAfterFsync :
    ∃ c, Runs.run (Threads.step (system anyone)) (Config.init opened) flushAfterFsync = some c ∧
      c.WaitsFor true false ∧
      ((∀ t u, ¬ (c.WaitsFor t u ∧ c.WaitsFor u t)) ∧ ∀ t, ¬ Relation.TransGen c.WaitsFor t t) := by
  have h : ∃ c, Runs.run (Threads.step (system anyone)) (Config.init opened) flushAfterFsync = some c ∧
      c.WaitsFor true false := Runs.exists_run (by decide +kernel)
  obtain ⟨c, hr, hw⟩ := h
  exact ⟨c, hr, hw, never_deadlocked (by decide +kernel) hr⟩

/-- The client takes `mLock` while the event thread is in `fsync`. -/
def flushOverFsync : List (Label CondVar Request Bool) :=
  untilFsync ++ [.start true (.op (.flush true true))] ++ List.replicate 2 (.step true none) ++
  [.step false none]

/-- The client holds `mLock` and requests `mFilledQueueMutex`, which the event thread holds and
requests `mLock`. -/
theorem flush_over_fsync :
    ∃ c, Runs.run (Threads.step (system anyone)) (Config.init opened) flushOverFsync = some c ∧
      c.WaitsFor true false ∧ c.WaitsFor false true :=
  Runs.exists_run (by decide +kernel)

end Msm7x27a.Lpa.Programs
