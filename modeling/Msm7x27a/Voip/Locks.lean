import Msm7x27a.Lib.LockOrder
import Msm7x27a.Voip.Programs

/-!
# The order of `mLock` and `mVoipLock`

Every program requests `mVoipLock` before `mLock` (`ordered_prog`), but for `closeOutputStream` when
it deletes the direct output: it holds `mLock`, and the destructor takes `mVoipLock` and, if it stops
the driver, requests `mLock` again.  While no thread drops the last reference to the direct output
there is no deadlock (`no_deadlock`); `op_runs` ties the programs to the operations of `Voip.Device`.
-/

namespace Msm7x27a.Voip

open Msm7x27a.Audio Msm7x27a.Threads

namespace Locks

/-- `mVoipLock` comes before `mLock`. -/
def rank : Mutex → ℕ
  | .mVoipLock => 0
  | .mLock => 1

/-- `closeOutputStream` does not drop the last reference to the direct output. -/
def KeepsReference : Region → Device → Prop
  | .work, _ => True
  | .dropReference, w => ¬ (w.mDirectOutput ≠ none ∧ w.hw.mDirectOutrefCnt - 1 ≤ 0)

instance (r : Region) (w : Device) : Decidable (KeepsReference r w) := by
  cases r <;> unfold KeepsReference <;> infer_instance

section Order

variable (P : Platform) {G : Region → Device → Prop} {H : Set Mutex}

theorem ordered_returned (call : Call) (ok : Bool) : Ordered rank G ∅ (returned call ok) :=
  Requests.act fun _ => rfl

/-- `mLock` may be taken wherever it is not held. -/
theorem rank_lt_mLock (hH : Mutex.mLock ∉ H) : Above rank H .mLock := by
  intro n hn
  cases n with
  | mLock => exact absurd hn hH
  | mVoipLock => exact Nat.zero_lt_one

theorem ordered_setMicMute (state : Bool) {k : Code} (hH : Mutex.mLock ∉ H)
    (h : Ordered rank G H k) : Ordered rank G H (setMicMute P state k) :=
  Ordered.lock (rank_lt_mLock hH) fun hm => Requests.act fun _ => Requests.unlock hm h

theorem ordered_doRouting (new_snd_device : Int) {k : Code} (hH : Mutex.mLock ∉ H)
    (h : Ordered rank G H k) : Ordered rank G H (doRouting new_snd_device k) :=
  Ordered.lock (rank_lt_mLock hH) fun hm => Requests.act fun _ => Requests.unlock hm h

theorem ordered_foldr_doRouting (routed : List Int) {k : Code} (h : Ordered rank G ∅ k) :
    Ordered rank G ∅ (routed.foldr doRouting k) := by
  induction routed with
  | nil => exact h
  | cons d routed ih => exact ordered_doRouting d (Set.notMem_empty _) ih

theorem ordered_setup (value : Bool) {k : Code} (hH : Mutex.mLock ∉ H) (h : Ordered rank G H k) :
    Ordered rank G H (setupDeviceforVoipCall P value k) := by
  refine Requests.act fun w => ?_
  generalize (if value = true then AudioMode.inCommunication else .normal) = mode
  split_ifs
  · exact h
  · exact h
  · exact ordered_setMicMute P _ hH h

theorem mLock_notMem : Mutex.mLock ∉ (insert .mVoipLock ∅ : Set Mutex) := by simp

theorem ordered_standbyIn (h : ℕ) (x : Slot) {k : Code} (hk : Ordered rank G ∅ k) :
    Ordered rank G ∅ (standbyIn P h x k) := by
  refine Ordered.lock above_empty fun hm => Requests.act fun w => ?_
  split_ifs
  · apply ordered_setup P _ mLock_notMem
    exact Requests.act fun _ => Requests.unlock hm hk
  · exact Requests.unlock hm hk

theorem ordered_destroyIn (h : ℕ) (x : Slot) {k : Code} (hk : Ordered rank G ∅ k) :
    Ordered rank G ∅ (destroyIn P h x k) :=
  Requests.act fun _ => ordered_standbyIn P h x hk

theorem ordered_standbyOut {k : Code} (hk : Ordered rank G ∅ k) :
    Ordered rank G ∅ (standbyOut P k) := by
  refine Ordered.lock above_empty fun hm => Requests.act fun w => ?_
  split_ifs
  · apply ordered_setup P _ mLock_notMem
    exact Requests.act fun _ => Requests.unlock hm hk
  · exact Requests.unlock hm hk

theorem ordered_pollIn (h bytes : ℕ) (ret : Int) (results : List AudioStreamInVoip.ReadResult) :
    Ordered rank G ∅ (pollIn h bytes ret results) := by
  refine Requests.act fun w => ?_
  split
  · exact ordered_returned _ _
  · rfl

theorem ordered_readOpen (h bytes : ℕ) (ret : Int) (results : List AudioStreamInVoip.ReadResult) :
    Ordered rank G ∅ (readOpen P h bytes ret results) := by
  refine Requests.act fun w => ?_
  split_ifs
  · exact ordered_returned _ _
  · refine Requests.act fun w => ?_
    split_ifs
    · exact ordered_pollIn _ _ _ _
    · exact ordered_setup P _ (Set.notMem_empty _) (ordered_pollIn _ _ _ _)

theorem ordered_read (h bytes : ℕ) (o : MvsOutcome) (results : List AudioStreamInVoip.ReadResult) :
    Ordered rank G ∅ (read P h bytes o results) := by
  refine Requests.act fun w => ?_
  split_ifs
  · exact ordered_returned _ _
  · refine Ordered.lock above_empty fun hm => Requests.act fun w => Requests.unlock hm ?_
    split_ifs
    · exact ordered_returned _ _
    · exact Requests.act fun _ => ordered_readOpen P _ _ _ _
  · exact ordered_readOpen P _ _ _ _

theorem ordered_openInputStream (h : ℕ) (junk : Bool) (a : StreamArgs) (o : MvsOutcome) :
    Ordered rank G ∅ (openInputStream P h junk a o) := by
  refine Ordered.lock above_empty fun hm => Requests.act fun w => Requests.unlock hm ?_
  dsimp only
  split_ifs
  · rfl
  · exact ordered_destroyIn P _ _ rfl
  · rfl
  · refine Requests.act fun w => ?_
    split_ifs
    · refine Requests.act fun _ => ?_
      exact ordered_setup P _ (Set.notMem_empty _) (ordered_returned _ _)
    · exact ordered_returned _ _

theorem ordered_closeInputStream (h : ℕ) : Ordered rank G ∅ (closeInputStream P h) := by
  refine Ordered.lock above_empty fun hm => Requests.act fun w => ?_
  split_ifs
  · exact Requests.unlock hm rfl
  · apply Requests.unlock hm
    apply ordered_destroyIn P
    exact Ordered.lock above_empty fun hm => Requests.act fun _ => Requests.unlock hm rfl

theorem ordered_writeOpen (status : Int) (bytes : ℕ) (frame : MvsFrame)
    (results : List AudioStreamOutDirect.WriteResult) :
    Ordered rank G ∅ (writeOpen status bytes frame results) := by
  refine Requests.act fun w => ?_
  split
  · exact ordered_returned _ _
  · rfl

theorem ordered_leaveStandby {k : Code} (h : Ordered rank G ∅ k) :
    Ordered rank G ∅ (leaveStandby P k) := by
  have hk : Ordered rank G ∅
      (act (runOut fun c => { c with s := { c.s with mStandby := false } }) fun _ => k) :=
    Requests.act fun _ => h
  refine Requests.act fun w => ?_
  dsimp only
  split_ifs
  · exact ordered_setup P _ (Set.notMem_empty _) hk
  · exact hk

theorem ordered_write (bytes : ℕ) (frame : MvsFrame) (o : MvsOutcome)
    (results : List AudioStreamOutDirect.WriteResult) :
    Ordered rank G ∅ (write P bytes frame o results) := by
  refine Requests.act fun w => ?_
  split_ifs
  · exact Requests.act fun _ => ordered_leaveStandby P (ordered_writeOpen _ _ _ _)
  · refine Requests.act fun w => ?_
    dsimp only
    split_ifs
    · exact ordered_returned _ _
    · exact ordered_leaveStandby P (ordered_writeOpen _ _ _ _)
  · exact ordered_writeOpen _ _ _ _

theorem ordered_openOutputStream (a : StreamArgs) : Ordered rank G ∅ (openOutputStream P a) := by
  refine Ordered.lock above_empty fun hm => Requests.act fun w => ?_
  dsimp only
  split_ifs
  · exact Requests.act fun _ => Requests.unlock hm rfl
  · exact Requests.unlock hm rfl
  · apply Requests.unlock hm
    refine Requests.act fun w => ?_
    have hk : Ordered rank G ∅ (.lock .mLock <|
        act (fun w => { w with log := .returned (.openStream .out) true :: w.log }) fun _ =>
        .unlock .mLock .done) :=
      Ordered.lock above_empty fun hm => Requests.act fun _ => Requests.unlock hm rfl
    split_ifs
    · exact ordered_setup P _ (Set.notMem_empty _) hk
    · exact hk

/-- Every operation but `closeOutputStream` requests the mutexes in order, whatever it finds. -/
theorem ordered_ofOp {op : Op} (hop : op ≠ .closeOutputStream) :
    Ordered rank G ∅ (ofOp P op) := by
  cases op with
  | openInputStream h junk a o => exact ordered_openInputStream P h junk a o
  | read h bytes o results => exact ordered_read P h bytes o results
  | standbyIn h => exact ordered_standbyIn P h _ (ordered_returned _ _)
  | closeInputStream h => exact ordered_closeInputStream P h
  | openOutputStream a => exact ordered_openOutputStream P a
  | write bytes frame o results => exact ordered_write P bytes frame o results
  | standbyOut => exact ordered_standbyOut P (ordered_returned _ _)
  | closeOutputStream => exact absurd rfl hop

/-- `closeOutputStream` does so while it deletes nothing. -/
theorem ordered_closeOutputStream : Ordered rank KeepsReference ∅ (closeOutputStream P) := by
  refine Ordered.lock above_empty fun hm => ⟨trivial, fun w hw => ?_⟩
  dsimp only
  rw [if_neg hw]
  exact Requests.unlock hm rfl

theorem ordered_prog (i : Request) : Ordered rank KeepsReference ∅ (prog P i) := by
  have hlock : Ordered rank KeepsReference ∅ (.lock .mLock (.unlock .mLock .done) : Code) :=
    Ordered.lock above_empty fun hm => Requests.unlock hm rfl
  cases i with
  | voip op =>
    by_cases h : op = .closeOutputStream
    · subst h
      exact ordered_closeOutputStream P
    · exact ordered_ofOp P h
  | setMicMute state => exact ordered_setMicMute P state (Set.notMem_empty _) rfl
  | setParameters routed bitRate => exact ordered_foldr_doRouting routed (Requests.act fun _ => rfl)
  | openOther | closeOtherOutput => exact hlock
  | closeOtherInput routed =>
    apply Ordered.lock above_empty
    intro hm
    exact Requests.unlock hm (ordered_foldr_doRouting _ hlock)

/-- **An operation that no other thread disturbs** can run to its end, and does what it does as one
step. -/
theorem op_runs {τ : Type} [DecidableEq τ] {w' : Device} {op : Op} (hop : op ≠ .closeOutputStream)
    {c : Config Device Mutex Empty Region Request τ} {t : τ} (hfree : Sole c t ∅)
    (hc : c.code t = ofOp P op) (hw : step P c.shared op = some w') :
    ∃ ls c', Runs.run (Threads.step (system P τ)) c ls = some c' ∧ c'.code t = .done ∧
      c'.shared = w' := by
  obtain ⟨ls, c', hr, hd, hs⟩ := solo (system P τ) (ordered_ofOp P hop) hfree hc
  exact ⟨ls, c', hr, hd, hs.trans (alone_prog P hw)⟩

/-- **No deadlock.** Take any number of threads, in any interleaving, of which none runs
`closeOutputStream` on the last reference to the direct output.  Then no thread requests a mutex it
holds, and no threads wait for each other in a cycle. -/
theorem no_deadlock {τ : Type} [DecidableEq τ] {w : Device}
    {ls : List (Label Empty Request τ)} {c : Config Device Mutex Empty Region Request τ}
    (hg : Runs.Along (Threads.step (system P τ)) (Guard KeepsReference) (Config.init w) ls)
    (hr : Runs.run (Threads.step (system P τ)) (Config.init w) ls = some c) :
    (∀ t, ∀ m ∈ c.requests t, c.owner m ≠ some t) ∧ ∀ t, ¬ Relation.TransGen c.WaitsFor t t := by
  have hci := (requests_closed (S := system P τ) (ordered_prog P)).inv hg hr
  refine ⟨fun t m hm ho => ?_, no_cycle hci.above⟩
  exact no_cycle hci.above t (.single ⟨m, hm, ho⟩)

end Order

/-- One thread opens the direct output twice and closes it once, while another opens an input. -/
def twoThreads : List (Label Empty Request Bool) :=
  let opens := Request.voip (.openOutputStream ⟨.pcm16Bit, channelOutMono, 8000⟩)
  [.start true opens] ++ List.replicate 7 (.step true none) ++
  [.start true opens] ++ List.replicate 4 (.step true none) ++
  [.start true (.voip .closeOutputStream)] ++ List.replicate 2 (.step true none) ++
  [.start false (.voip (.openInputStream 0 true ⟨.pcm16Bit, channelInMono, 8000⟩ ⟨3, 0, 0, 0⟩))]

theorem no_deadlock_twoThreads :
    ∃ c, Runs.run (Threads.step (system Platform.plain Bool)) (Config.init Device.init) twoThreads = some c ∧
      c.WaitsFor false true ∧
      ((∀ t, ∀ m ∈ c.requests t, c.owner m ≠ some t) ∧ ∀ t, ¬ Relation.TransGen c.WaitsFor t t) := by
  have h : ∃ c, Runs.run (Threads.step (system Platform.plain Bool)) (Config.init Device.init)
      twoThreads = some c ∧ c.WaitsFor false true := Runs.exists_run (by decide +kernel)
  obtain ⟨c, hr, hw⟩ := h
  exact ⟨c, hr, hw, no_deadlock Platform.plain (by decide +kernel) hr⟩

/-- The direct output is opened, written to, which opens the driver, and closed. -/
def lastClose : List (Label Empty Request Unit) :=
  [.start () (.voip (.openOutputStream ⟨.pcm16Bit, channelOutMono, 8000⟩))] ++
  List.replicate 7 (.step () none) ++
  [.start () (.voip (.write 320 {} ⟨3, 0, 0, 0⟩ [.zero]))] ++ List.replicate 6 (.step () none) ++
  [.start () (.voip .closeOutputStream)] ++ List.replicate 6 (.step () none)

/-- `closeOutputStream` holds `mLock` while it deletes the stream, and the destructor's `standby`
stops the driver and calls `setMicMute`, which requests `mLock`. -/
theorem close_waits_for_itself :
    ∃ c, Runs.run (Threads.step (system Platform.plain Unit)) (Config.init Device.init) lastClose = some c ∧
      c.requests () = some .mLock ∧ c.owner .mLock = some () := by
  exact Runs.exists_run (by decide +kernel)

end Locks

end Msm7x27a.Voip
