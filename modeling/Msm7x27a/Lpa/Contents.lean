import Msm7x27a.Lpa.Ownership
import Msm7x27a.Lib.Bytes
import Mathlib.Data.List.Pairwise

/-!
# What the driver plays

The contents of the buffers.  `write` clears as many bytes of the buffer as it was given and copies
them there, without a look at the size of the buffer, and gives the driver one byte more if their
number is odd.  That byte is not cleared: a buffer holds the layers that were stored in it, and the
byte is that of the last one that was longer.  `flush` clears the buffers of the pool from end to end.

`played` says what the driver gets as long as it owns a buffer, in runs that meet `Handed` and whose
writes fit the buffers.
-/

namespace Msm7x27a.Lpa

open Msm7x27a.Audio Msm7x27a.Bytes

/-- An operation, and the data if it is a `write`. -/
structure DataOp where
  op : Op
  data : List Byte := []
  length_data : ∀ bytes ok now, op = .write bytes ok now → data.length = bytes

def DataOp.write (data : List Byte) (ok : Bool) (now : Int) : DataOp where
  op := .write data.length ok now
  data := data
  length_data _ _ _ h := by cases h; rfl

/-- The session and the memory.  What was stored in the buffers, and what was given to the driver, is
recorded newest first. -/
structure Playback where
  session : AudioSessionOutLPA
  mem : Memory
  stored : List (ℕ × List Byte) := []
  given : List (AioBuf × List Byte) := []

/-- The stores of an operation in order, each with its address: `memset` and `memcpy` of `write`, and
the `memset` of each buffer of the pool in `flush`. -/
def AudioSessionOutLPA.stores (s : AudioSessionOutLPA) (d : DataOp) : List (ℕ × List Byte) :=
  match d.op with
  | .write bytes _ _ =>
    match s.bytesLeft bytes, s.mEmptyQueue.head? with
    | some n, some buf => [(buf.memBuf, List.replicate n 0), (buf.memBuf, d.data.take n)]
    | _, _ => []
  | .flush .. => s.mBufPool.map fun buf => (buf.memBuf, List.replicate buf.memBufsize 0)
  | _ => []

/-- What was stored at the address, newest first. -/
def layers (stored : List (ℕ × List Byte)) (a : ℕ) : List (List Byte) :=
  stored.filterMap fun c => if c.1 = a then some c.2 else none

namespace Playback

/-- What the driver accepts in an operation that has led to the session `t`. -/
def accepted (d : DataOp) (t : AudioSessionOutLPA) : List (AioBuf × List Byte) :=
  match d.op, t.log with
  | .write .., .asyncWrite aio true :: _ => [(aio, d.data)]
  | _, _ => []

def step (p : Playback) (d : DataOp) : Option Playback :=
  (Lpa.step p.session d.op).map fun t =>
    let stores := p.session.stores d
    { session := t
      mem := stores.foldl (fun m c => m.store c.1 c.2) p.mem
      stored := stores.reverse ++ p.stored
      given := accepted d t ++ p.given }

/-- What was given to the driver last at the address. -/
def lastGiven (p : Playback) (a : ℕ) : Option (AioBuf × List Byte) :=
  p.given.find? fun g => g.1.buf_addr = a

end Playback

/-- The data of an operation fits a buffer. -/
def Fits (d : DataOp) : Prop := d.data.length ≤ LPA_BUFFER_SIZE

instance : DecidablePred Fits := fun d => inferInstanceAs (Decidable (d.data.length ≤ LPA_BUFFER_SIZE))

/-- The buffers do not overlap. -/
def Apart (pool : List BuffersAllocated) : Prop :=
  pool.Pairwise fun b b' =>
    b.memBuf + LPA_BUFFER_SIZE ≤ b'.memBuf ∨ b'.memBuf + LPA_BUFFER_SIZE ≤ b.memBuf

instance : DecidablePred Apart := fun pool => inferInstanceAs (Decidable (List.Pairwise _ pool))

/-! ### The stores of one operation -/

theorem layers_cons (c : ℕ × List Byte) (stored : List (ℕ × List Byte)) (a : ℕ) :
    layers (c :: stored) a = if c.1 = a then c.2 :: layers stored a else layers stored a := by
  unfold layers
  split
  next h => rw [List.filterMap_cons, if_pos h]
  next h => rw [List.filterMap_cons, if_neg h]

/-- The store lies in a buffer of the pool, from its start on. -/
def Inside (pool : List BuffersAllocated) (c : ℕ × List Byte) : Prop :=
  (∃ b ∈ pool, b.memBuf = c.1) ∧ c.2.length ≤ LPA_BUFFER_SIZE

/-- The stores lie in the buffers, and the buffers hold their layers. -/
structure Layered (under : ℕ → Byte) (pool : List BuffersAllocated) (m : Memory)
    (stored : List (ℕ × List Byte)) : Prop where
  written : ∀ i ∈ m.written, ∃ b ∈ pool, b.memBuf ≤ i ∧ i < b.memBuf + LPA_BUFFER_SIZE
  contents : ∀ b ∈ pool, ∀ i < LPA_BUFFER_SIZE,
    m.byte (b.memBuf + i) = layered (fun i => under (b.memBuf + i)) (layers stored b.memBuf) i

section Stores

variable {under : ℕ → Byte} {pool : List BuffersAllocated} {m : Memory} {stored : List (ℕ × List Byte)}

theorem Layered.store (h : Layered under pool m stored) (hapart : Apart pool) {c : ℕ × List Byte}
    (hc : Inside pool c) : Layered under pool (m.store c.1 c.2) (c :: stored) := by
  obtain ⟨⟨b, hb, hbc⟩, hfits⟩ := hc
  constructor
  · intro i hi
    rcases written_store _ _ hi with hi | ⟨hle, hlt⟩
    · exact h.written i hi
    · exact ⟨b, hb, by omega, by omega⟩
  · intro b' hb' i hi
    rw [layers_cons]
    split
    next he =>
      rw [he]
      exact layered_store (h.contents b' hb' i hi)
    next hne =>
      -- another buffer
      have : Std.Symm fun b b' : BuffersAllocated =>
          b.memBuf + LPA_BUFFER_SIZE ≤ b'.memBuf ∨ b'.memBuf + LPA_BUFFER_SIZE ≤ b.memBuf :=
        ⟨fun _ _ h => h.symm⟩
      have hdisjoint := List.Pairwise.forall hapart hb hb' fun e => hne (by rw [← hbc, e])
      rw [byte_store_of_disjoint _ _ (by omega)]
      exact h.contents b' hb' i hi

theorem Layered.stores (h : Layered under pool m stored) (hapart : Apart pool)
    {cs : List (ℕ × List Byte)} (hcs : ∀ c ∈ cs, Inside pool c) :
    Layered under pool (cs.foldl (fun m c => m.store c.1 c.2) m) (cs.reverse ++ stored) := by
  induction cs generalizing m stored with
  | nil => exact h
  | cons c cs ih =>
    rw [List.foldl_cons, List.reverse_cons, List.append_assoc]
    exact ih (h.store hapart (hcs c (List.mem_cons_self ..))) fun c' hc' =>
      hcs c' (List.mem_cons_of_mem _ hc')

end Stores

/-! ### One operation -/

namespace Playback

open AudioSessionOutLPA

variable {s t : AudioSessionOutLPA} {d : DataOp} {a : ℕ}

theorem log_sendToDriver (s : AudioSessionOutLPA) (b : BuffersAllocated) (ok : Bool) :
    (s.sendToDriver b ok).log =
      if s.mIsDriverStarted = true then .asyncWrite (aioBuf b) ok :: s.log else s.log := by
  unfold sendToDriver
  dsimp only
  split_ifs <;> rfl

theorem log_postIfDrained (s : AudioSessionOutLPA) :
    s.postIfDrained.log = s.log ∨ ∃ filled, s.postIfDrained.log = .postEOS filled :: s.log := by
  unfold postIfDrained postEos
  split
  · split
    · exact .inr ⟨_, rfl⟩
    · exact .inl rfl
  · exact .inl rfl

theorem owns_writeDone (s : AudioSessionOutLPA) (buf_addr : ℕ) (fsyncOk : Bool) (a : ℕ) :
    owns (s.writeDone buf_addr fsyncOk).log a = decide (buf_addr ≠ a ∧ owns s.log a = true) := by
  have hreceive : ∀ t : AudioSessionOutLPA, t.receiveEos.log = t.log := by
    intro t
    unfold receiveEos
    split <;> rfl
  rcases writeDone_cases s buf_addr fsyncOk with ⟨-, h⟩ | ⟨b, -, ⟨-, -, h⟩ | ⟨-, h⟩⟩
  · rw [h]
    rfl
  · rw [h]
    rfl
  · rw [h, hreceive]
    rfl

/-- What an operation stores and gives to the driver. -/
inductive Moves (s : AudioSessionOutLPA) (d : DataOp) (t : AudioSessionOutLPA) : Prop where
  | nothing (hstores : s.stores d = []) (haccepted : accepted d t = [])
      (howns : ∀ a, owns t.log a = true → owns s.log a = true)
  /-- All buffers are cleared, and empty. -/
  | flush (haccepted : accepted d t = []) (hempty : t.mEmptyQueue = s.mBufPool)
      (howns : ∀ a, owns t.log a = true → owns s.log a = true)
  /-- Nothing is left to write: the first empty buffer is put back. -/
  | back (b : BuffersAllocated) (hb : b ∈ s.mEmptyQueue)
      (hstores : s.stores d = [(b.memBuf, []), (b.memBuf, [])]) (haccepted : accepted d t = [])
      (howns : owns t.log = owns s.log)
  /-- The client's bytes go to the first empty buffer. -/
  | gives (b : BuffersAllocated) (hb : b ∈ s.mEmptyQueue) (bytes : ℕ) (ok : Bool) (now : Int)
      (hop : d.op = .write bytes ok now) (hskip : s.mSkipWrite = false) (hpos : 0 < bytes)
      (hstores : s.stores d = [(b.memBuf, List.replicate bytes 0), (b.memBuf, d.data)])
      (haccepted : s.mIsDriverStarted = true → ok = true →
        accepted d t = [(aioBuf { b with bytesToWrite := bytes }, d.data)])
      (howns : ∀ a, b.memBuf ≠ a → owns t.log a = owns s.log a)

theorem moves_write {bytes : ℕ} {ok : Bool} {now : Int} (hop : d.op = .write bytes ok now)
    (ht : Lpa.step s (.write bytes ok now) = some t) : Moves s d t := by
  obtain ⟨op, data, hlength⟩ := d
  obtain rfl : op = .write bytes ok now := hop
  rcases write_cases ht with ⟨hskip, hle, rfl⟩ | ⟨b, q, hq, ⟨hskip, hpos, rfl⟩ | ⟨hzero, hlt, rfl⟩⟩
  · -- the whole call is skipped
    refine .nothing ?_ rfl fun a ho => ho
    simp [stores, bytesLeft, hskip, Nat.not_lt.2 hle]
  · refine .gives b (hq ▸ List.mem_cons_self ..) bytes ok now rfl hskip hpos ?_ ?_ ?_
    · simp [stores, bytesLeft, hskip, hq, ← hlength bytes ok now rfl]
    · intro hstarted hok
      subst hok
      have hlog := log_sendToDriver (pushFilled { b with bytesToWrite := bytes } (startClock now
        (s.record (.called (.write bytes))).takeSkip.dequeue)) { b with bytesToWrite := bytes } true
      have hlog := hlog.trans (if_pos hstarted)
      unfold accepted
      rw [hlog]
    · intro a hne
      have hown : decide (b.memBuf = a ∨ owns s.log a = true) = owns s.log a := by simp [hne]
      rw [owns_sendToDriver]
      split
      · exact hown
      · rfl
  · refine .back b (hq ▸ List.mem_cons_self ..) ?_ ?_ (owns_postIfDrained _)
    · rcases hzero with hskip | rfl
      · simp [stores, bytesLeft, hskip, hlt, hq]
      · simp [stores, bytesLeft, hlt, hq]
    · have hlog := log_postIfDrained (pushEmpty { b with bytesToWrite := 0 }
        (s.record (.called (.write bytes))).takeSkip.dequeue).reachEos
      have haccepted : ∀ t : AudioSessionOutLPA, (t.log = .called (.write bytes) :: s.log ∨
          ∃ filled, t.log = .postEOS filled :: .called (.write bytes) :: s.log) →
            accepted ⟨.write bytes ok now, data, hlength⟩ t = [] := by
        rintro t (h | ⟨filled, h⟩)
        · unfold accepted
          rw [h]
        · unfold accepted
          rw [h]
      exact haccepted _ hlog

theorem moves (ht : Lpa.step s d.op = some t) : Moves s d t := by
  cases hop : d.op with
  | write bytes ok now =>
    rw [hop] at ht
    exact moves_write hop ht
  | flush pauseOk flushOk =>
    rw [hop] at ht
    cases ht
    refine .flush (by simp [accepted, hop]) (flushDriver_same _ pauseOk flushOk).empty fun a ho => ?_
    have hfl := owns_flushDriver (s.record (.called .flush)).refill pauseOk flushOk a
    change owns (s.flush pauseOk flushOk).2.log a = _ at hfl
    rw [hfl] at ho
    split at ho
    · cases ho
    · exact ho
  | start o now =>
    rw [hop] at ht
    cases ht
    refine .nothing (by simp [stores, hop]) (by simp [accepted, hop]) fun a ho => ?_
    rwa [owns_start] at ho
  | suspend statsOk stopOk =>
    rw [hop] at ht
    cases ht
    refine .nothing (by simp [stores, hop]) (by simp [accepted, hop]) fun a ho => ?_
    rw [owns_suspend] at ho
    split at ho
    · cases ho
    · exact ho
  | writeDone buf_addr fsyncOk =>
    rw [hop] at ht
    cases ht
    refine .nothing (by simp [stores, hop]) (by simp [accepted, hop]) fun a ho => ?_
    rw [owns_writeDone, decide_eq_true_eq] at ho
    exact ho.2
  | pause ok now =>
    rw [hop] at ht
    cases ht
    exact .nothing (by simp [stores, hop]) (by simp [accepted, hop]) fun a ho => ho
  | stop | setObserver observer =>
    rw [hop] at ht
    cases ht
    exact .nothing (by simp [stores, hop]) (by simp [accepted, hop]) fun a ho => ho

/-- The first empty buffer is one of the pool. -/
theorem mem_pool {b : BuffersAllocated} (hc : Conserved s) (hb : b ∈ s.mEmptyQueue) :
    ∃ b' ∈ s.mBufPool, b'.memBuf = b.memBuf := by
  have hmem : b.toIonBuffer ∈ (s.mEmptyQueue ++ s.mFilledQueue).map (·.toIonBuffer) :=
    List.mem_map_of_mem (List.mem_append_left _ hb)
  obtain ⟨b', hb', he⟩ := List.mem_map.1 (hc.subset hmem)
  exact ⟨b', hb', by rw [he]⟩

/-- The stores of an operation whose data fits lie in the buffers. -/
theorem inside_stores (hc : Conserved s) (hsize : ∀ b ∈ s.mBufPool, b.memBufsize = LPA_BUFFER_SIZE)
    (hfits : Fits d) : ∀ c ∈ s.stores d, Inside s.mBufPool c := by
  intro c hm
  unfold stores at hm
  split at hm
  next bytes ok now hop =>
    split at hm
    next n buf hn hbuf =>
      obtain ⟨b, hb, hbb⟩ := mem_pool hc (List.mem_of_mem_head? hbuf)
      have hlen : d.data.length = bytes := d.length_data bytes ok now hop
      have hle : n ≤ bytes := by
        unfold bytesLeft at hn
        split_ifs at hn with h1 h2
        · exact (Option.some.inj hn) ▸ Nat.zero_le _
        · exact (Option.some.inj hn) ▸ Nat.le_refl _
      have hbytes : bytes ≤ LPA_BUFFER_SIZE := hlen ▸ hfits
      rcases List.mem_cons.1 hm with rfl | hm
      · exact ⟨⟨b, hb, hbb⟩, (List.length_replicate (n := n) (a := (0 : Byte))).trans_le (hle.trans hbytes)⟩
      · obtain rfl := List.mem_singleton.1 hm
        exact ⟨⟨b, hb, hbb⟩, (List.length_take_le' n d.data).trans hfits⟩
    next => cases hm
  next hop =>
    obtain ⟨b, hb, rfl⟩ := List.mem_map.1 hm
    exact ⟨⟨b, hb, rfl⟩, (List.length_replicate ..).trans_le (hsize b hb).le⟩
  next => cases hm

/-! ### Runs -/

/-- The session has been constructed, with any memory. -/
def start (format : AudioFormat) (channels samplingRate : ℕ) (o : OpenOutcome) (under : ℕ → Byte) :
    Playback where
  session := (construct format channels samplingRate o).2
  mem := { byte := under }

/-- The condition on an operation: it meets `Handed`, and its data fits a buffer. -/
def Proper (p : Playback) (d : DataOp) : Prop := Handed p.session d.op ∧ Fits d

instance (p : Playback) : DecidablePred p.Proper :=
  fun d => inferInstanceAs (Decidable (Handed p.session d.op ∧ Fits d))

/-- The buffers hold what was stored in them, and the driver's what was given to it. -/
structure Inv (under : ℕ → Byte) (pool : List BuffersAllocated) (p : Playback) : Prop where
  mBufPool : p.session.mBufPool = pool
  conserved : Conserved p.session
  agrees : Agrees p.session
  layered : Layered under pool p.mem p.stored
  owned : ∀ a, owns p.session.log a = true → ∃ b ∈ pool, b.memBuf = a ∧ ∃ aio data older,
    p.lastGiven a = some (aio, data) ∧ layers p.stored a = data :: older ∧
      data.length ≤ LPA_BUFFER_SIZE ∧ aio.data_len = data.length + data.length % 2

variable {under : ℕ → Byte} {pool : List BuffersAllocated} {p p' : Playback}

theorem distinct_of_apart (h : Apart pool) : (pool.map (·.memBuf)).Nodup := by
  refine (List.pairwise_map).2 (List.Pairwise.imp ?_ h)
  intro b b' h e
  have : LPA_BUFFER_SIZE = 512 * 1024 := rfl
  omega

theorem Inv.step (h : Inv under pool p) (hapart : Apart pool)
    (hsize : ∀ b ∈ pool, b.memBufsize = LPA_BUFFER_SIZE) (hproper : p.Proper d)
    (hstep : p.step d = some p') : Inv under pool p' := by
  obtain ⟨t, ht, rfl⟩ := Option.map_eq_some_iff.1 hstep
  have hconserved := conserved_step h.conserved ht
  have hdistinct : Distinct p.session := by
    unfold Distinct
    rw [h.mBufPool]
    exact distinct_of_apart hapart
  have hagrees := (agrees_step h.conserved hdistinct h.agrees ht).2 hproper.1
  have hinside := inside_stores h.conserved (h.mBufPool ▸ hsize) hproper.2
  rw [h.mBufPool] at hinside
  refine ⟨(pool_step ht).trans h.mBufPool, hconserved, hagrees, h.layered.stores hapart hinside,
    fun a ha => ?_⟩
  change owns t.log a = true at ha
  cases moves ht with
  | nothing hstores haccepted howns =>
    unfold lastGiven
    dsimp only
    rw [hstores, haccepted]
    exact h.owned a (howns a ha)
  | flush haccepted hempty howns =>
    -- every buffer is empty now, and the driver owns none of those
    obtain ⟨b, hb, rfl, -⟩ := h.owned a (howns a ha)
    have hnot := hagrees.empty b (hempty ▸ h.mBufPool ▸ hb)
    rw [hnot] at ha
    cases ha
  | back b hb hstores haccepted howns =>
    rw [howns] at ha
    have hne : b.memBuf ≠ a := by
      rintro rfl
      rw [h.agrees.empty b hb] at ha
      cases ha
    have hlayers : layers ((p.session.stores d).reverse ++ p.stored) a = layers p.stored a := by
      rw [hstores]
      exact (layers_cons ..).trans ((if_neg hne).trans ((layers_cons ..).trans (if_neg hne)))
    unfold lastGiven
    dsimp only
    rw [hlayers, haccepted]
    exact h.owned a ha
  | gives b hb bytes ok now hop hskip hpos hstores haccepted howns =>
    have hhanded : Handed p.session (.write bytes ok now) := hop ▸ hproper.1
    obtain ⟨hstarted, hok⟩ := hhanded (List.ne_nil_of_mem hb) hskip hpos
    have hgiven := haccepted hstarted hok
    unfold lastGiven
    dsimp only
    rw [hstores, hgiven]
    by_cases he : b.memBuf = a
    · obtain ⟨b', hb', hbb⟩ := mem_pool h.conserved hb
      refine ⟨b', h.mBufPool ▸ hb', hbb.trans he, aioBuf { b with bytesToWrite := bytes }, d.data,
        List.replicate bytes 0 :: layers p.stored a, ?_, ?_, hproper.2, ?_⟩
      · simp [aioBuf, he]
      · refine (layers_cons ..).trans ((if_pos he).trans (congrArg (d.data :: ·) ?_))
        exact (layers_cons ..).trans (if_pos he)
      · rw [d.length_data bytes ok now hop]
        unfold aioBuf
        dsimp only
        split <;> omega
    · rw [howns a he] at ha
      have hlayers : layers ([(b.memBuf, List.replicate bytes 0), (b.memBuf, d.data)].reverse ++ p.stored) a =
          layers p.stored a :=
        (layers_cons ..).trans ((if_neg he).trans ((layers_cons ..).trans (if_neg he)))
      rw [hlayers]
      simpa [lastGiven, aioBuf, he] using h.owned a ha

/-- The buffers have the size that `memBufferAlloc` is asked for. -/
theorem memBufsize_memBufferAlloc (h : ∀ b ∈ s.mBufPool, b.memBufsize = LPA_BUFFER_SIZE)
    (o : AllocOutcome) :
    ∀ b ∈ (memBufferAlloc LPA_BUFFER_SIZE o s).2.2.mBufPool, b.memBufsize = LPA_BUFFER_SIZE := by
  unfold memBufferAlloc
  split_ifs
  · exact h
  · exact h
  · split
    · exact h
    · exact h
    · exact List.forall_mem_append.2 ⟨h, by simp⟩

theorem memBufsize_allocLoop {os : List AllocOutcome} (ion_fd : Int)
    (h : ∀ b ∈ s.mBufPool, b.memBufsize = LPA_BUFFER_SIZE) :
    ∀ b ∈ (allocLoop os ion_fd s).mBufPool, b.memBufsize = LPA_BUFFER_SIZE := by
  induction os generalizing s ion_fd with
  | nil => exact h
  | cons o os ih =>
    refine ih _ ?_
    exact memBufsize_memBufferAlloc h o

theorem memBufsize_construct (format : AudioFormat) (channels samplingRate : ℕ) (o : OpenOutcome) :
    ∀ b ∈ (construct format channels samplingRate o).2.mBufPool, b.memBufsize = LPA_BUFFER_SIZE := by
  unfold construct openAudioSessionDevice bufferAlloc
  dsimp only
  split_ifs
  · simp
  · simp
  · rw [(start_same _ o.start o.now).pool]
    simp
  · refine memBufsize_allocLoop _ ?_
    dsimp only
    rw [(start_same _ o.start o.now).pool]
    simp

theorem inv_start (format : AudioFormat) (channels samplingRate : ℕ) (o : OpenOutcome)
    (under : ℕ → Byte) : Inv under (construct format channels samplingRate o).2.mBufPool
      (start format channels samplingRate o under) where
  mBufPool := rfl
  conserved := (fresh_construct format channels samplingRate o).conserved
  agrees := ⟨by simp [start, (fresh_construct format channels samplingRate o).filled],
    fun b _ => owns_construct format channels samplingRate o b.memBuf⟩
  layered := ⟨fun _ h => absurd h List.not_mem_nil, fun _ _ _ _ => rfl⟩
  owned a h := by
    have := owns_construct format channels samplingRate o a
    rw [show owns (construct format channels samplingRate o).2.log a = true from h] at this
    cases this

/-- What lies in a buffer up to the end of its newest layer, and the byte after it. -/
theorem slice_of_layered {m : Memory} {data : List Byte} {older : List (List Byte)} {n : ℕ}
    (h : ∀ i < n, m.byte (a + i) = layered under (data :: older) i) (hn : data.length + data.length % 2 ≤ n) :
    m.slice a (data.length + data.length % 2) =
      data ++ if data.length % 2 = 1 then [layered under older data.length] else [] := by
  have hdata : m.slice a data.length = data := by
    refine List.ext_getElem (length_slice ..) fun i hi hi' => ?_
    simp only [Memory.slice, List.getElem_map, List.getElem_range', Nat.one_mul]
    rw [h i (by omega), layered, List.getElem?_eq_getElem hi', Option.getD_some]
  rw [slice_add, hdata]
  split
  next hodd =>
    rw [hodd, slice_succ, slice_zero, h _ (by omega), layered,
      List.getElem?_eq_none (Nat.le_refl _), Option.getD_none]
  next heven =>
    rw [show data.length % 2 = 0 by omega, slice_zero]

/-- **What the driver plays.** Suppose the buffers do not overlap, and every operation of a run meets
the condition.  Then nothing is written outside the buffers, and a buffer that the driver owns holds
the bytes of the `write` that gave it, with one byte of an older layer if their number is odd. -/
theorem played {format : AudioFormat} {channels samplingRate : ℕ} {o : OpenOutcome}
    (hapart : Apart (construct format channels samplingRate o).2.mBufPool) {ls : List DataOp}
    (hproper : Runs.Along step Proper (start format channels samplingRate o under) ls)
    (hr : Runs.run step (start format channels samplingRate o under) ls = some p) :
    (∀ i ∈ p.mem.written, ∃ b ∈ p.session.mBufPool, b.memBuf ≤ i ∧ i < b.memBuf + LPA_BUFFER_SIZE) ∧
      ∀ a, owns p.session.log a = true → ∃ aio data older,
        p.lastGiven a = some (aio, data) ∧ layers p.stored a = data :: older ∧
        aio.data_len ≤ LPA_BUFFER_SIZE ∧ p.mem.slice a aio.data_len =
          data ++ if data.length % 2 = 1 then [layered (fun i => under (a + i)) older data.length] else [] := by
  have hsize := memBufsize_construct format channels samplingRate o
  have h := Runs.run_inv (fun _ _ _ hI hC hs => Inv.step hI hapart hsize hC hs)
    (inv_start format channels samplingRate o under) hproper hr
  refine ⟨h.mBufPool ▸ h.layered.written, fun a ha => ?_⟩
  obtain ⟨b, hb, rfl, aio, data, older, hlast, hlayers, hfits, hlen⟩ := h.owned a ha
  have hfull : data.length + data.length % 2 ≤ LPA_BUFFER_SIZE := by
    have : LPA_BUFFER_SIZE = 512 * 1024 := rfl
    omega
  refine ⟨aio, data, older, hlast, hlayers, hlen ▸ hfull, ?_⟩
  rw [hlen]
  refine slice_of_layered (n := LPA_BUFFER_SIZE) ?_ hfull
  rw [← hlayers]
  exact h.layered.contents b hb

/-- Two buffers that do not overlap. -/
def apartBuffers : OpenOutcome where
  afd := 10
  ionfd := 11
  allocs :=
    [{ handle := 1, fd := 21, mapped := some 0x100000, localBuf := some 0x100 },
      { handle := 2, fd := 22, mapped := some 0x200000, localBuf := some 0x200 }]

/-- The stream is flushed, and the write after that is skipped.  Four bytes are played from the second
buffer; then the first gets three, and the second one. -/
def aShortStream : List DataOp :=
  [.write [1, 2, 3, 4] true 2, ⟨.flush true true, [], fun _ _ _ h => by cases h⟩, .write [9] true 3,
    .write [1, 2, 3, 4] true 3, ⟨.writeDone 0x200000 true, [], fun _ _ _ h => by cases h⟩,
    .write [7, 8, 9] true 4, .write [5] true 4]

/-- After the three bytes the driver plays a 0, and after the one the second of the four. -/
theorem played_aShortStream : ∃ p, Runs.run step (start .pcm16Bit 2 44100 apartBuffers 0) aShortStream = some p ∧
    ∀ a ∈ [0x100000, 0x200000], ∃ aio data older,
      p.lastGiven a = some (aio, data) ∧ layers p.stored a = data :: older ∧
      aio.data_len ≤ LPA_BUFFER_SIZE ∧ p.mem.slice a aio.data_len =
        data ++ if data.length % 2 = 1 then [layered (fun _ => 0) older data.length] else [] := by
  have h : ∃ p, Runs.run step (start .pcm16Bit 2 44100 apartBuffers 0) aShortStream = some p ∧
      ∀ a ∈ [0x100000, 0x200000], owns p.session.log a = true := Runs.exists_run (by decide +kernel)
  obtain ⟨p, hr, howns⟩ := h
  exact ⟨p, hr, fun a ha => (played (by decide +kernel) (by decide +kernel) hr).2 a (howns a ha)⟩

end Playback

end Msm7x27a.Lpa
