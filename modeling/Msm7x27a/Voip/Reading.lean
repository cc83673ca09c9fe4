import Mathlib.Algebra.Ring.Nat
import Msm7x27a.Voip.Outcomes

/-!
# What `AudioStreamInVoip::read` returns

`read` counts the bytes that it stores in `totalBytesRead` and returns `bytes`: the size it was asked
for, or 0 if it has opened the device again.  So a PCM `read` reports what it has stored only if the
device was open and the frames it waits for make up exactly the size (`reports_iff`).
-/

namespace Msm7x27a.Voip.AudioStreamInVoip

open Msm7x27a.Audio

/-- A PCM stream that `set` has accepted. -/
structure Pcm (s : AudioStreamInVoip) : Prop where
  mHardware : s.mHardware = true
  mFormat : s.mFormat = .pcm16Bit
  rate : s.mSampleRate = 8000 ∧ s.mBufferSize = 320 ∨ s.mSampleRate = 16000 ∧ s.mBufferSize = 640
  mono : s.mChannels &&& channelInMono ≠ 0

/-- The frames that come before an error. -/
def framesOf : List ReadResult → List MvsFrame
  | [] => []
  | .frame f :: results => f :: framesOf results
  | .eagain :: results => framesOf results
  | .error _ :: _ => []

def firstError : List ReadResult → Option Int
  | [] => none
  | .frame _ :: results => firstError results
  | .eagain :: results => firstError results
  | .error e :: _ => some e

/-- The bytes that are stored. -/
def Stored.data : Stored → List UInt8
  | .pkt _ data => data
  | .frame f => f.vocPkt

/-- Packets, each behind the one before. -/
def Contiguous : ℕ → List Stored → Prop
  | _, [] => True
  | p, .pkt offset data :: stored => offset = p ∧ Contiguous (p + data.length) stored
  | _, .frame _ :: _ => False

/-- `read` has stored a prefix of the frames, `size` bytes of each, and returns their number. -/
structure Reports (size : ℕ) (results : List ReadResult) (r : ReadReturn) : Prop where
  contiguous : Contiguous 0 r.stored
  frames : r.stored.map Stored.data <+: (framesOf results).map fun f => f.vocPkt.take size
  ret : r.ret = ((r.stored.map fun p => p.data.length).sum : ℕ)

/-! ### The loop -/

/-- The frames that the loop waits for. -/
def wanted (mFirstread : Bool) (size count : ℕ) : ℕ :=
  if count < size then 0 else if mFirstread then count / size else 1

/-- What the loop stores of these frames. -/
def packets (size : ℕ) : ℕ → List MvsFrame → List Stored
  | _, [] => []
  | total, f :: fs => .pkt total (f.vocPkt.take size) :: packets size (total + size) fs

section Loop

variable {size count total : ℕ} {c : OnIn} {stored : List Stored} {results : List ReadResult}
  {l : Option (ReadReturn × OnIn)}

theorem wanted_sub (hsize : 0 < size) (hcount : size ≤ count) :
    wanted true size count = wanted true size (count - size) + 1 := by
  have hdiv : count / size = (count - size) / size + 1 := Nat.div_eq_sub_div hsize hcount
  unfold wanted
  rw [if_neg (Nat.not_lt.2 hcount), if_pos rfl, if_pos rfl, hdiv]
  split
  · next hlt => rw [Nat.div_eq_of_lt hlt]
  · rfl

theorem wanted_ne_zero (hsize : 0 < size) (mFirstread : Bool) (hcount : ¬count < size) :
    wanted mFirstread size count ≠ 0 := by
  unfold wanted
  rw [if_neg hcount]
  split
  · exact Nat.ne_of_gt (Nat.div_pos (Nat.not_lt.1 hcount) hsize)
  · exact Nat.one_ne_zero

/-- How the loop ends. -/
structure Ends (ret : Int) (size n total : ℕ) (results : List ReadResult) (stored : List Stored)
    (l : Option (ReadReturn × OnIn)) : Prop where
  enough : n ≤ (framesOf results).length →
    l.map Prod.fst = some ⟨ret, stored ++ packets size total ((framesOf results).take n)⟩
  error : (framesOf results).length < n → ∀ e, firstError results = some e →
    l.map Prod.fst = some ⟨e, stored ++ packets size total (framesOf results)⟩
  endless : (framesOf results).length < n → firstError results = none → l = none

theorem Ends.done {ret : Int} (hl : l.map Prod.fst = some ⟨ret, stored⟩) :
    Ends ret size 0 total results stored l where
  enough _ := by
    rw [hl]
    exact congrArg (fun stored => some (ReadReturn.mk ret stored)) (List.append_nil stored).symm
  error h := absurd h (Nat.not_lt_zero _)
  endless h := absurd h (Nat.not_lt_zero _)

theorem Ends.eagain {ret : Int} {n : ℕ} (h : Ends ret size n total results stored l) :
    Ends ret size n total (.eagain :: results) stored l where
  enough := h.enough
  error := h.error
  endless := h.endless

theorem Ends.frame {ret : Int} {n : ℕ} {f : MvsFrame}
    (h : Ends ret size n (total + size) results (stored ++ [.pkt total (f.vocPkt.take size)]) l) :
    Ends ret size (n + 1) total (.frame f :: results) stored l where
  enough hn := by
    rw [h.enough (Nat.le_of_succ_le_succ hn), List.append_assoc]
    rfl
  error hn e he := by
    rw [h.error (Nat.lt_of_succ_lt_succ hn) e he, List.append_assoc]
    rfl
  endless hn he := h.endless (Nat.lt_of_succ_lt_succ hn) he

/-- **The loop of `read`.** -/
theorem ends_readPcm (ret : Int) (count total : ℕ) (stored : List Stored) (results : List ReadResult)
    (hsize : 0 < size) (hc : c.s.mBufferSize = size) :
    Ends ret size (wanted c.s.mFirstread size count) total results stored
      (readPcm ret results count total c stored) := by
  have hpos : ∀ first count, ¬count < size → wanted first size count ≠ 0 := fun first count =>
    wanted_ne_zero hsize first
  induction results generalizing count total c stored with
  | nil =>
    unfold readPcm
    rw [hc]
    by_cases hlt : count < size
    · have h0 : wanted c.s.mFirstread size count = 0 := if_pos hlt
      rw [if_pos hlt, h0]
      exact .done rfl
    · rw [if_neg hlt]
      refine ⟨fun h => ?_, fun _ e he => ?_, fun _ _ => rfl⟩
      · exact absurd (Nat.le_zero.1 h) (hpos _ _ hlt)
      · cases he
  | cons result results ih =>
    unfold readPcm
    rw [hc]
    by_cases hlt : count < size
    · have h0 : wanted c.s.mFirstread size count = 0 := if_pos hlt
      rw [if_pos hlt, h0]
      exact .done rfl
    · rw [if_neg hlt]
      have hcount : size ≤ count := Nat.not_lt.1 hlt
      cases result with
      | eagain =>
        have hnext := @ih ⟨c.hw, { c.s with mRetryCount := c.s.mRetryCount + 1 },
          .io c.s.mFd :: c.log⟩ count total stored hc
        exact hnext.eagain
      | error e =>
        refine ⟨fun h => absurd (Nat.le_zero.1 h) (hpos _ _ hlt), fun _ e' he => ?_, fun _ he => ?_⟩
        · cases he
          exact congrArg (fun stored => some (ReadReturn.mk e stored)) (List.append_nil stored).symm
        · cases he
      | frame f =>
        dsimp only
        cases hfirst : c.s.mFirstread with
        | false =>
          have h1 : wanted false size count = 0 + 1 := if_neg hlt
          rw [h1]
          exact Ends.frame (.done (by rw [hc]; rfl))
        | true =>
          rw [if_pos rfl, wanted_sub hsize hcount, hc]
          have hnext := @ih { c with log := .io c.s.mFd :: c.log } (count - size) (total + size)
            (stored ++ [.pkt total (f.vocPkt.take size)]) hc
          dsimp only at hnext
          rw [hfirst] at hnext
          exact hnext.frame

end Loop

/-! ### What is stored -/

section Packets

variable {size total : ℕ} {fs : List MvsFrame}

theorem data_packets (size total : ℕ) (fs : List MvsFrame) :
    (packets size total fs).map Stored.data = fs.map fun f => f.vocPkt.take size := by
  induction fs generalizing total with
  | nil => rfl
  | cons f fs ih =>
    unfold packets
    rw [List.map_cons, List.map_cons, ih]
    rfl

theorem length_take_packet {f : MvsFrame} (h : size ≤ f.vocPkt.length) :
    (f.vocPkt.take size).length = size := by
  rw [List.length_take]
  exact Nat.min_eq_left h

theorem contiguous_packets (total : ℕ) (h : ∀ f ∈ fs, size ≤ f.vocPkt.length) :
    Contiguous total (packets size total fs) := by
  induction fs generalizing total with
  | nil => trivial
  | cons f fs ih =>
    refine ⟨rfl, ?_⟩
    rw [length_take_packet (h f List.mem_cons_self)]
    exact ih (total + size) fun g hg => h g (List.mem_cons_of_mem f hg)

theorem sum_packets (total : ℕ) (h : ∀ f ∈ fs, size ≤ f.vocPkt.length) :
    ((packets size total fs).map fun p => p.data.length).sum = fs.length * size := by
  induction fs generalizing total with
  | nil => exact (Nat.zero_mul size).symm
  | cons f fs ih =>
    unfold packets
    rw [List.map_cons, List.sum_cons, ih _ fun g hg => h g (List.mem_cons_of_mem f hg)]
    show (f.vocPkt.take size).length + _ = _
    rw [length_take_packet (h f List.mem_cons_self), List.length_cons, Nat.succ_mul, Nat.add_comm]

theorem mem_framesOf {results : List ReadResult} {f : MvsFrame} (h : f ∈ framesOf results) :
    .frame f ∈ results := by
  induction results with
  | nil => cases h
  | cons result results ih =>
    cases result with
    | eagain => exact List.mem_cons_of_mem _ (ih h)
    | error e => cases h
    | frame g =>
      rcases List.mem_cons.1 h with rfl | h
      · exact List.mem_cons_self
      · exact List.mem_cons_of_mem _ (ih h)

theorem mem_firstError {results : List ReadResult} {e : Int} (h : firstError results = some e) :
    .error e ∈ results := by
  induction results with
  | nil => cases h
  | cons result results ih =>
    cases result with
    | eagain => exact List.mem_cons_of_mem _ (ih h)
    | frame f => exact List.mem_cons_of_mem _ (ih h)
    | error e' =>
      cases h
      exact List.mem_cons_self

/-- Everything but the number returned is right. -/
theorem reports_packets {results : List ReadResult} (ret : Int) (n : ℕ)
    (h : ∀ f ∈ framesOf results, size ≤ f.vocPkt.length) (hn : n ≤ (framesOf results).length) :
    Reports size results ⟨ret, packets size 0 ((framesOf results).take n)⟩ ↔ ret = (n * size : ℕ) := by
  have htake : ∀ f ∈ (framesOf results).take n, size ≤ f.vocPkt.length := fun f hf =>
    h f (List.mem_of_mem_take hf)
  have hsum := sum_packets 0 htake
  rw [List.length_take, Nat.min_eq_left hn] at hsum
  constructor
  · intro hr
    have hret := hr.ret
    dsimp only at hret
    rw [hret, hsum]
  · intro hret
    refine ⟨contiguous_packets 0 htake, ?_, ?_⟩
    · dsimp only
      rw [data_packets, List.map_take]
      exact List.take_prefix n _
    · dsimp only
      rw [hret, hsum]

end Packets

/-! ### Opening the device again -/

section Reopen

variable {P : Platform} {c : OnIn} {o : MvsOutcome}

/-- The driver is open, or it opens. -/
def Reattaches (c : OnIn) (o : MvsOutcome) : Prop := 0 ≤ c.hw.mVoipFd ∨ o.Succeeds

theorem getMvsMode_pcm (rate : ℕ) : ∃ mode, getMvsMode .pcm16Bit rate = some mode ∧
    ∀ P bitRate, getMvsRateType P bitRate mode = some .zero := by
  unfold getMvsMode
  dsimp only
  split
  · exact ⟨.pcm, rfl, fun _ _ => rfl⟩
  · split
    · exact ⟨.pcmWb, rfl, fun _ _ => rfl⟩
    · exact ⟨.pcm, rfl, fun _ _ => rfl⟩

/-- For PCM, only the driver can fail. -/
theorem openMvs_pcm (P : Platform) (hw : AudioHardware) (log : List MvsEvent) (rate : ℕ)
    (o : MvsOutcome) : (openMvs P hw log .pcm16Bit rate o).status < 0 ↔ ¬o.Succeeds := by
  obtain ⟨mode, hmode, hrate⟩ := getMvsMode_pcm rate
  rw [openMvs_neg]
  refine not_congr ⟨And.left, fun h => ⟨h, mode, .zero, hmode, hrate P hw.mVoipBitRate⟩⟩

/-- What `read` goes on with. -/
structure Resumed (s s' : AudioStreamInVoip) : Prop where
  mFormat : s'.mFormat = s.mFormat
  mBufferSize : s'.mBufferSize = s.mBufferSize
  mFirstread : s'.mFirstread = s.mFirstread

/-- `set` passes its checks with the members of a PCM stream. -/
theorem set_args (P : Platform) (hs : c.s.Pcm) (o : MvsOutcome) :
    set P c c.s.args o = ((attach P c c.s.args o).1, c.s.args, (attach P c c.s.args o).2) := by
  obtain ⟨hw, ⟨mHardware, mFd, mState, mRetryCount, mFormat, mChannels, mSampleRate, mBufferSize,
    mSetupDevice, mFirstread⟩, log⟩ := c
  obtain ⟨hhw, hformat, hrate, hmono⟩ := hs
  dsimp only at hhw hformat hrate hmono
  subst hhw hformat
  obtain ⟨mode, hmode, -⟩ := getMvsMode_pcm mSampleRate
  have hm : getMvsMode .pcm16Bit mSampleRate ≠ none := by
    rw [hmode]
    exact Option.some_ne_none mode
  have h8 : getInputSampleRate 8000 = 8000 := by decide
  have h16 : getInputSampleRate 16000 = 16000 := by decide
  unfold set args
  dsimp only
  rw [if_neg hm, if_pos rfl]
  rcases hrate with ⟨rfl, rfl⟩ | ⟨rfl, rfl⟩
  · rw [if_neg (not_not.2 h8), if_neg hmono, if_neg (by decide), if_pos rfl]
  · rw [if_neg (not_not.2 h16), if_neg hmono, if_neg (by decide), if_neg (by decide)]

/-- What the driver does decides, from there on. -/
theorem attach_pcm (P : Platform) (c : OnIn) {a : StreamArgs} (hpcm : a.format = .pcm16Bit)
    (hrate : a.rate = 8000 ∨ a.rate = 16000) (o : MvsOutcome) :
    (Reattaches c o → (attach P c a o).1 = noError ∧ ∃ fd, (attach P c a o).2.s =
      { c.s with
        mFd := fd, mFormat := a.format, mChannels := a.channels, mSampleRate := a.rate
        mBufferSize := if a.rate = 8000 then 320 else 640, mState := .opened }) ∧
      (¬Reattaches c o → (attach P c a o).1 ≠ noError) := by
  have hzero : ¬noError < 0 := by decide
  have hstatus : (if 0 ≤ c.hw.mVoipFd then (⟨noError, some c.hw.mVoipFd, c.hw, c.log⟩ : MvsOpened)
      else openMvs P c.hw c.log a.format a.rate o).status < 0 ↔ ¬Reattaches c o := by
    unfold Reattaches
    rw [hpcm, not_or]
    by_cases hfd : 0 ≤ c.hw.mVoipFd
    · rw [if_pos hfd]
      exact iff_of_false hzero fun h => h.1 hfd
    · rw [if_neg hfd, openMvs_pcm]
      exact ⟨fun h => ⟨hfd, h⟩, And.right⟩
  have hok : ¬(a.rate ≠ 8000 ∧ a.rate ≠ 16000) := fun h => hrate.elim h.1 h.2
  unfold attach
  generalize (if 0 ≤ c.hw.mVoipFd then (⟨noError, some c.hw.mVoipFd, c.hw, c.log⟩ : MvsOpened)
    else openMvs P c.hw c.log a.format a.rate o) = r at hstatus ⊢
  dsimp only
  constructor
  · intro hre
    rw [if_neg fun h => hstatus.1 h hre, if_neg hok]
    exact ⟨rfl, _, rfl⟩
  · intro hre
    rw [if_pos (hstatus.2 hre)]
    exact Int.ne_of_lt (hstatus.2 hre)

/-- What `read` gets from `set`. -/
theorem reset_pcm (P : Platform) (hs : c.s.Pcm) (o : MvsOutcome) :
    (Reattaches c o → (reset P c o).1 = noError ∧ Resumed c.s (reset P c o).2.s) ∧
      (¬Reattaches c o → (reset P c o).1 ≠ noError) := by
  have hrate : c.s.args.rate = 8000 ∨ c.s.args.rate = 16000 :=
    hs.rate.elim (fun h => Or.inl h.1) fun h => Or.inr h.1
  have hsize : (if c.s.args.rate = 8000 then 320 else 640) = c.s.mBufferSize := by
    rcases hs.rate with ⟨h, hb⟩ | ⟨h, hb⟩
    · rw [hb]
      exact if_pos h
    · have h8 : c.s.args.rate ≠ 8000 := by
        show c.s.mSampleRate ≠ 8000
        rw [h]
        decide
      rw [hb]
      exact if_neg h8
  obtain ⟨hopen, hshut⟩ := attach_pcm P c hs.mFormat hrate o
  unfold reset
  rw [set_args P hs o]
  refine ⟨fun hre => ?_, hshut⟩
  obtain ⟨hok, fd, hst⟩ := hopen hre
  refine ⟨hok, rfl, ?_, ?_⟩
  · dsimp only
    rw [hst]
    exact hsize
  · dsimp only
    rw [hst]

end Reopen

/-! ### `read` -/

section Read

variable {P : Platform} {c : OnIn} {bytes : ℕ} {o : MvsOutcome} {results : List ReadResult}

theorem setupDevice_resumed (P : Platform) (c : OnIn) : Resumed c.s (setupDevice P c).s := by
  unfold setupDevice
  split
  · exact ⟨rfl, rfl, rfl⟩
  · exact ⟨rfl, rfl, rfl⟩

/-- The condition under which `read` reports what it has stored: the request is shorter than a frame,
the device does not open again; or, if the frames that `read` waits for come, the device was open
and they make up the size, and if it gives up for a 0, no frame has come. -/
def Exact (c : OnIn) (bytes : ℕ) (o : MvsOutcome) (results : List ReadResult) : Prop :=
  bytes < c.s.mBufferSize ∨ (Reopens c ∧ ¬Reattaches c o) ∨
    ((wanted c.s.mFirstread c.s.mBufferSize bytes ≤ (framesOf results).length →
        ¬Reopens c ∧ wanted c.s.mFirstread c.s.mBufferSize bytes * c.s.mBufferSize = bytes) ∧
      ((framesOf results).length < wanted c.s.mFirstread c.s.mBufferSize bytes →
        firstError results = some 0 → framesOf results = []))

/-- `read` reports what it has stored, if it returns a number that is not negative. -/
def ReportsWell (size : ℕ) (results : List ReadResult) (l : Option (ReadReturn × OnIn)) : Prop :=
  ∀ r c', l = some (r, c') → 0 ≤ r.ret → Reports size results r

/-- From the check of the size on. -/
theorem reports_readOpen (bytes : ℕ) {ret : Int} {size : ℕ} (hf : c.s.mFormat = .pcm16Bit)
    (hc : c.s.mBufferSize = size) (hsize : 0 < size) (hret : 0 ≤ ret)
    (hfull : ∀ f ∈ framesOf results, size ≤ f.vocPkt.length)
    (herr : ∀ e, firstError results = some e → e ≤ 0) :
    ReportsWell size results (readOpen P c bytes ret results) ↔
      (bytes < size ∨
        ((wanted c.s.mFirstread size bytes ≤ (framesOf results).length →
            ret = (wanted c.s.mFirstread size bytes * size : ℕ)) ∧
          ((framesOf results).length < wanted c.s.mFirstread size bytes →
            firstError results = some 0 → framesOf results = []))) := by
  have hall : ∀ e, Reports size results ⟨e, packets size 0 (framesOf results)⟩ ↔
      e = ((framesOf results).length * size : ℕ) := by
    intro e
    have h := reports_packets e (framesOf results).length hfull (Nat.le_refl _)
    rwa [List.take_length] at h
  unfold readOpen
  rw [hc]
  by_cases hlt : bytes < size
  · rw [if_pos hlt]
    refine iff_of_true (fun r c' hl _ => ?_) (Or.inl hlt)
    cases hl
    exact (reports_packets 0 0 hfull (Nat.zero_le _)).2 (by rw [Nat.zero_mul]; rfl)
  · rw [if_neg hlt]
    have hres := setupDevice_resumed P c
    dsimp only
    rw [if_pos (hres.mFormat.trans hf)]
    have hends := ends_readPcm ret bytes 0 [] results hsize (hres.mBufferSize.trans hc)
    rw [hres.mFirstread] at hends
    constructor
    · intro h
      refine Or.inr ⟨fun hn => ?_, fun hn he => ?_⟩
      · obtain ⟨⟨r, c'⟩, hl, rfl⟩ := Option.map_eq_some_iff.1 (hends.enough hn)
        exact (reports_packets _ _ hfull hn).1 (h _ c' hl hret)
      · obtain ⟨⟨r, c'⟩, hl, rfl⟩ := Option.map_eq_some_iff.1 (hends.error hn 0 he)
        have h0 := (hall 0).1 (h _ c' hl (Int.le_refl 0))
        have hmul : (framesOf results).length * size = 0 := by omega
        exact List.eq_nil_of_length_eq_zero ((Nat.mul_eq_zero.1 hmul).resolve_right (by omega))
    · rintro h r c' hl hr
      obtain ⟨henough, hgives⟩ := h.resolve_left hlt
      by_cases hn : wanted c.s.mFirstread size bytes ≤ (framesOf results).length
      · have he := hends.enough hn
        rw [hl] at he
        cases he
        exact (reports_packets _ _ hfull hn).2 (henough hn)
      · have hless := Nat.lt_of_not_le hn
        cases he : firstError results with
        | none =>
          rw [hends.endless hless he] at hl
          cases hl
        | some e =>
          have hret' := hends.error hless e he
          rw [hl] at hret'
          cases hret'
          have h0 : e = 0 := Int.le_antisymm (herr e he) hr
          refine (hall e).2 ?_
          rw [hgives hless (h0 ▸ he), h0, List.length_nil, Nat.zero_mul]
          rfl

/-- **What a VoIP `read` returns** is what it has stored, exactly under `Exact`. -/
theorem reports_iff (hs : c.s.Pcm)
    (hfull : ∀ f, ReadResult.frame f ∈ results → 640 ≤ f.vocPkt.length)
    (herr : ∀ e, ReadResult.error e ∈ results → e ≤ 0) :
    ReportsWell c.s.mBufferSize results (read P c bytes o results) ↔ Exact c bytes o results := by
  have hle : c.s.mBufferSize ≤ 640 := by
    rcases hs.rate with ⟨-, h⟩ | ⟨-, h⟩ <;> omega
  have hpos : 0 < c.s.mBufferSize := by
    rcases hs.rate with ⟨-, h⟩ | ⟨-, h⟩ <;> omega
  have hfull' : ∀ f ∈ framesOf results, c.s.mBufferSize ≤ f.vocPkt.length := fun f hf =>
    Nat.le_trans hle (hfull f (mem_framesOf hf))
  have herr' : ∀ e, firstError results = some e → e ≤ 0 := fun e he => herr e (mem_firstError he)
  have hwanted : ¬bytes < c.s.mBufferSize →
      wanted c.s.mFirstread c.s.mBufferSize bytes * c.s.mBufferSize ≠ 0 := fun hlt =>
    Nat.mul_ne_zero (wanted_ne_zero hpos c.s.mFirstread hlt) (Nat.ne_of_gt hpos)
  unfold read Exact
  rw [if_neg (by rw [hs.mHardware]; decide)]
  by_cases hre : Reopens c
  · rw [if_pos hre]
    dsimp only
    obtain ⟨hopen, hshut⟩ := reset_pcm P hs o
    by_cases hat : Reattaches c o
    · obtain ⟨hok, hres⟩ := hopen hat
      rw [if_neg (not_not.2 hok)]
      have hopened := reports_readOpen (P := P)
        (c := { (reset P c o).2 with s := { (reset P c o).2.s with mState := .started } }) bytes
        (hres.mFormat.trans hs.mFormat) hres.mBufferSize hpos (Int.le_refl 0) hfull' herr'
      rw [hopened, hres.mFirstread]
      refine or_congr_right' fun hlt => ?_
      constructor
      · rintro ⟨henough, hgives⟩
        refine Or.inr ⟨fun hn => ?_, hgives⟩
        exact absurd (Int.natCast_eq_zero.1 (henough hn).symm) (hwanted hlt)
      · rintro (⟨-, hno⟩ | ⟨henough, hgives⟩)
        · exact absurd hat hno
        · exact ⟨fun hn => absurd hre (henough hn).1, hgives⟩
    · rw [if_pos (hshut hat)]
      refine iff_of_true (fun r c' hl hr => ?_) (Or.inr (Or.inl ⟨hre, hat⟩))
      cases hl
      exact absurd hr (by decide)
  · rw [if_neg hre, reports_readOpen bytes hs.mFormat rfl hpos (Int.natCast_nonneg bytes) hfull' herr']
    refine or_congr_right' fun _ => ?_
    constructor
    · rintro ⟨henough, hgives⟩
      exact Or.inr ⟨fun hn => ⟨hre, (Int.ofNat_inj.1 (henough hn)).symm⟩, hgives⟩
    · rintro (⟨hopens, -⟩ | ⟨henough, hgives⟩)
      · exact absurd hopens hre
      · exact ⟨fun hn => congrArg Nat.cast (henough hn).2.symm, hgives⟩

end Read

/-- What `set` has accepted. -/
theorem pcm_of_set {P : Platform} {c : OnIn} {a : StreamArgs} {o : MvsOutcome}
    (hpcm : a.format = .pcm16Bit) (hok : (set P c a o).1 = noError) : (set P c a o).2.2.s.Pcm := by
  have hbad : badValue ≠ noError := by decide
  unfold set at hok ⊢
  by_cases hmode : getMvsMode a.format a.rate = none
  · rw [if_pos hmode] at hok
    exact absurd hok hbad
  rw [if_neg hmode, if_pos hpcm] at hok ⊢
  dsimp only at hok ⊢
  by_cases hrate : getInputSampleRate a.rate ≠ a.rate
  · rw [if_pos hrate] at hok
    exact absurd hok hbad
  rw [if_neg hrate] at hok ⊢
  by_cases hmono : a.channels &&& channelInMono = 0
  · rw [if_pos hmono] at hok
    exact absurd hok hbad
  rw [if_neg hmono] at hok ⊢
  by_cases hsize : a.rate ≠ 8000 ∧ a.rate ≠ 16000
  · have hneg : (-1 : Status) ≠ noError := by decide
    rw [if_pos hsize] at hok
    exact absurd hok hneg
  rw [if_neg hsize] at hok ⊢
  have hr : a.rate = 8000 ∨ a.rate = 16000 := by omega
  generalize hc : ({ c with s := { c.s with
    mBufferSize := if a.rate = 8000 then 320 else 640, mHardware := true } } : OnIn) = c' at hok ⊢
  have hhw : c'.s.mHardware = true := by rw [← hc]
  obtain ⟨hopen, hshut⟩ := attach_pcm P c' hpcm hr o
  by_cases hat : Reattaches c' o
  · obtain ⟨-, fd, hst⟩ := hopen hat
    rw [hst]
    refine ⟨hhw, hpcm, ?_, hmono⟩
    dsimp only
    rcases hr with h | h
    · rw [h]
      exact Or.inl ⟨rfl, rfl⟩
    · rw [h]
      exact Or.inr ⟨rfl, rfl⟩
  · exact absurd hok (hshut hat)

/-- A frame of silence. -/
def silence : MvsFrame := ⟨0, 320, List.replicate 640 0⟩

/-- An open stream at 8000 Hz. -/
def openInput (mFirstread : Bool) : OnIn :=
  ⟨{ mVoipFd := 3 }, { mHardware := true, mFd := 3, mState := .opened, mFirstread := mFirstread }, []⟩

theorem pcm_openInput (mFirstread : Bool) : (openInput mFirstread).s.Pcm :=
  ⟨rfl, rfl, Or.inl ⟨rfl, rfl⟩, (by decide : channelInMono &&& channelInMono ≠ 0)⟩

theorem full_silence (n : ℕ) (f : MvsFrame)
    (hf : ReadResult.frame f ∈ List.replicate n (ReadResult.frame silence)) :
    640 ≤ f.vocPkt.length := by
  have he := List.eq_of_mem_replicate hf
  cases he
  exact Nat.le_of_eq List.length_replicate.symm

theorem reports_two_frames : ReportsWell 320 (List.replicate 2 (.frame silence))
    (read .plain (openInput true) 640 ⟨4, 0, 0, 0⟩ (List.replicate 2 (.frame silence))) := by
  refine (reports_iff (pcm_openInput true) (full_silence 2) ?_).2 ?_
  · intro e he
    cases List.eq_of_mem_replicate he
  · have hopen : ¬Reopens (openInput true) := by decide
    exact Or.inr (Or.inr ⟨fun _ => ⟨hopen, rfl⟩, fun h => absurd h (by decide)⟩)

/-- The first `read` of two frames stores one and reports two. -/
theorem reports_too_many : ∃ r c', read .plain (openInput false) 640 ⟨4, 0, 0, 0⟩
      (List.replicate 2 (.frame silence)) = some (r, c') ∧
    r.ret = 640 ∧ (r.stored.map fun p => p.data.length).sum = 320 ∧
    ¬Reports 320 (List.replicate 2 (.frame silence)) r := by
  have hsum : ((packets 320 0 [silence]).map fun p => p.data.length).sum = 320 := by
    refine sum_packets 0 fun f hf => ?_
    exact Nat.le_trans (by decide) (full_silence 1 f (by rw [List.mem_singleton.1 hf]; exact List.mem_singleton_self _))
  refine ⟨_, _, rfl, rfl, hsum, fun h => ?_⟩
  have hret : (640 : Int) = (((packets 320 0 [silence]).map fun p => p.data.length).sum : ℕ) := h.ret
  rw [hsum] at hret
  exact absurd hret (by decide)

end Msm7x27a.Voip.AudioStreamInVoip
