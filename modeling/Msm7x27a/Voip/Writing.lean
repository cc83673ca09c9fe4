import Msm7x27a.Voip.Streams

/-!
# The loop of `AudioStreamOutDirect::write`

`count` goes down by `mBufferSize`, which `set` takes from the rate, and callers size their buffers by
`bufferSize()`, which does not.  At 16000 Hz a buffer of an odd number of these sizes never comes to
an end: the unsigned remainder wraps and misses zero (`consumes_iff`).
-/

namespace Msm7x27a.Voip.AudioStreamOutDirect

open Msm7x27a.Audio

/-- `bufferSize()`. -/
def bufferSize : ℕ := 320

/-- A driver that accepts the frames from the `k`-th on, each after its number of `EAGAIN`s. -/
def answers (retries : ℕ → ℕ) : ℕ → ℕ → List WriteResult
  | _, 0 => []
  | k, n + 1 => List.replicate (retries k) .eagain ++ .zero :: answers retries (k + 1) n

/-- The bytes from `p` up to `q`, cut into consecutive pieces. -/
def Cuts : ℕ → ℕ → List Sent → Prop
  | p, q, [] => p = q
  | p, q, .piece offset len :: sent => offset = p ∧ 0 < len ∧ p + len ≤ q ∧ Cuts (p + len) q sent
  | _, _, .frame _ :: _ => False

/-- The loop ends, and has read and sent the buffer once, in order. -/
def Consumes (c : OnOut) (status : Int) (bytes : ℕ) (frame : MvsFrame) (retries : ℕ → ℕ) : Prop :=
  ∃ n r c', writeOpen c status bytes frame (answers retries 0 n) = some (r, c') ∧ Cuts 0 bytes r.sent

/-! ### `set` -/

/-- The size of a frame at this rate. -/
def frameSize (rate : ℕ) : ℕ := if rate = 16000 then 640 else 320

/-- A PCM configuration that is accepted. -/
theorem set_pcm {c : OnOut} {a : StreamArgs} (hpcm : a.format = .pcm16Bit)
    (hok : (set c a).1 = noError) :
    (set c a).2.2.s.mFormat = .pcm16Bit ∧ (set c a).2.2.s.mBufferSize = frameSize a.rate := by
  have hbad : badValue ≠ noError := by decide
  unfold set at hok ⊢
  by_cases hmode : getMvsMode a.format a.rate = none
  · rw [if_pos hmode] at hok
    exact absurd hok hbad
  rw [if_neg hmode, if_pos hpcm] at hok ⊢
  dsimp only at hok ⊢
  generalize (if a.channels = 0 then c.s.mChannels else a.channels) = lChannels at hok ⊢
  by_cases hch : lChannels ≠ c.s.mChannels
  · rw [if_pos hch] at hok
    exact absurd hok hbad
  rw [if_neg hch] at hok ⊢
  unfold frameSize
  by_cases h0 : a.rate = 0
  · rw [if_pos h0, if_pos rfl, h0, if_neg (by decide)]
    exact ⟨hpcm, rfl⟩
  rw [if_neg h0] at hok ⊢
  by_cases h8 : a.rate = 8000
  · rw [if_pos h8, h8, if_neg (by decide)]
    exact ⟨hpcm, rfl⟩
  rw [if_neg h8] at hok ⊢
  by_cases h16 : a.rate = 16000
  · rw [if_pos h16, if_pos h16]
    exact ⟨hpcm, rfl⟩
  · rw [if_neg h16] at hok
    exact absurd hok hbad

/-! ### The loop -/

section Loop

variable {count size : ℕ} {c : OnOut} {retries : ℕ → ℕ}

/-- A frame is accepted after `k` `EAGAIN`s. -/
theorem writePcm_frame (bytes k p : ℕ) (rs : List WriteResult) (sent : List Sent) (hcount : count ≠ 0)
    (hc : c.s.mBufferSize = size) :
    ∃ c', c'.s.mBufferSize = size ∧
      writePcm bytes (List.replicate k .eagain ++ .zero :: rs) count p c sent =
        writePcm bytes rs (subSize count size) (p + size) c' (sent ++ [.piece p size]) := by
  induction k generalizing c with
  | zero =>
    refine ⟨{ c with log := .io c.s.mFd :: c.log }, hc, ?_⟩
    rw [List.replicate_zero, List.nil_append, writePcm, if_neg hcount]
    dsimp only
    rw [hc]
  | succ k ih =>
    rw [List.replicate_succ, List.cons_append, writePcm, if_neg hcount]
    exact ih hc

/-- Whole frames: the loop ends with the last one. -/
theorem writePcm_cuts (bytes m k p : ℕ) (sent : List Sent) (hsize : 0 < size) (hm : m * size < 2 ^ 32)
    (hc : c.s.mBufferSize = size) :
    ∃ r c' pieces, writePcm bytes (answers retries k m) (m * size) p c sent = some (r, c') ∧
      r.sent = sent ++ pieces ∧ Cuts p (p + m * size) pieces := by
  induction m generalizing k p c sent with
  | zero =>
    refine ⟨⟨bytes, sent⟩, c, [], ?_, (List.append_nil sent).symm, ?_⟩
    · unfold answers writePcm
      exact if_pos (Nat.zero_mul size)
    · rw [Nat.zero_mul]
      exact rfl
  | succ m ih =>
    have hmul : (m + 1) * size = m * size + size := Nat.succ_mul m size
    have hne : (m + 1) * size ≠ 0 := by omega
    obtain ⟨c₁, hc₁, hframe⟩ := writePcm_frame bytes (retries k) p (answers retries (k + 1) m) sent hne hc
    have hsub : subSize ((m + 1) * size) size = m * size := by
      unfold subSize
      omega
    obtain ⟨r, c', pieces, hloop, hsent, hcuts⟩ := ih (k + 1) (p + size) (sent ++ [.piece p size])
      (by omega) hc₁
    refine ⟨r, c', .piece p size :: pieces, ?_, ?_, rfl, hsize, by omega, ?_⟩
    · rw [answers, hframe, hsub]
      exact hloop
    · rw [hsent, List.append_assoc]
      rfl
    · have hend : p + (m + 1) * size = p + size + m * size := by omega
      rw [hend]
      exact hcuts

/-- Frames of 640 bytes and half a frame: the remainder is never zero. -/
theorem writePcm_endless (bytes n k p : ℕ) (sent : List Sent) (hcount : count % 128 = 64) (hc : c.s.mBufferSize = 640) :
    writePcm bytes (answers retries k n) count p c sent = none := by
  have hne : count ≠ 0 := by
    rintro rfl
    exact absurd hcount (by decide)
  induction n generalizing k count p c sent with
  | zero =>
    unfold answers writePcm
    rw [if_neg hne]
  | succ n ih =>
    obtain ⟨c₁, hc₁, hframe⟩ := writePcm_frame bytes (retries k) p (answers retries (k + 1) n) sent hne hc
    have hcount' : subSize count 640 % 128 = 64 := by
      unfold subSize
      omega
    rw [answers, hframe]
    refine ih (k + 1) (p + 640) (sent ++ [.piece p 640]) hcount' hc₁ ?_
    omega

end Loop

/-! ### `write` -/

section Write

variable {c : OnOut} {bytes : ℕ}

/-- A stream that plays PCM in frames of this size. -/
theorem consumes_of_dvd {size : ℕ} (hf : c.s.mFormat = .pcm16Bit) (hc : c.s.mBufferSize = size)
    (h0 : 0 < size) (hlt : bytes < 2 ^ 32) (hd : size ∣ bytes) (status : Int) (frame : MvsFrame)
    (retries : ℕ → ℕ) : Consumes c status bytes frame retries := by
  obtain ⟨m, rfl⟩ := hd
  rw [Nat.mul_comm] at hlt ⊢
  obtain ⟨r, c', pieces, hloop, hsent, hcuts⟩ := writePcm_cuts (m * size) m 0 0 [] h0 hlt hc
  refine ⟨m, r, c', ?_, ?_⟩
  · unfold writeOpen
    rw [if_pos hf]
    exact hloop
  · rw [hsent, List.nil_append]
    rw [Nat.zero_add] at hcuts
    exact hcuts

theorem not_consumes {status : Int} {frame : MvsFrame} {retries : ℕ → ℕ} (hf : c.s.mFormat = .pcm16Bit)
    (hc : c.s.mBufferSize = 640) (hb : bytes % 128 = 64) : ¬Consumes c status bytes frame retries := by
  rintro ⟨n, r, c', he, -⟩
  unfold writeOpen at he
  rw [if_pos hf, writePcm_endless bytes n 0 0 [] hb hc] at he
  cases he

/-- **A VoIP `write` consumes its buffer**, a positive multiple of `bufferSize()`, exactly if the stream
is not at 16000 Hz or the buffer has whole frames of 640 bytes. -/
theorem consumes_iff {c₀ : OnOut} {a : StreamArgs} {status : Int} {frame : MvsFrame} {retries : ℕ → ℕ}
    (hpcm : a.format = .pcm16Bit) (hok : (set c₀ a).1 = noError)
    (hformat : c.s.mFormat = (set c₀ a).2.2.s.mFormat)
    (hsize : c.s.mBufferSize = (set c₀ a).2.2.s.mBufferSize) (hlt : bytes < 2 ^ 32)
    (hd : bufferSize ∣ bytes) :
    Consumes c status bytes frame retries ↔ a.rate ≠ 16000 ∨ 640 ∣ bytes := by
  obtain ⟨hf, hs⟩ := set_pcm hpcm hok
  rw [← hformat] at hf
  rw [← hsize] at hs
  unfold frameSize at hs
  constructor
  · intro hcons
    by_contra hno
    obtain ⟨h16, hnd⟩ := not_or.1 hno
    rw [if_pos (not_not.1 h16)] at hs
    refine not_consumes hf hs ?_ hcons
    unfold bufferSize at hd
    omega
  · intro h
    by_cases h16 : a.rate = 16000
    · rw [if_pos h16] at hs
      exact consumes_of_dvd hf hs (by decide) hlt (h.resolve_left (not_not.2 h16)) status frame retries
    · rw [if_neg h16] at hs
      exact consumes_of_dvd hf hs (by decide) hlt hd status frame retries

end Write

/-- A stream opened at this rate. -/
def opened (rate : ℕ) : OnOut := (set ⟨{}, {}, []⟩ ⟨.pcm16Bit, channelOutMono, rate⟩).2.2

theorem consumes_8000 : Consumes (opened 8000) noInit 640 {} (fun _ => 3) :=
  (consumes_iff rfl rfl rfl rfl (by decide) (by decide)).2 (Or.inl (by decide))

/-- One buffer of `bufferSize()` at 16000 Hz. -/
theorem never_returns_16000 :
    (set ⟨{}, {}, []⟩ ⟨.pcm16Bit, channelOutMono, 16000⟩).1 = noError ∧
      ¬Consumes (opened 16000) noInit bufferSize {} (fun _ => 0) :=
  ⟨rfl, not_consumes rfl rfl rfl⟩

end Msm7x27a.Voip.AudioStreamOutDirect
