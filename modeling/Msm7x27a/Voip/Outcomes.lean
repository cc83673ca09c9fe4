import Msm7x27a.Voip.Device

/-!
# What the methods of the VoIP streams can do

One lemma for each method, so that the arguments about runs need not unfold the code again:
`openMvs_cases`, `attach_cases`, `reset_cases`, `readOpen_cases`, `read_cases`, `writeOpen_cases` and
`write_cases` list what a call can have done.  An input stream that exists is well formed
(`AudioStreamInVoip.Wf`): its format was accepted, so a `read` that opens the driver again gets as
far as `::open`.
-/

namespace Msm7x27a.Voip

open Msm7x27a.Audio

/-- The `ioctl`s between `::open` and the first frame. -/
def MvsEvent.IsConfig : MvsEvent → Prop
  | .getConfig .. | .setConfig .. | .start .. => True
  | _ => False

/-- The log after `::open` returned `fd` and the `ioctl`s `cfg`. -/
def openLog (fd : Int) (cfg log : List MvsEvent) : List MvsEvent :=
  cfg ++ .voipFd fd :: .opened fd :: log

/-- The events other than `AUDIO_STOP` and the return of a call. -/
def MvsEvent.IsDriver : MvsEvent → Prop
  | .stop .. | .returned .. => False
  | _ => True

/-- The log grew; nothing was stopped and no call returned. -/
def Grows (log log' : List MvsEvent) : Prop := ∃ l, (∀ e ∈ l, e.IsDriver) ∧ log' = l ++ log

theorem Grows.refl (log : List MvsEvent) : Grows log log := ⟨[], by simp, rfl⟩

theorem Grows.trans {a b c : List MvsEvent} (h : Grows a b) (h' : Grows b c) : Grows a c := by
  obtain ⟨l, hl, rfl⟩ := h
  obtain ⟨l', hl', rfl⟩ := h'
  exact ⟨l' ++ l, by simpa [or_imp, forall_and] using ⟨hl', hl⟩, by simp⟩

theorem Grows.closed {log log' : List MvsEvent} (h : Grows log log') (fd : Int) :
    Grows log (.voipFd (-1) :: .closed fd :: log') :=
  h.trans ⟨[_, _], by simp [MvsEvent.IsDriver], rfl⟩

theorem Grows.suffix {log log' : List MvsEvent} (h : Grows log log') : log <:+ log' := by
  obtain ⟨l, -, rfl⟩ := h
  exact ⟨l, rfl⟩

theorem grows_io (n : ℕ) (fd : Int) (log : List MvsEvent) :
    Grows log (List.replicate n (.io fd) ++ log) := by
  refine ⟨_, ?_, rfl⟩
  intro e he
  rw [List.eq_of_mem_replicate he]
  trivial

theorem grows_openLog (fd : Int) {cfg : List MvsEvent} (hcfg : ∀ e ∈ cfg, e.IsConfig)
    (log : List MvsEvent) : Grows log (openLog fd cfg log) := by
  refine ⟨cfg ++ [.voipFd fd, .opened fd], ?_, by simp [openLog]⟩
  intro e he
  rcases List.mem_append.1 he with he | he
  · have := hcfg e he
    cases e <;> trivial
  · have : e = .voipFd fd ∨ e = .opened fd := by simpa using he
    rcases this with rfl | rfl <;> trivial

theorem grows_mvsError (fd : Int) (hw : AudioHardware) (log : List MvsEvent) :
    Grows log (mvsError fd hw log).2.2 := by
  unfold mvsError
  split
  · exact (Grows.refl log).closed fd
  · exact .refl _

/-! ### Opening the driver -/

/-- What `openMvs` can do. -/
inductive Opened (hw : AudioHardware) (log : List MvsEvent) (o : MvsOutcome) : MvsOpened → Prop
  | refused : o.fd < 0 → Opened hw log o ⟨o.fd, none, hw, log⟩
  | opened (status : Int) (cfg : List MvsEvent) : 0 ≤ o.fd → (∀ e ∈ cfg, e.IsConfig) →
      Opened hw log o ⟨status, some o.fd, { hw with mVoipFd := o.fd }, openLog o.fd cfg log⟩

theorem openMvs_cases (P : Platform) (hw : AudioHardware) (log : List MvsEvent)
    (format : AudioFormat) (rate : ℕ) (o : MvsOutcome) :
    Opened hw log o (openMvs P hw log format rate o) := by
  unfold openMvs
  split
  · exact .refused ‹_›
  have hfd : 0 ≤ o.fd := by omega
  have h1 : ∀ e ∈ [MvsEvent.getConfig o.fd o.getConfig], e.IsConfig := by simp [MvsEvent.IsConfig]
  dsimp only
  split
  · exact .opened _ [.getConfig o.fd o.getConfig] hfd h1
  split
  · exact .opened _ [.getConfig o.fd o.getConfig] hfd h1
  split
  · exact .opened _ [.getConfig o.fd o.getConfig] hfd h1
  rename_i mode _ _ rateType _
  split
  · exact .opened _ [.setConfig o.fd mode rateType o.setConfig, .getConfig o.fd o.getConfig] hfd
      (by simp [MvsEvent.IsConfig])
  · exact .opened _ [.start o.fd o.start, .setConfig o.fd mode rateType o.setConfig,
      .getConfig o.fd o.getConfig] hfd (by simp [MvsEvent.IsConfig])

/-- The driver opens, the `ioctl`s succeed, and it has a rate type for the format. -/
def Opens (P : Platform) (mVoipBitRate : ℕ) (format : AudioFormat) (rate : ℕ) (o : MvsOutcome) : Prop :=
  o.Succeeds ∧ ∃ mode rateType, getMvsMode format rate = some mode ∧
    getMvsRateType P mVoipBitRate mode = some rateType

/-- When `openMvs` fails. -/
theorem openMvs_neg (P : Platform) (hw : AudioHardware) (log : List MvsEvent) (format : AudioFormat)
    (rate : ℕ) (o : MvsOutcome) :
    (openMvs P hw log format rate o).status < 0 ↔ ¬Opens P hw.mVoipBitRate format rate o := by
  have hbad : badValue < 0 := by decide
  unfold openMvs Opens MvsOutcome.Succeeds
  split
  · next hfd => exact iff_of_true hfd fun h => absurd h.1.1 (Int.not_le.2 hfd)
  next hfd =>
  dsimp only
  split
  · next hget => exact iff_of_true hget fun h => absurd h.1.2.1 (Int.not_le.2 hget)
  next hget =>
  split
  · next hmode =>
    refine iff_of_true hbad fun h => ?_
    obtain ⟨-, mode, rateType, hm, -⟩ := h
    exact absurd (hmode.symm.trans hm) (Option.some_ne_none mode).symm
  next mode hmode =>
  split
  · next hrate =>
    refine iff_of_true hbad fun h => ?_
    obtain ⟨-, mode', rateType, hm, hr⟩ := h
    cases hmode.symm.trans hm
    exact absurd (hrate.symm.trans hr) (Option.some_ne_none rateType).symm
  next rateType hrate =>
  split
  · next hset => exact iff_of_true hset fun h => absurd h.1.2.2.1 (Int.not_le.2 hset)
  next hset =>
  dsimp only
  constructor
  · intro hstart h
    exact absurd h.1.2.2.2 (Int.not_le.2 hstart)
  · intro h
    exact Int.not_le.1 fun hstart => h ⟨⟨Int.not_lt.1 hfd, Int.not_lt.1 hget, Int.not_lt.1 hset, hstart⟩,
      mode, rateType, hmode, hrate⟩

/-! ### `AudioStreamInVoip` -/

namespace AudioStreamInVoip

/-- The stream was opened at 8000 Hz, with arguments that `set` accepts. -/
structure Wf (s : AudioStreamInVoip) : Prop where
  mHardware : s.mHardware = true
  mSampleRate : s.mSampleRate = 8000
  mBufferSize : s.mBufferSize = 320
  mode : getMvsMode s.mFormat 8000 ≠ none
  mono : s.mFormat = .pcm16Bit → s.mChannels &&& channelInMono ≠ 0

/-- The stream with the driver open as `fd`. -/
def started (s : AudioStreamInVoip) (a : StreamArgs) (fd : Int) : AudioStreamInVoip :=
  { s with
    mFd := fd, mFormat := a.format, mChannels := a.channels, mSampleRate := a.rate
    mBufferSize := 320, mState := .opened }

/-- `attach` at 8000 Hz succeeds: the driver was open, or is opened. -/
inductive Attached (hw : AudioHardware) (s : AudioStreamInVoip) (log : List MvsEvent)
    (a : StreamArgs) (o : MvsOutcome) : OnIn → Prop
  | attached : 0 ≤ hw.mVoipFd → Attached hw s log a o
      ⟨{ hw with mVoipInActive := true }, started s a hw.mVoipFd, log⟩
  | opened (cfg : List MvsEvent) : hw.mVoipFd < 0 → 0 ≤ o.fd → (∀ e ∈ cfg, e.IsConfig) →
      Attached hw s log a o
        ⟨{ hw with mVoipFd := o.fd, mVoipInActive := true }, started s a o.fd, openLog o.fd cfg log⟩

/-- `attach` fails: `::open` does, or an `ioctl` after it. -/
inductive Unattached (hw : AudioHardware) (s : AudioStreamInVoip) (log : List MvsEvent)
    (o : MvsOutcome) : OnIn → Prop
  | refused : hw.mVoipFd < 0 → o.fd < 0 → Unattached hw s log o
      ⟨(mvsError s.mFd hw log).2.1, { s with mFd := (mvsError s.mFd hw log).1 },
        (mvsError s.mFd hw log).2.2⟩
  | failed (cfg : List MvsEvent) : hw.mVoipFd < 0 → 0 ≤ o.fd → (∀ e ∈ cfg, e.IsConfig) →
      Unattached hw s log o
        ⟨{ hw with mVoipFd := -1 }, { s with mFd := -1 },
          .voipFd (-1) :: .closed o.fd :: openLog o.fd cfg log⟩

/-- What `attach` can do at 8000 Hz. -/
theorem attach_cases (P : Platform) (c : OnIn) {a : StreamArgs} (ha : a.rate = 8000)
    (o : MvsOutcome) {r : Status × OnIn} (hr : attach P c a o = r) :
    (r.1 = noError ∧ Attached c.hw c.s c.log a o r.2) ∨
      (r.1 < 0 ∧ Unattached c.hw c.s c.log o r.2) := by
  subst hr
  by_cases h0 : 0 ≤ c.hw.mVoipFd
  · have : attach P c a o = (noError,
        ⟨{ c.hw with mVoipInActive := true }, started c.s a c.hw.mVoipFd, c.log⟩) := by
      simp [attach, h0, ha, noError, started]
    exact this ▸ .inl ⟨rfl, .attached h0⟩
  have h0' : c.hw.mVoipFd < 0 := by omega
  unfold attach
  rw [if_neg h0]
  have hopen := openMvs_cases P c.hw c.log a.format a.rate o
  generalize openMvs P c.hw c.log a.format a.rate o = r at hopen
  cases hopen with
  | refused hfd =>
    refine .inr ⟨by simp [hfd], ?_⟩
    simpa [hfd] using Unattached.refused h0' hfd
  | opened status cfg hfd hcfg =>
    by_cases hst : status < 0
    · refine .inr ⟨by simp [hst], ?_⟩
      simpa [hst, mvsError, hfd] using Unattached.failed cfg h0' hfd hcfg
    · refine .inl ⟨by simp [hst, ha], ?_⟩
      have hat : Attached c.hw c.s c.log a o _ := .opened cfg h0' hfd hcfg
      simpa [hst, ha, started] using hat

theorem Attached.grows {hw : AudioHardware} {s : AudioStreamInVoip} {log : List MvsEvent}
    {a : StreamArgs} {o : MvsOutcome} {c : OnIn} (h : Attached hw s log a o c) :
    Grows log c.log := by
  cases h with
  | attached => exact .refl _
  | opened cfg _ _ hcfg => exact grows_openLog _ hcfg log

theorem Unattached.grows {hw : AudioHardware} {s : AudioStreamInVoip} {log : List MvsEvent}
    {o : MvsOutcome} {c : OnIn} (h : Unattached hw s log o c) : Grows log c.log := by
  cases h with
  | refused => exact grows_mvsError ..
  | failed cfg _ _ hcfg => exact (grows_openLog _ hcfg log).closed _

/-- A `read` of a well-formed stream that opens the driver again only attaches to it. -/
theorem reset_eq (P : Platform) {c : OnIn} (hs : c.s.Wf) (o : MvsOutcome) :
    reset P c o = attach P c c.s.args o := by
  have hr : getInputSampleRate 8000 = 8000 := by decide
  have hset : set P c c.s.args o =
      ((attach P c c.s.args o).1, c.s.args, (attach P c c.s.args o).2) := by
    obtain ⟨hw, ⟨hHardware, fd, state, retry, format, channels, rate, size, setup, first⟩, log⟩ := c
    obtain ⟨h1, h2, h3, h4, h5⟩ := hs
    dsimp only at h1 h2 h3 h4 h5
    subst h1 h2 h3
    by_cases hf : format = .pcm16Bit
    · subst hf
      simp [set, args, hr, h4, h5 rfl]
    · simp [set, args, hf, h4]
  unfold reset
  rw [hset]
  obtain ⟨-, h⟩ | ⟨-, h⟩ := attach_cases P c (a := c.s.args) hs.mSampleRate o rfl
  all_goals
    generalize attach P c c.s.args o = r at h
    obtain ⟨st, c'⟩ := r
    dsimp only at h
    cases h <;> rfl

/-- `n` calls of `::read`, and what they leave of a stream. -/
structure Polls (n : ℕ) (c c' : OnIn) : Prop where
  hw : c'.hw = c.hw
  s : c'.s = { c.s with mRetryCount := c'.s.mRetryCount, mFirstread := c'.s.mFirstread }
  log : c'.log = List.replicate n (.io c.s.mFd) ++ c.log

theorem Polls.refl (c : OnIn) : Polls 0 c c := ⟨rfl, rfl, rfl⟩

theorem Polls.one (c : OnIn) (retry : ℕ) (first : Bool) : Polls 1 c
    ⟨c.hw, { c.s with mRetryCount := retry, mFirstread := first }, .io c.s.mFd :: c.log⟩ :=
  ⟨rfl, rfl, rfl⟩

theorem Polls.trans {n : ℕ} {c c₁ c' : OnIn} (h₁ : Polls 1 c c₁) (h : Polls n c₁ c') :
    Polls (n + 1) c c' := by
  have hfd : c₁.s.mFd = c.s.mFd := by rw [h₁.s]
  refine ⟨h.hw.trans h₁.hw, ?_, ?_⟩
  · rw [h.s, h₁.s]
  · rw [h.log, h₁.log, hfd, ← List.append_assoc, List.replicate_append_replicate]

theorem readPcm_polls {ret : Int} {results : List ReadResult} {count total : ℕ} {c c' : OnIn}
    {stored : List Stored} {r : ReadReturn}
    (h : readPcm ret results count total c stored = some (r, c')) :
    ∃ n, Polls n c c' ∧ (c.s.mBufferSize ≤ count → 0 < n) := by
  induction results generalizing count total c stored with
  | nil =>
    unfold readPcm at h
    split at h
    · cases h
      exact ⟨0, .refl _, by omega⟩
    · cases h
  | cons x results ih =>
    unfold readPcm at h
    split at h
    · cases h
      exact ⟨0, .refl _, by omega⟩
    cases x with
    | frame f =>
      dsimp only at h
      split at h
      · obtain ⟨n, hn, -⟩ := ih h
        exact ⟨n + 1, .trans (.one c _ _) hn, fun _ => Nat.succ_pos n⟩
      · cases h
        exact ⟨1, .one c _ _, fun _ => Nat.one_pos⟩
    | eagain =>
      obtain ⟨n, hn, -⟩ := ih h
      exact ⟨n + 1, .trans (.one c _ _) hn, fun _ => Nat.succ_pos n⟩
    | error e =>
      cases h
      exact ⟨1, .one c _ _, fun _ => Nat.one_pos⟩

section SetupDevice

variable (P : Platform) (c : OnIn)

@[simp] theorem setupDevice_mVoipFd : (setupDevice P c).hw.mVoipFd = c.hw.mVoipFd := by
  unfold setupDevice; split <;> simp

@[simp] theorem setupDevice_mVoipInActive :
    (setupDevice P c).hw.mVoipInActive = c.hw.mVoipInActive := by
  unfold setupDevice; split <;> simp

@[simp] theorem setupDevice_mVoipOutActive :
    (setupDevice P c).hw.mVoipOutActive = c.hw.mVoipOutActive := by
  unfold setupDevice; split <;> simp

@[simp] theorem setupDevice_mFd : (setupDevice P c).s.mFd = c.s.mFd := by
  unfold setupDevice; split <;> rfl

@[simp] theorem setupDevice_log : (setupDevice P c).log = c.log := by
  unfold setupDevice; split <;> rfl

end SetupDevice

/-- What `readOpen` can do. -/
inductive Polled (P : Platform) (c : OnIn) (bytes : ℕ) : ReadReturn → OnIn → Prop
  | short : bytes < c.s.mBufferSize → Polled P c bytes ⟨0, []⟩ c
  | polled {r : ReadReturn} {c' : OnIn} (n : ℕ) : c.s.mBufferSize ≤ bytes → 0 < n →
      Polls n (setupDevice P c) c' → Polled P c bytes r c'

theorem readOpen_cases {P : Platform} {c c' : OnIn} {bytes : ℕ} {ret : Int}
    {results : List ReadResult} {r : ReadReturn}
    (h : readOpen P c bytes ret results = some (r, c')) : Polled P c bytes r c' := by
  unfold readOpen at h
  split at h
  · cases h
    exact .short ‹_›
  have hb : c.s.mBufferSize ≤ bytes := by omega
  have hb' : (setupDevice P c).s.mBufferSize = c.s.mBufferSize := by
    unfold setupDevice; split <;> rfl
  dsimp only at h
  split at h
  · obtain ⟨n, hn, hpos⟩ := readPcm_polls h
    exact .polled n hb (hpos (hb' ▸ hb)) hn
  · unfold readFrame at h
    split at h
    · cases h
    · cases h; exact .polled 1 hb Nat.one_pos ⟨rfl, rfl, rfl⟩
    · cases h; exact .polled 1 hb Nat.one_pos ⟨rfl, rfl, rfl⟩

theorem Polled.grows {P : Platform} {c c' : OnIn} {bytes : ℕ} {r : ReadReturn}
    (h : Polled P c bytes r c') : Grows c.log c'.log := by
  cases h with
  | short => exact .refl _
  | polled n _ _ hp =>
    rw [hp.log, setupDevice_log]
    exact grows_io ..

/-- What `read` of a well-formed stream can do. -/
inductive Reads (P : Platform) (c : OnIn) (bytes : ℕ) (o : MvsOutcome) : ReadReturn → OnIn → Prop
  | failed {c' : OnIn} : Reopens c → Unattached c.hw c.s c.log o c' →
      Reads P c bytes o ⟨-1, []⟩ c'
  | reopened {r : ReadReturn} {c₁ c' : OnIn} : Reopens c →
      Attached c.hw c.s c.log c.s.args o c₁ →
      Polled P { c₁ with s := { c₁.s with mState := .started } } bytes r c' → Reads P c bytes o r c'
  | resumed {r : ReadReturn} {c' : OnIn} : ¬ Reopens c → Polled P c bytes r c' →
      Reads P c bytes o r c'

theorem read_cases {P : Platform} {c c' : OnIn} (hs : c.s.Wf) {bytes : ℕ} {o : MvsOutcome}
    {results : List ReadResult} {r : ReadReturn}
    (h : read P c bytes o results = some (r, c')) : Reads P c bytes o r c' := by
  unfold read at h
  rw [if_neg (by simp [hs.mHardware])] at h
  split at h
  · rename_i hre
    dsimp only at h
    obtain ⟨hst, hat⟩ | ⟨hst, hat⟩ := attach_cases P c hs.mSampleRate o (reset_eq P hs o).symm
    · rw [if_neg (not_not.2 hst)] at h
      exact .reopened hre hat (readOpen_cases h)
    · have hne : (reset P c o).1 ≠ noError := Int.ne_of_lt hst
      rw [if_pos hne] at h
      cases h
      exact .failed hre hat
  · exact .resumed ‹_› (readOpen_cases h)

theorem Reads.grows {P : Platform} {c c' : OnIn} {bytes : ℕ} {o : MvsOutcome} {r : ReadReturn}
    (h : Reads P c bytes o r c') : Grows c.log c'.log := by
  cases h with
  | failed _ hat => exact hat.grows
  | reopened _ hat hp => exact hat.grows.trans (hp.grows :)
  | resumed _ hp => exact hp.grows

theorem standby_closes (P : Platform) (h : ℕ) {c : OnIn} (hc : Closes c) :
    standby P h c =
      ⟨(setupDeviceforVoipCall P false { c.hw with mVoipInActive := false, mVoipFd := -1 }).2,
        { c.s with mFd := -1, mSetupDevice := false, mState := .closed },
        .voipFd (-1) :: .closed c.s.mFd :: .stop (.inp h) c.hw.mVoipFd :: c.log⟩ := by
  simp [standby, hc.1, hc.2.1, hc.2.2, stopMvs]

theorem standby_stays (P : Platform) (h : ℕ) {c : OnIn} (hc : ¬ Closes c) :
    standby P h c = ⟨{ c.hw with mVoipInActive := false },
      { c.s with mState := if c.hw.mVoipOutActive then c.s.mState else .closed }, c.log⟩ := by
  by_cases h1 : c.s.mState = .closed
  · have hs : { c.s with mState := .closed } = c.s := by rw [← h1]
    simp [standby, h1, hs]
  by_cases h2 : c.hw.mVoipOutActive = true
  · simp [standby, h2]
  have h2' : c.hw.mVoipOutActive = false := by simpa using h2
  have h3 : ¬ 0 ≤ c.hw.mVoipFd := fun h3 => hc ⟨h1, h2', h3⟩
  simp [standby, h1, h2', h3]

theorem suffix_standby {P : Platform} (c : OnIn) (h : ℕ) : c.log <:+ (standby P h c).log := by
  by_cases hcl : Closes c
  · rw [standby_closes P h hcl]
    exact ⟨[_, _, _], rfl⟩
  · have hlog : (standby P h c).log = c.log := by rw [standby_stays P h hcl]
    exact hlog ▸ List.suffix_refl _

end AudioStreamInVoip

/-! ### `AudioStreamOutDirect` -/

namespace AudioStreamOutDirect

/-- A `write` of these arguments gets as far as `::write`. -/
def Sends (s : AudioStreamOutDirect) (bytes : ℕ) (frame : MvsFrame) : Prop :=
  if s.mFormat = .pcm16Bit then bytes ≠ 0 else 0 ≤ frame.len

/-- `n` calls of `::write`, and what they leave of the stream. -/
structure Puts (n : ℕ) (c c' : OnOut) : Prop where
  hw : c'.hw = c.hw
  s : c'.s = { c.s with mRetryCount := c'.s.mRetryCount }
  log : c'.log = List.replicate n (.io c.s.mFd) ++ c.log

theorem Puts.refl (c : OnOut) : Puts 0 c c := ⟨rfl, rfl, rfl⟩

theorem Puts.one (c : OnOut) (retry : ℕ) : Puts 1 c
    ⟨c.hw, { c.s with mRetryCount := retry }, .io c.s.mFd :: c.log⟩ := ⟨rfl, rfl, rfl⟩

theorem Puts.trans {n : ℕ} {c c₁ c' : OnOut} (h₁ : Puts 1 c c₁) (h : Puts n c₁ c') :
    Puts (n + 1) c c' := by
  have hfd : c₁.s.mFd = c.s.mFd := by rw [h₁.s]
  refine ⟨h.hw.trans h₁.hw, ?_, ?_⟩
  · rw [h.s, h₁.s]
  · rw [h.log, h₁.log, hfd, ← List.append_assoc, List.replicate_append_replicate]

theorem writePcm_puts {bytes : ℕ} {results : List WriteResult} {count p : ℕ} {c c' : OnOut}
    {sent : List Sent} {r : WriteReturn} (h : writePcm bytes results count p c sent = some (r, c')) :
    ∃ n, Puts n c c' ∧ (0 < n ↔ count ≠ 0) := by
  induction results generalizing count p c sent with
  | nil =>
    unfold writePcm at h
    split at h
    · cases h
      exact ⟨0, .refl _, by simpa using ‹count = 0›⟩
    · cases h
  | cons x results ih =>
    unfold writePcm at h
    split at h
    · cases h
      exact ⟨0, .refl _, by simpa using ‹count = 0›⟩
    rename_i hc
    cases x with
    | zero =>
      obtain ⟨n, hn, -⟩ := ih h
      exact ⟨n + 1, .trans (.one c _) hn, iff_of_true (Nat.succ_pos n) hc⟩
    | eagain =>
      obtain ⟨n, hn, -⟩ := ih h
      exact ⟨n + 1, .trans (.one c _) hn, iff_of_true (Nat.succ_pos n) hc⟩
    | error e =>
      cases h
      exact ⟨1, .one c _, iff_of_true Nat.one_pos hc⟩

/-- What `writeOpen` can do. -/
inductive Written (c : OnOut) (status : Int) (bytes : ℕ) (frame : MvsFrame) :
    WriteReturn → OnOut → Prop
  | put {r : WriteReturn} {c' : OnOut} (n : ℕ) : (0 < n ↔ c.s.Sends bytes frame) →
      (c.s.mFormat = .pcm16Bit ∨ 0 ≤ frame.len) → Puts n c c' → Written c status bytes frame r c'
  | failed : c.s.mFormat ≠ .pcm16Bit → frame.len < 0 →
      Written c status bytes frame (fail status c).1 (fail status c).2

theorem writeOpen_cases {c c' : OnOut} {status : Int} {bytes : ℕ} {frame : MvsFrame}
    {results : List WriteResult} {r : WriteReturn}
    (h : writeOpen c status bytes frame results = some (r, c')) :
    Written c status bytes frame r c' := by
  unfold writeOpen at h
  split at h
  · rename_i hf
    obtain ⟨n, hn, hpos⟩ := writePcm_puts h
    exact .put n (hpos.trans (by simp [Sends, hf])) (.inl hf) hn
  rename_i hf
  split at h
  · cases h
    exact .failed hf ‹_›
  · split at h
    · cases h
    · cases h
      have hl : 0 ≤ frame.len := by omega
      exact .put 1 (iff_of_true Nat.one_pos (by simpa [Sends, hf] using hl)) (.inr hl) (.one c _)

section LeaveStandby

variable (P : Platform) (c : OnOut) (fd : Int)

@[simp] theorem leaveStandby_mVoipFd : (leaveStandby P c fd).hw.mVoipFd = c.hw.mVoipFd := by
  unfold leaveStandby
  dsimp only
  split <;> simp

@[simp] theorem leaveStandby_mVoipInActive :
    (leaveStandby P c fd).hw.mVoipInActive = c.hw.mVoipInActive := by
  unfold leaveStandby
  dsimp only
  split <;> simp

@[simp] theorem leaveStandby_mVoipOutActive :
    (leaveStandby P c fd).hw.mVoipOutActive = true := by
  unfold leaveStandby
  dsimp only
  split <;> simp

@[simp] theorem leaveStandby_log : (leaveStandby P c fd).log = c.log := rfl

end LeaveStandby

theorem Written.grows {c c' : OnOut} {status : Int} {bytes : ℕ} {frame : MvsFrame}
    {r : WriteReturn} (h : Written c status bytes frame r c') : Grows c.log c'.log := by
  cases h with
  | put n _ _ hp =>
    rw [hp.log]
    exact grows_io ..
  | failed => exact grows_mvsError ..

/-- What `write` can do. -/
inductive Writes (P : Platform) (c : OnOut) (bytes : ℕ) (frame : MvsFrame) (o : MvsOutcome) :
    WriteReturn → OnOut → Prop
  | attached {r : WriteReturn} {c' : OnOut} : c.s.mStandby = true → 0 ≤ c.hw.mVoipFd →
      Written (leaveStandby P c c.hw.mVoipFd) noInit bytes frame r c' → Writes P c bytes frame o r c'
  | refused : c.s.mStandby = true → c.hw.mVoipFd < 0 → o.fd < 0 →
      Writes P c bytes frame o (fail o.fd c).1 (fail o.fd c).2
  | failed {status : Int} (cfg : List MvsEvent) : c.s.mStandby = true → c.hw.mVoipFd < 0 →
      0 ≤ o.fd → status < 0 → (∀ e ∈ cfg, e.IsConfig) →
      Writes P c bytes frame o ⟨status, []⟩ ⟨{ c.hw with mVoipFd := -1 }, { c.s with mFd := -1 },
        .voipFd (-1) :: .closed o.fd :: openLog o.fd cfg c.log⟩
  | opened {status : Int} {r : WriteReturn} {c' : OnOut} (cfg : List MvsEvent) :
      c.s.mStandby = true → c.hw.mVoipFd < 0 → 0 ≤ o.fd → 0 ≤ status → (∀ e ∈ cfg, e.IsConfig) →
      Written (leaveStandby P ⟨{ c.hw with mVoipFd := o.fd }, c.s, openLog o.fd cfg c.log⟩ o.fd)
        status bytes frame r c' → Writes P c bytes frame o r c'
  | resumed {r : WriteReturn} {c' : OnOut} : c.s.mStandby = false →
      Written c noInit bytes frame r c' → Writes P c bytes frame o r c'

theorem write_cases {P : Platform} {c c' : OnOut} {bytes : ℕ} {frame : MvsFrame} {o : MvsOutcome}
    {results : List WriteResult} {r : WriteReturn}
    (h : write P c bytes frame o results = some (r, c')) : Writes P c bytes frame o r c' := by
  unfold write at h
  split at h
  · rename_i hsb
    split at h
    · exact .attached hsb ‹_› (writeOpen_cases h)
    · rename_i h0
      have h0' : c.hw.mVoipFd < 0 := by omega
      have hopen := openMvs_cases P c.hw c.log c.s.mFormat c.s.mSampleRate o
      dsimp only at h
      generalize openMvs P c.hw c.log c.s.mFormat c.s.mSampleRate o = m at h hopen
      cases hopen with
      | refused hfd =>
        rw [if_pos hfd] at h
        cases h
        exact .refused hsb h0' hfd
      | opened status cfg hfd hcfg =>
        split at h
        · rename_i hst
          simp only [fail, mvsError, Option.getD_some, if_pos hfd] at h
          cases h
          exact .failed cfg hsb h0' hfd hst hcfg
        · exact .opened cfg hsb h0' hfd (by omega) hcfg (writeOpen_cases h)
  · exact .resumed (by simpa using ‹¬ c.s.mStandby = true›) (writeOpen_cases h)

theorem Writes.grows {P : Platform} {c c' : OnOut} {bytes : ℕ} {frame : MvsFrame} {o : MvsOutcome}
    {r : WriteReturn} (h : Writes P c bytes frame o r c') : Grows c.log c'.log := by
  cases h with
  | attached _ _ hwr => exact (hwr.grows :)
  | resumed _ hwr => exact hwr.grows
  | refused => exact grows_mvsError ..
  | failed cfg _ _ _ _ hcfg => exact (grows_openLog _ hcfg _).closed _
  | opened cfg _ _ _ _ hcfg hwr => exact (grows_openLog _ hcfg _).trans (hwr.grows :)

theorem standby_closes (P : Platform) {c : OnOut} (hc : Closes c) :
    standby P c =
      ⟨(setupDeviceforVoipCall P false { c.hw with mVoipOutActive := false, mVoipFd := -1 }).2,
        { c.s with mFd := -1, mStandby := true },
        .voipFd (-1) :: .closed c.s.mFd :: .stop .out c.hw.mVoipFd :: c.log⟩ := by
  simp [standby, hc.1, hc.2, stopMvs]

theorem standby_stays (P : Platform) {c : OnOut} (hc : ¬ Closes c) :
    standby P c =
      ⟨{ c.hw with mVoipOutActive := false }, { c.s with mStandby := true }, c.log⟩ := by
  have hc' : ¬ (0 ≤ c.hw.mVoipFd ∧ c.hw.mVoipInActive = false) := hc
  simp only [standby, if_neg hc']

theorem suffix_standby {P : Platform} (c : OnOut) : c.log <:+ (standby P c).log := by
  by_cases hcl : Closes c
  · rw [standby_closes P hcl]
    exact ⟨[_, _, _], rfl⟩
  · have hlog : (standby P c).log = c.log := by rw [standby_stays P hcl]
    exact hlog ▸ List.suffix_refl _

end AudioStreamOutDirect

/-! ### Operations -/

namespace Device

/-- The input streams that exist are well formed. -/
def Wf (w : Device) : Prop := ∀ h s, w.mVoipInputs h = some s → s.Wf

/-- A new input stream, once `set` has accepted its arguments. -/
def newInput (junk : Bool) : AudioStreamInVoip := { mHardware := true, mFirstread := junk }

/-- The direct output as its destructor sees it. -/
def lastOut (w : Device) (s : AudioStreamOutDirect) : OnOut :=
  ⟨{ w.hw with mDirectOutrefCnt := w.hw.mDirectOutrefCnt - 1 }, s, w.log⟩

/-- What one operation can do. -/
inductive Steps (P : Platform) (w : Device) : Op → Device → Prop
  | openInFailed {h : ℕ} {junk : Bool} {a : StreamArgs} {o : MvsOutcome} {c : OnIn} :
      w.mVoipInputs h = none → AudioStreamInVoip.Unattached w.hw (newInput junk) w.log o c →
      Steps P w (.openInputStream h junk a o)
        { w with hw := { c.hw with mVoipInActive := false }, log := c.log }
  | openIn {h : ℕ} {junk : Bool} {a : StreamArgs} {o : MvsOutcome} {c : OnIn} :
      w.mVoipInputs h = none → c.s.Wf →
      AudioStreamInVoip.Attached w.hw (newInput junk) w.log a o c →
      Steps P w (.openInputStream h junk a o)
        { w with
          hw := if c.hw.mVoipOutActive then (setupDeviceforVoipCall P true c.hw).2 else c.hw
          mVoipInputs := Function.update w.mVoipInputs h
            (some { c.s with mSetupDevice := c.hw.mVoipOutActive })
          log := .returned (.openStream (.inp h)) true :: c.log }
  | read {h bytes : ℕ} {o : MvsOutcome} {results : List AudioStreamInVoip.ReadResult}
      {s : AudioStreamInVoip} {r : AudioStreamInVoip.ReadReturn} {c : OnIn} :
      w.mVoipInputs h = some s → AudioStreamInVoip.Reads P (w.onIn s) bytes o r c →
      Steps P w (.read h bytes o results) (w.putIn h c (.read h) (readOk r))
  | standbyIn {h : ℕ} {s : AudioStreamInVoip} : w.mVoipInputs h = some s →
      Steps P w (.standbyIn h)
        (w.putIn h (AudioStreamInVoip.standby P h (w.onIn s)) (.standby (.inp h)) true)
  | closeIn {h : ℕ} {s : AudioStreamInVoip} : w.mVoipInputs h = some s →
      Steps P w (.closeInputStream h)
        { w with
          hw := (AudioStreamInVoip.standby P h (w.onIn s)).hw
          mVoipInputs := Function.update w.mVoipInputs h none
          log := .returned (.close (.inp h)) true ::
            (AudioStreamInVoip.standby P h (w.onIn s)).log }
  | closeInUnknown {h : ℕ} : w.mVoipInputs h = none → Steps P w (.closeInputStream h) w
  | openOut {a : StreamArgs} {s : AudioStreamOutDirect} : w.mDirectOutput = none →
      s.mFd = -1 → s.mStandby = true →
      Steps P w (.openOutputStream a)
        { w with
          hw := (fun hw : AudioHardware => if hw.mVoipInActive then
              (setupDeviceforVoipCall P true hw).2 else hw)
            { w.hw with mVoipOutActive := true, mDirectOutrefCnt := w.hw.mDirectOutrefCnt + 1 }
          mDirectOutput := some s
          log := .returned (.openStream .out) true :: w.log }
  | openOutAgain {a : StreamArgs} : w.mDirectOutput ≠ none →
      Steps P w (.openOutputStream a)
        { w with
          hw := { w.hw with mDirectOutrefCnt := w.hw.mDirectOutrefCnt + 1 }
          log := .returned (.openStream .out) true :: w.log }
  | write {bytes : ℕ} {frame : MvsFrame} {o : MvsOutcome}
      {results : List AudioStreamOutDirect.WriteResult} {s : AudioStreamOutDirect}
      {r : AudioStreamOutDirect.WriteReturn} {c : OnOut} : w.mDirectOutput = some s →
      AudioStreamOutDirect.Writes P (w.onOut s) bytes frame o r c →
      Steps P w (.write bytes frame o results) (w.putOut c .write (writeOk bytes r))
  | standbyOut {s : AudioStreamOutDirect} : w.mDirectOutput = some s →
      Steps P w .standbyOut
        (w.putOut (AudioStreamOutDirect.standby P (w.onOut s)) (.standby .out) true)
  | closeOutUnknown : w.mDirectOutput = none → Steps P w .closeOutputStream w
  | closeOutShared : 1 < w.hw.mDirectOutrefCnt →
      Steps P w .closeOutputStream
        { w with hw := { w.hw with mDirectOutrefCnt := w.hw.mDirectOutrefCnt - 1 } }
  | closeOut {s : AudioStreamOutDirect} : w.mDirectOutput = some s → w.hw.mDirectOutrefCnt ≤ 1 →
      Steps P w .closeOutputStream
        { w with
          hw := (AudioStreamOutDirect.standby P (w.lastOut s)).hw
          mDirectOutput := none
          log := .returned (.close .out) true :: (AudioStreamOutDirect.standby P (w.lastOut s)).log }

variable {P : Platform} {w w' : Device}

/-- The arguments that `set` of an input stream accepts at 8000 Hz. -/
def AcceptsIn (a : StreamArgs) : Prop :=
  getMvsMode a.format 8000 ≠ none ∧ (a.format = .pcm16Bit → a.channels &&& channelInMono ≠ 0)

/-- `set` of a new input stream refuses other arguments before it has stored `mHardware`. -/
theorem set_refused {junk : Bool} {a : StreamArgs} (ha : a.rate = 8000) (hno : ¬AcceptsIn a)
    (hw : AudioHardware) (log : List MvsEvent) (o : MvsOutcome) :
    (AudioStreamInVoip.set P ⟨hw, { mFirstread := junk }, log⟩ a o).1 ≠ noError ∧
      (AudioStreamInVoip.set P ⟨hw, { mFirstread := junk }, log⟩ a o).2.2.s.mHardware = false := by
  have hr : getInputSampleRate 8000 = 8000 := by decide
  have hpcm : getMvsMode .pcm16Bit 8000 = some .pcm := rfl
  by_cases hm : getMvsMode a.format 8000 = none
  · simp [AudioStreamInVoip.set, ha, hm, badValue, noError]
  · have hc : a.format = .pcm16Bit ∧ a.channels &&& channelInMono = 0 := by
      by_contra hc
      exact hno ⟨hm, fun hf h => hc ⟨hf, h⟩⟩
    simp [AudioStreamInVoip.set, ha, hpcm, hc.1, hr, hc.2, badValue, noError]

/-- `set` of a new input stream goes on to the driver. -/
theorem set_accepted {junk : Bool} {a : StreamArgs} (ha : a.rate = 8000) (hok : AcceptsIn a)
    (hw : AudioHardware) (log : List MvsEvent) (o : MvsOutcome) :
    AudioStreamInVoip.set P ⟨hw, { mFirstread := junk }, log⟩ a o =
      ((AudioStreamInVoip.attach P ⟨hw, newInput junk, log⟩ a o).1, a,
        (AudioStreamInVoip.attach P ⟨hw, newInput junk, log⟩ a o).2) := by
  have hr : getInputSampleRate 8000 = 8000 := by decide
  have hpcm : getMvsMode .pcm16Bit 8000 = some .pcm := rfl
  obtain ⟨hm, hc⟩ := hok
  by_cases hf : a.format = .pcm16Bit
  · simp [AudioStreamInVoip.set, ha, hpcm, hf, hr, hc hf, newInput]
  · simp [AudioStreamInVoip.set, ha, hm, hf, newInput]

/-- `set` of a new input stream refuses its arguments, or attaches to the driver or opens it. -/
theorem set_new {junk : Bool} {a : StreamArgs} (ha : a.rate = 8000) {hw : AudioHardware}
    {log : List MvsEvent} {o : MvsOutcome} {r : Status × StreamArgs × OnIn}
    (hset : AudioStreamInVoip.set P ⟨hw, { mFirstread := junk }, log⟩ a o = r) :
    (r.1 ≠ noError ∧ r.2.2.s.mHardware = false) ∨
      (getMvsMode a.format 8000 ≠ none ∧
        (a.format = .pcm16Bit → a.channels &&& channelInMono ≠ 0) ∧
        r.1 = noError ∧ AudioStreamInVoip.Attached hw (newInput junk) log a o r.2.2) ∨
      (r.1 < 0 ∧ AudioStreamInVoip.Unattached hw (newInput junk) log o r.2.2) := by
  by_cases hok : AcceptsIn a
  · rw [set_accepted ha hok] at hset
    subst hset
    obtain ⟨hst, hat⟩ | ⟨hst, hat⟩ :=
      AudioStreamInVoip.attach_cases P ⟨hw, newInput junk, log⟩ ha o rfl
    · exact .inr (.inl ⟨hok.1, hok.2, hst, hat⟩)
    · exact .inr (.inr ⟨hst, hat⟩)
  · subst hset
    exact .inl (set_refused ha hok hw log o)

theorem openInputStream_cases {h : ℕ} {junk : Bool} {a : StreamArgs} {o : MvsOutcome}
    (hs : w.openInputStream P h junk a o = some w') :
    Steps P w (.openInputStream h junk a o) w' := by
  unfold openInputStream at hs
  split at hs
  · cases hs
  rename_i hpre
  obtain ⟨ha, hnone⟩ : a.rate = 8000 ∧ w.mVoipInputs h = none := by simpa using hpre
  generalize hset : AudioStreamInVoip.set P (w.onIn { mFirstread := junk }) a o = r at hs
  obtain ⟨hne, hh⟩ | ⟨hm, hc, hok, hat⟩ | ⟨hst, hat⟩ := set_new ha hset
  · rw [if_pos hne, hh] at hs
    cases hs
  · obtain ⟨st, a', c⟩ := r
    dsimp only at hs hok hat
    rw [if_neg (not_not.2 hok)] at hs
    have hwf : c.s.Wf := by
      cases hat with
      | attached => exact ⟨rfl, ha, rfl, hm, hc⟩
      | opened => exact ⟨rfl, ha, rfl, hm, hc⟩
    have hsd : c.s.mSetupDevice = false := by cases hat <;> rfl
    have := Steps.openIn (P := P) hnone hwf hat
    split at hs
    · rename_i hb
      cases hs
      simpa [hb] using this
    · rename_i hb
      cases hs
      have hsame : { c.s with mSetupDevice := false } = c.s := by rw [← hsd]
      simpa [hb, hsame] using this
  · obtain ⟨st, a', c⟩ := r
    dsimp only at hs hst hat
    have hne : st ≠ noError := Int.ne_of_lt hst
    have hh : c.s.mHardware = true := by cases hat <;> rfl
    -- the state is still closed, so the destructor leaves the driver alone
    have hcl : c.s.mState = .closed := by cases hat <;> rfl
    rw [if_pos hne, if_pos hh] at hs
    cases hs
    simpa [AudioStreamInVoip.destroy, AudioStreamInVoip.standby, hcl] using
      Steps.openInFailed hnone hat

theorem openOutputStream_cases {a : StreamArgs} (hs : w.openOutputStream P a = some w') :
    Steps P w (.openOutputStream a) w' := by
  unfold openOutputStream at hs
  split at hs
  · cases hs
    exact .openOutAgain (by simp [*])
  rename_i hnone
  have hset : ∀ {r : Status × StreamArgs × OnOut}, AudioStreamOutDirect.set (w.onOut {}) a = r →
      r.1 = noError → ∃ s : AudioStreamOutDirect, s.mFd = -1 ∧ s.mStandby = true ∧
        r.2.2 = ⟨{ w.hw with mVoipOutActive := true }, s, w.log⟩ := by
    rintro r rfl hr
    unfold AudioStreamOutDirect.set at hr ⊢
    dsimp only at hr ⊢
    split_ifs at hr ⊢
    all_goals first | exact absurd hr (by decide : badValue ≠ noError) | exact ⟨_, rfl, rfl, rfl⟩
  generalize AudioStreamOutDirect.set (w.onOut {}) a = r at hs hset
  dsimp only at hs
  split at hs
  · cases hs
  · rename_i hok
    obtain ⟨s, hfd, hsb, hc⟩ := hset rfl (not_not.1 hok)
    rw [hc] at hs
    cases hs
    exact .openOut hnone hfd hsb

/-- **What one operation can do.** -/
theorem step_cases (hw : w.Wf) {op : Op} (hs : step P w op = some w') : Steps P w op w' := by
  cases op with
  | openInputStream h junk a o => exact openInputStream_cases hs
  | read h bytes o results =>
    obtain ⟨s, hin, hs⟩ := Option.bind_eq_some_iff.1 hs
    obtain ⟨r, hread, rfl⟩ := Option.map_eq_some_iff.1 hs
    exact .read hin (AudioStreamInVoip.read_cases (hw h s hin) hread)
  | standbyIn h =>
    obtain ⟨s, hin, rfl⟩ := Option.map_eq_some_iff.1 hs
    exact .standbyIn hin
  | closeInputStream h =>
    cases hs
    unfold closeInputStream
    split
    · exact .closeInUnknown ‹_›
    · exact .closeIn ‹_›
  | openOutputStream a => exact openOutputStream_cases hs
  | write bytes frame o results =>
    obtain ⟨s, hout, hs⟩ := Option.bind_eq_some_iff.1 hs
    obtain ⟨r, hwrite, rfl⟩ := Option.map_eq_some_iff.1 hs
    exact .write hout (AudioStreamOutDirect.write_cases hwrite)
  | standbyOut =>
    obtain ⟨s, hout, rfl⟩ := Option.map_eq_some_iff.1 hs
    exact .standbyOut hout
  | closeOutputStream =>
    cases hs
    unfold closeOutputStream
    split
    · exact .closeOutUnknown ‹_›
    · rename_i s hout
      dsimp only
      split
      · exact .closeOut hout (by omega)
      · exact .closeOutShared (by omega)

/-! ### Well-formed streams stay so -/

theorem wf_init : Device.init.Wf := fun _ _ h => by cases h

theorem wf_polled {c c' : OnIn} {bytes : ℕ} {r : AudioStreamInVoip.ReadReturn} (hs : c.s.Wf)
    (h : AudioStreamInVoip.Polled P c bytes r c') : c'.s.Wf := by
  cases h with
  | short => exact hs
  | polled n _ _ hp =>
    have hsd : (AudioStreamInVoip.setupDevice P c).s.Wf := by
      unfold AudioStreamInVoip.setupDevice
      split
      · exact hs
      · exact ⟨hs.1, hs.2, hs.3, hs.4, hs.5⟩
    rw [hp.s]
    exact ⟨hsd.1, hsd.2, hsd.3, hsd.4, hsd.5⟩

theorem wf_standby {c : OnIn} {h : ℕ} (hs : c.s.Wf) :
    (AudioStreamInVoip.standby P h c).s.Wf := by
  unfold AudioStreamInVoip.standby
  dsimp only
  split_ifs <;> exact ⟨hs.1, hs.2, hs.3, hs.4, hs.5⟩

theorem wf_update (hw : w.Wf) {h : ℕ} {o : Option AudioStreamInVoip}
    (ho : ∀ s, o = some s → s.Wf) :
    ∀ h' s, Function.update w.mVoipInputs h o h' = some s → s.Wf := by
  intro h' s hs
  by_cases hh : h' = h
  · subst hh
    rw [Function.update_self] at hs
    exact ho s hs
  · rw [Function.update_of_ne hh] at hs
    exact hw h' s hs

theorem wf_step (hw : w.Wf) {op : Op} (hs : step P w op = some w') : w'.Wf := by
  cases step_cases hw hs with
  | openInFailed | closeInUnknown | openOut | openOutAgain | write | standbyOut | closeOutUnknown
  | closeOutShared | closeOut => exact hw
  | openIn _ hwf _ =>
    refine wf_update hw ?_
    rintro s ⟨⟩
    exact ⟨hwf.1, hwf.2, hwf.3, hwf.4, hwf.5⟩
  | read hin hr =>
    have hs' := hw _ _ hin
    refine wf_update hw ?_
    rintro s ⟨⟩
    cases hr with
    | failed _ hat => cases hat <;> exact ⟨hs'.1, hs'.2, hs'.3, hs'.4, hs'.5⟩
    | reopened _ hat hp =>
      refine wf_polled ?_ hp
      cases hat <;> exact ⟨hs'.1, hs'.2, rfl, hs'.2 ▸ hs'.4, hs'.5⟩
    | resumed _ hp => exact wf_polled hs' hp
  | standbyIn hin =>
    refine wf_update hw ?_
    rintro s ⟨⟩
    exact wf_standby (hw _ _ hin)
  | closeIn => exact wf_update hw (by rintro s ⟨⟩)

end Device

end Msm7x27a.Voip
