import Msm7x27a.Lib.Log
import Msm7x27a.Voip.Outcomes

/-!
# The shared descriptor of the MVS driver

Each stream keeps a copy `mFd` of `AudioHardware::mVoipFd`, and reads, writes and closes through it.
`LogOk` says what is expected of the driver's log: a descriptor is closed at most once, it is closed
before `mVoipFd` forgets it, and frames go through the descriptor `mVoipFd` names.

The code does not keep the copies up to date, so `LogOk` fails on some runs.  It holds exactly on
the runs all of whose operations are `Current` (`logOk_iff_current`): no operation relies on a copy
that another stream has left behind.
The invariant is `Tracks`: the log is as expected, and the one descriptor open is `mVoipFd`.
-/

namespace Msm7x27a.Voip

open Msm7x27a.Audio

/-! ### What is expected of the log -/

/-- The descriptors opened and not yet closed. -/
def live : List MvsEvent → List Int
  | [] => []
  | .opened fd :: log => fd :: live log
  | .closed fd :: log => (live log).erase fd
  | _ :: log => live log

/-- The value of `mVoipFd`. -/
def current : List MvsEvent → Int
  | [] => -1
  | .voipFd fd :: _ => fd
  | _ :: log => current log

/-- What is expected of an event after `log`: only an open descriptor is closed; when `mVoipFd`
takes a value, every other descriptor has been closed; frames go through `mVoipFd`. -/
def EventOk (log : List MvsEvent) : MvsEvent → Prop
  | .closed fd => 0 ≤ fd → fd ∈ live log
  | .voipFd fd => ∀ x ∈ live log, x = fd
  | .io fd => fd = current log
  | _ => True

instance (log : List MvsEvent) : DecidablePred (EventOk log) := fun e => by
  cases e <;> unfold EventOk <;> infer_instance

/-- Every event of the log is as expected. -/
def LogOk (log : List MvsEvent) : Prop := Log.Always EventOk log

instance : DecidablePred LogOk := fun log => inferInstanceAs (Decidable (Log.Always EventOk log))

/-- The log is as expected and the one open descriptor is `fd`, the value of `mVoipFd`. -/
structure Tracks (fd : Int) (log : List MvsEvent) : Prop where
  ok : LogOk log
  current : current log = fd
  live : live log = if 0 ≤ fd then [fd] else []
  bound : -1 ≤ fd

theorem tracks_nil : Tracks (-1) [] := ⟨trivial, rfl, rfl, Int.le_refl _⟩

/-! ### Events that keep it -/

namespace Tracks

variable {fd : Int} {log : List MvsEvent}

/-- The events that touch no descriptor. -/
theorem skip {e : MvsEvent} (h : Tracks fd log) (hok : EventOk log e)
    (hl : Voip.live (e :: log) = Voip.live log) (hc : Voip.current (e :: log) = Voip.current log) :
    Tracks fd (e :: log) := ⟨⟨hok, h.ok⟩, hc.trans h.current, hl.trans h.live, h.bound⟩

theorem returned (h : Tracks fd log) (call : Call) (b : Bool) :
    Tracks fd (.returned call b :: log) := h.skip trivial rfl rfl

theorem stop (h : Tracks fd log) (d : Dir) (x : Int) : Tracks fd (.stop d x :: log) :=
  h.skip trivial rfl rfl

theorem config {cfg : List MvsEvent} (h : Tracks fd log) (hcfg : ∀ e ∈ cfg, e.IsConfig) :
    Tracks fd (cfg ++ log) := by
  refine Log.append_induction h fun e he log hlog => ?_
  have hconfig := hcfg e he
  cases e with
  | getConfig | setConfig | start => exact hlog.skip trivial rfl rfl
  | _ => exact hconfig.elim

theorem io (h : Tracks fd log) (n : ℕ) : Tracks fd (List.replicate n (.io fd) ++ log) := by
  induction n with
  | zero => exact h
  | succ n ih => exact ih.skip ih.current.symm rfl rfl

/-- A descriptor is opened and stored where there was none. -/
theorem openLog {x : Int} {cfg : List MvsEvent} (h : Tracks fd log) (hfd : fd < 0) (hx : 0 ≤ x)
    (hcfg : ∀ e ∈ cfg, e.IsConfig) : Tracks x (openLog x cfg log) := by
  have hl : Voip.live log = [] := by rw [h.live, if_neg (by omega)]
  refine Tracks.config ⟨⟨?_, trivial, h.ok⟩, rfl, ?_, by omega⟩ hcfg
  · intro y hy
    simpa [Voip.live, hl] using hy
  · simp [Voip.live, hl, hx]

/-- The open descriptor is closed and forgotten. -/
theorem close (h : Tracks fd log) (hfd : 0 ≤ fd) :
    Tracks (-1) (.voipFd (-1) :: .closed fd :: log) := by
  have hl : Voip.live log = [fd] := by rw [h.live, if_pos hfd]
  refine ⟨⟨?_, ?_, h.ok⟩, rfl, ?_, Int.le_refl _⟩
  · intro y hy
    simp [Voip.live, hl] at hy
  · intro _
    simp [hl]
  · simp [Voip.live, hl]

/-- Only the open descriptor can be closed and forgotten. -/
theorem of_close (h : Tracks fd log) {x : Int}
    (hok : LogOk (.voipFd (-1) :: .closed x :: log)) : if 0 ≤ fd then x = fd else x < 0 := by
  obtain ⟨hv, hx, -⟩ := hok
  split
  · rename_i hfd
    have hl : Voip.live log = [fd] := by rw [h.live, if_pos hfd]
    by_contra hne
    have := hv fd (by simp [Voip.live, hl, List.erase_cons_tail, Ne.symm hne])
    omega
  · rename_i hfd
    have hl : Voip.live log = [] := by rw [h.live, if_neg hfd]
    by_contra hge
    have := hx (by omega)
    simp [hl] at this

/-- Frames go through the open descriptor only. -/
theorem of_io (h : Tracks fd log) {x : Int} {n : ℕ} (hn : 0 < n)
    (hok : LogOk (List.replicate n (.io x) ++ log)) : x = fd := by
  obtain ⟨m, rfl⟩ : ∃ m, n = m + 1 := ⟨n - 1, by omega⟩
  rw [List.replicate_succ', List.append_assoc] at hok
  have : EventOk log (.io x) := (Log.Always.of_append hok).1
  exact this.trans h.current

end Tracks

/-! ### The input stream -/

section Input

open AudioStreamInVoip

variable {P : Platform} {c c' : OnIn} {bytes : ℕ} {o : MvsOutcome}

theorem tracks_polled {r : ReadReturn} (h : Polled P c bytes r c') (ht : Tracks c.hw.mVoipFd c.log)
    (hfd : c.s.mBufferSize ≤ bytes → c.s.mFd = c.hw.mVoipFd) : Tracks c'.hw.mVoipFd c'.log := by
  cases h with
  | short => exact ht
  | polled n hb _ hp =>
    rw [hp.hw, hp.log, setupDevice_mVoipFd, setupDevice_mFd, setupDevice_log, hfd hb]
    exact ht.io n

theorem current_of_polled {r : ReadReturn} (h : Polled P c bytes r c')
    (ht : Tracks c.hw.mVoipFd c.log) (hok : LogOk c'.log) (hb : c.s.mBufferSize ≤ bytes) :
    c.s.mFd = c.hw.mVoipFd := by
  cases h with
  | short hlt => omega
  | polled n _ hn hp =>
    rw [hp.log, setupDevice_mFd, setupDevice_log] at hok
    exact ht.of_io hn hok

theorem tracks_attached {hw : AudioHardware} {s : AudioStreamInVoip} {log : List MvsEvent}
    {a : StreamArgs} (h : Attached hw s log a o c') (ht : Tracks hw.mVoipFd log) :
    Tracks c'.hw.mVoipFd c'.log ∧ c'.s.mFd = c'.hw.mVoipFd := by
  cases h with
  | attached => exact ⟨ht, rfl⟩
  | opened cfg hfd hx hcfg => exact ⟨ht.openLog hfd hx hcfg, rfl⟩

theorem tracks_mvsError {fd : Int} {hw : AudioHardware} {log : List MvsEvent}
    (ht : Tracks hw.mVoipFd log) (h : 0 ≤ fd → fd = hw.mVoipFd) :
    Tracks (mvsError fd hw log).2.1.mVoipFd (mvsError fd hw log).2.2 := by
  unfold mvsError
  split
  · rename_i hfd
    obtain rfl := h hfd
    exact ht.close hfd
  · exact ht

theorem tracks_unattached {hw : AudioHardware} {s : AudioStreamInVoip} {log : List MvsEvent}
    (h : Unattached hw s log o c') (ht : Tracks hw.mVoipFd log) (hs : o.fd < 0 → s.mFd < 0) :
    Tracks c'.hw.mVoipFd c'.log := by
  cases h with
  | refused _ hx => exact tracks_mvsError ht fun h => absurd (hs hx) (by omega)
  | failed cfg hfd hx hcfg => exact (ht.openLog hfd hx hcfg).close hx

theorem own_of_mvsError {fd : Int} {hw : AudioHardware} {log : List MvsEvent}
    (ht : Tracks hw.mVoipFd log) (hok : LogOk (mvsError fd hw log).2.2) (h0 : 0 ≤ fd) :
    fd = hw.mVoipFd := by
  unfold mvsError at hok
  rw [if_pos h0] at hok
  have := ht.of_close hok
  split at this
  · exact this
  · omega

theorem own_of_unattached {hw : AudioHardware} {s : AudioStreamInVoip} {log : List MvsEvent}
    (h : Unattached hw s log o c') (ht : Tracks hw.mVoipFd log) (hok : LogOk c'.log)
    (hx : o.fd < 0) : s.mFd < 0 := by
  cases h with
  | refused hfd _ =>
    by_contra h0
    have := own_of_mvsError ht hok (by omega)
    omega
  | failed => omega

theorem tracks_standbyIn (h : ℕ) (ht : Tracks c.hw.mVoipFd c.log)
    (hc : Closes c → c.s.mFd = c.hw.mVoipFd) :
    Tracks (standby P h c).hw.mVoipFd (standby P h c).log := by
  by_cases hcl : Closes c
  · rw [standby_closes P h hcl, hc hcl]
    simpa using (ht.stop _ _).close hcl.2.2
  · rw [standby_stays P h hcl]
    exact ht

theorem own_of_standbyIn {h : ℕ} (ht : Tracks c.hw.mVoipFd c.log)
    (hok : LogOk (standby P h c).log) (hcl : Closes c) : c.s.mFd = c.hw.mVoipFd := by
  rw [standby_closes P h hcl] at hok
  have := (ht.stop _ _).of_close hok
  rwa [if_pos hcl.2.2] at this

end Input

/-! ### The direct output -/

section Output

open AudioStreamOutDirect

variable {P : Platform} {c c' : OnOut} {bytes : ℕ} {frame : MvsFrame} {o : MvsOutcome}

/-- The copy a `write` out of standby goes through, and closes if the frame is refused. -/
def WritesOwn (s : AudioStreamOutDirect) (bytes : ℕ) (frame : MvsFrame) (fd : Int) : Prop :=
  if s.mFormat ≠ .pcm16Bit ∧ frame.len < 0 then 0 ≤ s.mFd → s.mFd = fd
  else s.Sends bytes frame → s.mFd = fd

theorem tracks_written {status : Int} {r : WriteReturn} (h : Written c status bytes frame r c')
    (ht : Tracks c.hw.mVoipFd c.log) (hfd : WritesOwn c.s bytes frame c.hw.mVoipFd) :
    Tracks c'.hw.mVoipFd c'.log := by
  unfold WritesOwn at hfd
  cases h with
  | put n hpos hf hp =>
    rw [if_neg (by rintro ⟨h1, h2⟩; rcases hf with hf | hf; exacts [h1 hf, by omega])] at hfd
    rw [hp.hw, hp.log]
    by_cases hn : 0 < n
    · rw [hfd (hpos.1 hn)]
      exact ht.io n
    · obtain rfl : n = 0 := by omega
      exact ht
  | failed hf hl =>
    rw [if_pos ⟨hf, hl⟩] at hfd
    exact tracks_mvsError ht hfd

theorem own_of_written {status : Int} {r : WriteReturn} (h : Written c status bytes frame r c')
    (ht : Tracks c.hw.mVoipFd c.log) (hok : LogOk c'.log) :
    WritesOwn c.s bytes frame c.hw.mVoipFd := by
  unfold WritesOwn
  cases h with
  | put n hpos hf hp =>
    rw [if_neg (by rintro ⟨h1, h2⟩; rcases hf with hf | hf; exacts [h1 hf, by omega])]
    rw [hp.log] at hok
    exact fun hs => ht.of_io (hpos.2 hs) hok
  | failed hf hl =>
    rw [if_pos ⟨hf, hl⟩]
    exact own_of_mvsError ht hok

theorem tracks_standbyOut (ht : Tracks c.hw.mVoipFd c.log)
    (hc : Closes c → c.s.mFd = c.hw.mVoipFd) :
    Tracks (standby P c).hw.mVoipFd (standby P c).log := by
  by_cases hcl : Closes c
  · rw [standby_closes P hcl, hc hcl]
    simpa using (ht.stop _ _).close hcl.1
  · rw [standby_stays P hcl]
    exact ht

theorem own_of_standbyOut (ht : Tracks c.hw.mVoipFd c.log) (hok : LogOk (standby P c).log)
    (hcl : Closes c) : c.s.mFd = c.hw.mVoipFd := by
  rw [standby_closes P hcl] at hok
  have := (ht.stop _ _).of_close hok
  rwa [if_pos hcl.1] at this

end Output

/-! ### Operations -/

/-- No copy is used that another stream has left behind:

* a `standby()` or close that stops the driver is the stream's whose copy is `mVoipFd`;
* so is a `read()` of an open input and a `write()` out of standby that reach the driver;
* a `read()` or `write()` that has to open the driver and is refused has no copy of its own. -/
def Op.Current (w : Device) : Op → Prop
  | .read h bytes o _ => ∀ s ∈ w.mVoipInputs h,
    if AudioStreamInVoip.Reopens (w.onIn s) then w.hw.mVoipFd < 0 → o.fd < 0 → s.mFd < 0
    else s.mBufferSize ≤ bytes → s.mFd = w.hw.mVoipFd
  | .standbyIn h | .closeInputStream h => ∀ s ∈ w.mVoipInputs h,
    AudioStreamInVoip.Closes (w.onIn s) → s.mFd = w.hw.mVoipFd
  | .write bytes frame o _ => ∀ s ∈ w.mDirectOutput,
    if s.mStandby then w.hw.mVoipFd < 0 → o.fd < 0 → s.mFd < 0
    else WritesOwn s bytes frame w.hw.mVoipFd
  | .standbyOut => ∀ s ∈ w.mDirectOutput,
    AudioStreamOutDirect.Closes (w.onOut s) → s.mFd = w.hw.mVoipFd
  | .closeOutputStream => w.hw.mDirectOutrefCnt ≤ 1 → ∀ s ∈ w.mDirectOutput,
    AudioStreamOutDirect.Closes (w.onOut s) → s.mFd = w.hw.mVoipFd
  | .openInputStream .. | .openOutputStream _ => True

/-- The log is as expected and the one open descriptor is `mVoipFd`. -/
def Device.Tracked (w : Device) : Prop := Tracks w.hw.mVoipFd w.log

section Step

variable {P : Platform} {w w' : Device} {op : Op}

/-- A `write` that left standby writes through the descriptor it has just copied. -/
theorem writesOwn_left {c : OnOut} (bytes : ℕ) (frame : MvsFrame) {fd : Int}
    (hfd : c.hw.mVoipFd = fd) : WritesOwn (AudioStreamOutDirect.leaveStandby P c fd).s bytes frame
      (AudioStreamOutDirect.leaveStandby P c fd).hw.mVoipFd := by
  have : (AudioStreamOutDirect.leaveStandby P c fd).s.mFd =
      (AudioStreamOutDirect.leaveStandby P c fd).hw.mVoipFd := by
    rw [AudioStreamOutDirect.leaveStandby_mVoipFd, hfd]; rfl
  unfold WritesOwn
  split <;> exact fun _ => this

theorem tracked_step (hw : w.Wf) (ht : w.Tracked) (hc : op.Current w)
    (hs : step P w op = some w') : w'.Tracked := by
  unfold Device.Tracked at ht ⊢
  cases Device.step_cases hw hs with
  | openInFailed _ hat => exact tracks_unattached hat ht fun _ => (by decide : (-1 : Int) < 0)
  | @openIn h junk a o c _ _ hat =>
    have := (tracks_attached hat ht).1.returned (.openStream (.inp h)) true
    dsimp only
    split <;> simpa using this
  | @read h bytes o results s r c hin hr =>
    refine Tracks.returned ?_ _ _
    have hc := hc s hin
    cases hr with
    | failed hre hat =>
      rw [if_pos hre] at hc
      by_cases h0 : w.hw.mVoipFd < 0
      · exact tracks_unattached hat ht (hc h0)
      · cases hat <;> exact absurd ‹_› h0
    | reopened hre hat hp =>
      obtain ⟨h1, h2⟩ := tracks_attached hat ht
      exact tracks_polled hp h1 fun _ => h2
    | resumed hre hp =>
      rw [if_neg hre] at hc
      exact tracks_polled hp ht hc
  | standbyIn hin => exact (tracks_standbyIn _ ht (hc _ hin)).returned _ _
  | closeIn hin => exact (tracks_standbyIn _ ht (hc _ hin)).returned _ _
  | closeInUnknown | closeOutUnknown | closeOutShared => exact ht
  | openOut =>
    have := ht.returned (.openStream .out) true
    dsimp only
    split <;> simpa using this
  | openOutAgain => exact ht.returned _ _
  | @write bytes frame o results s r c hout hwr =>
    refine Tracks.returned ?_ _ _
    have hc := hc s hout
    cases hwr with
    | attached hsb h0 hwr =>
      exact tracks_written hwr (by simpa using ht) (writesOwn_left bytes frame rfl)
    | refused hsb h0 hx =>
      have hsb' : s.mStandby = true := hsb
      rw [if_pos hsb'] at hc
      exact tracks_mvsError ht fun h => absurd (hc h0 hx) (Int.not_lt.2 h)
    | failed cfg hsb h0 hx _ hcfg => exact (ht.openLog h0 hx hcfg).close hx
    | opened cfg hsb h0 hx _ hcfg hwr =>
      exact tracks_written hwr (by simpa using ht.openLog h0 hx hcfg) (writesOwn_left bytes frame rfl)
    | resumed hsb hwr =>
      have hsb' : s.mStandby = false := hsb
      rw [if_neg (by simp [hsb'])] at hc
      exact tracks_written hwr ht hc
  | standbyOut hout => exact (tracks_standbyOut ht (hc _ hout)).returned _ _
  | closeOut hout href =>
    exact (tracks_standbyOut (c := w.lastOut _) ht (hc href _ hout)).returned _ _

theorem current_of_step (hw : w.Wf) (ht : w.Tracked) (hs : step P w op = some w')
    (hok : LogOk w'.log) : op.Current w := by
  cases Device.step_cases hw hs with
  | openInFailed | openIn | openOut | openOutAgain => trivial
  | closeInUnknown hnone => exact fun s hs => by simp [hnone] at hs
  | closeOutUnknown hnone => exact fun _ s hs => by simp [hnone] at hs
  | closeOutShared href => exact fun h => by omega
  | @read h bytes o results s r c hin hr =>
    rintro s' hs'
    obtain rfl : s = s' := Option.some.inj (hin.symm.trans hs')
    have hok' : LogOk c.log := hok.2
    cases hr with
    | failed hre hat =>
      rw [if_pos hre]
      exact fun _ => own_of_unattached hat ht hok'
    | reopened hre hat hp =>
      rw [if_pos hre]
      intro h0 hx
      cases hat with
      | attached h => exact absurd h (Int.not_le.2 h0)
      | opened _ _ h => omega
    | resumed hre hp =>
      rw [if_neg hre]
      exact current_of_polled hp ht hok'
  | @standbyIn h s hin =>
    rintro s' hs' hcl
    obtain rfl : s = s' := Option.some.inj (hin.symm.trans hs')
    exact own_of_standbyIn (c := w.onIn s) ht hok.2 hcl
  | @closeIn h s hin =>
    rintro s' hs' hcl
    obtain rfl : s = s' := Option.some.inj (hin.symm.trans hs')
    exact own_of_standbyIn (c := w.onIn s) ht hok.2 hcl
  | @write bytes frame o results s r c hout hwr =>
    rintro s' hs'
    obtain rfl : s = s' := Option.some.inj (hout.symm.trans hs')
    have hok' : LogOk c.log := hok.2
    cases hwr with
    | attached hsb h0 hwr =>
      have hsb' : s.mStandby = true := hsb
      rw [if_pos hsb']
      exact fun h => absurd h0 (Int.not_le.2 h)
    | refused hsb h0 hx =>
      have hsb' : s.mStandby = true := hsb
      rw [if_pos hsb']
      intro h _
      by_contra h1
      have : s.mFd = w.hw.mVoipFd := own_of_mvsError ht hok' (Int.not_lt.1 h1)
      omega
    | failed cfg hsb h0 hx =>
      have hsb' : s.mStandby = true := hsb
      rw [if_pos hsb']
      exact fun _ h => by omega
    | opened cfg hsb h0 hx =>
      have hsb' : s.mStandby = true := hsb
      rw [if_pos hsb']
      exact fun _ h => by omega
    | resumed hsb hwr =>
      have hsb' : s.mStandby = false := hsb
      rw [if_neg (by simp [hsb'])]
      exact own_of_written hwr ht hok'
  | @standbyOut s hout =>
    rintro s' hs' hcl
    obtain rfl : s = s' := Option.some.inj (hout.symm.trans hs')
    exact own_of_standbyOut (c := w.onOut s) ht hok.2 hcl
  | @closeOut s hout href =>
    rintro _ s' hs' hcl
    obtain rfl : s = s' := Option.some.inj (hout.symm.trans hs')
    exact own_of_standbyOut (c := w.lastOut s) ht hok.2 hcl

theorem log_suffix (hw : w.Wf) (hs : step P w op = some w') : w.log <:+ w'.log := by
  cases Device.step_cases hw hs with
  | openInFailed _ hat => exact hat.grows.suffix
  | openIn _ _ hat => exact hat.grows.suffix.trans (List.suffix_cons ..)
  | read hin hr => exact hr.grows.suffix.trans (List.suffix_cons ..)
  | standbyIn | closeIn =>
    exact (AudioStreamInVoip.suffix_standby (w.onIn _) _).trans (List.suffix_cons ..)
  | closeInUnknown | closeOutUnknown | closeOutShared => exact List.suffix_refl _
  | openOut | openOutAgain => exact List.suffix_cons ..
  | write hout hwr => exact hwr.grows.suffix.trans (List.suffix_cons ..)
  | standbyOut =>
    exact (AudioStreamOutDirect.suffix_standby (w.onOut _)).trans (List.suffix_cons ..)
  | closeOut =>
    exact (AudioStreamOutDirect.suffix_standby (w.lastOut _)).trans (List.suffix_cons ..)

end Step

/-! ### Runs -/

/-- **The descriptor is handled as expected on exactly the runs that use current copies.**
For all runs, orders of operations and answers of the driver. -/
theorem logOk_iff_current (P : Platform) (ops : List Op) {w : Device}
    (hr : Runs.run (step P) Device.init ops = some w) :
    LogOk w.log ↔ Runs.Along (step P) (fun w op => op.Current w) Device.init ops :=
  Runs.run_iff (P := fun w => LogOk w.log) (J := Device.Wf) (I := Device.Tracked)
    (fun _ _ _ hw hs => Device.wf_step hw hs)
    (fun _ _ _ hw ht hc hs => tracked_step hw ht hc hs) (fun _ ht => ht.ok)
    (fun _ _ _ hw ht hs hok => current_of_step hw ht hs hok)
    (fun _ _ _ hw hs hok => Log.Always.of_suffix hok (log_suffix hw hs))
    Device.wf_init tracks_nil hr

theorem logOk_iff_current_aCall : ∃ w, Runs.run (step .plain) Device.init aCall = some w ∧
    (LogOk w.log ↔ Runs.Along (step .plain) (fun w op => op.Current w) Device.init aCall) :=
  ⟨_, rfl, logOk_iff_current .plain aCall rfl⟩

/-- **A descriptor is lost.**  The input opens the driver as 3 and goes to standby while the output
is open but has written nothing; `standby()` of the output stops the driver, closes its own copy
-1 and forgets 3. -/
theorem descriptor_lost :
    ∃ w, Runs.run (step .plain) Device.init
        [.openInputStream 0 true ⟨.pcm16Bit, channelInMono, 8000⟩ ⟨3, 0, 0, 0⟩,
          .openOutputStream ⟨.pcm16Bit, channelOutMono, 8000⟩, .standbyIn 0, .standbyOut] = some w ∧
      ¬ LogOk w.log :=
  Runs.exists_run (by decide +kernel)

end Msm7x27a.Voip
