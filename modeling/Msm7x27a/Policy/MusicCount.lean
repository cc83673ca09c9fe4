import Msm7x27a.Policy.Wiring
import Msm7x27a.Lib.Runs

/-!
# The count of music on the primary output

Clients start and stop streams, and FM counts as one more stream of music on the primary output while
it is available.  The count is what was started less what was stopped, and one more with FM, so it
never stays at zero when one is taken from it.
-/

namespace Msm7x27a.Policy

open Msm7x27a.Audio (Status noError)
open Msm7x27a.Route (Devices)
open Msm7x27a.Runs

/-- A call of a client, or one that connects or disconnects FM. -/
inductive MusicCall where
  | start (output : ℕ) (stream : StreamType)
  | stop (output : ℕ) (stream : StreamType)
  | fm (c : Client) (isAnalog : Bool) (state : ConnectionState) (device_address : String)

/-- A start that succeeded, or a stop. -/
inductive Playing where
  | started (output : ℕ) (stream : StreamType)
  | stopped (output : ℕ) (stream : StreamType)
  deriving DecidableEq, Repr

def startedCount (output : ℕ) (stream : StreamType) (l : List Playing) : ℕ :=
  l.count (.started output stream)

def stoppedCount (output : ℕ) (stream : StreamType) (l : List Playing) : ℕ :=
  l.count (.stopped output stream)

@[simp] theorem startedCount_started {output output' : ℕ} {stream stream' : StreamType}
    {l : List Playing} : startedCount output stream (.started output' stream' :: l) =
      startedCount output stream l + if output' = output ∧ stream' = stream then 1 else 0 := by
  unfold startedCount
  rw [List.count_cons]
  simp

@[simp] theorem startedCount_stopped {output output' : ℕ} {stream stream' : StreamType}
    {l : List Playing} : startedCount output stream (.stopped output' stream' :: l) =
      startedCount output stream l := List.count_cons_of_ne (by simp)

@[simp] theorem stoppedCount_stopped {output output' : ℕ} {stream stream' : StreamType}
    {l : List Playing} : stoppedCount output stream (.stopped output' stream' :: l) =
      stoppedCount output stream l + if output' = output ∧ stream' = stream then 1 else 0 := by
  unfold stoppedCount
  rw [List.count_cons]
  simp

@[simp] theorem stoppedCount_started {output output' : ℕ} {stream stream' : StreamType}
    {l : List Playing} : stoppedCount output stream (.started output' stream' :: l) =
      stoppedCount output stream l := List.count_cons_of_ne (by simp)

/-- The handles of the client are not that of the output `o`. -/
def MusicCall.Spares (o : ℕ) : MusicCall → Prop
  | .fm c _ _ _ => ∀ q used, c.handle q used ≠ o
  | .start .. | .stop .. => True

namespace State

variable {R : Type} {B : Base R} {H : Headers} {c : Client} {isAnalog : Bool}
  {state : ConnectionState} {device_address : String} {outputs : SortedVector ℕ} {s s' : State R}
  {output n : ℕ} {stream : StreamType} {delta : Int}

/-- The output is a duplicating one. -/
def duplicating (s : State R) (output : ℕ) : Bool :=
  (s.mOutputs.valueFor output).any AudioOutputDescriptor.isDuplicated

/-- The count of music on the primary output, if that is open. -/
def musicCount (s : State R) : Option ℕ :=
  (s.mOutputs.valueFor s.mPrimaryOutput).map fun desc => desc.mRefCount .music

/-- The calls: no output is a duplicating one, and no stream is stopped more often than started. -/
def musicStep (B : Base R) (H : Headers) : State R × List Playing → MusicCall →
    Option (State R × List Playing)
  | (s, l), .start output stream =>
    if s.duplicating output then none
    else
      let r := s.startOutput B H output stream
      some (r.2, if r.1 = noError then .started output stream :: l else l)
  | (s, l), .stop output stream =>
    if s.duplicating output ∨ startedCount output stream l ≤ stoppedCount output stream l then none
    else some ((s.stopOutput B output stream).2, .stopped output stream :: l)
  | (s, l), .fm c isAnalog state device_address =>
    (s.setDeviceConnectionState B H c isAnalog H.AUDIO_DEVICE_OUT_FM state device_address).map
      fun r => (r.2, l)

/-- FM counts as one. -/
def fmCount (H : Headers) (s : State R) : ℕ :=
  if s.mAvailableOutputDevices.has H.AUDIO_DEVICE_OUT_FM then 1 else 0

/-- The count of music on the primary output is that of the starts less that of the stops, and FM. -/
def Counted (H : Headers) (t : State R × List Playing) : Prop :=
  ∀ n ∈ t.1.musicCount, (n : Int) =
    startedCount t.1.mPrimaryOutput .music t.2 - stoppedCount t.1.mPrimaryOutput .music t.2 +
      fmCount H t.1

/-- The call takes one from the count of music on the primary output. -/
def Lowers (H : Headers) (t : State R × List Playing) : MusicCall → Prop
  | .stop output stream => output = t.1.mPrimaryOutput ∧ stream = .music
  | .fm _ _ state _ =>
    state = .unavailable ∧ t.1.mAvailableOutputDevices.has H.AUDIO_DEVICE_OUT_FM = true
  | .start .. => False

/-- One is taken from a count of zero by no call that is made. -/
def Unclamped (B : Base R) (H : Headers) (t : State R × List Playing) (call : MusicCall) : Prop :=
  musicStep B H t call ≠ none → Lowers H t call → ∀ n ∈ t.1.musicCount, 0 < n

/-! ### Streams -/

theorem musicCount_of_same (h : Same s s') : s'.musicCount = s.musicCount := by
  unfold musicCount
  rw [h.mOutputs, h.mPrimaryOutput]

theorem fmCount_of_keeps (h : Keeps s s') : fmCount H s' = fmCount H s := by
  unfold fmCount
  rw [h.mAvailableOutputDevices]

/-- On an output that is no duplicating one a change counts there alone. -/
theorem changeRefCount_of_single (h : s.duplicating output = false) :
    s.changeRefCount output stream delta = s.countOne output stream delta := by
  unfold changeRefCount
  split
  next o₁ o₂ horigin =>
    obtain ⟨desc, hd, hor⟩ := Option.map_eq_some_iff.1 horigin
    unfold duplicating at h
    rw [hd, Option.any_some, AudioOutputDescriptor.isDuplicated, hor] at h
    cases h
  next => rfl

theorem musicCount_countOne : (s.countOne output stream delta).musicCount =
    if output = s.mPrimaryOutput ∧ stream = .music then
      s.musicCount.map fun n : ℕ => ((n : Int) + delta).toNat
    else s.musicCount := by
  unfold musicCount countOne
  dsimp only
  rw [KeyedVector.valueFor_modify]
  by_cases ho : output = s.mPrimaryOutput
  · rw [if_pos ho.symm]
    cases s.mOutputs.valueFor s.mPrimaryOutput with
    | none => simp
    | some desc =>
      by_cases hs : stream = .music
      · subst hs
        rw [if_pos ⟨ho, rfl⟩]
        simp [AudioOutputDescriptor.changeRefCount]
      · rw [if_neg fun h => hs h.2]
        simp [AudioOutputDescriptor.changeRefCount, Function.update_of_ne (Ne.symm hs)]
  · rw [if_neg (Ne.symm ho), if_neg fun h => ho h.1]

/-- A start that succeeds counts on its output, and changes nothing else that matters here. -/
theorem start_music (B : Base R) (H : Headers) (stream : StreamType)
    (hsingle : s.duplicating output = false) (h : output ∈ s.mOutputs) :
    (s.startOutput B H output stream).2.musicCount = (s.countOne output stream 1).musicCount ∧
      Keeps s (s.startOutput B H output stream).2 := by
  have hsame : Same (s.changeRefCount output stream 1) (s.startOutput B H output stream).2 :=
    same_startOutput h
  rw [changeRefCount_of_single hsingle] at hsame
  have hcount : Keeps s (s.countOne output stream 1) := ⟨rfl, rfl, rfl, rfl, rfl, rfl, rfl⟩
  exact ⟨musicCount_of_same hsame, hcount.trans hsame.keeps⟩

/-- A stop of a stream that plays counts on its output. -/
theorem stop_music (B : Base R) (stream : StreamType) (hsingle : s.duplicating output = false) :
    (s.stopOutput B output stream).2.musicCount =
        (if s.countIs output stream 0 then s else s.countOne output stream (-1)).musicCount ∧
      Keeps s (s.stopOutput B output stream).2 := by
  by_cases h : output ∈ s.mOutputs
  · have hsame : Same (if s.countIs output stream 0 then s
        else s.changeRefCount output stream (-1)) (s.stopOutput B output stream).2 := same_stopOutput h
    rw [changeRefCount_of_single hsingle] at hsame
    have hcount : Keeps s (if s.countIs output stream 0 then s
        else s.countOne output stream (-1)) := by
      split
      · exact .refl s
      · exact ⟨rfl, rfl, rfl, rfl, rfl, rfl, rfl⟩
    exact ⟨musicCount_of_same hsame, hcount.trans hsame.keeps⟩
  · rw [stopOutput_of_closed h]
    refine ⟨?_, .refl s⟩
    split
    · rfl
    · rw [musicCount_countOne]
      split
      next hmusic =>
        unfold musicCount
        rw [hmusic.1] at h
        rw [KeyedVector.valueFor_eq_none.2 h]
        rfl
      next => rfl

/-! ### FM -/

/-- The count of music on the primary output changes as FM does, unless the output is closed. -/
def FollowsFm (H : Headers) (s s' : State R) : Prop :=
  s'.mPrimaryOutput = s.mPrimaryOutput ∧ ∀ n ∈ s'.musicCount, ∃ m ∈ s.musicCount,
    n = ((m : Int) + (fmCount H s' - fmCount H s)).toNat

theorem followsFm_of_eq (hp : s'.mPrimaryOutput = s.mPrimaryOutput)
    (hn : s'.musicCount = s.musicCount) (hfm : fmCount H s' = fmCount H s) : FollowsFm H s s' := by
  refine ⟨hp, fun n h => ⟨n, hn ▸ h, ?_⟩⟩
  rw [hfm, Int.sub_self, Int.add_zero, Int.toNat_natCast]

theorem musicCount_congr (hp : s'.mPrimaryOutput = s.mPrimaryOutput)
    (ho : s'.mOutputs.valueFor s.mPrimaryOutput = s.mOutputs.valueFor s.mPrimaryOutput) :
    s'.musicCount = s.musicCount := by
  unfold musicCount
  rw [hp, ho]

theorem fmCount_congr (h : s'.mAvailableOutputDevices = s.mAvailableOutputDevices) :
    fmCount H s' = fmCount H s := by
  unfold fmCount
  rw [h]

/-- The end of a change counts FM on the primary output, which it may then close. -/
theorem musicCount_finishOutput (h : s.finishOutput B H H.AUDIO_DEVICE_OUT_FM state outputs = some s')
    (hn : n ∈ s'.musicCount) :
    ∃ m ∈ s.musicCount, n = ((m : Int) + if state = .available then 1 else -1).toNat := by
  obtain ⟨-, s₁, s₂, h1, ho, h2, h3⟩ := finishOutput_cases h
  rw [musicCount_of_same h3] at hn
  obtain ⟨desc, hd, rfl⟩ := Option.map_eq_some_iff.1 hn
  have hopen := valueFor_of_closeUnused h2 hd
  rw [(keeps_closeUnused h2).mPrimaryOutput, h1.mPrimaryOutput, ho, mOutputs_countFm, if_pos rfl,
    KeyedVector.valueFor_modify, if_pos rfl] at hopen
  obtain ⟨old, hold, rfl⟩ := Option.map_eq_some_iff.1 hopen
  refine ⟨old.mRefCount .music, Option.map_eq_some_iff.2 ⟨old, hold, rfl⟩, ?_⟩
  exact Function.update_self StreamType.music _ old.mRefCount

theorem followsFm_changePaired (h : FollowsFm H s s') :
    FollowsFm H s (s'.changePaired B H device state).2 := by
  obtain ⟨hkeeps, ho⟩ := keeps_changePaired B H device state s'
  have hp : (s'.changePaired B H device state).2.mPrimaryOutput = s'.mPrimaryOutput :=
    hkeeps.mPrimaryOutput
  refine ⟨hp.trans h.1, ?_⟩
  rw [musicCount_congr hp (by rw [ho]), fmCount_congr hkeeps.mAvailableOutputDevices]
  exact h.2

theorem followsFm_outputChange {r : Status × State R} (hbit : H.AUDIO_DEVICE_OUT_FM ≠ 0)
    (hc : ∀ q used, c.handle q used ≠ s.mPrimaryOutput)
    (h : OutputChange B H c isAnalog H.AUDIO_DEVICE_OUT_FM s state r) : FollowsFm H s r.2 := by
  cases h with
  | busy h => exact followsFm_of_eq rfl rfl rfl
  | @refused s₁ s₂ h1 hcon h2 ho =>
    obtain ⟨-, mode, rfl⟩ := startFm_cases h1
    exact followsFm_of_eq h2.keeps.mPrimaryOutput
      (musicCount_congr h2.keeps.mPrimaryOutput (ho s.mPrimaryOutput))
      (fmCount_congr h2.keeps.mAvailableOutputDevices)
  | @connected s₁ s₂ s₃ h1 hcon h2 ho h3 =>
    obtain ⟨-, mode, rfl⟩ := startFm_cases h1
    apply followsFm_changePaired
    have hp : s₂.mPrimaryOutput = s.mPrimaryOutput := h2.mPrimaryOutput
    -- The handle of the primary output is not given again, so its descriptor is the one it had.
    have hopen : s.mPrimaryOutput ∈ s.mOutputs := by
      have hprimary := (finishOutput_cases h3).1
      rw [hp, ho] at hprimary
      exact primary_of_connectOutputs (s := s.setFmMode mode) hc hprimary
    have hmusic : s₂.musicCount = s.musicCount := by
      apply musicCount_congr hp
      rw [ho]
      exact (kept_connectOutputs c H.AUDIO_DEVICE_OUT_FM (s.setFmMode mode)).1 _ hopen
    have hoff : fmCount H s = 0 := by
      have havail : s.mAvailableOutputDevices.has H.AUDIO_DEVICE_OUT_FM = false := hcon.1
      unfold fmCount
      rw [havail]
      rfl
    have hon : fmCount H s₃ = 1 := by
      unfold fmCount
      rw [(keeps_finishOutput h3).mAvailableOutputDevices, h2.mAvailableOutputDevices]
      exact if_pos (Devices.has_or_self hbit)
    refine ⟨(keeps_finishOutput h3).mPrimaryOutput.trans hp, fun n hn => ?_⟩
    rw [hoff, hon, ← hmusic]
    exact musicCount_finishOutput h3 hn
  | @absent s₁ h1 hcon =>
    exact followsFm_of_eq (wiring_stopFm h1).mPrimaryOutput
      (musicCount_congr (wiring_stopFm h1).mPrimaryOutput (by rw [mOutputs_stopFm h1]))
      (fmCount_congr (devices_stopFm h1).mAvailableOutputDevices)
  | @disconnected s₁ s₂ s₃ h1 hcon h2 ho h3 =>
    apply followsFm_changePaired
    have hp : s₂.mPrimaryOutput = s.mPrimaryOutput :=
      h2.mPrimaryOutput.trans (wiring_stopFm h1).mPrimaryOutput
    have hmusic : s₂.musicCount = s.musicCount :=
      musicCount_congr hp (by rw [ho, mOutputs_stopFm h1])
    have hon : fmCount H s = 1 := if_pos hcon
    have hoff : fmCount H s₃ = 0 := by
      unfold fmCount
      rw [(keeps_finishOutput h3).mAvailableOutputDevices, h2.mAvailableOutputDevices]
      exact if_neg (by simp [Devices.has_and_not_self])
    refine ⟨(keeps_finishOutput h3).mPrimaryOutput.trans hp, fun n hn => ?_⟩
    rw [hoff, hon, ← hmusic]
    exact musicCount_finishOutput h3 hn
  | badState code => exact followsFm_of_eq rfl rfl rfl

/-- **One call for FM.** Whatever becomes of it, the count of music follows FM. -/
theorem followsFm_setDeviceConnectionState {r : Status × State R} (hbit : H.AUDIO_DEVICE_OUT_FM ≠ 0)
    (hc : ∀ q used, c.handle q used ≠ s.mPrimaryOutput)
    (h : s.setDeviceConnectionState B H c isAnalog H.AUDIO_DEVICE_OUT_FM state device_address =
      some r) : FollowsFm H s r.2 := by
  rcases setDeviceConnectionState_cases h with ⟨rfl, -⟩ | ⟨-, h⟩ | ⟨-, rfl⟩
  · exact followsFm_of_eq rfl rfl rfl
  · exact followsFm_outputChange (s := s.saveOutputs) hbit hc h
  · obtain ⟨hkeeps, ho⟩ := keeps_setInputState B H H.AUDIO_DEVICE_OUT_FM state s
    exact followsFm_of_eq hkeeps.mPrimaryOutput
      (musicCount_congr hkeeps.mPrimaryOutput (by rw [ho]))
      (fmCount_congr hkeeps.mAvailableOutputDevices)

/-! ### Runs -/

/-- The primary output is `o`, its music is counted, and every stream plays that was stopped. -/
structure MusicInv (H : Headers) (o : ℕ) (t : State R × List Playing) : Prop where
  mPrimaryOutput : t.1.mPrimaryOutput = o
  counted : Counted H t
  balanced : ∀ output stream, stoppedCount output stream t.2 ≤ startedCount output stream t.2

variable {o : ℕ} {l : List Playing} {t t' : State R × List Playing} {call : MusicCall}

theorem inv_start (hI : MusicInv H o (s, l)) (hsingle : s.duplicating output = false) :
    MusicInv H o ((s.startOutput B H output stream).2,
      if (s.startOutput B H output stream).1 = noError then .started output stream :: l else l) := by
  by_cases hopen : output ∈ s.mOutputs
  · obtain ⟨hmusic, hkeeps⟩ := start_music B H stream hsingle hopen
    rw [if_pos (startOutput_ok.2 hopen)]
    refine ⟨hkeeps.mPrimaryOutput.trans hI.mPrimaryOutput, ?_, ?_⟩
    · intro n hn
      dsimp only at hn ⊢
      rw [hkeeps.mPrimaryOutput, fmCount_of_keeps hkeeps, startedCount_started,
        stoppedCount_started]
      rw [hmusic, musicCount_countOne] at hn
      split at hn
      next hon =>
        obtain ⟨m, hm, rfl⟩ := Option.map_eq_some_iff.1 hn
        have hcounted := hI.counted m hm
        dsimp only at hcounted
        rw [if_pos hon]
        omega
      next hoff =>
        have hcounted := hI.counted n hn
        rw [if_neg hoff]
        exact hcounted
    · intro output' stream'
      have hle := hI.balanced output' stream'
      dsimp only at hle ⊢
      rw [startedCount_started, stoppedCount_started]
      omega
  · rw [if_neg fun e => hopen (startOutput_ok.1 e), startOutput_of_closed hopen]
    exact hI

theorem inv_stop (hI : MusicInv H o (s, l)) (hsingle : s.duplicating output = false)
    (hplays : stoppedCount output stream l < startedCount output stream l) :
    MusicInv H o ((s.stopOutput B output stream).2, .stopped output stream :: l) := by
  obtain ⟨hmusic, hkeeps⟩ := stop_music B stream hsingle
  refine ⟨hkeeps.mPrimaryOutput.trans hI.mPrimaryOutput, ?_, ?_⟩
  · intro n hn
    dsimp only at hn ⊢
    rw [hkeeps.mPrimaryOutput, fmCount_of_keeps hkeeps, startedCount_stopped, stoppedCount_stopped]
    rw [hmusic] at hn
    by_cases hon : output = s.mPrimaryOutput ∧ stream = .music
    · obtain ⟨rfl, rfl⟩ := hon
      rw [if_pos ⟨rfl, rfl⟩]
      split at hn
      next hzero =>
        -- Its count is not zero, as it plays.
        have hcounted := hI.counted n hn
        obtain ⟨desc, hd, rfl⟩ := Option.map_eq_some_iff.1 hn
        unfold countIs at hzero
        rw [hd, Option.any_some, decide_eq_true_eq] at hzero
        dsimp only at hcounted
        omega
      next =>
        rw [musicCount_countOne, if_pos ⟨rfl, rfl⟩] at hn
        obtain ⟨m, hm, rfl⟩ := Option.map_eq_some_iff.1 hn
        have hcounted := hI.counted m hm
        dsimp only at hcounted
        omega
    · rw [if_neg hon]
      apply hI.counted
      split at hn
      · exact hn
      · rwa [musicCount_countOne, if_neg hon] at hn
  · intro output' stream'
    have hle := hI.balanced output' stream'
    dsimp only at hle ⊢
    rw [startedCount_stopped, stoppedCount_stopped]
    split
    next e =>
      obtain ⟨rfl, rfl⟩ := e
      omega
    next => exact hle

theorem inv_fm (hI : MusicInv H o (s, l)) (h : FollowsFm H s s') : MusicInv H o (s', l) := by
  refine ⟨h.1.trans hI.mPrimaryOutput, ?_, hI.balanced⟩
  intro n hn
  obtain ⟨m, hm, rfl⟩ := h.2 n hn
  have hcounted := hI.counted m hm
  have hle := hI.balanced s.mPrimaryOutput .music
  dsimp only at hcounted hle ⊢
  rw [h.1]
  omega

theorem inv_musicStep (hbit : H.AUDIO_DEVICE_OUT_FM ≠ 0) (hcall : call.Spares o)
    (hI : MusicInv H o t) (h : musicStep B H t call = some t') : MusicInv H o t' := by
  obtain ⟨s, l⟩ := t
  cases call with
  | start output stream =>
    unfold musicStep at h
    dsimp only at h
    split at h
    · cases h
    next hsingle =>
      obtain rfl := Option.some.inj h
      exact inv_start hI (Bool.eq_false_iff.2 hsingle)
  | stop output stream =>
    unfold musicStep at h
    dsimp only at h
    split at h
    · cases h
    next hplays =>
      rw [not_or] at hplays
      obtain rfl := Option.some.inj h
      exact inv_stop hI (Bool.eq_false_iff.2 hplays.1) (not_le.1 hplays.2)
  | fm c isAnalog state device_address =>
    obtain ⟨r, hr, rfl⟩ := Option.map_eq_some_iff.1 h
    refine inv_fm hI (followsFm_setDeviceConnectionState hbit ?_ hr)
    have hp : s.mPrimaryOutput = o := hI.mPrimaryOutput
    rw [hp]
    exact hcall

theorem unclamped_of_inv (hI : MusicInv H o t) : Unclamped B H t call := by
  obtain ⟨s, l⟩ := t
  intro hmade hlowers n hn
  have hcounted := hI.counted n hn
  have hle := hI.balanced s.mPrimaryOutput .music
  dsimp only at hcounted hle
  cases call with
  | start output stream => exact hlowers.elim
  | stop output stream =>
    obtain ⟨ho, rfl⟩ := hlowers
    by_cases hplays : startedCount output .music l ≤ stoppedCount output .music l
    · exact absurd (if_pos (.inr hplays)) hmade
    · dsimp only at ho
      rw [ho] at hplays
      omega
  | fm c isAnalog state device_address =>
    have hon : fmCount H s = 1 := if_pos hlowers.2
    omega

/-- **The count of music.** In every run of starts and stops on outputs that are no duplicating ones,
none of which stops a stream that does not play, and of connections and disconnections of FM, the
count of music on the primary output is that of its starts less that of its stops, and one more while
FM is available, and one is never taken from a count of zero. -/
theorem music_counted (hbit : H.AUDIO_DEVICE_OUT_FM ≠ 0) (hstart : Counted H (s, []))
    {calls : List MusicCall} (hcalls : ∀ call ∈ calls, call.Spares s.mPrimaryOutput) :
    Along (musicStep B H) (fun t call => Counted H t ∧ Unclamped B H t call ∧
      Ends (musicStep B H) (Counted H) t call) (s, []) calls := by
  have hI : MusicInv H s.mPrimaryOutput (s, []) := ⟨rfl, hstart, fun _ _ => le_rfl⟩
  have hrun : ∀ {calls t}, MusicInv H s.mPrimaryOutput t →
      (∀ call ∈ calls, MusicCall.Spares s.mPrimaryOutput call) →
      Along (musicStep B H) (fun t call => Counted H t ∧ Unclamped B H t call ∧
        Ends (musicStep B H) (Counted H) t call) t calls := by
    intro calls
    induction calls with
    | nil => exact fun _ _ => trivial
    | cons call calls ih =>
      intro t hI hcalls
      have hstep : ∀ t', musicStep B H t call = some t' → MusicInv H s.mPrimaryOutput t' :=
        fun _ => inv_musicStep hbit (hcalls call (List.mem_cons_self ..)) hI
      refine ⟨⟨hI.counted, unclamped_of_inv hI, fun t' h => (hstep t' h).counted⟩, fun t' h => ?_⟩
      exact ih (hstep t' h) fun call' h' => hcalls call' (List.mem_cons_of_mem _ h')
  exact hrun hI hcalls

theorem music_counted_plain : Headers.plain.AUDIO_DEVICE_OUT_FM ≠ 0 ∧
    Along (musicStep .plain .plain) (fun t call => Counted .plain t ∧ Unclamped .plain .plain t call ∧
      Ends (musicStep .plain .plain) (Counted .plain) t call) (State.plain, [])
      [.fm .plain false .available "", .start 1 .music, .fm .plain false .unavailable "",
        .stop 1 .music] := by
  refine ⟨by decide, music_counted (by decide) ?_ ?_⟩
  · intro n hn
    obtain rfl := Option.some.inj hn
    rfl
  · intro call hcall
    simp only [List.mem_cons, List.not_mem_nil, or_false] at hcall
    rcases hcall with rfl | rfl | rfl | rfl
    · exact plain_handle
    · trivial
    · exact plain_handle
    · trivial

end State

end Msm7x27a.Policy
