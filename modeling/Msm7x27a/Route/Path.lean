import Msm7x27a.Route.Steps

/-!
# Route, pins and microphone over whole runs

Three properties of every run of calls, and the exact condition for each.

* What `mCurSndDevice` records has been sent, with success (`Recorded`); a failed route is recorded
  all the same.
* The pins are in FM mode exactly while the device sent last is one of digital FM (`PinsFollow`);
  they part when the microphone is muted on such a device, and when the device is left after
  `mCurSndDevice` was forgotten.
* The microphone is as it was asked to be last (`MicRespected`); FM unmutes it.
-/

namespace Msm7x27a.Route

open Msm7x27a.Audio

section Entry

variable {E : Env} {c : Call} {r : Routed} {s s' : State}

/-- A call that routes to a device is no request. -/
theorem noRequest_of_routed (hr : routed E s c = some r) (hm : r.mute = false) : c.NoRequest := by
  intro state e
  unfold routed at hr
  rw [e] at hr
  simp only at hr
  split at hr
  · obtain rfl := Option.some.inj hr
    cases hm
  · cases hr

theorem routed_mute (hr : routed E s c = some r) (hm : r.mute = true) :
    r.device = E.e .CURRENT ∧ r.cur = s.hw.mCurSndDevice := by
  have hto : ∀ {o : Option Devices} {f : Devices → Int} {cur : Int},
      o.bind (fun d => routedTo (f d) cur) = some r → r.mute = false := by
    intro o f cur h
    obtain ⟨d, -, h⟩ := Option.bind_eq_some_iff.1 h
    unfold routedTo at h
    split at h
    · obtain rfl := Option.some.inj h
      rfl
    · cases h
  unfold routed at hr
  split at hr
  · exact absurd (hto hr) (by simp [hm])
  · split at hr
    · exact absurd (hto hr) (by simp [hm])
    · cases hr
  · split at hr
    · obtain rfl := Option.some.inj hr
      exact ⟨rfl, rfl⟩
    · cases hr
  · cases hr

theorem Enters.mic_of_route (h : Enters E c r s s') (hr : routed E s c = some r)
    (hm : r.mute = false) : s'.hw.mMicMute = fmMicMute s.hw := by
  rw [h.mic, wanted_of_noRequest (noRequest_of_routed hr hm)]
  rfl

/-! What a call does to what the log says. -/

theorem Quiet.lastAttempt (h : Quiet (s.asked c) s') (e : Endpoints) :
    lastAttempt e s'.log = lastAttempt e s.log :=
  (lastAttempt_of_grows h.log).trans (lastAttempt_asked s e)

theorem Quiet.lastPins (h : Quiet (s.asked c) s') : lastPins s'.log = lastPins s.log :=
  (lastPins_of_grows h.log).trans (lastPins_asked s)

theorem asked_hw (s : State) (c : Call) : (s.asked c).hw = s.hw := by
  unfold State.asked
  split <;> rfl

theorem asked_fd (s : State) (c : Call) : (s.asked c).m7xsnddriverfd = s.m7xsnddriverfd := by
  unfold State.asked
  split <;> rfl

theorem Enters.lastAttempt_mute (h : Enters E c r s s') (hd : r.device = E.e .CURRENT) :
    lastAttempt E.e s'.log = lastAttempt E.e s.log := by
  obtain ⟨log, ear, hg, hlog⟩ := h.log
  rw [hlog, lastAttempt_switchEvents, hd, lastAttempt_rpc_current, lastAttempt_of_grows hg,
    lastAttempt_asked]

theorem Enters.lastAttempt_route (h : Enters E c r s s') (hr : routed E s c = some r)
    (hm : r.mute = false) (hc : r.device ≠ E.e .CURRENT) (hfd : 0 ≤ s.m7xsnddriverfd) :
    lastAttempt E.e s'.log =
      some (r.device, decide (c.a.SetDevice E.e r.device (fmMicMute s.hw))) := by
  obtain ⟨log, ear, -, hlog⟩ := h.log
  rw [hlog, lastAttempt_switchEvents, lastAttempt_rpc (h.ne hm).1 hc hfd, h.mic_of_route hr hm]

theorem Enters.lastAttempt_of_fd_neg (h : Enters E c r s s') (hfd : s.m7xsnddriverfd < 0) :
    lastAttempt E.e s'.log = lastAttempt E.e s.log := by
  obtain ⟨log, ear, hg, hlog⟩ := h.log
  rw [hlog, lastAttempt_switchEvents, rpc_of_fd_neg hfd, List.nil_append, lastAttempt_of_grows hg,
    lastAttempt_asked]

theorem Enters.lastPins (h : Enters E c r s s') (hne : r.device ≠ r.cur) :
    lastPins s'.log = if E.e.FmDigital r.device then some .fm
      else if E.e.FmDigital r.cur then some .btsco else lastPins s.log := by
  obtain ⟨log, ear, hg, hlog⟩ := h.log
  rw [hlog, lastPins_switchEvents hne, lastPins_rpc, lastPins_of_grows hg, lastPins_asked]

/-- A call leaves the microphone as it should be, unless FM unmutes it. -/
theorem lastRequest_step (hs : step E s c = some s') :
    lastRequest s'.log = wanted (lastRequest s.log) c := by
  rcases step_route hs with ⟨-, hq⟩ | ⟨r, -, he⟩
  · rw [lastRequest_of_grows hq.log, lastRequest_asked]
  · obtain ⟨log, ear, hg, hlog⟩ := he.log
    rw [hlog, lastRequest_switchEvents, lastRequest_rpc, lastRequest_of_grows hg, lastRequest_asked]

end Entry

/-! ### What is recorded -/

/-- The current device, if there is one, is what was sent last, with success. -/
def Recorded (E : Env) (s : State) : Prop :=
  s.hw.mCurSndDevice ≠ -1 → lastAttempt E.e s.log = some (s.hw.mCurSndDevice, true)

instance (E : Env) : DecidablePred (Recorded E) := fun _ => by unfold Recorded; infer_instance

/-- A `doRouting` that returns an error has changed neither the current device nor the device and
the mask of post-processing. -/
def ErrorKeeps (E : Env) (s : State) (c : Call) : Prop :=
  match c.op with
  | .doRouting input outputDevice =>
    ∀ r ∈ doRouting E c.a input outputDevice s, r.1 ≠ noError →
      r.2.hw.mCurSndDevice = s.hw.mCurSndDevice ∧ r.2.pp.snd_device = s.pp.snd_device ∧
        r.2.pp.post_proc_feature_mask = s.pp.post_proc_feature_mask
  | _ => True

/-- The call leaves what is recorded true, and an error is not recorded as done. -/
def Honest (E : Env) (s : State) (c : Call) : Prop :=
  Runs.Ends (step E) (Recorded E) s c ∧ ErrorKeeps E s c

/-- A device that the call routes to is reached: it is not the current one, the sound driver is
open, and it accepts what is sent. -/
def Reaches (E : Env) (s : State) (c : Call) : Prop :=
  ∀ r ∈ routed E s c, r.mute = false → r.device ≠ E.e .CURRENT ∧ 0 ≤ s.m7xsnddriverfd ∧
    c.a.SetDevice E.e r.device (fmMicMute s.hw)

instance (E : Env) (s : State) : DecidablePred (Reaches E s) := fun _ => by
  unfold Reaches; infer_instance

/-- Without the sound driver nothing is ever attempted. -/
def NoDriver (E : Env) (s : State) : Prop :=
  s.m7xsnddriverfd < 0 → lastAttempt E.e s.log = none

section Recorded

variable {E : Env} {c : Call} {s s' : State}

theorem fd_step (hs : step E s c = some s') : s'.m7xsnddriverfd = s.m7xsnddriverfd := by
  rcases step_route hs with ⟨-, hq⟩ | ⟨r, -, he⟩
  · rw [hq.fd, asked_fd]
  · exact he.fd

theorem noDriver_step (h : NoDriver E s) (hs : step E s c = some s') : NoDriver E s' := by
  intro hfd
  rw [fd_step hs] at hfd
  rcases step_route hs with ⟨-, hq⟩ | ⟨r, -, he⟩
  · rw [hq.lastAttempt]
    exact h hfd
  · rw [he.lastAttempt_of_fd_neg hfd]
    exact h hfd

/-- **What is recorded, step by step.** -/
theorem recorded_step (h : Recorded E s) (hn : NoDriver E s) (hs : step E s c = some s') :
    Recorded E s' ↔ Reaches E s c := by
  unfold Reaches
  rcases step_route hs with ⟨hr, hq⟩ | ⟨r, hr, he⟩
  · rw [hr]
    refine iff_of_true ?_ (by simp)
    intro hne
    rcases hq.cur with h1 | h1
    · rw [asked_hw] at h1
      rw [hq.lastAttempt, h1]
      exact h (h1 ▸ hne)
    · exact absurd h1 hne
  · rw [hr]
    cases hm : r.mute with
    | true =>
      obtain ⟨hd, hcur⟩ := routed_mute hr hm
      refine iff_of_true ?_ (by rintro r' ⟨⟩ hm'; simp [hm] at hm')
      have hc : s'.hw.mCurSndDevice = s.hw.mCurSndDevice := by simp [he.cur, hm, hcur]
      intro hne
      rw [he.lastAttempt_mute hd, hc]
      exact h (hc ▸ hne)
    | false =>
      have hc : s'.hw.mCurSndDevice = r.device := by simp [he.cur, hm]
      constructor
      · intro h'
        have hlast := h' (by rw [hc]; exact (he.ne hm).1)
        rw [hc] at hlast
        have hd := lastAttempt_ne_current hlast
        have hfd : 0 ≤ s.m7xsnddriverfd := by
          by_contra hneg
          rw [he.lastAttempt_of_fd_neg (by omega), hn (by omega)] at hlast
          cases hlast
        rw [he.lastAttempt_route hr hm hd hfd] at hlast
        rintro r' ⟨⟩ -
        exact ⟨hd, hfd, by simpa using hlast⟩
      · intro h'
        obtain ⟨hd, hfd, hok⟩ := h' r rfl hm
        intro _
        rw [he.lastAttempt_route hr hm hd hfd, hc]
        simp [hok]

theorem rpc_noError {e : Endpoints} {a : Answers} {device : Int} {ear mic : Bool} {fd : Int}
    (hfd : 0 ≤ fd) (h : a.SetDevice e device mic) :
    (do_route_audio_rpc e a device ear mic fd).1 = noError := by
  unfold do_route_audio_rpc
  split
  · rfl
  · rw [if_neg (by omega)]
    split
    next hm => simp [h.1, h.2 hm]
    next hm => simp [h.1]

theorem routeTo_noError {a : Answers} {device : Int}
    (h : device ≠ -1 ∧ device ≠ s.hw.mCurSndDevice →
      0 ≤ s.m7xsnddriverfd ∧ a.SetDevice E.e device (fmMicMute s.hw)) :
    (routeTo E a device s).1 = noError := by
  unfold routeTo
  split
  next hne => exact rpc_noError (h hne).1 (h hne).2
  next => rfl

/-- A call that reaches its device returns no error. -/
theorem errorKeeps_of_reaches (h : Reaches E s c) : ErrorKeeps E s c := by
  obtain ⟨op, a⟩ := c
  cases op with
  | doRouting input outputDevice =>
    intro r hr herr
    obtain ⟨outputDevices, ho, rfl⟩ := Option.map_eq_some_iff.1 hr
    unfold Reaches routed at h
    simp only [ho, Option.bind_some] at h
    exfalso
    apply herr
    unfold doRoutingOf
    unfold selected at h
    split
    · rfl
    next hin =>
      rw [if_neg hin] at h
      apply routeTo_noError
      intro hne
      have hr : routedTo (choose E a input outputDevices s).new_snd_device s.hw.mCurSndDevice =
          some ⟨(choose E a input outputDevices s).new_snd_device, false, s.hw.mCurSndDevice⟩ :=
        if_pos hne
      exact (h _ hr rfl).2
  | _ => trivial

/-- A call that enters `doAudioRouteOrMute` has an output to read where it needs one. -/
theorem exists_step_of_routed {r : Routed} (hr : routed E s c = some r) :
    ∃ s', step E s c = some s' := by
  obtain ⟨op, a⟩ := c
  cases op with
  | doRouting input outputDevice =>
    obtain ⟨outputDevices, ho, -⟩ := Option.bind_eq_some_iff.1 hr
    exact ⟨_, by simp only [step, doRouting, ho]; rfl⟩
  | setMicMute state => exact ⟨_, rfl⟩
  | inputStandby mDevices =>
    unfold routed at hr
    simp only at hr
    split at hr
    next hstay =>
      obtain ⟨outputDevices, ho, -⟩ := Option.bind_eq_some_iff.1 hr
      have ho' : s.clearCurDevice.outputDevices 0 = some outputDevices := ho
      exact ⟨_, by simp only [step, inputStandby, if_pos hstay, doRouting, ho']; rfl⟩
    next => cases hr
  | _ => cases hr

/-- **A failed route is recorded.** In every run, the record is true and errors are not recorded
after every call if and only if every device that is routed to is reached. -/
theorem honest_iff (E : Env) (fd : Int) (junk : Option ℕ) (calls : List Call) :
    Runs.Along (step E) (Honest E) (init fd junk) calls ↔
      Runs.Along (step E) (Reaches E) (init fd junk) calls := by
  refine Runs.along_congr (A := fun _ => True) (I := fun s => Recorded E s ∧ NoDriver E s) ?_ ?_ ?_
    fun _ _ => trivial
  · rintro s c - ⟨hrec, hn⟩
    constructor
    · rintro ⟨hends, hkeeps⟩
      cases hs : step E s c with
      | some s' => exact (recorded_step hrec hn hs).1 (hends s' hs)
      | none =>
        intro r hr
        obtain ⟨s', h'⟩ := exists_step_of_routed hr
        rw [hs] at h'
        cases h'
    · intro hreach
      exact ⟨fun s' hs => (recorded_step hrec hn hs).2 hreach, errorKeeps_of_reaches hreach⟩
  · rintro s c s' - ⟨hrec, hn⟩ h hs
    exact ⟨h.1 s' hs, noDriver_step hn hs⟩
  · exact ⟨fun h => absurd rfl h, fun _ => rfl⟩

end Recorded

/-- The driver refuses the route to the speaker; the speaker is recorded, and asked for again it is
not sent. -/
theorem failed_route_recorded : ¬Runs.Along (step .plain) (Honest .plain) (init 3 none)
    [⟨.doRouting none 0x2, { sets := false }⟩] := by
  intro h
  have hr : Recorded .plain _ := h.1.1 _ rfl
  exact absurd hr (by decide +kernel)

/-! ### The pins -/

/-- The pins are in FM mode exactly while the device sent last is one of digital FM. -/
def PinsFollow (E : Env) (s : State) : Prop :=
  lastPins s.log = some .fm ↔ ∃ p ∈ lastAttempt E.e s.log, E.e.FmDigital p.1

/-- The microphone is not muted while the current device is one of digital FM, and such a device is
not left once `mCurSndDevice` has forgotten it. -/
def StaysTogether (E : Env) (s : State) (c : Call) : Prop :=
  ∀ r ∈ routed E s c,
    if r.mute then ¬E.e.FmDigital r.cur
    else E.e.FmDigital r.device ∨ E.e.FmDigital r.cur ∨
      ∀ p ∈ lastAttempt E.e s.log, ¬E.e.FmDigital p.1

instance (E : Env) : DecidablePred (PinsFollow E) := fun _ => by unfold PinsFollow; infer_instance

instance (E : Env) (s : State) : DecidablePred (StaysTogether E s) := fun _ => by
  unfold StaysTogether; infer_instance

section Pins

variable {E : Env} {c : Call} {r : Routed} {s s' : State}

theorem Endpoints.Distinct.ne_current {e : Endpoints} (he : e.Distinct) {d : Int}
    (hd : e.FmDigital d) : d ≠ e .CURRENT := by
  rintro rfl
  rcases hd with h | h | h <;> cases he.injective h

theorem Endpoints.Distinct.nonneg {e : Endpoints} (he : e.Distinct) {d : Int}
    (hd : e.FmDigital d) : 0 ≤ d := by
  rcases hd with rfl | rfl | rfl <;> exact he.valid _

/-- A route is to an endpoint other than the current one. -/
theorem device_of_routed (hr : routed E s c = some r) (hm : r.mute = false) :
    ∃ n, n ≠ .CURRENT ∧ r.device = E.e n := by
  have hsel : ∀ {input outputDevices s₀ cur},
      routedTo (selected E c.a input outputDevices s₀) cur = some r →
        ∃ n, n ≠ .CURRENT ∧ r.device = E.e n := by
    intro input outputDevices s₀ cur h
    unfold routedTo at h
    split at h
    next hne =>
      obtain rfl := Option.some.inj h
      unfold selected at hne ⊢
      split
      next hin => exact absurd (if_pos hin) hne.1
      next hin =>
        rw [if_neg hin] at hne
        have hsel : E.e.Selects (choose E c.a input outputDevices s₀) :=
          selects_select (.inl rfl) input outputDevices
        rcases hsel with h | h
        · exact absurd h hne.1
        · exact h
    next => cases h
  unfold routed at hr
  split at hr
  · obtain ⟨_, -, h⟩ := Option.bind_eq_some_iff.1 hr
    exact hsel h
  · split at hr
    · obtain ⟨_, -, h⟩ := Option.bind_eq_some_iff.1 hr
      exact hsel h
    · cases hr
  · split at hr
    · obtain rfl := Option.some.inj hr
      cases hm
    · cases hr
  · cases hr

/-- With every driver open and willing, a device that is routed to is reached. -/
theorem reaches_of_succeed (hE : E.e.Distinct) (hfd : 0 ≤ s.m7xsnddriverfd) (ha : c.a.Succeed) :
    Reaches E s c := by
  intro r hr hm
  obtain ⟨n, hn, hd⟩ := device_of_routed hr hm
  refine ⟨?_, hfd, ha.sets, fun _ => ha.mutes⟩
  rw [hd]
  exact fun h => hn (hE.injective h)

/-- **Pins and route, step by step.** -/
theorem pinsFollow_step (hE : E.e.Distinct) (h : PinsFollow E s) (hrec : Recorded E s)
    (hreach : Reaches E s c) (hs : step E s c = some s') :
    PinsFollow E s' ↔ StaysTogether E s c := by
  unfold StaysTogether
  rcases step_route hs with ⟨hr, hq⟩ | ⟨r, hr, he⟩
  · rw [hr]
    unfold PinsFollow
    rw [hq.lastPins, hq.lastAttempt]
    exact iff_of_true h (by simp)
  · simp only [hr, Option.mem_some_iff, forall_eq']
    cases hm : r.mute with
    | true =>
      obtain ⟨hd, hcur⟩ := routed_mute hr hm
      have hno : ¬E.e.FmDigital r.device := fun h => hE.ne_current h hd
      unfold PinsFollow
      rw [he.lastAttempt_mute hd]
      simp only [if_true]
      by_cases hfm : E.e.FmDigital r.cur
      · -- the pins leave FM mode, the device stays
        have hne : r.device ≠ r.cur := fun e => hno (e ▸ hfm)
        have hlast := hrec (by have := hE.nonneg hfm; rw [← hcur]; omega)
        rw [he.lastPins hne, if_neg hno, if_pos hfm, hlast, ← hcur]
        simp [hfm]
      · refine iff_of_true ?_ hfm
        by_cases hne : r.device = r.cur
        · obtain ⟨log, ear, hg, hlog⟩ := he.log
          rw [hlog, switchEvents_same hne, List.nil_append, lastPins_rpc, lastPins_of_grows hg,
            lastPins_asked]
          exact h
        · rw [he.lastPins hne, if_neg hno, if_neg hfm]
          exact h
    | false =>
      obtain ⟨hd, hfd, -⟩ := hreach r hr hm
      unfold PinsFollow
      rw [he.lastAttempt_route hr hm hd hfd, he.lastPins (he.ne hm).2]
      simp only [Option.mem_some_iff, exists_eq_left', Bool.false_eq_true, if_false]
      by_cases h1 : E.e.FmDigital r.device
      · simp [h1]
      by_cases h2 : E.e.FmDigital r.cur
      · simp [h1, h2]
      simp only [h1, h2, if_false, iff_false, false_or]
      rw [not_congr h]
      push Not
      rfl

/-- **Pins and route.** With every driver willing, the pins follow the route after every call of a
run if and only if every call of it keeps them together. -/
theorem pinsFollow_iff (E : Env) (hE : E.e.Distinct) (fd : Int) (hfd : 0 ≤ fd) (junk : Option ℕ)
    (calls : List Call) (hcalls : ∀ c ∈ calls, c.a.Succeed) :
    Runs.Along (step E) (Runs.Ends (step E) (PinsFollow E)) (init fd junk) calls ↔
      Runs.Along (step E) (StaysTogether E) (init fd junk) calls := by
  refine Runs.along_congr (A := fun c => c.a.Succeed)
    (I := fun s => PinsFollow E s ∧ Recorded E s ∧ NoDriver E s ∧ 0 ≤ s.m7xsnddriverfd) ?_ ?_ ?_ hcalls
  · rintro s c ha ⟨hp, hrec, -, hfd⟩
    have hreach := reaches_of_succeed hE hfd ha
    constructor
    · intro hends r hr
      obtain ⟨s', hs⟩ := exists_step_of_routed hr
      exact (pinsFollow_step hE hp hrec hreach hs).1 (hends s' hs) r hr
    · intro h s' hs
      exact (pinsFollow_step hE hp hrec hreach hs).2 h
  · rintro s c s' ha ⟨-, hrec, hn, hfd⟩ hends hs
    have hreach := reaches_of_succeed hE hfd ha
    refine ⟨hends s' hs, (recorded_step hrec hn hs).2 hreach, noDriver_step hn hs, ?_⟩
    rw [fd_step hs]
    exact hfd
  · exact ⟨⟨nofun, nofun⟩, fun h => absurd rfl h, fun _ => rfl, hfd⟩

/-- The speaker, FM over the speaker, and the speaker again. -/
theorem pinsFollow_speaker :
    Runs.Along (step .plain) (Runs.Ends (step .plain) (PinsFollow .plain)) (init 3 none)
      [⟨.doRouting none 0x2, {}⟩, ⟨.setMicMute false, {}⟩, ⟨.enableFM, {}⟩,
        ⟨.doRouting none 0x8002, {}⟩, ⟨.disableFM, {}⟩, ⟨.doRouting none 0x2, {}⟩] := by
  refine (pinsFollow_iff .plain distinct_plain 3 (by decide) none _ ?_).2 (by decide +kernel)
  simp [succeed_default]

/-- Digital FM plays over the speaker, and the microphone is unmuted: the pins leave FM mode. -/
theorem pins_leave_fm : ¬Runs.Along (step .plain) (Runs.Ends (step .plain) (PinsFollow .plain))
    (init 3 none) [⟨.doRouting none 0x8002, {}⟩, ⟨.setMicMute false, {}⟩] := by
  decide +kernel

end Pins

/-! ### The microphone -/

/-- `getMicMute` is what was asked for last. -/
def MicRespected (s : State) : Prop := s.getMicMute = lastRequest s.log

/-- While FM is on, `doAudioRouteOrMute` is entered only if the microphone is to be unmuted. -/
def KeepsMic (E : Env) (s : State) (c : Call) : Prop :=
  s.hw.isFmon = true → routed E s c ≠ none → wanted (lastRequest s.log) c = false

instance : DecidablePred MicRespected := fun _ => by unfold MicRespected; infer_instance

instance (E : Env) (s : State) : DecidablePred (KeepsMic E s) := fun _ => by
  unfold KeepsMic; infer_instance

section Mic

variable {E : Env} {c : Call} {s s' : State}

/-- A call that leaves the route alone is no request, or one for what there is. -/
theorem wanted_of_quiet (hr : routed E s c = none) : wanted s.hw.mMicMute c = s.hw.mMicMute := by
  unfold wanted
  split
  next state e =>
    unfold routed at hr
    simp only [e] at hr
    split at hr
    · cases hr
    next h => exact (not_not.1 h).symm
  next => rfl

/-- **The microphone, step by step.** -/
theorem micRespected_step (h : MicRespected s) (hs : step E s c = some s') :
    MicRespected s' ↔ KeepsMic E s c := by
  unfold MicRespected KeepsMic State.getMicMute at *
  rw [lastRequest_step hs, ← h]
  rcases step_route hs with ⟨hr, hq⟩ | ⟨r, hr, he⟩
  · rw [hq.mic, asked_hw, wanted_of_quiet hr]
    simp [hr]
  · rw [he.mic]
    cases hon : s.hw.isFmon with
    | true =>
      rw [if_pos rfl, hr]
      exact ⟨fun h _ _ => h.symm, fun h => (h rfl (Option.some_ne_none r)).symm⟩
    | false => simp

/-- **FM and the microphone.** In every run, the microphone is as it was asked to be after every
call if and only if FM is never on when a muted one is routed. -/
theorem micRespected_iff (E : Env) (fd : Int) (junk : Option ℕ) (calls : List Call) :
    Runs.Along (step E) (Runs.Ends (step E) MicRespected) (init fd junk) calls ↔
      Runs.Along (step E) (KeepsMic E) (init fd junk) calls := by
  refine Runs.along_congr (A := fun _ => True) (I := MicRespected) ?_ ?_ rfl fun _ _ => trivial
  · intro s c _ h
    constructor
    · intro hends hon hr
      obtain ⟨r, hr'⟩ := Option.ne_none_iff_exists'.1 hr
      obtain ⟨s', hs⟩ := exists_step_of_routed hr'
      exact (micRespected_step h hs).1 (hends s' hs) hon hr
    · intro hk s' hs
      exact (micRespected_step h hs).2 hk
  · intro s c s' _ _ hends hs
    exact hends s' hs

/-- FM is turned on, played over the speaker and turned off again: the microphone stays unmuted. -/
theorem fm_leaves_unmuted : ∃ s,
    Runs.run (step .plain) (init 3 none)
      [⟨.enableFM, {}⟩, ⟨.doRouting none 0x8002, {}⟩, ⟨.disableFM, {}⟩] = some s ∧
      s.hw.isFmon = false ∧ ¬MicRespected s :=
  Runs.exists_run (by decide +kernel)

end Mic

end Msm7x27a.Route
