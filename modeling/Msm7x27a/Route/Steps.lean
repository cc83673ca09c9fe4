import Msm7x27a.Route.Routing

/-!
# What a call does to the route

A call either leaves the route alone (`Quiet`) or enters `doAudioRouteOrMute` with a device
(`routed`), once; `step_route` says so of every call, with everything that the entry changes.  The
functions here are the same as those of `Audio.Hardware`, with the driver in view.
-/

namespace Msm7x27a.Route

open Msm7x27a.Audio

/-! ### Reading the log -/

/-- The last `SND_SET_DEVICE` for another device than the current one, and whether it succeeded. -/
def lastAttempt (e : Endpoints) : List Event → Option (Int × Bool)
  | [] => none
  | .setDevice device _ _ ok :: log =>
    if device = e .CURRENT then lastAttempt e log else some (device, ok)
  | _ :: log => lastAttempt e log

/-- The last mode of the pins. -/
def lastPins : List Event → Option PinMode
  | [] => none
  | .switchMode mode :: _ => some mode
  | _ :: log => lastPins log

/-- The last request to mute the microphone or not; it is muted at first. -/
def lastRequest : List Event → Bool
  | [] => true
  | .micRequest state :: _ => state
  | _ :: log => lastRequest log

/-- The event concerns neither the sound driver nor the pins, nor is it a request. -/
def Event.Aside : Event → Prop
  | .setDevice .. | .switchMode _ | .micRequest _ => False
  | _ => True

section Read

variable {e : Endpoints} {log log' : List Event}

theorem lastAttempt_cons {ev : Event} (h : ev.Aside) : lastAttempt e (ev :: log) = lastAttempt e log := by
  cases ev with
  | setDevice => exact absurd h id
  | _ => rfl

theorem lastPins_cons {ev : Event} (h : ev.Aside) : lastPins (ev :: log) = lastPins log := by
  cases ev with
  | switchMode => exact absurd h id
  | _ => rfl

theorem lastRequest_cons {ev : Event} (h : ev.Aside) : lastRequest (ev :: log) = lastRequest log := by
  cases ev with
  | micRequest => exact absurd h id
  | _ => rfl

theorem lastAttempt_of_grows (h : Log.Grows Event.Aside log log') :
    lastAttempt e log' = lastAttempt e log :=
  h.read_eq fun _ hev _ => lastAttempt_cons hev

theorem lastPins_of_grows (h : Log.Grows Event.Aside log log') : lastPins log' = lastPins log :=
  h.read_eq fun _ hev _ => lastPins_cons hev

theorem lastRequest_of_grows (h : Log.Grows Event.Aside log log') :
    lastRequest log' = lastRequest log :=
  h.read_eq fun _ hev _ => lastRequest_cons hev

/-- The current device is never what was attempted last. -/
theorem lastAttempt_ne_current {d : Int} {ok : Bool} (h : lastAttempt e log = some (d, ok)) :
    d ≠ e .CURRENT := by
  induction log with
  | nil => cases h
  | cons ev log ih =>
    cases ev with
    | setDevice device ear mic ok' =>
      simp only [lastAttempt] at h
      split at h
      · exact ih h
      next hne =>
        obtain ⟨rfl, -⟩ := Prod.mk.inj (Option.some.inj h)
        exact hne
    | _ => exact ih h

theorem lastAttempt_switchEvents (cur device : Int) :
    lastAttempt e (switchEvents e cur device ++ log) = lastAttempt e log := by
  unfold switchEvents
  split
  · rfl
  · split <;> rfl

/-- Where the pins stand after a route from `cur` to `device`. -/
theorem lastPins_switchEvents {cur device : Int} (h : device ≠ cur) :
    lastPins (switchEvents e cur device ++ log) =
      if e.FmDigital device then some .fm else if e.FmDigital cur then some .btsco
      else lastPins log := by
  unfold switchEvents
  by_cases h1 : e.FmDigital device
  · simp [h1, h, lastPins]
  · by_cases h2 : e.FmDigital cur
    · simp [h1, h2, h, lastPins]
    · simp [h1, h2]

theorem switchEvents_same {cur device : Int} (h : device = cur) : switchEvents e cur device = [] := by
  unfold switchEvents
  rw [if_neg (fun h' => h'.2 h), if_neg (fun h' => h'.2 h)]

theorem lastPins_rpc (a : Answers) (device : Int) (ear mic : Bool) (fd : Int) :
    lastPins ((do_route_audio_rpc e a device ear mic fd).2 ++ log) = lastPins log := by
  unfold do_route_audio_rpc
  split_ifs <;> rfl

theorem lastRequest_switchEvents (cur device : Int) :
    lastRequest (switchEvents e cur device ++ log) = lastRequest log := by
  unfold switchEvents
  split
  · rfl
  · split <;> rfl

theorem lastRequest_rpc (a : Answers) (device : Int) (ear mic : Bool) (fd : Int) :
    lastRequest ((do_route_audio_rpc e a device ear mic fd).2 ++ log) = lastRequest log := by
  unfold do_route_audio_rpc
  split_ifs <;> rfl

/-- Every `SND_SET_DEVICE` that a route to the device makes succeeds. -/
def Answers.SetDevice (a : Answers) (e : Endpoints) (device : Int) (mic : Bool) : Prop :=
  a.sets = true ∧ (MutesFirst e device mic → a.mutes = true)

instance (a : Answers) (e : Endpoints) (device : Int) (mic : Bool) :
    Decidable (a.SetDevice e device mic) := by unfold Answers.SetDevice; infer_instance

theorem lastAttempt_rpc_current (a : Answers) (ear mic : Bool) (fd : Int) :
    lastAttempt e ((do_route_audio_rpc e a (e .CURRENT) ear mic fd).2 ++ log) = lastAttempt e log := by
  have hno : ¬MutesFirst e (e .CURRENT) mic := fun h => h.1 rfl
  unfold do_route_audio_rpc
  rw [if_neg hno]
  split_ifs <;> simp [lastAttempt]

/-- What is attempted last when a route is sent to the driver. -/
theorem lastAttempt_rpc {a : Answers} {device : Int} {ear mic : Bool} {fd : Int} (hd : device ≠ -1)
    (hc : device ≠ e .CURRENT) (hfd : 0 ≤ fd) :
    lastAttempt e ((do_route_audio_rpc e a device ear mic fd).2 ++ log) =
      some (device, decide (a.SetDevice e device mic)) := by
  unfold do_route_audio_rpc Answers.SetDevice
  rw [if_neg hd, if_neg (by omega)]
  split
  next hm =>
    split
    next h => simp [lastAttempt, hc, h, hm]
    next h =>
      have hmutes : a.mutes = true := by simpa using h
      simp [lastAttempt, hc, hmutes]
  next hm => simp [lastAttempt, hc, hm]

/-- Without the sound driver nothing is sent. -/
theorem rpc_of_fd_neg {a : Answers} {device : Int} {ear mic : Bool} {fd : Int} (hfd : fd < 0) :
    (do_route_audio_rpc e a device ear mic fd).2 = [] := by
  unfold do_route_audio_rpc
  split
  · rfl
  · rfl

end Read

/-! ### Entering `doAudioRouteOrMute` -/

/-- How a call enters `doAudioRouteOrMute`: with a device, for muting or not, while
`mCurSndDevice` is `cur`. -/
structure Routed where
  device : Int
  mute : Bool
  cur : Int
  deriving DecidableEq, Repr

/-- The choice of `doRouting`: -1 for a recording of a voice call. -/
def selected (E : Env) (a : Answers) (input : Option Devices) (outputDevices : Devices) (s : State) :
    Int :=
  if input = some E.h.DEVICE_IN_VOICE_CALL then -1
  else (choose E a input outputDevices s).new_snd_device

/-- `doRouting` goes on to another device. -/
def routedTo (device cur : Int) : Option Routed :=
  if device ≠ -1 ∧ device ≠ cur then some ⟨device, false, cur⟩ else none

/-- How the call enters, if it does. -/
def routed (E : Env) (s : State) (c : Call) : Option Routed :=
  match c.op with
  | .doRouting input outputDevice => (s.outputDevices outputDevice).bind fun outputDevices =>
      routedTo (selected E c.a input outputDevices s) s.hw.mCurSndDevice
  | .inputStandby mDevices =>
    if c.a.isFMAnalog = false ∧ s.hw.isFmon = false then
      (s.outputDevices 0).bind fun outputDevices =>
        routedTo (selected E c.a (some mDevices) outputDevices s) (-1)
    else none
  | .setMicMute state =>
    if s.hw.mMicMute ≠ state then some ⟨E.e .CURRENT, true, s.hw.mCurSndDevice⟩ else none
  | _ => none

/-- What the microphone should be after the call, from what it was asked to be before. -/
def wanted (before : Bool) (c : Call) : Bool :=
  match c.op with
  | .setMicMute state => state
  | _ => before

/-- The state with the request recorded, if the call is one. -/
def State.asked (s : State) (c : Call) : State :=
  match c.op with
  | .setMicMute state => s.record (.micRequest state)
  | _ => s

section Asked

variable {c : Call} (s : State)

/-- The call is no request. -/
def Call.NoRequest (c : Call) : Prop := ∀ state, c.op ≠ .setMicMute state

theorem wanted_of_noRequest (h : c.NoRequest) (before : Bool) : wanted before c = before := by
  unfold wanted
  split
  next state e => exact absurd e (h state)
  next => rfl

theorem asked_of_noRequest (h : c.NoRequest) : s.asked c = s := by
  unfold State.asked
  split
  next state e => exact absurd e (h state)
  next => rfl

theorem lastRequest_asked : lastRequest (s.asked c).log = wanted (lastRequest s.log) c := by
  unfold State.asked wanted
  split <;> rfl

theorem lastAttempt_asked (e : Endpoints) : lastAttempt e (s.asked c).log = lastAttempt e s.log := by
  unfold State.asked
  split <;> rfl

theorem lastPins_asked : lastPins (s.asked c).log = lastPins s.log := by
  unfold State.asked
  split <;> rfl

end Asked

/-- The call leaves the route alone; at most it forgets the current device. -/
structure Quiet (s s' : State) : Prop where
  cur : s'.hw.mCurSndDevice = s.hw.mCurSndDevice ∨ s'.hw.mCurSndDevice = -1
  mic : s'.hw.mMicMute = s.hw.mMicMute
  fd : s'.m7xsnddriverfd = s.m7xsnddriverfd
  log : Log.Grows Event.Aside s.log s'.log

/-- The call enters `doAudioRouteOrMute` as `r` says. -/
structure Enters (E : Env) (c : Call) (r : Routed) (s s' : State) : Prop where
  was : r.cur = s.hw.mCurSndDevice ∨ r.cur = -1
  ne : r.mute = false → r.device ≠ -1 ∧ r.device ≠ r.cur
  cur : s'.hw.mCurSndDevice = if r.mute then r.cur else r.device
  mic : s'.hw.mMicMute = if s.hw.isFmon then false else wanted s.hw.mMicMute c
  fd : s'.m7xsnddriverfd = s.m7xsnddriverfd
  /-- What was sent, with the microphone as it is after the call. -/
  log : ∃ log ear, Log.Grows Event.Aside (s.asked c).log log ∧
    s'.log = switchEvents E.e r.cur r.device ++
      ((do_route_audio_rpc E.e c.a r.device ear s'.hw.mMicMute s.m7xsnddriverfd).2 ++ log)

section Functions

variable {E : Env} {a : Answers} {input : Option Devices} {outputDevices : Devices} {s s' : State}

/-- The model of `doRouting` in `Audio.Hardware`. -/
theorem routeTo_hw (device : Int) : (routeTo E a device s).2.hw = Audio.doRouting device s.hw := by
  unfold routeTo Audio.doRouting
  split <;> rfl

theorem routeTo_fd (device : Int) : (routeTo E a device s).2.m7xsnddriverfd = s.m7xsnddriverfd := by
  unfold routeTo
  split <;> rfl

theorem routeTo_log (device : Int) : (routeTo E a device s).2.log =
    match routedTo device s.hw.mCurSndDevice with
    | none => s.log
    | some r => switchEvents E.e r.cur r.device ++
        ((do_route_audio_rpc E.e a r.device (earMute s.hw) (fmMicMute s.hw) s.m7xsnddriverfd).2 ++
          s.log) := by
  unfold routeTo routedTo
  split <;> rfl

theorem doRoutingOf_hw : (doRoutingOf E a input outputDevices s).2.hw =
    Audio.doRouting (selected E a input outputDevices s) s.hw := by
  unfold doRoutingOf selected
  split
  · simp [Audio.doRouting]
  · exact routeTo_hw _

theorem doRoutingOf_fd :
    (doRoutingOf E a input outputDevices s).2.m7xsnddriverfd = s.m7xsnddriverfd := by
  unfold doRoutingOf
  split
  · rfl
  · exact routeTo_fd _

theorem doRoutingOf_log : (doRoutingOf E a input outputDevices s).2.log =
    match routedTo (selected E a input outputDevices s) s.hw.mCurSndDevice with
    | none => s.log
    | some r => switchEvents E.e r.cur r.device ++
        ((do_route_audio_rpc E.e a r.device (earMute s.hw) (fmMicMute s.hw) s.m7xsnddriverfd).2 ++
          s.log) := by
  unfold doRoutingOf selected
  split
  · simp [routedTo]
  · exact routeTo_log _

theorem doRoutingOf_quiet
    (h : routedTo (selected E a input outputDevices s) s.hw.mCurSndDevice = none) :
    Quiet s (doRoutingOf E a input outputDevices s).2 := by
  have hhw : (doRoutingOf E a input outputDevices s).2.hw = s.hw := by
    rw [doRoutingOf_hw]
    unfold routedTo at h
    unfold Audio.doRouting
    split at h
    · cases h
    next hn => rw [if_neg hn]
  refine ⟨.inl (by rw [hhw]), by rw [hhw], doRoutingOf_fd, ?_⟩
  rw [doRoutingOf_log, h]
  exact .refl _

/-- `doRouting`, in a state whose route is that of `s` or forgotten. -/
theorem doRoutingOf_enters {c : Call} {r : Routed} {s₀ : State}
    (h : routedTo (selected E c.a input outputDevices s) s.hw.mCurSndDevice = some r)
    (hc : c.NoRequest) (hq : Quiet s₀ s) (hfm : s.hw.mFmFd = s₀.hw.mFmFd) :
    Enters E c r s₀ (doRoutingOf E c.a input outputDevices s).2 := by
  have hr := h
  unfold routedTo at hr
  split at hr
  next hn =>
    obtain rfl := Option.some.inj hr
    have hhw : (doRoutingOf E c.a input outputDevices s).2.hw =
        { s.hw with
          mMicMute := fmMicMute s.hw
          mCurSndDevice := selected E c.a input outputDevices s } := by
      rw [doRoutingOf_hw, Audio.doRouting, if_pos hn]
      rfl
    have hmic : s₀.hw.mMicMute = s.hw.mMicMute := hq.mic.symm
    refine ⟨hq.cur, fun _ => hn, by rw [hhw]; rfl, ?_, doRoutingOf_fd.trans hq.fd, s.log,
      earMute s.hw, ?_, ?_⟩
    · rw [hhw, hmic, wanted_of_noRequest hc]
      simp [fmMicMute, AudioHardware.isFmon, hfm]
    · rw [asked_of_noRequest s₀ hc]
      exact hq.log
    · rw [doRoutingOf_log, h, hhw, hq.fd]
  next => cases hr

/-- The driver's answer to a mute of the current device, as `Audio.Hardware` asks for it. -/
def Env.platform (E : Env) (a : Answers) (m7xsnddriverfd : Int) : Platform :=
  { E.P with routeCurrent := fun _ mic_mute =>
      (do_route_audio_rpc E.e a (E.e .CURRENT) true mic_mute m7xsnddriverfd).1 }

/-- The muting of the outgoing voice does not change the answer. -/
theorem rpc_fst (e : Endpoints) (a : Answers) (device : Int) (ear ear' mic : Bool) (fd : Int) :
    (do_route_audio_rpc e a device ear mic fd).1 = (do_route_audio_rpc e a device ear' mic fd).1 := by
  unfold do_route_audio_rpc
  split_ifs <;> rfl

/-- The model of `setMicMute` in `Audio.Hardware`, with the answers of the driver. -/
theorem setMicMute_eq (E : Env) (a : Answers) (state : Bool) (s : State) :
    ((setMicMute E.e a state s).1, (setMicMute E.e a state s).2.hw) =
      Audio.setMicMute (E.platform a s.m7xsnddriverfd) state s.hw := by
  unfold setMicMute Audio.setMicMute
  by_cases h : s.hw.mMicMute = state
  · simp [State.record, h]
  · have hfm : fmMicMute { s.hw with mMicMute := state } = (if s.hw.isFmon then false else state) := rfl
    simp only [State.record, ne_eq, h, not_false_eq_true, if_true]
    unfold doAudioRouteOrMute muteCurrent
    dsimp only
    rw [hfm]
    by_cases hon : s.hw.isFmon
    · have hon' : AudioHardware.isFmon { s.hw with mMicMute := state } = true := hon
      simp only [hon, hon', if_true]
      exact Prod.ext (rpc_fst ..) rfl
    · have hon' : AudioHardware.isFmon { s.hw with mMicMute := state } ≠ true := hon
      simp only [hon, hon']
      exact Prod.ext (rpc_fst ..) rfl

/-- `setupDeviceforVoipCall`, with `setMode` and `setMicMute` as here. -/
def setupDeviceforVoipCall (E : Env) (a : Answers) (value : Bool) (s : State) : Status × State :=
  if s.hw.mMode = .inCall ∧ value = false then (noError, s)
  else
    let r := setMode E.P (if value then .inCommunication else .normal) s
    if r.1 = badValue then (unknownError, r.2)
    else
      let r' := setMicMute E.e a (!value) r.2
      if r'.1 ≠ noError then (unknownError, r'.2) else (noError, r'.2)

/-- Setting up the device for a call is no more than calls of `setMode` and `setMicMute`. -/
theorem setup_run (E : Env) (a : Answers) (value : Bool) (s : State) :
    ∃ calls : List Call, Runs.run (step E) s calls = some (setupDeviceforVoipCall E a value s).2 ∧
      ∀ c ∈ calls, c.a = a ∧ (c.op = .setMicMute (!value) ∨ ∃ mode, c.op = .setMode mode) := by
  unfold setupDeviceforVoipCall
  split
  · exact ⟨[], rfl, by simp⟩
  · dsimp only
    generalize (if value = true then AudioMode.inCommunication else AudioMode.normal) = mode
    split
    · exact ⟨[⟨.setMode mode, a⟩], rfl, by simp⟩
    · refine ⟨[⟨.setMode mode, a⟩, ⟨.setMicMute (!value), a⟩], ?_, by simp⟩
      split <;> rfl

end Functions

/-! ### Every call -/

section Step

variable {E : Env} {c : Call} {s s' : State}

theorem Quiet.refl (s : State) : Quiet s s := ⟨.inl rfl, rfl, rfl, .refl _⟩

/-- A change of other members. -/
theorem Quiet.of_same (hhw : s'.hw = s.hw) (hfd : s'.m7xsnddriverfd = s.m7xsnddriverfd)
    (hlog : s'.log = s.log) : Quiet s s' :=
  ⟨.inl (by rw [hhw]), by rw [hhw], hfd, hlog ▸ .refl _⟩

/-- A change of other members, with an event that is put aside. -/
theorem Quiet.of_event {ev : Event} (hhw : s'.hw = s.hw)
    (hfd : s'.m7xsnddriverfd = s.m7xsnddriverfd) (hlog : s'.log = ev :: s.log) (hev : ev.Aside) :
    Quiet s s' :=
  ⟨.inl (by rw [hhw]), by rw [hhw], hfd, hlog ▸ .cons hev _⟩

theorem quiet_setMode (P : Platform) (mode : AudioMode) (s : State) : Quiet s (setMode P mode s).2 := by
  unfold setMode Audio.setMode
  dsimp only
  split
  · exact ⟨.inr rfl, rfl, rfl, .refl _⟩
  · exact ⟨.inl rfl, rfl, rfl, .refl _⟩

theorem quiet_clearCurDevice (s : State) : Quiet s s.clearCurDevice := ⟨.inr rfl, rfl, rfl, .refl _⟩

theorem quiet_enableFM (a : Answers) (s : State) : Quiet s (enableFM a s) := by
  unfold enableFM
  split_ifs <;> exact ⟨.inl rfl, rfl, rfl, .refl _⟩

theorem quiet_disableFM (s : State) : Quiet s (disableFM s) := by
  unfold disableFM
  split <;> exact ⟨.inl rfl, rfl, rfl, .refl _⟩

theorem quiet_openPcm (out : ℕ) (devices : Devices) (accepted : Bool) (s : State) :
    Quiet s (openPcm out devices accepted s) := by
  unfold openPcm
  split <;> exact .of_same rfl rfl rfl

theorem quiet_countBuffer (E : Env) (a : Answers) (p : ℕ) (o : AudioStreamOutMSM72xx) (s : State) :
    Quiet s (countBuffer E a p o s) := by
  unfold countBuffer
  dsimp only
  split
  · exact .of_event rfl rfl rfl trivial
  · exact .of_same rfl rfl rfl

theorem quiet_writePcm {a : Answers} (h : writePcm E a s = some s') : Quiet s s' := by
  obtain ⟨⟨p, o⟩, -, rfl⟩ := Option.map_eq_some_iff.1 h
  dsimp only
  generalize (if o.mStandby = true then o.openDriver a else (o, true)) = r
  split
  · exact .of_same rfl rfl rfl
  · exact quiet_countBuffer ..

theorem quiet_standbyPcm {a : Answers} (h : standbyPcm E a s = some s') : Quiet s s' := by
  obtain ⟨⟨p, o⟩, -, rfl⟩ := Option.map_eq_some_iff.1 h
  dsimp only
  split <;> exact .of_event rfl rfl rfl trivial

theorem quiet_openLpa (out : ℕ) (format : AudioFormat) (channels samplingRate : ℕ)
    (o : Lpa.AudioSessionOutLPA.OpenOutcome) (s : State) :
    Quiet s (openLpa out format channels samplingRate o s) := by
  unfold openLpa
  split <;> exact .of_event rfl rfl rfl trivial

theorem quiet_closeOutputStream (out : ℕ) (s : State) : Quiet s (closeOutputStream out s) := by
  unfold closeOutputStream
  split
  · exact .of_event rfl rfl rfl trivial
  · split
    · exact .of_event rfl rfl rfl trivial
    · exact .refl s

theorem setMicMute_route (a : Answers) (state : Bool) (s : State) :
    (routed E s ⟨.setMicMute state, a⟩ = none ∧
        Quiet (s.asked ⟨.setMicMute state, a⟩) (setMicMute E.e a state s).2) ∨
      ∃ r, routed E s ⟨.setMicMute state, a⟩ = some r ∧
        Enters E ⟨.setMicMute state, a⟩ r s (setMicMute E.e a state s).2 := by
  unfold setMicMute routed
  dsimp only [State.record]
  by_cases h : s.hw.mMicMute = state
  · left
    rw [if_neg (not_not.2 h), if_neg (not_not.2 h)]
    exact ⟨rfl, .refl _⟩
  · right
    rw [if_pos h, if_pos h]
    exact ⟨_, rfl, .inl rfl, by simp, rfl, rfl, rfl, _, _, .refl _, rfl⟩

/-- The standby of an input forgets the A2DP route of FM. -/
theorem Quiet.standbyEnd (h : Quiet s s') :
    Quiet s (if s'.FmA2dpStatus ≠ 0 then { s' with FmA2dpStatus := 0 } else s') := by
  split
  · exact ⟨h.cur, h.mic, h.fd, h.log⟩
  · exact h

theorem Enters.standbyEnd {r : Routed} (h : Enters E c r s s') :
    Enters E c r s (if s'.FmA2dpStatus ≠ 0 then { s' with FmA2dpStatus := 0 } else s') := by
  split
  · exact ⟨h.was, h.ne, h.cur, h.mic, h.fd, h.log⟩
  · exact h

theorem doRouting_route {input : Option Devices} {outputDevice : Devices} {s₀ : State}
    (hc : c.NoRequest) (hq : Quiet s₀ s) (hfm : s.hw.mFmFd = s₀.hw.mFmFd)
    (h : (doRouting E c.a input outputDevice s).map Prod.snd = some s') :
    ((s.outputDevices outputDevice).bind (fun outputDevices =>
        routedTo (selected E c.a input outputDevices s) s.hw.mCurSndDevice) = none ∧ Quiet s₀ s') ∨
      ∃ r, (s.outputDevices outputDevice).bind (fun outputDevices =>
        routedTo (selected E c.a input outputDevices s) s.hw.mCurSndDevice) = some r ∧
          Enters E c r s₀ s' := by
  unfold doRouting at h
  rw [Option.map_map] at h
  obtain ⟨outputDevices, ho, rfl⟩ := Option.map_eq_some_iff.1 h
  simp only [ho, Option.bind_some, Function.comp_apply]
  cases hr : routedTo (selected E c.a input outputDevices s) s.hw.mCurSndDevice with
  | none =>
    have hq' := doRoutingOf_quiet hr
    refine .inl ⟨rfl, ?_, hq'.mic.trans hq.mic, hq'.fd.trans hq.fd, hq.log.trans hq'.log⟩
    rcases hq'.cur with h1 | h1
    · rw [h1]
      exact hq.cur
    · exact .inr h1
  | some r => exact .inr ⟨r, rfl, doRoutingOf_enters hr hc hq hfm⟩

/-- **What a call does to the route.** -/
theorem step_route (hs : step E s c = some s') :
    (routed E s c = none ∧ Quiet (s.asked c) s') ∨
      ∃ r, routed E s c = some r ∧ Enters E c r s s' := by
  obtain ⟨op, a⟩ := c
  cases op with
  | doRouting input outputDevice => exact doRouting_route (fun _ => nofun) (.refl s) rfl hs
  | setMode mode =>
    obtain rfl := Option.some.inj hs
    exact .inl ⟨rfl, quiet_setMode E.P mode s⟩
  | setMicMute state =>
    obtain rfl := Option.some.inj hs
    exact setMicMute_route a state s
  | clearCurDevice =>
    obtain rfl := Option.some.inj hs
    exact .inl ⟨rfl, quiet_clearCurDevice s⟩
  | setTtyMode mode =>
    obtain rfl := Option.some.inj hs
    exact .inl ⟨rfl, .of_same rfl rfl rfl⟩
  | setDualMic enabled =>
    obtain rfl := Option.some.inj hs
    exact .inl ⟨rfl, .of_same rfl rfl rfl⟩
  | enableFM =>
    obtain rfl := Option.some.inj hs
    exact .inl ⟨rfl, quiet_enableFM a s⟩
  | disableFM =>
    obtain rfl := Option.some.inj hs
    exact .inl ⟨rfl, quiet_disableFM s⟩
  | inputStandby mDevices =>
    simp only [step, inputStandby] at hs
    obtain ⟨s₁, h1, rfl⟩ := Option.map_eq_some_iff.1 hs
    unfold routed
    dsimp only
    by_cases hstay : a.isFMAnalog = false ∧ s.hw.isFmon = false
    · rw [if_pos hstay] at h1 ⊢
      rcases doRouting_route (c := ⟨.inputStandby mDevices, a⟩) (fun _ => nofun)
        (quiet_clearCurDevice s) rfl h1 with ⟨hn, hq⟩ | ⟨r, hr, he⟩
      · exact .inl ⟨hn, hq.standbyEnd⟩
      · exact .inr ⟨r, hr, he.standbyEnd⟩
    · rw [if_neg hstay] at h1 ⊢
      obtain rfl := Option.some.inj h1
      exact .inl ⟨rfl, (Quiet.refl s).standbyEnd⟩
  | openPcm out devices accepted =>
    simp only [step] at hs
    split at hs
    · obtain rfl := Option.some.inj hs
      exact .inl ⟨rfl, quiet_openPcm ..⟩
    · cases hs
  | setPcmDevices devices =>
    obtain ⟨⟨p, o⟩, -, rfl⟩ := Option.map_eq_some_iff.1 hs
    exact .inl ⟨rfl, .of_same rfl rfl rfl⟩
  | writePcm => exact .inl ⟨rfl, quiet_writePcm hs⟩
  | standbyPcm => exact .inl ⟨rfl, quiet_standbyPcm hs⟩
  | openLpa out format channels samplingRate o =>
    simp only [step] at hs
    split at hs
    · obtain rfl := Option.some.inj hs
      exact .inl ⟨rfl, quiet_openLpa ..⟩
    · cases hs
  | closeOutput out =>
    obtain rfl := Option.some.inj hs
    exact .inl ⟨rfl, quiet_closeOutputStream ..⟩

end Step

end Msm7x27a.Route
