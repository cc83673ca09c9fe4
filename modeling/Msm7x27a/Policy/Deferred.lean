import Msm7x27a.Policy.Wiring
import Msm7x27a.Lib.Runs

/-!
# The forced use for media while FM is on

A request for no forced use is put off while FM is digital, and carried out when FM goes off.  A run
of requests and of connections and disconnections of FM is followed with the list of what was
requested and of the starts of digital FM, newest first.
-/

namespace Msm7x27a.Policy

open Msm7x27a.Audio (Status noError)
open Msm7x27a.Runs

/-- A request for media, or a call that connects or disconnects FM. -/
inductive MediaCall where
  | setForceUse (config : ForcedConfig)
  | fm (c : Client) (isAnalog : Bool) (state : ConnectionState) (device_address : String)

/-- A request for media, or the start of digital FM while `config` is forced. -/
inductive MediaEvent where
  | requested (config : ForcedConfig)
  | fmStarted (config : ForcedConfig)
  deriving DecidableEq, Repr

/-- The last valid request. -/
def lastRequest : List MediaEvent → ForcedConfig
  | [] => .none
  | .requested config :: l => if State.accepts .media config then config else lastRequest l
  | .fmStarted _ :: l => lastRequest l

/-- What was forced when digital FM started, or the last valid request since that is not for none. -/
def sinceStart : List MediaEvent → ForcedConfig
  | [] => .none
  | .requested config :: l =>
    if State.accepts .media config ∧ config ≠ .none then config else sinceStart l
  | .fmStarted config :: _ => config

namespace State

variable {R : Type} {B : Base R} {H : Headers} {c : Client} {isAnalog : Bool}
  {state : ConnectionState} {device_address : String} {s s' : State R} {config : ForcedConfig}
  {l : List MediaEvent} {t t' : State R × List MediaEvent}

def mediaStep (B : Base R) (H : Headers) : State R × List MediaEvent → MediaCall →
    Option (State R × List MediaEvent)
  | (s, l), .setForceUse config => some (s.setForceUse B H .media config, .requested config :: l)
  | (s, l), .fm c isAnalog state device_address =>
    (s.setDeviceConnectionState B H c isAnalog H.AUDIO_DEVICE_OUT_FM state device_address).map
      fun r => (r.2, if s.fmMode ≠ .digital ∧ r.2.fmMode = .digital then
        .fmStarted (s.mForceUse .media) :: l else l)

/-! ### What a call does to FM and to the forced use -/

/-- FM, the forced use for media and the request that is put off are the same. -/
structure SameForce (s s' : State R) : Prop where
  fmMode : s'.fmMode = s.fmMode
  pendingForceNone : s'.pendingForceNone = s.pendingForceNone
  media : s'.mForceUse .media = s.mForceUse .media

theorem SameForce.trans {s'' : State R} (h : SameForce s s') (h' : SameForce s' s'') :
    SameForce s s'' := ⟨h'.1.trans h.1, h'.2.trans h.2, h'.3.trans h.3⟩

theorem Keeps.force (h : Keeps s s') : SameForce s s' :=
  ⟨h.fmMode, h.pendingForceNone, by rw [h.mForceUse]⟩

/-- A valid request is stored, or put off while FM is digital. -/
theorem setForceUse_media (B : Base R) (H : Headers) (s : State R) (config : ForcedConfig) :
    accepts .media config = false ∧ s.setForceUse B H .media config = s ∨
      config = .none ∧ s.fmMode = .digital ∧
        s.setForceUse B H .media config = { s with pendingForceNone := true } ∨
      accepts .media config = true ∧ ¬(s.fmMode = .digital ∧ config = .none) ∧
        SameForce ({ s with pendingForceNone := false }.storeForceUse .media config)
          (s.setForceUse B H .media config) := by
  unfold setForceUse
  dsimp only
  split
  next hinvalid => exact .inl ⟨hinvalid, rfl⟩
  next hvalid =>
    split
    next hlater => exact .inr (.inl ⟨hlater.2, hlater.1, rfl⟩)
    next hnow =>
      refine .inr (.inr ⟨by simpa using hvalid, hnow, ?_⟩)
      exact (same_applyForceUse _).keeps.force

theorem storeForceUse_media : (s.storeForceUse .media config).mForceUse .media = config := by
  unfold storeForceUse
  exact Function.update_self ForceUse.media config s.mForceUse

/-- FM is off, and what was put off is set. -/
structure ForceOff (s s' : State R) : Prop where
  fmMode : s'.fmMode = .none
  pendingForceNone : s'.pendingForceNone = false
  media : s'.mForceUse .media = if s.pendingForceNone then .none else s.mForceUse .media

theorem force_fmOff : ForceOff s (s.fmOff B H) := by
  unfold fmOff
  have hpending : (s.setFmMode .none).pendingForceNone = s.pendingForceNone := rfl
  dsimp only
  rw [hpending]
  cases hp : s.pendingForceNone with
  | true =>
    rw [if_pos rfl]
    -- FM is off before the request is made again, so it is stored now.
    have hset : SameForce ({ s.setFmMode .none with pendingForceNone := false }.storeForceUse .media
        .none) ((s.setFmMode .none).setForceUse B H .media .none) :=
      (same_applyForceUse _).keeps.force
    refine ⟨hset.fmMode, hset.pendingForceNone, ?_⟩
    rw [if_pos hp]
    exact hset.media.trans storeForceUse_media
  | false =>
    rw [if_neg Bool.false_ne_true]
    refine ⟨rfl, hp, ?_⟩
    rw [hp]
    rfl

theorem ForceOff.trans {s'' : State R} (h : ForceOff s s') (h' : SameForce s' s'') :
    ForceOff s s'' :=
  ⟨h'.fmMode.trans h.fmMode, h'.pendingForceNone.trans h.pendingForceNone, h'.media.trans h.media⟩

/-- What a call for FM can do: FM starts, goes off, or is left alone. -/
inductive FmChange (s s' : State R) : Prop where
  | kept (h : SameForce s s')
  | started (mode : FmMode) (hoff : s.fmMode = .none) (h : SameForce (s.setFmMode mode) s')
  | stopped (h : ForceOff s s')

theorem force_setInputState {device : Route.Devices} :
    SameForce s (s.setInputState B H device state).2 := by
  obtain ⟨h, -⟩ := keeps_setInputState B H device state s
  exact ⟨h.fmMode, h.pendingForceNone, by rw [h.mForceUse]⟩

theorem force_finish {outputs : SortedVector ℕ} {device : Route.Devices}
    (h : s.finishOutput B H device state outputs = some s') :
    SameForce s (s'.changePaired B H device state).2 := by
  refine (keeps_finishOutput h).force.trans ?_
  obtain ⟨h, -⟩ := keeps_changePaired B H device state s'
  exact ⟨h.fmMode, h.pendingForceNone, by rw [h.mForceUse]⟩

theorem fmChange_outputChange {r : Status × State R}
    (h : OutputChange B H c isAnalog H.AUDIO_DEVICE_OUT_FM s state r) : FmChange s r.2 := by
  cases h with
  | busy h => exact .kept ⟨rfl, rfl, rfl⟩
  | refused h1 hc h2 ho =>
    obtain ⟨hoff, mode, rfl⟩ := startFm_cases h1
    exact .started mode (hoff rfl) h2.keeps.force
  | connected h1 hc h2 ho h3 =>
    obtain ⟨hoff, mode, rfl⟩ := startFm_cases h1
    refine .started mode (hoff rfl) (.trans ?_ (force_finish h3))
    exact ⟨h2.fmMode, h2.pendingForceNone, by rw [h2.mForceUse]⟩
  | absent h1 hc => exact .stopped (force_fmOff.trans (stopFm_of_fm rfl h1).keeps.force)
  | @disconnected s₁ s₂ s₃ h1 hc h2 ho h3 =>
    have hdevices : SameForce s₁ s₂ := ⟨h2.fmMode, h2.pendingForceNone, by rw [h2.mForceUse]⟩
    exact .stopped (force_fmOff.trans
      (((stopFm_of_fm rfl h1).keeps.force.trans hdevices).trans (force_finish h3)))
  | badState code => exact .kept ⟨rfl, rfl, rfl⟩

theorem fmChange_setDeviceConnectionState {r : Status × State R}
    (h : s.setDeviceConnectionState B H c isAnalog H.AUDIO_DEVICE_OUT_FM state device_address =
      some r) : FmChange s r.2 := by
  rcases setDeviceConnectionState_cases h with ⟨rfl, -⟩ | ⟨-, h⟩ | ⟨-, rfl⟩
  · exact .kept ⟨rfl, rfl, rfl⟩
  · cases fmChange_outputChange h with
    | kept h => exact .kept ⟨h.1, h.2, h.3⟩
    | started mode hoff h => exact .started mode hoff ⟨h.1, h.2, h.3⟩
    | stopped h => exact .stopped ⟨h.1, h.2, h.3⟩
  · exact .kept force_setInputState

/-! ### Runs -/

/-- What is forced is what was requested last.  While FM is digital it may be put off, and then no
forced use was requested last. -/
structure DeferredInv (t : State R × List MediaEvent) : Prop where
  off : t.1.fmMode ≠ .digital → t.1.mForceUse .media = lastRequest t.2
  digital : t.1.fmMode = .digital → t.1.mForceUse .media = sinceStart t.2
  pending : t.1.pendingForceNone = true → lastRequest t.2 = .none
  current : t.1.pendingForceNone = false → t.1.mForceUse .media = lastRequest t.2

theorem lastRequest_valid (h : accepts .media config = true) :
    lastRequest (.requested config :: l) = config := if_pos h

theorem lastRequest_invalid (h : accepts .media config = false) :
    lastRequest (.requested config :: l) = lastRequest l := if_neg (by simp [h])

theorem sinceStart_kept (h : accepts .media config = true → config = .none) :
    sinceStart (.requested config :: l) = sinceStart l := if_neg fun hc => hc.2 (h hc.1)

theorem inv_setForceUse (hI : DeferredInv (s, l)) :
    DeferredInv (s.setForceUse B H .media config, .requested config :: l) := by
  rcases setForceUse_media B H s config with ⟨hinvalid, h⟩ | ⟨rfl, hdigital, h⟩ | ⟨hvalid, hnow, h⟩
  · rw [h]
    have hkept : accepts .media config = true → config = .none := by simp [hinvalid]
    exact ⟨fun hm => (hI.off hm).trans (lastRequest_invalid hinvalid).symm,
      fun hm => (hI.digital hm).trans (sinceStart_kept hkept).symm,
      fun hp => (lastRequest_invalid hinvalid).trans (hI.pending hp),
      fun hp => (hI.current hp).trans (lastRequest_invalid hinvalid).symm⟩
  · rw [h]
    refine ⟨fun hm => absurd hdigital hm, fun _ => ?_, fun _ => lastRequest_valid rfl,
      fun hp => absurd hp Bool.noConfusion⟩
    exact (hI.digital hdigital).trans (sinceStart_kept fun _ => rfl).symm
  · have hmedia : (s.setForceUse B H .media config).mForceUse .media = config :=
      h.media.trans storeForceUse_media
    have hfm : (s.setForceUse B H .media config).fmMode = s.fmMode := h.fmMode
    have hpending : (s.setForceUse B H .media config).pendingForceNone = false := h.pendingForceNone
    have hlast := hmedia.trans (lastRequest_valid (l := l) hvalid).symm
    refine ⟨fun _ => hlast, fun hm => ?_, fun hp => ?_, fun _ => hlast⟩
    · have hsince : sinceStart (.requested config :: l) = config :=
        if_pos ⟨hvalid, fun e => hnow ⟨hfm.symm.trans hm, e⟩⟩
      exact hmedia.trans hsince.symm
    · dsimp only at hp
      rw [hpending] at hp
      cases hp

theorem inv_fmChange (hI : DeferredInv (s, l)) (h : FmChange s s') :
    DeferredInv (s', if s.fmMode ≠ .digital ∧ s'.fmMode = .digital then
      .fmStarted (s.mForceUse .media) :: l else l) := by
  cases h with
  | kept h =>
    rw [if_neg fun hm => hm.1 (h.fmMode.symm.trans hm.2)]
    exact ⟨fun hm => h.media.trans (hI.off (h.fmMode ▸ hm)),
      fun hm => h.media.trans (hI.digital (h.fmMode.symm.trans hm)),
      fun hp => hI.pending (h.pendingForceNone.symm.trans hp),
      fun hp => h.media.trans (hI.current (h.pendingForceNone.symm.trans hp))⟩
  | started mode hoff h =>
    have hnot : s.fmMode ≠ .digital := by simp [hoff]
    have hmedia : s'.mForceUse .media = s.mForceUse .media := h.media
    have hpending : s'.pendingForceNone = s.pendingForceNone := h.pendingForceNone
    have hlast := hmedia.trans (hI.off hnot)
    split
    next hm =>
      exact ⟨fun hm' => absurd hm.2 hm', fun _ => hmedia,
        fun hp => hI.pending (hpending.symm.trans hp), fun _ => hlast⟩
    next hm =>
      exact ⟨fun _ => hlast, fun hm' => absurd ⟨hnot, hm'⟩ hm,
        fun hp => hI.pending (hpending.symm.trans hp), fun _ => hlast⟩
  | stopped h =>
    have hnot : s'.fmMode ≠ .digital := by simp [h.fmMode]
    rw [if_neg fun hm => hnot hm.2]
    have hlast : s'.mForceUse .media = lastRequest l := by
      rw [h.media]
      split
      next hp => exact (hI.pending hp).symm
      next hp => exact hI.current (Bool.eq_false_iff.2 hp)
    refine ⟨fun _ => hlast, fun hm => absurd hm hnot, fun hp => ?_, fun _ => hlast⟩
    exact absurd (h.pendingForceNone.symm.trans hp) Bool.noConfusion

theorem inv_mediaStep {call : MediaCall} (hI : DeferredInv t)
    (h : mediaStep B H t call = some t') : DeferredInv t' := by
  obtain ⟨s, l⟩ := t
  cases call with
  | setForceUse config =>
    obtain rfl := Option.some.inj h
    exact inv_setForceUse hI
  | fm c isAnalog state device_address =>
    obtain ⟨r, hr, rfl⟩ := Option.map_eq_some_iff.1 h
    exact inv_fmChange hI (fmChange_setDeviceConnectionState hr)

/-- **The forced use for media.** After every run of requests and of connections and disconnections
of FM, whether they succeed or fail, what is forced for media is the last valid request, unless FM is
digital: then it is what was forced when FM started, or the last valid request since that is not for
none. -/
theorem forced_media (hmedia : s.mForceUse .media = .none) (hoff : s.fmMode = .none)
    {calls : List MediaCall} (hr : run (mediaStep B H) (s, []) calls = some t) :
    (t.1.fmMode ≠ .digital → t.1.mForceUse .media = lastRequest t.2) ∧
      (t.1.fmMode = .digital → t.1.mForceUse .media = sinceStart t.2) := by
  have hstart : DeferredInv (s, []) := by
    refine ⟨fun _ => hmedia, fun hm => ?_, fun _ => rfl, fun _ => hmedia⟩
    exact absurd (hoff.symm.trans hm) FmMode.noConfusion
  have hI : DeferredInv t := run_inv (C := fun _ _ => True) (fun _ _ _ hI _ h => inv_mediaStep hI h)
    hstart (along_true (fun _ _ => trivial) _ _) hr
  exact ⟨hI.off, hI.digital⟩

/-- No forced use is requested while FM is digital, and set when FM is disconnected. -/
theorem forced_media_plain : ∃ t, run (mediaStep .plain .plain) (State.plain, [])
    [.setForceUse .speaker, .fm .plain false .available "", .setForceUse .none,
      .fm .plain false .unavailable ""] = some t ∧ t.1.mForceUse .media = .none ∧
    (t.1.fmMode ≠ .digital → t.1.mForceUse .media = lastRequest t.2) ∧
      (t.1.fmMode = .digital → t.1.mForceUse .media = sinceStart t.2) := by
  have h : ((run (mediaStep .plain .plain) (State.plain, []) [.setForceUse .speaker,
      .fm .plain false .available "", .setForceUse .none, .fm .plain false .unavailable ""]).any
        fun t => decide (t.1.mForceUse .media = .none)) = true := by decide
  obtain ⟨t, hr, hnone⟩ := exists_run h
  exact ⟨t, hr, hnone, forced_media rfl rfl hr⟩

end State

end Msm7x27a.Policy
