import Msm7x27a.Route.Devices
import Msm7x27a.Lib.Log

/-!
# Post-processing

`msm72xx_enable_postproc` and the file's global variables it works on.  It edits the mask of the
enabled filters, sends the parameters of those that stay, and sends the mask with
`AUDIO_ENABLE_AUDPP`.  The log records, newest first, what is done with `PCM_CTL_DEVICE`.

With `state` true, a filter that the mask keeps after the edits was checked and its parameters were
sent, unless the device has no record for either of the two range compressors: that branch keeps the
mask as it is (`enable_sound_iff`).
-/

namespace Msm7x27a.Route

open Msm7x27a.Audio

/-- What `get_audpp_filter` has read, for the devices 0 to 2. -/
structure Filters where
  audpp_filter_inited : Bool
  adrc_filter_exists : Fin 3 → Bool
  mbadrc_filter_exists : Fin 3 → Bool
  adrc_flag : Fin 3 → BitVec 16
  mbadrc_flag : Fin 3 → BitVec 16
  eq_flag : Fin 3 → BitVec 16
  rx_iir_flag : Fin 3 → BitVec 16

/-- The flag of a filter. -/
def Filters.flag (F : Filters) : Feature → Fin 3 → BitVec 16
  | .adrc => F.adrc_flag
  | .mbadrc => F.mbadrc_flag
  | .eq => F.eq_flag
  | .rxIir => F.rx_iir_flag

/-- The two range compressors are looked up; for the other filters there is no such test. -/
def Filters.recorded (F : Filters) : Feature → Fin 3 → Bool
  | .adrc => F.adrc_filter_exists
  | .mbadrc => F.mbadrc_filter_exists
  | .eq | .rxIir => fun _ => true

/-- What is done with `PCM_CTL_DEVICE`. -/
inductive CtlEvent where
  /-- A call with this `state`, for this `snd_device`, has opened it. -/
  | opened (state : Bool) (snd_device : Int)
  /-- `AUDIO_SET_MBADRC`, `AUDIO_SET_ADRC`, `AUDIO_SET_EQ` or `AUDIO_SET_RX_IIR`. -/
  | set (f : Feature) (device_id : Fin 3) (ok : Bool)
  /-- `AUDIO_ENABLE_AUDPP`. -/
  | enableAudpp (mask : BitVec 32) (ok : Bool)
  deriving DecidableEq, Repr

/-- The global variables of post-processing and playback. -/
structure PostProc where
  snd_device : Int := -1
  post_proc_feature_mask : BitVec 32 := 0
  new_post_proc_feature_mask : BitVec 32 := 0
  hpcm_playback_in_progress : Bool := false
  lpa_playback_in_progress : Bool := false
  log : List CtlEvent := []
  deriving DecidableEq, Repr

/-- What a call meets: whether `audio.legacy.postproc` is true, the device opens, and the `ioctl`s
succeed. -/
structure CtlAnswers where
  legacy : Bool := true
  opens : Bool := true
  sets : Feature → Bool := fun _ => true
  enables : Bool := true

/-- A playback is in progress. -/
def PostProc.playing (pp : PostProc) : Bool :=
  pp.hpcm_playback_in_progress || pp.lpa_playback_in_progress

namespace PostProc

def record (pp : PostProc) (ev : CtlEvent) : PostProc := { pp with log := ev :: pp.log }

/-- `post_proc_feature_mask &= …_DISABLE`. -/
def clear (f : Feature) (pp : PostProc) : PostProc :=
  { pp with post_proc_feature_mask := pp.post_proc_feature_mask &&& f.disable }

def clearAll (pp : PostProc) : PostProc := (((pp.clear .mbadrc).clear .adrc).clear .eq).clear .rxIir

end PostProc

/-- The mask enables the filter. -/
def Enables (mask : BitVec 32) (f : Feature) : Prop := mask &&& f.enable ≠ 0

instance (mask : BitVec 32) (f : Feature) : Decidable (Enables mask f) := by
  unfold Enables; infer_instance

namespace PostProc

def clearIf (f : Feature) (pp : PostProc) : PostProc :=
  if Enables pp.post_proc_feature_mask f then pp.clear f else pp

/-- A filter with a zero flag is taken out of the mask, and the parameters of one that stays are
sent. -/
def sendFilter (F : Filters) (a : CtlAnswers) (f : Feature) (state : Bool) (device_id : Fin 3)
    (pp : PostProc) : PostProc :=
  if F.flag f device_id = 0 ∧ Enables pp.post_proc_feature_mask f then pp.clear f
  else if Enables pp.post_proc_feature_mask f ∧ state then pp.record (.set f device_id (a.sets f))
  else pp

/-- The choice between MBADRC and ADRC. -/
def sendCompressor (F : Filters) (a : CtlAnswers) (state : Bool) (device_id : Fin 3)
    (pp : PostProc) : PostProc :=
  if F.mbadrc_filter_exists device_id ∧ state then
    (pp.clear .adrc).sendFilter F a .mbadrc state device_id
  else if F.adrc_filter_exists device_id ∧ state then
    (pp.clear .mbadrc).sendFilter F a .adrc state device_id
  else
    -- the union of the two constants has all 16 bits
    { pp with post_proc_feature_mask :=
        pp.post_proc_feature_mask &&& (Feature.mbadrc.disable ||| Feature.adrc.disable) }

/-- `AUDIO_ENABLE_AUDPP`; the error is `-EPERM`. -/
def sendMask (ok : Bool) (pp : PostProc) : Status × PostProc :=
  (if ok then 0 else -1, pp.record (.enableAudpp pp.post_proc_feature_mask ok))

end PostProc

/-- The row of the filter tables for a sound device. -/
def device_id (e : Endpoints) (snd_device : Int) : Fin 3 :=
  if snd_device = e .HEADSET then 2 else if snd_device = e .HANDSET then 1 else 0

/-- What the call does once the control device is open. -/
def PostProc.control (e : Endpoints) (F : Filters) (a : CtlAnswers) (state : Bool) (pp : PostProc) :
    Status × PostProc :=
  let id := device_id e pp.snd_device
  let pp := pp.record (.opened state pp.snd_device)
  let pp := pp.sendCompressor F a state id
  let pp := pp.sendFilter F a .eq state id
  let pp := pp.sendFilter F a .rxIir state id
  if state then pp.sendMask a.enables
  else ((((pp.clearIf .mbadrc).clearIf .adrc).clearIf .eq).clearIf .rxIir).sendMask a.enables

def msm72xx_enable_postproc (e : Endpoints) (F : Filters) (a : CtlAnswers) (state : Bool)
    (pp : PostProc) : Status × PostProc :=
  if a.legacy = false then (0, pp.clearAll)
  else if F.audpp_filter_inited = false then (badValue, pp.clearAll)
  else if pp.snd_device < 0 then (badValue, pp.clearAll)
  else if a.opens = false then (-1, pp)
  else pp.control e F a state

/-! ### What the call leaves alone -/

/-- At most the mask and the log differ. -/
structure SameGlobals (pp pp' : PostProc) : Prop where
  snd_device : pp'.snd_device = pp.snd_device
  new_post_proc_feature_mask : pp'.new_post_proc_feature_mask = pp.new_post_proc_feature_mask
  hpcm : pp'.hpcm_playback_in_progress = pp.hpcm_playback_in_progress
  lpa : pp'.lpa_playback_in_progress = pp.lpa_playback_in_progress
  log : pp.log <:+ pp'.log

section Frame

variable {e : Endpoints} {F : Filters} {a : CtlAnswers} {state : Bool} {id : Fin 3} {f : Feature}

theorem SameGlobals.refl (pp : PostProc) : SameGlobals pp pp := ⟨rfl, rfl, rfl, rfl, List.suffix_refl _⟩

theorem SameGlobals.trans {a b c : PostProc} (h : SameGlobals a b) (h' : SameGlobals b c) :
    SameGlobals a c :=
  ⟨h'.1.trans h.1, h'.2.trans h.2, h'.3.trans h.3, h'.4.trans h.4, h.5.trans h'.5⟩

theorem same_clear (f : Feature) (pp : PostProc) : SameGlobals pp (pp.clear f) :=
  ⟨rfl, rfl, rfl, rfl, List.suffix_refl _⟩

theorem same_record (ev : CtlEvent) (pp : PostProc) : SameGlobals pp (pp.record ev) :=
  ⟨rfl, rfl, rfl, rfl, List.suffix_cons ..⟩

theorem same_clearIf (f : Feature) (pp : PostProc) : SameGlobals pp (pp.clearIf f) := by
  unfold PostProc.clearIf
  split
  · exact same_clear f pp
  · exact .refl pp

theorem same_clearAll (pp : PostProc) : SameGlobals pp pp.clearAll :=
  ((same_clear _ _).trans (same_clear _ _)).trans ((same_clear _ _).trans (same_clear _ _))

theorem same_sendFilter (pp : PostProc) : SameGlobals pp (pp.sendFilter F a f state id) := by
  unfold PostProc.sendFilter
  split
  · exact same_clear f pp
  · split
    · exact same_record _ pp
    · exact .refl pp

theorem same_sendCompressor (pp : PostProc) : SameGlobals pp (pp.sendCompressor F a state id) := by
  unfold PostProc.sendCompressor
  split
  · exact (same_clear _ _).trans (same_sendFilter _)
  · split
    · exact (same_clear _ _).trans (same_sendFilter _)
    · exact ⟨rfl, rfl, rfl, rfl, List.suffix_refl _⟩

theorem same_control (pp : PostProc) : SameGlobals pp (pp.control e F a state).2 := by
  unfold PostProc.control
  dsimp only
  have h : SameGlobals pp ((((pp.record (.opened state pp.snd_device)).sendCompressor F a state
      (device_id e pp.snd_device)).sendFilter F a .eq state (device_id e pp.snd_device)).sendFilter
      F a .rxIir state (device_id e pp.snd_device)) :=
    ((same_record _ _).trans (same_sendCompressor _)).trans
      ((same_sendFilter _).trans (same_sendFilter _))
  split
  · exact h.trans (same_record _ _)
  · refine h.trans (.trans ?_ (same_record _ _))
    exact ((same_clearIf _ _).trans (same_clearIf _ _)).trans
      ((same_clearIf _ _).trans (same_clearIf _ _))

theorem same_enable (pp : PostProc) :
    SameGlobals pp (msm72xx_enable_postproc e F a state pp).2 := by
  unfold msm72xx_enable_postproc
  split
  · exact same_clearAll pp
  · split
    · exact same_clearAll pp
    · split
      · exact same_clearAll pp
      · split
        · exact .refl pp
        · exact same_control pp

end Frame

/-! ### The bits of the mask -/

theorem disable_and_enable (f g : Feature) :
    f.disable &&& g.enable = if f = g then 0 else g.enable := by
  cases f <;> cases g <;> decide

/-- Taking a filter out takes no other out. -/
theorem enables_clear {mask : BitVec 32} {f g : Feature} :
    Enables (mask &&& f.disable) g ↔ Enables mask g ∧ g ≠ f := by
  unfold Enables
  rw [BitVec.and_assoc, disable_and_enable]
  by_cases h : f = g
  · simp [h]
  · simp [h, Ne.symm h]

/-- The branch for a device without a record keeps the mask. -/
theorem enables_union {mask : BitVec 32} {g : Feature} :
    Enables (mask &&& (Feature.mbadrc.disable ||| Feature.adrc.disable)) g ↔ Enables mask g := by
  have h : (Feature.mbadrc.disable ||| Feature.adrc.disable) &&& g.enable = g.enable := by
    cases g <;> decide
  unfold Enables
  rw [BitVec.and_assoc, h]

/-! ### Sound masks -/

/-- The call that has the control device open, if the device has been opened. -/
def callOf : List CtlEvent → Option (Bool × Int)
  | [] => none
  | .opened state snd_device :: _ => some (state, snd_device)
  | .set .. :: log | .enableAudpp .. :: log => callOf log

/-- The parameters sent since the control device was opened. -/
def sentBy : List CtlEvent → List (Feature × Fin 3)
  | [] => []
  | .opened .. :: _ => []
  | .set f id _ :: log => (f, id) :: sentBy log
  | .enableAudpp .. :: log => sentBy log

/-- The filter is on for the device, has a record if it must, and its parameters were sent. -/
def Filters.Fit (F : Filters) (id : Fin 3) (log : List CtlEvent) (f : Feature) : Prop :=
  F.flag f id ≠ 0 ∧ F.recorded f id = true ∧ (f, id) ∈ sentBy log

instance (F : Filters) (id : Fin 3) (log : List CtlEvent) : DecidablePred (F.Fit id log) :=
  fun _ => by unfold Filters.Fit; infer_instance

/-- A mask is not sent with both range compressors, nor, by a call that enables, with a filter that
is not fit for the device. -/
def Sound (e : Endpoints) (F : Filters) (before : List CtlEvent) : CtlEvent → Prop
  | .enableAudpp mask _ =>
    ¬(Enables mask .adrc ∧ Enables mask .mbadrc) ∧
      ∀ c ∈ callOf before, c.1 = true →
        ∀ f, Enables mask f → F.Fit (device_id e c.2) before f
  | _ => True

instance (e : Endpoints) (F : Filters) (before : List CtlEvent) : DecidablePred (Sound e F before)
  | .enableAudpp .. => inferInstanceAs (Decidable (_ ∧ ∀ c ∈ callOf before, _))
  | .opened .. | .set .. => .isTrue trivial

/-- The filter is fit, or not enabled. -/
def Ready (F : Filters) (id : Fin 3) (f : Feature) (pp : PostProc) : Prop :=
  Enables pp.post_proc_feature_mask f → F.Fit id pp.log f

section Ready

variable {e : Endpoints} {F : Filters} {a : CtlAnswers} {state : Bool} {id : Fin 3}
  {f g : Feature} {pp : PostProc}

theorem enables_sendFilter :
    Enables (pp.sendFilter F a f state id).post_proc_feature_mask g ↔
      Enables pp.post_proc_feature_mask g ∧ (g = f → F.flag f id ≠ 0) := by
  unfold PostProc.sendFilter
  split
  next h =>
    refine enables_clear.trans ?_
    simp [h.1]
  next h =>
    have hg : Enables pp.post_proc_feature_mask g → g = f → F.flag f id ≠ 0 := by
      rintro hg rfl h0
      exact h ⟨h0, hg⟩
    split <;> exact ⟨fun h => ⟨h, hg h⟩, And.left⟩

theorem callOf_sendFilter : callOf (pp.sendFilter F a f state id).log = callOf pp.log := by
  unfold PostProc.sendFilter
  split
  · rfl
  · split <;> rfl

theorem mem_sentBy_sendFilter (h : (g, id) ∈ sentBy pp.log) :
    (g, id) ∈ sentBy (pp.sendFilter F a f state id).log := by
  unfold PostProc.sendFilter
  split
  · exact h
  · split
    · exact List.mem_cons_of_mem _ h
    · exact h

theorem ready_clear_self : Ready F id f (pp.clear f) := by
  intro h
  exact absurd rfl (enables_clear.1 h).2

theorem ready_sendFilter (h : Ready F id g pp) : Ready F id g (pp.sendFilter F a f state id) := by
  intro hg
  obtain ⟨h1, h2, h3⟩ := h (enables_sendFilter.1 hg).1
  exact ⟨h1, h2, mem_sentBy_sendFilter h3⟩

/-- Sending a filter makes it ready, if it has a record where it needs one. -/
theorem ready_sendFilter_self (hr : F.recorded f id = true) :
    Ready F id f (pp.sendFilter F a f true id) := by
  intro h
  obtain ⟨h1, h2⟩ := enables_sendFilter.1 h
  refine ⟨h2 rfl, hr, ?_⟩
  unfold PostProc.sendFilter
  rw [if_neg fun h0 => h2 rfl h0.1, if_pos ⟨h1, rfl⟩]
  exact List.mem_cons_self ..

theorem callOf_sendCompressor : callOf (pp.sendCompressor F a state id).log = callOf pp.log := by
  unfold PostProc.sendCompressor
  split
  · exact callOf_sendFilter
  · split
    · exact callOf_sendFilter
    · rfl

/-- The device has a record of one of the range compressors, or the mask enables neither. -/
def Filters.Compresses (F : Filters) (id : Fin 3) (mask : BitVec 32) : Prop :=
  F.mbadrc_filter_exists id = true ∨ F.adrc_filter_exists id = true ∨
    ¬Enables mask .adrc ∧ ¬Enables mask .mbadrc

instance (id : Fin 3) (mask : BitVec 32) : Decidable (F.Compresses id mask) := by
  unfold Filters.Compresses; infer_instance

/-- At most one range compressor is enabled, and it is ready. -/
def OneCompressor (F : Filters) (id : Fin 3) (pp : PostProc) : Prop :=
  ¬(Enables pp.post_proc_feature_mask .adrc ∧ Enables pp.post_proc_feature_mask .mbadrc) ∧
    Ready F id .adrc pp ∧ Ready F id .mbadrc pp

theorem oneCompressor_sendCompressor_iff :
    OneCompressor F id (pp.sendCompressor F a true id) ↔
      F.Compresses id pp.post_proc_feature_mask := by
  unfold PostProc.sendCompressor
  split
  next h =>
    refine iff_of_true ⟨?_, ready_sendFilter ready_clear_self, ready_sendFilter_self h.1⟩ (.inl h.1)
    rintro ⟨h1, -⟩
    exact (enables_clear.1 (enables_sendFilter.1 h1).1).2 rfl
  next hmb =>
    split
    next h =>
      refine iff_of_true ⟨?_, ready_sendFilter_self h.1, ready_sendFilter ready_clear_self⟩
        (.inr (.inl h.1))
      rintro ⟨-, h2⟩
      exact (enables_clear.1 (enables_sendFilter.1 h2).1).2 rfl
    next had =>
      have hmb' : F.recorded .mbadrc id ≠ true := fun h => hmb ⟨h, rfl⟩
      have had' : F.recorded .adrc id ≠ true := fun h => had ⟨h, rfl⟩
      constructor
      · rintro ⟨-, h1, h2⟩
        refine .inr (.inr ⟨fun h => had' (h1 (enables_union.2 h)).2.1, fun h => ?_⟩)
        exact hmb' (h2 (enables_union.2 h)).2.1
      · rintro (h | h | ⟨h1, h2⟩)
        · exact absurd h hmb'
        · exact absurd h had'
        · exact ⟨fun h => h1 (enables_union.1 h.1), fun h => absurd (enables_union.1 h) h1,
            fun h => absurd (enables_union.1 h) h2⟩

/-- Neither the equalizer nor the IIR filter changes what is said of the range compressors. -/
theorem oneCompressor_sendFilter_iff (h1 : f ≠ .adrc) (h2 : f ≠ .mbadrc) :
    OneCompressor F id (pp.sendFilter F a f state id) ↔ OneCompressor F id pp := by
  have henables : ∀ g, g ≠ f → (Enables (pp.sendFilter F a f state id).post_proc_feature_mask g ↔
      Enables pp.post_proc_feature_mask g) := by
    intro g hg
    rw [enables_sendFilter]
    exact and_iff_left fun e => absurd e hg
  have hsent : ∀ g, g ≠ f → ((g, id) ∈ sentBy (pp.sendFilter F a f state id).log ↔
      (g, id) ∈ sentBy pp.log) := by
    intro g hg
    refine ⟨fun h => ?_, mem_sentBy_sendFilter⟩
    unfold PostProc.sendFilter at h
    split at h
    · exact h
    · split at h
      · simpa [PostProc.record, sentBy, hg] using h
      · exact h
  unfold OneCompressor Ready Filters.Fit
  rw [henables _ h1.symm, henables _ h2.symm, hsent _ h1.symm, hsent _ h2.symm]

end Ready

/-! ### The mask that a call sends -/

/-- The mask enables none of the filters. -/
def Off (mask : BitVec 32) : Prop := ∀ f, ¬Enables mask f

instance : DecidablePred Off := fun _ => by unfold Off; infer_instance

/-- The mask last sent. -/
def lastMask : List CtlEvent → Option (BitVec 32)
  | [] => none
  | .enableAudpp mask _ :: _ => some mask
  | .opened .. :: log | .set .. :: log => lastMask log

/-- The mask last sent, if there is one, is off. -/
def LastOff (log : List CtlEvent) : Prop := ∀ mask ∈ lastMask log, Off mask

theorem lastOff_iff {log : List CtlEvent} :
    LastOff log ↔ (lastMask log).all (fun mask => decide (Off mask)) = true := by
  simp [LastOff, Option.all_eq_true]

-- an instance that is found would try all masks
instance : DecidablePred LastOff := fun _ => decidable_of_iff _ lastOff_iff.symm

section Control

variable {e : Endpoints} {F : Filters} {a : CtlAnswers} {state : Bool} {id : Fin 3}
  {f g : Feature} {pp : PostProc}

theorem enables_clearIf :
    Enables (pp.clearIf f).post_proc_feature_mask g ↔ Enables pp.post_proc_feature_mask g ∧ g ≠ f := by
  unfold PostProc.clearIf
  split
  · exact enables_clear
  next h =>
    constructor
    · rintro hg
      refine ⟨hg, ?_⟩
      rintro rfl
      exact h hg
    · exact And.left

/-- The mask with which `state` false ends. -/
theorem off_clearIf :
    Off ((((pp.clearIf .mbadrc).clearIf .adrc).clearIf .eq).clearIf .rxIir).post_proc_feature_mask := by
  intro f h
  simp only [enables_clearIf] at h
  cases f <;> simp at h

theorem log_clearIf : (pp.clearIf f).log = pp.log := by
  unfold PostProc.clearIf
  split <;> rfl

theorem always_sendFilter :
    Log.Always (Sound e F) (pp.sendFilter F a f state id).log ↔ Log.Always (Sound e F) pp.log := by
  unfold PostProc.sendFilter
  split
  · rfl
  · split
    · exact and_iff_right trivial
    · rfl

theorem always_sendCompressor :
    Log.Always (Sound e F) (pp.sendCompressor F a state id).log ↔ Log.Always (Sound e F) pp.log := by
  unfold PostProc.sendCompressor
  split
  · exact always_sendFilter
  · split
    · exact always_sendFilter
    · rfl

/-- The call up to the last edit of the mask. -/
def PostProc.prepare (e : Endpoints) (F : Filters) (a : CtlAnswers) (state : Bool) (pp : PostProc) :
    PostProc :=
  (((pp.record (.opened state pp.snd_device)).sendCompressor F a state
    (device_id e pp.snd_device)).sendFilter F a .eq state (device_id e pp.snd_device)).sendFilter F a
      .rxIir state (device_id e pp.snd_device)

theorem control_true : pp.control e F a true = (pp.prepare e F a true).sendMask a.enables := rfl

theorem control_false : pp.control e F a false =
    (((((pp.prepare e F a false).clearIf .mbadrc).clearIf .adrc).clearIf .eq).clearIf .rxIir).sendMask
      a.enables := rfl

theorem callOf_prepare : callOf (pp.prepare e F a state).log = some (state, pp.snd_device) := by
  unfold PostProc.prepare
  rw [callOf_sendFilter, callOf_sendFilter, callOf_sendCompressor]
  rfl

theorem always_prepare :
    Log.Always (Sound e F) (pp.prepare e F a state).log ↔ Log.Always (Sound e F) pp.log := by
  unfold PostProc.prepare
  rw [always_sendFilter, always_sendFilter, always_sendCompressor]
  exact and_iff_right trivial

/-- The mask is sound if the range compressor is: the other two filters always are. -/
theorem sound_prepare_iff {ok : Bool} :
    Sound e F (pp.prepare e F a true).log
        (.enableAudpp (pp.prepare e F a true).post_proc_feature_mask ok) ↔
      F.Compresses (device_id e pp.snd_device) pp.post_proc_feature_mask := by
  have hone : OneCompressor F (device_id e pp.snd_device) (pp.prepare e F a true) ↔
      F.Compresses (device_id e pp.snd_device) pp.post_proc_feature_mask := by
    unfold PostProc.prepare
    rw [oneCompressor_sendFilter_iff (by decide) (by decide),
      oneCompressor_sendFilter_iff (by decide) (by decide)]
    exact oneCompressor_sendCompressor_iff
  have heq : Ready F (device_id e pp.snd_device) .eq (pp.prepare e F a true) :=
    ready_sendFilter (ready_sendFilter_self rfl)
  have hiir : Ready F (device_id e pp.snd_device) .rxIir (pp.prepare e F a true) :=
    ready_sendFilter_self rfl
  rw [← hone]
  unfold Sound
  rw [callOf_prepare]
  constructor
  · rintro ⟨h1, h2⟩
    exact ⟨h1, h2 _ rfl rfl .adrc, h2 _ rfl rfl .mbadrc⟩
  · rintro ⟨h1, h2, h3⟩
    refine ⟨h1, ?_⟩
    rintro c ⟨⟩ - f
    cases f with
    | adrc => exact h2
    | mbadrc => exact h3
    | eq => exact heq
    | rxIir => exact hiir

/-- A call for no device sends nothing. -/
theorem log_enable_of_neg (h : pp.snd_device < 0) :
    (msm72xx_enable_postproc e F a state pp).2.log = pp.log := by
  unfold msm72xx_enable_postproc
  split
  · rfl
  · split
    · rfl
    · rfl

/-- The control device is reached. -/
theorem enable_eq_control (hl : a.legacy = true) (ho : a.opens = true)
    (hF : F.audpp_filter_inited = true) (h : 0 ≤ pp.snd_device) :
    msm72xx_enable_postproc e F a state pp = pp.control e F a state := by
  unfold msm72xx_enable_postproc
  rw [if_neg (by simp [hl]), if_neg (by simp [hF]), if_neg (by omega), if_neg (by simp [ho])]

/-- **Enabling.** The call keeps the log sound exactly if the device has a record of a range
compressor, or the mask enables neither. -/
theorem enable_sound_iff (hl : a.legacy = true) (ho : a.opens = true)
    (hF : F.audpp_filter_inited = true) :
    Log.Always (Sound e F) (msm72xx_enable_postproc e F a true pp).2.log ↔
      Log.Always (Sound e F) pp.log ∧ (0 ≤ pp.snd_device →
        F.Compresses (device_id e pp.snd_device) pp.post_proc_feature_mask) := by
  by_cases h : 0 ≤ pp.snd_device
  · rw [enable_eq_control hl ho hF h, control_true]
    show Sound e F _ _ ∧ Log.Always (Sound e F) _ ↔ _
    rw [sound_prepare_iff, always_prepare]
    exact ⟨fun h' => ⟨h'.2, fun _ => h'.1⟩, fun h' => ⟨h'.2 h, h'.1⟩⟩
  · rw [log_enable_of_neg (by omega)]
    exact ⟨fun h' => ⟨h', fun h0 => absurd h0 h⟩, And.left⟩

/-- **Disabling.** What a call with `state` false sends is sound. -/
theorem disable_sound_iff : Log.Always (Sound e F) (msm72xx_enable_postproc e F a false pp).2.log ↔
    Log.Always (Sound e F) pp.log := by
  unfold msm72xx_enable_postproc
  split
  · rfl
  · split
    · rfl
    · split
      · rfl
      · split
        · rfl
        · rw [control_false]
          show Sound e F _ _ ∧ Log.Always (Sound e F) _ ↔ _
          rw [log_clearIf, log_clearIf, log_clearIf, log_clearIf, always_prepare]
          apply and_iff_right
          refine ⟨fun h => off_clearIf _ h.1, ?_⟩
          intro c hc htrue f hf
          exact absurd hf (off_clearIf f)

/-- A call with `state` false for a device turns everything off. -/
theorem lastOff_disable (hl : a.legacy = true) (ho : a.opens = true)
    (hF : F.audpp_filter_inited = true) (h : 0 ≤ pp.snd_device) :
    LastOff (msm72xx_enable_postproc e F a false pp).2.log := by
  rw [enable_eq_control hl ho hF h, control_false]
  rintro mask ⟨⟩
  exact off_clearIf

end Control

end Msm7x27a.Route
