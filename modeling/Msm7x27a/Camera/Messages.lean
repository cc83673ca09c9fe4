import Msm7x27a.Camera.Hal
import Msm7x27a.Lib.Bits

/-!
# Messages

What the client has asked for, and what the legacy camera sends.  The client's notification of a raw
image stands for the raw image itself, but only when it is enabled: it is not translated when it is
disabled, and disabling the shutter does nothing.  `messages_iff` says which runs go well.
-/

namespace Msm7x27a.Camera

open Msm7x27a.Bits
open Msm7x27a.Runs

/-- Four messages, one bit each. -/
structure Headers.Distinct (H : Headers) : Prop where
  shutter : OneBit H.CAMERA_MSG_SHUTTER
  preview : OneBit H.CAMERA_MSG_PREVIEW_FRAME
  raw : OneBit H.CAMERA_MSG_RAW_IMAGE
  rawNotify : OneBit H.CAMERA_MSG_RAW_IMAGE_NOTIFY
  shutter_ne_raw : H.CAMERA_MSG_SHUTTER ≠ H.CAMERA_MSG_RAW_IMAGE
  shutter_ne_rawNotify : H.CAMERA_MSG_SHUTTER ≠ H.CAMERA_MSG_RAW_IMAGE_NOTIFY
  preview_ne_raw : H.CAMERA_MSG_PREVIEW_FRAME ≠ H.CAMERA_MSG_RAW_IMAGE
  preview_ne_rawNotify : H.CAMERA_MSG_PREVIEW_FRAME ≠ H.CAMERA_MSG_RAW_IMAGE_NOTIFY
  raw_ne_rawNotify : H.CAMERA_MSG_RAW_IMAGE ≠ H.CAMERA_MSG_RAW_IMAGE_NOTIFY

/-! ### What was asked for -/

/-- The messages that the client has asked for.  A raw image is sent once. -/
def ask (H : Headers) (asked : BitVec 32) : Op → BitVec 32
  | .enableMsgType msg_type => asked ||| msg_type
  | .disableMsgType msg_type => asked &&& ~~~msg_type
  | .startPreview => asked ||| H.CAMERA_MSG_PREVIEW_FRAME
  | .stopPreview => asked &&& ~~~H.CAMERA_MSG_PREVIEW_FRAME
  | .data msg_type _ _ =>
    if msg_type = H.CAMERA_MSG_RAW_IMAGE then
      asked &&& ~~~(H.CAMERA_MSG_RAW_IMAGE ||| H.CAMERA_MSG_RAW_IMAGE_NOTIFY)
    else asked
  | _ => asked

/-- What the legacy camera has to send: the raw image for the notification of it. -/
def translate (H : Headers) (asked : BitVec 32) : BitVec 32 :=
  if asked &&& H.CAMERA_MSG_RAW_IMAGE_NOTIFY ≠ 0 then
    asked &&& ~~~H.CAMERA_MSG_RAW_IMAGE_NOTIFY ||| H.CAMERA_MSG_RAW_IMAGE
  else asked

/-- The HAL, and what the client has asked it for. -/
structure Client where
  hal : Hal
  asked : BitVec 32

def stepAsked (H : Headers) (c : Client) (op : Op) : Option Client :=
  (step H c.hal op).map fun hal => ⟨hal, ask H c.asked op⟩

/-- The legacy camera sends what the client has asked for. -/
def Agrees (H : Headers) (c : Client) : Prop := c.hal.msgTypes = translate H c.asked

/-- The shutter is not disabled by itself.  While the notification of a raw image is asked for, the
raw image is only disabled together with it, and it only together with the raw image, or else the raw
image was asked for too. -/
def Consistent (H : Headers) (c : Client) : Op → Prop
  | .disableMsgType msg_type =>
    if msg_type = H.CAMERA_MSG_SHUTTER then c.asked &&& H.CAMERA_MSG_SHUTTER = 0
    else c.asked &&& H.CAMERA_MSG_RAW_IMAGE_NOTIFY ≠ 0 →
      (msg_type &&& H.CAMERA_MSG_RAW_IMAGE ≠ 0 → msg_type &&& H.CAMERA_MSG_RAW_IMAGE_NOTIFY ≠ 0) ∧
      (msg_type &&& H.CAMERA_MSG_RAW_IMAGE_NOTIFY ≠ 0 →
        msg_type &&& H.CAMERA_MSG_RAW_IMAGE ≠ 0 ∨ c.asked &&& H.CAMERA_MSG_RAW_IMAGE ≠ 0)
  | _ => True

/-! ### Bit by bit -/

section Bits

variable {asked m x : BitVec 32} {i n r : ℕ}

theorem and_twoPow_ne (hi : i < 32) : x &&& BitVec.twoPow 32 i ≠ 0 ↔ x.getLsbD i = true := by
  rw [BitVec.and_twoPow]
  cases hx : x.getLsbD i with
  | false => simp
  | true => simpa using (show OneBit (BitVec.twoPow 32 i) from ⟨i, hi, rfl⟩).ne_zero

/-- The bits of a translation. -/
theorem getLsbD_translate {H : Headers} (hr : H.CAMERA_MSG_RAW_IMAGE = BitVec.twoPow 32 r)
    (hn : H.CAMERA_MSG_RAW_IMAGE_NOTIFY = BitVec.twoPow 32 n) (hn32 : n < 32) (hne : r ≠ n)
    (hi : i < 32) : (translate H asked).getLsbD i =
      if i = r then asked.getLsbD r || asked.getLsbD n
      else if i = n then false else asked.getLsbD i := by
  unfold translate
  rw [hr, hn]
  by_cases hnotify : asked.getLsbD n = true
  · rw [if_pos ((and_twoPow_ne hn32).2 hnotify)]
    simp only [BitVec.getLsbD_or, BitVec.getLsbD_and, BitVec.getLsbD_not, BitVec.getLsbD_twoPow, hi,
      decide_true, Bool.true_and]
    by_cases hir : i = r
    · subst hir
      simp [hnotify, hi]
    · by_cases hin : i = n
      · subst hin
        simp [hir, Ne.symm hir, hi]
      · simp [hir, hin, Ne.symm hir, Ne.symm hin]
  · rw [if_neg (fun h => hnotify ((and_twoPow_ne hn32).1 h))]
    by_cases hir : i = r
    · subst hir
      simp [hnotify]
    · by_cases hin : i = n
      · subst hin
        simpa [hir] using hnotify
      · simp [hir, hin]

variable {H : Headers}

theorem translate_or (hH : H.Distinct) :
    translate H (asked ||| m) = translate H asked ||| translate H m := by
  obtain ⟨r, hr32, hr⟩ := hH.raw
  obtain ⟨n, hn32, hn⟩ := hH.rawNotify
  have hne : r ≠ n := fun e => hH.raw_ne_rawNotify (by rw [hr, hn, e])
  apply BitVec.eq_of_getLsbD_eq
  intro i hi
  rw [BitVec.getLsbD_or]
  simp only [getLsbD_translate hr hn hn32 hne hi, BitVec.getLsbD_or]
  split_ifs
  · ac_rfl
  · rfl
  · rfl

/-- When disabling keeps to the translation. -/
theorem translate_disable_iff (hH : H.Distinct) :
    translate H asked &&& ~~~m = translate H (asked &&& ~~~m) ↔
      (asked &&& H.CAMERA_MSG_RAW_IMAGE_NOTIFY ≠ 0 →
        (m &&& H.CAMERA_MSG_RAW_IMAGE ≠ 0 → m &&& H.CAMERA_MSG_RAW_IMAGE_NOTIFY ≠ 0) ∧
        (m &&& H.CAMERA_MSG_RAW_IMAGE_NOTIFY ≠ 0 →
          m &&& H.CAMERA_MSG_RAW_IMAGE ≠ 0 ∨ asked &&& H.CAMERA_MSG_RAW_IMAGE ≠ 0)) := by
  obtain ⟨r, hr32, hr⟩ := hH.raw
  obtain ⟨n, hn32, hn⟩ := hH.rawNotify
  have hne : r ≠ n := fun e => hH.raw_ne_rawNotify (by rw [hr, hn, e])
  -- the two masks can only differ at the raw image
  have hbits : translate H asked &&& ~~~m = translate H (asked &&& ~~~m) ↔
      ((asked.getLsbD r || asked.getLsbD n) && !m.getLsbD r) =
        ((asked.getLsbD r && !m.getLsbD r) || (asked.getLsbD n && !m.getLsbD n)) := by
    constructor
    · intro h
      have hbit := congrArg (BitVec.getLsbD · r) h
      simp only [BitVec.getLsbD_and, BitVec.getLsbD_not, getLsbD_translate hr hn hn32 hne hr32, hr32,
        hn32, decide_true, Bool.true_and, if_pos] at hbit
      exact hbit
    · intro h
      apply BitVec.eq_of_getLsbD_eq
      intro i hi
      rw [BitVec.getLsbD_and, BitVec.getLsbD_not, getLsbD_translate hr hn hn32 hne hi,
        getLsbD_translate hr hn hn32 hne hi]
      split_ifs with hir hin
      · subst hir
        simpa [hi, hn32] using h
      · rfl
      · simp [hi]
  rw [hbits, hr, hn, and_twoPow_ne hn32, and_twoPow_ne hr32, and_twoPow_ne hn32, and_twoPow_ne hr32]
  cases asked.getLsbD r <;> cases asked.getLsbD n <;> cases m.getLsbD r <;> cases m.getLsbD n <;> simp

theorem translate_of_and_eq_zero (hm : m &&& H.CAMERA_MSG_RAW_IMAGE_NOTIFY = 0) :
    translate H m = m := if_neg (not_not.2 hm)

/-- Other messages are as they were asked for. -/
theorem translate_and (hraw : H.CAMERA_MSG_RAW_IMAGE &&& m = 0)
    (hnotify : H.CAMERA_MSG_RAW_IMAGE_NOTIFY &&& m = 0) : translate H asked &&& m = asked &&& m := by
  unfold translate
  split
  · rw [or_and_of_disjoint hraw, and_not_and_of_disjoint]
    rw [BitVec.and_assoc, hnotify]
    exact BitVec.and_zero
  · rfl

/-- Disabling the shutter does nothing. -/
theorem translate_shutter_iff (hH : H.Distinct) :
    translate H asked = translate H (asked &&& ~~~H.CAMERA_MSG_SHUTTER) ↔
      asked &&& H.CAMERA_MSG_SHUTTER = 0 := by
  have hraw := hH.raw.and_eq_zero hH.shutter hH.shutter_ne_raw.symm
  have hnotify := hH.rawNotify.and_eq_zero hH.shutter hH.shutter_ne_rawNotify.symm
  have hdisable : translate H asked &&& ~~~H.CAMERA_MSG_SHUTTER =
      translate H (asked &&& ~~~H.CAMERA_MSG_SHUTTER) :=
    (translate_disable_iff hH).2 fun _ => ⟨fun h => absurd ((BitVec.and_comm ..).trans hraw) h,
      fun h => absurd ((BitVec.and_comm ..).trans hnotify) h⟩
  rw [← hdisable, ← translate_and hraw hnotify]
  exact eq_and_not_iff

/-- A raw image is sent once. -/
theorem translate_sent (hH : H.Distinct) :
    translate H asked &&& ~~~H.CAMERA_MSG_RAW_IMAGE =
      translate H (asked &&& ~~~(H.CAMERA_MSG_RAW_IMAGE ||| H.CAMERA_MSG_RAW_IMAGE_NOTIFY)) := by
  obtain ⟨r, hr32, hr⟩ := hH.raw
  obtain ⟨n, hn32, hn⟩ := hH.rawNotify
  have hne : r ≠ n := fun e => hH.raw_ne_rawNotify (by rw [hr, hn, e])
  apply BitVec.eq_of_getLsbD_eq
  intro i hi
  rw [BitVec.getLsbD_and, BitVec.getLsbD_not, getLsbD_translate hr hn hn32 hne hi,
    getLsbD_translate hr hn hn32 hne hi]
  split_ifs with hir hin
  · subst hir
    simp [hr, hn, hi, hn32]
  · rfl
  · simp [hr, hn, hi, hir, hin]

end Bits

/-! ### One call -/

section Step

variable {H : Headers} {s : Hal} {c c' : Client} {op : Op}

theorem msgTypes_enable (msg_type : BitVec 32) :
    (s.camera_enable_msg_type H msg_type).msgTypes = s.msgTypes ||| translate H msg_type := rfl

theorem msgTypes_start_preview :
    (s.camera_start_preview H).msgTypes = s.msgTypes ||| H.CAMERA_MSG_PREVIEW_FRAME := by
  unfold Hal.camera_start_preview Hal.camera_msg_type_enabled
  split
  next => rfl
  next h =>
    have hall : s.msgTypes &&& H.CAMERA_MSG_PREVIEW_FRAME = H.CAMERA_MSG_PREVIEW_FRAME := by
      simpa using h
    have hwithin : Within H.CAMERA_MSG_PREVIEW_FRAME s.msgTypes := by
      rw [← hall]
      exact within_and_left ..
    exact hwithin.or_eq.symm

theorem msgTypes_stop_preview (hH : H.Distinct) :
    (s.camera_stop_preview H).msgTypes = s.msgTypes &&& ~~~H.CAMERA_MSG_PREVIEW_FRAME := by
  unfold Hal.camera_stop_preview Hal.camera_msg_type_enabled
  split
  next => rfl
  next h =>
    refine eq_and_not_iff.2 ((hH.preview.and_eq s.msgTypes).resolve_right fun hall => ?_)
    exact h (decide_eq_true hall)

/-- Other calls leave the messages as they are. -/
theorem msgTypes_set_preview_window (window : Option ℕ) (o : WindowOutcome) :
    (s.camera_set_preview_window window o).2.msgTypes = s.msgTypes := by
  unfold Hal.camera_set_preview_window
  cases window with
  | none => rfl
  | some w =>
    dsimp only
    split_ifs <;> rfl

theorem msgTypes_handlePreviewData (frame : Frame) (o : FrameOutcome) :
    (s.CameraHAL_HandlePreviewData frame o).msgTypes = s.msgTypes := by
  unfold Hal.CameraHAL_HandlePreviewData
  rcases s.window with - | window
  · rfl
  · rcases o.dequeue_buffer with - | buf_handle
    · rfl
    · dsimp only
      split_ifs <;> rfl

theorem msgTypes_wrap_memory_data {dataPtr : Option Frame} {o : FrameOutcome} {p : Option ℕ × Hal}
    (hp : s.wrap_memory_data dataPtr o = some p) : p.2.msgTypes = s.msgTypes := by
  unfold Hal.wrap_memory_data at hp
  split at hp
  · obtain rfl := Option.some.inj hp
    rfl
  · split at hp
    · obtain rfl := Option.some.inj hp
      rfl
    · cases hp

theorem msgTypes_deliver (callback : Bool) (msg_type : BitVec 32) (dataPtr : Option Frame)
    (mem : Option ℕ) : (s.deliver callback msg_type dataPtr mem).msgTypes = s.msgTypes := by
  unfold Hal.deliver
  split <;> rfl

theorem msgTypes_releaseMemory (mem : Option ℕ) : (s.releaseMemory mem).msgTypes = s.msgTypes := by
  cases mem <;> rfl

/-- A frame, raw or not. -/
theorem msgTypes_data {msg_type : BitVec 32} {dataPtr : Option Frame} {o : FrameOutcome} {s' : Hal}
    (hs : s.wrap_data_callback H msg_type dataPtr o = some s') : s'.msgTypes =
      if msg_type = H.CAMERA_MSG_RAW_IMAGE then s.msgTypes &&& ~~~H.CAMERA_MSG_RAW_IMAGE
      else s.msgTypes := by
  unfold Hal.wrap_data_callback at hs
  by_cases hraw : msg_type = H.CAMERA_MSG_RAW_IMAGE
  · rw [if_pos hraw] at hs ⊢
    exact Option.some.inj hs ▸ rfl
  · rw [if_neg hraw] at hs ⊢
    cases dataPtr with
    | none => exact Option.some.inj hs ▸ rfl
    | some frame =>
      obtain ⟨p, hp, rfl⟩ := Option.map_eq_some_iff.1 hs
      rw [msgTypes_releaseMemory, msgTypes_deliver, msgTypes_wrap_memory_data hp]
      split
      · exact msgTypes_handlePreviewData ..
      · rfl

theorem msgTypes_dataTimestamp {msg_type : BitVec 32} {dataPtr : Option Frame} {o : FrameOutcome}
    {s' : Hal} (hs : s.wrap_data_callback_timestamp msg_type dataPtr o = some s') :
    s'.msgTypes = s.msgTypes := by
  unfold Hal.wrap_data_callback_timestamp at hs
  obtain ⟨p, hp, rfl⟩ := Option.map_eq_some_iff.1 hs
  rw [msgTypes_releaseMemory]
  cases dataPtr with
  | none =>
    dsimp only [Option.elim]
    rw [msgTypes_deliver, msgTypes_wrap_memory_data hp]
    rfl
  | some frame =>
    have hp := msgTypes_wrap_memory_data hp
    dsimp only [Option.elim, Hal.use] at hp ⊢
    rw [msgTypes_deliver, hp]

/-- A message other than the raw image and its notification can be disabled. -/
theorem translate_preview (hH : H.Distinct) (asked : BitVec 32) :
    translate H asked &&& ~~~H.CAMERA_MSG_PREVIEW_FRAME =
      translate H (asked &&& ~~~H.CAMERA_MSG_PREVIEW_FRAME) := by
  have hraw := hH.preview.and_eq_zero hH.raw hH.preview_ne_raw
  have hnotify := hH.preview.and_eq_zero hH.rawNotify hH.preview_ne_rawNotify
  exact (translate_disable_iff hH).2 fun _ => ⟨fun h => absurd hraw h, fun h => absurd hnotify h⟩

/-- One call. -/
theorem agrees_iff (hH : H.Distinct) (h : Agrees H c) (hs : stepAsked H c op = some c') :
    Agrees H c' ↔ Consistent H c op := by
  obtain ⟨hal, hcall, rfl⟩ := Option.map_eq_some_iff.1 hs
  unfold Agrees at h ⊢
  cases op with
  | setPreviewWindow window o =>
    obtain rfl := Option.some.inj hcall
    rw [msgTypes_set_preview_window]
    exact iff_of_true h trivial
  | setCallbacks => exact iff_of_true (Option.some.inj hcall ▸ h) trivial
  | setParameters => exact iff_of_true (Option.some.inj hcall ▸ h) trivial
  | enableMsgType msg_type =>
    obtain rfl := Option.some.inj hcall
    rw [msgTypes_enable, h]
    exact iff_of_true (translate_or hH).symm trivial
  | disableMsgType msg_type =>
    obtain rfl := Option.some.inj hcall
    unfold Hal.camera_disable_msg_type Consistent
    dsimp only [ask]
    by_cases hshutter : msg_type = H.CAMERA_MSG_SHUTTER
    · rw [if_pos hshutter, if_pos hshutter, hshutter, h]
      exact translate_shutter_iff hH
    · rw [if_neg hshutter, if_neg hshutter]
      dsimp only
      rw [h]
      exact translate_disable_iff hH
  | startPreview =>
    obtain rfl := Option.some.inj hcall
    have hpreview := hH.preview.and_eq_zero hH.rawNotify hH.preview_ne_rawNotify
    rw [msgTypes_start_preview, h]
    refine iff_of_true ?_ trivial
    dsimp only [ask]
    rw [translate_or hH, translate_of_and_eq_zero hpreview]
  | stopPreview =>
    obtain rfl := Option.some.inj hcall
    rw [msgTypes_stop_preview hH, h]
    exact iff_of_true (translate_preview hH _) trivial
  | data msg_type dataPtr o =>
    rw [msgTypes_data hcall, h]
    refine iff_of_true ?_ trivial
    dsimp only [ask]
    split
    · exact translate_sent hH
    · rfl
  | dataTimestamp msg_type dataPtr o =>
    rw [msgTypes_dataTimestamp hcall, h]
    exact iff_of_true rfl trivial

/-- Only disabling a message can fail the client. -/
theorem ends_iff (hH : H.Distinct) (h : Agrees H c) (op : Op) :
    Ends (stepAsked H) (Agrees H) c op ↔ Consistent H c op := by
  rcases hs : stepAsked H c op with - | c'
  · refine iff_of_true (fun c' hc' => ?_) ?_
    · cases hs.symm.trans hc'
    · cases op with
      | disableMsgType => cases hs
      | _ => trivial
  · rw [← agrees_iff hH h hs]
    exact ⟨fun he => he c' hs, fun ha c'' hc'' => Option.some.inj (hs.symm.trans hc'') ▸ ha⟩

end Step

/-- **Messages.** In a run the legacy camera sends what the client has asked for, after every call,
if and only if messages are only disabled in the ways it can follow. -/
theorem messages_iff {H : Headers} (hH : H.Distinct) (previewSize : Int × Int) (ops : List Op) :
    Along (stepAsked H) (Ends (stepAsked H) (Agrees H)) ⟨opened previewSize, 0⟩ ops ↔
      Along (stepAsked H) (Consistent H) ⟨opened previewSize, 0⟩ ops := by
  have hstart : Agrees H ⟨opened previewSize, 0⟩ := (translate_of_and_eq_zero BitVec.zero_and).symm
  exact along_congr (A := fun _ => True) (fun _ op _ h => ends_iff hH h op)
    (fun _ _ _ _ _ he hs => he _ hs) hstart fun _ _ => trivial

/-- A notification that was enabled is not disabled. -/
theorem messages_notify : ¬Along (stepAsked cameraMessages) (Ends (stepAsked cameraMessages)
    (Agrees cameraMessages)) ⟨opened (640, 480), 0⟩ [.enableMsgType 0x200#32, .disableMsgType 0x200#32] := by
  have hdistinct : cameraMessages.Distinct := ⟨by decide, by decide, by decide, by decide, by decide,
    by decide, by decide, by decide, by decide⟩
  rw [messages_iff hdistinct]
  intro h
  have hdisable := (h.2 _ rfl).1
  unfold Consistent at hdisable
  dsimp only at hdisable
  rw [if_neg (by decide)] at hdisable
  have hnotify := (hdisable (by decide)).2 (by decide)
  revert hnotify
  decide

end Msm7x27a.Camera
