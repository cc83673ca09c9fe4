import Msm7x27a.Camera.Hal

/-!
# Preview frames

What is taken for a callback is given back before it returns, but a buffer of the window that cannot
be locked is never enqueued, nor is one that was dequeued without gralloc (`givenBack_iff`).  The copy
into a buffer is as long as the preview size was when the window was set (`copies_inside`).
-/

namespace Msm7x27a.Camera

open Msm7x27a.Leases
open Msm7x27a.Runs

variable {H : Headers} {s s' t : Hal} {l : List Resource} {op : Op} {o : FrameOutcome}
  {frame : Frame} {dataPtr : Option Frame}

/-! ### What is given back -/

/-- The buffer that a preview frame leaves dequeued. -/
def Hal.lostBuffer (s : Hal) (o : FrameOutcome) : List Resource :=
  match s.window, o.dequeue_buffer with
  | some window, some buf_handle =>
    if o.heap = true ∧ ¬(s.gralloc = true ∧ o.lock = true ∧ o.enqueue_buffer = true) then
      [.buffer window buf_handle]
    else []
  | _, _ => []

/-- What a call leaves taken. -/
def Hal.lost (H : Headers) (s : Hal) : Op → List Resource
  | .data msg_type (some _) o =>
    if msg_type ≠ H.CAMERA_MSG_RAW_IMAGE ∧ msg_type = H.CAMERA_MSG_PREVIEW_FRAME then s.lostBuffer o
    else []
  | _ => []

theorem lost_data (H : Headers) (s : Hal) (msg_type : BitVec 32) (frame : Frame) (o : FrameOutcome) :
    s.lost H (.data msg_type (some frame) o) =
      if msg_type ≠ H.CAMERA_MSG_RAW_IMAGE ∧ msg_type = H.CAMERA_MSG_PREVIEW_FRAME then s.lostBuffer o
      else [] := rfl

/-- A preview frame whose buffer is dequeued finds gralloc, and the buffer is locked and enqueued. -/
def GivesBack (H : Headers) (s : Hal) (op : Op) : Prop := s.lost H op = []

instance (s : Hal) (op : Op) : Decidable (GivesBack H s op) :=
  inferInstanceAs (Decidable (s.lost H op = []))

theorem Holds.acquireRelease {log : List (Use Resource)} (h : Holds log l) (r : Resource) :
    Holds (.release r :: .acquire r :: log) l := (h.acquire r).release

/-- The lock on a buffer is given back. -/
theorem holds_copyFrame (h : Holds s.uses l) (window buf_handle : ℕ) :
    Holds (s.copyFrame window buf_handle frame).uses l := Holds.acquireRelease h _

theorem holds_handlePreviewData (h : Holds s.uses l) :
    Holds (s.CameraHAL_HandlePreviewData frame o).uses (s.lostBuffer o ++ l) := by
  unfold Hal.CameraHAL_HandlePreviewData Hal.lostBuffer
  rcases s.window with - | window
  · exact h
  · rcases o.dequeue_buffer with - | buf_handle
    · exact h
    · dsimp only
      by_cases hheap : o.heap = false
      · rw [if_pos hheap, if_neg (by simp [hheap])]
        exact h
      · have htaken := h.acquire (.buffer window buf_handle)
        rw [if_neg hheap]
        by_cases hgralloc : s.gralloc = false
        · rw [if_pos (by exact hgralloc), if_pos (by simp [hheap, hgralloc])]
          exact htaken
        · rw [if_neg (by exact hgralloc)]
          by_cases hlock : o.lock = false
          · rw [if_pos hlock, if_pos (by simp [hheap, hlock])]
            exact htaken
          · rw [if_neg hlock]
            have hcopied : Holds ((s.use (.acquire (.buffer window buf_handle))).copyFrame window
                buf_handle frame).uses (.buffer window buf_handle :: l) := holds_copyFrame htaken _ _
            by_cases henqueue : o.enqueue_buffer = true
            · rw [if_pos henqueue, if_neg (by simp_all)]
              exact hcopied.release
            · rw [if_neg henqueue, if_pos (by simp_all)]
              exact hcopied

/-- The memory of the client that a callback holds. -/
def heldMemory (mem : Option ℕ) : List Resource := mem.toList.map .memory

theorem holds_wrap_memory_data {p : Option ℕ × Hal} (h : Holds s.uses l)
    (hp : s.wrap_memory_data dataPtr o = some p) : Holds p.2.uses (heldMemory p.1 ++ l) := by
  unfold Hal.wrap_memory_data at hp
  split at hp
  · obtain rfl := Option.some.inj hp
    exact h
  · split at hp
    · obtain rfl := Option.some.inj hp
      exact h.acquire _
    · cases hp

theorem holds_releaseMemory {mem : Option ℕ} (h : Holds s.uses (heldMemory mem ++ l)) :
    Holds (s.releaseMemory mem).uses l := by
  cases mem with
  | none => exact h
  | some mem => exact h.release

theorem uses_deliver (callback : Bool) (msg_type : BitVec 32) (mem : Option ℕ) :
    (s.deliver callback msg_type dataPtr mem).uses = s.uses := by
  unfold Hal.deliver
  split <;> rfl

theorem holds_data {msg_type : BitVec 32} (h : Holds s.uses l)
    (hs : s.wrap_data_callback H msg_type dataPtr o = some s') :
    Holds s'.uses (s.lost H (.data msg_type dataPtr o) ++ l) := by
  unfold Hal.wrap_data_callback at hs
  split at hs
  next hraw =>
    obtain rfl := Option.some.inj hs
    cases dataPtr with
    | none => exact h
    | some frame =>
      rw [lost_data, if_neg fun hpreview => hpreview.1 hraw]
      exact h
  next hraw =>
    cases dataPtr with
    | none =>
      obtain rfl := Option.some.inj hs
      exact h
    | some frame =>
      obtain ⟨p, hp, rfl⟩ := Option.map_eq_some_iff.1 hs
      refine holds_releaseMemory ?_
      rw [uses_deliver]
      refine holds_wrap_memory_data ?_ hp
      rw [lost_data]
      by_cases hpreview : msg_type = H.CAMERA_MSG_PREVIEW_FRAME
      · rw [if_pos hpreview, if_pos ⟨hraw, hpreview⟩]
        exact holds_handlePreviewData h
      · rw [if_neg hpreview, if_neg fun hif => hpreview hif.2]
        exact h

theorem holds_dataTimestamp {msg_type : BitVec 32} (h : Holds s.uses l)
    (hs : s.wrap_data_callback_timestamp msg_type dataPtr o = some s') : Holds s'.uses l := by
  unfold Hal.wrap_data_callback_timestamp at hs
  obtain ⟨p, hp, rfl⟩ := Option.map_eq_some_iff.1 hs
  refine holds_releaseMemory ?_
  cases dataPtr with
  | none =>
    dsimp only [Option.elim]
    rw [uses_deliver]
    exact holds_wrap_memory_data h hp
  | some frame =>
    have hboth := holds_wrap_memory_data (h.acquire (.recordingFrame frame.id)) hp
    have hframe := hboth.perm List.perm_middle
    have hdelivered : Holds ((p.2.deliver p.2.data_timestamp_callback msg_type (some frame) p.1).uses)
        (.recordingFrame frame.id :: (heldMemory p.1 ++ l)) := by
      rw [uses_deliver]
      exact hframe
    exact hdelivered.release

/-- One call. -/
theorem holds_step (h : Holds s.uses l) (hs : step H s op = some s') :
    Holds s'.uses (s.lost H op ++ l) := by
  cases op with
  | setPreviewWindow window o =>
    obtain rfl := Option.some.inj hs
    have huses : (s.camera_set_preview_window window o).2.uses = s.uses := by
      unfold Hal.camera_set_preview_window
      cases window with
      | none => rfl
      | some w =>
        dsimp only
        split_ifs <;> rfl
    rw [huses]
    exact h
  | setCallbacks => exact Option.some.inj hs ▸ h
  | setParameters => exact Option.some.inj hs ▸ h
  | enableMsgType => exact Option.some.inj hs ▸ h
  | disableMsgType msg_type =>
    obtain rfl := Option.some.inj hs
    unfold Hal.camera_disable_msg_type
    split <;> exact h
  | startPreview =>
    obtain rfl := Option.some.inj hs
    unfold Hal.camera_start_preview
    split <;> exact h
  | stopPreview =>
    obtain rfl := Option.some.inj hs
    unfold Hal.camera_stop_preview
    split <;> exact h
  | data => exact holds_data h hs
  | dataTimestamp => exact holds_dataTimestamp h hs

/-- **Given back.** After a run everything that was taken has been given back, once, if and only if
every preview frame whose buffer was dequeued found gralloc, and its buffer was locked and enqueued. -/
theorem givenBack_iff {previewSize : Int × Int} {ops : List Op}
    (hr : run (step H) (opened previewSize) ops = some t) :
    Settled t.uses ↔ Along (step H) (GivesBack H) (opened previewSize) ops := by
  have hempty : ∀ {s : Hal} {l : List Resource}, Holds s.uses l → Settled s.uses → l = [] := by
    intro s l ⟨l', hl', hperm⟩ hsettled
    obtain rfl : l' = [] := Option.some.inj (hl'.symm.trans hsettled)
    exact hperm.nil_eq.symm
  refine run_iff (I := fun s => Holds s.uses []) (J := fun s => ∃ l, Holds s.uses l)
    (P := fun s => Settled s.uses) (C := GivesBack H) ?_ ?_ ?_ ?_ ?_ ⟨[], holds_nil⟩ holds_nil hr
  · exact fun s op s' ⟨l, h⟩ hs => ⟨_, holds_step h hs⟩
  · intro s op s' _ h hC hs
    have hs' := holds_step h hs
    rwa [hC] at hs'
  · exact fun s h => h.settled
  · intro s op s' _ h hs hsettled
    exact List.append_eq_nil_iff.1 (hempty (holds_step h hs) hsettled) |>.1
  · intro s op s' ⟨l, h⟩ hs hsettled
    have hl := (List.append_eq_nil_iff.1 (hempty (holds_step h hs) hsettled)).2
    rw [hl] at h
    exact h.settled

/-- A frame whose buffer cannot be locked, and one that is copied. -/
def twoFrames : List Op :=
  [.setCallbacks true true true, .setPreviewWindow (some 1) {},
    .data 0x10#32 (some ⟨1, [0, 0, 0, 0, 0, 0]⟩)
      { dequeue_buffer := some 7, lock := false, request_memory := some 5 },
    .data 0x10#32 (some ⟨2, [0, 0, 0, 0, 0, 0]⟩) { dequeue_buffer := some 8, request_memory := some 6 }]

theorem givenBack_twoFrames : ∃ t, run (step cameraMessages) (opened (2, 2)) twoFrames = some t ∧
    ¬Settled t.uses := by
  have h : ∃ t, run (step cameraMessages) (opened (2, 2)) twoFrames = some t ∧ t.window = some 1 :=
    exists_run (by decide)
  obtain ⟨t, hr, -⟩ := h
  refine ⟨t, hr, fun hsettled => ?_⟩
  exact absurd ((givenBack_iff hr).1 hsettled) (by decide)

/-! ### The copies -/

/-- The copy reads and writes what is there. -/
def Copy.Inside (c : Copy) : Prop := 0 ≤ c.length ∧ c.length ≤ c.source ∧ c.length ≤ c.target

/-- A window can be set.  While there is one, the preview size stays as it is, and a frame has it. -/
def Careful (H : Headers) (s : Hal) : Op → Prop
  | .setPreviewWindow (some _) o => o.get_min_undequeued_buffer_count = true ∧
    o.set_buffer_count = true ∧ o.set_buffers_geometry = true
  | .setParameters previewSize => 0 ≤ frameBytes previewSize.1 previewSize.2 ∧
    (s.window = none ∨ previewSize = s.previewSize)
  | .data msg_type (some frame) _ => msg_type = H.CAMERA_MSG_PREVIEW_FRAME →
    frameBytes s.previewSize.1 s.previewSize.2 ≤ frame.data.length
  | _ => True

instance decidableCareful (s : Hal) : ∀ op, Decidable (Careful H s op)
  | .setPreviewWindow (some _) o => inferInstanceAs (Decidable (o.get_min_undequeued_buffer_count = true ∧
    o.set_buffer_count = true ∧ o.set_buffers_geometry = true))
  | .setParameters previewSize => inferInstanceAs (Decidable (0 ≤ frameBytes previewSize.1 previewSize.2 ∧
    (s.window = none ∨ previewSize = s.previewSize)))
  | .data msg_type (some frame) _ => inferInstanceAs (Decidable (msg_type = H.CAMERA_MSG_PREVIEW_FRAME →
    frameBytes s.previewSize.1 s.previewSize.2 ≤ frame.data.length))
  | .setPreviewWindow none _ | .setCallbacks .. | .enableMsgType _ | .disableMsgType _ | .startPreview
  | .stopPreview | .data _ none _ | .dataTimestamp .. => isTrue trivial

/-- The window has buffers for the preview size, which was copied when it was set. -/
structure Sized (s : Hal) : Prop where
  nonneg : 0 ≤ frameBytes s.previewSize.1 s.previewSize.2
  copied : ∀ w, s.window = some w → (s.preview_width, s.preview_height) = s.previewSize
  buffers : ∀ w, s.window = some w → s.geometry w = s.previewSize
  inside : ∀ c ∈ s.copies, c.Inside

/-- The sizes and the window are the same, and so are the copies. -/
structure SameSizes (s s' : Hal) : Prop where
  window : s'.window = s.window
  previewSize : s'.previewSize = s.previewSize
  copied : (s'.preview_width, s'.preview_height) = (s.preview_width, s.preview_height)
  geometry : s'.geometry = s.geometry
  copies : s'.copies = s.copies

theorem SameSizes.trans {s'' : Hal} (h : SameSizes s s') (h' : SameSizes s' s'') : SameSizes s s'' where
  window := h'.window.trans h.window
  previewSize := h'.previewSize.trans h.previewSize
  copied := h'.copied.trans h.copied
  geometry := h'.geometry.trans h.geometry
  copies := h'.copies.trans h.copies

theorem Sized.same (h : Sized s) (hs : SameSizes s s') : Sized s' where
  nonneg := by
    rw [hs.previewSize]
    exact h.nonneg
  copied w hw := by
    rw [hs.copied, hs.previewSize]
    exact h.copied w (hs.window ▸ hw)
  buffers w hw := by
    rw [hs.geometry, hs.previewSize]
    exact h.buffers w (hs.window ▸ hw)
  inside := by
    rw [hs.copies]
    exact h.inside

theorem sameSizes_wrap_memory_data {p : Option ℕ × Hal} (hp : s.wrap_memory_data dataPtr o = some p) :
    SameSizes s p.2 := by
  unfold Hal.wrap_memory_data at hp
  split at hp
  · obtain rfl := Option.some.inj hp
    exact ⟨rfl, rfl, rfl, rfl, rfl⟩
  · split at hp
    · obtain rfl := Option.some.inj hp
      exact ⟨rfl, rfl, rfl, rfl, rfl⟩
    · cases hp

theorem sameSizes_deliver (callback : Bool) (msg_type : BitVec 32) (mem : Option ℕ) :
    SameSizes s (s.deliver callback msg_type dataPtr mem) := by
  unfold Hal.deliver
  split <;> exact ⟨rfl, rfl, rfl, rfl, rfl⟩

theorem sameSizes_releaseMemory (mem : Option ℕ) : SameSizes s (s.releaseMemory mem) := by
  cases mem <;> exact ⟨rfl, rfl, rfl, rfl, rfl⟩

/-- A preview frame that is long enough. -/
theorem Sized.handlePreviewData (h : Sized s)
    (hframe : frameBytes s.previewSize.1 s.previewSize.2 ≤ frame.data.length) :
    Sized (s.CameraHAL_HandlePreviewData frame o) := by
  unfold Hal.CameraHAL_HandlePreviewData
  rcases hw : s.window with - | window
  · exact h
  · rcases o.dequeue_buffer with - | buf_handle
    · exact h
    · have htaken : Sized (s.use (.acquire (.buffer window buf_handle))) :=
        h.same ⟨rfl, rfl, rfl, rfl, rfl⟩
      have hcopied : Sized ((s.use (.acquire (.buffer window buf_handle))).copyFrame window
          buf_handle frame) := by
        refine ⟨h.nonneg, h.copied, h.buffers, fun c hc => ?_⟩
        rcases List.mem_cons.1 hc with rfl | hc
        · have hsize := h.copied window hw
          have hlength : frameBytes s.preview_width s.preview_height =
              frameBytes s.previewSize.1 s.previewSize.2 := by
            rw [← hsize]
          have htarget : frameBytes (s.geometry window).1 (s.geometry window).2 =
              frameBytes s.previewSize.1 s.previewSize.2 := by
            rw [h.buffers window hw]
          have hlen : 0 ≤ frameBytes s.preview_width s.preview_height := hlength ▸ h.nonneg
          refine ⟨hlen, ?_, ?_⟩
          · exact hlength.le.trans hframe
          · exact (hlength.trans htarget.symm).le
        · exact h.inside c hc
      dsimp only
      split_ifs
      · exact h
      · exact htaken
      · exact htaken
      · exact hcopied.same ⟨rfl, rfl, rfl, rfl, rfl⟩
      · exact hcopied

theorem Sized.step (h : Sized s) (hC : Careful H s op) (hs : step H s op = some s') : Sized s' := by
  cases op with
  | setPreviewWindow window o =>
    obtain rfl := Option.some.inj hs
    cases window with
    | none => exact ⟨h.nonneg, fun w hw => (nomatch hw), fun w hw => (nomatch hw), h.inside⟩
    | some window =>
      obtain ⟨hmin, hcount, hgeometry⟩ := hC
      unfold Hal.camera_set_preview_window
      dsimp only
      rw [if_neg (by simp [hmin]), if_neg (by simp [hcount]), if_neg (by simp [hgeometry])]
      split
      all_goals
        refine ⟨h.nonneg, fun w hw => rfl, fun w hw => ?_, h.inside⟩
        obtain rfl := Option.some.inj hw
        exact Function.update_self ..
  | setCallbacks => exact Option.some.inj hs ▸ h.same ⟨rfl, rfl, rfl, rfl, rfl⟩
  | setParameters previewSize =>
    obtain rfl := Option.some.inj hs
    obtain ⟨hnonneg, hnone | rfl⟩ := hC
    · refine ⟨hnonneg, fun w hw => ?_, fun w hw => ?_, h.inside⟩
      · cases hnone.symm.trans hw
      · cases hnone.symm.trans hw
    · exact h
  | enableMsgType => exact Option.some.inj hs ▸ h.same ⟨rfl, rfl, rfl, rfl, rfl⟩
  | disableMsgType msg_type =>
    obtain rfl := Option.some.inj hs
    unfold Hal.camera_disable_msg_type
    split
    · exact h
    · exact h.same ⟨rfl, rfl, rfl, rfl, rfl⟩
  | startPreview =>
    obtain rfl := Option.some.inj hs
    unfold Hal.camera_start_preview
    split
    · exact h.same ⟨rfl, rfl, rfl, rfl, rfl⟩
    · exact h
  | stopPreview =>
    obtain rfl := Option.some.inj hs
    unfold Hal.camera_stop_preview
    split
    · exact h.same ⟨rfl, rfl, rfl, rfl, rfl⟩
    · exact h
  | data msg_type dataPtr o =>
    have hs : s.wrap_data_callback H msg_type dataPtr o = some s' := hs
    unfold Hal.wrap_data_callback at hs
    split at hs
    · exact Option.some.inj hs ▸ h.same ⟨rfl, rfl, rfl, rfl, rfl⟩
    · cases dataPtr with
      | none => exact Option.some.inj hs ▸ h
      | some frame =>
        obtain ⟨p, hp, rfl⟩ := Option.map_eq_some_iff.1 hs
        have hpreview : Sized (if msg_type = H.CAMERA_MSG_PREVIEW_FRAME then
            s.CameraHAL_HandlePreviewData frame o else s) := by
          split
          next hmsg => exact h.handlePreviewData (hC hmsg)
          next => exact h
        exact hpreview.same (((sameSizes_wrap_memory_data hp).trans (sameSizes_deliver ..)).trans
          (sameSizes_releaseMemory _))
  | dataTimestamp msg_type dataPtr o =>
    obtain ⟨p, hp, rfl⟩ := Option.map_eq_some_iff.1 hs
    have hreceived : SameSizes s
        (dataPtr.elim s fun frame => s.use (.acquire (.recordingFrame frame.id))) := by
      cases dataPtr <;> exact ⟨rfl, rfl, rfl, rfl, rfl⟩
    have hreleased : ∀ s₁ : Hal, SameSizes s₁
        (dataPtr.elim s₁ fun frame => s₁.use (.release (.recordingFrame frame.id))) := by
      intro s₁
      cases dataPtr <;> exact ⟨rfl, rfl, rfl, rfl, rfl⟩
    exact h.same ((((hreceived.trans (sameSizes_wrap_memory_data hp)).trans (sameSizes_deliver ..)).trans
      (hreleased _)).trans (sameSizes_releaseMemory _))

/-- **Copies.** If every window could be set, the preview size was never negative and changed only while
there was none, and the frames had it, every copy into a buffer was inside the frame and inside the
buffer. -/
theorem copies_inside {previewSize : Int × Int} {ops : List Op}
    (hsize : 0 ≤ frameBytes previewSize.1 previewSize.2)
    (hC : Along (step H) (Careful H) (opened previewSize) ops)
    (hr : run (step H) (opened previewSize) ops = some t) : ∀ c ∈ t.copies, c.Inside := by
  have hstart : Sized (opened previewSize) :=
    ⟨hsize, fun w hw => (nomatch hw), fun w hw => (nomatch hw), nofun⟩
  exact (run_inv (fun s op s' h hC hs => h.step hC hs) hstart hC hr).inside

theorem copies_inside_frame : ∃ t, run (step cameraMessages) (opened (2, 2)) twoFrames = some t ∧
    t.copies ≠ [] ∧ ∀ c ∈ t.copies, c.Inside := by
  have h : ∃ t, run (step cameraMessages) (opened (2, 2)) twoFrames = some t ∧ t.copies ≠ [] :=
    exists_run (by decide)
  obtain ⟨t, hr, hcopies⟩ := h
  refine ⟨t, hr, hcopies, copies_inside (by decide) (by decide) hr⟩

end Msm7x27a.Camera
