import Mathlib.Logic.Function.Basic
import Msm7x27a.Audio.Hardware
import Msm7x27a.Lib.Bytes
import Msm7x27a.Lib.Leases
import Msm7x27a.Lib.Runs

/-!
# The camera HAL

One open camera: the calls of the client, and the callbacks of the legacy camera under it.  A preview
frame is copied into a buffer of the window, and every frame into memory of the client's.  What is
taken and given back is logged: the buffers of the window and the locks on them, the client's memory,
and the frames that are recorded.

The legacy camera is known by its interface: the messages that are enabled, and its preview size.
`none` is a null pointer dereference.
-/

namespace Msm7x27a.Camera

open Msm7x27a.Audio (Status)
open Msm7x27a.Bytes (Byte)
open Msm7x27a.Leases (Use)

/-- The bits `CAMERA_MSG_*`. -/
structure Headers where
  CAMERA_MSG_SHUTTER : BitVec 32
  CAMERA_MSG_PREVIEW_FRAME : BitVec 32
  CAMERA_MSG_RAW_IMAGE : BitVec 32
  CAMERA_MSG_RAW_IMAGE_NOTIFY : BitVec 32

/-- `IMemory`: which one, and what `getMemory` shows of it. -/
structure Frame where
  id : ℕ
  data : List Byte
  deriving DecidableEq

/-- What is taken, and has to be given back. -/
inductive Resource where
  | buffer (window buf_handle : ℕ)
  | lock (buf_handle : ℕ)
  | memory (mem : ℕ)
  | recordingFrame (id : ℕ)
  deriving DecidableEq

/-- A `memcpy` into a buffer: its length, and the sizes of what it reads and writes. -/
structure Copy where
  length : Int
  source : Int
  target : Int
  deriving DecidableEq

/-- A message for the client, with the data of its memory. -/
structure Message where
  msg_type : BitVec 32
  data : Option (List Byte)
  deriving DecidableEq

/-- `priv_camera_device_t`, with what the legacy camera and the windows hold of it. -/
structure Hal where
  window : Option ℕ := none
  data_callback : Bool := false
  data_timestamp_callback : Bool := false
  request_memory : Bool := false
  preview_width : Int := 0
  preview_height : Int := 0
  gralloc : Bool := false
  /-- The messages that the legacy camera sends. -/
  msgTypes : BitVec 32 := 0
  /-- The preview size among the parameters of the legacy camera. -/
  previewSize : Int × Int
  /-- The buffers of a window have this size. -/
  geometry : ℕ → Int × Int := fun _ => (0, 0)
  uses : List (Use Resource) := []
  copies : List Copy := []
  messages : List Message := []

/-- What succeeds when a window is set. -/
structure WindowOutcome where
  hw_get_module : Bool := true
  get_min_undequeued_buffer_count : Bool := true
  set_buffer_count : Bool := true
  set_buffers_geometry : Bool := true
  deriving DecidableEq

/-- What a callback meets: whether the frame has a heap, the buffer that is dequeued, whether it can
be locked and enqueued, and the memory that is requested. -/
structure FrameOutcome where
  heap : Bool := true
  dequeue_buffer : Option ℕ := none
  lock : Bool := true
  enqueue_buffer : Bool := true
  request_memory : Option ℕ := none
  deriving DecidableEq

/-- `width * height * 3 / 2`, where the product fits an `int`. -/
def frameBytes (width height : Int) : Int := (width * height * 3).tdiv 2

namespace Hal

variable (H : Headers) (s : Hal)

def use (u : Use Resource) : Hal := { s with uses := u :: s.uses }

/-! ### The window -/

def camera_set_preview_window (window : Option ℕ) (o : WindowOutcome) : Status × Hal :=
  let s := { s with window := window }
  match window with
  | none => (0, s)
  | some w =>
    let s := if s.gralloc then s else { s with gralloc := o.hw_get_module }
    if o.get_min_undequeued_buffer_count = false then (-1, s)
    else if o.set_buffer_count = false then (-1, s)
    else
      let s := { s with preview_width := s.previewSize.1, preview_height := s.previewSize.2 }
      if o.set_buffers_geometry = false then (-1, s)
      else (0, { s with geometry := Function.update s.geometry w s.previewSize })

/-- The frame is copied while the buffer is locked. -/
def copyFrame (window buf_handle : ℕ) (frame : Frame) : Hal :=
  let s := s.use (.acquire (.lock buf_handle))
  let s := { s with copies :=
    { length := frameBytes s.preview_width s.preview_height
      source := frame.data.length
      target := frameBytes (s.geometry window).1 (s.geometry window).2 } :: s.copies }
  s.use (.release (.lock buf_handle))

def CameraHAL_HandlePreviewData (frame : Frame) (o : FrameOutcome) : Hal :=
  match s.window, o.dequeue_buffer with
  | some window, some buf_handle =>
    if o.heap = false then s
    else
      let s := s.use (.acquire (.buffer window buf_handle))
      if s.gralloc = false then s
      else if o.lock = false then s
      else
        let s := s.copyFrame window buf_handle frame
        if o.enqueue_buffer then s.use (.release (.buffer window buf_handle)) else s
  | _, _ => s

/-! ### The callbacks -/

/-- The memory of the client, if there is a callback for it. -/
def wrap_memory_data (dataPtr : Option Frame) (o : FrameOutcome) : Option (Option ℕ × Hal) :=
  if s.request_memory = false then some (none, s)
  else
    match dataPtr, o.heap, o.request_memory with
    | some _, true, some mem => some (some mem, s.use (.acquire (.memory mem)))
    | _, _, _ => none

def releaseMemory : Option ℕ → Hal
  | some mem => s.use (.release (.memory mem))
  | none => s

/-- The message, if there is a callback for it. -/
def deliver (callback : Bool) (msg_type : BitVec 32) (dataPtr : Option Frame) (mem : Option ℕ) : Hal :=
  if callback then
    { s with messages := ⟨msg_type, mem.bind fun _ => dataPtr.map (·.data)⟩ :: s.messages }
  else s

def wrap_data_callback (msg_type : BitVec 32) (dataPtr : Option Frame) (o : FrameOutcome) : Option Hal :=
  if msg_type = H.CAMERA_MSG_RAW_IMAGE then
    some { s with msgTypes := s.msgTypes &&& ~~~H.CAMERA_MSG_RAW_IMAGE }
  else
    match dataPtr with
    | none => some s
    | some frame =>
      let s := if msg_type = H.CAMERA_MSG_PREVIEW_FRAME then s.CameraHAL_HandlePreviewData frame o else s
      (s.wrap_memory_data dataPtr o).map fun (mem, s) =>
        (s.deliver s.data_callback msg_type dataPtr mem).releaseMemory mem

/-- A frame that is recorded is the HAL's until it releases it. -/
def wrap_data_callback_timestamp (msg_type : BitVec 32) (dataPtr : Option Frame) (o : FrameOutcome) :
    Option Hal :=
  let s := dataPtr.elim s fun frame => s.use (.acquire (.recordingFrame frame.id))
  (s.wrap_memory_data dataPtr o).map fun (mem, s) =>
    let s := s.deliver s.data_timestamp_callback msg_type dataPtr mem
    let s := dataPtr.elim s fun frame => s.use (.release (.recordingFrame frame.id))
    s.releaseMemory mem

/-! ### Messages -/

def camera_enable_msg_type (msg_type : BitVec 32) : Hal :=
  let msg_type := if msg_type &&& H.CAMERA_MSG_RAW_IMAGE_NOTIFY ≠ 0 then
    msg_type &&& ~~~H.CAMERA_MSG_RAW_IMAGE_NOTIFY ||| H.CAMERA_MSG_RAW_IMAGE else msg_type
  { s with msgTypes := s.msgTypes ||| msg_type }

def camera_disable_msg_type (msg_type : BitVec 32) : Hal :=
  if msg_type = H.CAMERA_MSG_SHUTTER then s
  else { s with msgTypes := s.msgTypes &&& ~~~msg_type }

/-- All of the messages are enabled. -/
def camera_msg_type_enabled (msg_type : BitVec 32) : Bool := s.msgTypes &&& msg_type = msg_type

def camera_start_preview : Hal :=
  if s.camera_msg_type_enabled H.CAMERA_MSG_PREVIEW_FRAME = false then
    { s with msgTypes := s.msgTypes ||| H.CAMERA_MSG_PREVIEW_FRAME }
  else s

def camera_stop_preview : Hal :=
  if s.camera_msg_type_enabled H.CAMERA_MSG_PREVIEW_FRAME then
    { s with msgTypes := s.msgTypes &&& ~~~H.CAMERA_MSG_PREVIEW_FRAME }
  else s

end Hal

/-- The calls of the client, and the callbacks of the legacy camera. -/
inductive Op where
  | setPreviewWindow (window : Option ℕ) (o : WindowOutcome)
  | setCallbacks (data_cb data_cb_timestamp get_memory : Bool)
  | setParameters (previewSize : Int × Int)
  | enableMsgType (msg_type : BitVec 32)
  | disableMsgType (msg_type : BitVec 32)
  | startPreview
  | stopPreview
  | data (msg_type : BitVec 32) (dataPtr : Option Frame) (o : FrameOutcome)
  | dataTimestamp (msg_type : BitVec 32) (dataPtr : Option Frame) (o : FrameOutcome)

def step (H : Headers) (s : Hal) : Op → Option Hal
  | .setPreviewWindow window o => some (s.camera_set_preview_window window o).2
  | .setCallbacks data_cb data_cb_timestamp get_memory => some { s with
      data_callback := data_cb, data_timestamp_callback := data_cb_timestamp
      request_memory := get_memory }
  | .setParameters previewSize => some { s with previewSize := previewSize }
  | .enableMsgType msg_type => some (s.camera_enable_msg_type H msg_type)
  | .disableMsgType msg_type => some (s.camera_disable_msg_type H msg_type)
  | .startPreview => some (s.camera_start_preview H)
  | .stopPreview => some (s.camera_stop_preview H)
  | .data msg_type dataPtr o => s.wrap_data_callback H msg_type dataPtr o
  | .dataTimestamp msg_type dataPtr o => s.wrap_data_callback_timestamp msg_type dataPtr o

/-- The messages of `camera.h`. -/
def cameraMessages : Headers where
  CAMERA_MSG_SHUTTER := 0x2#32
  CAMERA_MSG_PREVIEW_FRAME := 0x10#32
  CAMERA_MSG_RAW_IMAGE := 0x80#32
  CAMERA_MSG_RAW_IMAGE_NOTIFY := 0x200#32

/-- A camera that has just been opened. -/
def opened (previewSize : Int × Int) : Hal where
  previewSize := previewSize

end Msm7x27a.Camera
