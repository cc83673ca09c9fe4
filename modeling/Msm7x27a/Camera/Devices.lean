import Msm7x27a.Camera.Hal
import Msm7x27a.Lib.Log
import Msm7x27a.Route.Parameters

/-!
# Camera devices

Devices are opened and closed.  The legacy camera is a static variable: the one that was opened last,
until a device is closed, whichever it is.  `reaches` says which calls reach the camera that was
opened for their device, and `freed` that nothing is left behind by an open that fails.
-/

namespace Msm7x27a.Camera

open Msm7x27a.Audio (Status)
open Msm7x27a.Leases
open Msm7x27a.Log
open Msm7x27a.Runs
open Msm7x27a.Route (atoi)

/-- The addresses of the device and of its operations, and the legacy camera that was opened for it. -/
structure CameraDevice where
  address : ℕ
  ops : ℕ
  camera : ℕ
  deriving DecidableEq

inductive Allocation where
  | device (address : ℕ) | ops (address : ℕ)
  deriving DecidableEq

/-- Newest first in the log. -/
inductive DeviceEvent where
  | opened (d : CameraDevice)
  | closed (d : CameraDevice)
  /-- A call on the device went to the camera. -/
  | called (d : CameraDevice) (camera : ℕ)
  deriving DecidableEq

/-- What an open meets: how many cameras there are, what the two `malloc`s return, and whether
`HAL_openCameraHardware` gives a camera. -/
structure DeviceOutcome where
  numCameras : Int
  device : Option ℕ
  ops : Option ℕ
  openCameraHardware : Bool
  deriving DecidableEq

/-- `qCamera`, the number of legacy cameras so far, and the open devices. -/
structure CameraModule where
  qCamera : Option ℕ := none
  cameras : ℕ := 0
  devices : List CameraDevice := []
  allocations : List (Use Allocation) := []
  log : List DeviceEvent := []
  deriving DecidableEq

/-- A null pointer is `none`. -/
inductive DeviceOp where
  | openDevice (name : Option (List Char)) (o : DeviceOutcome)
  | closeDevice (device : Option ℕ)
  /-- Any call that goes to the legacy camera. -/
  | call (device : ℕ)
  deriving DecidableEq

namespace CameraModule

variable (s : CameraModule)

def use (u : Use Allocation) : CameraModule := { s with allocations := u :: s.allocations }

/-- What is returned, and what is stored in `*device`, if anything is. -/
def camera_device_open (name : Option (List Char)) (o : DeviceOutcome) :
    Status × Option (Option ℕ) × CameraModule :=
  match name with
  | none => (0, none, s)
  | some name =>
    -- -EINVAL is -22 and -ENOMEM is -12
    if o.numCameras < atoi name then (-22, some none, s)
    else
      match o.device with
      | none => (-12, some none, s)
      | some address =>
        let s := s.use (.acquire (.device address))
        match o.ops with
        | none => (-12, some none, s.use (.release (.device address)))
        | some ops =>
          let s := s.use (.acquire (.ops ops))
          if o.openCameraHardware = false then
            (-12, some none, (s.use (.release (.device address))).use (.release (.ops ops)))
          else
            let d := { address := address, ops := ops, camera := s.cameras }
            (0, some (some address), { s with
              qCamera := some s.cameras, cameras := s.cameras + 1
              devices := d :: s.devices, log := .opened d :: s.log })

/-- The open device with an address. -/
def find (device : ℕ) : Option CameraDevice := s.devices.find? fun d => d.address = device

/-- The legacy camera of every device is dropped. -/
def camera_device_close (d : CameraDevice) : CameraModule :=
  let s := (s.use (.release (.ops d.ops))).use (.release (.device d.address))
  { s with qCamera := none, devices := s.devices.erase d, log := .closed d :: s.log }

/-- `none` is a null pointer dereference, or a device that is not open. -/
def step : DeviceOp → Option CameraModule
  | .openDevice name o => some (s.camera_device_open name o).2.2
  | .closeDevice none => some s
  | .closeDevice (some device) => (s.find device).map s.camera_device_close
  | .call device => (s.find device).bind fun d => s.qCamera.map fun camera =>
    { s with log := .called d camera :: s.log }

end CameraModule

/-! ### Which camera a call reaches -/

/-- The device that was opened last, if none has been closed since. -/
def current : List DeviceEvent → Option CameraDevice
  | [] => none
  | .opened d :: _ => some d
  | .closed _ :: _ => none
  | .called _ _ :: log => current log

/-- A call reaches the camera of its device if and only if the device was the last to be opened, and
none has been closed since. -/
def Reaches (log : List DeviceEvent) : DeviceEvent → Prop
  | .called d camera => camera = d.camera ↔ current log = some d
  | _ => True

namespace CameraModule

variable {s s' t : CameraModule} {d d' : CameraDevice} {op : DeviceOp}

theorem opened_of_current {log : List DeviceEvent} (h : current log = some d) : .opened d ∈ log := by
  induction log with
  | nil => cases h
  | cons e log ih =>
    cases e with
    | opened d' =>
      obtain rfl := Option.some.inj h
      exact List.mem_cons_self ..
    | closed d' => cases h
    | called d' camera => exact List.mem_cons_of_mem _ (ih h)

/-- What is allocated for a device. -/
def blocks (d : CameraDevice) : List Allocation := [.device d.address, .ops d.ops]

/-- The camera is that of the current device, and no two devices have had the same. -/
structure Inv (s : CameraModule) : Prop where
  camera : s.qCamera = (current s.log).map CameraDevice.camera
  fresh : ∀ d, .opened d ∈ s.log → d.camera < s.cameras
  distinct : ∀ d d', .opened d ∈ s.log → .opened d' ∈ s.log → d.camera = d'.camera → d = d'
  opened : ∀ d ∈ s.devices, .opened d ∈ s.log
  reaches : Always Reaches s.log
  holds : Holds s.allocations (s.devices.flatMap blocks)

theorem inv_start : Inv {} where
  camera := rfl
  fresh _ h := nomatch h
  distinct _ _ h := nomatch h
  opened _ h := nomatch h
  reaches := trivial
  holds := holds_nil

/-- Only the allocations differ, and what is held is the same. -/
theorem Inv.of_holds (h : s.Inv) {allocations : List (Use Allocation)}
    (hholds : Holds allocations (s.devices.flatMap blocks)) :
    Inv { s with allocations := allocations } :=
  ⟨h.camera, h.fresh, h.distinct, h.opened, h.reaches, hholds⟩

/-- A device is added, with a camera that is new. -/
theorem Inv.add (h : s.Inv) (address ops : ℕ) {allocations : List (Use Allocation)}
    (hholds : Holds allocations (.ops ops :: .device address :: s.devices.flatMap blocks)) :
    Inv { s with
      qCamera := some s.cameras, cameras := s.cameras + 1
      devices := ⟨address, ops, s.cameras⟩ :: s.devices, allocations := allocations
      log := .opened ⟨address, ops, s.cameras⟩ :: s.log } := by
  have hold : ∀ d, .opened d ∈ s.log → d.camera ≠ s.cameras := fun d hd => (h.fresh d hd).ne
  refine ⟨rfl, fun d hd => ?_, fun d d' hd hd' e => ?_, fun d hd => ?_, ⟨trivial, h.reaches⟩, ?_⟩
  · rcases List.mem_cons.1 hd with e | hd
    · injection e with e
      subst e
      exact Nat.lt_succ_self _
    · exact (h.fresh d hd).trans (Nat.lt_succ_self _)
  · rcases List.mem_cons.1 hd with e₁ | hd <;> rcases List.mem_cons.1 hd' with e₂ | hd'
    · injection e₁ with e₁
      injection e₂ with e₂
      rw [e₁, e₂]
    · injection e₁ with e₁
      subst e₁
      exact absurd e.symm (hold d' hd')
    · injection e₂ with e₂
      subst e₂
      exact absurd e (hold d hd)
    · exact h.distinct d d' hd hd' e
  · rcases List.mem_cons.1 hd with rfl | hd
    · exact List.mem_cons_self ..
    · exact List.mem_cons_of_mem _ (h.opened d hd)
  · exact hholds.perm (.swap ..)

theorem inv_open (h : s.Inv) (name : Option (List Char)) (o : DeviceOutcome) :
    (s.camera_device_open name o).2.2.Inv := by
  unfold camera_device_open
  cases name with
  | none => exact h
  | some name =>
    dsimp only
    by_cases hid : o.numCameras < atoi name
    · rw [if_pos hid]
      exact h
    · rw [if_neg hid]
      cases o.device with
      | none => exact h
      | some address =>
        have hdevice := h.holds.acquire (.device address)
        cases o.ops with
        | none => exact h.of_holds hdevice.release
        | some ops =>
          have hops := hdevice.acquire (.ops ops)
          dsimp only
          by_cases hcamera : o.openCameraHardware = false
          · rw [if_pos hcamera]
            exact h.of_holds (hops.perm (.swap ..)).release.release
          · rw [if_neg hcamera]
            exact h.add address ops hops

theorem inv_close (h : s.Inv) (hd : d ∈ s.devices) : (s.camera_device_close d).Inv := by
  have hblocks : (s.devices.flatMap blocks).Perm
      (.ops d.ops :: .device d.address :: (s.devices.erase d).flatMap blocks) := by
    refine ((List.perm_cons_erase hd).flatMap_right blocks).trans ?_
    exact .swap ..
  have hopened : ∀ {d' : CameraDevice}, .opened d' ∈ DeviceEvent.closed d :: s.log →
      .opened d' ∈ s.log := fun hd' => (List.mem_cons.1 hd').resolve_left nofun
  refine ⟨rfl, fun d' hd' => h.fresh d' (hopened hd'), fun d₁ d₂ h₁ h₂ => ?_, fun d' hd' => ?_,
    ⟨trivial, h.reaches⟩, (h.holds.perm hblocks).release.release⟩
  · exact h.distinct d₁ d₂ (hopened h₁) (hopened h₂)
  · exact List.mem_cons_of_mem _ (h.opened d' (List.mem_of_mem_erase hd'))

theorem inv_call (h : s.Inv) (hd : d ∈ s.devices) {camera : ℕ} (hcamera : s.qCamera = some camera) :
    Inv { s with log := .called d camera :: s.log } := by
  have hopened : ∀ {d' : CameraDevice}, .opened d' ∈ DeviceEvent.called d camera :: s.log →
      .opened d' ∈ s.log := fun hd' => (List.mem_cons.1 hd').resolve_left nofun
  refine ⟨h.camera, fun d' hd' => h.fresh d' (hopened hd'), fun d₁ d₂ h₁ h₂ => ?_, fun d' hd' => ?_,
    ⟨?_, h.reaches⟩, h.holds⟩
  · exact h.distinct d₁ d₂ (hopened h₁) (hopened h₂)
  · exact List.mem_cons_of_mem _ (h.opened d' hd')
  · obtain ⟨d', hcurrent, hd'⟩ := Option.map_eq_some_iff.1 (h.camera.symm.trans hcamera)
    show camera = d.camera ↔ current s.log = some d
    rw [hcurrent, ← hd', Option.some.injEq]
    constructor
    · exact h.distinct d' d (opened_of_current hcurrent) (h.opened d hd)
    · rintro rfl
      rfl

theorem Inv.step (h : s.Inv) (hs : s.step op = some s') : s'.Inv := by
  cases op with
  | openDevice name o => exact Option.some.inj hs ▸ inv_open h name o
  | closeDevice device =>
    cases device with
    | none => exact Option.some.inj hs ▸ h
    | some device =>
      obtain ⟨d, hd, rfl⟩ := Option.map_eq_some_iff.1 hs
      exact inv_close h (List.mem_of_find?_eq_some hd)
  | call device =>
    obtain ⟨d, hd, hs⟩ := Option.bind_eq_some_iff.1 hs
    obtain ⟨camera, hcamera, rfl⟩ := Option.map_eq_some_iff.1 hs
    exact inv_call h (List.mem_of_find?_eq_some hd) hcamera

theorem inv_of_run {ops : List DeviceOp} (hr : run step {} ops = some t) : t.Inv :=
  run_inv (C := fun _ _ => True) (fun _ _ _ h _ hs => h.step hs) inv_start
    (along_true (fun _ _ => trivial) _ _) hr

/-- **Calls.** In every run a call on an open device reaches the camera that was opened for it if and
only if the device was the last to be opened and none has been closed since; it crashes if and only if
one has been closed since the last open. -/
theorem calls_reach {ops : List DeviceOp} (hr : run step {} ops = some t) : Always Reaches t.log ∧
    ∀ device d, t.find device = some d → (t.step (.call device) = none ↔ current t.log = none) := by
  have h := inv_of_run hr
  refine ⟨h.reaches, fun device d hd => ?_⟩
  have hcall : t.step (.call device) =
      t.qCamera.map fun camera => { t with log := .called d camera :: t.log } := by
    unfold step
    dsimp only
    rw [hd]
    rfl
  rw [hcall, Option.map_eq_none_iff, h.camera, Option.map_eq_none_iff]

/-- **Nothing is left behind.** When all devices have been closed, everything that was allocated has
been freed, once, also by the opens that have failed. -/
theorem allocations_freed {ops : List DeviceOp} (hr : run step {} ops = some t)
    (hclosed : t.devices = []) : Settled t.allocations := by
  have h := (inv_of_run hr).holds
  rw [hclosed] at h
  exact h.settled

def anOpen (address : ℕ) : DeviceOp :=
  .openDevice (some ['0'])
    { numCameras := 2, device := some address, ops := some (address + 1), openCameraHardware := true }

/-- A call on the first of two devices reaches the camera of the second. -/
def twoCameras : List DeviceOp := [anOpen 10, anOpen 20, .call 10, .closeDevice (some 20)]

theorem calls_reach_twoCameras : ∃ t, run step {} twoCameras = some t ∧
    .called ⟨10, 11, 0⟩ 1 ∈ t.log ∧ t.step (.call 10) = none := by
  have h : ∃ t, run step {} twoCameras = some t ∧ .called ⟨10, 11, 0⟩ 1 ∈ t.log ∧
      t.find 10 = some ⟨10, 11, 0⟩ ∧ current t.log = none := exists_run (by decide)
  obtain ⟨t, hr, hcalled, hfind, hcurrent⟩ := h
  exact ⟨t, hr, hcalled, ((calls_reach hr).2 10 _ hfind).2 hcurrent⟩

end CameraModule

end Msm7x27a.Camera
