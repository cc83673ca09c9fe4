import Msm7x27a.Lib.Threads
import Msm7x27a.Voip.Device

/-!
# The VoIP streams as programs

The operations of `Voip.Device` with the mutexes `AudioHardware::mLock` and `mVoipLock`, as programs
of `Lib.Threads`: each function of the source under its own name, with the code between two lock
operations as one region.  A region's continuation gets the state before it, where the branch that
the code takes is decided.  A call that crashes on a null pointer ends there, and so does one whose
last driver call has not returned; neither holds a mutex that its thread still needs.

`alone_prog`: run without other threads, the program of an operation does what `Voip.step` says.
-/

namespace Msm7x27a.Voip

open Msm7x27a.Audio Msm7x27a.Threads

inductive Mutex where
  | mLock | mVoipLock
  deriving DecidableEq, Repr

/-- `dropReference` is the region of `closeOutputStream` that counts the references down. -/
inductive Region where
  | work | dropReference
  deriving DecidableEq, Repr

/-- What a thread may run: the operations on the VoIP streams, `setMicMute`, `setParameters` with
the devices its calls of `doRouting` choose and the bit rate it sets, and opening and closing of the
streams that do not touch the driver (`routed` is the device that closing an input restores). -/
inductive Request where
  | voip (op : Op)
  | setMicMute (state : Bool)
  | setParameters (routed : List Int) (bitRate : Option ℕ)
  | openOther
  | closeOtherOutput
  | closeOtherInput (routed : Option Int)

namespace Locks

abbrev Code := Cmd Device Mutex Empty Region

/-- A region. -/
def act (f : Device → Device) (k : Device → Code) : Code := .act .work f (fun _ => none) k

/-- The call returns. -/
def returned (call : Call) (ok : Bool) : Code :=
  act (fun w => { w with log := .returned call ok :: w.log }) fun _ => .done

/-- A region that changes members of `AudioHardware` only. -/
def onHw (f : AudioHardware → AudioHardware) (w : Device) : Device := { w with hw := f w.hw }

/-- Where a method finds the members of its input stream. -/
structure Slot where
  get : Device → AudioStreamInVoip
  put : AudioStreamInVoip → Device → Device

/-- The stream with the handle `h`; the members of a stream deleted under the method are those of a
new one. -/
def Slot.table (h : ℕ) : Slot where
  get w := (w.mVoipInputs h).getD { mFirstread := false }
  put s w :=
    { w with mVoipInputs := Function.update w.mVoipInputs h ((w.mVoipInputs h).map fun _ => s) }

/-- A stream that only this thread knows. -/
def Slot.own (s : AudioStreamInVoip) : Slot := ⟨fun _ => s, fun _ w => w⟩

/-- The input stream as a method sees it. -/
def Slot.view (x : Slot) (w : Device) : OnIn := w.onIn (x.get w)

/-- A region of a method of the input stream. -/
def Slot.run (x : Slot) (f : OnIn → OnIn) (w : Device) : Device :=
  let c := f (x.view w)
  { x.put c.s w with hw := c.hw, log := c.log }

/-- The direct output as a method sees it. -/
def viewOut (w : Device) : OnOut := w.onOut (w.mDirectOutput.getD {})

/-- A region of a method of the direct output. -/
def runOut (f : OnOut → OnOut) (w : Device) : Device :=
  let c := f (viewOut w)
  { w with hw := c.hw, mDirectOutput := w.mDirectOutput.map fun _ => c.s, log := c.log }

section Programs

variable (P : Platform)

/-! ### `AudioHardware` -/

def setMicMute (state : Bool) (k : Code) : Code :=
  .lock .mLock <| act (onHw fun hw => (Audio.setMicMute P state hw).2) fun _ => .unlock .mLock k

def doRouting (new_snd_device : Int) (k : Code) : Code :=
  .lock .mLock <| act (onHw (Audio.doRouting new_snd_device)) fun _ => .unlock .mLock k

def setupDeviceforVoipCall (value : Bool) (k : Code) : Code :=
  let mode := if value then AudioMode.inCommunication else .normal
  act (onHw fun hw => if hw.mMode = .inCall ∧ value = false then hw else (setMode P mode hw).2)
    fun w =>
      if w.hw.mMode = .inCall ∧ value = false then k
      else if (setMode P mode w.hw).1 = badValue then k
      else setMicMute P (!value) k

def setParameters (routed : List Int) (bitRate : Option ℕ) : Code :=
  routed.foldr doRouting <|
    act (onHw fun hw => { hw with mVoipBitRate := bitRate.getD hw.mVoipBitRate }) fun _ => .done

/-! ### `AudioStreamInVoip` -/

/-- The closing branch of `standby` up to the call of `setupDeviceforVoipCall`. -/
def stopIn (h : ℕ) (c : OnIn) : OnIn :=
  let r := stopMvs (.inp h) c.s.mFd { c.hw with mVoipInActive := false } c.log
  ⟨r.1, { c.s with mFd := -1, mSetupDevice := false }, r.2⟩

def standbyIn (h : ℕ) (x : Slot) (k : Code) : Code :=
  .lock .mVoipLock <|
  act (x.run fun c =>
    if AudioStreamInVoip.Closes c then stopIn h c else AudioStreamInVoip.standby P h c) fun w =>
  if AudioStreamInVoip.Closes (x.view w) then
    setupDeviceforVoipCall P false <|
    act (x.run fun c => { c with s := { c.s with mState := .closed } }) fun _ =>
    .unlock .mVoipLock k
  else .unlock .mVoipLock k

/-- `~AudioStreamInVoip`. -/
def destroyIn (h : ℕ) (x : Slot) (k : Code) : Code :=
  act (onHw fun hw => { hw with mVoipInActive := false }) fun _ => standbyIn P h x k

/-- The driver calls of `read`. -/
def poll (bytes : ℕ) (ret : Int) (results : List AudioStreamInVoip.ReadResult) (c : OnIn) :
    Option (AudioStreamInVoip.ReadReturn × OnIn) :=
  if c.s.mFormat = .pcm16Bit then AudioStreamInVoip.readPcm ret results bytes 0 c []
  else AudioStreamInVoip.readFrame ret results c

def pollIn (h bytes : ℕ) (ret : Int) (results : List AudioStreamInVoip.ReadResult) : Code :=
  let x := Slot.table h
  act (x.run fun c => ((poll bytes ret results c).map Prod.snd).getD c) fun w =>
  match poll bytes ret results (x.view w) with
  | some r => returned (.read h) (Device.readOk r.1)
  | none => .done

def readOpen (h bytes : ℕ) (ret : Int) (results : List AudioStreamInVoip.ReadResult) : Code :=
  let x := Slot.table h
  act id fun w =>
  if bytes < (x.get w).mBufferSize then returned (.read h) (Device.readOk ⟨0, []⟩)
  else
    act (x.run fun c => { c with s := { c.s with mSetupDevice := true } }) fun w =>
    if (x.get w).mSetupDevice then pollIn h bytes ret results
    else setupDeviceforVoipCall P true <| pollIn h bytes ret results

def read (h bytes : ℕ) (o : MvsOutcome) (results : List AudioStreamInVoip.ReadResult) : Code :=
  let x := Slot.table h
  act id fun w =>
  if (x.get w).mHardware = false then returned (.read h) (Device.readOk ⟨-1, []⟩)
  else if AudioStreamInVoip.Reopens (x.view w) then
    .lock .mLock <|
    act (x.run fun c => (AudioStreamInVoip.reset P c o).2) fun w =>
    .unlock .mLock <|
    if (AudioStreamInVoip.reset P (x.view w) o).1 ≠ noError then
      returned (.read h) (Device.readOk ⟨-1, []⟩)
    else
      act (x.run fun c => { c with s := { c.s with mState := .started } }) fun _ =>
      readOpen P h bytes 0 results
  else readOpen P h bytes bytes results

/-- The `DEVICE_IN_COMMUNICATION` branch of `openInputStream`, for a handle that is free. -/
def openInputStream (h : ℕ) (junk : Bool) (a : StreamArgs) (o : MvsOutcome) : Code :=
  let set (w : Device) := AudioStreamInVoip.set P (w.onIn { mFirstread := junk }) a o
  .lock .mLock <|
  act (fun w =>
    if a.rate ≠ 8000 ∨ w.mVoipInputs h ≠ none then w
    else
      let r := set w
      { w with
        hw := r.2.2.hw, log := r.2.2.log
        mVoipInputs := if r.1 = noError then Function.update w.mVoipInputs h (some r.2.2.s)
          else w.mVoipInputs }) fun w =>
  .unlock .mLock <|
  if a.rate ≠ 8000 ∨ w.mVoipInputs h ≠ none then .done
  else
    let r := set w
    if r.1 ≠ noError then
      if r.2.2.s.mHardware then destroyIn P h (.own r.2.2.s) .done else .done
    else
      act id fun w =>
      if w.hw.mVoipOutActive then
        act ((Slot.table h).run fun c => { c with s := { c.s with mSetupDevice := true } }) fun _ =>
        setupDeviceforVoipCall P true <| returned (.openStream (.inp h)) true
      else returned (.openStream (.inp h)) true

def closeInputStream (h : ℕ) : Code :=
  .lock .mLock <|
  act id fun w =>
  if w.mVoipInputs h = none then .unlock .mLock .done
  else
    .unlock .mLock <|
    destroyIn P h (.table h) <|
    .lock .mLock <|
    act (fun w => { w with
      mVoipInputs := Function.update w.mVoipInputs h none
      log := .returned (.close (.inp h)) true :: w.log }) fun _ =>
    .unlock .mLock .done

/-! ### `AudioStreamOutDirect` -/

/-- The closing branch of `standby` up to the call of `setupDeviceforVoipCall`. -/
def stopOut (c : OnOut) : OnOut :=
  let r := stopMvs .out c.s.mFd { c.hw with mVoipOutActive := false } c.log
  ⟨r.1, { c.s with mFd := -1 }, r.2⟩

def standbyOut (k : Code) : Code :=
  .lock .mVoipLock <|
  act (runOut fun c =>
    if AudioStreamOutDirect.Closes c then stopOut c else AudioStreamOutDirect.standby P c) fun w =>
  if AudioStreamOutDirect.Closes (viewOut w) then
    setupDeviceforVoipCall P false <|
    act (runOut fun c => { c with s := { c.s with mStandby := true } }) fun _ =>
    .unlock .mVoipLock k
  else .unlock .mVoipLock k

/-- `~AudioStreamOutDirect`. -/
def destroyOut (k : Code) : Code :=
  act (onHw fun hw => { hw with mVoipOutActive := false }) fun _ => standbyOut P k

def writeOpen (status : Int) (bytes : ℕ) (frame : MvsFrame)
    (results : List AudioStreamOutDirect.WriteResult) : Code :=
  let write c := AudioStreamOutDirect.writeOpen c status bytes frame results
  act (runOut fun c => ((write c).map Prod.snd).getD c) fun w =>
  match write (viewOut w) with
  | some r => returned .write (Device.writeOk bytes r.1)
  | none => .done

/-- `write` leaves standby, once it has the descriptor. -/
def leaveStandby (k : Code) : Code :=
  act (onHw fun hw => { hw with mVoipOutActive := true }) fun w =>
  let k := act (runOut fun c => { c with s := { c.s with mStandby := false } }) fun _ => k
  if w.hw.mVoipInActive then setupDeviceforVoipCall P true k else k

/-- `write` opens the driver; a failure is dealt with at `Error`. -/
def openOut (o : MvsOutcome) (c : OnOut) : MvsOpened × OnOut :=
  let r := openMvs P c.hw c.log c.s.mFormat c.s.mSampleRate o
  let c : OnOut := ⟨r.hw, { c.s with mFd := r.fd.getD c.s.mFd }, r.log⟩
  (r, if r.status < 0 then (AudioStreamOutDirect.fail r.status c).2 else c)

def write (bytes : ℕ) (frame : MvsFrame) (o : MvsOutcome)
    (results : List AudioStreamOutDirect.WriteResult) : Code :=
  act id fun w =>
  if (viewOut w).s.mStandby then
    if 0 ≤ w.hw.mVoipFd then
      act (runOut fun c => { c with s := { c.s with mFd := c.hw.mVoipFd } }) fun _ =>
      leaveStandby P <| writeOpen noInit bytes frame results
    else
      act (runOut fun c => (openOut P o c).2) fun w =>
      let r := (openOut P o (viewOut w)).1
      if r.status < 0 then returned .write (Device.writeOk bytes ⟨r.status, []⟩)
      else leaveStandby P <| writeOpen r.status bytes frame results
  else writeOpen noInit bytes frame results

/-- The direct branch of `openOutputStream`. -/
def openOutputStream (a : StreamArgs) : Code :=
  let set (w : Device) := AudioStreamOutDirect.set (w.onOut {}) a
  let count (hw : AudioHardware) := { hw with mDirectOutrefCnt := hw.mDirectOutrefCnt + 1 }
  let opened : Code → Code := fun k =>
    act (fun w => { w with log := .returned (.openStream .out) true :: w.log }) fun _ => k
  .lock .mLock <|
  act (fun w =>
    if w.mDirectOutput ≠ none then onHw count w
    else if (set w).1 ≠ noError then w
    else
      let c := (set w).2.2
      { w with hw := count c.hw, mDirectOutput := some c.s, log := c.log }) fun w =>
  if w.mDirectOutput ≠ none then opened <| .unlock .mLock .done
  else if (set w).1 ≠ noError then .unlock .mLock .done
  else
    let k := .lock .mLock <| opened <| .unlock .mLock .done
    .unlock .mLock <|
    act id fun w => if w.hw.mVoipInActive then setupDeviceforVoipCall P true k else k

/-- `closeOutputStream` of the direct output.  The mutex is held while the stream is deleted. -/
def closeOutputStream : Code :=
  .lock .mLock <|
  .act .dropReference (fun w =>
      if w.mDirectOutput = none then w
      else onHw (fun hw => { hw with mDirectOutrefCnt := hw.mDirectOutrefCnt - 1 }) w)
    (fun _ => none) fun w =>
  if w.mDirectOutput ≠ none ∧ w.hw.mDirectOutrefCnt - 1 ≤ 0 then
    destroyOut P <|
    act (fun w => { w with mDirectOutput := none, log := .returned (.close .out) true :: w.log })
      fun _ => .unlock .mLock .done
  else .unlock .mLock .done

/-! ### The operations -/

def ofOp : Op → Code
  | .openInputStream h junk a o => openInputStream P h junk a o
  | .read h bytes o results => read P h bytes o results
  | .standbyIn h => standbyIn P h (.table h) (returned (.standby (.inp h)) true)
  | .closeInputStream h => closeInputStream P h
  | .openOutputStream a => openOutputStream P a
  | .write bytes frame o results => write P bytes frame o results
  | .standbyOut => standbyOut P (returned (.standby .out) true)
  | .closeOutputStream => closeOutputStream P

def prog : Request → Code
  | .voip op => ofOp P op
  | .setMicMute state => setMicMute P state .done
  | .setParameters routed bitRate => setParameters routed bitRate
  | .openOther | .closeOtherOutput => .lock .mLock (.unlock .mLock .done)
  | .closeOtherInput routed =>
    .lock .mLock <| .unlock .mLock <| routed.toList.foldr doRouting <|
    .lock .mLock <| .unlock .mLock .done

/-- A method of a stream begins while there is such a stream. -/
def may : Request → Device → Bool
  | .voip (.read h ..), w | .voip (.standbyIn h), w => (w.mVoipInputs h).isSome
  | .voip (.write ..), w | .voip .standbyOut, w => w.mDirectOutput.isSome
  | _, _ => true

/-- Any number of threads `τ`, which all may run everything. -/
def system (τ : Type) : System Device Mutex Empty Region Request τ := ⟨prog P, fun _ => may⟩

end Programs

/-! ### What a program does when it runs alone -/

@[simp] theorem alone_act (f : Device → Device) (k : Device → Code) (w : Device) :
    (act f k).alone w = (k w).alone (f w) := rfl

@[simp] theorem alone_lock (m : Mutex) (k : Code) (w : Device) :
    (Cmd.lock m k : Code).alone w = k.alone w := rfl

@[simp] theorem alone_unlock (m : Mutex) (k : Code) (w : Device) :
    (Cmd.unlock m k : Code).alone w = k.alone w := rfl

@[simp] theorem alone_done (w : Device) : (Cmd.done : Code).alone w = w := rfl

@[simp] theorem alone_returned (call : Call) (ok : Bool) (w : Device) :
    (returned call ok).alone w = { w with log := .returned call ok :: w.log } := rfl

section Alone

variable (P : Platform)

@[simp] theorem alone_setMicMute (state : Bool) (k : Code) (w : Device) :
    (setMicMute P state k).alone w = k.alone (onHw (fun hw => (Audio.setMicMute P state hw).2) w) :=
  rfl

@[simp] theorem alone_setup (value : Bool) (k : Code) (w : Device) :
    (setupDeviceforVoipCall P value k).alone w =
      k.alone (onHw (fun hw => (Audio.setupDeviceforVoipCall P value hw).2) w) := by
  unfold setupDeviceforVoipCall Audio.setupDeviceforVoipCall
  by_cases h : w.hw.mMode = .inCall ∧ value = false
  · simp [h, onHw]
  · by_cases hb : (setMode P (if value then AudioMode.inCommunication else .normal) w.hw).1 = badValue
    · simp [h, hb, onHw]
    · rw [alone_act]
      simp only [onHw, h, hb, if_false, alone_setMicMute]
      congr 2
      split_ifs <;> rfl

/-- While there is a stream `h`, its slot is the table's entry. -/
theorem table_view {w : Device} {h : ℕ} {s : AudioStreamInVoip} (hs : w.mVoipInputs h = some s) :
    (Slot.table h).view w = w.onIn s := by
  simp [Slot.view, Slot.table, hs]

theorem table_run {w : Device} {h : ℕ} {s : AudioStreamInVoip} (hs : w.mVoipInputs h = some s)
    (f : OnIn → OnIn) :
    (Slot.table h).run f w =
      { w with
        hw := (f (w.onIn s)).hw, log := (f (w.onIn s)).log
        mVoipInputs := Function.update w.mVoipInputs h (some (f (w.onIn s)).s) } := by
  unfold Slot.run
  rw [table_view hs]
  simp [Slot.table, hs]

/-- Two regions of a method, with a change of the hardware between them. -/
theorem table_run_run {w : Device} {h : ℕ} {s : AudioStreamInVoip} (hs : w.mVoipInputs h = some s)
    (f g : OnIn → OnIn) (e : AudioHardware → AudioHardware) :
    (Slot.table h).run g (onHw e ((Slot.table h).run f w)) =
      (Slot.table h).run (fun c => g { f c with hw := e (f c).hw }) w := by
  rw [table_run hs, table_run hs, onHw, table_run (Function.update_self ..)]
  simp [Device.onIn]

theorem standby_eq (h : ℕ) (c : OnIn) (hc : AudioStreamInVoip.Closes c) :
    AudioStreamInVoip.standby P h c =
      { stopIn h c with
        hw := (Audio.setupDeviceforVoipCall P false (stopIn h c).hw).2
        s := { (stopIn h c).s with mState := .closed } } := by
  obtain ⟨h1, h2, h3⟩ := hc
  simp [AudioStreamInVoip.standby, stopIn, stopMvs, h1, h2, h3]

/-- `standby` of an input stream. -/
theorem alone_standbyIn {w : Device} {h : ℕ} {s : AudioStreamInVoip}
    (hs : w.mVoipInputs h = some s) (k : Code) :
    (standbyIn P h (.table h) k).alone w =
      k.alone ((Slot.table h).run (AudioStreamInVoip.standby P h) w) := by
  by_cases hc : AudioStreamInVoip.Closes (w.onIn s)
  · have hv : AudioStreamInVoip.Closes ((Slot.table h).view w) := (table_view hs).symm ▸ hc
    simp only [standbyIn, alone_lock, alone_act, hv, if_true, alone_setup, alone_unlock]
    rw [table_run_run hs, table_run hs, table_run hs]
    simp [hc, standby_eq]
  · have hv : ¬ AudioStreamInVoip.Closes ((Slot.table h).view w) := (table_view hs).symm ▸ hc
    simp only [standbyIn, alone_lock, alone_act, hv, if_false, alone_unlock]
    rw [table_run hs, table_run hs]
    simp [hc]

theorem alone_destroyIn {w : Device} {h : ℕ} {s : AudioStreamInVoip}
    (hs : w.mVoipInputs h = some s) (k : Code) :
    (destroyIn P h (.table h) k).alone w =
      k.alone ((Slot.table h).run (AudioStreamInVoip.destroy P h) w) := by
  have hs' : (onHw (fun hw => { hw with mVoipInActive := false }) w).mVoipInputs h = some s := hs
  rw [destroyIn, alone_act, alone_standbyIn P hs', table_run hs', table_run hs]
  rfl

/-- The destructor of a stream that never came into the table. -/
theorem alone_destroy_own (w : Device) (h : ℕ) (s : AudioStreamInVoip) (k : Code) :
    (destroyIn P h (.own s) k).alone w =
      k.alone ((Slot.own s).run (AudioStreamInVoip.destroy P h) w) := by
  unfold destroyIn standbyIn AudioStreamInVoip.destroy
  simp only [alone_act, alone_lock]
  set w' := onHw (fun hw => { hw with mVoipInActive := false }) w
  have hv : (Slot.own s).view w' = { w.onIn s with hw := { w.hw with mVoipInActive := false } } := rfl
  by_cases hc : AudioStreamInVoip.Closes ((Slot.own s).view w')
  · rw [if_pos hc, alone_setup, alone_act, alone_unlock]
    congr 1
    simp only [Slot.run, hc, if_true]
    rw [hv] at hc
    rw [Device.onIn] at hc
    simp [standby_eq P h _ hc, onHw, Slot.own, Slot.view, Device.onIn, w']
  · rw [if_neg hc, alone_unlock]
    congr 1
    simp only [Slot.run, hc, if_false]
    rfl

theorem alone_pollIn {w : Device} {h bytes : ℕ} {ret : Int}
    {results : List AudioStreamInVoip.ReadResult} {s : AudioStreamInVoip}
    (hs : w.mVoipInputs h = some s) {r : AudioStreamInVoip.ReadReturn × OnIn}
    (hr : poll bytes ret results (w.onIn s) = some r) :
    (pollIn h bytes ret results).alone w = w.putIn h r.2 (.read h) (Device.readOk r.1) := by
  simp only [pollIn, alone_act, table_view hs, table_run hs, hr]
  rfl

theorem putIn_self {w : Device} {h : ℕ} {s : AudioStreamInVoip} (hs : w.mVoipInputs h = some s)
    (call : Call) (ok : Bool) :
    w.putIn h (w.onIn s) call ok = { w with log := .returned call ok :: w.log } := by
  simp [Device.putIn, ← hs]

@[simp] theorem putIn_run {w : Device} {h : ℕ} {s : AudioStreamInVoip}
    (hs : w.mVoipInputs h = some s) (f : OnIn → OnIn) (c : OnIn) (call : Call) (ok : Bool) :
    ((Slot.table h).run f w).putIn h c call ok = w.putIn h c call ok := by
  simp [table_run hs, Device.putIn]

@[simp] theorem putIn_onHw (w : Device) (h : ℕ) (f : AudioHardware → AudioHardware) (c : OnIn)
    (call : Call) (ok : Bool) : (onHw f w).putIn h c call ok = w.putIn h c call ok := rfl

theorem run_mVoipInputs {w : Device} {h : ℕ} {s : AudioStreamInVoip}
    (hs : w.mVoipInputs h = some s) (f : OnIn → OnIn) :
    ((Slot.table h).run f w).mVoipInputs h = some (f (w.onIn s)).s := by
  simp [table_run hs]

theorem alone_readOpen {w : Device} {h bytes : ℕ} {ret : Int}
    {results : List AudioStreamInVoip.ReadResult} {s : AudioStreamInVoip}
    (hs : w.mVoipInputs h = some s) {r : AudioStreamInVoip.ReadReturn × OnIn}
    (hr : AudioStreamInVoip.readOpen P (w.onIn s) bytes ret results = some r) :
    (readOpen P h bytes ret results).alone w = w.putIn h r.2 (.read h) (Device.readOk r.1) := by
  have hget : (Slot.table h).get w = s := by simp [Slot.table, hs]
  unfold AudioStreamInVoip.readOpen at hr
  simp only [readOpen, alone_act, id, hget]
  by_cases hb : bytes < s.mBufferSize
  · rw [Device.onIn_s, if_pos hb] at hr
    cases hr
    rw [if_pos hb, alone_returned, putIn_self hs]
  · rw [Device.onIn_s, if_neg hb] at hr
    rw [if_neg hb, alone_act, hget]
    set f : OnIn → OnIn := fun c => { c with s := { c.s with mSetupDevice := true } }
    have hs₁ := run_mVoipInputs hs f
    have hv : ((Slot.table h).run f w).onIn (f (w.onIn s)).s = f (w.onIn s) := by
      rw [table_run hs]; rfl
    by_cases hd : s.mSetupDevice = true
    · have hset : AudioStreamInVoip.setupDevice P (w.onIn s) = f (w.onIn s) := by
        rw [AudioStreamInVoip.setupDevice, Device.onIn_s, if_pos hd]
        show w.onIn s = { w.onIn s with s := { s with mSetupDevice := true } }
        rw [← hd]
        rfl
      rw [if_pos hd, alone_pollIn hs₁ (r := r), putIn_run hs]
      rw [hv, ← hset]
      exact hr
    · have hset : AudioStreamInVoip.setupDevice P (w.onIn s) =
          { f (w.onIn s) with hw := (Audio.setupDeviceforVoipCall P true w.hw).2 } := by
        simp [AudioStreamInVoip.setupDevice, hd, f]
      rw [if_neg hd, alone_setup]
      set e := fun hw => (Audio.setupDeviceforVoipCall P true hw).2
      have hs₂ : (onHw e ((Slot.table h).run f w)).mVoipInputs h = some (f (w.onIn s)).s := hs₁
      rw [alone_pollIn hs₂ (r := r), putIn_onHw, putIn_run hs]
      have hv₂ : (onHw e ((Slot.table h).run f w)).onIn (f (w.onIn s)).s =
          { f (w.onIn s) with hw := e w.hw } := by
        rw [table_run hs]; rfl
      rw [hv₂, ← hset]
      exact hr

theorem alone_read {w w' : Device} {h bytes : ℕ} {o : MvsOutcome}
    {results : List AudioStreamInVoip.ReadResult} (hw : w.read P h bytes o results = some w') :
    (read P h bytes o results).alone w = w' := by
  unfold Device.read at hw
  obtain ⟨s, hs, hw⟩ := Option.bind_eq_some_iff.1 hw
  obtain ⟨r, hr, rfl⟩ := Option.map_eq_some_iff.1 hw
  have hget : (Slot.table h).get w = s := by simp [Slot.table, hs]
  simp only [read, alone_act, id, hget, table_view hs]
  unfold AudioStreamInVoip.read at hr
  by_cases hh : s.mHardware = false
  · rw [Device.onIn_s, if_pos hh] at hr
    cases hr
    rw [if_pos hh, alone_returned, putIn_self hs]
  rw [Device.onIn_s, if_neg hh] at hr
  rw [if_neg hh]
  by_cases ho : AudioStreamInVoip.Reopens (w.onIn s)
  · rw [if_pos ho] at hr
    rw [if_pos ho, alone_lock, alone_act, alone_unlock, table_view hs]
    set f : OnIn → OnIn := fun c => (AudioStreamInVoip.reset P c o).2
    have hs₁ := run_mVoipInputs hs f
    by_cases hst : (AudioStreamInVoip.reset P (w.onIn s) o).1 ≠ noError
    · rw [if_pos hst] at hr
      cases hr
      rw [if_pos hst, alone_returned, table_run hs]
      rfl
    · rw [if_neg hst] at hr
      rw [if_neg hst, alone_act]
      set g : OnIn → OnIn := fun c => { c with s := { c.s with mState := .started } }
      have hv : ((Slot.table h).run f w).onIn (f (w.onIn s)).s = f (w.onIn s) := by
        rw [table_run hs]; rfl
      have hs₂ := run_mVoipInputs hs₁ g
      rw [hv] at hs₂
      rw [alone_readOpen P hs₂ (r := r), putIn_run hs₁, putIn_run hs]
      have hv₂ : ((Slot.table h).run g ((Slot.table h).run f w)).onIn (g (f (w.onIn s))).s =
          g (f (w.onIn s)) := by
        rw [table_run hs₁, hv]; rfl
      rw [hv₂]
      exact hr
  · rw [if_neg ho] at hr
    rw [if_neg ho, alone_readOpen P hs hr]

theorem alone_openInputStream {w w' : Device} {h : ℕ} {junk : Bool} {a : StreamArgs} {o : MvsOutcome}
    (hw : w.openInputStream P h junk a o = some w') :
    (openInputStream P h junk a o).alone w = w' := by
  unfold Device.openInputStream at hw
  by_cases hh : a.rate ≠ 8000 ∨ w.mVoipInputs h ≠ none
  · rw [if_pos hh] at hw; cases hw
  rw [if_neg hh] at hw
  simp only [openInputStream, alone_lock, alone_act, alone_unlock, if_neg hh]
  set r := AudioStreamInVoip.set P (w.onIn { mFirstread := junk }) a o
  by_cases hst : r.1 ≠ noError
  · rw [if_pos hst] at hw
    by_cases hm : r.2.2.s.mHardware = true
    · rw [if_pos hm] at hw
      cases hw
      rw [if_pos hst, if_pos hm, alone_destroy_own, alone_done, if_neg hst]
      rfl
    · rw [if_neg hm] at hw; cases hw
  · rw [if_neg hst] at hw
    rw [if_neg hst, alone_act]
    rw [not_not] at hst
    simp only [id, hst, if_true]
    by_cases hv : r.2.2.hw.mVoipOutActive = true
    · rw [if_pos hv] at hw
      cases hw
      rw [if_pos hv, alone_act, alone_setup, alone_returned,
        table_run (s := r.2.2.s) (Function.update_self ..)]
      simp [onHw, Device.onIn]
    · rw [if_neg hv] at hw
      cases hw
      rw [if_neg hv, alone_returned]

theorem alone_closeInputStream (w : Device) (h : ℕ) :
    (closeInputStream P h).alone w = w.closeInputStream P h := by
  unfold Device.closeInputStream
  simp only [closeInputStream, alone_lock, alone_act, id]
  cases hs : w.mVoipInputs h with
  | none => rfl
  | some s =>
    rw [if_neg (by simp), alone_unlock, alone_destroyIn P hs, table_run hs]
    simp

/-- While there is a direct output, a method sees its members. -/
theorem viewOut_eq {w : Device} {s : AudioStreamOutDirect} (hs : w.mDirectOutput = some s) :
    viewOut w = w.onOut s := by
  simp [viewOut, hs]

theorem runOut_eq {w : Device} {s : AudioStreamOutDirect} (hs : w.mDirectOutput = some s)
    (f : OnOut → OnOut) :
    runOut f w =
      { w with
        hw := (f (w.onOut s)).hw, mDirectOutput := some (f (w.onOut s)).s
        log := (f (w.onOut s)).log } := by
  simp [runOut, viewOut_eq hs, hs]

theorem run_mDirectOutput {w : Device} {s : AudioStreamOutDirect} (hs : w.mDirectOutput = some s)
    (f : OnOut → OnOut) : (runOut f w).mDirectOutput = some (f (w.onOut s)).s := by
  rw [runOut_eq hs]

theorem onOut_run {w : Device} {s : AudioStreamOutDirect} (hs : w.mDirectOutput = some s)
    (f : OnOut → OnOut) : (runOut f w).onOut (f (w.onOut s)).s = f (w.onOut s) := by
  rw [runOut_eq hs]
  rfl

theorem putOut_run {w : Device} {s : AudioStreamOutDirect} (hs : w.mDirectOutput = some s)
    (f : OnOut → OnOut) (c : OnOut) (call : Call) (ok : Bool) :
    (runOut f w).putOut c call ok = w.putOut c call ok := by
  rw [runOut_eq hs]
  rfl

theorem standbyOut_eq (c : OnOut) (hc : AudioStreamOutDirect.Closes c) :
    AudioStreamOutDirect.standby P c =
      { stopOut c with
        hw := (Audio.setupDeviceforVoipCall P false (stopOut c).hw).2
        s := { (stopOut c).s with mStandby := true } } := by
  obtain ⟨h1, h2⟩ := hc
  simp [AudioStreamOutDirect.standby, stopOut, stopMvs, h1, h2]

theorem alone_standbyOut {w : Device} {s : AudioStreamOutDirect} (hs : w.mDirectOutput = some s)
    (k : Code) :
    (standbyOut P k).alone w = k.alone (runOut (AudioStreamOutDirect.standby P) w) := by
  simp only [standbyOut, alone_lock, alone_act, viewOut_eq hs]
  by_cases hc : AudioStreamOutDirect.Closes (w.onOut s)
  · rw [if_pos hc, alone_setup, alone_act, alone_unlock, runOut_eq hs, runOut_eq hs, onHw,
      runOut_eq rfl]
    simp only [hc, if_true, standbyOut_eq P _ hc]
    simp [Device.onOut]
  · rw [if_neg hc, alone_unlock, runOut_eq hs, runOut_eq hs]
    simp [hc]

theorem alone_destroyOut {w : Device} {s : AudioStreamOutDirect} (hs : w.mDirectOutput = some s)
    (k : Code) :
    (destroyOut P k).alone w = k.alone (runOut (AudioStreamOutDirect.destroy P) w) := by
  have hs' : (onHw (fun hw => { hw with mVoipOutActive := false }) w).mDirectOutput = some s := hs
  rw [destroyOut, alone_act, alone_standbyOut P hs', runOut_eq hs', runOut_eq hs]
  rfl

theorem alone_closeOutputStream (w : Device) :
    (closeOutputStream P).alone w = w.closeOutputStream P := by
  unfold Device.closeOutputStream closeOutputStream
  cases hs : w.mDirectOutput with
  | none => simp [Cmd.alone, hs]
  | some s =>
    set w' := onHw (fun hw => { hw with mDirectOutrefCnt := hw.mDirectOutrefCnt - 1 }) w
    have hs' : w'.mDirectOutput = some s := hs
    by_cases hr : w.hw.mDirectOutrefCnt - 1 ≤ 0
    · simp only [Cmd.alone, hs, hr]
      rw [if_pos ⟨by simp, trivial⟩, if_neg (by simp), alone_destroyOut P hs', runOut_eq hs']
      simp [onHw, Device.onOut, w']
    · simp [Cmd.alone, hs, hr, onHw]

theorem alone_openOutputStream {w w' : Device} {a : StreamArgs}
    (hw : w.openOutputStream P a = some w') : (openOutputStream P a).alone w = w' := by
  unfold Device.openOutputStream at hw
  unfold openOutputStream
  cases hs : w.mDirectOutput with
  | some s =>
    rw [hs] at hw
    cases hw
    simp [hs, onHw]
  | none =>
    rw [hs] at hw
    simp only [alone_lock, alone_act, hs]
    set r := AudioStreamOutDirect.set (w.onOut {}) a
    by_cases hst : r.1 ≠ noError
    · simp [hst] at hw
    rw [not_not] at hst
    simp only [hst, ne_eq, not_true_eq_false, if_false, Option.some.injEq] at hw
    simp only [hst, ne_eq, not_true_eq_false, if_false, alone_unlock, alone_act, id]
    by_cases hv : r.2.2.hw.mVoipInActive = true
    · rw [if_pos hv] at hw
      rw [if_pos hv, alone_setup, alone_lock, alone_act, ← hw]
      rfl
    · rw [if_neg hv] at hw
      rw [if_neg hv, alone_lock, alone_act, ← hw]
      rfl

theorem alone_writeOpen {w : Device} {s : AudioStreamOutDirect} (hs : w.mDirectOutput = some s)
    {status : Int} {bytes : ℕ} {frame : MvsFrame} {results : List AudioStreamOutDirect.WriteResult}
    {r : AudioStreamOutDirect.WriteReturn × OnOut}
    (hr : AudioStreamOutDirect.writeOpen (w.onOut s) status bytes frame results = some r) :
    (writeOpen status bytes frame results).alone w =
      w.putOut r.2 .write (Device.writeOk bytes r.1) := by
  simp only [writeOpen, alone_act, viewOut_eq hs, runOut_eq hs, hr]
  rfl

theorem alone_leaveStandby {w : Device} {s : AudioStreamOutDirect} (hs : w.mDirectOutput = some s)
    (k : Code) :
    (leaveStandby P k).alone w =
      k.alone (runOut (fun c => AudioStreamOutDirect.leaveStandby P c c.s.mFd) w) := by
  have hs' : (onHw (fun hw => { hw with mVoipOutActive := true }) w).mDirectOutput = some s := hs
  unfold leaveStandby AudioStreamOutDirect.leaveStandby
  rw [alone_act]
  by_cases hv : w.hw.mVoipInActive = true
  · rw [if_pos hv, alone_setup, alone_act, runOut_eq hs]
    have hs₂ := fun e => (show (onHw e (onHw (fun hw => { hw with mVoipOutActive := true }) w)).mDirectOutput
      = some s from hs)
    rw [runOut_eq (hs₂ _)]
    simp [onHw, Device.onOut, hv]
  · rw [if_neg hv, alone_act, runOut_eq hs', runOut_eq hs]
    simp [onHw, Device.onOut, hv]

theorem alone_write {w w' : Device} {bytes : ℕ} {frame : MvsFrame} {o : MvsOutcome}
    {results : List AudioStreamOutDirect.WriteResult}
    (hw : w.write P bytes frame o results = some w') :
    (write P bytes frame o results).alone w = w' := by
  unfold Device.write at hw
  obtain ⟨s, hs, hw⟩ := Option.bind_eq_some_iff.1 hw
  obtain ⟨r, hr, rfl⟩ := Option.map_eq_some_iff.1 hw
  simp only [write, alone_act, id, viewOut_eq hs]
  unfold AudioStreamOutDirect.write at hr
  -- leaving standby with the descriptor in place, and the rest of the call
  have hleave : ∀ {f : OnOut → OnOut} {status : Int},
      AudioStreamOutDirect.writeOpen
        (AudioStreamOutDirect.leaveStandby P (f (w.onOut s)) (f (w.onOut s)).s.mFd)
        status bytes frame results = some r →
      (leaveStandby P (writeOpen status bytes frame results)).alone (runOut f w) =
        w.putOut r.2 .write (Device.writeOk bytes r.1) := by
    intro f status h
    have hs₁ := run_mDirectOutput hs f
    set g : OnOut → OnOut := fun c => AudioStreamOutDirect.leaveStandby P c c.s.mFd
    have hs₂ := run_mDirectOutput hs₁ g
    have hv := onOut_run hs₁ g
    rw [onOut_run hs] at hs₂ hv
    rw [alone_leaveStandby P hs₁, alone_writeOpen hs₂ (r := r), putOut_run hs₁, putOut_run hs]
    rw [hv]
    exact h
  by_cases hb : s.mStandby = true
  · rw [Device.onOut_s, if_pos hb] at hr
    rw [Device.onOut_s, if_pos hb]
    by_cases hf : 0 ≤ w.hw.mVoipFd
    · rw [Device.onOut_hw, if_pos hf] at hr
      rw [if_pos hf, alone_act]
      exact hleave hr
    · rw [Device.onOut_hw, if_neg hf] at hr
      rw [if_neg hf, alone_act, viewOut_eq hs]
      set f : OnOut → OnOut := fun c => (openOut P o c).2
      by_cases hst : (openOut P o (w.onOut s)).1.status < 0
      · have hf : f (w.onOut s) = r.2 ∧ r.1 = ⟨(openOut P o (w.onOut s)).1.status, []⟩ := by
          have := (if_pos hst).symm.trans hr
          cases this
          exact ⟨if_pos hst, rfl⟩
        rw [if_pos hst, alone_returned, runOut_eq hs, hf.1, hf.2]
        rfl
      · have hf : f (w.onOut s) = ⟨(openOut P o (w.onOut s)).1.hw,
            { s with mFd := (openOut P o (w.onOut s)).1.fd.getD s.mFd },
            (openOut P o (w.onOut s)).1.log⟩ := if_neg hst
        rw [if_neg hst]
        refine hleave (f := f) ?_
        rw [hf]
        exact (if_neg hst).symm.trans hr
  · rw [Device.onOut_s, if_neg hb] at hr
    rw [Device.onOut_s, if_neg hb, alone_writeOpen hs hr]

/-- **The programs.** Run without other threads, the program of an operation does what the
operation does as one step. -/
theorem alone_prog {w w' : Device} {op : Op} (hw : step P w op = some w') :
    (prog P (.voip op)).alone w = w' := by
  cases op with
  | openInputStream h junk a o => exact alone_openInputStream P hw
  | read h bytes o results => exact alone_read P hw
  | standbyIn h =>
    obtain ⟨s, hs, rfl⟩ := Option.map_eq_some_iff.1 hw
    show (standbyIn P h (.table h) _).alone w = _
    rw [alone_standbyIn P hs, alone_returned, table_run hs]
    rfl
  | closeInputStream h =>
    cases hw
    exact alone_closeInputStream P w h
  | openOutputStream a => exact alone_openOutputStream P hw
  | write bytes frame o results => exact alone_write P hw
  | standbyOut =>
    obtain ⟨s, hs, rfl⟩ := Option.map_eq_some_iff.1 hw
    show (standbyOut P _).alone w = _
    rw [alone_standbyOut P hs, alone_returned, runOut_eq hs]
    rfl
  | closeOutputStream =>
    cases hw
    exact alone_closeOutputStream P w

end Alone

end Locks

end Msm7x27a.Voip
