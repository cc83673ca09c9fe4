import Msm7x27a.Audio.Hardware
import Msm7x27a.Lib.SortedVector

/-!
# The streams `AudioHardware` keeps

The pointers of `AudioHardware` to its streams: `mOutput`, `mDirectOutput` with its reference count,
`mOutputLPA`, and the sorted vectors `mInputs` and `mVoipInputs`.  The functions that open and close
streams, as far as they read and write these pointers; a stream goes by the address of its object.
What happens inside a stream when it is set up or destroyed is the subject of other modules: of the
setup a function gets the status, and what it deletes is part of its result.

A destructor may not come back.  Those of the direct output and of a VoIP input write through
`mHardware`, which a `set` that refuses its arguments has not stored.  That of the direct output runs
with `mLock` held and may lock it once more.  That of a recording input asks `mOutput` for its devices.
The result of a function says whether it returns.
-/

namespace Msm7x27a.Streams

open Msm7x27a.Audio

def invalidOperation : Status := -38
def ebusy : Status := -16

/-- The flags `openOutputStream` reads from `*status`. -/
structure OutputFlags where
  direct : Bool := false
  voipRx : Bool := false
  lpa : Bool := false
  deriving DecidableEq, Repr

/-- The flags of the direct output. -/
def OutputFlags.Direct (flags : OutputFlags) : Prop := flags.direct ∧ flags.voipRx

instance (flags : OutputFlags) : Decidable flags.Direct := by
  unfold OutputFlags.Direct; infer_instance

/-- What a call finds in members that the streams and other calls write too. -/
structure Found where
  mMode : AudioMode := .normal
  /-- `mVoipFd >= 0`. -/
  mVoipFd : Bool := false
  mVoipInActive : Bool := false
  /-- `isFMAnalog()` or `IsFmon()`. -/
  fm : Bool := false
  deriving DecidableEq, Repr

/-- The members of `AudioHardware` that point to streams.  The constructor leaves `mOutputLPA` as it
finds it.  `InstanceCount` is static: the number of recording inputs that live. -/
structure Registry where
  mOutput : Option ℕ := none
  mDirectOutput : Option ℕ := none
  mDirectOutrefCnt : Int := 0
  mOutputLPA : Option ℕ
  mInputs : SortedVector ℕ := .empty
  mVoipInputs : SortedVector ℕ := .empty
  InstanceCount : Int := 0
  deriving DecidableEq

/-- What an open returns: the pointer, what it stores behind `status` if it does, the members
afterwards and the streams it deletes.  `returns` is false if the destructor of one does not come
back. -/
structure Opened where
  stream : Option ℕ
  status : Option Status
  reg : Registry
  deleted : List ℕ := []
  returns : Bool := true
  deriving DecidableEq

/-- What a close does: whether it is refused as an attempt to close an invalid stream, the members
afterwards, the streams it deletes, and whether their destructors come back. -/
structure Closed where
  refused : Bool := false
  reg : Registry
  deleted : List ℕ := []
  returns : Bool := true
  deriving DecidableEq

namespace Registry

/-! ### Destructors -/

/-- `~AudioStreamOutDirect` with `mLock` held: when `standby` gives the driver up outside a voice call,
`setupDeviceforVoipCall(false)` goes on to `setMicMute`, which locks `mLock`. -/
def directComesBack (found : Found) : Bool :=
  !(found.mVoipFd && !found.mVoipInActive) || found.mMode = .inCall

/-- `~AudioStreamInMSM72xx`, once `mHardware` is stored: `standby` calls `doRouting`, which reads
`mOutput->devices()`, unless FM is on. -/
def inputComesBack (found : Found) (reg : Registry) : Bool := found.fm || reg.mOutput.isSome

/-! ### Output streams -/

/-- `openOutputStream`: `out` is the address of the new object, `lStatus` what its `set` or its
constructor reports. -/
def openOutputStream (flags : OutputFlags) (out : ℕ) (lStatus : Status) (reg : Registry) : Opened :=
  if reg.mOutput.isSome ∧ ¬flags.Direct ∧ flags.lpa = false then
    ⟨none, some invalidOperation, reg, [], true⟩
  else if flags.Direct then
    match reg.mDirectOutput with
    | none =>
      if lStatus = noError then
        ⟨some out, some lStatus,
          { reg with mDirectOutput := some out, mDirectOutrefCnt := reg.mDirectOutrefCnt + 1 }, [], true⟩
      else
        -- `set` fails only before it stores `mHardware`: the destructor writes through `NULL`
        ⟨none, some lStatus, reg, [out], false⟩
    | some direct =>
      ⟨some direct, none, { reg with mDirectOutrefCnt := reg.mDirectOutrefCnt + 1 }, [], true⟩
  else if flags.lpa then
    if lStatus = noError then ⟨some out, some lStatus, { reg with mOutputLPA := some out }, [], true⟩
    else ⟨none, some lStatus, { reg with mOutputLPA := none }, [out], true⟩
  else if lStatus = noError then
    ⟨some out, some lStatus, { reg with mOutput := some out }, [], true⟩
  else ⟨reg.mOutput, some lStatus, reg, [out], true⟩

/-- `closeOutputStream`; the destructor may pass `NULL`. -/
def closeOutputStream (found : Found) (out : Option ℕ) (reg : Registry) : Closed :=
  if (reg.mOutput = none ∧ reg.mDirectOutput = none ∧ reg.mOutputLPA = none) ∨
      (reg.mOutput ≠ out ∧ reg.mDirectOutput ≠ out ∧ reg.mOutputLPA ≠ out) then
    ⟨true, reg, [], true⟩
  else if reg.mOutput = out then ⟨false, { reg with mOutput := none }, out.toList, true⟩
  else if reg.mDirectOutput = out then
    let reg := { reg with mDirectOutrefCnt := reg.mDirectOutrefCnt - 1 }
    if reg.mDirectOutrefCnt ≤ 0 then
      ⟨false, { reg with mDirectOutput := none }, out.toList, directComesBack found⟩
    else ⟨false, reg, [], true⟩
  else ⟨false, { reg with mOutputLPA := none }, out.toList, true⟩

/-! ### Input streams -/

/-- What `openInputStream` is asked for. -/
structure InputRequest where
  /-- `AudioSystem::isInputDevice(devices)`. -/
  isInputDevice : Bool := true
  /-- `devices == AudioSystem::DEVICE_IN_COMMUNICATION`. -/
  inCommunication : Bool := false
  format : AudioFormat := .pcm16Bit
  sampleRate : ℕ := 8000
  deriving DecidableEq, Repr

/-- The request is for a VoIP stream. -/
def InputRequest.Voip (r : InputRequest) : Prop := r.inCommunication ∧ r.sampleRate = 8000

instance (r : InputRequest) : Decidable r.Voip := by unfold InputRequest.Voip; infer_instance

/-- PCM is not recorded above 8000 Hz in a voice call. -/
def InputRequest.TooFast (r : InputRequest) (mMode : AudioMode) : Prop :=
  mMode = .inCall ∧ 8000 < getInputSampleRate r.sampleRate ∧ r.format = .pcm16Bit

instance (r : InputRequest) (mMode : AudioMode) : Decidable (r.TooFast mMode) := by
  unfold InputRequest.TooFast; infer_instance

/-- `openInputStream`: `inp` is the address of the new object.  `lStatus` is what its `set` returns,
and `stored` says whether it has stored `mHardware`, where `set` gets past `InstanceCount`. -/
def openInputStream (found : Found) (r : InputRequest) (inp : ℕ) (lStatus : Status) (stored : Bool)
    (reg : Registry) : Opened :=
  if r.isInputDevice = false then ⟨none, none, reg, [], true⟩
  else if r.Voip then
    -- `~AudioStreamInVoip` writes through `mHardware`
    if lStatus ≠ noError then ⟨none, some lStatus, reg, [inp], stored⟩
    else ⟨some inp, some lStatus, { reg with mVoipInputs := reg.mVoipInputs.add inp }, [], true⟩
  else if r.TooFast found.mMode then ⟨none, some badValue, reg, [], true⟩
  else
    -- the constructor counts the instance, the destructor takes it back
    let InstanceCount := reg.InstanceCount + 1
    if 1 < InstanceCount then ⟨none, some ebusy, reg, [inp], true⟩
    else if lStatus ≠ noError then
      ⟨none, some lStatus, reg, [inp], !stored || inputComesBack found reg⟩
    else
      ⟨some inp, some lStatus,
        { reg with mInputs := reg.mInputs.add inp, InstanceCount := InstanceCount }, [], true⟩

/-- `closeInputStream`, with no other thread in between: `delete mInputs[index]` is `delete inp`.  The
deletion is made without `mLock`, and the destructor of a VoIP input comes back. -/
def closeInputStream (found : Found) (inp : ℕ) (reg : Registry) : Closed :=
  match reg.mInputs.indexOf inp with
  | some index =>
    ⟨false, { reg with
        mInputs := reg.mInputs.removeAt index, InstanceCount := reg.InstanceCount - 1 },
      (reg.mInputs.get? index).toList, inputComesBack found reg⟩
  | none =>
    match reg.mVoipInputs.indexOf inp with
    | some index =>
      ⟨false, { reg with mVoipInputs := reg.mVoipInputs.removeAt index },
        (reg.mVoipInputs.get? index).toList, true⟩
    | none => ⟨true, reg, [], true⟩

/-! ### `~AudioHardware` -/

/-- The loop of the destructor over `mInputs`, from the place `index` on, with `fuel` turns left:
each turn closes the stream at `index`, which takes it out. -/
def closeInputs (found : Found) : ℕ → ℕ → Registry → Closed
  | 0, _, reg => { reg := reg }
  | fuel + 1, index, reg =>
    match reg.mInputs.get? index with
    | none => { reg := reg }
    | some inp =>
      let c := reg.closeInputStream found inp
      if c.returns = false then c
      else
        let r := closeInputs found fuel (index + 1) c.reg
        { r with deleted := c.deleted ++ r.deleted }

/-- What `~AudioHardware` closes.  It clears both vectors of inputs after the loop. -/
def destroy (found : Found) (reg : Registry) : Closed :=
  let r := closeInputs found reg.mInputs.size 0 reg
  if r.returns = false then r
  else
    let reg := { r.reg with mInputs := .empty, mVoipInputs := .empty }
    let c := reg.closeOutputStream found reg.mOutput
    { c with deleted := r.deleted ++ c.deleted }

/-! ### What the functions can do -/

/-- The outcomes of `openOutputStream`. -/
inductive Opens (flags : OutputFlags) (out : ℕ) (reg : Registry) : Opened → Prop where
  /-- Nothing is opened; a new object is deleted again. -/
  | fails (status deleted returns) (h : ∀ p ∈ deleted, p = out) :
    Opens flags out reg ⟨none, status, reg, deleted, returns⟩
  | direct (status) (h : reg.mDirectOutput = none) :
    Opens flags out reg
      ⟨some out, status,
        { reg with mDirectOutput := some out, mDirectOutrefCnt := reg.mDirectOutrefCnt + 1 }, [], true⟩
  | again (direct : ℕ) (h : reg.mDirectOutput = some direct) :
    Opens flags out reg
      ⟨some direct, none, { reg with mDirectOutrefCnt := reg.mDirectOutrefCnt + 1 }, [], true⟩
  | lpa (status) (h : flags.lpa ∧ ¬flags.Direct) :
    Opens flags out reg ⟨some out, status, { reg with mOutputLPA := some out }, [], true⟩
  | lpaFails (status) (h : flags.lpa ∧ ¬flags.Direct) :
    Opens flags out reg ⟨none, status, { reg with mOutputLPA := none }, [out], true⟩
  | pcm (status) (h : reg.mOutput = none) :
    Opens flags out reg ⟨some out, status, { reg with mOutput := some out }, [], true⟩

theorem opens (flags : OutputFlags) (out : ℕ) (lStatus : Status) (reg : Registry) :
    Opens flags out reg (reg.openOutputStream flags out lStatus) := by
  unfold openOutputStream
  split
  next => exact .fails _ _ _ (by simp)
  next hone =>
    split
    next hd =>
      split
      next hnone =>
        split
        · exact .direct _ hnone
        · exact .fails _ _ _ (by simp)
      next direct hsome => exact .again direct hsome
    next hd =>
      split
      next hlpa =>
        split
        · exact .lpa _ ⟨hlpa, hd⟩
        · exact .lpaFails _ ⟨hlpa, hd⟩
      next hlpa =>
        have hnone : reg.mOutput = none := by simpa [hd, hlpa] using hone
        split
        · exact .pcm _ hnone
        · rw [hnone]
          exact .fails _ _ _ (by simp)

/-- An open of an output comes back unless it is the direct output's first and `set` refuses it. -/
theorem openOutputStream_returns (flags : OutputFlags) (out : ℕ) (lStatus : Status) (reg : Registry) :
    (reg.openOutputStream flags out lStatus).returns = true ↔
      (flags.Direct → reg.mDirectOutput = none → lStatus = noError) := by
  unfold openOutputStream
  by_cases hd : flags.Direct
  · rw [if_neg (by simp [hd]), if_pos hd]
    split
    next hnone =>
      split
      next hok => simp [hok]
      next herr => simp [hd, hnone, herr]
    next direct hsome => simp [hsome]
  · refine iff_of_true ?_ fun h => absurd h hd
    rw [if_neg hd]
    split_ifs <;> rfl

/-- An input is opened, as a VoIP input or as the one recording input, or a new object is deleted
again. -/
theorem openInputStream_cases (found : Found) (r : InputRequest) (inp : ℕ) (lStatus : Status)
    (stored : Bool) (reg : Registry) :
    (∃ status deleted returns,
      reg.openInputStream found r inp lStatus stored = ⟨none, status, reg, deleted, returns⟩ ∧
        ∀ p ∈ deleted, p = inp) ∨
      (∃ status, reg.openInputStream found r inp lStatus stored =
        ⟨some inp, status, { reg with mVoipInputs := reg.mVoipInputs.add inp }, [], true⟩) ∨
      ∃ status, reg.openInputStream found r inp lStatus stored =
        ⟨some inp, status, { reg with
          mInputs := reg.mInputs.add inp, InstanceCount := reg.InstanceCount + 1 }, [], true⟩ ∧
          reg.InstanceCount ≤ 0 := by
  unfold openInputStream
  split
  · exact .inl ⟨_, _, _, rfl, by simp⟩
  · split
    · split
      · exact .inl ⟨_, _, _, rfl, by simp⟩
      · exact .inr (.inl ⟨_, rfl⟩)
    · split
      · exact .inl ⟨_, _, _, rfl, by simp⟩
      · dsimp only
        split
        · exact .inl ⟨_, _, _, rfl, by simp⟩
        next hone =>
          split
          · exact .inl ⟨_, _, _, rfl, by simp⟩
          · exact .inr (.inr ⟨_, rfl, by omega⟩)

/-- The `set` of a VoIP input is called. -/
def InputRequest.SetsVoip (r : InputRequest) : Prop := r.isInputDevice ∧ r.Voip

instance (r : InputRequest) : Decidable r.SetsVoip := by unfold InputRequest.SetsVoip; infer_instance

/-- The `set` of a recording input is called, and gets past `InstanceCount`. -/
def SetsInput (reg : Registry) (found : Found) (r : InputRequest) : Prop :=
  r.isInputDevice ∧ ¬r.Voip ∧ ¬r.TooFast found.mMode ∧ reg.InstanceCount ≤ 0

instance (reg : Registry) (found : Found) (r : InputRequest) : Decidable (reg.SetsInput found r) := by
  unfold SetsInput; infer_instance

/-- An open of an input comes back unless a `set` fails: that of a VoIP input before it stores
`mHardware`, or that of a recording input after it where the destructor finds no output. -/
theorem openInputStream_returns (found : Found) (r : InputRequest) (inp : ℕ) (lStatus : Status)
    (stored : Bool) (reg : Registry) :
    (reg.openInputStream found r inp lStatus stored).returns = true ↔
      (r.SetsVoip → lStatus = noError ∨ stored = true) ∧
      (reg.SetsInput found r → lStatus = noError ∨ stored = false ∨ inputComesBack found reg = true) := by
  unfold openInputStream InputRequest.SetsVoip SetsInput
  split
  next hdevice => simp [hdevice]
  next hdevice =>
    split
    next hvoip =>
      split
      next herr => simp [hdevice, hvoip, herr]
      next hok => simp [hvoip, not_not.1 hok]
    next hvoip =>
      split
      next hfast => simp [hvoip, hfast]
      next hfast =>
        dsimp only
        split
        next hmany =>
          have hcount : ¬reg.InstanceCount ≤ 0 := by omega
          simp [hvoip, hcount]
        next hone =>
          have hcount : reg.InstanceCount ≤ 0 := by omega
          split
          next herr => simp [hdevice, hvoip, hfast, hcount, herr]
          next hok => simp [hvoip, not_not.1 hok]

section Close

variable {found : Found} {p : ℕ} {reg : Registry}

/-- A pointer that no member holds is refused. -/
theorem closeOutputStream_refused (h1 : reg.mOutput ≠ some p) (h2 : reg.mDirectOutput ≠ some p)
    (h3 : reg.mOutputLPA ≠ some p) : reg.closeOutputStream found (some p) = ⟨true, reg, [], true⟩ := by
  simp [closeOutputStream, h1, h2, h3]

theorem closeOutputStream_output (h : reg.mOutput = some p) :
    reg.closeOutputStream found (some p) = ⟨false, { reg with mOutput := none }, [p], true⟩ := by
  simp [closeOutputStream, h]

theorem closeOutputStream_direct (h1 : reg.mOutput ≠ some p) (h2 : reg.mDirectOutput = some p) :
    reg.closeOutputStream found (some p) =
      if reg.mDirectOutrefCnt ≤ 1 then
        ⟨false, { reg with mDirectOutput := none, mDirectOutrefCnt := reg.mDirectOutrefCnt - 1 }, [p],
          directComesBack found⟩
      else ⟨false, { reg with mDirectOutrefCnt := reg.mDirectOutrefCnt - 1 }, [], true⟩ := by
  have hle : reg.mDirectOutrefCnt - 1 ≤ 0 ↔ reg.mDirectOutrefCnt ≤ 1 := by omega
  simp [closeOutputStream, h1, h2, hle]

theorem closeOutputStream_lpa (h1 : reg.mOutput ≠ some p) (h2 : reg.mDirectOutput ≠ some p)
    (h3 : reg.mOutputLPA = some p) :
    reg.closeOutputStream found (some p) = ⟨false, { reg with mOutputLPA := none }, [p], true⟩ := by
  simp [closeOutputStream, h1, h2, h3]

/-- A close of an output comes back unless it is the last of the direct output. -/
theorem closeOutputStream_returns : (reg.closeOutputStream found (some p)).returns = true ↔
    (reg.mOutput ≠ some p → reg.mDirectOutput = some p → reg.mDirectOutrefCnt ≤ 1 →
      directComesBack found = true) := by
  by_cases h1 : reg.mOutput = some p
  · simp [closeOutputStream_output h1, h1]
  · by_cases h2 : reg.mDirectOutput = some p
    · rw [closeOutputStream_direct h1 h2]
      split
      next hlast => simp [h1, h2, hlast]
      next hmore => simp [hmore]
    · by_cases h3 : reg.mOutputLPA = some p
      · simp [closeOutputStream_lpa h1 h2 h3, h2]
      · simp [closeOutputStream_refused h1 h2 h3, h2]

/-- Closing an output makes no member point to it anew. -/
theorem closeOutputStream_frame (found : Found) (out : Option ℕ) (reg : Registry) (p : ℕ) :
    ((reg.closeOutputStream found out).reg.mOutput = some p → reg.mOutput = some p) ∧
      ((reg.closeOutputStream found out).reg.mDirectOutput = some p → reg.mDirectOutput = some p) ∧
      ((reg.closeOutputStream found out).reg.mOutputLPA = some p → reg.mOutputLPA = some p) ∧
      (reg.closeOutputStream found out).reg.mInputs = reg.mInputs := by
  unfold closeOutputStream
  split
  · simp
  · split
    · simp
    · split
      · dsimp only
        split <;> simp
      · simp

theorem closeInputStream_cases (found : Found) (inp : ℕ) (reg : Registry) :
    (∃ index, reg.mInputs.get? index = some inp ∧ reg.closeInputStream found inp =
        ⟨false, { reg with
          mInputs := reg.mInputs.removeAt index, InstanceCount := reg.InstanceCount - 1 }, [inp],
          inputComesBack found reg⟩) ∨
      (inp ∉ reg.mInputs ∧ ∃ index, reg.mVoipInputs.get? index = some inp ∧
        reg.closeInputStream found inp =
          ⟨false, { reg with mVoipInputs := reg.mVoipInputs.removeAt index }, [inp], true⟩) ∨
      inp ∉ reg.mInputs ∧ inp ∉ reg.mVoipInputs ∧
        reg.closeInputStream found inp = ⟨true, reg, [], true⟩ := by
  unfold closeInputStream
  split
  next index h =>
    have hget := SortedVector.get?_of_indexOf h
    exact .inl ⟨index, hget, by rw [hget]; rfl⟩
  next h =>
    have hnot := SortedVector.indexOf_eq_none.1 h
    split
    next index h' =>
      have hget := SortedVector.get?_of_indexOf h'
      exact .inr (.inl ⟨hnot, index, hget, by rw [hget]; rfl⟩)
    next h' => exact .inr (.inr ⟨hnot, SortedVector.indexOf_eq_none.1 h', rfl⟩)

/-- A close of an input comes back unless it is a recording input and there is no output. -/
theorem closeInputStream_returns : (reg.closeInputStream found p).returns = true ↔
    (p ∈ reg.mInputs → inputComesBack found reg = true) := by
  obtain ⟨i, hi, e⟩ | ⟨hnot, i, -, e⟩ | ⟨hnot, -, e⟩ := closeInputStream_cases found p reg
  · simp [e, SortedVector.mem_of_get? hi]
  · simp [e, hnot]
  · simp [e, hnot]

end Close

/-! ### What the destructor deletes -/

/-- Closing `mOutput` deletes it. -/
theorem closeOutputStream_self (found : Found) {out : Option ℕ} (reg : Registry)
    (hout : reg.mOutput = out) : (reg.closeOutputStream found out).returns = true ∧
      (reg.closeOutputStream found out).deleted = out.toList := by
  subst hout
  unfold closeOutputStream
  split
  next h =>
    have hnone : reg.mOutput = none := by
      rcases h with h | h
      · exact h.1
      · exact absurd rfl h.1
    simp [hnone]
  next => simp

/-- The turn at `index` takes out the stream there. -/
theorem closeInputStream_get? (found : Found) {inp index : ℕ} {reg : Registry}
    (h : reg.mInputs.get? index = some inp) :
    reg.closeInputStream found inp =
      ⟨false, { reg with
        mInputs := reg.mInputs.removeAt index, InstanceCount := reg.InstanceCount - 1 }, [inp],
        inputComesBack found reg⟩ := by
  obtain ⟨i, hi, e⟩ | ⟨hnot, -⟩ | ⟨hnot, -⟩ := closeInputStream_cases found inp reg
  · rw [e, SortedVector.get?_inj hi h]
  · exact absurd (SortedVector.mem_of_get? h) hnot
  · exact absurd (SortedVector.mem_of_get? h) hnot

section Destroy

variable {found : Found} {fuel index p : ℕ} {reg : Registry}

theorem closeInputs_mOutput : (closeInputs found fuel index reg).reg.mOutput = reg.mOutput := by
  induction fuel generalizing index reg with
  | zero => rfl
  | succ fuel ih =>
    unfold closeInputs
    split
    · rfl
    next inp h =>
      rw [closeInputStream_get? found h]
      dsimp only
      split
      · rfl
      · exact ih

/-- The loop deletes inputs. -/
theorem mem_closeInputs (h : p ∈ (closeInputs found fuel index reg).deleted) : p ∈ reg.mInputs := by
  induction fuel generalizing index reg with
  | zero => cases h
  | succ fuel ih =>
    unfold closeInputs at h
    split at h
    · cases h
    next inp hget =>
      have hinp := SortedVector.mem_of_get? hget
      rw [closeInputStream_get? found hget] at h
      dsimp only at h
      split at h
      · exact List.mem_singleton.1 h ▸ hinp
      · rcases List.mem_append.1 h with h | h
        · exact List.mem_singleton.1 h ▸ hinp
        · exact ((SortedVector.mem_removeAt hget).1 (ih h)).1

/-- A stream that the destructor deletes is `mOutput` or an input. -/
theorem mem_destroy (h : p ∈ (reg.destroy found).deleted) :
    reg.mOutput = some p ∨ p ∈ reg.mInputs := by
  unfold destroy at h
  dsimp only at h
  split at h
  · exact .inr (mem_closeInputs h)
  · rcases List.mem_append.1 h with h | h
    · exact .inr (mem_closeInputs h)
    · left
      rw [(closeOutputStream_self found { (closeInputs found reg.mInputs.size 0 reg).reg with
        mInputs := .empty, mVoipInputs := .empty } rfl).2, closeInputs_mOutput] at h
      simpa using h

theorem destroy_of_empty (found : Found) (h : reg.mInputs = .empty) :
    (reg.destroy found).returns = true ∧ (reg.destroy found).deleted = reg.mOutput.toList := by
  have hsize : reg.mInputs.size = 0 := by rw [h]; rfl
  unfold destroy
  rw [hsize]
  exact closeOutputStream_self found { reg with mInputs := .empty, mVoipInputs := .empty } rfl

/-- The one input is deleted if its destructor comes back. -/
theorem destroy_of_singleton (found : Found) (h : reg.mInputs.toList = [p]) :
    (reg.destroy found).returns = inputComesBack found reg ∧ (inputComesBack found reg = true →
      (reg.destroy found).deleted = p :: reg.mOutput.toList) := by
  have hsize : reg.mInputs.size = 1 := congrArg List.length h
  have hget : reg.mInputs.get? 0 = some p := by simp [SortedVector.get?, h]
  have hclose := closeInputStream_get? found hget
  have hloop : closeInputs found 1 0 reg = reg.closeInputStream found p := by
    unfold closeInputs
    rw [hget]
    dsimp only
    split
    · rfl
    next hret =>
      rw [hclose] at hret ⊢
      simpa [closeInputs] using hret
  unfold destroy
  rw [hsize, hloop, hclose]
  dsimp only
  split
  next hret =>
    rw [hret]
    exact ⟨rfl, fun e => by cases e⟩
  next hret =>
    have hself := closeOutputStream_self found { reg with
      mInputs := .empty, mVoipInputs := .empty, InstanceCount := reg.InstanceCount - 1 } rfl
    rw [Bool.not_eq_false] at hret
    exact ⟨hself.1.trans hret.symm, fun _ => congrArg (p :: ·) hself.2⟩

end Destroy

end Registry

end Msm7x27a.Streams
