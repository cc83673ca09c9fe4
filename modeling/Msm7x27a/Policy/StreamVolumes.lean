import Msm7x27a.Policy.Manager
import Msm7x27a.Lib.Runs
import Msm7x27a.Lib.Slot

/-!
# The volumes of streams

`checkAndSetVolume`.  An output's volume of a stream is sent when it differs from the one that the
descriptor keeps, and the volume of a call when it differs from `mLastVoiceVolume`.  But the volume of
SCO is sent for the voice call too, which the descriptor does not keep, and the volume of FM is kept
in `mLastVoiceVolume`, which the modem is not told.  `delivered_iff` and `voiceDelivered_iff` say
exactly which volumes are lost that way.

`computeVolume` and the mutes are the base class's.  Volumes are compared as values: none of them is
not a number.
-/

namespace Msm7x27a.Policy

open Msm7x27a.Audio (Status noError)
open Msm7x27a.Route (Devices)
open Msm7x27a.Runs

/-- `AudioSystem::stream_type`, as far as volumes tell streams apart. -/
inductive VolumeStream where
  | voiceCall | dtmf | bluetoothSco | music | other (code : ℕ)
  deriving DecidableEq, Repr

/-- The arithmetic of volumes. -/
structure VolumeArithmetic (V : Type) where
  /-- `0.01 + 0.99 * volume`. -/
  offset : V → V
  /-- `index / mStreams[stream].mIndexMax`. -/
  ratio : VolumeStream → Int → V
  one : V
  /-- A descriptor starts with it, and so does `mLastVoiceVolume`. -/
  unset : V
  nonneg : V → Bool

/-- What is sent through the client interface. -/
inductive VolumeEvent (V : Type) where
  | streamVolume (stream : VolumeStream) (volume : V) (output : ℕ) (delayMs : Int)
  | voiceVolume (volume : V) (delayMs : Int)
  | fmVolume (volume : V) (output : ℕ) (delayMs : Int)
  deriving DecidableEq, Repr

/-- The part of an output descriptor that is about volumes. -/
structure VolumeDescriptor (V : Type) where
  mMuteCount : VolumeStream → ℕ
  mCurVolume : VolumeStream → V

structure Volumes (V : Type) where
  mOutputs : ℕ → Option (VolumeDescriptor V)
  /-- The handles that the client interface has given out. -/
  handles : List ℕ
  mPrimaryOutput : ℕ
  /-- `mForceUse[AudioSystem::FOR_COMMUNICATION]`. -/
  mForceUse : ForcedConfig
  mAvailableOutputDevices : Devices
  mLastVoiceVolume : V
  log : List (VolumeEvent V) := []

/-- A call of `checkAndSetVolume`, and what `computeVolume` answers to it. -/
structure VolumeCall (V : Type) where
  stream : VolumeStream
  index : Int
  output : ℕ
  delayMs : Int := 0
  force : Bool := false
  computeVolume : V
  deriving DecidableEq

/-- `checkAndSetVolume`, and what the rest of the manager does to what it reads. -/
inductive VolumeStep (V : Type) where
  | checkAndSetVolume (c : VolumeCall V)
  | setMuteCount (output : ℕ) (stream : VolumeStream) (count : ℕ)
  | setForceUse (config : ForcedConfig)
  | setAvailableOutputDevices (devices : Devices)
  | openOutput (output : ℕ)
  | closeOutput (output : ℕ)

/-- Nothing is open. -/
def Volumes.start {V : Type} (A : VolumeArithmetic V) (primary : ℕ) : Volumes V where
  mOutputs _ := none
  handles := []
  mPrimaryOutput := primary
  mForceUse := .none
  mAvailableOutputDevices := 0
  mLastVoiceVolume := A.unset

/-- The volume that the hardware gets: that of these streams never reaches 0. -/
def VolumeArithmetic.hardware {V : Type} (A : VolumeArithmetic V) (stream : VolumeStream) (volume : V) :
    V :=
  if stream = .voiceCall ∨ stream = .dtmf ∨ stream = .bluetoothSco then A.offset volume else volume

section Check

variable {V : Type} [DecidableEq V] (A : VolumeArithmetic V) (H : Headers)

namespace Volumes

variable (s : Volumes V)

/-- In-call volume is not changed if bluetooth is connected, and vice versa. -/
def refuses (stream : VolumeStream) : Bool :=
  stream = .voiceCall ∧ s.mForceUse = .btSco ∨ stream = .bluetoothSco ∧ s.mForceUse ≠ .btSco

def fmAvailable : Bool := s.mAvailableOutputDevices.has H.AUDIO_DEVICE_OUT_FM

/-- The volume that a stream asks the modem for. -/
def voiceVolume (stream : VolumeStream) (index : Int) : V :=
  if stream = .voiceCall then A.ratio stream index else A.one

/-- The volume differs from the one that is kept, or it is forced. -/
def sends (desc : VolumeDescriptor V) (c : VolumeCall V) : Bool :=
  c.computeVolume ≠ desc.mCurVolume c.stream ∨ c.force = true

def sendStreamVolume (desc : VolumeDescriptor V) (c : VolumeCall V) : Volumes V :=
  if sends desc c then
    let volume := A.hardware c.stream c.computeVolume
    let sco := if c.stream = .bluetoothSco then
      [VolumeEvent.streamVolume .voiceCall volume c.output c.delayMs] else []
    { s with
      mOutputs := Function.update s.mOutputs c.output (some { desc with
        mCurVolume := Function.update desc.mCurVolume c.stream c.computeVolume })
      log := .streamVolume c.stream volume c.output c.delayMs :: (sco ++ s.log) }
  else s

def sendVoiceVolume (c : VolumeCall V) : Volumes V :=
  if c.stream = .voiceCall ∨ c.stream = .bluetoothSco then
    let volume := voiceVolume A c.stream c.index
    if (volume ≠ s.mLastVoiceVolume ∧ c.output = s.mPrimaryOutput) ∧ s.fmAvailable H = false then
      { s with
        mLastVoiceVolume := volume
        log := .voiceVolume volume c.delayMs :: s.log }
    else s
  else if c.stream = .music ∧ s.fmAvailable H then
    let volume := A.ratio c.stream c.index
    if A.nonneg volume ∧ c.output = s.mPrimaryOutput then
      { s with
        mLastVoiceVolume := volume
        log := .fmVolume volume s.mPrimaryOutput (c.delayMs * 2) :: s.log }
    else s
  else s

def checkAndSetVolume (desc : VolumeDescriptor V) (c : VolumeCall V) : Status × Volumes V :=
  if desc.mMuteCount c.stream ≠ 0 then (noError, s)
  else if s.refuses c.stream then (invalidOperation, s)
  else (noError, (s.sendStreamVolume A desc c).sendVoiceVolume A H c)

/-- The output must be open; a new one has a handle that none has had before. -/
def step : VolumeStep V → Option (Volumes V)
  | .checkAndSetVolume c => (s.mOutputs c.output).map fun desc => (s.checkAndSetVolume A H desc c).2
  | .setMuteCount output stream count => (s.mOutputs output).map fun desc =>
      { s with mOutputs := Function.update s.mOutputs output (some { desc with
          mMuteCount := Function.update desc.mMuteCount stream count }) }
  | .setForceUse config => some { s with mForceUse := config }
  | .setAvailableOutputDevices devices => some { s with mAvailableOutputDevices := devices }
  | .openOutput output =>
      if output ∈ s.handles then none
      else some { s with
        mOutputs := Function.update s.mOutputs output (some ⟨fun _ => 0, fun _ => A.unset⟩)
        handles := output :: s.handles }
  | .closeOutput output =>
      (s.mOutputs output).map fun _ => { s with mOutputs := Function.update s.mOutputs output none }

end Volumes

/-! ### What was sent -/

/-- The volume that the event is for the output and the stream. -/
def VolumeEvent.streamVolume? (output : ℕ) (stream : VolumeStream) : VolumeEvent V → Option V
  | .streamVolume st volume o _ => if st = stream ∧ o = output then some volume else none
  | _ => none

/-- The event sets the volume of a call on the output: whether it is SCO's. -/
def VolumeEvent.sco? (output : ℕ) : VolumeEvent V → Option Bool
  | .streamVolume .voiceCall _ o _ => if o = output then some false else none
  | .streamVolume .bluetoothSco _ o _ => if o = output then some true else none
  | _ => none

def VolumeEvent.voiceVolume? : VolumeEvent V → Option V
  | .voiceVolume volume _ => some volume
  | _ => none

/-- The event changes `mLastVoiceVolume`: whether it is FM's. -/
def VolumeEvent.fm? : VolumeEvent V → Option Bool
  | .voiceVolume .. => some false
  | .fmVolume .. => some true
  | _ => none

namespace Volumes

variable (s : Volumes V)

/-- The last volume that was sent for the stream of the output. -/
def lastSent (output : ℕ) (stream : VolumeStream) : Option V :=
  s.log.findSome? (·.streamVolume? output stream)

/-- The last volume of a call that was sent for the output was SCO's. -/
def scoLast (output : ℕ) : Bool := (s.log.findSome? (·.sco? output)).getD false

/-- The last volume that the modem was told. -/
def lastVoiceVolume : Option V := s.log.findSome? (·.voiceVolume?)

/-- The last change of `mLastVoiceVolume` was FM's. -/
def fmLast : Bool := (s.log.findSome? (·.fm?)).getD false

def kept (output : ℕ) (stream : VolumeStream) : Option V :=
  (s.mOutputs output).map (·.mCurVolume stream)

/-- The call gets past the mute and the use of the stream. -/
def accepts (c : VolumeCall V) : Bool :=
  ((s.mOutputs c.output).any fun desc => desc.mMuteCount c.stream = 0) && !s.refuses c.stream

/-- The call is about the volume of the modem. -/
def forModem (c : VolumeCall V) : Bool :=
  (c.stream = .voiceCall ∨ c.stream = .bluetoothSco) ∧ c.output = s.mPrimaryOutput ∧
    s.fmAvailable H = false

/-- The volume that is asked for is the last one sent. -/
def Delivered : VolumeStep V → Prop
  | .checkAndSetVolume c => s.accepts c = true → ∀ t ∈ s.step A H (.checkAndSetVolume c),
      t.lastSent c.output c.stream = some (A.hardware c.stream c.computeVolume)
  | _ => True

/-- If the volume of a call is the one that the descriptor keeps, and SCO's was sent since, then that
was the same. -/
def NotOverridden : VolumeStep V → Prop
  | .checkAndSetVolume c => s.accepts c = true → c.stream = .voiceCall → c.force = false →
      s.kept c.output .voiceCall = some c.computeVolume → s.scoLast c.output = true →
        s.lastSent c.output .voiceCall = some (A.offset c.computeVolume)
  | _ => True

/-- The volume of the call is the last one that the modem was told. -/
def VoiceDelivered : VolumeStep V → Prop
  | .checkAndSetVolume c => s.accepts c = true → s.forModem H c = true →
      ∀ t ∈ s.step A H (.checkAndSetVolume c),
        t.lastVoiceVolume = some (voiceVolume A c.stream c.index)
  | _ => True

/-- If the volume of the call is the one that is kept, and it is FM's, then the modem was told the
same before. -/
def NotFm : VolumeStep V → Prop
  | .checkAndSetVolume c => s.accepts c = true → s.forModem H c = true →
      voiceVolume A c.stream c.index = s.mLastVoiceVolume → s.fmLast = true →
        s.lastVoiceVolume = some (voiceVolume A c.stream c.index)
  | _ => True

instance : DecidablePred (s.NotOverridden A)
  | .checkAndSetVolume c => inferInstanceAs (Decidable (s.accepts c = true → c.stream = .voiceCall →
      c.force = false → s.kept c.output .voiceCall = some c.computeVolume → s.scoLast c.output = true →
        s.lastSent c.output .voiceCall = some (A.offset c.computeVolume)))
  | .setMuteCount .. | .setForceUse _ | .setAvailableOutputDevices _ | .openOutput _
  | .closeOutput _ => .isTrue trivial

instance : DecidablePred (s.NotFm A H)
  | .checkAndSetVolume c => inferInstanceAs (Decidable (s.accepts c = true → s.forModem H c = true →
      voiceVolume A c.stream c.index = s.mLastVoiceVolume → s.fmLast = true →
        s.lastVoiceVolume = some (voiceVolume A c.stream c.index)))
  | .setMuteCount .. | .setForceUse _ | .setAvailableOutputDevices _ | .openOutput _
  | .closeOutput _ => .isTrue trivial

end Volumes

end Check

/-! ### The slots of an output -/

section Slots

variable {V : Type} {A : VolumeArithmetic V} {H : Headers} {s t : Volumes V}
  {desc : VolumeDescriptor V} {c : VolumeCall V} {output : ℕ} {stream : VolumeStream}

namespace Volumes

/-- The volume of a stream, as the descriptor keeps it and as it was sent. -/
def slot (s : Volumes V) (desc : VolumeDescriptor V) (output : ℕ) (stream : VolumeStream) : Slot V V where
  kept := desc.mCurVolume stream
  told := s.lastSent output stream
  foreign := stream = .voiceCall ∧ s.scoLast output = true

/-- The volume of the modem. -/
def voiceSlot (s : Volumes V) : Slot V V where
  kept := s.mLastVoiceVolume
  told := s.lastVoiceVolume
  foreign := s.fmLast

/-- Events for other outputs do not matter. -/
theorem slot_of_append {l : List (VolumeEvent V)} (hlog : t.log = l ++ s.log)
    (hl : ∀ ev ∈ l, ev.streamVolume? output stream = none ∧ ev.sco? output = none) :
    t.slot desc output stream = s.slot desc output stream := by
  unfold slot lastSent scoLast
  rw [hlog, List.findSome?_append, List.findSome?_append,
    List.findSome?_eq_none_iff.2 fun ev hev => (hl ev hev).1,
    List.findSome?_eq_none_iff.2 fun ev hev => (hl ev hev).2]
  rfl

/-- What was sent for an output is known of its handle, and its slots are coherent. -/
structure Inv (A : VolumeArithmetic V) (s : Volumes V) : Prop where
  handles : ∀ output, output ∉ s.handles → s.mOutputs output = none ∧
    ∀ stream, s.lastSent output stream = none
  slots : ∀ output desc, s.mOutputs output = some desc →
    ∀ stream, (s.slot desc output stream).Coherent (A.hardware stream) A.unset
  voice : s.voiceSlot.Coherent id A.unset

theorem inv_start (primary : ℕ) : Inv A (start A primary) where
  handles _ _ := ⟨rfl, fun _ => rfl⟩
  slots _ _ h := by cases h
  voice _ := .inr ⟨rfl, rfl⟩

/-- Nothing is sent, and what is kept of the outputs that were open stays. -/
theorem Inv.of_same (h : Inv A s) (hlog : t.log = s.log)
    (hvolume : t.mLastVoiceVolume = s.mLastVoiceVolume) (hhandles : s.handles ⊆ t.handles)
    (hout : ∀ output ∉ t.handles, t.mOutputs output = none)
    (hkept : ∀ output desc, t.mOutputs output = some desc →
      (∃ desc', s.mOutputs output = some desc' ∧ desc.mCurVolume = desc'.mCurVolume) ∨
        output ∉ s.handles ∧ desc.mCurVolume = fun _ => A.unset) : Inv A t := by
  have hsent : ∀ output stream, t.lastSent output stream = s.lastSent output stream := by
    intro output stream
    unfold lastSent
    rw [hlog]
  have hsco : ∀ output, t.scoLast output = s.scoLast output := by
    intro output
    unfold scoLast
    rw [hlog]
  refine ⟨?_, ?_, ?_⟩
  · intro output hnot
    refine ⟨hout output hnot, fun stream => ?_⟩
    rw [hsent]
    exact (h.handles output fun hs => hnot (hhandles hs)).2 stream
  · intro output desc hdesc stream
    unfold slot
    rw [hsent, hsco]
    rcases hkept output desc hdesc with ⟨desc', hdesc', hcur⟩ | ⟨hnew, hcur⟩
    · rw [hcur]
      exact h.slots output desc' hdesc' stream
    · rw [hcur, (h.handles output hnew).2 stream]
      exact fun _ => .inr ⟨rfl, rfl⟩
  · unfold voiceSlot lastVoiceVolume fmLast
    rw [hlog, hvolume]
    exact h.voice

variable [DecidableEq V]

/-- What a call is for the slot of a stream. -/
def slotUses (A : VolumeArithmetic V) (desc : VolumeDescriptor V) (c : VolumeCall V)
    (stream : VolumeStream) : List (Slot.Use V V) :=
  if c.stream = stream then [.put c.computeVolume c.force]
  else if sends desc c ∧ c.stream = .bluetoothSco ∧ stream = .voiceCall then
    [.tell (A.hardware .bluetoothSco c.computeVolume)]
  else []

/-- What a call is for the slot of the modem. -/
def voiceUses (A : VolumeArithmetic V) (H : Headers) (s : Volumes V) (c : VolumeCall V) :
    List (Slot.Use V V) :=
  if s.forModem H c then [.put (voiceVolume A c.stream c.index) false]
  else if c.stream = .music ∧ s.fmAvailable H ∧ A.nonneg (A.ratio c.stream c.index) ∧
      c.output = s.mPrimaryOutput then [.store (A.ratio c.stream c.index)]
  else []

/-- The descriptor after a call. -/
def keep (desc : VolumeDescriptor V) (c : VolumeCall V) : VolumeDescriptor V :=
  if sends desc c then
    { desc with mCurVolume := Function.update desc.mCurVolume c.stream c.computeVolume }
  else desc

theorem mOutputs_sendStreamVolume (h : s.mOutputs c.output = some desc) :
    (s.sendStreamVolume A desc c).mOutputs =
      Function.update s.mOutputs c.output (some (keep desc c)) := by
  unfold sendStreamVolume keep
  split
  · rfl
  · exact (Function.update_eq_self_iff.2 h.symm).symm

/-- **One output.** What is sent for it is what the slots of its streams are used for. -/
theorem slot_sendStreamVolume (s : Volumes V) (desc : VolumeDescriptor V) (c : VolumeCall V)
    (stream : VolumeStream) :
    (s.sendStreamVolume A desc c).slot (keep desc c) c.output stream =
      (slotUses A desc c stream).foldl (Slot.use (A.hardware stream)) (s.slot desc c.output stream) := by
  unfold sendStreamVolume keep slotUses
  by_cases hsends : sends desc c = true
  · simp only [hsends, if_true, true_and]
    have hput : c.computeVolume ≠ desc.mCurVolume c.stream ∨ c.force = true := by
      simpa [sends] using hsends
    by_cases hstream : c.stream = stream
    · subst hstream
      simp only [if_true, List.foldl_cons, List.foldl_nil]
      rw [Slot.use_put_of_ne hput]
      cases hc : c.stream <;>
        simp [slot, lastSent, scoLast, VolumeEvent.streamVolume?, VolumeEvent.sco?]
    · rw [if_neg hstream]
      -- SCO's volume is sent for the voice call too
      by_cases hsco : c.stream = .bluetoothSco ∧ stream = .voiceCall
      · obtain ⟨hc, rfl⟩ := hsco
        simp [hc, slot, lastSent, scoLast, VolumeEvent.streamVolume?, VolumeEvent.sco?, Slot.use]
      · rw [if_neg hsco]
        cases hc : c.stream <;> cases stream <;>
          simp_all [slot, lastSent, scoLast, VolumeEvent.streamVolume?, VolumeEvent.sco?, Ne.symm]
  · simp only [hsends, Bool.false_eq_true, if_false, false_and]
    split
    next hstream =>
      have hsame : c.computeVolume = desc.mCurVolume stream ∧ c.force = false := by
        simpa [sends, hstream] using hsends
      rw [List.foldl_cons, List.foldl_nil, Slot.use_put_of_eq hsame.1 hsame.2]
    next => rfl

/-- A call for another output. -/
theorem slot_sendStreamVolume_of_ne (h : c.output ≠ output) (desc' : VolumeDescriptor V) :
    (s.sendStreamVolume A desc c).slot desc' output stream = s.slot desc' output stream := by
  have hnone : ∀ st volume, (VolumeEvent.streamVolume st volume c.output c.delayMs : VolumeEvent V).sco?
      output = none := by
    intro st volume
    cases st <;> simp [VolumeEvent.sco?, h]
  unfold sendStreamVolume
  split
  · refine slot_of_append (List.append_assoc [_] _ _).symm ?_
    intro ev hev
    have hev : ∃ st volume, ev = .streamVolume st volume c.output c.delayMs := by
      rcases List.mem_append.1 hev with hev | hev
      · exact ⟨_, _, List.mem_singleton.1 hev⟩
      · split at hev
        · exact ⟨_, _, List.mem_singleton.1 hev⟩
        · exact absurd hev List.not_mem_nil
    obtain ⟨st, volume, rfl⟩ := hev
    exact ⟨if_neg fun e => h e.2, hnone st volume⟩
  · rfl

theorem slot_sendVoiceVolume (s : Volumes V) (c : VolumeCall V) (output : ℕ) (stream : VolumeStream) :
    (s.sendVoiceVolume A H c).slot desc output stream = s.slot desc output stream := by
  unfold sendVoiceVolume
  dsimp only
  split
  · split <;> rfl
  · split
    · split <;> rfl
    · rfl

theorem mOutputs_sendVoiceVolume (s : Volumes V) (c : VolumeCall V) :
    (s.sendVoiceVolume A H c).mOutputs = s.mOutputs ∧ (s.sendVoiceVolume A H c).handles = s.handles := by
  unfold sendVoiceVolume
  dsimp only
  split
  · split <;> exact ⟨rfl, rfl⟩
  · split
    · split <;> exact ⟨rfl, rfl⟩
    · exact ⟨rfl, rfl⟩

/-- **The modem.** What it is told is what its slot is used for. -/
theorem voiceSlot_sendVoiceVolume (s : Volumes V) (c : VolumeCall V) :
    (s.sendVoiceVolume A H c).voiceSlot = (voiceUses A H s c).foldl (Slot.use id) s.voiceSlot := by
  unfold sendVoiceVolume voiceUses forModem
  dsimp only
  by_cases hcall : c.stream = .voiceCall ∨ c.stream = .bluetoothSco
  · have hmusic : c.stream ≠ .music := by
      rcases hcall with h | h <;> simp [h]
    by_cases hmodem : c.output = s.mPrimaryOutput ∧ s.fmAvailable H = false
    · by_cases hne : voiceVolume A c.stream c.index ≠ s.mLastVoiceVolume
      · simp [hcall, hmodem, hne, voiceSlot, Slot.use, lastVoiceVolume, fmLast,
          VolumeEvent.voiceVolume?, VolumeEvent.fm?]
      · simp only [ne_eq, not_not] at hne
        simp [hcall, hmodem, hne, voiceSlot, Slot.use]
    · have : ¬((voiceVolume A c.stream c.index ≠ s.mLastVoiceVolume ∧ c.output = s.mPrimaryOutput) ∧
          s.fmAvailable H = false) := fun h => hmodem ⟨h.1.2, h.2⟩
      simp [hcall, hmodem, this, hmusic]
  · have hmodem : ¬decide ((c.stream = .voiceCall ∨ c.stream = .bluetoothSco) ∧
        c.output = s.mPrimaryOutput ∧ s.fmAvailable H = false) = true := by
      rw [decide_eq_true_eq]
      exact fun h => hcall h.1
    rw [if_neg hcall, if_neg hmodem]
    split
    next hfm =>
      by_cases hstore : A.nonneg (A.ratio c.stream c.index) = true ∧ c.output = s.mPrimaryOutput
      · rw [if_pos hstore, if_pos ⟨hfm.1, hfm.2, hstore.1, hstore.2⟩]
        rfl
      · rw [if_neg hstore, if_neg fun h => hstore ⟨h.2.2.1, h.2.2.2⟩]
        rfl
    next hfm =>
      rw [if_neg fun h => hfm ⟨h.1, h.2.1⟩]
      rfl

theorem voiceSlot_sendStreamVolume (s : Volumes V) (desc : VolumeDescriptor V) (c : VolumeCall V) :
    (s.sendStreamVolume A desc c).voiceSlot = s.voiceSlot := by
  unfold sendStreamVolume
  dsimp only
  split
  · split <;> rfl
  · rfl

/-! ### One step -/

theorem checkAndSetVolume_eq (hdesc : s.mOutputs c.output = some desc) :
    (s.checkAndSetVolume A H desc c).2 =
      if s.accepts c then (s.sendStreamVolume A desc c).sendVoiceVolume A H c else s := by
  unfold checkAndSetVolume accepts
  rw [hdesc]
  by_cases hmute : desc.mMuteCount c.stream = 0
  · cases hrefuses : s.refuses c.stream <;> simp [hmute]
  · simp [hmute]

/-- A call that is accepted, by what it sends. -/
theorem exists_of_accepts (h : s.accepts c = true) : ∃ desc, s.mOutputs c.output = some desc ∧
    s.step A H (.checkAndSetVolume c) =
      some ((s.sendStreamVolume A desc c).sendVoiceVolume A H c) := by
  cases hdesc : s.mOutputs c.output with
  | none => simp [accepts, hdesc] at h
  | some desc =>
    refine ⟨desc, rfl, ?_⟩
    change (s.mOutputs c.output).map _ = _
    rw [hdesc, Option.map_some, checkAndSetVolume_eq hdesc, if_pos h]

theorem Inv.send (h : Inv A s) (hdesc : s.mOutputs c.output = some desc) :
    Inv A ((s.sendStreamVolume A desc c).sendVoiceVolume A H c) := by
  have hmem : c.output ∈ s.handles := by
    by_contra hnot
    rw [(h.handles _ hnot).1] at hdesc
    cases hdesc
  have hhandles : (s.sendStreamVolume A desc c).handles = s.handles := by
    unfold sendStreamVolume
    split <;> rfl
  refine ⟨?_, ?_, ?_⟩
  · intro output hout
    rw [(mOutputs_sendVoiceVolume ..).2, hhandles] at hout
    have hne : c.output ≠ output := fun e => hout (e ▸ hmem)
    rw [(mOutputs_sendVoiceVolume ..).1, mOutputs_sendStreamVolume hdesc,
      Function.update_of_ne hne.symm]
    refine ⟨(h.handles _ hout).1, fun stream => ?_⟩
    have hslot : ((s.sendStreamVolume A desc c).sendVoiceVolume A H c).slot desc output stream = _ :=
      slot_sendVoiceVolume ..
    rw [slot_sendStreamVolume_of_ne hne] at hslot
    exact (congrArg Slot.told hslot).trans ((h.handles _ hout).2 stream)
  · intro output desc' hdesc' stream
    rw [(mOutputs_sendVoiceVolume ..).1, mOutputs_sendStreamVolume hdesc] at hdesc'
    rw [slot_sendVoiceVolume]
    by_cases hout : c.output = output
    · subst hout
      rw [Function.update_self] at hdesc'
      rw [← Option.some.inj hdesc', slot_sendStreamVolume]
      exact (h.slots _ desc hdesc stream).uses _
    · rw [Function.update_of_ne (Ne.symm hout)] at hdesc'
      rw [slot_sendStreamVolume_of_ne hout]
      exact h.slots _ desc' hdesc' stream
  · rw [voiceSlot_sendVoiceVolume, voiceSlot_sendStreamVolume]
    exact h.voice.uses _

theorem Inv.step (h : Inv A s) {l : VolumeStep V} (hstep : s.step A H l = some t) : Inv A t := by
  cases l with
  | checkAndSetVolume c =>
    obtain ⟨desc, hdesc, rfl⟩ := Option.map_eq_some_iff.1 hstep
    rw [checkAndSetVolume_eq hdesc]
    split
    · exact h.send hdesc
    · exact h
  | setMuteCount output stream count =>
    obtain ⟨desc, hdesc, rfl⟩ := Option.map_eq_some_iff.1 hstep
    refine h.of_same rfl rfl (List.Subset.refl _) ?_ ?_
    · intro o ho
      have hne : o ≠ output := by
        rintro rfl
        rw [(h.handles _ ho).1] at hdesc
        cases hdesc
      exact (Function.update_of_ne hne ..).trans (h.handles o ho).1
    · intro o desc' (hdesc' : Function.update s.mOutputs output _ o = some desc')
      left
      by_cases hne : o = output
      · subst hne
        rw [Function.update_self] at hdesc'
        exact ⟨desc, hdesc, by rw [← Option.some.inj hdesc']⟩
      · rw [Function.update_of_ne hne] at hdesc'
        exact ⟨desc', hdesc', rfl⟩
  | setForceUse config =>
    obtain rfl := Option.some.inj hstep
    exact h.of_same rfl rfl (List.Subset.refl _) (fun o ho => (h.handles o ho).1)
      fun o desc hdesc => .inl ⟨desc, hdesc, rfl⟩
  | setAvailableOutputDevices devices =>
    obtain rfl := Option.some.inj hstep
    exact h.of_same rfl rfl (List.Subset.refl _) (fun o ho => (h.handles o ho).1)
      fun o desc hdesc => .inl ⟨desc, hdesc, rfl⟩
  | openOutput output =>
    obtain ⟨hnew, rfl⟩ : output ∉ s.handles ∧ _ := by
      simpa [Volumes.step] using hstep
    refine h.of_same rfl rfl (List.subset_cons_self ..) ?_ ?_
    · intro o ho
      obtain ⟨hne, ho⟩ := List.ne_and_not_mem_of_not_mem_cons ho
      exact (Function.update_of_ne hne ..).trans (h.handles o ho).1
    · intro o desc (hdesc : Function.update s.mOutputs output _ o = some desc)
      by_cases hne : o = output
      · subst hne
        rw [Function.update_self] at hdesc
        exact .inr ⟨hnew, by rw [← Option.some.inj hdesc]⟩
      · rw [Function.update_of_ne hne] at hdesc
        exact .inl ⟨desc, hdesc, rfl⟩
  | closeOutput output =>
    obtain ⟨desc, hdesc, rfl⟩ := Option.map_eq_some_iff.1 hstep
    have hout : ∀ o desc', Function.update s.mOutputs output none o = some desc' →
        s.mOutputs o = some desc' := by
      intro o desc' hdesc'
      by_cases hne : o = output
      · subst hne
        rw [Function.update_self] at hdesc'
        cases hdesc'
      · rwa [Function.update_of_ne hne] at hdesc'
    refine h.of_same rfl rfl (List.Subset.refl _) ?_ fun o desc' hdesc' =>
      .inl ⟨desc', hout o desc' hdesc', rfl⟩
    intro o ho
    rw [← Option.not_isSome_iff_eq_none]
    intro hsome
    obtain ⟨desc', hdesc'⟩ := Option.isSome_iff_exists.1 hsome
    have := hout o desc' hdesc'
    rw [(h.handles o ho).1] at this
    cases this

/-! ### What is lost -/

theorem delivered_step_iff (h : Inv A s) {l : VolumeStep V}
    (hset : ∀ c, l = .checkAndSetVolume c → c.computeVolume ≠ A.unset) :
    s.Delivered A H l ↔ s.NotOverridden A l := by
  cases l with
  | checkAndSetVolume c =>
    by_cases haccepts : s.accepts c = true
    · obtain ⟨desc, hdesc, hstep⟩ := exists_of_accepts (A := A) (H := H) haccepts
      have hiff := Slot.delivered_iff_harmless (h.slots c.output desc hdesc c.stream)
        (u := .put c.computeVolume c.force) fun v force e => by
          cases e
          exact hset c rfl
      -- the slot of the stream is used for this call only
      have hslot : ((s.sendStreamVolume A desc c).sendVoiceVolume A H c).lastSent c.output c.stream =
          ((s.slot desc c.output c.stream).use (A.hardware c.stream)
            (.put c.computeVolume c.force)).told := by
        have he := slot_sendStreamVolume (A := A) s desc c c.stream
        rw [← slot_sendVoiceVolume (A := A) (H := H), slotUses, if_pos rfl] at he
        exact congrArg Slot.told he
      have hkept : s.kept c.output .voiceCall = some (desc.mCurVolume .voiceCall) := by
        rw [kept, hdesc, Option.map_some]
      constructor
      · intro hd _ hstream hforce hcur hsco
        have hharm := hiff.1 (hslot.symm.trans (hd haccepts _ hstep))
        have := hharm hforce (by rw [hstream]; exact (Option.some.inj (hkept.symm.trans hcur)).symm)
          (decide_eq_true ⟨hstream, hsco⟩)
        rw [hstream] at this
        exact this
      · intro hn _ t ht
        obtain rfl := Option.some.inj (hstep.symm.trans ht)
        rw [hslot]
        refine hiff.2 fun hforce hcur hforeign => ?_
        obtain ⟨hstream, hsco⟩ := of_decide_eq_true hforeign
        have := hn haccepts hstream hforce (by rw [hkept, hcur, hstream]; rfl) hsco
        rw [hstream]
        exact this
    · exact iff_of_true (fun e => absurd e haccepts) fun e => absurd e haccepts
  | _ => exact Iff.rfl

theorem voiceDelivered_step_iff (h : Inv A s) {l : VolumeStep V}
    (hset : ∀ c, l = .checkAndSetVolume c → voiceVolume A c.stream c.index ≠ A.unset) :
    s.VoiceDelivered A H l ↔ s.NotFm A H l := by
  cases l with
  | checkAndSetVolume c =>
    by_cases haccepts : s.accepts c = true ∧ s.forModem H c = true
    · obtain ⟨haccepts, hmodem⟩ := haccepts
      obtain ⟨desc, hdesc, hstep⟩ := exists_of_accepts (A := A) (H := H) haccepts
      have hiff := Slot.delivered_iff_harmless h.voice (u := .put (voiceVolume A c.stream c.index) false)
        fun v force e => by
          cases e
          exact hset c rfl
      have hmodem' : (s.sendStreamVolume A desc c).forModem H c = true := by
        unfold sendStreamVolume
        split <;> exact hmodem
      have hslot : ((s.sendStreamVolume A desc c).sendVoiceVolume A H c).lastVoiceVolume =
          (s.voiceSlot.use id (.put (voiceVolume A c.stream c.index) false)).told := by
        have he := voiceSlot_sendVoiceVolume (A := A) (H := H) (s.sendStreamVolume A desc c) c
        rw [voiceUses, if_pos hmodem', voiceSlot_sendStreamVolume] at he
        exact congrArg Slot.told he
      constructor
      · intro hd _ _ hcur hfm
        exact hiff.1 (hslot.symm.trans (hd haccepts hmodem _ hstep)) rfl hcur hfm
      · intro hn _ _ t ht
        obtain rfl := Option.some.inj (hstep.symm.trans ht)
        rw [hslot]
        exact hiff.2 fun _ hcur hfm => hn haccepts hmodem hcur hfm
    · exact iff_of_true (fun e e' => absurd ⟨e, e'⟩ haccepts) fun e e' => absurd ⟨e, e'⟩ haccepts
  | _ => exact Iff.rfl

end Volumes

open Volumes

variable [DecidableEq V] {ls : List (VolumeStep V)} {primary : ℕ}

/-- **Volumes of streams.** In a run every volume that is accepted is the last one sent for its stream
if and only if no volume of a voice call is one that the descriptor has kept while SCO's, another one,
was sent. -/
theorem delivered_iff (hset : ∀ c, .checkAndSetVolume c ∈ ls → c.computeVolume ≠ A.unset) :
    Along (Volumes.step A H) (Delivered A H) (start A primary) ls ↔
      Along (Volumes.step A H) (NotOverridden A) (start A primary) ls :=
  along_congr (I := Inv A) (A := fun l => l ∈ ls)
    (fun _ _ hl h => delivered_step_iff h fun c e => hset c (e ▸ hl))
    (fun _ _ _ _ h _ hstep => h.step hstep) (inv_start primary) fun _ hl => hl

/-- Volumes in percent; a call has 5 steps, another stream 15. -/
def VolumeArithmetic.plain : VolumeArithmetic Int where
  offset volume := 1 + 99 * volume / 100
  ratio stream index := 100 * index / if stream = .voiceCall then 5 else 15
  one := 100
  unset := -1
  nonneg volume := 0 ≤ volume

/-- A call is set to 60 percent; it goes to SCO at 80 percent and back, and gets the volume given. -/
def throughSco (volume : Int) : List (VolumeStep Int) :=
  [.openOutput 1, .checkAndSetVolume ⟨.voiceCall, 3, 1, 0, false, 60⟩, .setForceUse .btSco,
    .checkAndSetVolume ⟨.bluetoothSco, 12, 1, 0, false, 80⟩, .setForceUse .none,
    .checkAndSetVolume ⟨.voiceCall, 4, 1, 0, false, volume⟩]

/-- A volume that differs from the one before SCO is sent. -/
theorem delivered_plain : Along (Volumes.step .plain .plain) (Delivered .plain .plain)
    (start .plain 1) (throughSco 40) :=
  (delivered_iff (by simp [throughSco, VolumeArithmetic.plain])).2 (by decide)

-- the volume before SCO is lost
example : ¬Along (Volumes.step .plain .plain) (NotOverridden .plain) (start .plain 1)
    (throughSco 60) := by decide

/-- **The volume of the modem.** In a run every volume of a call on the primary output, with no FM, is
the last one that the modem was told if and only if none is one that was kept for FM after the modem
was told another. -/
theorem voiceDelivered_iff
    (hset : ∀ c, .checkAndSetVolume c ∈ ls → voiceVolume A c.stream c.index ≠ A.unset) :
    Along (Volumes.step A H) (VoiceDelivered A H) (start A primary) ls ↔
      Along (Volumes.step A H) (NotFm A H) (start A primary) ls :=
  along_congr (I := Inv A) (A := fun l => l ∈ ls)
    (fun _ _ hl h => voiceDelivered_step_iff h fun c e => hset c (e ▸ hl))
    (fun _ _ _ _ h _ hstep => h.step hstep) (inv_start primary) fun _ hl => hl

/-- FM is set to 60 percent, and taken away; a call gets 80 percent. -/
theorem voiceDelivered_plain : Along (Volumes.step .plain .plain) (VoiceDelivered .plain .plain)
    (start .plain 1)
      [.openOutput 1, .setAvailableOutputDevices 0x80002,
        .checkAndSetVolume ⟨.music, 9, 1, 0, false, 60⟩, .setAvailableOutputDevices 0x2,
        .checkAndSetVolume ⟨.voiceCall, 4, 1, 0, false, 80⟩] :=
  (voiceDelivered_iff (by simp [VolumeArithmetic.plain, voiceVolume])).2 (by decide)

end Slots

end Msm7x27a.Policy
