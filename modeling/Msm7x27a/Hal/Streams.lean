import Msm7x27a.Hal.Devices
import Msm7x27a.Streams.Lifecycle
import Msm7x27a.Lib.Leases

/-!
# The streams of the audio HAL

`adev_open_output_stream`, `adev_open_input_stream` and their closes.  A client gets a structure with
the functions of the stream and the pointer that `AudioHardware` has returned.  The ledger records
the structures and the stream objects that are allocated and freed, newest first.

A call that does not come back ends the run.  `freed_iff` says exactly when everything is freed, each
object once, after a client has closed all it has opened.
-/

namespace Msm7x27a.Hal

open Msm7x27a.Audio (AudioFormat Status noError)
open Msm7x27a.Leases (Use)
open Msm7x27a.Streams (Found Handle OutputFlags Registry)
open Msm7x27a.Runs

def ENOMEM : Int := 12

/-- What `AudioSystem` says of devices of revision 1.0, and the table they are converted with. -/
structure InputDevices where
  table : Table
  isInputDevice : Mask → Bool
  DEVICE_IN_COMMUNICATION : Mask

/-- What is allocated. -/
inductive Block where
  | wrapper (address : ℕ) | stream (address : ℕ)
  deriving DecidableEq, Repr

structure Device where
  hw : Streams.State
  /-- The structures that are open, with the pointer in each. -/
  wrappers : List (ℕ × Handle) := []
  ledger : List (Use Block) := []

/-- What the client is told: the return value, and the stream if one is stored, which may be `NULL`. -/
structure Reply where
  ret : Int
  stream : Option (Option ℕ) := none
  deriving DecidableEq, Repr

/-- The reply says what it stores: the return value is 0 if and only if a stream is stored. -/
def Reply.Honest (r : Reply) : Prop := r.ret = 0 ↔ ∃ wrapper, r.stream = some (some wrapper)

/-- A call of the client, and what it finds.  `calloc` answers an address or `NULL`; `new` that of the
stream object; `lStatus` and `stored` are what the setup of the stream reports.  `status` is a local
variable that nothing sets. -/
inductive Call where
  | openOutput (calloc : Option ℕ) (flagBits : Status) (flags : OutputFlags) (out : ℕ) (lStatus : Status)
  | openInput (calloc : Option ℕ) (devices : Mask) (format : AudioFormat) (sampleRate : ℕ)
      (found : Found) (inp : ℕ) (lStatus : Status) (stored : Bool) (status : Status)
  | close (wrapper : ℕ) (found : Found)

/-! ### One call -/

/-- The object that is made: it is returned, or deleted again. -/
def made (p : ℕ) (o : Streams.Opened) : List ℕ :=
  if o.stream = some p ∨ p ∈ o.deleted then [p] else []

def news (ps : List ℕ) : List (Use Block) := ps.map fun p => .acquire (.stream p)

def deletes (ps : List ℕ) : List (Use Block) := ps.map fun p => .release (.stream p)

namespace Device

variable (E : InputDevices) (d : Device)

/-- The devices as `AudioHardware` gets them. -/
def inputRequest (devices : Mask) (format : AudioFormat) (sampleRate : ℕ) :
    Option Registry.InputRequest :=
  (convert_audio_device E.table 32 devices .HAL_API_REV_2_0 .HAL_API_REV_1_0).map fun devices =>
    { isInputDevice := E.isInputDevice devices
      inCommunication := devices = E.DEVICE_IN_COMMUNICATION
      format := format
      sampleRate := sampleRate }

/-- What both opens do with the pointer they get: the structure is given to the client, or freed. -/
def finishOpen (wrapper p : ℕ) (kind : ℕ → Handle) (status : Status) (o : Streams.Opened) :
    Reply × Device :=
  let ledger := deletes o.deleted ++ (news (made p o) ++ .acquire (.wrapper wrapper) :: d.ledger)
  let hw := (d.hw.opened o kind).next
  match o.stream with
  | none =>
    (⟨o.status.getD status, some none⟩, { d with hw := hw, ledger := .release (.wrapper wrapper) :: ledger })
  | some stream =>
    (⟨0, some (some wrapper)⟩,
      { hw := hw, wrappers := (wrapper, kind stream) :: d.wrappers, ledger := ledger })

/-- The variable `status` holds the flags until the open stores in it. -/
def adev_open_output_stream (calloc : Option ℕ) (flagBits : Status) (flags : OutputFlags) (out : ℕ)
    (lStatus : Status) : Reply × Device :=
  match calloc with
  | none => (⟨-ENOMEM, none⟩, d)
  | some wrapper =>
    d.finishOpen wrapper out .out flagBits (d.hw.reg.openOutputStream flags out lStatus)

def adev_open_input_stream (calloc : Option ℕ) (r : Registry.InputRequest) (found : Found)
    (inp : ℕ) (lStatus : Status) (stored : Bool) (status : Status) : Reply × Device :=
  match calloc with
  | none => (⟨-ENOMEM, none⟩, d)
  | some wrapper =>
    d.finishOpen wrapper inp .inp status (d.hw.reg.openInputStream found r inp lStatus stored)

/-- `adev_close_output_stream` and `adev_close_input_stream`, of a structure with this pointer. -/
def adev_close_stream (wrapper : ℕ) (found : Found) (h : Handle) : Device :=
  let e := Streams.effect d.hw (.close found h)
  { hw := e.next
    wrappers := d.wrappers.erase (wrapper, h)
    ledger := .release (.wrapper wrapper) :: (deletes e.deleted ++ d.ledger) }

/-- The block is not in use. -/
def Unused (b : Block) : Prop := ∀ l ∈ Leases.held d.ledger, b ∉ l

instance (b : Block) : Decidable (d.Unused b) :=
  inferInstanceAs (Decidable (∀ l ∈ Leases.held d.ledger, b ∉ l))

/-- The addresses that `calloc` and `new` answer are of no block in use. -/
def Allocates (calloc : Option ℕ) (p : ℕ) : Prop :=
  (∀ a ∈ calloc, d.Unused (.wrapper a)) ∧ d.Unused (.stream p)

instance (calloc : Option ℕ) (p : ℕ) : Decidable (d.Allocates calloc p) :=
  inferInstanceAs (Decidable (_ ∧ _))

/-- One call that comes back; a client closes what it has opened. -/
def step : Call → Option Device
  | .openOutput calloc flagBits flags out lStatus =>
    if d.Allocates calloc out ∧
        (calloc.isSome → (d.hw.reg.openOutputStream flags out lStatus).returns = true) then
      some (d.adev_open_output_stream calloc flagBits flags out lStatus).2
    else none
  | .openInput calloc devices format sampleRate found inp lStatus stored status =>
    (inputRequest E devices format sampleRate).bind fun r =>
      if d.Allocates calloc inp ∧
          (calloc.isSome → (d.hw.reg.openInputStream found r inp lStatus stored).returns = true) then
        some (d.adev_open_input_stream calloc r found inp lStatus stored status).2
      else none
  | .close wrapper found =>
    (d.wrappers.find? fun w => w.1 = wrapper).bind fun w =>
      if (Streams.effect d.hw (.close found w.2)).returns = true then
        some (d.adev_close_stream w.1 found w.2)
      else none

/-- An LPA output is opened when `mOutputLPA` points to no other stream that is open. -/
def OneLpa : Call → Prop
  | .openOutput (some _) _ flags _ _ =>
      flags.lpa ∧ ¬flags.Direct → ∀ p ∈ d.hw.reg.mOutputLPA, ¬d.hw.OnlyLpa p
  | _ => True

instance : DecidablePred d.OneLpa
  | .openOutput (some _) _ _ _ _ => inferInstanceAs (Decidable (_ → _))
  | .openOutput none _ _ _ _ | .openInput .. | .close .. => .isTrue trivial

/-- What is allocated when the structures hold the streams, each shared stream once. -/
def blocks : List Block :=
  d.wrappers.map (fun w => .wrapper w.1) ++ d.hw.held.dedup.map fun h => .stream h.address

/-- The structures hold the streams, and nothing else is allocated. -/
structure Inv : Prop where
  hw : Streams.Inv d.hw
  wrappers : (d.wrappers.map Prod.snd).Perm d.hw.held
  ledger : Leases.Holds d.ledger d.blocks

/-- No member points to a stream at the address. -/
def Unknown (reg : Registry) (p : ℕ) : Prop :=
  reg.mOutput ≠ some p ∧ reg.mDirectOutput ≠ some p ∧ reg.mOutputLPA ≠ some p ∧
    p ∉ reg.mInputs ∧ p ∉ reg.mVoipInputs

/-- A stream is allocated that no member points to. -/
def Leaked (p : ℕ) : Prop := ∀ l ∈ Leases.held d.ledger, .stream p ∈ l ∧ Unknown d.hw.reg p

variable {E} {d} {d' : Device} {c : Call} {p q : ℕ} {reg : Registry}

/-! ### Streams that are lost -/

theorem Unknown.openOutput (h : Unknown reg q) {out : ℕ} (hne : q ≠ out) (flags : OutputFlags)
    (lStatus : Status) : Unknown (reg.openOutputStream flags out lStatus).reg q ∧
      q ∉ (reg.openOutputStream flags out lStatus).deleted := by
  have ho := Registry.opens flags out lStatus reg
  generalize reg.openOutputStream flags out lStatus = o at ho
  obtain ⟨h1, h2, h3, h4⟩ := h
  have hsome : some out ≠ some q := fun e => hne (Option.some.inj e).symm
  cases ho with
  | fails status deleted returns hd => exact ⟨⟨h1, h2, h3, h4⟩, fun hm => hne (hd q hm)⟩
  | direct status hd => exact ⟨⟨h1, hsome, h3, h4⟩, by simp⟩
  | again direct hd => exact ⟨⟨h1, h2, h3, h4⟩, by simp⟩
  | lpa status hd => exact ⟨⟨h1, h2, hsome, h4⟩, by simp⟩
  | lpaFails status hd => exact ⟨⟨h1, h2, by simp, h4⟩, by simpa using hne⟩
  | pcm status hd => exact ⟨⟨hsome, h2, h3, h4⟩, by simp⟩

theorem Unknown.openInput (h : Unknown reg q) {inp : ℕ} (hne : q ≠ inp) (found : Found)
    (r : Registry.InputRequest) (lStatus : Status) (stored : Bool) :
    Unknown (reg.openInputStream found r inp lStatus stored).reg q ∧
      q ∉ (reg.openInputStream found r inp lStatus stored).deleted := by
  obtain ⟨h1, h2, h3, h4, h5⟩ := h
  obtain ⟨status, deleted, returns, e, hd⟩ | ⟨status, e⟩ | ⟨status, e, -⟩ :=
    Registry.openInputStream_cases found r inp lStatus stored reg
  · rw [e]
    exact ⟨⟨h1, h2, h3, h4, h5⟩, fun hm => hne (hd q hm)⟩
  · rw [e]
    exact ⟨⟨h1, h2, h3, h4, by simp [hne, h5]⟩, by simp⟩
  · rw [e]
    exact ⟨⟨h1, h2, h3, by simp [hne, h4], h5⟩, by simp⟩

/-- A close deletes no stream that nothing points to. -/
theorem Unknown.close (h : Unknown reg q) (found : Found) (handle : Handle) :
    Unknown (handle.close found reg).reg q ∧ q ∉ (handle.close found reg).deleted := by
  obtain ⟨h1, h2, h3, h4, h5⟩ := h
  cases handle with
  | out p =>
    obtain ⟨f1, f2, f3, f4⟩ := Registry.closeOutputStream_frame found (some p) reg q
    change Unknown (reg.closeOutputStream found (some p)).reg q ∧ q ∉ (reg.closeOutputStream found (some p)).deleted
    have hvoip : (reg.closeOutputStream found (some p)).reg.mVoipInputs = reg.mVoipInputs := by
      unfold Registry.closeOutputStream
      dsimp only
      split_ifs <;> rfl
    have hdeleted : q ∉ (reg.closeOutputStream found (some p)).deleted := by
      by_cases hne : q = p
      · subst hne
        rw [Registry.closeOutputStream_refused h1 h2 h3]
        exact List.not_mem_nil
      · unfold Registry.closeOutputStream
        dsimp only
        split_ifs <;> simp [hne]
    exact ⟨⟨fun e => h1 (f1 e), fun e => h2 (f2 e), fun e => h3 (f3 e), f4 ▸ h4, hvoip ▸ h5⟩, hdeleted⟩
  | inp p =>
    change Unknown (reg.closeInputStream found p).reg q ∧ q ∉ (reg.closeInputStream found p).deleted
    obtain ⟨i, hi, e⟩ | ⟨-, i, hi, e⟩ | ⟨-, -, e⟩ := Registry.closeInputStream_cases found p reg
    · rw [e]
      have hne : q ≠ p := fun e => h4 (e ▸ SortedVector.mem_of_get? hi)
      exact ⟨⟨h1, h2, h3, fun hm => h4 ((SortedVector.mem_removeAt hi).1 hm).1, h5⟩, by simpa using hne⟩
    · rw [e]
      have hne : q ≠ p := fun e => h5 (e ▸ SortedVector.mem_of_get? hi)
      exact ⟨⟨h1, h2, h3, h4, fun hm => h5 ((SortedVector.mem_removeAt hi).1 hm).1⟩, by simpa using hne⟩
    · rw [e]
      exact ⟨⟨h1, h2, h3, h4, h5⟩, by simp⟩

theorem release_notMem_deletes {ps : List ℕ} (h : p ∉ ps) : .release (.stream p) ∉ deletes ps := by
  simpa [deletes] using h

theorem release_notMem_news (ps : List ℕ) (b : Block) : .release b ∉ news ps := by simp [news]

/-- Both opens leave what the ledger says of a stream that they do not delete. -/
theorem finishOpen_eq (d : Device) (wrapper p : ℕ) (kind : ℕ → Handle) (status : Status)
    (o : Streams.Opened) : (d.finishOpen wrapper p kind status o).2.hw = (d.hw.opened o kind).next ∧
      ∃ us, (d.finishOpen wrapper p kind status o).2.ledger = us ++ d.ledger ∧
        ∀ q, q ∉ o.deleted → .release (.stream q) ∉ us := by
  have hus : ∀ q, q ∉ o.deleted →
      .release (.stream q) ∉ deletes o.deleted ++ (news (made p o) ++ [.acquire (.wrapper wrapper)]) := by
    intro q hq
    simp [release_notMem_deletes hq, release_notMem_news]
  unfold finishOpen
  dsimp only
  split
  · refine ⟨rfl, .release (.wrapper wrapper) ::
      (deletes o.deleted ++ (news (made p o) ++ [.acquire (.wrapper wrapper)])), by simp, fun q hq => ?_⟩
    simpa using hus q hq
  · exact ⟨rfl, deletes o.deleted ++ (news (made p o) ++ [.acquire (.wrapper wrapper)]), by simp, hus⟩

theorem Leaked.of_ledger (h : d.Leaked p) {us : List (Use Block)} (hledger : d'.ledger = us ++ d.ledger)
    (hnew : ∀ l, Leases.held d.ledger = some l → .stream p ∈ l → Unknown d.hw.reg p →
      .release (.stream p) ∉ us ∧ Unknown d'.hw.reg p) : d'.Leaked p := by
  intro l hl
  rw [hledger, Option.mem_def] at hl
  obtain ⟨l', hl'⟩ := Leases.exists_held_of_append hl
  obtain ⟨hmem, hunknown⟩ := h l' hl'
  obtain ⟨hnot, hunknown'⟩ := hnew l' hl' hmem hunknown
  exact ⟨Leases.mem_held_append hl' hmem hnot hl, hunknown'⟩

/-- What a call can do: an open fails for lack of memory, or is finished; a stream that is open is
closed. -/
theorem step_cases (h : d.step E c = some d') :
    d' = d ∨
    (∃ a flagBits flags out lStatus, c = .openOutput (some a) flagBits flags out lStatus ∧
      d.Unused (.wrapper a) ∧ d.Unused (.stream out) ∧
      d' = (d.finishOpen a out .out flagBits (d.hw.reg.openOutputStream flags out lStatus)).2) ∨
    (∃ a r found inp lStatus stored status, d.Unused (.wrapper a) ∧ d.Unused (.stream inp) ∧
      d' = (d.finishOpen a inp .inp status (d.hw.reg.openInputStream found r inp lStatus stored)).2) ∨
    ∃ wrapper found handle, (wrapper, handle) ∈ d.wrappers ∧
      d' = d.adev_close_stream wrapper found handle := by
  cases c with
  | openOutput calloc flagBits flags out lStatus =>
    simp only [step] at h
    split at h
    next hfree =>
      obtain rfl := Option.some.inj h
      cases calloc with
      | none => exact .inl rfl
      | some a =>
        exact .inr (.inl ⟨a, flagBits, flags, out, lStatus, rfl, hfree.1.1 a rfl, hfree.1.2, rfl⟩)
    next => cases h
  | openInput calloc devices format sampleRate found inp lStatus stored status =>
    obtain ⟨r, -, h⟩ := Option.bind_eq_some_iff.1 h
    split at h
    next hfree =>
      obtain rfl := Option.some.inj h
      cases calloc with
      | none => exact .inl rfl
      | some a =>
        exact .inr (.inr (.inl ⟨a, r, found, inp, lStatus, stored, status, hfree.1.1 a rfl, hfree.1.2,
          rfl⟩))
    next => cases h
  | close wrapper found =>
    obtain ⟨⟨w, handle⟩, hfind, h⟩ := Option.bind_eq_some_iff.1 h
    split at h
    next =>
      obtain rfl := Option.some.inj h
      exact .inr (.inr (.inr ⟨w, found, handle, List.mem_of_find?_eq_some hfind, rfl⟩))
    next => cases h

theorem Leaked.step (h : d.Leaked p) (hstep : d.step E c = some d') : d'.Leaked p := by
  rcases step_cases hstep with rfl | ⟨a, flagBits, flags, out, lStatus, -, -, hout, rfl⟩ |
    ⟨a, r, found, inp, lStatus, stored, status, -, hinp, rfl⟩ | ⟨wrapper, found, handle, -, rfl⟩
  · exact h
  · obtain ⟨hhw, us, hus, hnot⟩ := finishOpen_eq d a out .out flagBits
      (d.hw.reg.openOutputStream flags out lStatus)
    refine h.of_ledger hus fun l hl hmem hunknown => ?_
    have hne : p ≠ out := fun e => hout l hl (e ▸ hmem)
    have hopen := hunknown.openOutput hne flags lStatus
    rw [hhw]
    exact ⟨hnot p hopen.2, hopen.1⟩
  · obtain ⟨hhw, us, hus, hnot⟩ := finishOpen_eq d a inp .inp status
      (d.hw.reg.openInputStream found r inp lStatus stored)
    refine h.of_ledger hus fun l hl hmem hunknown => ?_
    have hne : p ≠ inp := fun e => hinp l hl (e ▸ hmem)
    have hopen := hunknown.openInput hne found r lStatus stored
    rw [hhw]
    exact ⟨hnot p hopen.2, hopen.1⟩
  · have hus : (d.adev_close_stream wrapper found handle).ledger = .release (.wrapper wrapper) ::
        deletes (Streams.effect d.hw (.close found handle)).deleted ++ d.ledger := rfl
    refine h.of_ledger hus fun l _ _ hunknown => ?_
    have hclose := hunknown.close found handle
    refine ⟨fun hm => ?_, hclose.1⟩
    rcases List.mem_cons.1 hm with e | hm
    · cases e
    · exact release_notMem_deletes hclose.2 hm

/-! ### Streams that are held -/

/-- What an open gives: nothing, and a new object is deleted again; the new object; or a stream that is
held already. -/
inductive Gives (held : List Handle) (kind : ℕ → Handle) (p : ℕ) (o : Streams.Opened) : Prop where
  | nothing (hs : o.stream = none) (hd : o.deleted = [] ∨ o.deleted = [p])
  | new (hs : o.stream = some p) (hd : o.deleted = [])
  | again (q : ℕ) (hq : kind q ∈ held) (hs : o.stream = some q) (hd : o.deleted = [])

theorem gives_openOutput (h : Streams.Inv d.hw) (flags : OutputFlags) (out : ℕ) (lStatus : Status) :
    Gives d.hw.held .out out (d.hw.reg.openOutputStream flags out lStatus) := by
  unfold Registry.openOutputStream
  split
  · exact .nothing rfl (.inl rfl)
  next hone =>
    split
    next hdirect =>
      split
      · split
        · exact .new rfl rfl
        · exact .nothing rfl (.inr rfl)
      next direct hd => exact .again direct (Streams.mem_of_direct h.toOutputs hd) rfl rfl
    next hdirect =>
      split
      next hlpa =>
        split
        · exact .new rfl rfl
        · exact .nothing rfl (.inr rfl)
      next hlpa =>
        have hnone : d.hw.reg.mOutput = none := by simpa [hdirect, hlpa] using hone
        split
        · exact .new rfl rfl
        · exact .nothing hnone (.inr rfl)

theorem gives_openInput (d : Device) (found : Found) (r : Registry.InputRequest) (inp : ℕ)
    (lStatus : Status) (stored : Bool) :
    Gives d.hw.held .inp inp (d.hw.reg.openInputStream found r inp lStatus stored) := by
  unfold Registry.openInputStream
  split
  · exact .nothing rfl (.inl rfl)
  · split
    · split
      · exact .nothing rfl (.inr rfl)
      · exact .new rfl rfl
    · split
      · exact .nothing rfl (.inl rfl)
      · dsimp only
        split
        · exact .nothing rfl (.inr rfl)
        · split
          · exact .nothing rfl (.inr rfl)
          · exact .new rfl rfl

/-- An address of no block in use is that of no stream that is held. -/
theorem Inv.free (h : d.Inv) (hp : d.Unused (.stream p)) {handle : Handle} (hh : handle.address = p) :
    handle ∉ d.hw.held := by
  intro hmem
  obtain ⟨l, hl, hperm⟩ := h.ledger
  refine hp l hl (hperm.mem_iff.2 (List.mem_append_right _ ?_))
  exact List.mem_map.2 ⟨handle, List.mem_dedup.2 hmem, by rw [hh]⟩

theorem Inv.finishOpen (h : d.Inv) {kind : ℕ → Handle} {o : Streams.Opened} (hkind : (kind p).address = p)
    (hp : d.Unused (.stream p)) (hgives : Gives d.hw.held kind p o)
    (hinv : Streams.Inv (d.hw.opened o kind).next) (a : ℕ) (status : Status) :
    (d.finishOpen a p kind status o).2.Inv := by
  have hnot := h.free hp hkind
  unfold Device.finishOpen made
  cases hgives with
  | nothing hs hd =>
    dsimp only
    have hheld : (d.hw.opened o kind).next.held = d.hw.held := by
      rw [Streams.State.opened, hs]
      rfl
    split
    next hs' =>
      refine ⟨hinv, hheld ▸ h.wrappers, ?_⟩
      change Leases.Holds _ (d.wrappers.map _ ++ (d.hw.opened o kind).next.held.dedup.map _)
      rw [hheld]
      rcases hd with hd | hd
      · rw [hd, hs]
        exact (h.ledger.acquire _).release
      · rw [hd, if_pos (.inr (List.mem_singleton_self p))]
        exact ((h.ledger.acquire _).acquire _).release.release
    next stream hs' =>
      rw [hs] at hs'
      cases hs'
  | new hs hd =>
    have hheld : (d.hw.opened o kind).next.held = kind p :: d.hw.held := by
      rw [Streams.State.opened, hs]
      rfl
    dsimp only
    split
    next hs' =>
      rw [hs] at hs'
      cases hs'
    next stream hs' =>
      obtain rfl : p = stream := Option.some.inj (hs.symm.trans hs')
      refine ⟨hinv, hheld ▸ h.wrappers.cons _, ?_⟩
      change Leases.Holds _ (Block.wrapper a :: d.wrappers.map _ ++ (d.hw.opened o kind).next.held.dedup.map _)
      rw [hheld, hd, if_pos (.inl hs), List.dedup_cons_of_notMem hnot, List.map_cons, hkind]
      refine ((h.ledger.acquire (.wrapper a)).acquire (.stream p)).perm ?_
      exact (List.perm_middle : (_ ++ Block.stream p :: d.hw.held.dedup.map _).Perm
        (_ :: (Block.wrapper a :: d.wrappers.map _ ++ _))).symm
  | again q hq hs hd =>
    have hheld : (d.hw.opened o kind).next.held = kind q :: d.hw.held := by
      rw [Streams.State.opened, hs]
      rfl
    have hne : ¬(o.stream = some p ∨ p ∈ o.deleted) := by
      rintro (e | hm)
      · obtain rfl : q = p := Option.some.inj (hs.symm.trans e)
        exact hnot hq
      · rw [hd] at hm
        cases hm
    dsimp only
    split
    next hs' =>
      rw [hs] at hs'
      cases hs'
    next stream hs' =>
      obtain rfl : q = stream := Option.some.inj (hs.symm.trans hs')
      refine ⟨hinv, hheld ▸ h.wrappers.cons _, ?_⟩
      change Leases.Holds _ (Block.wrapper a :: d.wrappers.map _ ++ (d.hw.opened o kind).next.held.dedup.map _)
      rw [hheld, if_neg hne, hd, List.dedup_cons_of_mem hq]
      exact h.ledger.acquire (.wrapper a)

/-- The handles without one that is closed: a stream goes with its last handle. -/
theorem dedup_erase {held : List Handle} {handle : Handle} (hmem : handle ∈ held) :
    held.dedup.Perm ((if held.count handle = 1 then [handle] else []) ++ (held.erase handle).dedup) := by
  have hperm := (List.perm_cons_erase hmem).dedup
  have hcount := List.count_erase_self (a := handle) (l := held)
  have hpos := List.count_pos_iff.2 hmem
  split
  next hone =>
    have hnot : handle ∉ held.erase handle := List.count_eq_zero.1 (by omega)
    rwa [List.dedup_cons_of_notMem hnot] at hperm
  next hmany =>
    have hin : handle ∈ held.erase handle := List.count_pos_iff.1 (by omega)
    rwa [List.dedup_cons_of_mem hin] at hperm

theorem Inv.close (h : d.Inv) {wrapper : ℕ} {handle : Handle} (hmem : (wrapper, handle) ∈ d.wrappers)
    (found : Found) : (d.adev_close_stream wrapper found handle).Inv := by
  have hheld : handle ∈ d.hw.held := h.wrappers.mem_iff.1 (List.mem_map_of_mem (f := Prod.snd) hmem)
  have hknows : Streams.KnowsLpa d.hw (.close found handle) := by
    cases handle with
    | out p => exact .inl hheld
    | inp p => trivial
  have hallocates : Streams.Allocates d.hw (.close found handle) := trivial
  obtain ⟨hgood, hinv⟩ := Streams.destroys_inv h.hw hallocates hknows
  have hperm := List.perm_cons_erase hmem
  refine ⟨hinv, ?_, ?_⟩
  · have hwrappers := (hperm.map Prod.snd).symm.trans (h.wrappers.trans (List.perm_cons_erase hheld))
    exact hwrappers.cons_inv
  · -- the stream goes if this was its last handle, then the structure
    change Leases.Holds (.release (.wrapper wrapper) ::
      (deletes (Streams.effect d.hw (.close found handle)).deleted ++ d.ledger)) ((d.wrappers.erase (wrapper, handle)).map _ ++ (d.hw.held.erase handle).dedup.map _)
    rw [hgood.2]
    have hblocks := (hperm.map fun w => Block.wrapper w.1).append
      ((dedup_erase hheld).map fun h => Block.stream h.address)
    have hledger := h.ledger.perm hblocks
    split
    next hone =>
      rw [if_pos hone] at hledger
      exact (hledger.perm List.perm_middle).release.release
    next hmany =>
      rw [if_neg hmany] at hledger
      exact hledger.release

theorem inv_start (junk : Option ℕ) : Inv { hw := Streams.init junk } where
  hw := Streams.inv_init junk
  wrappers := .nil
  ledger := Leases.holds_nil

theorem Inv.step (h : d.Inv) (hlpa : d.OneLpa c) (hstep : d.step E c = some d') : d'.Inv := by
  rcases step_cases hstep with rfl | ⟨a, flagBits, flags, out, lStatus, rfl, -, hout, rfl⟩ |
    ⟨a, r, found, inp, lStatus, stored, status, -, hinp, rfl⟩ | ⟨wrapper, found, handle, hmem, rfl⟩
  · exact h
  · exact h.finishOpen rfl hout (gives_openOutput h.hw flags out lStatus)
      (Streams.inv_openOutput h.hw ⟨h.free hout rfl, h.free hout rfl⟩ hlpa) a flagBits
  · exact h.finishOpen rfl hinp (gives_openInput d found r inp lStatus stored)
      (Streams.inv_openInput h.hw ⟨h.free hinp rfl, h.free hinp rfl⟩) a status
  · exact h.close hmem found

/-- With the invariant no stream is leaked. -/
theorem Inv.not_leaked (h : d.Inv) (p : ℕ) : ¬d.Leaked p := by
  intro hleak
  obtain ⟨l, hl, hperm⟩ := h.ledger
  obtain ⟨hmem, h1, h2, h3, h4, h5⟩ := hleak l hl
  have hblock : .stream p ∈ d.blocks := hperm.mem_iff.1 hmem
  have hheld : ∃ handle ∈ d.hw.held, handle.address = p := by
    simpa [blocks] using hblock
  obtain ⟨handle, hhandle, rfl⟩ := hheld
  cases handle with
  | out p => exact h3 (h.hw.lpa p ⟨hhandle, h1, h2⟩).1
  | inp p => exact ((h.hw.input p).1 hhandle).elim h4 h5

/-- An LPA output that is opened in place of another leaks that one. -/
theorem leaked_of_not_oneLpa (h : d.Inv) (hlpa : ¬d.OneLpa c) (hstep : d.step E c = some d') :
    ∃ p, d'.Leaked p := by
  cases c with
  | openOutput calloc flagBits flags out lStatus =>
    cases calloc with
    | none => exact absurd trivial hlpa
    | some a =>
      simp only [OneLpa, not_forall, not_not] at hlpa
      obtain ⟨⟨hflag, hdirect⟩, p, hp, honly⟩ := hlpa
      have hfree : d.Unused (.stream out) ∧
          d' = (d.finishOpen a out .out flagBits (d.hw.reg.openOutputStream flags out lStatus)).2 := by
        simp only [step] at hstep
        split at hstep
        next hfree => exact ⟨hfree.1.2, (Option.some.inj hstep).symm⟩
        next => cases hstep
      obtain ⟨hout, rfl⟩ := hfree
      have hne : p ≠ out := by
        rintro rfl
        exact h.free hout (rfl : (Handle.out p).address = p) honly.1
      refine ⟨p, fun l hl => ?_⟩
      obtain ⟨hhw, us, hus, hnot⟩ := finishOpen_eq d a out .out flagBits
        (d.hw.reg.openOutputStream flags out lStatus)
      obtain ⟨l', hl', hperm⟩ := h.ledger
      have hmem : .stream p ∈ l' := hperm.mem_iff.2
        (List.mem_append_right _ (List.mem_map.2 ⟨.out p, List.mem_dedup.2 honly.1, rfl⟩))
      have hinput : p ∉ d.hw.reg.mInputs ∧ p ∉ d.hw.reg.mVoipInputs := by
        rw [← not_or, ← h.hw.input p]
        exact fun hin => h.hw.sides p hin honly.1
      have hopen : Unknown (d.hw.reg.openOutputStream flags out lStatus).reg p ∧
          p ∉ (d.hw.reg.openOutputStream flags out lStatus).deleted := by
        unfold Registry.openOutputStream
        rw [if_neg (by simp [hflag]), if_neg hdirect, if_pos hflag]
        split
        · refine ⟨⟨honly.2.1, honly.2.2, ?_, hinput⟩, List.not_mem_nil⟩
          exact fun e => hne (Option.some.inj e).symm
        · exact ⟨⟨honly.2.1, honly.2.2, by simp, hinput⟩, by simpa using hne⟩
      rw [hhw]
      rw [hus] at hl
      exact ⟨Leases.mem_held_append hl' hmem (hnot p hopen.2) hl, hopen.1⟩
  | openInput | close => exact absurd trivial hlpa

/-- A microphone, and the table for it. -/
def plainDevices : InputDevices where
  table := threeDevices
  isInputDevice devices := devices = 0x10000
  DEVICE_IN_COMMUNICATION := 0x20000

/-- The direct output is opened twice, two LPA outputs one after the other, an input, and one whose
device is unknown. -/
def aClient : List Call :=
  [.openOutput (some 1) 0 {} 1 noError, .openOutput (some 2) 0 Streams.direct 2 noError,
    .openOutput (some 3) 0 Streams.lpa 3 noError, .openOutput (some 4) 0 Streams.direct 4 noError,
    .close 3 {}, .openOutput (some 3) 0 Streams.lpa 3 noError,
    .openInput (some 5) 0x80000004 .pcm16Bit 8000 {} 5 noError true 0,
    .openInput (some 6) 0x80000008 .pcm16Bit 8000 {} 6 noError true 0,
    .close 2 {}, .close 4 {}, .close 5 {}, .close 1 {}, .close 3 {}]

/-- An output that is not opened has an error stored. -/
theorem status_openOutput {flags : OutputFlags} {out : ℕ} {lStatus : Status}
    (h : (reg.openOutputStream flags out lStatus).stream = none) :
    ∃ status, (reg.openOutputStream flags out lStatus).status = some status ∧ status ≠ 0 := by
  unfold Registry.openOutputStream at h ⊢
  split
  next => exact ⟨_, rfl, by decide⟩
  next hone =>
    rw [if_neg hone] at h
    split
    next hdirect =>
      rw [if_pos hdirect] at h
      split
      next hnone =>
        rw [hnone] at h
        dsimp only at h
        split
        next hok =>
          rw [if_pos hok] at h
          cases h
        next herr => exact ⟨_, rfl, herr⟩
      next direct hd =>
        rw [hd] at h
        cases h
    next hdirect =>
      rw [if_neg hdirect] at h
      split
      next hlpa =>
        rw [if_pos hlpa] at h
        split
        next hok =>
          rw [if_pos hok] at h
          cases h
        next herr => exact ⟨_, rfl, herr⟩
      next hlpa =>
        rw [if_neg hlpa] at h
        split
        next hok =>
          rw [if_pos hok] at h
          cases h
        next herr => exact ⟨_, rfl, herr⟩

/-- An input that is not opened has an error stored, if the devices are one input device. -/
theorem status_openInput {found : Found} {r : Registry.InputRequest} {inp : ℕ} {lStatus : Status}
    {stored : Bool} (h : (reg.openInputStream found r inp lStatus stored).stream = none) :
    (r.isInputDevice = false ∧ (reg.openInputStream found r inp lStatus stored).status = none) ∨
      r.isInputDevice = true ∧
        ∃ status, (reg.openInputStream found r inp lStatus stored).status = some status ∧ status ≠ 0 := by
  unfold Registry.openInputStream at h ⊢
  split
  next hdevice => exact .inl ⟨hdevice, rfl⟩
  next hdevice =>
    refine .inr ⟨by simpa using hdevice, ?_⟩
    rw [if_neg hdevice] at h
    split
    next hvoip =>
      rw [if_pos hvoip] at h
      split
      next herr => exact ⟨_, rfl, herr⟩
      next hok =>
        rw [if_neg hok] at h
        cases h
    next hvoip =>
      rw [if_neg hvoip] at h
      split
      next => exact ⟨_, rfl, by decide⟩
      next hfast =>
        rw [if_neg hfast] at h
        dsimp only at h ⊢
        split
        next => exact ⟨_, rfl, by decide⟩
        next hfirst =>
          rw [if_neg hfirst] at h
          split
          next herr => exact ⟨_, rfl, herr⟩
          next hok =>
            rw [if_neg hok] at h
            cases h

theorem honest_finishOpen (d : Device) (wrapper p : ℕ) (kind : ℕ → Handle) (status : Status)
    (o : Streams.Opened) : (d.finishOpen wrapper p kind status o).1.Honest ↔
      (o.stream = none → o.status.getD status ≠ 0) := by
  unfold finishOpen Reply.Honest
  dsimp only
  split
  next hnone => simp [hnone]
  next stream hsome => simp [hsome]

/-- **What the client is told.** The return value of an open says whether it has stored a stream,
unless an input is opened with devices that are no input device and the variable `status`, which is
returned as it was found, is 0.  (An open that deletes a refused stream may not get as far as telling
the client.) -/
theorem contract_iff (d : Device) (calloc : Option ℕ) (flagBits : Status) (flags : OutputFlags)
    (found : Found) (r : Registry.InputRequest) (p : ℕ) (lStatus : Status) (stored : Bool)
    (status : Status) :
    (d.adev_open_output_stream calloc flagBits flags p lStatus).1.Honest ∧
      ((d.adev_open_input_stream calloc r found p lStatus stored status).1.Honest ↔
        ¬(calloc.isSome ∧ r.isInputDevice = false ∧ status = 0)) := by
  cases calloc with
  | none =>
    have hmemory : Reply.Honest ⟨-ENOMEM, none⟩ := by simp [Reply.Honest, ENOMEM]
    exact ⟨hmemory, iff_of_true hmemory (by simp)⟩
  | some wrapper =>
    constructor
    · refine (honest_finishOpen ..).2 fun hnone => ?_
      obtain ⟨stored, hs, hne⟩ := status_openOutput hnone
      rw [hs]
      exact hne
    · refine (honest_finishOpen ..).trans ?_
      constructor
      · rintro h ⟨-, hdevice, hstatus⟩
        have hrefused : d.hw.reg.openInputStream found r p lStatus stored =
            ⟨none, none, d.hw.reg, [], true⟩ := by
          unfold Registry.openInputStream
          exact if_pos hdevice
        rw [hrefused] at h
        exact h rfl hstatus
      · intro h hnone
        rcases status_openInput hnone with ⟨hdevice, hs⟩ | ⟨-, stored, hs, hne⟩
        · rw [hs]
          exact fun hstatus => h ⟨rfl, hdevice, hstatus⟩
        · rw [hs]
          exact hne

end Device

end Msm7x27a.Hal
